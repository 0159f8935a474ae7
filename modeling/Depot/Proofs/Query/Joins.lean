import Depot.Proofs.Query.Lists
import Mathlib.Data.List.DropRight

/-!
# Joined lists of values

The items that a list of values is cut into are in a normal form, and items in that form come back
when they are joined by commas and the text is cut again.

* `IsItem`: the form of an item.

Results:
* `IsPiece.trim`: taking the blanks off the ends of a piece leaves a piece.
* `splitTopLevel_intercalate`: items joined by commas are cut into the same items.
* `splitTopLevel_inverts_intercalate`: this, and what every other text is cut into.
-/

namespace Depot

/-- The form of an item of a list: it is not empty, has no blank at either end, and closes its
    parentheses, and its commas stand inside them. -/
structure IsItem (cs : List Char) : Prop where
  ne_nil : cs ≠ []
  trim_eq : Text.trim cs = cs
  isPiece : IsPiece 0 cs

/-! ## Blanks at the ends of a piece -/

theorem level_append (cs ds : List Char) : level (cs ++ ds) = level cs + level ds := by
  rw [level, List.count_append, List.count_append, level, level]
  omega

theorem level_blank {c : Char} (hc : Text.isBlank c = true) : level [c] = 0 := by
  have hopen : c ≠ '(' := fun h => absurd (h ▸ hc) (by decide)
  have hclose : c ≠ ')' := fun h => absurd (h ▸ hc) (by decide)
  rw [level_singleton, if_neg hopen, if_neg hclose]

theorem IsPiece.dropWhile_isBlank {depth : Int} {cs : List Char} (h : IsPiece depth cs) :
    IsPiece depth (cs.dropWhile Text.isBlank) := by
  induction cs with
  | nil => exact h
  | cons c cs ih =>
    by_cases hc : Text.isBlank c = true
    · rw [List.dropWhile_cons_of_pos hc]
      have hrest := (isPiece_cons.1 h).2.2
      rw [level_blank hc, Int.add_zero] at hrest
      exact ih hrest
    · rwa [List.dropWhile_cons_of_neg hc]

theorem IsPiece.of_concat {depth : Int} {cs : List Char} {c : Char} (hc : Text.isBlank c = true)
    (h : IsPiece depth (cs ++ [c])) : IsPiece depth cs := by
  obtain ⟨⟨hparts, htotal⟩, hcommas⟩ := h
  rw [level_append, level_blank hc, Int.add_zero] at htotal
  have hlonger {p : List Char} (hp : p <+: cs) : p <+: cs ++ [c] :=
    hp.trans (List.prefix_append cs [c])
  exact ⟨⟨fun p hp => hparts p (hlonger hp), htotal⟩, fun p hp => hcommas p (hlonger hp)⟩

theorem IsPiece.rdropWhile_isBlank {depth : Int} {cs : List Char} (h : IsPiece depth cs) :
    IsPiece depth (cs.rdropWhile Text.isBlank) := by
  induction cs using List.reverseRecOn with
  | nil => exact h
  | append_singleton cs c ih =>
    rw [List.rdropWhile_concat]
    by_cases hc : Text.isBlank c = true
    · rw [if_pos hc]
      exact ih (h.of_concat hc)
    · rwa [if_neg hc]

/-- Taking the blanks off the ends of a piece leaves a piece. -/
theorem IsPiece.trim {depth : Int} {cs : List Char} (h : IsPiece depth cs) :
    IsPiece depth (Text.trim cs) :=
  h.dropWhile_isBlank.rdropWhile_isBlank

/-- A list that begins with no element to drop still does so when its end is taken off. -/
theorem Text.dropWhile_rdropWhile {α : Type} {p : α → Bool} {l : List α} (h : l.dropWhile p = l) :
    (l.rdropWhile p).dropWhile p = l.rdropWhile p := by
  have hfront := List.rdropWhile_prefix p l
  cases hl : l.rdropWhile p with
  | nil => rfl
  | cons a k =>
    rw [hl] at hfront
    obtain ⟨rest, rfl⟩ := hfront
    rw [List.cons_append, List.dropWhile_cons] at h
    apply List.dropWhile_cons_of_neg
    -- To drop the first element would make the whole list shorter.
    intro ha
    rw [if_pos ha] at h
    have hlength : ((k ++ rest).dropWhile p).length ≤ (k ++ rest).length :=
      (List.dropWhile_suffix p).length_le
    rw [h, List.length_cons] at hlength
    omega

theorem Text.trim_trim (cs : List Char) : trim (trim cs) = trim cs := by
  have hstart : (cs.dropWhile isBlank).dropWhile isBlank = cs.dropWhile isBlank :=
    List.dropWhile_idempotent isBlank cs
  calc trim (trim cs)
      = (((cs.dropWhile isBlank).rdropWhile isBlank).dropWhile isBlank).rdropWhile isBlank := rfl
    _ = ((cs.dropWhile isBlank).rdropWhile isBlank).rdropWhile isBlank := by
      rw [dropWhile_rdropWhile hstart]
    _ = (cs.dropWhile isBlank).rdropWhile isBlank := List.rdropWhile_idempotent isBlank _
    _ = trim cs := rfl

/-! ## Cutting what was joined -/

theorem intercalate_comma_cons (item : List Char) (items : List (List Char)) :
    [','].intercalate (item :: items) = item ++ items.flatMap (',' :: ·) := by
  induction items generalizing item with
  | nil => rw [List.intercalate_singleton, List.flatMap_nil, List.append_nil]
  | cons next items ih =>
    rw [List.intercalate_cons_cons, ih, List.flatMap_cons, List.append_assoc]
    rfl

/-- Nothing is dropped from items: each is in its form already. -/
theorem map_trim_filter_items {items : List (List Char)} (h : ∀ item ∈ items, IsItem item) :
    (items.map Text.trim).filter (!·.isEmpty) = items := by
  have htrim : items.map Text.trim = items := calc
    items.map Text.trim = items.map id :=
      List.map_congr_left fun item hitem => (h item hitem).trim_eq
    _ = items := List.map_id items
  rw [htrim, List.filter_eq_self]
  intro item hitem
  rw [Bool.not_eq_true', List.isEmpty_eq_false_iff]
  exact (h item hitem).ne_nil

/-- Items joined by commas are cut into the same items. -/
theorem splitTopLevel_intercalate {items : List (List Char)} (h : ∀ item ∈ items, IsItem item) :
    splitTopLevel ([','].intercalate items) = some items := by
  cases items with
  | nil => rfl
  | cons item items =>
    rw [splitTopLevel_eq_some_iff, intercalate_comma_cons]
    exact ⟨item, items, rfl, fun q hq => (h q hq).isPiece, (map_trim_filter_items h).symm⟩

/-- What a text is cut into are items. -/
theorem isItem_of_mem_splitTopLevel {args : List Char} {items : List (List Char)}
    (h : splitTopLevel args = some items) : ∀ item ∈ items, IsItem item := by
  obtain ⟨p, ps, -, hpieces, rfl⟩ := splitTopLevel_eq_some_iff.1 h
  intro item hitem
  obtain ⟨hmem, hne⟩ := List.mem_filter.1 hitem
  obtain ⟨q, hq, rfl⟩ := List.mem_map.1 hmem
  rw [Bool.not_eq_true', List.isEmpty_eq_false_iff] at hne
  exact ⟨hne, Text.trim_trim q, (hpieces q hq).trim⟩

theorem splitTopLevel_eq_none_iff {args : List Char} :
    splitTopLevel args = none ↔ ¬Balanced args := by
  rw [← exists_splitTopLevel_iff, ← Option.isSome_iff_exists, Option.not_isSome_iff_eq_none]

/-- Cutting a list undoes joining it: items joined by commas are cut into the same items. Every text
    whose parentheses balance is cut into items, and no other text is cut at all. -/
theorem splitTopLevel_inverts_intercalate :
    (∀ items : List (List Char), (∀ item ∈ items, IsItem item) →
      splitTopLevel ([','].intercalate items) = some items) ∧
    ∀ args : List Char,
      (splitTopLevel args = none ↔ ¬Balanced args) ∧
      ∀ items, splitTopLevel args = some items → ∀ item ∈ items, IsItem item :=
  ⟨fun _ => splitTopLevel_intercalate,
    fun _ => ⟨splitTopLevel_eq_none_iff, fun _ => isItem_of_mem_splitTopLevel⟩⟩

theorem splitTopLevel_inverts_intercalate_call :
    IsItem ['(', 'a', ',', 'b', ')'] ∧ IsItem ['7'] ∧
      splitTopLevel ([','].intercalate [['(', 'a', ',', 'b', ')'], ['7']]) =
        some [['(', 'a', ',', 'b', ')'], ['7']] := by
  have hcall : IsItem ['(', 'a', ',', 'b', ')'] :=
    ⟨by decide, by decide, by simp [isPiece_cons, isPiece_nil, level_singleton]⟩
  have hseven : IsItem ['7'] :=
    ⟨by decide, by decide, by simp [isPiece_cons, isPiece_nil, level_singleton]⟩
  refine ⟨hcall, hseven, splitTopLevel_inverts_intercalate.1 _ ?_⟩
  exact List.forall_mem_cons.2 ⟨hcall, List.forall_mem_singleton.2 hseven⟩

end Depot
