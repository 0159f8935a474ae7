import Depot.Text.Blank

/-!
# Texts cut in pieces

What the cuts of a text say about its characters: the parts joined again are the text, and the cut
is at the first place that there is, or at every place.

Results:
* `cutAt_eq_some_iff`: a text is cut at the first separator.
* `after?_eq_some_iff`, `before?_eq_some_iff`: a text without a word at its start, and without its
  last character.
* `takeWhile_eq_of_stops`, `dropWhile_eq_of_stops`, `exists_takeWhile_append`: the longest run at
  the start of a text.
* `dropEnds_eq_self_of_ends`: a text from whose ends nothing is dropped.
* `splitOn_eq`: the pieces of a text between separators.
-/

namespace Depot.Text

/-- A text is cut at the first separator. -/
theorem cutAt_eq_some_iff {sep : Char} {cs a b : List Char} :
    cutAt sep cs = some (a, b) ↔ cs = a ++ sep :: b ∧ sep ∉ a := by
  induction cs generalizing a with
  | nil =>
    refine iff_of_false nofun ?_
    rintro ⟨h, -⟩
    exact List.append_ne_nil_of_right_ne_nil a (List.cons_ne_nil sep b) h.symm
  | cons c cs ih =>
    rw [cutAt]
    by_cases hc : c = sep
    · rw [if_pos hc, Option.some.injEq, Prod.mk.injEq, hc]
      constructor
      · rintro ⟨rfl, rfl⟩
        exact ⟨rfl, List.not_mem_nil⟩
      · rintro ⟨h, hmem⟩
        cases a with
        | nil => exact ⟨rfl, (List.cons.inj h).2⟩
        | cons x a => exact absurd ((List.cons.inj h).1 ▸ List.mem_cons_self) hmem
    · rw [if_neg hc, Option.map_eq_some_iff]
      constructor
      · rintro ⟨⟨a', b'⟩, hcut, h⟩
        obtain ⟨rfl, rfl⟩ := Prod.mk.inj h
        obtain ⟨rfl, hmem⟩ := ih.1 hcut
        exact ⟨rfl, List.not_mem_cons_of_ne_of_not_mem (Ne.symm hc) hmem⟩
      · rintro ⟨h, hmem⟩
        cases a with
        | nil => exact absurd (List.cons.inj h).1 hc
        | cons x a =>
          obtain ⟨rfl, rfl⟩ := List.cons.inj h
          exact ⟨(a, b), ih.2 ⟨rfl, fun hin => hmem (List.mem_cons_of_mem _ hin)⟩, rfl⟩

theorem after?_eq_some_iff {word cs rest : List Char} :
    after? word cs = some rest ↔ cs = word ++ rest := by
  induction word generalizing cs with
  | nil => rw [after?, Option.some.injEq, List.nil_append]
  | cons w word ih =>
    cases cs with
    | nil => exact iff_of_false nofun nofun
    | cons c cs =>
      rw [after?, List.cons_append, List.cons.injEq]
      by_cases hc : c = w
      · rw [if_pos hc, ih, and_iff_right hc]
      · rw [if_neg hc]
        exact iff_of_false nofun fun h => hc h.1

theorem before?_eq_some_iff {last : Char} {cs a : List Char} :
    before? last cs = some a ↔ cs = a ++ [last] := by
  rw [before?]
  cases hcs : cs.reverse with
  | nil =>
    rw [List.reverse_eq_nil_iff.1 hcs]
    refine iff_of_false nofun fun h => ?_
    exact List.append_ne_nil_of_right_ne_nil a (List.cons_ne_nil _ _) h.symm
  | cons c rest =>
    have hcs : cs = rest.reverse ++ [c] := by
      rw [← List.reverse_reverse cs, hcs, List.reverse_cons]
    dsimp only
    rw [hcs]
    by_cases hc : c = last
    · rw [if_pos hc, Option.some.injEq, hc]
      exact List.append_left_inj [last] |>.symm
    · rw [if_neg hc]
      refine iff_of_false nofun fun h => hc ?_
      exact List.singleton_inj.1 (List.append_inj_right' h rfl)

/-- The longest run at the start of a text ends where a character is of another kind. -/
theorem takeWhile_eq_of_stops {p : Char → Bool} {a b : List Char} (ha : ∀ c ∈ a, p c = true)
    (hb : ∀ c, b.head? = some c → p c = false) : (a ++ b).takeWhile p = a := by
  have hnone : b.takeWhile p = [] := by
    cases b with
    | nil => rfl
    | cons c b =>
      refine List.takeWhile_cons_of_neg ?_
      rw [hb c rfl]
      exact Bool.false_ne_true
  rw [List.takeWhile_append_of_pos ha, hnone, List.append_nil]

/-- Nothing is dropped from a list that does not begin with an element to drop. -/
theorem dropWhile_eq_self_of_stops {α : Type} {p : α → Bool} {l : List α}
    (h : ∀ a, l.head? = some a → p a = false) : l.dropWhile p = l := by
  cases l with
  | nil => rfl
  | cons a l =>
    apply List.dropWhile_cons_of_neg
    rw [h a rfl]
    exact Bool.false_ne_true

theorem dropWhile_eq_of_stops {α : Type} {p : α → Bool} {a b : List α}
    (ha : ∀ c ∈ a, p c = true) (hb : ∀ c, b.head? = some c → p c = false) :
    (a ++ b).dropWhile p = b := by
  rw [List.dropWhile_append_of_pos ha, dropWhile_eq_self_of_stops hb]

/-- What is behind the first part of a text. -/
theorem drop_length_of_append {a b cs : List Char} (h : cs = a ++ b) : cs.drop a.length = b := by
  rw [h, List.drop_left]

theorem exists_takeWhile_append (p : Char → Bool) (cs : List Char) :
    ∃ rest, cs = cs.takeWhile p ++ rest ∧ ∀ c, rest.head? = some c → p c = false := by
  refine ⟨cs.dropWhile p, List.takeWhile_append_dropWhile.symm, ?_⟩
  intro c hc
  have hnot := List.head?_dropWhile_not p cs
  rw [hc] at hnot
  exact hnot

theorem mem_of_mem_dropEnds {α : Type} {p : α → Bool} {l : List α} {a : α}
    (h : a ∈ dropEnds p l) : a ∈ l := by
  have hback := (List.dropWhile_sublist p).subset (List.mem_reverse.1 h)
  exact (List.dropWhile_sublist p).subset (List.mem_reverse.1 hback)

/-- Nothing is dropped from a list that neither begins nor ends with an element to drop. -/
theorem dropEnds_eq_self_of_ends {α : Type} {p : α → Bool} {l : List α}
    (hfirst : ∀ a, l.head? = some a → p a = false)
    (hlast : ∀ a, l.getLast? = some a → p a = false) : dropEnds p l = l := by
  have hback : ∀ a, l.reverse.head? = some a → p a = false := by rwa [List.head?_reverse]
  rw [dropEnds, dropWhile_eq_self_of_stops hfirst, dropWhile_eq_self_of_stops hback,
    List.reverse_reverse]

theorem dropEnds_eq_self {α : Type} {p : α → Bool} {l : List α} (h : ∀ a ∈ l, p a = false) :
    dropEnds p l = l :=
  dropEnds_eq_self_of_ends (fun a ha => h a (List.mem_of_head? ha))
    fun a ha => h a (List.mem_of_getLast? ha)

/-- The pieces of a text are those of any list that is split at an element. -/
theorem splitOn_eq (sep : Char) (cs : List Char) : splitOn sep cs = cs.splitOn sep := by
  induction cs with
  | nil => rfl
  | cons c cs ih =>
    rw [splitOn, List.splitOn_cons_eq_if_modifyHead, ih]
    by_cases hc : c = sep
    · simp [hc]
    · cases hpieces : cs.splitOn sep with
      | nil => exact absurd hpieces (List.splitOn_ne_nil sep cs)
      | cons piece pieces => simp [hc]

end Depot.Text
