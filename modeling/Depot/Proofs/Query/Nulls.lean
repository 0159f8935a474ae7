import Depot.Controller.Operations
import Depot.Proofs.Query.Expressions
import Depot.Proofs.Sql.Readings
import Depot.Proofs.Sql.ValueLists

/-!
# Null in filters

What a filter does with null does not depend on where it is evaluated. Only two raw values ask about
null, `$null` and `$nenull` in any letter case. Of the conditions of raw values the first one alone
is satisfied by null, and these two alone are printed without a bound value. The others hold values,
none of which is null, so that no list of values in a statement is empty.

* `Condition.HasValues`: conditions that hold values, none of which is null.
* `Selection.IsInterpreted`: selections whose conditions are those of raw values.

Results:
* `Filter.parse_eq_isNull_iff`, `Filter.parse_eq_isNotNull_iff`: the raw values that ask about null.
* `interpret_cases`: the condition of a raw value.
* `Sql.params_condition`: the values that a condition binds.
* `Controller.isInterpreted_search`: the conditions of a request are those of raw values.
* `interpret_nulls`: null in every condition of a raw value, in memory and in statements.
-/

namespace Depot

/-- A condition holds values, and null is none of them. -/
structure Condition.HasValues (c : Condition) : Prop where
  ne_nil : c.values ≠ []
  null_notMem : .null ∉ c.values

/-- The conditions of a selection are those of raw values. -/
def Selection.IsInterpreted (s : Selection) : Prop :=
  ∀ entry ∈ s.conditions, ∃ raw, interpret raw = .ok (some entry.2)

/-! ## The raw values that ask about null -/

theorem Spells.isAscii {w : String} {v : List Char} (hw : Text.IsAscii w.toList)
    (h : Spells w v) : Text.IsAscii v := by
  unfold Spells at h
  apply Text.isAscii_of_map_lowerAscii
  rwa [h]

/-- A word without `s` and `k` is written with ASCII characters only: no other letter has a form
    beyond ASCII. -/
theorem Text.isAscii_of_afterWord {word v : List Char}
    (hword : ∀ l ∈ word, l.toNat < 0x80 ∧ l ≠ 's' ∧ l ≠ 'k')
    (h : afterWord word v = some []) : IsAscii v := by
  induction word generalizing v with
  | nil =>
    cases h
    exact fun c hc => absurd hc List.not_mem_nil
  | cons l word ih =>
    obtain ⟨⟨hl, hs, hk⟩, hword⟩ := List.forall_mem_cons.1 hword
    cases v with
    | nil => cases h
    | cons c v =>
      rw [afterWord, Option.ite_none_right_eq_some] at h
      obtain ⟨hform, h⟩ := h
      refine List.forall_mem_cons.2 ⟨?_, ih hword h⟩
      simp only [isFormOf, beq_eq_false_iff_ne.2 hs, beq_eq_false_iff_ne.2 hk, Bool.false_and,
        Bool.or_false, Bool.or_eq_true, Bool.and_eq_true, beq_iff_eq, decide_eq_true_eq] at hform
      obtain rfl | ⟨⟨-, hle⟩, -⟩ := hform
      · exact hl
      · omega

namespace Filter

theorem isAscii_of_isBare {word v : List Char}
    (hword : ∀ l ∈ word, l.toNat < 0x80 ∧ l ≠ 's' ∧ l ≠ 'k') (h : isBare word v = true) :
    Text.IsAscii v := by
  rw [isBare] at h
  split at h
  · rename_i hbind
    obtain ⟨r, hr, hrest⟩ := Option.bind_eq_some_iff.1 hbind
    rw [Text.after?_eq_some_iff.1 hr, Text.IsAscii.append]
    exact ⟨by decide, Text.isAscii_of_afterWord hword hrest⟩
  · cases h

theorem isBare_of_reading?_isNull {v : List Char} (h : reading? v = some .isNull) :
    isBare ['n', 'u', 'l', 'l'] v = true := by
  simp only [reading?, Option.or_eq_some_iff, Option.map_eq_some_iff, reduceCtorEq, and_false,
    exists_false, false_or, or_false, Option.ite_none_right_eq_some] at h
  obtain ⟨-, -, -, -, -, -, ⟨hbare, -⟩ | ⟨-, -, h⟩⟩ := h
  · exact hbare
  · cases h

theorem isBare_of_reading?_isNotNull {v : List Char} (h : reading? v = some .isNotNull) :
    isBare ['n', 'e', 'n', 'u', 'l', 'l'] v = true := by
  simp only [reading?, Option.or_eq_some_iff, Option.map_eq_some_iff, reduceCtorEq, and_false,
    exists_false, false_or, or_false, Option.ite_none_right_eq_some] at h
  obtain ⟨-, -, -, -, -, -, ⟨-, h⟩ | ⟨-, hbare, -⟩⟩ := h
  · cases h
  · exact hbare

/-- What is no literal comes from a reading. -/
theorem parse_eq_ok_iff_reading? {raw : String} {f : Filter} (hf : f ≠ .literal raw) :
    parse raw = .ok f ↔ reading? (Text.trim raw.toList) = some f := by
  rw [parse_eq]
  cases reading? (Text.trim raw.toList) with
  | some g => simp
  | none => cases operator? (Text.trim raw.toList) <;> simp [hf.symm]

theorem parse_eq_isNull_iff {raw : String} :
    parse raw = .ok .isNull ↔ Spells "$null" (Text.trim raw.toList) := by
  rw [parse_eq_ok_iff_reading? (Filter.noConfusion ·)]
  constructor
  · intro h
    have hbare := isBare_of_reading?_isNull h
    exact (isNull_iff (isAscii_of_isBare (by simp) hbare)).1 hbare
  · intro h
    exact (reading?_eq_some_iff (h.isAscii (by decide))).2 (.isNull h)

theorem parse_eq_isNotNull_iff {raw : String} :
    parse raw = .ok .isNotNull ↔ Spells "$nenull" (Text.trim raw.toList) := by
  rw [parse_eq_ok_iff_reading? (Filter.noConfusion ·)]
  constructor
  · intro h
    have hbare := isBare_of_reading?_isNotNull h
    exact (isNotNull_iff (isAscii_of_isBare (by simp) hbare)).1 hbare
  · intro h
    exact (reading?_eq_some_iff (h.isAscii (by decide))).2 (.isNotNull h)

end Filter

/-! ## The conditions of raw values -/

/-- An operand is a text in every case. -/
theorem normalize_eq_ok {v : String} {x : Json} (h : normalize v = .ok x) : ∃ s, x = .str s := by
  rw [normalize] at h
  split at h
  · cases h
    exact ⟨v, rfl⟩
  · split at h
    · cases h
    · split at h
      · cases h
        exact ⟨v, rfl⟩
      · split at h
        · cases h
          exact ⟨_, rfl⟩
        · cases h

theorem normalizeAll_eq_ok {vs : List String} {xs : List Json} (h : normalizeAll vs = .ok xs) :
    xs.length = vs.length ∧ ∀ x ∈ xs, ∃ s, x = .str s := by
  induction vs generalizing xs with
  | nil =>
    cases h
    exact ⟨rfl, fun x hx => absurd hx List.not_mem_nil⟩
  | cons v vs ih =>
    obtain ⟨x, hx, h⟩ := bind_eq_ok_iff.1 h
    obtain ⟨rest, hrest, h⟩ := bind_eq_ok_iff.1 h
    cases h
    obtain ⟨hlength, htexts⟩ := ih hrest
    exact ⟨congrArg Nat.succ hlength, List.forall_mem_cons.2 ⟨normalize_eq_ok hx, htexts⟩⟩

theorem Condition.HasValues.of_texts {c : Condition} (hne : c.values ≠ [])
    (htexts : ∀ x ∈ c.values, ∃ s, x = .str s) : c.HasValues := by
  refine ⟨hne, fun hnull => ?_⟩
  obtain ⟨s, hs⟩ := htexts .null hnull
  cases hs

/-- The condition of an expression that is not about null holds values, none of which is null. -/
theorem Filter.hasValues_of_condition? {f : Filter} {c : Condition}
    (h : f.condition? = .ok (some c)) (hnull : f ≠ .isNull) (hnotNull : f ≠ .isNotNull) :
    c.HasValues := by
  cases f with
  | isNull => exact absurd rfl hnull
  | isNotNull => exact absurd rfl hnotNull
  | numericBetween low high =>
    cases h
    exact ⟨nofun, by simp [Condition.values, Json.nat]⟩
  | like p =>
    cases h
    exact .of_texts nofun (List.forall_mem_singleton.2 ⟨p, rfl⟩)
  | between low high =>
    obtain ⟨x, hx, h⟩ := bind_eq_ok_iff.1 h
    obtain ⟨y, hy, h⟩ := bind_eq_ok_iff.1 h
    cases h
    exact .of_texts nofun (List.forall_mem_cons.2
      ⟨normalize_eq_ok hx, List.forall_mem_singleton.2 (normalize_eq_ok hy)⟩)
  | oneOf items =>
    rw [condition?] at h
    split at h
    · cases h
    · rename_i hitems
      obtain ⟨xs, hxs, h⟩ := bind_eq_ok_iff.1 h
      cases h
      obtain ⟨hlength, htexts⟩ := normalizeAll_eq_ok hxs
      refine .of_texts ?_ htexts
      rintro rfl
      exact hitems (List.isEmpty_iff_length_eq_zero.2 hlength.symm)
  | gt x | lt x | literal x =>
    obtain ⟨y, hy, h⟩ := bind_eq_ok_iff.1 h
    cases h
    exact .of_texts nofun (List.forall_mem_singleton.2 (normalize_eq_ok hy))
  | bool truth =>
    cases h
    exact ⟨nofun, by simp [Condition.values, Json.nat]⟩

/-- What the condition of a raw value is. -/
theorem interpret_cases {raw : String} {c : Condition} (h : interpret raw = .ok (some c)) :
    Spells "$null" (Text.trim raw.toList) ∧ c = .eq .null ∨
    Spells "$nenull" (Text.trim raw.toList) ∧ c = .ne .null ∨
    (¬Spells "$null" (Text.trim raw.toList) ∧ ¬Spells "$nenull" (Text.trim raw.toList)) ∧
      c.HasValues := by
  obtain ⟨f, hparse, hc⟩ := bind_eq_ok_iff.1 h
  rw [← Filter.parse_eq_isNull_iff, ← Filter.parse_eq_isNotNull_iff, hparse, Except.ok.injEq,
    Except.ok.injEq]
  by_cases hnull : f = .isNull
  · rw [hnull] at hc
    cases hc
    exact Or.inl ⟨hnull, rfl⟩
  · by_cases hnotNull : f = .isNotNull
    · rw [hnotNull] at hc
      cases hc
      exact Or.inr (Or.inl ⟨hnotNull, rfl⟩)
    · exact Or.inr (Or.inr ⟨⟨hnull, hnotNull⟩, Filter.hasValues_of_condition? hc hnull hnotNull⟩)

/-! ## In memory -/

theorem Condition.HasValues.isNull_eq_false {c : Condition} (hc : c.HasValues) {v : Json}
    (hv : v ∈ c.values) : v.isNull = false := by
  cases v with
  | null => exact absurd hv hc.null_notMem
  | _ => rfl

/-- Null satisfies no condition that holds values. -/
theorem Condition.HasValues.holds_null {c : Condition} (hc : c.HasValues) :
    c.holds .null = false := by
  cases c with
  | eq v => exact (looseEq_null_left v).trans (hc.isNull_eq_false List.mem_cons_self)
  | ne v | gt v | lt v | range low high | like p => rfl
  | oneOf vs =>
    rw [holds, List.any_eq_false]
    intro v hv
    rw [looseEq_null_left, hc.isNull_eq_false hv]
    exact Bool.false_ne_true

/-! ## In statements -/

namespace Sql

open Statement

variable (e : Entity) (column : String)

/-- The values that a condition binds, if it is not about null, are those that it holds. -/
theorem params_condition {c : Condition} (hc : c.HasValues) :
    (condition e column c).params = c.values := by
  cases c with
  | eq v | ne v =>
    cases v with
    | null => exact absurd List.mem_cons_self hc.null_notMem
    | _ => rfl
  | gt v | lt v | range low high | like p => rfl
  | oneOf vs =>
    have hbound : (vs.map fun v => [bound e column v]).flatMap params = vs := by
      rw [List.flatMap_map]
      exact List.flatMap_singleton' vs
    show params (mainColumn column ++ .word " IN (" ::
      joined ", " (vs.map fun v => [bound e column v]) ++ [.word ")"]) = vs
    rw [params_append, params_append]
    show [] ++ params (joined ", " (vs.map fun v => [bound e column v])) ++ [] = vs
    rw [params_joined, hbound, List.append_nil, List.nil_append]

/-- A condition that binds a value is no test for null. -/
theorem ne_of_hasValues {c : Condition} (hc : c.HasValues) (w : String) :
    condition e column c ≠ mainColumn column ++ [.word w] := by
  intro h
  have hparams := congrArg params h
  rw [params_condition e column hc] at hparams
  exact hc.ne_nil hparams

end Sql

/-! ## Selections -/

theorem Condition.values_ne_nil_of_interpret {raw : String} {c : Condition}
    (h : interpret raw = .ok (some c)) : c.values ≠ [] := by
  obtain ⟨-, rfl⟩ | ⟨-, rfl⟩ | ⟨-, hc⟩ := interpret_cases h
  · exact List.cons_ne_nil _ _
  · exact List.cons_ne_nil _ _
  · exact hc.ne_nil

theorem Selection.IsInterpreted.values_ne_nil {s : Selection} (h : s.IsInterpreted) :
    ∀ entry ∈ s.conditions, entry.2.values ≠ [] := by
  intro entry hentry
  obtain ⟨raw, hraw⟩ := h entry hentry
  exact Condition.values_ne_nil_of_interpret hraw

namespace Controller

theorem exists_interpret_of_searchCondition {c : Controller} {r : Request} {field : String}
    {condition : Condition} (h : c.searchCondition r field = .ok (some condition)) :
    ∃ raw, interpret raw = .ok (some condition) := by
  obtain ⟨given, -, h⟩ := bind_eq_ok_iff.1 h
  cases given with
  | none => cases h
  | some raw =>
    dsimp only at h
    split at h
    · rename_i hraw
      cases h
      exact ⟨_, hraw⟩
    · cases h

theorem isInterpreted_withSearch {c : Controller} {r : Request} {fields : List String}
    {s t : Selection} (hs : s.IsInterpreted) (h : c.withSearch r s fields = .ok t) :
    t.IsInterpreted := by
  induction fields generalizing s with
  | nil =>
    cases h
    exact hs
  | cons field fields ih =>
    obtain ⟨given, hgiven, h⟩ := bind_eq_ok_iff.1 h
    cases given with
    | none => exact ih hs h
    | some condition =>
      have hpush : (s.push field condition).IsInterpreted :=
        List.forall_mem_append.2
          ⟨hs, List.forall_mem_singleton.2 (exists_interpret_of_searchCondition hgiven)⟩
      exact ih hpush h

/-- All conditions that a request for many instances sets are those of raw values. -/
theorem isInterpreted_search {c : Controller} {r : Request} {s : Search}
    (h : c.search r = .ok s) : s.selection.IsInterpreted := by
  obtain ⟨offset, -, h⟩ := bind_eq_ok_iff.1 h
  obtain ⟨limit, -, h⟩ := bind_eq_ok_iff.1 h
  obtain ⟨selection, hselection, h⟩ := bind_eq_ok_iff.1 h
  obtain ⟨sort, -, h⟩ := bind_eq_ok_iff.1 h
  obtain ⟨populate, -, h⟩ := bind_eq_ok_iff.1 h
  cases h
  exact isInterpreted_withSearch (fun entry hentry => absurd hentry List.not_mem_nil) hselection

end Controller

/-! ## Everywhere -/

section

variable {raw : String} {c : Condition} (h : interpret raw = .ok (some c))

include h

theorem holds_null_iff_of_interpret :
    c.holds .null = true ↔ Spells "$null" (Text.trim raw.toList) := by
  obtain ⟨hnull, rfl⟩ | ⟨hnotNull, rfl⟩ | ⟨⟨hnull, -⟩, hc⟩ := interpret_cases h
  · exact iff_of_true rfl hnull
  · refine iff_of_false Bool.false_ne_true fun hnull => ?_
    exact absurd (hnull.symm.trans hnotNull) (by decide)
  · rw [hc.holds_null]
    exact iff_of_false Bool.false_ne_true hnull

theorem condition_isNull_iff_of_interpret (e : Entity) (column : String) :
    Sql.condition e column c = Sql.mainColumn column ++ [.word " IS NULL"] ↔
      Spells "$null" (Text.trim raw.toList) := by
  obtain ⟨hnull, rfl⟩ | ⟨hnotNull, rfl⟩ | ⟨⟨hnull, -⟩, hc⟩ := interpret_cases h
  · exact iff_of_true rfl hnull
  · refine iff_of_false (fun hsame => ?_) fun hnull => ?_
    · exact absurd (List.append_cancel_left hsame) (by decide)
    · exact absurd (hnull.symm.trans hnotNull) (by decide)
  · exact iff_of_false (Sql.ne_of_hasValues e column hc _) hnull

theorem condition_isNotNull_iff_of_interpret (e : Entity) (column : String) :
    Sql.condition e column c = Sql.mainColumn column ++ [.word " IS NOT NULL"] ↔
      Spells "$nenull" (Text.trim raw.toList) := by
  obtain ⟨hnull, rfl⟩ | ⟨hnotNull, rfl⟩ | ⟨⟨-, hnotNull⟩, hc⟩ := interpret_cases h
  · refine iff_of_false (fun hsame => ?_) fun hnotNull => ?_
    · exact absurd (List.append_cancel_left hsame) (by decide)
    · exact absurd (hnull.symm.trans hnotNull) (by decide)
  · exact iff_of_true rfl hnotNull
  · exact iff_of_false (Sql.ne_of_hasValues e column hc _) hnotNull

theorem params_eq_nil_iff_of_interpret (e : Entity) (column : String) :
    (Sql.condition e column c).params = [] ↔
      Spells "$null" (Text.trim raw.toList) ∨ Spells "$nenull" (Text.trim raw.toList) := by
  obtain ⟨hnull, rfl⟩ | ⟨hnotNull, rfl⟩ | ⟨hneither, hc⟩ := interpret_cases h
  · exact iff_of_true rfl (Or.inl hnull)
  · exact iff_of_true rfl (Or.inr hnotNull)
  · rw [Sql.params_condition e column hc]
    exact iff_of_false hc.ne_nil (not_or.2 hneither)

theorem eq_of_null_mem_values_of_interpret (hnull : .null ∈ c.values) :
    c = .eq .null ∨ c = .ne .null := by
  obtain ⟨-, rfl⟩ | ⟨-, rfl⟩ | ⟨-, hc⟩ := interpret_cases h
  · exact Or.inl rfl
  · exact Or.inr rfl
  · exact absurd hnull hc.null_notMem

end

/-- A cell that is null or missing satisfies the condition of a raw value if and only if that is
    `$null` in any letter case, without the blanks at its ends, and this can always be told. The
    condition is printed as a test for null if and only if the raw value is `$null` or `$nenull`,
    and binds a value otherwise. It holds null in these two cases only, and no empty list, so that
    in a statement with such conditions every list of values has a value in it. -/
theorem interpret_nulls :
    (∀ raw c, interpret raw = .ok (some c) →
      (∀ (row : Record) (field : String),
        row.field? field = none ∨ row.field? field = some .null →
          (c.holds (row.get field) = true ↔ Spells "$null" (Text.trim raw.toList)) ∧
          Selection.getsStuck row [(field, c)] = false) ∧
      (∀ (e : Entity) (column : String),
        (Sql.condition e column c = Sql.mainColumn column ++ [.word " IS NULL"] ↔
          Spells "$null" (Text.trim raw.toList)) ∧
        (Sql.condition e column c = Sql.mainColumn column ++ [.word " IS NOT NULL"] ↔
          Spells "$nenull" (Text.trim raw.toList)) ∧
        ((Sql.condition e column c).params = [] ↔
          Spells "$null" (Text.trim raw.toList) ∨ Spells "$nenull" (Text.trim raw.toList))) ∧
      (.null ∈ c.values → c = .eq .null ∨ c = .ne .null) ∧ c ≠ .oneOf []) ∧
    ∀ (e : Entity) (s : Selection), s.IsInterpreted →
      ∀ schema keys limit offset distinct includes,
        (Sql.select schema e s keys limit offset distinct includes).FillsLists ∧
        (Sql.count schema e s distinct).FillsLists := by
  refine ⟨fun raw c h => ⟨fun row field hcell => ?_, fun e column => ⟨?_, ?_, ?_⟩, ?_, ?_⟩, ?_⟩
  · have hnull : row.get field = .null := by
      obtain hcell | hcell := hcell <;> rw [Record.get, hcell] <;> rfl
    refine ⟨hnull ▸ holds_null_iff_of_interpret h, ?_⟩
    simp only [Selection.getsStuck, hnull, Json.isNull, Bool.or_true, if_true, Bool.and_false]
  · exact condition_isNull_iff_of_interpret h e column
  · exact condition_isNotNull_iff_of_interpret h e column
  · exact params_eq_nil_iff_of_interpret h e column
  · exact eq_of_null_mem_values_of_interpret h
  · rintro rfl
    exact Condition.values_ne_nil_of_interpret h rfl
  · intro e s hs schema keys limit offset distinct includes
    exact ⟨Sql.fillsLists_select e schema hs.values_ne_nil keys limit offset distinct includes,
      Sql.fillsLists_count e schema hs.values_ne_nil distinct⟩

namespace Notes

/-- Notes may be left without a text. -/
def entity : Entity :=
  ⟨"note", "public", "note", ["id"],
    [⟨"id", some .int, false, true, "int4"⟩, ⟨"text", none, true, false, "text"⟩], [], []⟩

/-- The notes without a text, except for those with two ids. -/
def selection : Selection :=
  ⟨[], [("text", .eq .null), ("id", .oneOf [.str "1", .str "2"])]⟩

theorem isInterpreted_selection : selection.IsInterpreted :=
  List.forall_mem_cons.2
    ⟨⟨" $NuLL ", rfl⟩, List.forall_mem_singleton.2 ⟨"$in(1,, 2)", rfl⟩⟩

end Notes

open Notes in
theorem interpret_nulls_notes :
    (Condition.eq .null).holds (Record.get [] "text") = true ∧
      (Sql.condition entity "text" (.eq .null)).params = [] ∧
      (Condition.oneOf [.str "1", .str "2"]).holds (Record.get [("id", .null)] "id") = false ∧
      (Sql.select none entity selection [] none 0 false []).FillsLists := by
  obtain ⟨hcells, hprinted, -⟩ := interpret_nulls.1 " $NuLL " (.eq .null) rfl
  obtain ⟨hlisted, -⟩ := interpret_nulls.1 "$in(1,, 2)" (.oneOf [.str "1", .str "2"]) rfl
  have hspells : Spells "$null" (Text.trim " $NuLL ".toList) := by
    rw [Spells]
    decide
  have hother : ¬Spells "$null" (Text.trim "$in(1,, 2)".toList) := by
    rw [Spells]
    decide
  refine ⟨(hcells [] "text" (Or.inl rfl)).1.2 hspells,
    (hprinted entity "text").2.2.2 (Or.inl hspells), ?_,
    (interpret_nulls.2 entity selection isInterpreted_selection none [] none 0 false []).1⟩
  rw [← Bool.not_eq_true, (hlisted [("id", .null)] "id" (Or.inr rfl)).1]
  exact hother

end Depot
