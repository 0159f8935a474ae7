import Depot.Proofs.Json.Fields
import Depot.Proofs.Program
import Depot.Validation

/-!
# Rules column by column

A record passes rules if each column passes its rule, and whether it does depends on the field of
the column alone. What is checked of an update is the same for the fields that it has: a record that
passes still does after an update exactly if the update is found right by itself.

Results:
* `validate_eq_ok_iff`: a record passes rules if every column passes its own.
* `checkColumn_congr`: the check of a column looks at its field only.
* `validatePartial_eq_ok_iff`: what is checked of an update.
* `checkColumn_of_validatePartial`: a record with a field of a checked update passes its rule.
* `validate_composes`: checking an update is checking what it makes of a record that passes, and the
  order of the rules does not matter.
-/

namespace Depot

open Validation

theorem validate_eq_ok_iff {r : Record} {rules : Fields Rule} :
    validate r rules = .ok () ↔ ∀ x ∈ rules, checkColumn r x.1 x.2 = .ok () := by
  induction rules with
  | nil => exact iff_of_true rfl (fun _ hx => nomatch hx)
  | cons x rest ih =>
    obtain ⟨column, rule⟩ := x
    rw [validate_cons, ih, List.forall_mem_cons]

theorem checkColumn_congr {r s : Record} {column : String} (h : r.field? column = s.field? column)
    (rule : Rule) : checkColumn r column rule = checkColumn s column rule := by
  rw [checkColumn, checkColumn, h]

/-! ## Updates -/

/-- Of an update is checked that each of its fields passes the rule of its column. -/
theorem validatePartial_eq_ok_iff {rules : Fields Rule} {p : Record} :
    validatePartial rules p = .ok () ↔
      ∀ f ∈ p, ∀ rule, rules.field? f.1 = some rule → checkColumn [f] f.1 rule = .ok () := by
  induction p with
  | nil => exact iff_of_true rfl (fun _ hf => nomatch hf)
  | cons f rest ih =>
    obtain ⟨column, v⟩ := f
    have hfirst : (∀ rule, rules.field? column = some rule →
        checkColumn [(column, v)] column rule = .ok ()) ↔
        (whenSome (rules.field? column) fun rule => do
          ensure (!(rule.required == some true && v.isNull)) (.required column)
          checkValue column rule v) = .ok () := by
      cases hrule : rules.field? column with
      | none => exact iff_of_true (fun _ h => nomatch h) rfl
      | some rule => simp [whenSome, checkColumn, Fields.field?_cons]
    rw [List.forall_mem_cons, hfirst, ← ih, validatePartial, bind_eq_ok_iff]
    constructor
    · rintro ⟨⟨⟩, hv, hrest⟩
      exact ⟨hv, hrest⟩
    · rintro ⟨hv, hrest⟩
      exact ⟨(), hv, hrest⟩

/-- A record passes the rule of a column if it has the field of an update that was checked. -/
theorem checkColumn_of_validatePartial {rules : Fields Rule} {fields r : Record} {column : String}
    {v : Json} {rule : Rule} (h : validatePartial rules fields = .ok ())
    (hmem : (column, v) ∈ fields) (hrule : rules.field? column = some rule)
    (hr : r.field? column = some v) : checkColumn r column rule = .ok () := by
  have hsingle : r.field? column = Fields.field? [(column, v)] column := by
    rw [hr, Fields.field?_cons, if_pos rfl]
  rw [checkColumn_congr hsingle]
  exact validatePartial_eq_ok_iff.1 h _ hmem rule hrule

/-- With each column once, a rule is found under its column. -/
theorem field?_of_mem_of_nodup {rules : Fields Rule} (hrules : rules.keys.Nodup)
    {column : String} {rule : Rule} (h : (column, rule) ∈ rules) :
    rules.field? column = some rule := by
  induction rules with
  | nil => cases h
  | cons x rest ih =>
    obtain ⟨hx, hrest⟩ := List.nodup_cons.1 hrules
    rw [Fields.field?_cons]
    rcases List.mem_cons.1 h with rfl | h
    · exact if_pos rfl
    · have hne : x.1 ≠ column := by
        rintro rfl
        exact hx (List.mem_map.2 ⟨_, h, rfl⟩)
      rw [if_neg hne]
      exact ih hrest h

/-- An update of a record that passes the rules leaves one that passes them exactly if the fields of
    the update are found right. -/
theorem validate_overlay_iff {rules : Fields Rule} (hrules : rules.keys.Nodup) {r p : Record}
    (hp : p.Sorted) (h : validate r rules = .ok ()) :
    validate (r.overlay p) rules = .ok () ↔ validatePartial rules p = .ok () := by
  rw [validate_eq_ok_iff]
  constructor
  · intro hall
    rw [validatePartial_eq_ok_iff]
    rintro ⟨column, v⟩ hf rule hrule
    have hfield : Fields.field? [(column, v)] column = (r.overlay p).field? column := by
      rw [Fields.field?_overlay_of_sorted r hp, hp.field?_of_mem hf, Fields.field?_cons, if_pos rfl]
      rfl
    rw [checkColumn_congr hfield]
    exact hall _ (Fields.mem_of_field? hrule)
  · rintro hpartial ⟨column, rule⟩ hx
    -- A column that the update does not have keeps its field, and that has passed.
    cases hfield : p.field? column with
    | none =>
      rw [checkColumn_congr (Fields.field?_overlay_of_none r hfield)]
      exact validate_eq_ok_iff.1 h _ hx
    | some v =>
      refine checkColumn_of_validatePartial hpartial (Fields.mem_of_field? hfield)
        (field?_of_mem_of_nodup hrules hx) ?_
      rw [Fields.field?_overlay_of_sorted r hp, hfield]
      rfl

/-- For rules that have each column once: an update of a record that passes them leaves one that
    passes them exactly if the fields of the update are found right; and a record passes them, in
    whatever order they are visited, exactly if it passes each rule alone. -/
theorem validate_composes {rules : Fields Rule} (hrules : rules.keys.Nodup) (r : Record) :
    (∀ p : Record, p.Sorted → validate r rules = .ok () →
      (validate (r.overlay p) rules = .ok () ↔ validatePartial rules p = .ok ())) ∧
    ∀ visited : Fields Rule, visited.Perm rules →
      (validate r visited = .ok () ↔ ∀ x ∈ rules, validate r [x] = .ok ()) := by
  refine ⟨fun p hp h => validate_overlay_iff hrules hp h, fun visited hperm => ?_⟩
  have halone (x : String × Rule) :
      validate r [x] = .ok () ↔ checkColumn r x.1 x.2 = .ok () := by
    rw [validate_eq_ok_iff, List.forall_mem_singleton]
  simp only [halone, validate_eq_ok_iff, hperm.mem_iff]

/-- Taking away what is required is refused, and the order in which two rules are visited does not
    matter. -/
theorem validate_composes_contact :
    let rules : Fields Rule := [("email", { Rule.none with required := some true }),
      ("name", { Rule.none with minLength := some 2 })]
    let r : Record := [("email", .str "a@b.c"), ("name", .str "ann")]
    let p : Record := [("email", .null)]
    validate r rules = .ok () ∧
      (validate (r.overlay p) rules = .ok () ↔ validatePartial rules p = .ok ()) ∧
      validate (r.overlay p) rules = .error (.required "email") ∧
      (validate r rules.reverse = .ok () ↔ ∀ x ∈ rules, validate r [x] = .ok ()) := by
  intro rules r p
  have hrules : rules.keys.Nodup := by decide
  have hp : p.Sorted := List.pairwise_singleton _ _
  have hr : validate r rules = .ok () := rfl
  have hrefused : validate (r.overlay p) rules = .error (.required "email") := rfl
  obtain ⟨hupdate, horder⟩ := validate_composes hrules r
  exact ⟨hr, hupdate p hp hr, hrefused, horder rules.reverse (List.reverse_perm rules)⟩

end Depot
