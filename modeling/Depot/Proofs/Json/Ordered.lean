import Depot.Request

/-!
# Values with their fields in order

Records are kept in increasing order of their keys. Every value that is read from a text keeps
this order in all of its objects, whatever the order of the entries in the text, and so do the
bodies of requests.

* `Json.IsOrdered`: every object in a value lists its fields in increasing order of their keys.

Results:
* `isOrdered_of_valueWithin?`: the value of a document.
* `isOrdered_of_bodyOf`: the body that bytes stand for.
-/

namespace Depot

namespace Json

mutual

/-- Whether every object in a value lists its fields in increasing order of their keys. -/
def IsOrdered : Json → Prop
  | .arr items => areOrdered items
  | .obj fields => Fields.Sorted fields ∧ fieldsOrdered fields
  | _ => True

/-- The values of a list are ordered. -/
def areOrdered : List Json → Prop
  | [] => True
  | v :: vs => IsOrdered v ∧ areOrdered vs

/-- The values of fields are ordered. -/
def fieldsOrdered : List (String × Json) → Prop
  | [] => True
  | (_, v) :: fields => IsOrdered v ∧ fieldsOrdered fields

end

/-! ## Parts -/

theorem isOrdered_of_mem_items {items : List Json} (h : areOrdered items) :
    ∀ v ∈ items, v.IsOrdered := by
  induction items with
  | nil =>
    intro v hv
    cases hv
  | cons w items ih =>
    intro v hv
    rcases List.mem_cons.1 hv with rfl | hv
    · exact h.1
    · exact ih h.2 v hv

theorem isOrdered_of_mem_fields {fields : Record} (h : fieldsOrdered fields) {k : String}
    {v : Json} (hv : (k, v) ∈ fields) : v.IsOrdered := by
  induction fields with
  | nil => cases hv
  | cons f fields ih =>
    rcases List.mem_cons.1 hv with rfl | hv
    · exact h.1
    · exact ih h.2 hv

theorem fieldsOrdered_iff {fields : Record} :
    fieldsOrdered fields ↔ ∀ f ∈ fields, f.2.IsOrdered := by
  constructor
  · intro h f hf
    exact isOrdered_of_mem_fields h hf
  · intro h
    induction fields with
    | nil => exact trivial
    | cons f fields ih =>
      exact ⟨h f List.mem_cons_self, ih fun g hg => h g (List.mem_cons_of_mem _ hg)⟩

theorem fieldsOrdered_overlay {r fields : Record} (hr : fieldsOrdered r)
    (h : fieldsOrdered fields) : fieldsOrdered (r.overlay fields) := by
  induction fields generalizing r with
  | nil => exact hr
  | cons f fields ih =>
    refine ih ?_ h.2
    rw [fieldsOrdered_iff] at hr ⊢
    intro g hg
    rcases Fields.mem_put hg with rfl | hg
    · exact h.1
    · exact hr g hg

/-! ## What is read -/

mutual

/-- A value is ordered, since its objects are made field by field. -/
theorem isOrdered_of_valueWithin? : ∀ (depth : Nat) (d : Document) {v : Json},
    d.valueWithin? depth = some v → v.IsOrdered
  | _, .null, _, h => by
    rw [Document.valueWithin?, Option.some.injEq] at h
    exact h ▸ trivial
  | _, .bool _, _, h => by
    rw [Document.valueWithin?, Option.some.injEq] at h
    exact h ▸ trivial
  | _, .num _, _, h => by
    rw [Document.valueWithin?] at h
    obtain ⟨n, -, rfl⟩ := Option.map_eq_some_iff.1 h
    exact trivial
  | _, .str _, _, h => by
    rw [Document.valueWithin?] at h
    obtain ⟨s, -, rfl⟩ := Option.map_eq_some_iff.1 h
    exact trivial
  | 0, .arr _, _, h => by
    rw [Document.valueWithin?] at h
    cases h
  | depth + 1, .arr items, _, h => by
    rw [Document.valueWithin?] at h
    obtain ⟨vs, hvs, rfl⟩ := Option.map_eq_some_iff.1 h
    exact areOrdered_of_itemsWithin? depth items hvs
  | 0, .obj _, _, h => by
    rw [Document.valueWithin?] at h
    cases h
  | depth + 1, .obj entries, _, h => by
    rw [Document.valueWithin?] at h
    obtain ⟨fields, hfields, rfl⟩ := Option.map_eq_some_iff.1 h
    exact ⟨Fields.sorted_ofList fields,
      fieldsOrdered_overlay trivial (fieldsOrdered_of_fieldsWithin? depth entries hfields)⟩

theorem areOrdered_of_itemsWithin? : ∀ (depth : Nat) (ds : List Document) {vs : List Json},
    Document.itemsWithin? depth ds = some vs → areOrdered vs
  | _, [], _, h => by
    rw [Document.itemsWithin?, Option.some.injEq] at h
    exact h ▸ trivial
  | depth, d :: ds, _, h => by
    rw [Document.itemsWithin?] at h
    obtain ⟨v, hv, h⟩ := Option.bind_eq_some_iff.1 h
    obtain ⟨vs, hvs, h⟩ := Option.bind_eq_some_iff.1 h
    cases h
    exact ⟨isOrdered_of_valueWithin? depth d hv, areOrdered_of_itemsWithin? depth ds hvs⟩

theorem fieldsOrdered_of_fieldsWithin? : ∀ (depth : Nat) (ds : List (Option String × Document))
    {fields : List (String × Json)},
    Document.fieldsWithin? depth ds = some fields → fieldsOrdered fields
  | _, [], _, h => by
    rw [Document.fieldsWithin?, Option.some.injEq] at h
    exact h ▸ trivial
  | depth, (k, d) :: ds, _, h => by
    rw [Document.fieldsWithin?] at h
    obtain ⟨key, -, h⟩ := Option.bind_eq_some_iff.1 h
    obtain ⟨v, hv, h⟩ := Option.bind_eq_some_iff.1 h
    obtain ⟨fields, hfields, h⟩ := Option.bind_eq_some_iff.1 h
    cases h
    exact ⟨isOrdered_of_valueWithin? depth d hv,
      fieldsOrdered_of_fieldsWithin? depth ds hfields⟩

end

theorem isOrdered_of_parse? {s : String} {v : Json} (h : parse? s = some v) : v.IsOrdered := by
  obtain ⟨d, -, hd⟩ := Option.bind_eq_some_iff.1 h
  exact isOrdered_of_valueWithin? _ d hd

end Json

/-- The body of a request is ordered, whatever bytes it is read from. -/
theorem Request.isOrdered_of_bodyOf {bytes : List UInt8} {v : Json}
    (h : Request.bodyOf bytes = some v) : v.IsOrdered := by
  rw [bodyOf] at h
  by_cases hblank : bytes.all Text.isAsciiBlank = true
  · rw [if_pos hblank] at h
    cases h
  · rw [if_neg hblank, Option.some.injEq] at h
    cases hparse : (Text.Utf8.decode? bytes).bind Json.parse? with
    | none =>
      rw [hparse] at h
      exact h ▸ trivial
    | some w =>
      rw [hparse] at h
      obtain ⟨s, -, hs⟩ := Option.bind_eq_some_iff.1 hparse
      exact h ▸ Json.isOrdered_of_parse? hs

end Depot
