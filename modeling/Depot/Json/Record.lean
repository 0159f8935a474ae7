import Depot.Json.Basic

/-!
# Records

A record is a JSON object: a list of fields in increasing order of their keys, each key once.
`put` keeps a list in that order, and all other operations that build such lists go through it or
leave fields out. `Fields` are the same lists with values of any type.

* `field?`: the value of a key.
* `put`: sets a field; `without`: takes one out; `overlay`: sets the fields of another list.
* `ofList`: the fields of a list in which a later field replaces an earlier one.

Results:
* `field?_put`: what a list of fields holds after a field was set.
* `field?_overlay`: an overlay gives precedence to the fields laid over.
* `sorted_put`: setting a field keeps the keys in order.
-/

namespace Depot

/-- Values by key, in increasing order of the keys. -/
abbrev Fields (α : Type) := List (String × α)

/-- A JSON object. -/
abbrev Record := Fields Json

namespace Fields

variable {α : Type}

/-- The value of the first field with a key. -/
def field? (r : Fields α) (key : String) : Option α :=
  match r with
  | [] => none
  | (k, v) :: rest => if k = key then some v else field? rest key

/-- Whether there is a field of that key. -/
def has (r : Fields α) (key : String) : Bool := (r.field? key).isSome

/-- Sets a field. -/
def put (r : Fields α) (key : String) (value : α) : Fields α :=
  match r with
  | [] => [(key, value)]
  | (k, v) :: rest =>
    if k = key then (key, value) :: rest
    else if key < k then (key, value) :: (k, v) :: rest
    else (k, v) :: put rest key value

/-- Takes a field out. -/
def without (r : Fields α) (key : String) : Fields α := r.filter fun f => f.1 != key

/-- Sets every field of `patch`, in order. -/
def overlay (r patch : Fields α) : Fields α := patch.foldl (fun r f => put r f.1 f.2) r

/-- The fields of a list; of several with one key the last one stays. -/
def ofList (fields : List (String × α)) : Fields α := overlay [] fields

/-- The fields whose keys satisfy a predicate. -/
def restrict (r : Fields α) (p : String → Bool) : Fields α := r.filter fun f => p f.1

/-- The keys, in order. -/
def keys (r : Fields α) : List String := r.map (·.1)

/-- The keys increase. -/
def Sorted (r : Fields α) : Prop := r.Pairwise fun f g => f.1 < g.1

/-! ## What a record holds -/

@[simp] theorem field?_nil (key : String) : field? ([] : Fields α) key = none := rfl

theorem field?_cons (f : String × α) (r : Fields α) (key : String) :
    field? (f :: r) key = if f.1 = key then some f.2 else r.field? key := rfl

theorem field?_put (r : Fields α) (key k : String) (v : α) :
    (r.put key v).field? k = if key = k then some v else r.field? k := by
  induction r with
  | nil => simp [put, field?]
  | cons f r ih =>
    obtain ⟨l, w⟩ := f
    simp only [put]
    split
    · rename_i h
      subst h
      simp only [field?_cons]
      split <;> rfl
    · split
      · simp only [field?_cons]
      · simp only [field?_cons, ih]
        split
        · rename_i h h' hk
          subst hk
          split
          · rename_i e; exact absurd e.symm h
          · rfl
        · rfl

theorem field?_append (a b : Fields α) (k : String) :
    field? (a ++ b) k = (field? a k).or (field? b k) := by
  induction a with
  | nil => rfl
  | cons f a ih =>
    rw [List.cons_append, field?_cons, field?_cons, ih]
    split <;> rfl

theorem field?_overlay (r patch : Fields α) (k : String) :
    (r.overlay patch).field? k = (field? patch.reverse k).or (r.field? k) := by
  induction patch generalizing r with
  | nil => rfl
  | cons f patch ih =>
    have h : r.overlay (f :: patch) = (r.put f.1 f.2).overlay patch := rfl
    rw [h, ih, field?_put, List.reverse_cons, field?_append, field?_cons]
    cases field? patch.reverse k with
    | none => simp only [Option.none_or]; split <;> rfl
    | some v => rfl

theorem field?_without (r : Fields α) (key k : String) :
    (r.without key).field? k = if key = k then none else r.field? k := by
  induction r with
  | nil => simp [without]
  | cons f r ih =>
    obtain ⟨l, w⟩ := f
    simp only [without, List.filter_cons] at ih ⊢
    by_cases hl : l = key
    · subst hl
      simp only [bne_self_eq_false, Bool.false_eq_true, if_false, ih, field?_cons]
      split <;> rfl
    · have : (l != key) = true := by simpa using hl
      simp only [this, if_true, field?_cons, ih]
      split
      · rename_i h
        subst h
        split
        · rename_i e; exact absurd e.symm hl
        · rfl
      · rfl

theorem field?_restrict (r : Fields α) (p : String → Bool) (k : String) :
    (r.restrict p).field? k = if p k then r.field? k else none := by
  induction r with
  | nil => simp [restrict]
  | cons f r ih =>
    obtain ⟨l, w⟩ := f
    simp only [restrict, List.filter_cons] at ih ⊢
    by_cases hl : l = k
    · subst hl
      cases hp : p l <;> simp_all [field?_cons]
    · cases p l <;> simp [field?_cons, hl, ih]

/-! ## Order of the keys -/

theorem mem_put {r : Fields α} {key : String} {v : α} {f : String × α}
    (h : f ∈ r.put key v) : f = (key, v) ∨ f ∈ r := by
  induction r with
  | nil => simpa [put] using h
  | cons g r ih =>
    simp only [put] at h
    split at h
    · rcases List.mem_cons.1 h with h | h
      · exact .inl h
      · exact .inr (List.mem_cons_of_mem _ h)
    · split at h
      · rcases List.mem_cons.1 h with h | h
        · exact .inl h
        · exact .inr h
      · rcases List.mem_cons.1 h with h | h
        · exact .inr (h ▸ List.mem_cons_self)
        · exact (ih h).imp id (List.mem_cons_of_mem _)

theorem sorted_put {r : Fields α} (h : r.Sorted) (key : String) (v : α) :
    (r.put key v).Sorted := by
  induction r with
  | nil => simp [put, Sorted]
  | cons g r ih =>
    obtain ⟨k, w⟩ := g
    have hg := List.pairwise_cons.1 h
    simp only [put]
    split
    · rename_i e
      exact List.pairwise_cons.2 ⟨fun f hf => e ▸ hg.1 f hf, hg.2⟩
    · split
      · rename_i hlt
        refine List.pairwise_cons.2 ⟨fun f hf => ?_, h⟩
        rcases List.mem_cons.1 hf with rfl | hf
        · exact hlt
        · exact String.lt_trans hlt (hg.1 f hf)
      · rename_i hne hnlt
        refine List.pairwise_cons.2 ⟨fun f hf => ?_, ih hg.2⟩
        rcases mem_put hf with rfl | hf
        · exact Decidable.byContradiction fun hn =>
            hne (String.le_antisymm (String.not_lt.1 hnlt) (String.not_lt.1 hn))
        · exact hg.1 f hf

theorem sorted_overlay {r : Fields α} (h : r.Sorted) (patch : Fields α) :
    (r.overlay patch).Sorted := by
  induction patch generalizing r with
  | nil => exact h
  | cons f patch ih => exact ih (sorted_put h f.1 f.2)

theorem sorted_ofList (fields : List (String × α)) : (ofList fields).Sorted :=
  sorted_overlay List.Pairwise.nil fields

theorem sorted_without {r : Fields α} (h : r.Sorted) (key : String) : (r.without key).Sorted :=
  h.filter _

theorem sorted_restrict {r : Fields α} (h : r.Sorted) (p : String → Bool) :
    (r.restrict p).Sorted :=
  h.filter _

end Fields

namespace Record

/-- The value of a field, null if it is missing. -/
def get (r : Record) (key : String) : Json := (r.field? key).getD .null

theorem get_put (r : Record) (key k : String) (v : Json) :
    get (r.put key v) k = if key = k then v else r.get k := by
  simp only [get, Fields.field?_put]
  split <;> rfl

end Record

end Depot
