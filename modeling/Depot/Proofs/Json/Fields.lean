import Depot.Json.Record

/-!
# Records as maps

Fields in increasing order of their keys are determined by what they hold, so that two ways of
building a record are compared key by key.

Results:
* `ext_of_sorted`: two records that hold the same are the same.
* `field?_overlay_of_sorted`: what an overlay holds if the fields laid over have each key once.
* `restrict_put`, `restrict_overlay`: leaving fields out before or after setting others.
-/

namespace Depot

namespace Fields

variable {α : Type} {r s : Fields α}

/-! ## Lookup -/

theorem field?_eq_none_iff {k : String} : r.field? k = none ↔ ∀ f ∈ r, f.1 ≠ k := by
  induction r with
  | nil => simp
  | cons f r ih =>
    rw [field?_cons]
    by_cases hk : f.1 = k
    · simp [hk]
    · simp [hk, ih]

theorem field?_eq_none_of_lt {k : String} (h : ∀ f ∈ r, k < f.1) : r.field? k = none := by
  rw [field?_eq_none_iff]
  rintro f hf rfl
  exact String.lt_irrefl _ (h f hf)

theorem mem_of_field? {k : String} {v : α} (h : r.field? k = some v) : (k, v) ∈ r := by
  induction r with
  | nil => cases h
  | cons f r ih =>
    rw [field?_cons] at h
    by_cases hk : f.1 = k
    · rw [if_pos hk, Option.some.injEq] at h
      rw [← hk, ← h]
      exact List.mem_cons_self
    · rw [if_neg hk] at h
      exact List.mem_cons_of_mem _ (ih h)

theorem Sorted.field?_of_mem (h : r.Sorted) {k : String} {v : α} (hm : (k, v) ∈ r) :
    r.field? k = some v := by
  induction r with
  | nil => cases hm
  | cons f r ih =>
    obtain ⟨hf, hr⟩ := List.pairwise_cons.1 h
    rw [field?_cons]
    rcases List.mem_cons.1 hm with hm | hm
    · rw [← hm, if_pos rfl]
    · have hne : f.1 ≠ k := by
        intro e
        have hlt := hf _ hm
        rw [e] at hlt
        exact String.lt_irrefl k hlt
      rw [if_neg hne]
      exact ih hr hm

/-- With each key once, the last field of a key is the first one. -/
theorem Sorted.field?_reverse (h : r.Sorted) (k : String) : field? r.reverse k = r.field? k := by
  induction r with
  | nil => rfl
  | cons f r ih =>
    obtain ⟨hf, hr⟩ := List.pairwise_cons.1 h
    rw [List.reverse_cons, field?_append, ih hr, field?_cons, field?_cons]
    by_cases hk : f.1 = k
    · have hnone : field? r k = none := field?_eq_none_of_lt fun g hg => hk ▸ hf g hg
      rw [hnone, if_pos hk, if_pos hk]
      rfl
    · rw [if_neg hk, if_neg hk]
      exact Option.or_none

theorem field?_overlay_of_sorted (r : Fields α) (h : s.Sorted) (k : String) :
    (r.overlay s).field? k = (s.field? k).or (r.field? k) := by
  rw [field?_overlay, h.field?_reverse]

theorem field?_overlay_of_none (r : Fields α) {k : String} (h : s.field? k = none) :
    (r.overlay s).field? k = r.field? k := by
  have hreverse : field? s.reverse k = none := by
    rw [field?_eq_none_iff] at h ⊢
    intro f hf
    exact h f (List.mem_reverse.1 hf)
  rw [field?_overlay, hreverse]
  rfl

/-- The fields laid over are there, each key once. -/
theorem mem_overlay_of_mem (r : Fields α) (h : s.Sorted) {k : String} {v : α} (hm : (k, v) ∈ s) :
    (k, v) ∈ r.overlay s := by
  apply mem_of_field?
  rw [field?_overlay_of_sorted r h, h.field?_of_mem hm]
  rfl

theorem mem_overlay {f : String × α} (h : f ∈ r.overlay s) : f ∈ s ∨ f ∈ r := by
  induction s generalizing r with
  | nil => exact .inr h
  | cons g s ih =>
    rcases ih (r := r.put g.1 g.2) h with h | h
    · exact .inl (List.mem_cons_of_mem _ h)
    · rcases mem_put h with rfl | h
      · exact .inl List.mem_cons_self
      · exact .inr h

/-! ## Extensionality -/

theorem Sorted.mem_iff (h : r.Sorted) {k : String} {v : α} : (k, v) ∈ r ↔ r.field? k = some v :=
  ⟨h.field?_of_mem, mem_of_field?⟩

theorem Sorted.nodup (h : r.Sorted) : r.Nodup := by
  refine List.nodup_iff_pairwise_ne.2 (h.imp ?_)
  rintro f g hlt rfl
  exact String.lt_irrefl _ hlt

/-- Records in order are the same if they hold the same: they have the same fields, and these stand
    in one order only. -/
theorem ext_of_sorted (hr : r.Sorted) (hs : s.Sorted) (h : ∀ k, r.field? k = s.field? k) :
    r = s := by
  have hmem (f : String × α) : f ∈ r ↔ f ∈ s := by rw [hr.mem_iff, h, hs.mem_iff]
  have hperm : r.Perm s := (List.perm_ext_iff_of_nodup hr.nodup hs.nodup).2 hmem
  refine hperm.eq_of_pairwise (fun f g _ _ hfg hgf => ?_) hr hs
  exact absurd (String.lt_trans hfg hgf) (String.lt_irrefl _)

/-- Fields whose values go by their keys are laid over nothing without a loss. -/
theorem mem_overlay_map_iff {ks : List String} {f : String → α} {k : String} {v : α} :
    (k, v) ∈ overlay [] (ks.map fun k => (k, f k)) ↔ k ∈ ks ∧ v = f k := by
  rw [(sorted_overlay List.Pairwise.nil _).mem_iff, field?_overlay, field?_nil, Option.or_none]
  have hvalue {v : α} (h : field? (ks.map fun k => (k, f k)).reverse k = some v) :
      k ∈ ks ∧ v = f k := by
    obtain ⟨l, hl, hpair⟩ := List.mem_map.1 (List.mem_reverse.1 (mem_of_field? h))
    cases hpair
    exact ⟨hl, rfl⟩
  refine ⟨hvalue, ?_⟩
  rintro ⟨hk, rfl⟩
  cases hfound : field? (ks.map fun k => (k, f k)).reverse k with
  | none =>
    rw [field?_eq_none_iff] at hfound
    exact absurd rfl (hfound (k, f k) (List.mem_reverse.2 (List.mem_map_of_mem hk)))
  | some v => rw [(hvalue hfound).2]

/-- The order of records of known fields is that of their keys, which can be computed. -/
theorem sorted_iff_keys : r.Sorted ↔ r.keys.Pairwise (· < ·) := List.pairwise_map.symm

/-! ## Leaving fields out -/

theorem restrict_put (h : r.Sorted) (p : String → Bool) (k : String) (v : α) :
    (r.put k v).restrict p = if p k then (r.restrict p).put k v else r.restrict p := by
  have hsorted := sorted_restrict (sorted_put h k v) p
  cases hp : p k with
  | true =>
    rw [if_pos rfl]
    refine ext_of_sorted hsorted (sorted_put (sorted_restrict h p) k v) fun l => ?_
    rw [field?_put, field?_restrict, field?_restrict, field?_put]
    by_cases hkl : k = l
    · subst hkl
      rw [if_pos hp, if_pos rfl, if_pos rfl]
    · rw [if_neg hkl, if_neg hkl]
  | false =>
    rw [if_neg Bool.false_ne_true]
    refine ext_of_sorted hsorted (sorted_restrict h p) fun l => ?_
    rw [field?_restrict, field?_restrict, field?_put]
    by_cases hkl : k = l
    · subst hkl
      rw [hp]
      rfl
    · rw [if_neg hkl]

theorem restrict_overlay (h : r.Sorted) (p : String → Bool) (s : Fields α) :
    (r.overlay s).restrict p = (r.restrict p).overlay (s.restrict p) := by
  induction s generalizing r with
  | nil => rfl
  | cons f s ih =>
    show ((r.put f.1 f.2).overlay s).restrict p = (r.restrict p).overlay (restrict (f :: s) p)
    rw [ih (sorted_put h f.1 f.2), restrict_put h]
    cases hp : p f.1 with
    | true =>
      have hs : restrict (f :: s) p = f :: restrict s p := List.filter_cons_of_pos hp
      rw [hs]
      rfl
    | false =>
      have hs : restrict (f :: s) p = restrict s p := by
        apply List.filter_cons_of_neg
        rw [hp]
        exact Bool.false_ne_true
      rw [hs]
      rfl

end Fields

namespace Record

theorem get_of_field? {r : Record} {k : String} {v : Json} (h : r.field? k = some v) :
    r.get k = v := by
  rw [get, h]
  rfl

theorem get_overlay_of_field? {r s : Record} (hs : s.Sorted) {k : String} {v : Json}
    (h : s.field? k = some v) : get (r.overlay s) k = v := by
  apply get_of_field?
  rw [Fields.field?_overlay_of_sorted r hs, h]
  rfl

theorem field?_of_notNull {r : Record} {k : String} (h : (r.get k).isNull = false) :
    r.field? k = some (r.get k) := by
  cases hfield : r.field? k with
  | none =>
    rw [get, hfield] at h
    cases h
  | some v => rw [get_of_field? hfield]

end Record

end Depot
