import Depot.Proofs.Program
import Depot.Reconcile
import Mathlib.Data.List.Nodup

/-!
# The parts of a reconciliation

The three parts in terms of the keys. An element is paired with the first stored instance that has
its key, in the order of the elements; elements without such an instance are created; and no two
elements name one instance. If the keys of the stored instances tell them apart, the instances that
are removed are those whose key no element has.

* `Reconciliation.match?`: the stored instance that an element names.
* `Reconciliation.NamesApart`: no two elements name one instance.

Results:
* `assign_eq_ok`: each element is assigned the first position with its key, and none twice.
* `exists_of_namesApart`: elements that name different instances can replace what is stored,
  `exists_reconcile`: and so can elements of different keys.
* `toUpdate_reconcile`, `toCreate_reconcile`, `toRemove_reconcile`: the parts,
  `of_reconcile_nil`, `toCreate_of_reconcile_nil`: where nothing is stored.
* `not_both_match`, `pairwise_toUpdate`: two elements never name one instance.
* `length_toUpdate`: as many instances are updated as an element names.
-/

namespace Depot

namespace Reconciliation

variable {α β κ : Type} [DecidableEq κ] {keys : List (Option κ)} {keyOf : β → Option κ}

/-! ## Positions -/

/-- The position of the first stored instance that has the key of an element. -/
def target? (keys : List (Option κ)) (keyOf : β → Option κ) (p : β) : Option Nat :=
  (keyOf p).bind (position? keys)

theorem target?_eq_some_iff_position {p : β} {i : Nat} :
    target? keys keyOf p = some i ↔ ∃ k, keyOf p = some k ∧ position? keys k = some i :=
  Option.bind_eq_some_iff

theorem assign_cons_of_none {claimed : List Nat} {p : β} {ps : List β}
    (h : target? keys keyOf p = none) :
    assign keys keyOf claimed (p :: ps) = (assign keys keyOf claimed ps).map ((p, none) :: ·) := by
  have hnone : ((keyOf p).bind fun k => (position? keys k).map fun i => (k, i)) = none := by
    rw [target?] at h
    cases hkey : keyOf p with
    | none => rfl
    | some k =>
      rw [hkey, Option.bind_some] at h
      rw [Option.bind_some, h, Option.map_none]
  rw [assign, hnone]

theorem assign_cons_of_some {claimed : List Nat} {p : β} {ps : List β} {k : κ} {i : Nat}
    (hkey : keyOf p = some k) (hpos : position? keys k = some i) :
    assign keys keyOf claimed (p :: ps) =
      if i ∈ claimed then .error k
      else (assign keys keyOf (i :: claimed) ps).map ((p, some i) :: ·) := by
  rw [assign, hkey, Option.bind_some, hpos, Option.map_some]
  dsimp only
  rw [List.contains_eq_mem]
  by_cases hmem : i ∈ claimed
  · rw [if_pos (decide_eq_true hmem), if_pos hmem]
  · rw [if_neg fun h => hmem (of_decide_eq_true h), if_neg hmem]

theorem assign_eq_ok {claimed : List Nat} {ps : List β} {assigned : List (β × Option Nat)}
    (h : assign keys keyOf claimed ps = .ok assigned) :
    assigned = ps.map (fun p => (p, target? keys keyOf p)) ∧
      (ps.filterMap (target? keys keyOf)).Nodup ∧
      ∀ i ∈ ps.filterMap (target? keys keyOf), i ∉ claimed := by
  induction ps generalizing claimed assigned with
  | nil =>
    cases h
    refine ⟨rfl, List.nodup_nil, ?_⟩
    intro i hi
    cases hi
  | cons p ps ih =>
    cases htarget : target? keys keyOf p with
    | none =>
      rw [assign_cons_of_none htarget] at h
      obtain ⟨rest, hrest, rfl⟩ := map_eq_ok_iff.1 h
      obtain ⟨hmap, hnodup, hfresh⟩ := ih hrest
      rw [List.filterMap_cons_none htarget]
      refine ⟨?_, hnodup, hfresh⟩
      rw [List.map_cons, htarget, hmap]
    | some i =>
      obtain ⟨k, hkey, hpos⟩ := target?_eq_some_iff_position.1 htarget
      rw [assign_cons_of_some hkey hpos] at h
      by_cases hclaimed : i ∈ claimed
      · rw [if_pos hclaimed] at h
        cases h
      · rw [if_neg hclaimed] at h
        obtain ⟨rest, hrest, rfl⟩ := map_eq_ok_iff.1 h
        obtain ⟨hmap, hnodup, hfresh⟩ := ih hrest
        rw [List.filterMap_cons_some htarget]
        refine ⟨?_, ?_, ?_⟩
        · rw [List.map_cons, htarget, hmap]
        · refine List.nodup_cons.2 ⟨?_, hnodup⟩
          intro hmem
          exact hfresh i hmem List.mem_cons_self
        · intro j hj hmem
          rcases List.mem_cons.1 hj with rfl | hj
          · exact hclaimed hmem
          · exact hfresh j hj (List.mem_cons_of_mem _ hmem)

/-- Elements that name different instances, none of them claimed before, are assigned to them. -/
theorem exists_assign {claimed : List Nat} {ps : List β}
    (hnodup : (ps.filterMap (target? keys keyOf)).Nodup)
    (hfree : ∀ i ∈ ps.filterMap (target? keys keyOf), i ∉ claimed) :
    ∃ assigned, assign keys keyOf claimed ps = .ok assigned := by
  induction ps generalizing claimed with
  | nil => exact ⟨[], rfl⟩
  | cons p ps ih =>
    cases htarget : target? keys keyOf p with
    | none =>
      rw [List.filterMap_cons_none htarget] at hnodup hfree
      obtain ⟨rest, hrest⟩ := ih hnodup hfree
      refine ⟨(p, none) :: rest, ?_⟩
      rw [assign_cons_of_none htarget, hrest]
      rfl
    | some i =>
      obtain ⟨k, hkey, hpos⟩ := target?_eq_some_iff_position.1 htarget
      rw [List.filterMap_cons_some htarget] at hnodup hfree
      obtain ⟨hi, hrest⟩ := List.nodup_cons.1 hnodup
      have hfree' : ∀ j ∈ ps.filterMap (target? keys keyOf), j ∉ i :: claimed := by
        intro j hj hmem
        rcases List.mem_cons.1 hmem with rfl | hmem
        · exact hi hj
        · exact hfree j (List.mem_cons_of_mem _ hj) hmem
      obtain ⟨rest, hassign⟩ := ih hrest hfree'
      refine ⟨(p, some i) :: rest, ?_⟩
      rw [assign_cons_of_some hkey hpos, if_neg (hfree i List.mem_cons_self), hassign]
      rfl

/-! ## Instances -/

variable {existing : List α} {payload : List β} {storedKey : α → Option κ}
  {payloadKey : β → Option κ}

/-- The first stored instance that has the key of an element. -/
def match? (existing : List α) (storedKey : α → Option κ) (payloadKey : β → Option κ) (p : β) :
    Option α :=
  (payloadKey p).bind fun k => existing.find? fun e => storedKey e == some k

theorem match?_eq_some {p : β} {e : α} (h : match? existing storedKey payloadKey p = some e) :
    e ∈ existing ∧ ∃ k, payloadKey p = some k ∧ storedKey e = some k := by
  obtain ⟨k, hk, hfind⟩ := Option.bind_eq_some_iff.1 h
  have hkey := List.find?_some hfind
  exact ⟨List.mem_of_find?_eq_some hfind, k, hk, beq_iff_eq.1 hkey⟩

theorem match?_eq_none {p : β} (h : match? existing storedKey payloadKey p = none) {k : κ}
    (hk : payloadKey p = some k) : ∀ e ∈ existing, storedKey e ≠ some k := by
  intro e he hkey
  rw [match?, hk, Option.bind_some, List.find?_eq_none] at h
  exact h e he (beq_iff_eq.2 hkey)

theorem target?_bind_getElem? (p : β) :
    (target? (existing.map storedKey) payloadKey p).bind (existing[·]?) =
      match? existing storedKey payloadKey p := by
  rw [target?, match?]
  cases payloadKey p with
  | none => rfl
  | some k =>
    rw [Option.bind_some, Option.bind_some, position?, List.findIdx?_map,
      List.find?_eq_bind_findIdx?_getElem?]
    rfl

theorem isNone_target? (p : β) :
    (target? (existing.map storedKey) payloadKey p).isNone =
      (match? existing storedKey payloadKey p).isNone := by
  rw [← target?_bind_getElem?]
  cases ht : target? (existing.map storedKey) payloadKey p with
  | none => rfl
  | some i =>
    obtain ⟨k, -, hpos⟩ := Option.bind_eq_some_iff.1 ht
    have hlt : i < existing.length := by
      have hi := position?_lt hpos
      rwa [List.length_map] at hi
    rw [Option.bind_some, List.getElem?_eq_getElem hlt]
    rfl

variable {r : Reconciliation α β}

theorem of_reconcile (h : reconcile existing payload storedKey payloadKey = .ok r) :
    ∃ assigned, assign (existing.map storedKey) payloadKey [] payload = .ok assigned ∧
      r = ⟨updates existing assigned, creations assigned, removals existing assigned⟩ := by
  obtain ⟨assigned, hassigned, hr⟩ := bind_eq_ok_iff.1 h
  cases hr
  exact ⟨assigned, hassigned, rfl⟩

/-- No two elements name one instance. -/
def NamesApart (existing : List α) (payload : List β) (storedKey : α → Option κ)
    (payloadKey : β → Option κ) : Prop :=
  payload.Pairwise fun p q => ∀ e ∈ existing, ∀ k, storedKey e = some k →
    ¬(payloadKey p = some k ∧ payloadKey q = some k)

theorem isSome_position?_iff {k : κ} :
    (position? (existing.map storedKey) k).isSome ↔ ∃ e ∈ existing, storedKey e = some k := by
  rw [position?, List.findIdx?_isSome, List.any_map, List.any_eq_true]
  exact exists_congr fun e => and_congr_right fun _ => beq_iff_eq

theorem nodup_positions_iff :
    (payload.filterMap (target? (existing.map storedKey) payloadKey)).Nodup ↔
      NamesApart existing payload storedKey payloadKey := by
  rw [List.Nodup, List.pairwise_filterMap, NamesApart]
  refine List.Pairwise.iff ?_
  intro p q
  constructor
  · rintro hpq e he k hkey ⟨hp, hq⟩
    obtain ⟨i, hi⟩ := Option.isSome_iff_exists.1 (isSome_position?_iff.2 ⟨e, he, hkey⟩)
    exact hpq i (target?_eq_some_iff_position.2 ⟨k, hp, hi⟩) i
      (target?_eq_some_iff_position.2 ⟨k, hq, hi⟩) rfl
  · rintro hpq i hp j hq rfl
    obtain ⟨k, hpk, hk⟩ := target?_eq_some_iff_position.1 hp
    obtain ⟨k', hqk, hk'⟩ := target?_eq_some_iff_position.1 hq
    obtain ⟨hi, hkey, -⟩ := List.findIdx?_eq_some_iff_getElem.1 hk
    obtain ⟨hi', hkey', -⟩ := List.findIdx?_eq_some_iff_getElem.1 hk'
    rw [beq_iff_eq] at hkey hkey'
    obtain ⟨e, he, hek⟩ := isSome_position?_iff.1 (Option.isSome_of_eq_some hk)
    exact hpq e he k hek ⟨hpk, hqk.trans (hkey'.symm.trans hkey)⟩

/-- Elements that name different instances can replace the stored ones. -/
theorem exists_of_namesApart (h : NamesApart existing payload storedKey payloadKey) :
    ∃ r, reconcile existing payload storedKey payloadKey = .ok r := by
  obtain ⟨assigned, hassigned⟩ :=
    exists_assign (nodup_positions_iff.2 h) fun i _ => List.not_mem_nil
  exact ⟨_, bind_eq_ok_iff.2 ⟨assigned, hassigned, rfl⟩⟩

/-- Elements of different keys can replace any stored instances. -/
theorem exists_reconcile (existing : List α) (storedKey : α → Option κ)
    (h : payload.Pairwise fun p q => payloadKey p ≠ payloadKey q) :
    ∃ r, reconcile existing payload storedKey payloadKey = .ok r := by
  refine exists_of_namesApart (h.imp ?_)
  rintro p q hne e - k - ⟨hp, hq⟩
  exact hne (hp.trans hq.symm)

theorem toUpdate_reconcile (h : reconcile existing payload storedKey payloadKey = .ok r) :
    r.toUpdate = payload.filterMap fun p =>
      (match? existing storedKey payloadKey p).map fun e => (e, p) := by
  obtain ⟨assigned, hassigned, rfl⟩ := of_reconcile h
  show updates existing assigned = _
  rw [(assign_eq_ok hassigned).1, updates, List.filterMap_map]
  apply List.filterMap_congr
  intro p _
  exact congrArg (Option.map fun e => (e, p)) (target?_bind_getElem? p)

theorem toCreate_reconcile (h : reconcile existing payload storedKey payloadKey = .ok r) :
    r.toCreate = payload.filter fun p => (match? existing storedKey payloadKey p).isNone := by
  obtain ⟨assigned, hassigned, rfl⟩ := of_reconcile h
  show creations assigned = _
  rw [(assign_eq_ok hassigned).1, creations, List.filterMap_map, ← List.filterMap_eq_filter]
  apply List.filterMap_congr
  intro p _
  show (if (target? _ payloadKey p).isNone then some p else none) = _
  rw [isNone_target?]
  rfl

theorem match?_nil (p : β) : match? ([] : List α) storedKey payloadKey p = none := by
  rw [match?]
  cases payloadKey p with
  | none => rfl
  | some k => rfl

/-- Where nothing is stored, there is nothing to update or to remove. -/
theorem of_reconcile_nil (h : reconcile [] payload storedKey payloadKey = .ok r) :
    r.toUpdate = [] ∧ r.toRemove = [] := by
  constructor
  · rw [toUpdate_reconcile h, List.filterMap_eq_nil_iff]
    intro p _
    rw [match?_nil]
    rfl
  · obtain ⟨assigned, -, rfl⟩ := of_reconcile h
    rfl

/-- Where nothing is stored, all elements are created. -/
theorem toCreate_of_reconcile_nil (h : reconcile [] payload storedKey payloadKey = .ok r) :
    r.toCreate = payload := by
  rw [toCreate_reconcile h, List.filter_eq_self]
  intro p _
  rw [match?_nil]
  rfl

/-- Two elements never name one instance. -/
theorem not_both_match (h : reconcile existing payload storedKey payloadKey = .ok r) :
    NamesApart existing payload storedKey payloadKey := by
  obtain ⟨assigned, hassigned, -⟩ := of_reconcile h
  exact nodup_positions_iff.1 (assign_eq_ok hassigned).2.1

/-- The instances that are updated have different keys. -/
theorem pairwise_toUpdate (h : reconcile existing payload storedKey payloadKey = .ok r) :
    r.toUpdate.Pairwise fun x y => storedKey x.1 ≠ storedKey y.1 := by
  rw [toUpdate_reconcile h, List.pairwise_filterMap]
  refine (not_both_match h).imp ?_
  intro p q hpq x hx y hy hkey
  obtain ⟨e, hp, rfl⟩ := Option.map_eq_some_iff.1 hx
  obtain ⟨e', hq, rfl⟩ := Option.map_eq_some_iff.1 hy
  obtain ⟨he, k, hpk, hk⟩ := match?_eq_some hp
  obtain ⟨-, k', hqk, hk'⟩ := match?_eq_some hq
  have hsame : some k = some k' := hk.symm.trans (hkey.trans hk')
  exact hpq e he k hk ⟨hpk, hqk.trans hsame.symm⟩

/-- With keys that tell the stored instances apart, an instance is named by the elements that have
    its key. -/
theorem target?_eq_some_iff
    (hdistinct : existing.Pairwise fun a b => storedKey a ≠ storedKey b) {e : α} {i : Nat}
    (hi : existing[i]? = some e) {k : κ} (hk : storedKey e = some k) {p : β} :
    target? (existing.map storedKey) payloadKey p = some i ↔ payloadKey p = some k := by
  obtain ⟨hlt, he⟩ := List.getElem?_eq_some_iff.1 hi
  have hpos : position? (existing.map storedKey) k = some i := by
    rw [position?, List.findIdx?_eq_some_iff_getElem]
    refine ⟨by rwa [List.length_map], ?_, ?_⟩
    · rw [List.getElem_map, he, hk, beq_self_eq_true]
    · intro j hj hkey
      rw [List.getElem_map, beq_iff_eq] at hkey
      have hne := List.pairwise_iff_getElem.1 hdistinct j i (Nat.lt_trans hj hlt) hlt hj
      rw [he, hk] at hne
      exact hne hkey
  constructor
  · intro ht
    obtain ⟨k', hk', hpos'⟩ := Option.bind_eq_some_iff.1 ht
    obtain ⟨hlt', hkey, -⟩ := List.findIdx?_eq_some_iff_getElem.1 hpos'
    rw [List.getElem_map, beq_iff_eq, he, hk, Option.some.injEq] at hkey
    rw [hk', hkey]
  · intro hp
    rw [target?, hp, Option.bind_some, hpos]

/-- With keys that tell the stored instances apart, those are removed whose key no element has. -/
theorem toRemove_reconcile (h : reconcile existing payload storedKey payloadKey = .ok r)
    (hcomplete : ∀ e ∈ existing, (storedKey e).isSome)
    (hdistinct : existing.Pairwise fun a b => storedKey a ≠ storedKey b) :
    r.toRemove = existing.filter fun e => payload.all fun p => payloadKey p ≠ storedKey e := by
  obtain ⟨assigned, hassigned, rfl⟩ := of_reconcile h
  show removals existing assigned = _
  rw [removals, ← List.filterMap_eq_filter]
  have hnamed : ∀ f ∈ existing.zipIdx, (if assigned.any fun a => a.2 == some f.2 then none
      else some f.1) = (Option.guard (fun e => payload.all fun p => payloadKey p ≠ storedKey e) ∘
        Prod.fst) f := by
    rintro ⟨e, i⟩ hmem
    have hi : existing[i]? = some e := List.mem_zipIdx_iff_getElem?.1 hmem
    have he : e ∈ existing := List.mem_of_getElem? hi
    obtain ⟨k, hk⟩ := Option.isSome_iff_exists.1 (hcomplete e he)
    have hany : (assigned.any fun a => a.2 == some i) =
        !payload.all fun p => payloadKey p ≠ storedKey e := by
      rw [(assign_eq_ok hassigned).1, List.any_map, List.not_all_eq_any_not, hk]
      congr 1
      funext p
      rw [Bool.eq_iff_iff]
      show (target? _ payloadKey p == some i) = true ↔ _
      rw [beq_iff_eq, target?_eq_some_iff hdistinct hi hk]
      simp
    show (if (assigned.any fun a => a.2 == some i) then none else some e) =
      Option.guard (fun e => payload.all fun p => payloadKey p ≠ storedKey e) e
    rw [hany, Option.guard]
    cases payload.all fun p => payloadKey p ≠ storedKey e with
    | true => rfl
    | false => rfl
  rw [List.filterMap_congr hnamed, ← List.filterMap_map, List.zipIdx_map_fst]

/-- With keys that tell the stored instances apart, an element is paired with the one that has its
    key. -/
theorem match?_eq_some_iff (hcomplete : ∀ e ∈ existing, (storedKey e).isSome)
    (hdistinct : existing.Pairwise fun a b => storedKey a ≠ storedKey b) {p : β} {e : α} :
    match? existing storedKey payloadKey p = some e ↔
      e ∈ existing ∧ payloadKey p = storedKey e := by
  constructor
  · intro h
    obtain ⟨he, k, hp, hk⟩ := match?_eq_some h
    exact ⟨he, hp.trans hk.symm⟩
  · rintro ⟨he, hp⟩
    obtain ⟨k, hk⟩ := Option.isSome_iff_exists.1 (hcomplete e he)
    rw [hk] at hp
    cases hm : match? existing storedKey payloadKey p with
    | none => exact absurd hk (match?_eq_none hm hp e he)
    | some q =>
      obtain ⟨hq, k', hp', hk'⟩ := match?_eq_some hm
      rw [hp, Option.some.injEq] at hp'
      subst hp'
      rw [List.inj_on_of_nodup_map (List.pairwise_map.2 hdistinct) hq he (hk'.trans hk.symm)]

theorem mem_toUpdate (h : reconcile existing payload storedKey payloadKey = .ok r)
    (hcomplete : ∀ e ∈ existing, (storedKey e).isSome)
    (hdistinct : existing.Pairwise fun a b => storedKey a ≠ storedKey b) {e : α} {p : β} :
    (e, p) ∈ r.toUpdate ↔ p ∈ payload ∧ e ∈ existing ∧ payloadKey p = storedKey e := by
  rw [toUpdate_reconcile h, List.mem_filterMap]
  constructor
  · rintro ⟨q, hq, hmap⟩
    obtain ⟨e', hmatch, hpair⟩ := Option.map_eq_some_iff.1 hmap
    cases hpair
    exact ⟨hq, (match?_eq_some_iff hcomplete hdistinct).1 hmatch⟩
  · rintro ⟨hp, hkey⟩
    exact ⟨p, hp, Option.map_eq_some_iff.2
      ⟨e, (match?_eq_some_iff hcomplete hdistinct).2 hkey, rfl⟩⟩

/-- With keys that tell the stored instances apart, as many are updated as an element names. -/
theorem length_toUpdate (h : reconcile existing payload storedKey payloadKey = .ok r)
    (hcomplete : ∀ e ∈ existing, (storedKey e).isSome)
    (hdistinct : existing.Pairwise fun a b => storedKey a ≠ storedKey b) :
    r.toUpdate.length =
      (existing.filter fun e => payload.any fun p => payloadKey p = storedKey e).length := by
  have hnodup : (r.toUpdate.map Prod.fst).Nodup := by
    refine List.pairwise_map.2 ((pairwise_toUpdate h).imp ?_)
    intro x y hxy he
    exact hxy (congrArg storedKey he)
  have hexisting : existing.Nodup := by
    refine hdistinct.imp ?_
    rintro a b hab rfl
    exact hab rfl
  have hperm : (r.toUpdate.map Prod.fst).Perm
      (existing.filter fun e => payload.any fun p => payloadKey p = storedKey e) := by
    rw [List.perm_ext_iff_of_nodup hnodup (hexisting.filter _)]
    intro e
    rw [List.mem_map, List.mem_filter, List.any_eq_true]
    constructor
    · rintro ⟨⟨e, p⟩, hx, rfl⟩
      obtain ⟨hp, he, hk⟩ := (mem_toUpdate h hcomplete hdistinct).1 hx
      exact ⟨he, p, hp, decide_eq_true hk⟩
    · rintro ⟨he, p, hp, hk⟩
      exact ⟨(e, p), (mem_toUpdate h hcomplete hdistinct).2 ⟨hp, he, of_decide_eq_true hk⟩, rfl⟩
  rw [← List.length_map (f := Prod.fst), hperm.length_eq]

end Reconciliation

end Depot
