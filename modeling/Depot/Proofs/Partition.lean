import Depot.Proofs.Reconcile
import Mathlib.Data.List.Induction
import Mathlib.Data.List.Perm.Basic
import Mathlib.Data.List.Sigma

/-!
# A reconciliation is a partition

A collection is refused for the first element that names an instance again, and for its key. Every
other collection is divided: the stored instances into those that are updated and those that are
removed, the elements into those that update and those that are created. Instances may share a key
or lack one, and an element that names no instance may occur any number of times.

* `Reconciliation.IsFirstRepeat`: the key of the first element that names an instance again.
* `Reconciliation.isPaired`: an element names the instance at this position.

Results:
* `Reconciliation.assign_eq_error_iff`: the assignment stops at the first element whose position is
  taken.
* `Reconciliation.perm_removals`: the stored instances are those assigned and those removed.
* `reconcile_partitions`: which collections are refused, and the parts of the others.
-/

namespace Depot

namespace Reconciliation

variable {α β κ : Type} [DecidableEq κ] {keys : List (Option κ)} {keyOf : β → Option κ}

/-! ## Where the assignment stops -/

/-- An element that is assigned stands before the assignments of both parts. -/
theorem map_cons_bind_append {γ ε : Type} (x : γ) (first second : Except ε (List γ)) :
    (first.bind fun xs => second.map (xs ++ ·)).map (x :: ·) =
      (first.map (x :: ·)).bind fun xs => second.map (xs ++ ·) := by
  cases first with
  | error failure => rfl
  | ok xs => cases second <;> rfl

/-- The elements after the first ones are assigned with the positions of these claimed. -/
theorem assign_append {claimed : List Nat} (before after : List β) :
    assign keys keyOf claimed (before ++ after) =
      (assign keys keyOf claimed before).bind fun assigned =>
        (assign keys keyOf ((before.filterMap (target? keys keyOf)).reverse ++ claimed) after).map
          (assigned ++ ·) := by
  induction before generalizing claimed with
  | nil =>
    show assign keys keyOf claimed after = (assign keys keyOf claimed after).map id
    cases assign keys keyOf claimed after <;> rfl
  | cons p before ih =>
    cases htarget : target? keys keyOf p with
    | none =>
      rw [List.cons_append, assign_cons_of_none htarget, assign_cons_of_none htarget, ih,
        List.filterMap_cons_none htarget, map_cons_bind_append]
    | some i =>
      obtain ⟨k, hkey, hpos⟩ := target?_eq_some_iff_position.1 htarget
      rw [List.cons_append, assign_cons_of_some hkey hpos, assign_cons_of_some hkey hpos]
      by_cases hclaimed : i ∈ claimed
      · rw [if_pos hclaimed, if_pos hclaimed]
        rfl
      · rw [if_neg hclaimed, if_neg hclaimed, ih, List.filterMap_cons_some htarget,
          List.reverse_cons, List.append_assoc, List.singleton_append, map_cons_bind_append]

/-- An element is refused when its position is claimed. -/
theorem assign_singleton_eq_error_iff {claimed : List Nat} {p : β} {k : κ} :
    assign keys keyOf claimed [p] = .error k ↔
      ∃ i, keyOf p = some k ∧ position? keys k = some i ∧ i ∈ claimed := by
  cases htarget : target? keys keyOf p with
  | none =>
    rw [assign_cons_of_none htarget]
    constructor
    · intro h
      cases h
    · rintro ⟨i, hkey, hpos, -⟩
      rw [target?_eq_some_iff_position.2 ⟨k, hkey, hpos⟩] at htarget
      cases htarget
  | some j =>
    obtain ⟨k', hkey, hpos⟩ := target?_eq_some_iff_position.1 htarget
    rw [assign_cons_of_some hkey hpos]
    by_cases hj : j ∈ claimed
    · rw [if_pos hj]
      constructor
      · rintro ⟨⟩
        exact ⟨j, hkey, hpos, hj⟩
      · rintro ⟨i, hkey', -, -⟩
        rw [hkey, Option.some.injEq] at hkey'
        rw [hkey']
    · rw [if_neg hj]
      constructor
      · intro h
        cases h
      · rintro ⟨i, hkey', hpos', hi⟩
        rw [target?_eq_some_iff_position.2 ⟨k, hkey', hpos'⟩, Option.some.injEq] at htarget
        exact absurd (htarget ▸ hi) hj

/-- The assignment stops at the first element whose position is taken, with its key. -/
theorem assign_eq_error_iff {ps : List β} {k : κ} :
    assign keys keyOf [] ps = .error k ↔
      ∃ before p after i, ps = before ++ p :: after ∧
        (before.filterMap (target? keys keyOf)).Nodup ∧
        keyOf p = some k ∧ position? keys k = some i ∧
        i ∈ before.filterMap (target? keys keyOf) := by
  constructor
  · intro h
    induction ps using List.reverseRec with
    | nil => cases h
    | append_singleton before p ih =>
      rw [assign_append] at h
      cases hbefore : assign keys keyOf [] before with
      | error k' =>
        rw [hbefore] at h
        cases h
        obtain ⟨first, q, after, i, rfl, hrest⟩ := ih hbefore
        exact ⟨first, q, after ++ [p], i, List.append_assoc first (q :: after) [p], hrest⟩
      | ok assigned =>
        rw [hbefore, List.append_nil] at h
        obtain ⟨i, hkey, hpos, hi⟩ := assign_singleton_eq_error_iff.1 (map_eq_error_iff.1 h)
        exact ⟨before, p, [], i, rfl, (assign_eq_ok hbefore).2.1, hkey, hpos,
          List.mem_reverse.1 hi⟩
  · rintro ⟨before, p, after, i, rfl, hnodup, hkey, hpos, hi⟩
    obtain ⟨assigned, hassigned⟩ := exists_assign hnodup fun i _ => List.not_mem_nil
    rw [assign_append, hassigned, List.append_nil, assign_cons_of_some hkey hpos,
      if_pos (List.mem_reverse.2 hi)]
    rfl

variable {existing : List α} {payload : List β} {storedKey : α → Option κ}
  {payloadKey : β → Option κ}

/-- The key of the first element that names an instance again: the elements before it name
    different ones, and it has the key of one of them and of an instance. -/
def IsFirstRepeat (existing : List α) (payload : List β) (storedKey : α → Option κ)
    (payloadKey : β → Option κ) (k : κ) : Prop :=
  ∃ before p after, payload = before ++ p :: after ∧
    NamesApart existing before storedKey payloadKey ∧ payloadKey p = some k ∧
    (∃ q ∈ before, payloadKey q = some k) ∧ ∃ e ∈ existing, storedKey e = some k

/-- A collection is refused for the first repeat, and with its key. -/
theorem reconcile_eq_error_iff {k : κ} :
    reconcile existing payload storedKey payloadKey = .error k ↔
      IsFirstRepeat existing payload storedKey payloadKey k := by
  have hassign : reconcile existing payload storedKey payloadKey = .error k ↔
      assign (existing.map storedKey) payloadKey [] payload = .error k := by
    rw [reconcile, bind_eq_error_iff, or_iff_left]
    rintro ⟨assigned, -, hok⟩
    cases hok
  rw [hassign, assign_eq_error_iff]
  constructor
  · rintro ⟨before, p, after, i, hpayload, hnodup, hkey, hpos, hi⟩
    obtain ⟨q, hq, htarget⟩ := List.mem_filterMap.1 hi
    obtain ⟨k', hqk, hpos'⟩ := target?_eq_some_iff_position.1 htarget
    obtain ⟨hlt, hik, _⟩ := List.findIdx?_eq_some_iff_getElem.1 hpos
    obtain ⟨_, hik', _⟩ := List.findIdx?_eq_some_iff_getElem.1 hpos'
    have hsame : some k' = some k := (beq_iff_eq.1 hik').symm.trans (beq_iff_eq.1 hik)
    exact ⟨before, p, after, hpayload, nodup_positions_iff.1 hnodup, hkey,
      ⟨q, hq, hqk.trans hsame⟩, isSome_position?_iff.1 (Option.isSome_of_eq_some hpos)⟩
  · rintro ⟨before, p, after, hpayload, hapart, hkey, ⟨q, hq, hqk⟩, he⟩
    obtain ⟨i, hpos⟩ := Option.isSome_iff_exists.1 (isSome_position?_iff.2 he)
    exact ⟨before, p, after, i, hpayload, nodup_positions_iff.2 hapart, hkey, hpos,
      List.mem_filterMap.2 ⟨q, hq, target?_eq_some_iff_position.2 ⟨k, hqk, hpos⟩⟩⟩

/-! ## The stored instances -/

/-- An element names the instance `e` at the position `i`, the first instance of its key. -/
def isPaired (existing : List α) (payload : List β) (storedKey : α → Option κ)
    (payloadKey : β → Option κ) (e : α) (i : Nat) : Bool :=
  (storedKey e).any fun k =>
    (existing.take i).all (storedKey · != some k) && payload.any (payloadKey · == some k)

/-- The position that a key stands for holds the first instance of the key. -/
theorem position?_eq_some_iff {e : α} {i : Nat} (hi : existing[i]? = some e) {k : κ} :
    position? (existing.map storedKey) k = some i ↔
      storedKey e = some k ∧ ∀ d ∈ existing.take i, storedKey d ≠ some k := by
  obtain ⟨hlt, rfl⟩ := List.getElem?_eq_some_iff.1 hi
  rw [position?, List.findIdx?_map, List.findIdx?_eq_some_iff_getElem]
  constructor
  · rintro ⟨_, hkey, hbefore⟩
    refine ⟨beq_iff_eq.1 hkey, ?_⟩
    intro d hd hdk
    obtain ⟨j, hj, rfl⟩ := List.mem_take_iff_getElem.1 hd
    exact hbefore j (Nat.lt_of_lt_of_le hj (Nat.min_le_left i _)) (beq_iff_eq.2 hdk)
  · rintro ⟨hkey, hbefore⟩
    refine ⟨hlt, beq_iff_eq.2 hkey, ?_⟩
    intro j hj hdk
    refine hbefore existing[j] ?_ (beq_iff_eq.1 hdk)
    exact List.mem_take_iff_getElem.2 ⟨j, Nat.lt_min.2 ⟨hj, Nat.lt_trans hj hlt⟩, rfl⟩

theorem isPaired_iff {e : α} {i : Nat} (hi : existing[i]? = some e) :
    isPaired existing payload storedKey payloadKey e i = true ↔
      i ∈ payload.filterMap (target? (existing.map storedKey) payloadKey) := by
  rw [isPaired, Option.any_eq_true, List.mem_filterMap]
  constructor
  · rintro ⟨k, hkey, hboth⟩
    obtain ⟨hbefore, hany⟩ := Bool.and_eq_true_iff.1 hboth
    obtain ⟨p, hp, hpk⟩ := List.any_eq_true.1 hany
    refine ⟨p, hp, target?_eq_some_iff_position.2 ⟨k, beq_iff_eq.1 hpk, ?_⟩⟩
    refine (position?_eq_some_iff hi).2 ⟨hkey, ?_⟩
    intro d hd
    exact bne_iff_ne.1 (List.all_eq_true.1 hbefore d hd)
  · rintro ⟨p, hp, htarget⟩
    obtain ⟨k, hpk, hpos⟩ := target?_eq_some_iff_position.1 htarget
    obtain ⟨hkey, hbefore⟩ := (position?_eq_some_iff hi).1 hpos
    refine ⟨k, hkey, Bool.and_eq_true_iff.2 ⟨?_, ?_⟩⟩
    · exact List.all_eq_true.2 fun d hd => bne_iff_ne.2 (hbefore d hd)
    · exact List.any_eq_true.2 ⟨p, hp, beq_iff_eq.2 hpk⟩

variable {r : Reconciliation α β}

/-- The instances that no element names are removed, in their order. -/
theorem toRemove_eq_filter (h : reconcile existing payload storedKey payloadKey = .ok r) :
    r.toRemove = (existing.zipIdx.filter fun f =>
      !isPaired existing payload storedKey payloadKey f.1 f.2).map Prod.fst := by
  obtain ⟨assigned, hassigned, rfl⟩ := of_reconcile h
  show removals existing assigned = _
  rw [removals, ← List.filterMap_eq_filter, List.map_filterMap]
  apply List.filterMap_congr
  rintro ⟨e, i⟩ hmem
  have hpaired : isPaired existing payload storedKey payloadKey e i = true ↔
      i ∈ payload.filterMap (target? (existing.map storedKey) payloadKey) :=
    isPaired_iff (List.mem_zipIdx_iff_getElem?.1 hmem)
  have hany : (assigned.any fun a => a.2 == some i) =
      isPaired existing payload storedKey payloadKey e i := by
    rw [Bool.eq_iff_iff, hpaired, (assign_eq_ok hassigned).1, List.any_map, List.any_eq_true,
      List.mem_filterMap]
    exact exists_congr fun p => and_congr_right fun _ => beq_iff_eq
  show (if (assigned.any fun a => a.2 == some i) then none else some e) = _
  rw [hany, Option.guard]
  cases isPaired existing payload storedKey payloadKey e i with
  | true => rfl
  | false => rfl

/-- The instances at different positions are those that are updated. -/
theorem map_fst_toUpdate (h : reconcile existing payload storedKey payloadKey = .ok r) :
    r.toUpdate.map Prod.fst =
      (payload.filterMap (target? (existing.map storedKey) payloadKey)).filterMap
        (existing[·]?) := by
  rw [toUpdate_reconcile h, List.map_filterMap, List.filterMap_filterMap]
  apply List.filterMap_congr
  intro p _
  rw [target?_bind_getElem?, Option.map_map]
  exact Option.map_id'

/-- Every stored instance is updated or removed, and none is both. -/
theorem perm_toUpdate_toRemove (h : reconcile existing payload storedKey payloadKey = .ok r) :
    existing.Perm (r.toUpdate.map Prod.fst ++ r.toRemove) := by
  let positions := payload.filterMap (target? (existing.map storedKey) payloadKey)
  let paired (f : α × Nat) : Bool := isPaired existing payload storedKey payloadKey f.1 f.2
  have hzip : existing.zipIdx.Nodup := (List.nodup_zipIdx_map_snd existing).of_map _
  have hpositions : positions.Nodup := nodup_positions_iff.2 (not_both_match h)
  have hfound : (positions.filterMap fun i => (existing[i]?).map fun e => (e, i)).Nodup := by
    refine hpositions.filterMap ?_
    intro i j f hi hj
    obtain ⟨e, -, rfl⟩ := Option.map_eq_some_iff.1 hi
    obtain ⟨e', -, he⟩ := Option.map_eq_some_iff.1 hj
    cases he
    rfl
  have hperm : (existing.zipIdx.filter paired).Perm
      (positions.filterMap fun i => (existing[i]?).map fun e => (e, i)) := by
    rw [List.perm_ext_iff_of_nodup (hzip.filter _) hfound]
    rintro ⟨e, i⟩
    rw [List.mem_filter, List.mem_zipIdx_iff_getElem?, List.mem_filterMap]
    constructor
    · rintro ⟨hi, hpaired⟩
      exact ⟨i, (isPaired_iff hi).1 hpaired, Option.map_eq_some_iff.2 ⟨e, hi, rfl⟩⟩
    · rintro ⟨j, hj, hmap⟩
      obtain ⟨e', hi, he⟩ := Option.map_eq_some_iff.1 hmap
      cases he
      exact ⟨hi, (isPaired_iff hi).2 hj⟩
  have hupdated : r.toUpdate.map Prod.fst =
      (positions.filterMap fun i => (existing[i]?).map fun e => (e, i)).map Prod.fst := by
    rw [map_fst_toUpdate h, List.map_filterMap]
    apply List.filterMap_congr
    intro i _
    rw [Option.map_map]
    exact Option.map_id'.symm
  have hsplit := ((List.filter_append_perm paired existing.zipIdx).map Prod.fst).symm
  rw [List.map_append, List.zipIdx_map_fst, ← toRemove_eq_filter h] at hsplit
  rw [hupdated]
  exact hsplit.trans ((hperm.map Prod.fst).append_right r.toRemove)

/-- Every element updates an instance or creates one, and none does both. -/
theorem perm_toUpdate_toCreate (h : reconcile existing payload storedKey payloadKey = .ok r) :
    payload.Perm (r.toUpdate.map Prod.snd ++ r.toCreate) := by
  have hupdating : r.toUpdate.map Prod.snd =
      payload.filter fun p => (match? existing storedKey payloadKey p).isSome := by
    rw [toUpdate_reconcile h, List.map_filterMap, ← List.filterMap_eq_filter]
    apply List.filterMap_congr
    intro p _
    rw [Option.guard]
    cases match? existing storedKey payloadKey p with
    | none => rfl
    | some e => rfl
  have hcreating (p : β) : (match? existing storedKey payloadKey p).isNone =
      !(match? existing storedKey payloadKey p).isSome := by
    rw [Option.not_isSome]
  rw [hupdating, toCreate_reconcile h, List.filter_congr fun p _ => hcreating p]
  exact (List.filter_append_perm _ payload).symm

/-- The parts of a collection: in the order of the elements each one that names an instance, with
    this instance, and each other one; in the order of the instances those that no element names.
    Together they hold every instance and every element once. -/
structure IsPartition (existing : List α) (payload : List β) (storedKey : α → Option κ)
    (payloadKey : β → Option κ) (r : Reconciliation α β) : Prop where
  toUpdate : r.toUpdate = payload.filterMap fun p =>
    (match? existing storedKey payloadKey p).map fun e => (e, p)
  toCreate : r.toCreate = payload.filter fun p => (match? existing storedKey payloadKey p).isNone
  toRemove : r.toRemove = (existing.zipIdx.filter fun f =>
    !isPaired existing payload storedKey payloadKey f.1 f.2).map Prod.fst
  instances : existing.Perm (r.toUpdate.map Prod.fst ++ r.toRemove)
  elements : payload.Perm (r.toUpdate.map Prod.snd ++ r.toCreate)

theorem isPartition_reconcile (h : reconcile existing payload storedKey payloadKey = .ok r) :
    IsPartition existing payload storedKey payloadKey r where
  toUpdate := toUpdate_reconcile h
  toCreate := toCreate_reconcile h
  toRemove := toRemove_eq_filter h
  instances := perm_toUpdate_toRemove h
  elements := perm_toUpdate_toCreate h

theorem IsPartition.unique {r' : Reconciliation α β}
    (h : IsPartition existing payload storedKey payloadKey r)
    (h' : IsPartition existing payload storedKey payloadKey r') : r = r' := by
  obtain ⟨updates, creations, removals⟩ := r
  obtain ⟨updates', creations', removals'⟩ := r'
  rw [mk.injEq]
  exact ⟨h.toUpdate.trans h'.toUpdate.symm, h.toCreate.trans h'.toCreate.symm,
    h.toRemove.trans h'.toRemove.symm⟩

end Reconciliation

open Reconciliation in
/-- A collection is refused if two elements name one instance, with the key of the first element
    that repeats one; every other collection is divided into its parts. -/
theorem reconcile_partitions {α β κ : Type} [DecidableEq κ] (existing : List α) (payload : List β)
    (storedKey : α → Option κ) (payloadKey : β → Option κ) :
    (∀ k, reconcile existing payload storedKey payloadKey = .error k ↔
      IsFirstRepeat existing payload storedKey payloadKey k) ∧
    ((∃ k, reconcile existing payload storedKey payloadKey = .error k) ↔
      ¬NamesApart existing payload storedKey payloadKey) ∧
    ∀ r, reconcile existing payload storedKey payloadKey = .ok r ↔
      NamesApart existing payload storedKey payloadKey ∧
        IsPartition existing payload storedKey payloadKey r := by
  refine ⟨fun k => reconcile_eq_error_iff, ?_, ?_⟩
  · constructor
    · rintro ⟨k, herror⟩ hapart
      obtain ⟨r, hok⟩ := exists_of_namesApart hapart
      rw [herror] at hok
      cases hok
    · intro hrepeats
      cases h : reconcile existing payload storedKey payloadKey with
      | error k => exact ⟨k, rfl⟩
      | ok r => exact absurd (not_both_match h) hrepeats
  · intro r
    constructor
    · intro h
      exact ⟨not_both_match h, isPartition_reconcile h⟩
    · rintro ⟨hapart, hparts⟩
      obtain ⟨r', h⟩ := exists_of_namesApart hapart
      rw [h, hparts.unique (isPartition_reconcile h)]

/-- Two instances of the key 1 and one without a key: the first of them is updated. An element of a
    key that no instance has occurs twice. -/
example : (reconcile [(1, 'a'), (1, 'b'), (0, 'c'), (2, 'd')] [3, 1, 3, 0]
      (fun e : Nat × Char => if e.1 = 0 then none else some e.1)
      (fun p : Nat => if p = 0 then none else some p)).toOption.map
        (fun r => (r.toUpdate, r.toCreate, r.toRemove)) =
      some ([((1, 'a'), 1)], [3, 3, 0], [(1, 'b'), (0, 'c'), (2, 'd')]) := by
  decide +kernel

end Depot
