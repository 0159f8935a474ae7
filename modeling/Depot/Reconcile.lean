/-!
# Reconciliation

A stored collection is replaced by a list of elements. An element whose key is that of a stored
instance updates it, the first one of that key; an element without a key, or with another one, is
created; the stored instances that no element names are removed. No two elements may name the
same instance.

* `reconcile`: the three parts, or the first key that names an instance again.

Results:
* `length_toUpdate_add_length_toCreate`: every element is updated or created.
-/

namespace Depot

/-- What replacing a collection comes to. -/
structure Reconciliation (α β : Type) where
  toUpdate : List (α × β)
  toCreate : List β
  toRemove : List α

namespace Reconciliation

variable {α β κ : Type} [DecidableEq κ]

/-- The position of the first stored instance with a key. -/
def position? (keys : List (Option κ)) (key : κ) : Option Nat :=
  keys.findIdx? (· == some key)

/-- The stored instance that each element names, by its position; `claimed` are the positions
    named before. -/
def assign (keys : List (Option κ)) (keyOf : β → Option κ) (claimed : List Nat) :
    List β → Except κ (List (β × Option Nat))
  | [] => .ok []
  | p :: ps =>
    match (keyOf p).bind fun k => (position? keys k).map fun i => (k, i) with
    | none => (assign keys keyOf claimed ps).map ((p, none) :: ·)
    | some (k, i) =>
      if claimed.contains i then .error k
      else (assign keys keyOf (i :: claimed) ps).map ((p, some i) :: ·)

/-- The elements that name an instance, each with the instance. -/
def updates (existing : List α) (assigned : List (β × Option Nat)) : List (α × β) :=
  assigned.filterMap fun (p, i) => (i.bind (existing[·]?)).map fun e => (e, p)

/-- The elements that name no instance. -/
def creations (assigned : List (β × Option Nat)) : List β :=
  assigned.filterMap fun (p, i) => if i.isNone then some p else none

/-- The instances at positions that no element names. -/
def removals (existing : List α) (assigned : List (β × Option Nat)) : List α :=
  existing.zipIdx.filterMap fun (e, i) =>
    if (assigned.any fun a => a.2 == some i) then none else some e

theorem position?_lt {keys : List (Option κ)} {key : κ} {i : Nat}
    (h : position? keys key = some i) : i < keys.length := by
  obtain ⟨hi, _⟩ := List.findIdx?_eq_some_iff_getElem.1 h
  exact hi

theorem length_assign {keys : List (Option κ)} {keyOf : β → Option κ} {claimed : List Nat}
    {ps : List β} {assigned : List (β × Option Nat)}
    (h : assign keys keyOf claimed ps = .ok assigned) :
    assigned.length = ps.length ∧ ∀ a ∈ assigned, ∀ i, a.2 = some i → i < keys.length := by
  induction ps generalizing claimed assigned with
  | nil =>
    simp only [assign, Except.ok.injEq] at h
    subst h
    simp
  | cons p ps ih =>
    simp only [assign] at h
    split at h
    · cases hr : assign keys keyOf claimed ps with
      | error k => simp [hr, Except.map] at h
      | ok rest =>
        simp only [hr, Except.map, Except.ok.injEq] at h
        subst h
        obtain ⟨hl, hi⟩ := ih hr
        refine ⟨by simp [hl], ?_⟩
        intro a ha i hai
        rcases List.mem_cons.1 ha with rfl | ha
        · simp at hai
        · exact hi a ha i hai
    · rename_i k i hk
      split at h
      · simp at h
      · cases hr : assign keys keyOf (i :: claimed) ps with
        | error k => simp [hr, Except.map] at h
        | ok rest =>
          simp only [hr, Except.map, Except.ok.injEq] at h
          subst h
          obtain ⟨hl, hi⟩ := ih hr
          refine ⟨by simp [hl], ?_⟩
          intro a ha j haj
          rcases List.mem_cons.1 ha with rfl | ha
          · obtain ⟨k', _, hk'⟩ := Option.bind_eq_some_iff.1 hk
            obtain ⟨i', hp, he⟩ := Option.map_eq_some_iff.1 hk'
            simp only [Prod.mk.injEq] at he
            simp only [Option.some.injEq] at haj
            have := position?_lt hp
            omega
          · exact hi a ha j haj

theorem length_updates_add_length_creations (existing : List α) (assigned : List (β × Option Nat))
    (h : ∀ a ∈ assigned, ∀ i, a.2 = some i → i < existing.length) :
    (updates existing assigned).length + (creations assigned).length = assigned.length := by
  induction assigned with
  | nil => rfl
  | cons a rest ih =>
    have ih := ih fun b hb => h b (List.mem_cons_of_mem _ hb)
    obtain ⟨p, i⟩ := a
    cases i with
    | none =>
      simp only [updates, creations, List.filterMap_cons, Option.bind_none, Option.map_none,
        Option.isNone_none, if_true, List.length_cons] at ih ⊢
      omega
    | some i =>
      have hi : i < existing.length := h (p, some i) List.mem_cons_self i rfl
      simp only [updates, creations, List.filterMap_cons, Option.bind_some,
        List.getElem?_eq_getElem hi, Option.map_some, Option.isNone_some, Bool.false_eq_true,
        if_false, List.length_cons] at ih ⊢
      omega

end Reconciliation

open Reconciliation in
/-- Compares stored instances with the elements that are to replace them. -/
def reconcile {α β κ : Type} [DecidableEq κ] (existing : List α) (payload : List β)
    (storedKey : α → Option κ) (payloadKey : β → Option κ) :
    Except κ (Reconciliation α β) := do
  let assigned ← assign (existing.map storedKey) payloadKey [] payload
  .ok ⟨updates existing assigned, creations assigned, removals existing assigned⟩

open Reconciliation in
theorem length_toUpdate_add_length_toCreate {α β κ : Type} [DecidableEq κ] {existing : List α}
    {payload : List β} {storedKey : α → Option κ} {payloadKey : β → Option κ}
    {r : Reconciliation α β} (h : reconcile existing payload storedKey payloadKey = .ok r) :
    r.toUpdate.length + r.toCreate.length = payload.length := by
  simp only [reconcile, bind, Except.bind] at h
  split at h
  · simp at h
  · rename_i assigned ha
    simp only [Except.ok.injEq] at h
    subst h
    obtain ⟨hl, hi⟩ := length_assign ha
    rw [← hl]
    exact length_updates_add_length_creations existing assigned (by simpa using hi)

end Depot
