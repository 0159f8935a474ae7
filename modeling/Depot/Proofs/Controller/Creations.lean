import Depot.Proofs.Controller.Concurrent
import Depot.Proofs.Controller.OwnRows
import Depot.Proofs.Reconcile

/-!
# What a creation writes

A new instance has no stored children, so there is nothing to update or to remove in its
collections: without hooks a creation only inserts rows, first the instance and then its children.
The instance that is returned has the key under which it was inserted.

* `Write.IsInsert`: insertions.

Results:
* `changes_of_mem_plans`: the plans of a creation only create.
* `stages_writePlans_of_creates`, `field?_writePlans`: what they write, and what they return.
* `of_works_createWork_insert`: a creation stages insertions only.
* `of_isServed_createOne`: a creation that succeeds in a session commits insertions only.
-/

namespace Depot

/-- A write that inserts a row. -/
def Write.IsInsert (w : Write) : Prop := ∃ entity key row, w = .insert entity key row

open Transaction (Stages)

namespace Controller

variable {c : Controller} {stamps : Stamps} {m : Model} {w w' : Transaction × Nat}

/-! ## Plans that only create -/

theorem changes_of_mem_plans {r record body : Record} {plans : List ChildPlan}
    (h : c.assignFields (some []) r body = .ok (record, plans)) :
    ∀ p ∈ plans, p.changes.toUpdate = [] ∧ p.changes.toRemove = [] := by
  intro p hp
  obtain ⟨current, field, v, hplan, hcurrent⟩ := planned_of_mem_plans h p hp
  obtain rfl := hcurrent [] rfl
  obtain ⟨_, existing, _, -, -, -, -, hexisting, -, hchanges⟩ := planChildren_eq_some hplan
  obtain rfl : [] = existing := Option.some.inj hexisting
  exact Reconciliation.of_reconcile_nil hchanges

theorem stages_writePlan_of_creates {p : ChildPlan} {parentKey : Json} {children : List Record}
    (hp : p.changes.toUpdate = [] ∧ p.changes.toRemove = [])
    (h : (c.writePlan p parentKey).Works stamps m w children w') :
    Stages Write.IsInsert w.1 w'.1 := by
  obtain ⟨updated, w₁, created, w₂, hupdated, hcreated, hremoved, -⟩ := of_works_writePlan h
  rw [ChildPlan.rows, hp.1] at hupdated
  obtain ⟨-, rfl⟩ := Program.returns_pure_iff.1 hupdated
  rw [hp.2] at hremoved
  obtain ⟨-, rfl⟩ := Program.returns_pure_iff.1 hremoved
  refine stages_persistAll ?_ hcreated
  intro tx tx' r out stamp hpersist
  obtain ⟨-, key, -, rfl⟩ := Transaction.insert_eq_ok hpersist
  exact Transaction.stages_stage ⟨p.target.name, key, out, rfl⟩

/-- The children of a new instance are inserted. -/
theorem stages_writePlans_of_creates {r out : Record} {plans : List ChildPlan}
    (hplans : ∀ p ∈ plans, p.changes.toUpdate = [] ∧ p.changes.toRemove = [])
    (h : (c.writePlans r plans).Works stamps m w out w') : Stages Write.IsInsert w.1 w'.1 :=
  works_writePlans_induction (P := Stages Write.IsInsert w.1)
    (fun p hp _ _ _ _ hstages hplan =>
      hstages.trans (stages_writePlan_of_creates (hplans p hp) hplan)) (.refl _) h

/-! ## The instance that is returned -/

/-- A record with the fields of a row laid over it has the key of the row. -/
theorem key?_overlay {e : Entity} {r row : Record} {key : RowKey} (hrow : row.Sorted)
    (h : e.key? row = some key) : e.key? (r.overlay row) = some key := by
  rw [← h]
  apply key?_congr
  intro k hk
  have hsome := ((Entity.key?_isSome_iff e row).1 (by rw [h]; rfl)).2 k hk
  rw [Fields.field?_overlay_of_sorted _ hrow]
  cases hv : row.field? k with
  | none => rw [hv] at hsome; cases hsome
  | some v => rfl

/-- Writing children changes the fields of their relations only. -/
theorem field?_writePlans {r out : Record} {plans : List ChildPlan} {k : String}
    (hk : ∀ p ∈ plans, p.relation.name ≠ k)
    (h : (c.writePlans r plans).Works stamps m w out w') : out.field? k = r.field? k := by
  induction plans generalizing r w with
  | nil =>
    obtain ⟨rfl, -⟩ := Program.returns_pure_iff.1 h
    rfl
  | cons p plans ih =>
    obtain ⟨children, w₁, -, h⟩ := Program.returns_bind_iff.1 h
    rw [ih (fun q hq => hk q (List.mem_cons_of_mem _ hq)) h, Fields.field?_put,
      if_neg (hk p List.mem_cons_self)]

/-- A creation without hooks stages the insertion of the instance, under the key that it is
    returned with, and insertions of its children. -/
theorem of_works_createWork_insert (hc : c.IsPlain) {r : Request} {body scope out : Record}
    (h : (c.createWork r body scope).Works stamps m w out w') :
    ∃ key row ws, c.entity.key? out = some key ∧
      w'.1 = w.1.stageAll (.insert c.entity.name key row :: ws) ∧ ∀ v ∈ ws, v.IsInsert := by
  obtain ⟨record, plans, hassign, -, hwrite⟩ := of_works_createWork hc.hooks h
  obtain ⟨stored, tx, hpersist, hchildren⟩ := of_works_write hwrite
  have hstored : stored.Sorted := sorted_inserted hassign hpersist
  obtain ⟨-, key, hkey, rfl⟩ := Transaction.insert_eq_ok hpersist
  have hout : c.entity.key? out = some key := by
    rw [← key?_overlay (r := record.overlay scope) hstored hkey]
    apply key?_congr
    intro k hk
    refine field?_writePlans (fun p hp => ?_) hchildren
    exact hc.isUnshadowed.name_ne (of_mem_plans hassign p hp).1
      (hc.consistent.key c.entity hc.mem k hk)
  obtain ⟨ws, hws, hinserts⟩ :=
    stages_writePlans_of_creates (changes_of_mem_plans hassign) hchildren
  exact ⟨key, stored, ws, hout, hws.trans (Transaction.stageAll_stageAll _ [_] ws), hinserts⟩

/-! ## Creations in a session -/

/-- Whatever hooks there are, a creation is work that is flushed and committed. -/
theorem isServed_commit_of_createOne {name : String} {r : Request} {out : Record}
    {first last : List Session.Step}
    (h : (c.createOne r).IsServed m stamps name first out last) :
    ∃ body, (c.commit (c.flushed (c.createWork r body (c.options.scope r)))).IsServed m stamps
      name first out last := by
  obtain ⟨others, hothers, h⟩ := h
  obtain ⟨body, steps, hdone, hcommit⟩ := Program.returns_bind_iff.1 h
  obtain ⟨-, rfl⟩ := Program.returns_done_iff.1 hdone
  exact ⟨body, others, hothers, hcommit⟩

/-- A creation without hooks that succeeds in a session commits insertions only, the first of them
    under the key of the instance that is returned. -/
theorem of_isServed_createOne (hc : c.IsPlain) {name : String} {r : Request} {out : Record}
    {first last : List Session.Step}
    (h : (c.createOne r).IsServed m stamps name first out last) :
    ∃ key row ws blocks calls, c.entity.key? out = some key ∧
      Session.history m stamps last =
        blocks ++ [.commit calls (.insert c.entity.name key row :: ws)] ∧
      ∀ v ∈ ws, v.IsInsert := by
  obtain ⟨body, hcommit⟩ := isServed_commit_of_createOne h
  obtain ⟨db, own, w, before, calls, -, hflushed, -, hhistory⟩ := of_isServed_commit hcommit
  obtain ⟨w₁, hwork, hlog⟩ := of_works_flushed hflushed
  obtain ⟨key, row, ws, hkey, hstaged, hinserts⟩ := of_works_createWork_insert hc hwork
  have hwrites : w.1.log = .insert c.entity.name key row :: ws := by
    rw [hlog, hstaged]
    rfl
  rw [hwrites] at hhistory
  exact ⟨key, row, ws, _, calls, hkey, hhistory, hinserts⟩

end Controller

end Depot
