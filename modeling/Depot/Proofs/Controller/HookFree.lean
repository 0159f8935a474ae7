import Depot.Proofs.Controller.Transactions
import Depot.Proofs.Store.Populate
import Depot.Proofs.Store.Replay

/-!
# Operations without hooks

What an operation of a resource without hooks does when it succeeds. All of it happens in one
transaction: it starts from the committed rows, the calls before the last flush only stage writes,
and the commit applies what was staged. Each operation is taken apart once; what it writes is then
read off its log.

* `Transaction.stageAll`: a transaction with more writes staged.
* `Stages`: a transaction after which there are more writes staged, all of them of some kind.
* `Controller.Creation`, `Controller.Update`, `Controller.Deletion`: operations that succeed.

Results:
* `of_works_loadOne`: the row that a request names.
* `columnFields_assignFields`, `of_mem_plans`: what a body comes to.
* `stages_writePlans`: the writes of nested collections are writes of their targets.
* `of_returns_createOne`, `of_returns_updateOne`, `of_returns_deleteOne`: the operations.
-/

namespace Depot

/-! ## Staging -/

namespace Transaction

/-- A transaction with more writes staged. -/
def stageAll (tx : Transaction) (ws : List Write) : Transaction :=
  { tx with staged := tx.staged ++ ws }

theorem stageAll_nil (tx : Transaction) : tx.stageAll [] = tx := by
  rw [stageAll, List.append_nil]

theorem stageAll_stageAll (tx : Transaction) (ws vs : List Write) :
    (tx.stageAll ws).stageAll vs = tx.stageAll (ws ++ vs) := by
  rw [stageAll, stageAll, stageAll, List.append_assoc]

theorem log_stageAll (tx : Transaction) (ws : List Write) : (tx.stageAll ws).log = tx.log ++ ws :=
  (List.append_assoc tx.flushed tx.staged ws).symm

/-- A transaction after which there are more writes staged, all of them with a property. -/
def Stages (P : Write → Prop) (tx tx' : Transaction) : Prop :=
  ∃ ws, tx' = tx.stageAll ws ∧ ∀ v ∈ ws, P v

variable {P Q : Write → Prop} {tx tx₁ tx₂ : Transaction}

theorem Stages.refl (tx : Transaction) : Stages P tx tx := by
  refine ⟨[], (stageAll_nil tx).symm, ?_⟩
  intro v hv
  cases hv

theorem Stages.trans (h₁ : Stages P tx tx₁) (h₂ : Stages P tx₁ tx₂) : Stages P tx tx₂ := by
  obtain ⟨ws, rfl, hws⟩ := h₁
  obtain ⟨vs, rfl, hvs⟩ := h₂
  refine ⟨ws ++ vs, stageAll_stageAll tx ws vs, ?_⟩
  intro v hv
  rcases List.mem_append.1 hv with hv | hv
  · exact hws v hv
  · exact hvs v hv

theorem Stages.mono (h : Stages P tx tx₁) (hPQ : ∀ v, P v → Q v) : Stages Q tx tx₁ := by
  obtain ⟨ws, hws, hP⟩ := h
  exact ⟨ws, hws, fun v hv => hPQ v (hP v hv)⟩

theorem stages_stage {v : Write} (h : P v) : Stages P tx (tx.stage v) := by
  refine ⟨[v], rfl, ?_⟩
  intro u hu
  rw [List.mem_singleton.1 hu]
  exact h

theorem stages_persist {e : Entity} {r saved : Record} {mode : WriteMode} {stamp : Stamp}
    (h : tx.persist e r mode stamp = .ok (saved, tx₁)) :
    Stages (fun v => v.entity = e.name) tx tx₁ := by
  cases mode with
  | insert =>
    obtain ⟨-, key, -, rfl⟩ := insert_eq_ok h
    exact stages_stage rfl
  | update =>
    obtain ⟨key, current, -, -, -, rfl⟩ := update_eq_ok h
    exact stages_stage rfl

theorem stages_remove {e : Entity} {r : Record} (h : tx.remove e r = .ok tx₁) :
    Stages (fun v => v.entity = e.name) tx tx₁ := by
  obtain ⟨key, -, rfl⟩ := remove_eq_ok h
  exact stages_stage rfl

end Transaction

open Transaction (Stages)

namespace Controller

variable {c : Controller} {stamps : Stamps} {m : Model} {w w' : Transaction × Nat}

/-! ## Calls -/

theorem works_persist_iff {e : Entity} {r saved : Record} {mode : WriteMode} :
    (c.perform (.persist e r mode)).Works stamps m w saved w' ↔
      ∃ tx, w.1.persist e r mode (stamps w.2) = .ok (saved, tx) ∧ w' = (tx, w.2 + 1) := by
  rw [Program.Works, perform, Program.ask, Program.returns_askWith_iff]
  simp only [Transaction.respond, Transaction.answer]
  cases w.1.persist e r mode (stamps w.2) with
  | error failure => simp
  | ok result =>
    obtain ⟨row, tx⟩ := result
    simp only [Prod.mk.injEq, Except.ok.injEq]
    constructor
    · rintro ⟨rfl, rfl⟩
      exact ⟨tx, ⟨rfl, rfl⟩, rfl⟩
    · rintro ⟨tx', ⟨rfl, rfl⟩, rfl⟩
      exact ⟨rfl, rfl⟩

theorem works_remove_iff {e : Entity} {r : Record} {u : Unit} :
    (c.perform (.remove e r)).Works stamps m w u w' ↔
      ∃ tx, w.1.remove e r = .ok tx ∧ w' = (tx, w.2) := by
  rw [Program.Works, perform, Program.ask, Program.returns_askWith_iff]
  simp only [Transaction.respond, Transaction.answer]
  cases w.1.remove e r with
  | error failure => simp
  | ok tx => simp [eq_comm]

theorem works_flush_iff {u : Unit} :
    (c.perform .flush).Works stamps m w u w' ↔
      (w.1.flush m).2 = .ok () ∧ w' = ((w.1.flush m).1, w.2) := by
  rw [Program.Works, perform, Program.ask, Program.returns_askWith_iff]
  simp only [Transaction.respond, Transaction.answer, Prod.mk.injEq]
  constructor
  · rintro ⟨h, rfl⟩
    exact ⟨h, rfl⟩
  · rintro ⟨h, rfl⟩
    exact ⟨h, rfl⟩

/-! ## Loading -/

/-- A key selection sets no conditions, so that it can be tested on any row. -/
theorem conditions_keySelection {r : Request} {s : Selection} (h : c.keySelection r = .ok s) :
    s.conditions = [] := by
  obtain ⟨fields, -, hs⟩ := bind_eq_ok_iff.1 h
  rw [Except.ok.injEq] at hs
  rw [← hs]
  rfl

theorem mem_fieldsOf {resource : String} {params : List (String × String)} {underscore : Bool}
    {sofar fields : Record} {entries : List KeyPathEntry}
    (h : KeyPath.fieldsOf resource params underscore sofar entries = .ok fields) :
    ∀ f ∈ fields, f ∈ sofar ∨ ∃ entry ∈ entries, entry.column = f.1 := by
  induction entries generalizing sofar with
  | nil =>
    cases h
    exact fun f hf => .inl hf
  | cons entry rest ih =>
    rw [KeyPath.fieldsOf] at h
    split at h
    · cases h
    · split at h
      · intro f hf
        rcases ih h f hf with hf | ⟨other, hother, hcolumn⟩
        · rcases Fields.mem_put hf with rfl | hf
          · exact .inr ⟨entry, List.mem_cons_self, rfl⟩
          · exact .inl hf
        · exact .inr ⟨other, List.mem_cons_of_mem _ hother, hcolumn⟩
      · cases h

/-- A key selection asks for columns of the key path and of the scope. -/
theorem mem_keySelection {r : Request} {s : Selection} (h : c.keySelection r = .ok s) :
    ∀ f ∈ s.fields,
      f ∈ c.options.scope r ∨ ∃ entry ∈ c.keyPath.entries, entry.column = f.1 := by
  obtain ⟨fields, hfields, hs⟩ := bind_eq_ok_iff.1 h
  cases hs
  intro f hf
  rcases Fields.mem_overlay hf with hf | hf
  · exact .inl hf
  · rcases mem_fieldsOf hfields f hf with hnone | hentry
    · cases hnone
    · exact .inr hentry

theorem of_works_loadOne (hooks : c.options.hooks = .none) {r : Request} {populate : List String}
    {record : Record} (h : (c.loadOne r populate).Works stamps m w record w') :
    ∃ s p, c.keySelection r = .ok s ∧
      (w.1.working.rows c.entity.name).find? s.selects = some p ∧
      w.1.populate c.entity [p] populate = .ok [record] ∧ w' = w := by
  obtain ⟨s, t, hdone, h⟩ := Program.returns_bind_iff.1 h
  obtain ⟨hs, rfl⟩ := Program.returns_done_iff.1 hdone
  obtain ⟨found, t, hfind, h⟩ := Program.returns_bind_iff.1 h
  rw [Program.returns_askWith_iff] at hfind
  simp only [Transaction.respond, Transaction.answer, Prod.mk.injEq] at hfind
  obtain ⟨hfind, rfl, rfl⟩ := hfind
  cases found with
  | none => exact (Program.not_returns_fail h).elim
  | some row =>
    have hload : ((c.afterLoad r [row]).quiet : Program .transaction (List Record)) =
        pure [row] := by
      rw [afterLoad, hooks]
      rfl
    obtain ⟨rows, t, hrows, h⟩ := Program.returns_bind_iff.1 h
    rw [hload] at hrows
    obtain ⟨rfl, rfl⟩ := Program.returns_pure_iff.1 hrows
    obtain ⟨rfl, rfl⟩ := Program.returns_pure_iff.1 h
    obtain ⟨p, hp, hpopulate⟩ := Transaction.findOne_eq_ok (conditions_keySelection hs) hfind
    exact ⟨s, p, hs, hp, hpopulate, rfl⟩

/-! ## Bodies -/

theorem toMany?_eq_some {field : String} {r : Relation} (h : c.toMany? field = some r) :
    c.entity.relation? field = some r ∧ r.kind = .toMany := by
  obtain ⟨hr, hkind⟩ := Option.filter_eq_some_iff.1 h
  exact ⟨hr, beq_iff_eq.1 hkind⟩

/-- A plan is made for an array that replaces a collection whose stored rows are known. -/
theorem planChildren_eq_some {current : Record} {field : String} {payload : Json} {p : ChildPlan}
    (h : c.planChildren current field payload = .ok (some p)) :
    ∃ elements existing rows, payload = .arr elements ∧
      c.toMany? field = some p.relation ∧ c.model.entity? p.relation.target = some p.target ∧
      p.target.primaryKey ≠ [] ∧ storedChildren? current field = some existing ∧
      c.childRows field elements = .ok rows ∧
      reconcile existing
        (rows.map (withForeignKey p.relation.remoteColumn
          ((current.field? p.relation.localColumn).filter (!·.isNull))))
        p.target.key? p.target.key? = .ok p.changes := by
  unfold planChildren at h
  split at h
  · rename_i relation elements hrelation
    split at h
    · rename_i existing target hexisting htarget
      by_cases hkey : target.primaryKey.isEmpty = true
      · rw [if_pos hkey] at h
        cases h
      · rw [if_neg hkey] at h
        obtain ⟨rows, hrows, h⟩ := bind_eq_ok_iff.1 h
        dsimp only at h
        split at h
        · rename_i changes hchanges
          cases h
          refine ⟨elements, existing, rows, rfl, hrelation, htarget, ?_, hexisting, hrows, hchanges⟩
          rintro hnil
          rw [hnil] at hkey
          exact hkey rfl
        · cases h
    · cases h
  · cases h

theorem assignFields_cons {stored : Option Record} {r record : Record} {field : String} {v : Json}
    {rest : Record} {plans : List ChildPlan}
    (h : c.assignFields stored r ((field, v) :: rest) = .ok (record, plans)) :
    ∃ plan others, c.planChildren (stored.getD r) field v = .ok plan ∧
      c.assignFields stored (r.put field ((plan.map (·.resulting)).getD v)) rest =
        .ok (record, others) ∧ plans = plan.toList ++ others := by
  obtain ⟨plan, hplan, h⟩ := bind_eq_ok_iff.1 h
  obtain ⟨⟨record', others⟩, hrest, h⟩ := bind_eq_ok_iff.1 h
  simp only [Except.ok.injEq, Prod.mk.injEq] at h
  obtain ⟨rfl, rfl⟩ := h
  exact ⟨plan, others, hplan, hrest, rfl⟩

theorem sorted_assignFields {stored : Option Record} {r record body : Record}
    {plans : List ChildPlan} (hr : r.Sorted)
    (h : c.assignFields stored r body = .ok (record, plans)) : record.Sorted := by
  induction body generalizing r plans with
  | nil =>
    cases h
    exact hr
  | cons f rest ih =>
    obtain ⟨plan, others, -, hrest, -⟩ := assignFields_cons h
    exact ih (Fields.sorted_put hr _ _) hrest

/-- Of an assigned body there is stored what would be stored of it without collections. -/
theorem columnFields_assignFields (he : c.entity.IsUnshadowed) {stored : Option Record}
    {r record body : Record} {plans : List ChildPlan} (hr : r.Sorted)
    (h : c.assignFields stored r body = .ok (record, plans)) :
    c.entity.columnFields record = c.entity.columnFields (r.overlay body) := by
  induction body generalizing r plans with
  | nil =>
    cases h
    rfl
  | cons f rest ih =>
    obtain ⟨field, v⟩ := f
    obtain ⟨plan, others, hplan, hrest, -⟩ := assignFields_cons h
    have hnext := ih (Fields.sorted_put hr _ _) hrest
    rw [hnext]
    have hsame : (r.put field ((plan.map (·.resulting)).getD v)).restrict c.entity.hasColumn =
        (r.put field v).restrict c.entity.hasColumn := by
      cases plan with
      | none => rfl
      | some p =>
        obtain ⟨_, _, _, -, hmany, -⟩ := planChildren_eq_some hplan
        obtain ⟨hmem, hname⟩ := relation?_mem (toMany?_eq_some hmany).1
        have hshadow := (he p.relation hmem).2
        rw [hname] at hshadow
        rw [Fields.restrict_put hr, Fields.restrict_put hr, hshadow]
        rfl
    show ((r.put field _).overlay rest).restrict _ = ((r.put field v).overlay rest).restrict _
    rw [Fields.restrict_overlay (Fields.sorted_put hr _ _), hsame,
      Fields.restrict_overlay (Fields.sorted_put hr _ _)]

/-- Every plan of a body is made for one of its fields, for the stored instance if there is one. -/
theorem planned_of_mem_plans {stored : Option Record} {r record body : Record}
    {plans : List ChildPlan} (h : c.assignFields stored r body = .ok (record, plans)) :
    ∀ p ∈ plans, ∃ current field v, c.planChildren current field v = .ok (some p) ∧
      ∀ s, stored = some s → current = s := by
  induction body generalizing r plans with
  | nil =>
    cases h
    intro p hp
    cases hp
  | cons f rest ih =>
    obtain ⟨field, v⟩ := f
    obtain ⟨plan, others, hplan, hrest, rfl⟩ := assignFields_cons h
    intro p hp
    rcases List.mem_append.1 hp with hp | hp
    · obtain rfl := Option.mem_toList.1 hp
      refine ⟨stored.getD r, field, v, hplan, ?_⟩
      rintro s rfl
      rfl
    · exact ih hrest p hp

/-- The plans of a body are for to-many relations of the entity, each with the target that the
    model knows. -/
theorem of_mem_plans {stored : Option Record} {r record body : Record} {plans : List ChildPlan}
    (h : c.assignFields stored r body = .ok (record, plans)) :
    ∀ p ∈ plans, p.relation ∈ c.entity.relations ∧ p.relation.kind = .toMany ∧
      c.model.entity? p.relation.target = some p.target := by
  intro p hp
  obtain ⟨_, _, _, hplan, -⟩ := planned_of_mem_plans h p hp
  obtain ⟨_, _, _, -, hmany, htarget, -⟩ := planChildren_eq_some hplan
  obtain ⟨hrelation, hkind⟩ := toMany?_eq_some hmany
  exact ⟨(relation?_mem hrelation).1, hkind, htarget⟩

/-! ## Writing -/

/-- Rows are persisted one after the other. -/
theorem of_works_persistAll_cons {e : Entity} {mode : WriteMode} {row : Record}
    {rest saved : List Record}
    (h : (c.persistAll e mode (row :: rest)).Works stamps m w saved w') :
    ∃ first tx others, w.1.persist e row mode (stamps w.2) = .ok (first, tx) ∧
      (c.persistAll e mode rest).Works stamps m (tx, w.2 + 1) others w' ∧
      saved = first :: others := by
  obtain ⟨first, w₁, hfirst, h⟩ := Program.returns_bind_iff.1 h
  obtain ⟨others, w₂, hothers, h⟩ := Program.returns_bind_iff.1 h
  obtain ⟨rfl, rfl⟩ := Program.returns_pure_iff.1 h
  obtain ⟨tx, hpersist, rfl⟩ := works_persist_iff.1 hfirst
  exact ⟨first, tx, others, hpersist, hothers, rfl⟩

theorem of_works_removeAll_cons {e : Entity} {row : Record} {rest : List Record} {u : Unit}
    (h : (c.removeAll e (row :: rest)).Works stamps m w u w') :
    ∃ tx, w.1.remove e row = .ok tx ∧ (c.removeAll e rest).Works stamps m (tx, w.2) u w' := by
  obtain ⟨u, w₁, hfirst, h⟩ := Program.returns_bind_iff.1 h
  obtain ⟨tx, hremove, rfl⟩ := works_remove_iff.1 hfirst
  exact ⟨tx, hremove, h⟩

/-- What each row that is persisted keeps, all of them keep. -/
theorem works_persistAll_induction {P : Transaction → Prop} {e : Entity} {mode : WriteMode}
    {rows saved : List Record}
    (hstep : ∀ row ∈ rows, ∀ tx tx' out stamp, P tx →
      tx.persist e row mode stamp = .ok (out, tx') → P tx')
    (hw : P w.1) (h : (c.persistAll e mode rows).Works stamps m w saved w') : P w'.1 := by
  induction rows generalizing w saved with
  | nil =>
    obtain ⟨-, rfl⟩ := Program.returns_pure_iff.1 h
    exact hw
  | cons row rest ih =>
    obtain ⟨first, tx, others, hpersist, hothers, -⟩ := of_works_persistAll_cons h
    exact ih (fun r hr => hstep r (List.mem_cons_of_mem _ hr))
      (hstep row List.mem_cons_self _ _ _ _ hw hpersist) hothers

theorem works_removeAll_induction {P : Transaction → Prop} {e : Entity} {rows : List Record}
    {u : Unit} (hstep : ∀ row ∈ rows, ∀ tx tx', P tx → tx.remove e row = .ok tx' → P tx')
    (hw : P w.1) (h : (c.removeAll e rows).Works stamps m w u w') : P w'.1 := by
  induction rows generalizing w with
  | nil =>
    obtain ⟨-, rfl⟩ := Program.returns_pure_iff.1 h
    exact hw
  | cons row rest ih =>
    obtain ⟨tx, hremove, hrest⟩ := of_works_removeAll_cons h
    exact ih (fun r hr => hstep r (List.mem_cons_of_mem _ hr))
      (hstep row List.mem_cons_self _ _ hw hremove) hrest

theorem works_writePlans_induction {P : Transaction → Prop} {r out : Record}
    {plans : List ChildPlan}
    (hstep : ∀ p ∈ plans, ∀ v w children w', P w.1 →
      (c.writePlan p v).Works stamps m w children w' → P w'.1)
    (hw : P w.1) (h : (c.writePlans r plans).Works stamps m w out w') : P w'.1 := by
  induction plans generalizing r w with
  | nil =>
    obtain ⟨-, rfl⟩ := Program.returns_pure_iff.1 h
    exact hw
  | cons p plans ih =>
    obtain ⟨children, w₁, hplan, hrest⟩ := Program.returns_bind_iff.1 h
    exact ih (fun q hq => hstep q (List.mem_cons_of_mem _ hq))
      (hstep p List.mem_cons_self _ _ _ _ hw hplan) hrest

/-- Rows that are persisted stage what each of them stages. -/
theorem stages_persistAll {P : Write → Prop} {e : Entity} {mode : WriteMode}
    {rows saved : List Record}
    (hP : ∀ {tx tx' r out stamp}, Transaction.persist tx e r mode stamp = .ok (out, tx') →
      Stages P tx tx')
    (h : (c.persistAll e mode rows).Works stamps m w saved w') : Stages P w.1 w'.1 :=
  works_persistAll_induction (P := Stages P w.1)
    (fun _ _ _ _ _ _ hstages hpersist => hstages.trans (hP hpersist)) (.refl _) h

theorem stages_removeAll {e : Entity} {rows : List Record} {u : Unit}
    (h : (c.removeAll e rows).Works stamps m w u w') :
    Stages (fun v => v.entity = e.name) w.1 w'.1 :=
  works_removeAll_induction (P := Stages (fun v => v.entity = e.name) w.1)
    (fun _ _ _ _ hstages hremove => hstages.trans (Transaction.stages_remove hremove)) (.refl _) h

/-- The three parts of making the changes of a plan. -/
theorem of_works_writePlan {p : ChildPlan} {parentKey : Json} {children : List Record}
    (h : (c.writePlan p parentKey).Works stamps m w children w') :
    ∃ updated w₁ created w₂,
      (c.persistAll p.target .update (ChildPlan.rows p parentKey).1).Works stamps m w updated w₁ ∧
      (c.persistAll p.target .insert (ChildPlan.rows p parentKey).2).Works stamps m w₁ created w₂ ∧
      (c.removeAll p.target p.changes.toRemove).Works stamps m w₂ () w' ∧
      children = updated ++ created := by
  obtain ⟨updated, w₁, hupdated, h⟩ := Program.returns_bind_iff.1 h
  obtain ⟨created, w₂, hcreated, h⟩ := Program.returns_bind_iff.1 h
  obtain ⟨u, w₃, hremoved, h⟩ := Program.returns_bind_iff.1 h
  obtain ⟨rfl, rfl⟩ := Program.returns_pure_iff.1 h
  exact ⟨updated, w₁, created, w₂, hupdated, hcreated, hremoved, rfl⟩

theorem stages_writePlan {p : ChildPlan} {parentKey : Json} {children : List Record}
    (h : (c.writePlan p parentKey).Works stamps m w children w') :
    Stages (fun v => v.entity = p.target.name) w.1 w'.1 := by
  obtain ⟨updated, w₁, created, w₂, hupdated, hcreated, hremoved, -⟩ := of_works_writePlan h
  exact (stages_persistAll Transaction.stages_persist hupdated).trans
    ((stages_persistAll Transaction.stages_persist hcreated).trans (stages_removeAll hremoved))

/-- The writes of nested collections are writes of their targets. -/
theorem stages_writePlans {r out : Record} {plans : List ChildPlan}
    (h : (c.writePlans r plans).Works stamps m w out w') :
    Stages (fun v => ∃ p ∈ plans, v.entity = p.target.name) w.1 w'.1 := by
  refine works_writePlans_induction ?_ (.refl _) h
  intro p hp _ _ _ _ hstages hplan
  exact hstages.trans ((stages_writePlan hplan).mono fun v hv => ⟨p, hp, hv⟩)

theorem of_works_write {r out : Record} {mode : WriteMode} {plans : List ChildPlan}
    (h : (c.write r mode plans).Works stamps m w out w') :
    ∃ stored tx, w.1.persist c.entity r mode (stamps w.2) = .ok (stored, tx) ∧
      (c.writePlans (r.overlay stored) plans).Works stamps m (tx, w.2 + 1) out w' := by
  obtain ⟨stored, w₁, hpersist, h⟩ := Program.returns_bind_iff.1 h
  obtain ⟨tx, htx, rfl⟩ := works_persist_iff.1 hpersist
  exact ⟨stored, tx, htx, h⟩

/-- Without hooks before and after it, saving is writing. -/
theorem save_eq_write (hbefore : c.options.hooks.preSave = [])
    (hafter : c.options.hooks.postSave = []) (r : Request) (record : Record) (mode : WriteMode)
    (plans : List ChildPlan) (creating : Bool) :
    c.save r record mode plans creating = c.write record mode plans := by
  rw [save, hbefore, hafter]
  exact Program.bind_value _

theorem of_checked {result : Except Violation Unit} {u : Unit}
    (h : c.checked result = .ok u) : result = .ok () := by
  unfold checked at h
  split at h
  · rfl
  · cases h

theorem of_works_createWork (hooks : c.options.hooks = .none) {r : Request}
    {body scope out : Record} (h : (c.createWork r body scope).Works stamps m w out w') :
    ∃ record plans, c.assignFields (some []) (c.entity.blank []) body = .ok (record, plans) ∧
      validate (c.entity.columnFields (record.overlay scope)) c.entity.rules = .ok () ∧
      (c.write (record.overlay scope) .insert plans).Works stamps m w out w' := by
  unfold createWork at h
  rw [preloaded, sanitized, hooks] at h
  obtain ⟨existing, w₁, hexisting, h⟩ := Program.returns_bind_iff.1 h
  obtain ⟨rfl, rfl⟩ := Program.returns_pure_iff.1 hexisting
  obtain ⟨body', w₂, hbody, h⟩ := Program.returns_bind_iff.1 h
  obtain ⟨rfl, rfl⟩ := Program.returns_pure_iff.1 hbody
  obtain ⟨start, w₃, hstart, h⟩ := Program.returns_bind_iff.1 h
  obtain ⟨rfl, rfl⟩ := Program.returns_pure_iff.1 hstart
  obtain ⟨⟨record, plans⟩, w₄, hassigned, h⟩ := Program.returns_bind_iff.1 h
  obtain ⟨hassign, rfl⟩ := Program.returns_done_iff.1 hassigned
  obtain ⟨u, w₅, hdone, h⟩ := Program.returns_bind_iff.1 h
  obtain ⟨hchecked, rfl⟩ := Program.returns_done_iff.1 hdone
  refine ⟨record, plans, hassign, of_checked hchecked, ?_⟩
  rwa [← save_eq_write (congrArg Hooks.preSave hooks) (congrArg Hooks.postSave hooks) r _ _ _ true]

theorem of_works_updateWork (hooks : c.options.hooks = .none) {r : Request}
    {body out : Record} {populate : List String}
    (h : (c.updateWork r body populate).Works stamps m w out w') :
    ∃ loaded record plans, (c.loadOne r populate).Works stamps m w loaded w ∧
      validatePartial c.entity.rules (c.entity.columnFields body) = .ok () ∧
      c.assignFields none loaded body = .ok (record, plans) ∧
      (c.write record .update plans).Works stamps m w out w' := by
  unfold updateWork at h
  rw [sanitized, hooks] at h
  obtain ⟨loaded, w₁, hload, hrest⟩ := Program.returns_bind_iff.1 h
  obtain ⟨-, -, -, -, -, rfl⟩ := of_works_loadOne hooks hload
  obtain ⟨body', w₂, hbody, h⟩ := Program.returns_bind_iff.1 hrest
  obtain ⟨rfl, rfl⟩ := Program.returns_pure_iff.1 hbody
  obtain ⟨u, w₃, hdone, h⟩ := Program.returns_bind_iff.1 h
  obtain ⟨hchecked, rfl⟩ := Program.returns_done_iff.1 hdone
  obtain ⟨⟨record, plans⟩, w₄, hassigned, h⟩ := Program.returns_bind_iff.1 h
  obtain ⟨hassign, rfl⟩ := Program.returns_done_iff.1 hassigned
  refine ⟨loaded, record, plans, hload, of_checked hchecked, hassign, ?_⟩
  rwa [← save_eq_write (congrArg Hooks.preSave hooks) (congrArg Hooks.postSave hooks) r _ _ _ false]

theorem of_works_deleteWork (hooks : c.options.hooks = .none) {r : Request}
    {populate : List String} {u : Unit}
    (h : (c.deleteWork r populate).Works stamps m w u w') :
    ∃ loaded tx, (c.loadOne r populate).Works stamps m w loaded w ∧
      w.1.remove c.entity loaded = .ok tx ∧ (tx.flush m).2 = .ok () ∧
      w' = ((tx.flush m).1, w.2) := by
  unfold deleteWork at h
  rw [hooks] at h
  obtain ⟨loaded, w₁, hload, hrest⟩ := Program.returns_bind_iff.1 h
  obtain ⟨-, -, -, -, -, rfl⟩ := of_works_loadOne hooks hload
  obtain ⟨doomed, w₂, hdoomed, h⟩ := Program.returns_bind_iff.1 hrest
  obtain ⟨rfl, rfl⟩ := Program.returns_pure_iff.1 hdoomed
  obtain ⟨u₁, w₃, hremoved, h⟩ := Program.returns_bind_iff.1 h
  obtain ⟨-, rfl⟩ := Program.returns_pure_iff.1 h
  obtain ⟨u₂, w₄, hremove, hafter⟩ := Program.returns_bind_iff.1 hremoved
  obtain ⟨tx, htx, rfl⟩ := works_remove_iff.1 hremove
  obtain ⟨u₃, w₅, hflushed, hend⟩ := Program.returns_bind_iff.1 hafter
  obtain ⟨hflush, rfl⟩ := works_flush_iff.1 hflushed
  obtain ⟨-, rfl⟩ := Program.returns_pure_iff.1 hend
  exact ⟨loaded, tx, hload, htx, hflush, rfl⟩

/-! ## Operations that succeed -/

theorem of_works_flushed {α : Type} {work : Program .transaction α} {a : α}
    (h : (c.flushed work).Works stamps m w a w') :
    ∃ w₁, work.Works stamps m w a w₁ ∧ w'.1.log = w₁.1.log := by
  obtain ⟨b, w₁, hbefore, hrest⟩ := Program.returns_bind_iff.1 h
  obtain ⟨u, w₂, hflushed, hend⟩ := Program.returns_bind_iff.1 hrest
  obtain ⟨rfl, rfl⟩ := Program.returns_pure_iff.1 hend
  obtain ⟨hflush, rfl⟩ := works_flush_iff.1 hflushed
  exact ⟨w₁, hbefore, Transaction.log_flush_of_ok hflush⟩

/-- Work that is flushed and committed: its log is applied to the committed rows. -/
theorem of_returns_commit_flushed {α : Type} {work : Program .transaction α} {a : α}
    {client client' : Client}
    (h : (c.commit (c.flushed work)).Returns (Client.answer stamps) client a client') :
    ∃ w, work.Works stamps client.db.model (client.db.begin, client.taken) a w ∧
      applyAll client.db.model client.db.tables w.1.log = .ok client'.db.tables ∧
      client'.db.model = client.db.model := by
  obtain ⟨w, db, hwork, hcommit, rfl⟩ := c.returns_commit_iff.1 h
  obtain ⟨w₁, hbefore, hlog⟩ := of_works_flushed hwork
  refine ⟨w₁, hbefore, ?_, Database.model_commit hcommit⟩
  rw [← hlog]
  exact Database.commit_tables hcommit

/-- A creation that succeeds: the new instance is staged before its children. -/
structure Creation (c : Controller) (stamps : Stamps) (client : Client) (r : Request)
    (out : Record) (client' : Client) where
  body : Record
  record : Record
  plans : List ChildPlan
  stored : Record
  tx : Transaction
  ended : Transaction × Nat
  hasBody : c.bodyObject r = .ok body
  assigned : c.assignFields (some []) (c.entity.blank []) body = .ok (record, plans)
  valid : validate (c.entity.columnFields (record.overlay (c.options.scope r))) c.entity.rules =
    .ok ()
  persisted : client.db.begin.insert c.entity (record.overlay (c.options.scope r))
    (stamps client.taken) = .ok (stored, tx)
  children : (c.writePlans ((record.overlay (c.options.scope r)).overlay stored) plans).Works
    stamps client.db.model (tx, client.taken + 1) out ended
  applied : applyAll client.db.model client.db.tables ended.1.log = .ok client'.db.tables
  model : client'.db.model = client.db.model

/-- An update that succeeds: the instance is staged over the row that its key has by then, before
    its children. -/
structure Update (c : Controller) (stamps : Stamps) (client : Client) (r : Request)
    (out : Record) (client' : Client) where
  body : Record
  names : List String
  selection : Selection
  row : Record
  loaded : Record
  record : Record
  plans : List ChildPlan
  stored : Record
  tx : Transaction
  ended : Transaction × Nat
  hasBody : c.bodyObject r = .ok body
  selected : c.keySelection r = .ok selection
  found : (client.db.rows c.entity.name).find? selection.selects = some row
  populated : client.db.begin.populate c.entity [row]
    (addNames names (c.replacedCollections body)) = .ok [loaded]
  valid : validatePartial c.entity.rules (c.entity.columnFields body) = .ok ()
  assigned : c.assignFields none loaded body = .ok (record, plans)
  persisted : client.db.begin.update c.entity record (stamps client.taken) = .ok (stored, tx)
  children : (c.writePlans (record.overlay stored) plans).Works stamps client.db.model
    (tx, client.taken + 1) out ended
  applied : applyAll client.db.model client.db.tables ended.1.log = .ok client'.db.tables
  model : client'.db.model = client.db.model

/-- A deletion that succeeds. -/
structure Deletion (c : Controller) (client : Client) (r : Request) (client' : Client) where
  names : List String
  selection : Selection
  row : Record
  loaded : Record
  key : RowKey
  selected : c.keySelection r = .ok selection
  found : (client.db.rows c.entity.name).find? selection.selects = some row
  populated : client.db.begin.populate c.entity [row] names = .ok [loaded]
  hasKey : c.entity.key? loaded = some key
  applied : applyAll client.db.model client.db.tables [.remove c.entity.name key] =
    .ok client'.db.tables
  model : client'.db.model = client.db.model

variable {client client' : Client} {r : Request} {out : Record}

/-- A creation that succeeds, with the work that it does in its transaction. -/
theorem creation_of_returns (hooks : c.options.hooks = .none)
    (h : (c.createOne r).Returns (Client.answer stamps) client out client') :
    ∃ creation : c.Creation stamps client r out client',
      (c.createWork r creation.body (c.options.scope r)).Works stamps client.db.model
        (client.db.begin, client.taken) out creation.ended := by
  obtain ⟨body, t, hdone, hcommit⟩ := Program.returns_bind_iff.1 h
  obtain ⟨hbody, rfl⟩ := Program.returns_done_iff.1 hdone
  obtain ⟨ended, hwork, happly, hmodel⟩ := of_returns_commit_flushed hcommit
  obtain ⟨record, plans, hassign, hvalid, hwrite⟩ := of_works_createWork hooks hwork
  obtain ⟨stored, tx, hpersist, hchildren⟩ := of_works_write hwrite
  exact ⟨⟨body, record, plans, stored, tx, ended, hbody, hassign, hvalid, hpersist, hchildren,
    happly, hmodel⟩, hwork⟩

theorem of_returns_createOne (hooks : c.options.hooks = .none)
    (h : (c.createOne r).Returns (Client.answer stamps) client out client') :
    Nonempty (c.Creation stamps client r out client') := by
  obtain ⟨creation, -⟩ := creation_of_returns hooks h
  exact ⟨creation⟩

/-- An update that succeeds, with the work that it does in its transaction. It populates the
    relations that a request for one instance shows, and the collections that the body
    replaces. -/
theorem update_works_of_returns (hooks : c.options.hooks = .none)
    (h : (c.updateOne r).Returns (Client.answer stamps) client out client') :
    ∃ update : c.Update stamps client r out client',
      c.populateNames r c.options.populate.one = .ok update.names ∧
        (c.updateWork r update.body
          (addNames update.names (c.replacedCollections update.body))).Works stamps
          client.db.model (client.db.begin, client.taken) out update.ended := by
  obtain ⟨body, t, hdone, hrest⟩ := Program.returns_bind_iff.1 h
  obtain ⟨hbody, rfl⟩ := Program.returns_done_iff.1 hdone
  obtain ⟨names, t, hnamed, hcommit⟩ := Program.returns_bind_iff.1 hrest
  obtain ⟨hnames, rfl⟩ := Program.returns_done_iff.1 hnamed
  obtain ⟨ended, hwork, happly, hmodel⟩ := of_returns_commit_flushed hcommit
  obtain ⟨loaded, record, plans, hload, hvalid, hassign, hwrite⟩ := of_works_updateWork hooks hwork
  obtain ⟨s, row, hs, hfound, hpopulated, -⟩ := of_works_loadOne hooks hload
  obtain ⟨stored, tx, hpersist, hchildren⟩ := of_works_write hwrite
  exact ⟨⟨body, names, s, row, loaded, record, plans, stored, tx, ended, hbody, hs, hfound,
    hpopulated, hvalid, hassign, hpersist, hchildren, happly, hmodel⟩, hnames, hwork⟩

theorem update_of_returns (hooks : c.options.hooks = .none)
    (h : (c.updateOne r).Returns (Client.answer stamps) client out client') :
    ∃ update : c.Update stamps client r out client',
      c.populateNames r c.options.populate.one = .ok update.names := by
  obtain ⟨update, hnames, -⟩ := update_works_of_returns hooks h
  exact ⟨update, hnames⟩

theorem of_returns_updateOne (hooks : c.options.hooks = .none)
    (h : (c.updateOne r).Returns (Client.answer stamps) client out client') :
    Nonempty (c.Update stamps client r out client') := by
  obtain ⟨update, -⟩ := update_of_returns hooks h
  exact ⟨update⟩

/-- A deletion that succeeds, with the work that it does in its transaction. -/
theorem deletion_of_returns (hooks : c.options.hooks = .none) {u : Unit}
    (h : (c.deleteOne r).Returns (Client.answer stamps) client u client') :
    ∃ (deletion : c.Deletion client r client') (w : Transaction × Nat),
      c.populateNames r c.options.populate.one = .ok deletion.names ∧
        (c.deleteWork r deletion.names).Works stamps client.db.model
          (client.db.begin, client.taken) u w ∧
        w.1.log = [.remove c.entity.name deletion.key] := by
  obtain ⟨names, t, hnamed, hcommit⟩ := Program.returns_bind_iff.1 h
  obtain ⟨hnames, rfl⟩ := Program.returns_done_iff.1 hnamed
  obtain ⟨w, db, hwork, hcommitted, rfl⟩ := c.returns_commit_iff.1 hcommit
  obtain ⟨loaded, tx, hload, hremove, hflush, rfl⟩ := of_works_deleteWork hooks hwork
  obtain ⟨s, row, hs, hfound, hpopulated, -⟩ := of_works_loadOne hooks hload
  obtain ⟨key, hkey, rfl⟩ := Transaction.remove_eq_ok hremove
  have hlog := Transaction.log_flush_of_ok hflush
  have happly := Database.commit_tables hcommitted
  change applyAll _ _ (Transaction.log _) = _ at happly
  rw [hlog] at happly
  exact ⟨⟨names, s, row, loaded, key, hs, hfound, hpopulated, hkey, happly,
    Database.model_commit hcommitted⟩, _, hnames, hwork, hlog⟩

theorem of_returns_deleteOne (hooks : c.options.hooks = .none) {u : Unit}
    (h : (c.deleteOne r).Returns (Client.answer stamps) client u client') :
    Nonempty (c.Deletion client r client') := by
  obtain ⟨deletion, -⟩ := deletion_of_returns hooks h
  exact ⟨deletion⟩

end Controller

end Depot
