import Depot.Proofs.Controller.HookFree
import Mathlib.Data.List.Forall2

/-!
# The collection that a body replaces

A body that gives one collection an array comes to one plan, which compares the array with the
rows that are stored. What the plan writes is described row by row: updates go over committed
rows as long as their keys are different, since then none of them goes over another one.

* `Overwrites`, `Creates`, `Drops`: the writes that a row becomes.

Results:
* `of_assignFields`: the plan of a body with one array for a collection.
* `exists_assignFields`: a body each field of which can be planned for is assigned.
* `planChildren_eq_ok`, `planChildren_of_reconcile`: an array for stored rows is planned.
* `stageAll_of_works_writePlan`: what a plan writes.
* `mem_replacedCollections`, `of_mem_replacedCollections`: the collections that a body replaces.
-/

namespace Depot

/-! ## Writes of rows -/

/-- The write of an update: over the row of its key, with a time taken from `n` on. -/
def Overwrites (e : Entity) (stamps : Stamps) (n : Nat) (rows : List Record) (row : Record)
    (v : Write) : Prop :=
  ∃ key current i, n ≤ i ∧ e.key? (e.columnFields row) = some key ∧
    findRow? e key rows = some current ∧
    v = .update e.name key (Transaction.touch e (stamps i) current (e.columnFields row))

/-- The write of an insertion: the row with its defaults, under the key that it has by then. -/
def Creates (e : Entity) (stamps : Stamps) (row : Record) (v : Write) : Prop :=
  ∃ (tx : Transaction) (i : Nat) (out : Record) (key : RowKey),
    tx.fillDefaults e (stamps i) (e.columnFields row) = .ok out ∧ e.key? out = some key ∧
    v = .insert e.name key out

/-- The write of a removal. -/
def Drops (e : Entity) (row : Record) (v : Write) : Prop :=
  ∃ key, e.key? row = some key ∧ v = .remove e.name key

theorem Overwrites.mono {e : Entity} {stamps : Stamps} {n n' : Nat} {rows : List Record}
    {row : Record} {v : Write} (h : Overwrites e stamps n rows row v) (hn : n' ≤ n) :
    Overwrites e stamps n' rows row v := by
  obtain ⟨key, current, i, hi, hv⟩ := h
  exact ⟨key, current, i, Nat.le_trans hn hi, hv⟩

/-- A key that no staged write is for names the row that is stored. -/
theorem Transaction.current?_eq_findRow? {tx : Transaction} {e : Entity} {key : RowKey}
    (h : ∀ v ∈ tx.staged, v.targets e.name key = false) :
    tx.current? e key = findRow? e key (tx.working.rows e.name) := by
  have hnone : tx.staged.reverse.find? (·.targets e.name key) = none := by
    rw [List.find?_eq_none]
    intro v hv
    rw [h v (List.mem_reverse.1 hv)]
    exact Bool.false_ne_true
  rw [current?, hnone]

namespace Controller

variable {c : Controller} {stamps : Stamps} {m : Model} {w w' : Transaction × Nat} {e : Entity}
  {rows saved : List Record}

/-- Updates of different keys, none of which a staged write is for, go over stored rows. -/
theorem of_works_persistAll_update
    (hfree : ∀ row ∈ rows, ∀ key, e.key? (e.columnFields row) = some key →
      ∀ v ∈ w.1.staged, v.targets e.name key = false)
    (hdistinct : rows.Pairwise fun a b => e.key? (e.columnFields a) ≠ e.key? (e.columnFields b))
    (h : (c.persistAll e .update rows).Works stamps m w saved w') :
    ∃ ws, w'.1 = w.1.stageAll ws ∧
      List.Forall₂ (Overwrites e stamps w.2 (w.1.working.rows e.name)) rows ws := by
  induction rows generalizing w saved with
  | nil =>
    obtain ⟨-, rfl⟩ := Program.returns_pure_iff.1 h
    exact ⟨[], (Transaction.stageAll_nil _).symm, .nil⟩
  | cons row rest ih =>
    obtain ⟨first, tx, others, hpersist, hothers, -⟩ := of_works_persistAll_cons h
    obtain ⟨key, current, hkey, hcurrent, rfl, rfl⟩ := Transaction.update_eq_ok hpersist
    obtain ⟨hrow, hrest⟩ := List.pairwise_cons.1 hdistinct
    rw [Transaction.current?_eq_findRow? (hfree row List.mem_cons_self key hkey)] at hcurrent
    -- the write of the first row is for another key than those of the rest
    have hfree' : ∀ row' ∈ rest, ∀ key', e.key? (e.columnFields row') = some key' →
        ∀ v ∈ (w.1.stage (.update e.name key
          (Transaction.touch e (stamps w.2) current (e.columnFields row)))).staged,
          v.targets e.name key' = false := by
      intro row' hrow' key' hkey' v hv
      rcases List.mem_append.1 hv with hv | hv
      · exact hfree row' (List.mem_cons_of_mem _ hrow') key' hkey' v hv
      · rw [List.mem_singleton.1 hv, Write.targets, Bool.and_eq_false_iff]
        refine .inr (beq_eq_false_iff_ne.2 ?_)
        intro hsame
        apply hrow row' hrow'
        rw [hkey, hkey', ← hsame]
        rfl
    obtain ⟨ws, hws, hforall⟩ := ih hfree' hrest hothers
    refine ⟨_ :: ws, ?_, .cons ⟨key, current, w.2, Nat.le_refl _, hkey, hcurrent, rfl⟩ ?_⟩
    · rw [hws]
      exact Transaction.stageAll_stageAll _ [_] ws
    · exact hforall.imp fun _ _ hv => hv.mono (Nat.le_succ _)

theorem of_works_persistAll_insert (h : (c.persistAll e .insert rows).Works stamps m w saved w') :
    ∃ ws, w'.1 = w.1.stageAll ws ∧ List.Forall₂ (Creates e stamps) rows ws := by
  induction rows generalizing w saved with
  | nil =>
    obtain ⟨-, rfl⟩ := Program.returns_pure_iff.1 h
    exact ⟨[], (Transaction.stageAll_nil _).symm, .nil⟩
  | cons row rest ih =>
    obtain ⟨first, tx, others, hpersist, hothers, -⟩ := of_works_persistAll_cons h
    obtain ⟨hfill, key, hkey, rfl⟩ := Transaction.insert_eq_ok hpersist
    obtain ⟨ws, hws, hforall⟩ := ih hothers
    refine ⟨_ :: ws, ?_, .cons ⟨w.1, w.2, first, key, hfill, hkey, rfl⟩ hforall⟩
    rw [hws]
    exact Transaction.stageAll_stageAll _ [_] ws

theorem of_works_removeAll {u : Unit} (h : (c.removeAll e rows).Works stamps m w u w') :
    ∃ ws, w'.1 = w.1.stageAll ws ∧ List.Forall₂ (Drops e) rows ws := by
  induction rows generalizing w with
  | nil =>
    obtain ⟨-, rfl⟩ := Program.returns_pure_iff.1 h
    exact ⟨[], (Transaction.stageAll_nil _).symm, .nil⟩
  | cons row rest ih =>
    obtain ⟨tx, hremove, hothers⟩ := of_works_removeAll_cons h
    obtain ⟨key, hkey, rfl⟩ := Transaction.remove_eq_ok hremove
    obtain ⟨ws, hws, hforall⟩ := ih hothers
    refine ⟨_ :: ws, ?_, .cons ⟨key, hkey, rfl⟩ hforall⟩
    rw [hws]
    exact Transaction.stageAll_stageAll _ [_] ws

/-- What a plan writes whose updates are for different keys. -/
theorem stageAll_of_works_writePlan {p : ChildPlan} {parentKey : Json} {children : List Record}
    (hfree : ∀ v ∈ w.1.staged, v.entity ≠ p.target.name)
    (hdistinct : (ChildPlan.rows p parentKey).1.Pairwise fun a b =>
      p.target.key? (p.target.columnFields a) ≠ p.target.key? (p.target.columnFields b))
    (h : (c.writePlan p parentKey).Works stamps m w children w') :
    ∃ updates inserts removes, w'.1 = w.1.stageAll (updates ++ (inserts ++ removes)) ∧
      List.Forall₂ (Overwrites p.target stamps w.2 (w.1.working.rows p.target.name))
        (ChildPlan.rows p parentKey).1 updates ∧
      List.Forall₂ (Creates p.target stamps) (ChildPlan.rows p parentKey).2 inserts ∧
      List.Forall₂ (Drops p.target) p.changes.toRemove removes ∧
      ∀ v ∈ updates ++ (inserts ++ removes), v.entity = p.target.name := by
  obtain ⟨ws, hstaged, hentity⟩ := stages_writePlan h
  obtain ⟨updated, w₁, created, w₂, hupdated, hcreated, hremoved, -⟩ := of_works_writePlan h
  have hfree' : ∀ row ∈ (ChildPlan.rows p parentKey).1, ∀ key,
      p.target.key? (p.target.columnFields row) = some key →
        ∀ v ∈ w.1.staged, v.targets p.target.name key = false := by
    intro row _ key _ v hv
    rw [Write.targets, beq_eq_false_iff_ne.2 (hfree v hv), Bool.false_and]
  obtain ⟨updates, hu, hupdates⟩ := of_works_persistAll_update hfree' hdistinct hupdated
  obtain ⟨inserts, hi, hinserts⟩ := of_works_persistAll_insert hcreated
  obtain ⟨removes, hr, hremoves⟩ := of_works_removeAll hremoved
  have hall : w'.1 = w.1.stageAll (updates ++ (inserts ++ removes)) := by
    rw [hr, hi, hu, Transaction.stageAll_stageAll, Transaction.stageAll_stageAll]
  obtain rfl : ws = updates ++ (inserts ++ removes) :=
    List.append_cancel_left (congrArg Transaction.staged (hstaged.symm.trans hall))
  exact ⟨updates, inserts, removes, hall, hupdates, hinserts, hremoves, hentity⟩

/-! ## Plans of a body -/

theorem objects_map_obj (rows : List Record) : objects (rows.map .obj) = rows := by
  rw [objects, List.filterMap_map]
  exact List.filterMap_some

theorem childRows_eq_ok {field : String} {elements : List Json}
    (h : c.childRows field elements = .ok rows) : elements = rows.map .obj := by
  induction elements generalizing rows with
  | nil =>
    cases h
    rfl
  | cons v rest ih =>
    cases v with
    | obj row =>
      obtain ⟨others, hothers, h⟩ := bind_eq_ok_iff.1 h
      cases h
      rw [ih hothers, List.map_cons]
    | _ => cases h

/-- There is no plan for a value that is no array or is for no collection. -/
theorem planChildren_eq_none {current : Record} {field : String} {payload : Json}
    (h : ∀ elements, payload = .arr elements → c.toMany? field = none) :
    c.planChildren current field payload = .ok none := by
  unfold planChildren
  split
  · rename_i relation elements hrelation
    rw [h elements rfl] at hrelation
    cases hrelation
  · rfl

/-- An array for a collection whose stored rows are known is planned. -/
theorem planChildren_eq_ok {current : Record} {field : String} {elements : List Json}
    {plan : Option ChildPlan} {relation : Relation} {target : Entity} {existing : List Record}
    (hrelation : c.toMany? field = some relation)
    (htarget : c.model.entity? relation.target = some target) (hkey : target.primaryKey ≠ [])
    (hexisting : storedChildren? current field = some existing)
    (h : c.planChildren current field (.arr elements) = .ok plan) :
    ∃ (rows : List Record) (changes : Reconciliation Record Record),
      elements = rows.map .obj ∧ plan = some ⟨relation, target, changes⟩ ∧
      reconcile existing
        (rows.map (withForeignKey relation.remoteColumn
          ((current.field? relation.localColumn).filter (!·.isNull))))
        target.key? target.key? = .ok changes := by
  have hnonempty : ¬target.primaryKey.isEmpty = true := by rwa [List.isEmpty_iff]
  simp only [planChildren, hrelation, hexisting, htarget] at h
  rw [if_neg hnonempty] at h
  obtain ⟨rows, hrows, h⟩ := bind_eq_ok_iff.1 h
  split at h
  · rename_i changes hchanges
    cases h
    exact ⟨rows, changes, childRows_eq_ok hrows, rfl, hchanges⟩
  · cases h

theorem childRows_map_obj (c : Controller) (field : String) (rows : List Record) :
    c.childRows field (rows.map .obj) = .ok rows := by
  induction rows with
  | nil => rfl
  | cons row rest ih =>
    rw [List.map_cons, childRows, ih]
    rfl

/-- An array of objects that can replace the stored rows is planned. -/
theorem planChildren_of_reconcile {current : Record} {field : String} {relation : Relation}
    {target : Entity} {existing : List Record} {changes : Reconciliation Record Record}
    (hrelation : c.toMany? field = some relation)
    (htarget : c.model.entity? relation.target = some target) (hkey : target.primaryKey ≠ [])
    (hexisting : storedChildren? current field = some existing)
    (hrec : reconcile existing
      (rows.map (withForeignKey relation.remoteColumn
        ((current.field? relation.localColumn).filter (!·.isNull))))
      target.key? target.key? = .ok changes) :
    c.planChildren current field (.arr (rows.map .obj)) =
      .ok (some ⟨relation, target, changes⟩) := by
  have hnonempty : ¬target.primaryKey.isEmpty = true := by rwa [List.isEmpty_iff]
  simp only [planChildren, hrelation, hexisting, htarget]
  rw [if_neg hnonempty]
  refine bind_eq_ok_iff.2 ⟨rows, childRows_map_obj c field rows, ?_⟩
  rw [hrec]

theorem plans_eq_nil {stored : Option Record} {r record body : Record} {plans : List ChildPlan}
    (hbody : ∀ f ∈ body, ∀ items, f.2 = .arr items → c.toMany? f.1 = none)
    (h : c.assignFields stored r body = .ok (record, plans)) : plans = [] := by
  induction body generalizing r plans with
  | nil =>
    cases h
    rfl
  | cons f rest ih =>
    obtain ⟨plan, others, hplan, hrest, rfl⟩ := assignFields_cons h
    rw [planChildren_eq_none (hbody f List.mem_cons_self)] at hplan
    cases hplan
    exact ih (fun g hg => hbody g (List.mem_cons_of_mem _ hg)) hrest

/-- Setting the first field of a body changes neither another field nor those that the body
    lacks. -/
theorem field?_of_put {f : String × Json} {rest r current : Record} {v : Json} {field : String}
    (hf : f.1 ≠ field)
    (h : ∀ k, k = field ∨ Fields.field? rest k = none →
      current.field? k = (r.put f.1 v).field? k) :
    ∀ k, k = field ∨ Fields.field? (f :: rest) k = none → current.field? k = r.field? k := by
  intro k hk
  rw [Fields.field?_cons] at hk
  have hfk : f.1 ≠ k := by
    rintro rfl
    rcases hk with hk | hk
    · exact hf hk
    · rw [if_pos rfl] at hk
      cases hk
  rw [if_neg hfk] at hk
  rw [h k hk, Fields.field?_put, if_neg hfk]

/-- The only plan of a body with one array for a collection. It is made of the instance as it is
    by then, whose other fields are those from before unless the body has set them. -/
theorem of_assignFields {field : String} {elements : List Json} {r record body : Record}
    {plans : List ChildPlan} (hsorted : body.Sorted) (harray : (field, .arr elements) ∈ body)
    (honly : ∀ f ∈ body, f.1 ≠ field → ∀ items, f.2 = .arr items → c.toMany? f.1 = none)
    (h : c.assignFields none r body = .ok (record, plans)) :
    ∃ plan current, c.planChildren current field (.arr elements) = .ok plan ∧
      plans = plan.toList ∧
      ∀ k, k = field ∨ body.field? k = none → current.field? k = r.field? k := by
  induction body generalizing r plans with
  | nil => cases harray
  | cons f rest ih =>
    obtain ⟨hfirst, hrest⟩ := List.pairwise_cons.1 hsorted
    obtain ⟨plan, others, hplan, hassign, rfl⟩ := assignFields_cons h
    have honly' := fun g hg => honly g (List.mem_cons_of_mem f hg)
    by_cases hf : f.1 = field
    · -- the array is here, since each key occurs once
      have hne : ∀ g ∈ rest, g.1 ≠ field := by
        rintro g hg rfl
        exact String.lt_irrefl f.1 (hf ▸ hfirst g hg)
      have hvalue : f.2 = .arr elements := by
        rcases List.mem_cons.1 harray with hhere | hlater
        · rw [← hhere]
        · exact absurd rfl (hne _ hlater)
      have hnil : others = [] := plans_eq_nil (fun g hg => honly' g hg (hne g hg)) hassign
      rw [hf, hvalue] at hplan
      refine ⟨plan, r, hplan, ?_, fun _ _ => rfl⟩
      rw [hnil, List.append_nil]
    · have hlater : (field, .arr elements) ∈ rest := by
        rcases List.mem_cons.1 harray with hhere | hlater
        · rw [← hhere] at hf
          exact absurd rfl hf
        · exact hlater
      rw [planChildren_eq_none (honly f List.mem_cons_self hf)] at hplan
      cases hplan
      obtain ⟨plan, current, hplan, hothers, hcurrent⟩ := ih hrest hlater honly' hassign
      exact ⟨plan, current, hplan, hothers, field?_of_put hf hcurrent⟩

/-- A body can be assigned if each of its fields can be planned for, with the field and those that
    the body lacks as they are in the instance. -/
theorem exists_assignFields {r body : Record} (hsorted : body.Sorted)
    (hplan : ∀ f ∈ body, ∀ current : Record,
      (∀ k, k = f.1 ∨ body.field? k = none → current.field? k = r.field? k) →
        ∃ plan, c.planChildren current f.1 f.2 = .ok plan) :
    ∃ record plans, c.assignFields none r body = .ok (record, plans) := by
  induction body generalizing r with
  | nil => exact ⟨r, [], rfl⟩
  | cons f rest ih =>
    obtain ⟨hfirst, hrest⟩ := List.pairwise_cons.1 hsorted
    obtain ⟨plan, hfield⟩ := hplan f List.mem_cons_self r fun _ _ => rfl
    have hothers : ∀ g ∈ rest, ∀ current : Record,
        (∀ k, k = g.1 ∨ Fields.field? rest k = none →
          current.field? k = (r.put f.1 ((plan.map (·.resulting)).getD f.2)).field? k) →
          ∃ plan, c.planChildren current g.1 g.2 = .ok plan := by
      intro g hg current hcurrent
      have hne : f.1 ≠ g.1 := fun hsame => String.lt_irrefl f.1 (hsame ▸ hfirst g hg)
      exact hplan g (List.mem_cons_of_mem _ hg) current (field?_of_put hne hcurrent)
    obtain ⟨record, others, hassign⟩ := ih hrest hothers
    exact ⟨record, plan.toList ++ others, bind_eq_ok_iff.2 ⟨plan, hfield,
      bind_eq_ok_iff.2 ⟨(record, others), hassign, rfl⟩⟩⟩

/-! ## Populated collections -/

theorem mem_addNames {names more : List String} {name : String} :
    name ∈ addNames names more ↔ name ∈ names ∨ name ∈ more := by
  induction more generalizing names with
  | nil => simp [addNames]
  | cons n more ih =>
    rw [addNames, ih]
    by_cases hn : names.contains n = true
    · rw [if_pos hn, List.mem_cons]
      have hmem : name = n → name ∈ names := fun h => h ▸ List.contains_iff_mem.1 hn
      tauto
    · rw [if_neg hn, List.mem_append, List.mem_singleton, List.mem_cons, or_assoc]

theorem mem_replacedCollections {body : Record} {field : String} {elements : List Json}
    (harray : (field, .arr elements) ∈ body) (hmany : (c.toMany? field).isSome) :
    field ∈ c.replacedCollections body := by
  rw [replacedCollections, List.mem_map]
  exact ⟨_, List.mem_filter.2 ⟨harray, by rw [hmany]; rfl⟩, rfl⟩

theorem of_mem_replacedCollections {body : Record} {name : String}
    (h : name ∈ c.replacedCollections body) : ∃ relation, c.toMany? name = some relation := by
  obtain ⟨f, hf, rfl⟩ := List.mem_map.1 h
  exact Option.isSome_iff_exists.1 (Bool.and_eq_true_iff.1 (List.mem_filter.1 hf).2).2

theorem isSome_relation?_of_mem_replacedCollections (body : Record) :
    ∀ name ∈ c.replacedCollections body, (c.entity.relation? name).isSome = true := by
  intro name hname
  obtain ⟨relation, hrelation⟩ := of_mem_replacedCollections hname
  exact Option.isSome_of_eq_some (toMany?_eq_some hrelation).1

end Controller

end Depot
