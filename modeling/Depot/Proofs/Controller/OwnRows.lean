import Depot.Proofs.Controller.HookFree
import Depot.Proofs.Store.Defaults
import Depot.Proofs.Store.Rows

/-!
# What operations do to the rows of their own entity

An operation that succeeds adds one row of the controller's entity, replaces one or takes one out.
Nested collections do not touch these rows, as long as their targets are other entities.

* `Controller.IsPlain`: a controller without hooks on a consistent model.
* `Controller.KeepsApart`: the entity is not the target of one of its own to-many relations.
* `Controller.replacement?`: the row that an update writes over, and what it becomes.
* `Controller.removed?`: the row that a deletion takes out.

Results:
* `of_build`, `isPlain_of_build`: the controllers that can be built, and on a resolved model.
* `rows_creation`, `rows_update`, `rows_deletion`: the rows after each operation.
* `isKeyed_creation`, `isKeyed_update`, `isKeyed_deletion`: rows with keys keep them.
-/

namespace Depot

namespace Controller

/-- A controller without hooks on a consistent model, which knows its entity. -/
structure IsPlain (c : Controller) : Prop where
  consistent : c.model.IsConsistent
  known : c.model.entity? c.entity.name = some c.entity
  hooks : c.options.hooks = .none

/-- The entity of a controller is not the target of one of its own to-many relations. -/
def KeepsApart (c : Controller) : Prop :=
  ∀ r ∈ c.entity.relations, r.kind = .toMany → r.target ≠ c.entity.name

theorem refuse_eq_ok {resource : String} {bad : Option String} {say : String → String} {u : Unit}
    (h : refuse resource bad say = .ok u) : bad = none := by
  cases bad with
  | none => rfl
  | some name => cases h

/-- A controller that is built knows its entity in the model, and its options pass the checks. -/
theorem of_build {m : Model} {resource entity : String} {o : Options} {c : Controller}
    (h : build m resource entity o = .ok c) :
    c.model = m ∧ m.entity? entity = some c.entity ∧ c.options = o ∧
      checkedKeyPath resource c.entity o.keyPath = .ok c.keyPath ∧
      o.searchable.find? (!c.entity.hasColumn ·) = none ∧
      (o.populate.one ++ o.populate.many).find? (c.entity.relation? · |>.isNone) = none ∧
      (c.defaultSort.map (·.field)).find? (!c.entity.hasColumn ·) = none := by
  unfold build at h
  cases he : m.entity? entity with
  | none => rw [he] at h; cases h
  | some e =>
    simp only [he] at h
    obtain ⟨keyPath, hpath, h⟩ := bind_eq_ok_iff.1 h
    obtain ⟨u₁, hsearchable, h⟩ := bind_eq_ok_iff.1 h
    obtain ⟨u₂, hpopulate, h⟩ := bind_eq_ok_iff.1 h
    obtain ⟨sort, -, h⟩ := bind_eq_ok_iff.1 h
    obtain ⟨u₃, hsort, h⟩ := bind_eq_ok_iff.1 h
    cases h
    exact ⟨rfl, rfl, rfl, hpath, refuse_eq_ok hsearchable, refuse_eq_ok hpopulate,
      refuse_eq_ok hsort⟩

theorem build_eq_ok {m : Model} {resource entity : String} {o : Options} {c : Controller}
    (h : build m resource entity o = .ok c) :
    c.model = m ∧ m.entity? entity = some c.entity ∧ c.options = o := by
  obtain ⟨hmodel, hentity, hoptions, -⟩ := of_build h
  exact ⟨hmodel, hentity, hoptions⟩

theorem isPlain_of_build {config : ModelConfig} {m : Model} {resource entity : String}
    {o : Options} {c : Controller} (hm : config.resolve = .ok m)
    (hc : build m resource entity o = .ok c) (hooks : o.hooks = .none) : c.IsPlain := by
  obtain ⟨rfl, hentity, rfl⟩ := build_eq_ok hc
  exact ⟨isConsistent_of_resolve hm, entity?_name hentity, hooks⟩

variable {c : Controller} {stamps : Stamps} {client client' : Client} {r : Request}
  {out : Record}

theorem IsPlain.mem (hc : c.IsPlain) : c.entity ∈ c.model.entities := entity?_mem hc.known

/-- A key is read off the columns. -/
theorem IsPlain.key?_columnFields (hc : c.IsPlain) (record : Record) :
    c.entity.key? (c.entity.columnFields record) = c.entity.key? record := by
  apply key?_congr
  intro k hk
  rw [Entity.columnFields, Fields.field?_restrict,
    if_pos (hc.consistent.key c.entity hc.mem k hk)]

theorem IsPlain.isUnshadowed (hc : c.IsPlain) : c.entity.IsUnshadowed :=
  hc.consistent.isUnshadowed hc.mem

/-- A row keeps its key when relations are populated. -/
theorem IsPlain.key?_of_isPopulated (hc : c.IsPlain) {tx : Transaction} {row record : Record}
    {names : List String} (h : tx.IsPopulated c.entity row record names) :
    c.entity.key? record = c.entity.key? row :=
  key?_congr fun k hk => h.columns k (hc.consistent.key c.entity hc.mem k hk)

/-- The row that an update writes over, and the row that it puts in its place. What is written is
    the selected row under the body, and the row that it is written over is the one that has its
    key by then. -/
def replacement? (c : Controller) (stamps : Stamps) (client : Client) (r : Request) :
    Option (Record × Record) := do
  let body ← (c.bodyObject r).toOption
  let s ← (c.keySelection r).toOption
  let row ← (client.db.rows c.entity.name).find? s.selects
  let written := c.entity.columnFields (row.overlay body)
  let key ← c.entity.key? written
  let current ← findRow? c.entity key (client.db.rows c.entity.name)
  some (current, Transaction.touch c.entity (stamps client.taken) current written)

/-- The row that a deletion takes out: the first one with the key of the selected row. -/
def removed? (c : Controller) (client : Client) (r : Request) : Option Record := do
  let s ← (c.keySelection r).toOption
  let row ← (client.db.rows c.entity.name).find? s.selects
  let key ← c.entity.key? row
  findRow? c.entity key (client.db.rows c.entity.name)

theorem toOption_eq_some {ε α : Type} {x : Except ε α} {a : α} (h : x.toOption = some a) :
    x = .ok a := by
  cases x with
  | error e => cases h
  | ok b =>
    cases h
    rfl

theorem replacement?_eq_some {current stored : Record}
    (h : c.replacement? stamps client r = some (current, stored)) :
    ∃ body s row key, c.bodyObject r = .ok body ∧ c.keySelection r = .ok s ∧
      (client.db.rows c.entity.name).find? s.selects = some row ∧
      c.entity.key? (c.entity.columnFields (row.overlay body)) = some key ∧
      findRow? c.entity key (client.db.rows c.entity.name) = some current ∧
      stored = Transaction.touch c.entity (stamps client.taken) current
        (c.entity.columnFields (row.overlay body)) := by
  obtain ⟨body, hbody, h⟩ := Option.bind_eq_some_iff.1 h
  obtain ⟨s, hs, h⟩ := Option.bind_eq_some_iff.1 h
  obtain ⟨row, hrow, h⟩ := Option.bind_eq_some_iff.1 h
  obtain ⟨key, hkey, h⟩ := Option.bind_eq_some_iff.1 h
  obtain ⟨found, hfound, h⟩ := Option.bind_eq_some_iff.1 h
  cases h
  exact ⟨body, s, row, key, toOption_eq_some hbody, toOption_eq_some hs, hrow, hkey, hfound, rfl⟩

theorem removed?_eq_some {q : Record} (h : c.removed? client r = some q) :
    ∃ s row key, c.keySelection r = .ok s ∧
      (client.db.rows c.entity.name).find? s.selects = some row ∧
      c.entity.key? row = some key ∧
      findRow? c.entity key (client.db.rows c.entity.name) = some q := by
  obtain ⟨s, hs, h⟩ := Option.bind_eq_some_iff.1 h
  obtain ⟨row, hrow, h⟩ := Option.bind_eq_some_iff.1 h
  obtain ⟨key, hkey, hfound⟩ := Option.bind_eq_some_iff.1 h
  exact ⟨s, row, key, toOption_eq_some hs, hrow, hkey, hfound⟩

/-! ## Own rows under a log -/

/-- The rows of the entity after a write of it and the writes of nested collections. -/
theorem IsPlain.rows_of_log (hc : c.IsPlain) (hmodel : client.db.model = c.model) {v : Write}
    (hv : v.entity = c.entity.name) (plans : List ChildPlan) {tx : Transaction}
    (hplans : ∀ p ∈ plans, p.target.name ≠ c.entity.name)
    (hchildren : Transaction.Stages (fun w => ∃ p ∈ plans, w.entity = p.target.name)
      (client.db.begin.stage v) tx)
    (happly : applyAll client.db.model client.db.tables tx.log = .ok client'.db.tables) :
    v.applyToRows c.entity (client.db.rows c.entity.name) =
      .ok (client'.db.rows c.entity.name) := by
  obtain ⟨ws, rfl, hws⟩ := hchildren
  have hknown : client.db.model.entity? c.entity.name = some c.entity := hmodel ▸ hc.known
  have hrows := rows_applyAll happly hknown
  have hothers : ws.filter (·.entity == c.entity.name) = [] := by
    refine filter_entity_eq_nil fun w hw => ?_
    obtain ⟨p, hp, he⟩ := hws w hw
    rw [he]
    exact hplans p hp
  have hlog : ((client.db.begin.stage v).stageAll ws).log.filter (·.entity == c.entity.name) =
      [v] := by
    have hown : [v].filter (·.entity == c.entity.name) = [v] :=
      filter_entity_eq_self (List.forall_mem_singleton.2 hv)
    rw [Transaction.log_stageAll, List.filter_append, hothers, List.append_nil]
    exact hown
  rw [hlog] at hrows
  obtain ⟨rows, hstep, hend⟩ := bind_eq_ok_iff.1 hrows
  rw [applyRows, Except.ok.injEq] at hend
  rw [hend] at hstep
  exact hstep

theorem KeepsApart.of_mem_plans (hapart : c.KeepsApart) {stored : Option Record}
    {row record body : Record} {plans : List ChildPlan}
    (h : c.assignFields stored row body = .ok (record, plans)) :
    ∀ p ∈ plans, p.target.name ≠ c.entity.name := by
  intro p hp
  obtain ⟨hrelation, hkind, htarget⟩ := Controller.of_mem_plans h p hp
  rw [name_of_entity? htarget]
  exact hapart p.relation hrelation hkind

/-! ## The write of each operation -/

theorem step_creation (hc : c.IsPlain) (hmodel : client.db.model = c.model)
    (h : c.Creation stamps client r out client')
    (hplans : ∀ p ∈ h.plans, p.target.name ≠ c.entity.name) :
    ∃ key, c.entity.key? h.stored = some key ∧
      (Write.insert c.entity.name key h.stored).applyToRows c.entity
        (client.db.rows c.entity.name) = .ok (client'.db.rows c.entity.name) := by
  obtain ⟨-, key, hkey, htx⟩ := Transaction.insert_eq_ok h.persisted
  have hchildren := stages_writePlans h.children
  rw [htx] at hchildren
  exact ⟨key, hkey, hc.rows_of_log (v := .insert c.entity.name key h.stored) hmodel rfl
    h.plans hplans hchildren h.applied⟩

theorem step_update (hc : c.IsPlain) (hmodel : client.db.model = c.model)
    (h : c.Update stamps client r out client')
    (hplans : ∀ p ∈ h.plans, p.target.name ≠ c.entity.name) :
    ∃ key current, c.entity.key? (c.entity.columnFields h.record) = some key ∧
      findRow? c.entity key (client.db.rows c.entity.name) = some current ∧
      h.stored = Transaction.touch c.entity (stamps client.taken) current
        (c.entity.columnFields h.record) ∧
      (Write.update c.entity.name key h.stored).applyToRows c.entity
        (client.db.rows c.entity.name) = .ok (client'.db.rows c.entity.name) := by
  obtain ⟨key, current, hkey, hcurrent, hstored, htx⟩ := Transaction.update_eq_ok h.persisted
  have hchildren := stages_writePlans h.children
  rw [htx] at hchildren
  exact ⟨key, current, hkey, hcurrent, hstored,
    hc.rows_of_log (v := .update c.entity.name key h.stored) hmodel rfl h.plans hplans
      hchildren h.applied⟩

theorem step_deletion (hc : c.IsPlain) (hmodel : client.db.model = c.model)
    (h : c.Deletion client r client') :
    c.entity.key? h.row = some h.key ∧
      (Write.remove c.entity.name h.key).applyToRows c.entity (client.db.rows c.entity.name) =
        .ok (client'.db.rows c.entity.name) := by
  have hpopulated := Transaction.isPopulated_of_populate hc.isUnshadowed h.populated
  constructor
  · rw [← h.hasKey]
    exact (hc.key?_of_isPopulated hpopulated).symm
  · exact hc.rows_of_log (v := .remove c.entity.name h.key) hmodel rfl []
      (fun p hp => (List.not_mem_nil hp).elim) (.refl _) h.applied

/-! ## The rows after each operation -/

theorem rows_creation (hc : c.IsPlain) (hapart : c.KeepsApart)
    (hmodel : client.db.model = c.model)
    (h : c.Creation stamps client r out client') :
    client'.db.rows c.entity.name = client.db.rows c.entity.name ++ [h.stored] := by
  obtain ⟨key, -, hstep⟩ :=
    step_creation hc hmodel h (hapart.of_mem_plans h.assigned)
  exact (Write.applyToRows_insert_iff.1 hstep).2

/-- What is inserted of an assigned body has its fields in order. -/
theorem sorted_inserted {body record scope stored : Record} {plans : List ChildPlan}
    {tx tx' : Transaction} {stamp : Stamp}
    (hassign : c.assignFields (some []) (c.entity.blank []) body = .ok (record, plans))
    (h : tx.insert c.entity (record.overlay scope) stamp = .ok (stored, tx')) :
    stored.Sorted := by
  obtain ⟨hfill, -⟩ := Transaction.insert_eq_ok h
  have hblank : (c.entity.blank []).Sorted := Fields.sorted_overlay (Fields.sorted_ofList _) _
  exact Transaction.sorted_fillDefaults hfill
    (Fields.sorted_restrict (Fields.sorted_overlay (sorted_assignFields hblank hassign) _) _)

theorem sorted_creation (h : c.Creation stamps client r out client') : h.stored.Sorted :=
  sorted_inserted h.assigned h.persisted

/-- What a creation hands to the store has the scope in its columns. -/
theorem Creation.field?_of_scope (h : c.Creation stamps client r out client')
    (hscope : (c.options.scope r).Sorted) {k : String} {v : Json}
    (hk : (k, v) ∈ c.options.scope r) (hcolumn : c.entity.hasColumn k = true) :
    (c.entity.columnFields (h.record.overlay (c.options.scope r))).field? k = some v := by
  rw [Entity.columnFields, Fields.field?_restrict, if_pos hcolumn,
    Fields.field?_overlay_of_sorted _ hscope, hscope.field?_of_mem hk, Option.some_or]

theorem sorted_update (hrows : ∀ row ∈ client.db.rows c.entity.name, row.Sorted)
    (h : c.Update stamps client r out client') : h.stored.Sorted := by
  obtain ⟨key, current, -, hcurrent, hstored, -⟩ := Transaction.update_eq_ok h.persisted
  rw [hstored]
  exact Transaction.sorted_touch (hrows current (findRow?_eq_some hcurrent).1)

/-- What a body without key columns writes over a row has the key of the row. -/
theorem key?_columnFields_overlay (hc : c.IsPlain) {row body : Record}
    (hbody : ∀ k ∈ c.entity.primaryKey, body.field? k = none) :
    c.entity.key? (c.entity.columnFields (row.overlay body)) = c.entity.key? row := by
  rw [hc.key?_columnFields]
  apply key?_congr
  intro k hk
  rw [Fields.field?_overlay_of_none _ (hbody k hk)]

/-- Of a body that is assigned to a populated row there is stored what would be stored of the row
    under the body. -/
theorem columnFields_of_isPopulated (he : c.entity.IsUnshadowed) {tx : Transaction}
    {names : List String} {row loaded record body : Record} {stored : Option Record}
    {plans : List ChildPlan}
    (hloaded : tx.IsPopulated c.entity row loaded names) (hrow : row.Sorted)
    (h : c.assignFields stored loaded body = .ok (record, plans)) :
    c.entity.columnFields record = c.entity.columnFields (row.overlay body) := by
  have hcolumns := hloaded.columnFields hrow
  rw [columnFields_assignFields he (hloaded.sorted hrow) h]
  rw [Entity.columnFields, Entity.columnFields] at hcolumns ⊢
  rw [Fields.restrict_overlay (hloaded.sorted hrow), hcolumns, Fields.restrict_overlay hrow]

/-- What is stored by an update of a row with its fields in order. -/
theorem columnFields_update (hc : c.IsPlain) (h : c.Update stamps client r out client')
    (hrow : h.row.Sorted) :
    c.entity.columnFields h.record = c.entity.columnFields (h.row.overlay h.body) :=
  columnFields_of_isPopulated hc.isUnshadowed
    (Transaction.isPopulated_of_populate hc.isUnshadowed h.populated) hrow h.assigned

theorem rows_update (hc : c.IsPlain) (hapart : c.KeepsApart)
    (hmodel : client.db.model = c.model)
    (hrows : ∀ row ∈ client.db.rows c.entity.name, row.Sorted)
    (h : c.Update stamps client r out client') :
    ∃ before current after, client.db.rows c.entity.name = before ++ current :: after ∧
      c.replacement? stamps client r = some (current, h.stored) ∧
      client'.db.rows c.entity.name = before ++ h.stored :: after := by
  obtain ⟨key, current, hkey, hcurrent, hstored, hstep⟩ :=
    step_update hc hmodel h (hapart.of_mem_plans h.assigned)
  have hcolumns := columnFields_update hc h (hrows _ (List.mem_of_find?_eq_some h.found))
  obtain ⟨before, q, after, hsplit, hfind, hafter⟩ :=
    replaceRow?_eq_some (Write.applyToRows_update_iff.1 hstep)
  obtain rfl : q = current := by
    rw [hfind, Option.some.injEq] at hcurrent
    exact hcurrent
  refine ⟨before, q, after, hsplit, ?_, hafter⟩
  rw [hcolumns] at hkey hstored
  simp only [replacement?, h.hasBody, h.selected, h.found, Except.toOption, Option.bind_eq_bind,
    Option.bind_some, hkey, hfind, ← hstored]

theorem rows_deletion (hc : c.IsPlain) (hmodel : client.db.model = c.model)
    (h : c.Deletion client r client') :
    ∃ before q after, client.db.rows c.entity.name = before ++ q :: after ∧
      c.removed? client r = some q ∧ client'.db.rows c.entity.name = before ++ after := by
  obtain ⟨hkey, hstep⟩ := step_deletion hc hmodel h
  obtain ⟨before, q, after, hsplit, hfind, hafter⟩ :=
    removeRow?_eq_some (Write.applyToRows_remove_iff.1 hstep)
  refine ⟨before, q, after, hsplit, ?_, hafter⟩
  simp only [removed?, h.selected, h.found, Except.toOption, Option.bind_eq_bind,
    Option.bind_some, hkey, hfind]

/-! ## Keys -/

theorem isKeyed_creation (hc : c.IsPlain) (hapart : c.KeepsApart)
    (hmodel : client.db.model = c.model)
    (hkeyed : c.entity.IsKeyed (client.db.rows c.entity.name))
    (h : c.Creation stamps client r out client') :
    c.entity.IsKeyed (client'.db.rows c.entity.name) := by
  obtain ⟨key, hkey, hstep⟩ :=
    step_creation hc hmodel h (hapart.of_mem_plans h.assigned)
  refine isKeyed_applyToRows hkeyed ?_ hstep
  intro row hrow
  cases hrow
  exact ⟨hkey, sorted_creation h⟩

/-- What an update stores has the key of what it writes. -/
theorem key?_stored_update (hc : c.IsPlain) (htime : updatedAt ∉ c.entity.primaryKey)
    (hrows : ∀ row ∈ client.db.rows c.entity.name, row.Sorted)
    (h : c.Update stamps client r out client') :
    c.entity.key? h.stored = c.entity.key? (c.entity.columnFields h.record) := by
  obtain ⟨key, current, hkey, -, hstored, -⟩ := Transaction.update_eq_ok h.persisted
  have hrow := hrows _ (List.mem_of_find?_eq_some h.found)
  have hwritten : (c.entity.columnFields h.record).Sorted := by
    rw [columnFields_update hc h hrow]
    exact Fields.sorted_restrict (Fields.sorted_overlay hrow _) _
  rw [hstored, hkey]
  exact Transaction.key?_touch htime hwritten hkey

theorem isKeyed_update (hc : c.IsPlain) (hmodel : client.db.model = c.model)
    (htime : updatedAt ∉ c.entity.primaryKey)
    (hrows : ∀ row ∈ client.db.rows c.entity.name, row.Sorted)
    (hkeyed : c.entity.IsKeyed (client.db.rows c.entity.name))
    (h : c.Update stamps client r out client')
    (hplans : ∀ p ∈ h.plans, p.target.name ≠ c.entity.name) :
    c.entity.IsKeyed (client'.db.rows c.entity.name) := by
  obtain ⟨key, current, hkey, -, -, hstep⟩ := step_update hc hmodel h hplans
  refine isKeyed_applyToRows hkeyed ?_ hstep
  intro row hrow
  cases hrow
  exact ⟨(key?_stored_update hc htime hrows h).trans hkey, sorted_update hrows h⟩

theorem isKeyed_deletion (hc : c.IsPlain) (hmodel : client.db.model = c.model)
    (hkeyed : c.entity.IsKeyed (client.db.rows c.entity.name))
    (h : c.Deletion client r client') :
    c.entity.IsKeyed (client'.db.rows c.entity.name) := by
  obtain ⟨-, hstep⟩ := step_deletion hc hmodel h
  refine isKeyed_applyToRows hkeyed ?_ hstep
  intro row hrow
  cases hrow

end Controller

end Depot
