import Depot.Proofs.Controller.Plans
import Depot.Proofs.Controller.Replacement

/-!
# Responses

The response to a creation or an update is put together from the body, the loaded row and what the
store returns, whereas the committed rows come of the log of the transaction. They agree: the
instance is stored under its key with the same columns, and a collection that was replaced lists
the rows that the request wrote for it, each as it is stored.

* `Controller.replacedRelations`: the relations whose rows a body replaces.
* `Controller.ReplacesApart`, `Controller.RefersInText`: what is asked of them.
* `Controller.IsCommitted`: responses that show what is committed.

Results:
* `columnFields_written`: what an instance shows of its columns is what is stored.
* `collection_committed`: a collection that was replaced.
* `Creation.isCommitted`, `Update.isCommitted`, `response_isCommitted`: responses show what is
  committed.
-/

namespace Depot

namespace Controller

/-- The to-many relations to which a body gives an array, in the order of the body. -/
def replacedRelations (c : Controller) (body : Record) : List Relation :=
  (c.replacedCollections body).filterMap c.toMany?

/-- The collections that a body replaces have different targets, none of which is the entity
    itself. -/
structure ReplacesApart (c : Controller) (body : Record) : Prop where
  others : ∀ relation ∈ c.replacedRelations body, relation.target ≠ c.entity.name
  targets : (c.replacedRelations body).Pairwise fun a b => a.target ≠ b.target

/-- The rows of the collections that a body replaces refer to the instance that a request names in
    the text of the value that they refer to. -/
def RefersInText (c : Controller) (client : Client) (r : Request) (body : Record) : Prop :=
  ∀ s row, c.keySelection r = .ok s → (client.db.rows c.entity.name).find? s.selects = some row →
    ∀ relation ∈ c.replacedRelations body, ∀ t ∈ client.db.rows relation.target,
      looseEq (t.get relation.remoteColumn) (row.get relation.localColumn) = true →
        keyPart? (t.get relation.remoteColumn) = keyPart? (row.get relation.localColumn)

/-- A response shows what is committed. There is a row under the key of the instance, with the same
    columns. A collection that the body replaced lists the rows that the writes of its target
    leave, and each of them is the row that is there under its key. (Without a key the rows of a
    target are not compared with the array, and none is written.) -/
structure IsCommitted (c : Controller) (client : Client) (ws : List Write) (body out : Record) :
    Prop where
  stored : ∃ key row, c.entity.key? out = some key ∧
    findRow? c.entity key (client.db.rows c.entity.name) = some row ∧
    c.entity.columnFields row = c.entity.columnFields out
  listed : ∀ relation ∈ c.replacedRelations body, ∀ target,
    c.model.entity? relation.target = some target → target.primaryKey ≠ [] →
      out.field? relation.name = some (.arr ((rowsLeft target.name ws).map .obj))
  children : ∀ relation ∈ c.replacedRelations body, ∀ target,
    c.model.entity? relation.target = some target → target.primaryKey ≠ [] →
      ∀ child ∈ rowsLeft target.name ws, ∃ key, target.key? child = some key ∧
        findRow? target key (client.db.rows target.name) = some child

variable {c : Controller} {stamps : Stamps} {client client' : Client} {r : Request}
  {body record out : Record} {plans : List ChildPlan}

/-! ## Replaced collections and their plans -/

theorem replacedRelations_cons (f : String × Json) (rest : Record) :
    c.replacedRelations (f :: rest) =
      (if f.2.isArray then c.toMany? f.1 else none).toList ++ c.replacedRelations rest := by
  unfold replacedRelations replacedCollections
  rw [List.filter_cons]
  cases harray : f.2.isArray with
  | false => rfl
  | true =>
    cases hmany : c.toMany? f.1 with
    | none => rfl
    | some relation =>
      rw [Option.isSome_some, Bool.and_true, if_pos rfl, List.map_cons,
        List.filterMap_cons_some hmany]
      rfl

/-- A replaced collection is a field of the body, under the name of its relation. -/
theorem of_mem_replacedRelations {relation : Relation} (h : relation ∈ c.replacedRelations body) :
    c.toMany? relation.name = some relation ∧
      ∃ elements, (relation.name, .arr elements) ∈ body := by
  obtain ⟨field, hfield, hmany⟩ := List.mem_filterMap.1 h
  obtain ⟨⟨name, v⟩, hf, rfl⟩ := List.mem_map.1 hfield
  obtain ⟨hmem, harray⟩ := List.mem_filter.1 hf
  obtain ⟨-, hname⟩ := relation?_mem (toMany?_eq_some hmany).1
  rw [hname]
  refine ⟨hmany, ?_⟩
  cases v with
  | arr elements => exact ⟨elements, hmem⟩
  | _ => cases harray

/-- Plans are made for the replaced collections, in the order of the body. -/
theorem relations_sublist {stored : Option Record} {row : Record}
    (h : c.assignFields stored row body = .ok (record, plans)) :
    (plans.map (·.relation)).Sublist (c.replacedRelations body) := by
  induction body generalizing row plans with
  | nil =>
    cases h
    exact .slnil
  | cons f rest ih =>
    obtain ⟨plan, others, hplan, hrest, rfl⟩ := assignFields_cons h
    rw [replacedRelations_cons, List.map_append]
    cases plan with
    | none => exact (ih hrest).trans (List.sublist_append_right _ _)
    | some p =>
      obtain ⟨elements, -, -, harray, hmany, -⟩ := planChildren_eq_some hplan
      have hf : f.2.isArray = true := by rw [harray]; rfl
      rw [hf, if_pos rfl, hmany]
      exact (ih hrest).cons_cons _

/-- The plans of a body that replaces collections apart are apart. -/
theorem ReplacesApart.pairwise_plans (hapart : c.ReplacesApart body) {stored : Option Record}
    {row : Record} (h : c.assignFields stored row body = .ok (record, plans)) :
    plans.Pairwise fun p q =>
      p.target.name ≠ q.target.name ∧ p.relation.name ≠ q.relation.name := by
  have hsublist := relations_sublist h
  refine (List.pairwise_map.1 (hapart.targets.sublist hsublist)).imp_of_mem ?_
  intro p q hp hq hne
  constructor
  · rw [name_of_entity? (of_mem_plans h p hp).2.2, name_of_entity? (of_mem_plans h q hq).2.2]
    exact hne
  · intro hname
    obtain ⟨hp', -⟩ := of_mem_replacedRelations (hsublist.subset (List.mem_map_of_mem hp))
    obtain ⟨hq', -⟩ := of_mem_replacedRelations (hsublist.subset (List.mem_map_of_mem hq))
    rw [hname, hq', Option.some.injEq] at hp'
    exact hne (congrArg Relation.target hp'.symm)

theorem ReplacesApart.of_mem_plans (hapart : c.ReplacesApart body) {stored : Option Record}
    {row : Record} (h : c.assignFields stored row body = .ok (record, plans)) :
    ∀ p ∈ plans, p.target.name ≠ c.entity.name := by
  intro p hp
  rw [name_of_entity? (Controller.of_mem_plans h p hp).2.2]
  exact hapart.others _ ((relations_sublist h).subset (List.mem_map_of_mem hp))

/-- Every field of a body is planned for the instance as it is by then, which has the field from
    before if the fields of the body are in order. -/
theorem planned_of_mem_body {stored : Option Record} {row : Record} {f : String × Json}
    (hf : f ∈ body) (h : c.assignFields stored row body = .ok (record, plans)) :
    ∃ current plan, c.planChildren (stored.getD current) f.1 f.2 = .ok plan ∧
      (∀ p, plan = some p → p ∈ plans) ∧ (body.Sorted → current.field? f.1 = row.field? f.1) := by
  induction body generalizing row plans with
  | nil => cases hf
  | cons g rest ih =>
    obtain ⟨plan, others, hplan, hrest, rfl⟩ := assignFields_cons h
    rcases List.mem_cons.1 hf with rfl | hf
    · refine ⟨row, plan, hplan, ?_, fun _ => rfl⟩
      rintro p rfl
      exact List.mem_cons_self
    · obtain ⟨current, plan', hplan', hmem, hcurrent⟩ := ih hf hrest
      refine ⟨current, plan', hplan', fun p hp => List.mem_append_right _ (hmem p hp), ?_⟩
      intro hsorted
      obtain ⟨hfirst, hsorted'⟩ := List.pairwise_cons.1 hsorted
      rw [hcurrent hsorted', Fields.field?_put, if_neg]
      exact fun hname => String.lt_irrefl f.1 (hname ▸ hfirst f hf)

/-- There is a plan for a replaced collection whose stored rows are known, and it is one for
    these. -/
theorem exists_plan_of_mem (text : Option String) {stored : Option Record} {row : Record}
    (h : c.assignFields stored row body = .ok (record, plans))
    (hordered : (Json.obj body).IsOrdered) {relation : Relation}
    (hrelation : relation ∈ c.replacedRelations body) {target : Entity}
    (htarget : c.model.entity? relation.target = some target) (hkey : target.primaryKey ≠ [])
    {existing rows : List Record}
    (hexisting : ∀ current : Record, current.field? relation.name = row.field? relation.name →
      storedChildren? (stored.getD current) relation.name = some existing)
    (hkeyed : target.IsKeyed existing)
    (hrows : ∀ t ∈ existing, t ∈ rows ∧ keyPart? (t.get relation.remoteColumn) = text) :
    ∃ p ∈ plans, p.relation = relation ∧ p.target = target ∧ p.IsFor rows := by
  obtain ⟨hmany, elements, harray⟩ := of_mem_replacedRelations hrelation
  obtain ⟨current, plan, hplan, hmem, hcurrent⟩ := planned_of_mem_body harray h
  obtain ⟨children, changes, rfl, rfl, hrec⟩ :=
    planChildren_eq_ok hmany htarget hkey (hexisting current (hcurrent hordered.1)) hplan
  refine ⟨_, hmem _ rfl, rfl, rfl, ChildPlan.isFor_of_reconcile hkeyed hrows ?_ hrec⟩
  -- the objects of the array have their fields in order, as the body has
  intro a ha
  obtain ⟨child, hchild, rfl⟩ := List.mem_map.1 ha
  have hobject : (Json.obj child).IsOrdered :=
    Json.isOrdered_of_mem_items (Json.isOrdered_of_mem_fields hordered.2 harray) _
      (List.mem_map_of_mem hchild)
  exact sorted_withForeignKey hobject.1

/-! ## The instance -/

theorem sorted_writePlans {m : Model} {w w' : Transaction × Nat} (hrecord : record.Sorted)
    (h : (c.writePlans record plans).Works stamps m w out w') : out.Sorted := by
  induction plans generalizing record w with
  | nil =>
    obtain ⟨rfl, -⟩ := Program.returns_pure_iff.1 h
    exact hrecord
  | cons p plans ih =>
    obtain ⟨children, w₁, -, h⟩ := Program.returns_bind_iff.1 h
    exact ih (Fields.sorted_put hrecord _ _) h

/-- A stored row that has lost no column holds what an instance with the row laid over it holds. -/
theorem field?_overlay_stored {stored : Record} {k : String} (hstored : stored.Sorted)
    (hkept : record.has k = true → stored.has k = true) :
    (record.overlay stored).field? k = stored.field? k := by
  rw [Fields.field?_overlay_of_sorted _ hstored]
  cases hfield : stored.field? k with
  | some v => rfl
  | none =>
    cases hlost : record.field? k with
    | none => rfl
    | some v =>
      have hhas := hkept (by rw [Fields.has, hlost]; rfl)
      rw [Fields.has, hfield] at hhas
      cases hhas

/-- What is shown of the columns of an instance is what is stored, if no column of it was lost. -/
theorem columnFields_written (hc : c.IsPlain) {m : Model} {w w' : Transaction × Nat}
    {stored : Record} (hrecord : record.Sorted) (hstored : stored.Sorted)
    (hkept : ∀ k, c.entity.hasColumn k = true → record.has k = true → stored.has k = true)
    (hplans : ∀ p ∈ plans, p.relation ∈ c.entity.relations)
    (h : (c.writePlans (record.overlay stored) plans).Works stamps m w out w') :
    c.entity.columnFields stored = c.entity.columnFields out := by
  have hout : out.Sorted := sorted_writePlans (Fields.sorted_overlay hrecord _) h
  refine Fields.ext_of_sorted (Fields.sorted_restrict hstored _)
    (Fields.sorted_restrict hout _) fun k => ?_
  rw [Entity.columnFields, Entity.columnFields, Fields.field?_restrict, Fields.field?_restrict]
  by_cases hcolumn : c.entity.hasColumn k = true
  · have hunnamed : ∀ p ∈ plans, p.relation.name ≠ k :=
      fun p hp => hc.isUnshadowed.name_ne (hplans p hp) hcolumn
    rw [if_pos hcolumn, if_pos hcolumn, field?_writePlans hunnamed h,
      field?_overlay_stored hstored (hkept k hcolumn)]
  · rw [if_neg hcolumn, if_neg hcolumn]

theorem has_columnFields {k : String} (hcolumn : c.entity.hasColumn k = true)
    (hk : record.has k = true) : (c.entity.columnFields record).has k = true := by
  rw [Fields.has, Entity.columnFields, Fields.field?_restrict, if_pos hcolumn]
  exact hk

/-- No column of a new instance is lost. -/
theorem Creation.has_stored (made : c.Creation stamps client r out client') {k : String}
    (hcolumn : c.entity.hasColumn k = true)
    (hk : (made.record.overlay (c.options.scope r)).has k = true) : made.stored.has k = true := by
  obtain ⟨hfill, -⟩ := Transaction.insert_eq_ok made.persisted
  exact Transaction.has_fillDefaults hfill (has_columnFields hcolumn hk)

/-- A new instance is shown with the columns that are stored of it. -/
theorem Creation.columnFields_stored (hc : c.IsPlain)
    (made : c.Creation stamps client r out client') :
    c.entity.columnFields made.stored = c.entity.columnFields out := by
  have hrecord : (made.record.overlay (c.options.scope r)).Sorted :=
    Fields.sorted_overlay (sorted_assignFields (sorted_blank _ _) made.assigned) _
  exact columnFields_written hc hrecord (sorted_creation made)
    (fun k hcolumn hk => made.has_stored hcolumn hk)
    (fun p hp => (of_mem_plans made.assigned p hp).1) made.children

/-- A row that is written under its key is found under the key of an instance that shows its
    columns. -/
theorem stored_of_applyToRows (hc : c.IsPlain)
    (hkeyed : c.entity.IsKeyed (client.db.rows c.entity.name)) (v : Write) {row : Record}
    (hv : v.row? = some row) (hkey : c.entity.key? row = some v.key) (hsorted : row.Sorted)
    (happly : v.applyToRows c.entity (client.db.rows c.entity.name) =
      .ok (client'.db.rows c.entity.name))
    (hcolumns : c.entity.columnFields row = c.entity.columnFields out) :
    ∃ key row, c.entity.key? out = some key ∧
      findRow? c.entity key (client'.db.rows c.entity.name) = some row ∧
      c.entity.columnFields row = c.entity.columnFields out := by
  have hproper : v.IsProper c.entity := by
    intro row' hrow'
    rw [hv, Option.some.injEq] at hrow'
    exact hrow' ▸ ⟨hkey, hsorted⟩
  obtain ⟨before, old, after, -, hrows, -⟩ := Write.applyToRows_eq_ok happly
  have hmem : row ∈ client'.db.rows c.entity.name := by
    rw [hrows, hv]
    exact List.mem_append_left _ (List.mem_append_right _ (List.mem_singleton.2 rfl))
  refine ⟨v.key, row, ?_, (isKeyed_applyToRows hkeyed hproper happly).findRow?_eq hmem hkey,
    hcolumns⟩
  rw [← hc.key?_columnFields out, ← hcolumns, hc.key?_columnFields, hkey]

/-! ## Collections -/

theorem isStored_of_isSound (hc : c.IsPlain)
    (htime : ∀ e ∈ c.model.entities, updatedAt ∉ e.primaryKey) {t : Tables}
    (hsound : t.IsSound c.model) {name : String} {target : Entity}
    (htarget : c.model.entity? name = some target) : target.IsStored (t.rows target.name) := by
  obtain ⟨hkeyed, hsorted⟩ := hsound target.name target (entity?_name htarget)
  exact ⟨hkeyed, hsorted, hc.consistent.key target (entity?_mem htarget),
    htime target (entity?_mem htarget)⟩

section

variable (hc : c.IsPlain) (hmodel : client.db.model = c.model)
  (htime : ∀ e ∈ c.model.entities, updatedAt ∉ e.primaryKey)
  (hsound : client.db.tables.IsSound c.model)

include hc hmodel htime hsound

/-- A collection that is replaced after a write of the instance lists the rows that the writes of
    its target leave, and these rows are committed. -/
theorem collection_committed (hapart : c.ReplacesApart body) {stored : Option Record} {row : Record}
    (hassign : c.assignFields stored row body = .ok (record, plans)) {p : ChildPlan}
    (hp : p ∈ plans) (hfor : p.IsFor (client.db.rows p.target.name)) {v : Write}
    (hv : v.entity = c.entity.name) {m : Model} {n : Nat} {written : Record}
    {ended : Transaction × Nat}
    (h : (c.writePlans written plans).Works stamps m (client.db.begin.stage v, n) out ended)
    (happly : applyAll client.db.model client.db.tables ended.1.log = .ok client'.db.tables) :
    out.field? p.relation.name =
        some (.arr ((rowsLeft p.target.name ended.1.log).map .obj)) ∧
      ∀ child ∈ rowsLeft p.target.name ended.1.log, ∃ key, p.target.key? child = some key ∧
        findRow? p.target key (client'.db.rows p.target.name) = some child := by
  obtain ⟨-, -, htarget⟩ := of_mem_plans hassign p hp
  have hfree : ∀ u ∈ (client.db.begin.stage v).log, u.entity ≠ p.target.name := by
    intro u hu
    rw [List.mem_singleton.1 hu, hv]
    exact (hapart.of_mem_plans hassign p hp).symm
  obtain ⟨hlisted, hstores⟩ := of_works_writePlans hp (hapart.pairwise_plans hassign) hfor
    (isStored_of_isSound hc htime hsound htarget) hfree h
  have hknown : client.db.model.entity? p.target.name = some p.target :=
    hmodel ▸ entity?_name htarget
  obtain ⟨hkeyed, hmem⟩ := hstores _ (rows_applyAll happly hknown)
  refine ⟨hlisted, fun child hchild => ?_⟩
  have hrow := hmem child hchild
  obtain ⟨key, hkey⟩ := Option.isSome_iff_exists.1 (hkeyed.complete child hrow)
  exact ⟨key, hkey, hkeyed.findRow?_eq hrow hkey⟩

/-- Responses show what is committed if the instance is stored, and if there is a plan for every
    replaced collection, made for the committed rows. -/
theorem isCommitted_of_plans (hapart : c.ReplacesApart body) {stored : Option Record} {row : Record}
    (hassign : c.assignFields stored row body = .ok (record, plans))
    (hplan : ∀ relation ∈ c.replacedRelations body, ∀ target,
      c.model.entity? relation.target = some target → target.primaryKey ≠ [] →
        ∃ p ∈ plans, p.relation = relation ∧ p.target = target ∧
          p.IsFor (client.db.rows target.name))
    (v : Write) (hv : v.entity = c.entity.name) {m : Model} {n : Nat} {written : Record}
    {ended : Transaction × Nat}
    (h : (c.writePlans written plans).Works stamps m (client.db.begin.stage v, n) out ended)
    (happly : applyAll client.db.model client.db.tables ended.1.log = .ok client'.db.tables)
    (hrow : ∃ key row, c.entity.key? out = some key ∧
      findRow? c.entity key (client'.db.rows c.entity.name) = some row ∧
      c.entity.columnFields row = c.entity.columnFields out) :
    c.IsCommitted client' ended.1.log body out := by
  refine ⟨hrow, fun relation hrelation target htarget hkey => ?_,
    fun relation hrelation target htarget hkey => ?_⟩
  · obtain ⟨p, hp, rfl, rfl, hfor⟩ := hplan relation hrelation target htarget hkey
    exact (collection_committed hc hmodel htime hsound hapart hassign hp hfor hv h happly).1
  · obtain ⟨p, hp, rfl, rfl, hfor⟩ := hplan relation hrelation target htarget hkey
    exact (collection_committed hc hmodel htime hsound hapart hassign hp hfor hv h happly).2

/-! ## Creations -/

/-- The response to a creation shows what is committed. -/
theorem Creation.isCommitted (made : c.Creation stamps client r out client')
    (hordered : (Json.obj made.body).IsOrdered) (hapart : c.ReplacesApart made.body) :
    c.IsCommitted client' made.ended.1.log made.body out := by
  obtain ⟨-, key, hkey, htx⟩ := Transaction.insert_eq_ok made.persisted
  have hwritten := made.children
  rw [htx] at hwritten
  refine isCommitted_of_plans hc hmodel htime hsound hapart made.assigned ?_
    (.insert c.entity.name key made.stored) rfl hwritten made.applied ?_
  · -- a new instance has no stored children
    intro relation hrelation target htarget hne
    exact exists_plan_of_mem none made.assigned hordered hrelation htarget hne (fun _ _ => rfl)
      .nil fun t ht => (List.not_mem_nil ht).elim
  · obtain ⟨key', hkey', hstep⟩ := step_creation hc hmodel made (hapart.of_mem_plans made.assigned)
    exact stored_of_applyToRows hc (hsound _ _ hc.known).1
      (.insert c.entity.name key' made.stored) rfl hkey' (sorted_creation made) hstep
      (made.columnFields_stored hc)

/-! ## Updates -/

/-- The response to an update shows what is committed. -/
theorem Update.isCommitted (made : c.Update stamps client r out client')
    (hordered : (Json.obj made.body).IsOrdered) (hapart : c.ReplacesApart made.body)
    (htext : c.RefersInText client r made.body) :
    c.IsCommitted client' made.ended.1.log made.body out := by
  obtain ⟨hkeyed, hsorted⟩ := hsound _ _ hc.known
  obtain ⟨key, current, -, -, hstored, htx⟩ := Transaction.update_eq_ok made.persisted
  have hrow := hsorted made.row (List.mem_of_find?_eq_some made.found)
  have hwritten := made.children
  rw [htx] at hwritten
  refine isCommitted_of_plans hc hmodel htime hsound hapart made.assigned ?_
    (.update c.entity.name key made.stored) rfl hwritten made.applied ?_
  · intro relation hrelation target htarget hne
    have hrelated {t : Record} (ht : t ∈ client.db.begin.related relation made.row) :
        t ∈ client.db.rows relation.target ∧
          looseEq (t.get relation.remoteColumn) (made.row.get relation.localColumn) = true := by
      obtain ⟨hmem, hattached⟩ := List.mem_filter.1 ht
      exact ⟨hmem, (Bool.and_eq_true _ _ ▸ hattached).2⟩
    have hname := name_of_entity? htarget
    obtain ⟨hmany, elements, harray⟩ := of_mem_replacedRelations hrelation
    refine exists_plan_of_mem (keyPart? (made.row.get relation.localColumn)) made.assigned hordered
      hrelation htarget hne
      (fun current hcurrent => storedChildren?_update hc made hmany harray hcurrent) ?_ ?_
    · rw [Transaction.related, ← hname]
      exact (hsound _ _ (entity?_name htarget)).1.filter _
    · intro t ht
      obtain ⟨hmem, hattached⟩ := hrelated ht
      exact ⟨hname ▸ hmem, htext _ _ made.selected made.found relation hrelation t hmem hattached⟩
  · obtain ⟨key', current', hkey', -, -, hstep⟩ :=
      step_update hc hmodel made (hapart.of_mem_plans made.assigned)
    have hpopulated := Transaction.isPopulated_of_populate hc.isUnshadowed made.populated
    have hrecord : made.record.Sorted :=
      sorted_assignFields (hpopulated.sorted hrow) made.assigned
    have hcolumns := columnFields_written hc hrecord (sorted_update hsorted made)
      (fun k hcolumn hk => by
        rw [hstored]
        exact Transaction.has_touch (Fields.sorted_restrict hrecord _)
          (has_columnFields hcolumn hk))
      (fun p hp => (of_mem_plans made.assigned p hp).1) made.children
    exact stored_of_applyToRows hc hkeyed (.update c.entity.name key' made.stored) rfl
      ((key?_stored_update hc (htime _ hc.mem) hsorted made).trans hkey')
      (sorted_update hsorted made) hstep hcolumns

end

end Controller

/-- The response to a request that succeeds shows what is committed. Take a resource without hooks
    on a reachable database, and a body that replaces collections of different targets, which are
    other entities. If the creation of an instance returns it, then the row under its key has the
    columns of the response, and each replaced collection lists the rows that the request wrote
    for it, all of which are stored as they are listed. So it is for an update, if the stored rows
    of these collections refer to the selected row in the text of its value. -/
theorem response_isCommitted {config : ModelConfig} {m : Model} {resource entity : String}
    {o : Options} {c : Controller} (hm : config.resolve = .ok m)
    (hc : Controller.build m resource entity o = .ok c) (hooks : o.hooks = .none)
    (htime : ∀ e ∈ m.entities, updatedAt ∉ e.primaryKey) (stamps : Stamps) {client : Client}
    (hdb : client.db.IsReachable m) {r : Request} {body : Record}
    (hbody : c.bodyObject r = .ok body) (hordered : (Json.obj body).IsOrdered)
    (hapart : c.ReplacesApart body) :
    (∀ out client', (c.createOne r).Returns (Client.answer stamps) client out client' →
      c.IsCommitted client' (c.written stamps client (.create r)) body out) ∧
    (c.RefersInText client r body →
      ∀ out client', (c.updateOne r).Returns (Client.answer stamps) client out client' →
        c.IsCommitted client' (c.written stamps client (.update r)) body out) := by
  have hplain := Controller.isPlain_of_build hm hc hooks
  obtain ⟨rfl, -, rfl⟩ := Controller.build_eq_ok hc
  obtain ⟨hmodel, hsound⟩ := isSound_of_isReachable htime hdb
  constructor
  · intro out client' hreturns
    obtain ⟨made, hwork⟩ := Controller.creation_of_returns hplain.hooks hreturns
    obtain rfl : made.body = body := Except.ok.inj (made.hasBody.symm.trans hbody)
    have hwritten : c.written stamps client (.create r) = made.ended.1.log := by
      rw [Controller.written, made.hasBody]
      exact Program.logged_eq hwork
    rw [hwritten]
    exact made.isCommitted hplain hmodel htime hsound hordered hapart
  · intro htext out client' hreturns
    obtain ⟨made, hnames, hwork⟩ := Controller.update_works_of_returns hplain.hooks hreturns
    obtain rfl : made.body = body := Except.ok.inj (made.hasBody.symm.trans hbody)
    have hwritten : c.written stamps client (.update r) = made.ended.1.log := by
      rw [Controller.written, made.hasBody, hnames]
      exact Program.logged_eq hwork
    rw [hwritten]
    exact made.isCommitted hplain hmodel htime hsound hordered hapart htext

/-! ## A new cart and a changed one -/

namespace Carts

/-- A new cart with an item. -/
def newBody : Record := [("id", .str "c"), ("items", .arr [.obj (element "5")])]

/-- The creation of a cart. -/
def creation : Request := ⟨[], [], [], some (.obj newBody)⟩

/-- The client after the creation. -/
def created : Client :=
  ((controller.createOne creation).run (Client.answer stamps) client).state

/-- An item as it is shown and stored. -/
def shownItem (cart id : String) (time : Json) : Json :=
  .obj [("cart", .str cart), ("id", .str id), ("note", .str "new"), ("updated_at", time)]

theorem replacesApart {body : Record} (h : controller.replacedRelations body = [items]) :
    controller.ReplacesApart body := by
  constructor
  · intro relation hrelation
    rw [h] at hrelation
    rw [List.mem_singleton.1 hrelation]
    decide
  · rw [h]
    exact List.pairwise_singleton _ _

theorem isOrdered_newBody : (Json.obj newBody).IsOrdered := by
  refine ⟨?_, trivial, ⟨⟨sorted_element "5", trivial, trivial, trivial⟩, trivial⟩, trivial⟩
  rw [Fields.sorted_iff_keys]
  show ["id", "items"].Pairwise (· < ·)
  decide

theorem refersInText_body : controller.RefersInText client request body := by
  intro s row hs hfound relation hrelation
  have hrelations : controller.replacedRelations body = [items] := rfl
  rw [hrelations] at hrelation
  obtain rfl := List.mem_singleton.1 hrelation
  obtain ⟨s', hs', hfound'⟩ := replaces_items.selected
  obtain rfl : s' = s := Except.ok.inj (hs'.symm.trans hs)
  obtain rfl : cartRow "a" = row := Option.some.inj (hfound'.symm.trans hfound)
  exact replaces_items.text

end Carts

/-- The cart that is created and the one that is updated are shown with their items, as they are
    stored: the item that was there has the time of the change, and the new ones have none. -/
theorem response_carts :
    Carts.controller.IsCommitted Carts.created
        (Carts.controller.written Carts.stamps Carts.client (.create Carts.creation))
        Carts.newBody [("id", .str "c"), ("items", .arr [Carts.shownItem "c" "5" .null])] ∧
      Carts.controller.IsCommitted Carts.after
        (Carts.controller.written Carts.stamps Carts.client (.update Carts.request)) Carts.body
        [("id", .str "a"), ("items", .arr
          [Carts.shownItem "a" "1" (.str "now"), Carts.shownItem "a" "4" .null])] := by
  obtain ⟨hcreated, -⟩ := response_isCommitted Carts.resolve_config Carts.build_controller rfl
    Carts.updatedAt_not_mem_primaryKey Carts.stamps Carts.isReachable_client (r := Carts.creation)
    rfl Carts.isOrdered_newBody (Carts.replacesApart rfl)
  obtain ⟨-, hupdated⟩ := response_isCommitted Carts.resolve_config Carts.build_controller rfl
    Carts.updatedAt_not_mem_primaryKey Carts.stamps Carts.isReachable_client
    Carts.replaces_items.hasBody Carts.replaces_items.ordered (Carts.replacesApart rfl)
  exact ⟨hcreated _ _ ⟨by decide +kernel, rfl⟩,
    hupdated Carts.refersInText_body _ _ ⟨by decide +kernel, rfl⟩⟩

end Depot
