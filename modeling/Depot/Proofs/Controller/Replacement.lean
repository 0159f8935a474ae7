import Depot.Proofs.Controller.OwnRows
import Depot.Proofs.Controller.Plans
import Depot.Proofs.Json.Ordered
import Depot.Proofs.Store.Reachable

/-!
# Updates that replace a collection

An update whose body gives one collection an array. The stored rows of the collection are those
that refer to the selected row, and the instance is written under the key that it has, so that the
writes of the plan fall on exactly these rows. After the commit the collection is what the array
says.

* `Controller.Replaces`: such an update of a row.

Results:
* `stored_update`: the row of the instance keeps its key, and the fields that the body lacks.
* `plan_update`: the plan of the array.
* `updateOne_replaces`: what becomes of all rows of the target.
-/

namespace Depot

/-- An update that gives the collection `field` the array `elements`, gives no other collection an
    array, and names neither the column that the collection refers to nor a column of the key.
    The rows of the target that refer to the selected row `row` do so in the same text. The body is
    ordered, as all bodies are that are read from bytes. -/
structure Controller.Replaces (c : Controller) (client : Client) (r : Request) (field : String)
    (relation : Relation) (target : Entity) (body : Record) (elements : List Json) (row : Record) :
    Prop where
  isCollection : c.toMany? field = some relation
  hasTarget : c.model.entity? relation.target = some target
  apart : target.name ≠ c.entity.name
  targetKey : target.primaryKey ≠ []
  localTime : relation.localColumn ≠ updatedAt
  remoteTime : relation.remoteColumn ≠ updatedAt
  hasBody : c.bodyObject r = .ok body
  ordered : (Json.obj body).IsOrdered
  array : body.field? field = some (.arr elements)
  only : ∀ name items, body.field? name = some (.arr items) → (c.toMany? name).isSome →
    name = field
  keepsColumn : body.field? relation.localColumn = none
  keepsKey : ∀ k ∈ c.entity.primaryKey, body.field? k = none
  selected : ∃ s, c.keySelection r = .ok s ∧
    (client.db.rows c.entity.name).find? s.selects = some row
  notNull : (row.get relation.localColumn).isNull = false
  equal : looseEq (row.get relation.localColumn) (row.get relation.localColumn) = true
  text : ∀ t ∈ client.db.rows target.name,
    looseEq (t.get relation.remoteColumn) (row.get relation.localColumn) = true →
      keyPart? (t.get relation.remoteColumn) = keyPart? (row.get relation.localColumn)

namespace Controller

variable {c : Controller} {stamps : Stamps} {client client' : Client} {r : Request}
  {out : Record}

/-! ## The instance -/

/-- An update whose body does not name the key goes over the selected row itself. -/
theorem rows_update_of_keepsKey (hc : c.IsPlain) (hmodel : client.db.model = c.model)
    (hsorted : ∀ row ∈ client.db.rows c.entity.name, row.Sorted)
    (hkeyed : c.entity.IsKeyed (client.db.rows c.entity.name))
    (h : c.Update stamps client r out client')
    (hplans : ∀ p ∈ h.plans, p.target.name ≠ c.entity.name)
    (hkey : ∀ k ∈ c.entity.primaryKey, h.body.field? k = none) :
    h.stored = Transaction.touch c.entity (stamps client.taken) h.row
        (c.entity.columnFields (h.row.overlay h.body)) ∧
      client'.db.rows c.entity.name = (client.db.rows c.entity.name).map fun q =>
        if c.entity.key? q = c.entity.key? h.row then h.stored else q := by
  obtain ⟨key, current, hwritten, hcurrent, hstored, hstep⟩ := step_update hc hmodel h hplans
  have hmem := List.mem_of_find?_eq_some h.found
  rw [columnFields_update hc h (hsorted h.row hmem)] at hwritten hstored
  have hsame : c.entity.key? h.row = some key := by
    rw [← hwritten, key?_columnFields_overlay hc hkey]
  rw [hkeyed.findRow?_eq hmem hsame, Option.some.injEq] at hcurrent
  subst hcurrent
  refine ⟨hstored, ?_⟩
  rw [hsame]
  exact hkeyed.replaceRow?_eq_map (Write.applyToRows_update_iff.1 hstep)

/-- The row that an update leaves in place of the selected one. -/
theorem stored_update (hc : c.IsPlain) (hmodel : client.db.model = c.model)
    (htime : updatedAt ∉ c.entity.primaryKey)
    (hsorted : ∀ row ∈ client.db.rows c.entity.name, row.Sorted)
    (hkeyed : c.entity.IsKeyed (client.db.rows c.entity.name))
    (h : c.Update stamps client r out client')
    (hplans : ∀ p ∈ h.plans, p.target.name ≠ c.entity.name)
    (hkey : ∀ k ∈ c.entity.primaryKey, h.body.field? k = none) :
    h.stored ∈ client'.db.rows c.entity.name ∧ c.entity.key? h.stored = c.entity.key? h.row ∧
      ∀ k, k ≠ updatedAt → h.body.field? k = none → h.stored.field? k = h.row.field? k := by
  obtain ⟨hstored, hrows⟩ := rows_update_of_keepsKey hc hmodel hsorted hkeyed h hplans hkey
  have hmem := List.mem_of_find?_eq_some h.found
  have hrow := hsorted h.row hmem
  have hcolumns : (c.entity.columnFields (h.row.overlay h.body)).Sorted :=
    Fields.sorted_restrict (Fields.sorted_overlay hrow _) _
  have hfield (k : String) (hk : h.body.field? k = none) :
      (c.entity.columnFields (h.row.overlay h.body)).field? k =
        if c.entity.hasColumn k then h.row.field? k else none := by
    rw [Entity.columnFields, Fields.field?_restrict, Fields.field?_overlay_of_none _ hk]
  refine ⟨?_, ?_, ?_⟩
  · rw [hrows]
    exact List.mem_map.2 ⟨h.row, hmem, if_pos rfl⟩
  · obtain ⟨key, hrowKey⟩ := Option.isSome_iff_exists.1 (hkeyed.complete h.row hmem)
    rw [hstored, hrowKey]
    exact Transaction.key?_touch htime hcolumns ((key?_columnFields_overlay hc hkey).trans hrowKey)
  · intro k hne hk
    rw [hstored, Transaction.field?_touch hcolumns hne, hfield k hk]
    by_cases hcolumn : c.entity.hasColumn k = true
    · rw [if_pos hcolumn, Option.or_self]
    · rw [if_neg hcolumn, Option.none_or]

/-! ## The plan -/

variable {field : String} {relation : Relation} {target : Entity} {body : Record}
  {elements : List Json} {row : Record}

/-- What is loaded of a collection are the rows that refer to the selected one. -/
theorem storedChildren?_of_isPopulated {names : List String} {loaded current : Record}
    (hloaded : client.db.begin.IsPopulated c.entity row loaded names) (hnamed : field ∈ names)
    (hmany : c.toMany? field = some relation)
    (hcurrent : current.field? field = loaded.field? field) :
    storedChildren? current field = some (client.db.begin.related relation row) := by
  obtain ⟨hrelation, hkind⟩ := toMany?_eq_some hmany
  rw [storedChildren?, hcurrent, hloaded.relation field hnamed relation hrelation,
    Transaction.relatedJson, hkind]
  show some (objects ((client.db.begin.related relation row).map .obj)) = _
  rw [objects_map_obj]

theorem storedChildren?_update (hc : c.IsPlain) (h : c.Update stamps client r out client')
    (hmany : c.toMany? field = some relation) (harray : (field, .arr elements) ∈ h.body)
    {current : Record} (hcurrent : current.field? field = h.loaded.field? field) :
    storedChildren? current field = some (client.db.begin.related relation h.row) :=
  storedChildren?_of_isPopulated (Transaction.isPopulated_of_populate hc.isUnshadowed h.populated)
    (mem_addNames.2 (.inr (mem_replacedCollections harray (by rw [hmany]; rfl)))) hmany hcurrent

theorem Replaces.mem (hr : c.Replaces client r field relation target body elements row)
    (names : List String) : field ∈ addNames names (c.replacedCollections body) :=
  mem_addNames.2 (.inr (mem_replacedCollections (Fields.mem_of_field? hr.array)
    (by rw [hr.isCollection]; rfl)))

/-- Only the array is for a collection. -/
theorem Replaces.toMany?_eq_none
    (hr : c.Replaces client r field relation target body elements row) :
    ∀ f ∈ body, f.1 ≠ field → ∀ items, f.2 = .arr items → c.toMany? f.1 = none := by
  rintro ⟨name, v⟩ hf hne items rfl
  rw [← Option.not_isSome_iff_eq_none]
  intro hsome
  exact hne (hr.only name items (hr.ordered.1.field?_of_mem hf) hsome)

/-- An instance with which the array is planned has the collection and the join column as they are
    loaded: what the array is compared with, and what its elements are to refer to. -/
theorem Replaces.of_current (hc : c.IsPlain)
    (hr : c.Replaces client r field relation target body elements row) {names : List String}
    {loaded current : Record} (hloaded : client.db.begin.IsPopulated c.entity row loaded names)
    (hnamed : field ∈ names)
    (hcurrent : ∀ k, k = field ∨ body.field? k = none → current.field? k = loaded.field? k) :
    storedChildren? current field = some
        (attachedRows relation.remoteColumn (row.get relation.localColumn)
          (client.db.rows target.name)) ∧
      (current.field? relation.localColumn).filter (!·.isNull) =
        some (row.get relation.localColumn) := by
  obtain ⟨hmem, -⟩ := relation?_mem (toMany?_eq_some hr.isCollection).1
  constructor
  · rw [storedChildren?_of_isPopulated hloaded hnamed hr.isCollection (hcurrent field (.inl rfl)),
      Transaction.related, ← name_of_entity? hr.hasTarget, hr.notNull]
    rfl
  · rw [hcurrent _ (.inr hr.keepsColumn), hloaded.columns _ (hc.isUnshadowed _ hmem).1,
      Record.field?_of_notNull hr.notNull, Option.filter_some, hr.notNull]
    rfl

/-- The plan of the array compares it with the rows that refer to the selected one. -/
theorem plan_assignFields (hc : c.IsPlain)
    (hr : c.Replaces client r field relation target body elements row) {names : List String}
    {loaded record : Record} {plans : List ChildPlan}
    (hloaded : client.db.begin.IsPopulated c.entity row loaded names) (hnamed : field ∈ names)
    (h : c.assignFields none loaded body = .ok (record, plans)) :
    ∃ (children : List Record) (changes : Reconciliation Record Record),
      elements = children.map .obj ∧ plans = [⟨relation, target, changes⟩] ∧
      reconcile
        (attachedRows relation.remoteColumn (row.get relation.localColumn)
          (client.db.rows target.name))
        (children.map (withForeignKey relation.remoteColumn
          (some (row.get relation.localColumn))))
        target.key? target.key? = .ok changes := by
  obtain ⟨plan, current, hplan, hplans, hcurrent⟩ :=
    of_assignFields hr.ordered.1 (Fields.mem_of_field? hr.array) hr.toMany?_eq_none h
  obtain ⟨hexisting, hparent⟩ := hr.of_current hc hloaded hnamed hcurrent
  obtain ⟨children, changes, hchildren, rfl, hrec⟩ :=
    planChildren_eq_ok hr.isCollection hr.hasTarget hr.targetKey hexisting hplan
  rw [hparent] at hrec
  exact ⟨children, changes, hchildren, hplans, hrec⟩

theorem plan_update (hc : c.IsPlain)
    (hr : c.Replaces client r field relation target body elements row)
    (h : c.Update stamps client r out client') (hbody : h.body = body) (hrow : h.row = row) :
    ∃ (children : List Record) (changes : Reconciliation Record Record),
      elements = children.map .obj ∧ h.plans = [⟨relation, target, changes⟩] ∧
      reconcile
        (attachedRows relation.remoteColumn (row.get relation.localColumn)
          (client.db.rows target.name))
        (children.map (withForeignKey relation.remoteColumn
          (some (row.get relation.localColumn))))
        target.key? target.key? = .ok changes := by
  subst hbody hrow
  exact plan_assignFields hc hr (Transaction.isPopulated_of_populate hc.isUnshadowed h.populated)
    (hr.mem h.names) h.assigned

/-- What the body gives the collection has its fields in order, as the body does. -/
theorem Replaces.sorted (hr : c.Replaces client r field relation target body elements row)
    {children : List Record} (h : elements = children.map .obj) : ∀ a ∈ children, a.Sorted := by
  intro a ha
  have harray : (Json.arr elements).IsOrdered :=
    Json.isOrdered_of_mem_fields hr.ordered.2 (Fields.mem_of_field? hr.array)
  have hobject : (Json.obj a).IsOrdered :=
    Json.isOrdered_of_mem_items harray _ (h ▸ List.mem_map_of_mem ha)
  exact hobject.1

theorem Replaces.isJoined (hr : c.Replaces client r field relation target body elements row)
    (hc : c.IsPlain) (htime : ∀ e ∈ c.model.entities, updatedAt ∉ e.primaryKey)
    (hsound : client.db.tables.IsSound c.model) :
    target.IsJoined relation.remoteColumn (row.get relation.localColumn)
      (client.db.rows target.name) := by
  have htarget := entity?_mem hr.hasTarget
  obtain ⟨hkeyed, hsorted⟩ := hsound target.name target (entity?_name hr.hasTarget)
  obtain ⟨hmem, -⟩ := relation?_mem (toMany?_eq_some hr.isCollection).1
  obtain ⟨target', htarget', hcolumn⟩ := (hc.consistent.relation c.entity hc.mem _ hmem).hasTarget
  rw [hr.hasTarget, Option.some.injEq] at htarget'
  subst htarget'
  exact ⟨hkeyed, hsorted, hc.consistent.key target htarget, hcolumn, htime target htarget,
    hr.remoteTime, hr.notNull, hr.equal, hr.text⟩

/-! ## The writes -/

/-- The writes of the target are those of the plan, kind by kind. -/
theorem staged_update (hmodel : client.db.model = c.model)
    (hsorted : ∀ q ∈ client.db.rows c.entity.name, q.Sorted)
    (hr : c.Replaces client r field relation target body elements row)
    (hj : target.IsJoined relation.remoteColumn (row.get relation.localColumn)
      (client.db.rows target.name))
    (h : c.Update stamps client r out client')
    (hlocal : h.stored.field? relation.localColumn = some (row.get relation.localColumn))
    {children : List Record} (hchildren : elements = children.map .obj)
    {changes : Reconciliation Record Record} (hplans : h.plans = [⟨relation, target, changes⟩])
    (hrec : reconcile
      (attachedRows relation.remoteColumn (row.get relation.localColumn)
        (client.db.rows target.name))
      (children.map (withForeignKey relation.remoteColumn (some (row.get relation.localColumn))))
      target.key? target.key? = .ok changes) :
    ∃ updates inserts removes,
      (ChildPlan.mk relation target changes).IsStaged (row.get relation.localColumn) stamps
        (client.taken + 1) (client.db.rows target.name) updates inserts removes ∧
      applyRows target (client.db.rows target.name) (updates ++ (inserts ++ removes)) =
        .ok (client'.db.rows target.name) := by
  have helements := hr.sorted hchildren
  obtain ⟨key, current, -, -, -, htx⟩ := Transaction.update_eq_ok h.persisted
  have hwritten := h.children
  rw [hplans, htx] at hwritten
  obtain ⟨saved, w, hplan, hend⟩ := Program.returns_bind_iff.1 hwritten
  obtain ⟨-, hended⟩ := Program.returns_pure_iff.1 hend
  have hkey : Record.get (h.record.overlay h.stored) relation.localColumn =
      row.get relation.localColumn :=
    Record.get_overlay_of_field? (sorted_update hsorted h) hlocal
  rw [hkey] at hplan
  have hfree : ∀ v ∈ (client.db.begin.stage (.update c.entity.name key h.stored)).staged,
      v.entity ≠ target.name := by
    intro v hv
    rw [List.mem_singleton.1 hv]
    exact Ne.symm hr.apart
  obtain ⟨updates, inserts, removes, hstaged, hupdates, hinserts, hremoves, hentity⟩ :=
    stageAll_of_works_writePlan hfree (pairwise_patched hj helements hrec) hplan
  have hlog : h.ended.1.log.filter (·.entity == target.name) =
      updates ++ (inserts ++ removes) := by
    rw [← hended, hstaged, Transaction.log_stageAll, List.filter_append,
      filter_entity_eq_self hentity]
    exact congrArg (· ++ _) (filter_entity_eq_nil hfree)
  have hrows := rows_applyAll h.applied
    (show client.db.model.entity? target.name = some target from
      hmodel ▸ entity?_name hr.hasTarget)
  rw [hlog] at hrows
  exact ⟨updates, inserts, removes, ⟨hupdates, hinserts, hremoves⟩, hrows⟩

/-- What an update makes of the rows of the target is a replacement. -/
theorem batches_update (hmodel : client.db.model = c.model)
    (hsorted : ∀ q ∈ client.db.rows c.entity.name, q.Sorted)
    (hr : c.Replaces client r field relation target body elements row)
    (hj : target.IsJoined relation.remoteColumn (row.get relation.localColumn)
      (client.db.rows target.name))
    (h : c.Update stamps client r out client')
    (hlocal : h.stored.field? relation.localColumn = some (row.get relation.localColumn))
    {children : List Record} (hchildren : elements = children.map .obj)
    {changes : Reconciliation Record Record} (hplans : h.plans = [⟨relation, target, changes⟩])
    (hrec : reconcile
      (attachedRows relation.remoteColumn (row.get relation.localColumn)
        (client.db.rows target.name))
      (children.map (withForeignKey relation.remoteColumn (some (row.get relation.localColumn))))
      target.key? target.key? = .ok changes) :
    ∃ change inserted,
      client'.db.rows target.name = (client.db.rows target.name).filterMap change ++ inserted ∧
      IsReplacement target relation.remoteColumn (row.get relation.localColumn) stamps
        (client.taken + 1) (client.db.rows target.name) children change inserted := by
  have helements := hr.sorted hchildren
  obtain ⟨updates, inserts, removes, hstaged, hrows⟩ :=
    staged_update hmodel hsorted hr hj h hlocal hchildren hplans hrec
  obtain ⟨change, hchange, hreplacement⟩ := isReplacement_of_isWritten hj helements hrec
    (isWritten_of_isStaged hj helements hrec hstaged) hrows
  exact ⟨change, _, hchange, hreplacement⟩

end Controller

/-- An update that replaces a collection, on a reachable database and without hooks: rows of the
    target that do not refer to the selected row stay as they are, a row that an element names
    takes the fields of the element, a row that no element names goes, and each other element is a
    new row. After it the selected row, under its key, has as many rows as there are elements. -/
theorem updateOne_replaces {config : ModelConfig} {m : Model} {resource entity : String}
    {o : Options} {c : Controller} (hm : config.resolve = .ok m)
    (hc : Controller.build m resource entity o = .ok c) (hooks : o.hooks = .none)
    (htime : ∀ e ∈ m.entities, updatedAt ∉ e.primaryKey) {client client' : Client}
    (hdb : client.db.IsReachable m) {r : Request} {field : String} {relation : Relation}
    {target : Entity} {body : Record} {elements : List Json} {row : Record}
    (hr : c.Replaces client r field relation target body elements row) {stamps : Stamps}
    {out : Record} (h : (c.updateOne r).Returns (Client.answer stamps) client out client') :
    ∃ children change inserted row',
      elements = children.map .obj ∧
      client'.db.rows target.name = (client.db.rows target.name).filterMap change ++ inserted ∧
      IsReplacement target relation.remoteColumn (row.get relation.localColumn) stamps
        (client.taken + 1) (client.db.rows target.name) children change inserted ∧
      row' ∈ client'.db.rows c.entity.name ∧ c.entity.key? row' = c.entity.key? row ∧
      row'.get relation.localColumn = row.get relation.localColumn ∧
      (client'.db.begin.related relation row').length = elements.length := by
  have hplain := Controller.isPlain_of_build hm hc hooks
  obtain ⟨rfl, -, rfl⟩ := Controller.build_eq_ok hc
  obtain ⟨hmodel, hsound⟩ := isSound_of_isReachable htime hdb
  obtain ⟨hkeyed, hsorted⟩ := hsound c.entity.name c.entity hplain.known
  have hj := hr.isJoined hplain htime hsound
  obtain ⟨u⟩ := Controller.of_returns_updateOne hplain.hooks h
  have hbody : u.body = body := Except.ok.inj (u.hasBody.symm.trans hr.hasBody)
  have hrow : u.row = row := by
    obtain ⟨s, hs, hfound⟩ := hr.selected
    have hselection : u.selection = s := Except.ok.inj (u.selected.symm.trans hs)
    have hfound' := u.found
    rw [hselection, hfound, Option.some.injEq] at hfound'
    exact hfound'.symm
  obtain ⟨children, changes, hchildren, hplans, hrec⟩ :=
    Controller.plan_update hplain hr u hbody hrow
  have hapart : ∀ p ∈ u.plans, p.target.name ≠ c.entity.name := by
    intro p hp
    rw [hplans] at hp
    rw [List.mem_singleton.1 hp]
    exact hr.apart
  obtain ⟨hstored, hkey, hkept⟩ := Controller.stored_update hplain hmodel
    (htime c.entity hplain.mem) hsorted hkeyed u hapart (hbody ▸ hr.keepsKey)
  have hlocal : u.stored.field? relation.localColumn = some (row.get relation.localColumn) := by
    rw [hkept _ hr.localTime (hbody ▸ hr.keepsColumn), hrow, Record.field?_of_notNull hr.notNull]
  have hget : u.stored.get relation.localColumn = row.get relation.localColumn :=
    Record.get_of_field? hlocal
  obtain ⟨change, inserted, hrows, hreplacement⟩ := Controller.batches_update hmodel hsorted hr
    hj u hlocal hchildren hplans hrec
  refine ⟨children, change, inserted, u.stored, hchildren, hrows, hreplacement, hstored,
    hrow ▸ hkey, hget, ?_⟩
  rw [Transaction.related, hget, hr.notNull, ← name_of_entity? hr.hasTarget]
  show ((client'.db.rows target.name).filter _).length = _
  rw [hrows, hchildren, List.length_map]
  exact length_attached_of_isReplacement hj hrec hreplacement

/-! ## Carts and their items -/

namespace Carts

/-- A cart has items. -/
def items : Relation := ⟨"items", .toMany, "item", "id", "cart"⟩

/-- Carts have a key only. -/
def cart : Entity :=
  ⟨"cart", "public", "cart", ["id"], [⟨"id", some .text, false, false, "text"⟩], [items], []⟩

/-- Items refer to their cart, and keep the time of their last change. -/
def item : Entity :=
  ⟨"item", "public", "item", ["id"],
    [⟨"id", some .text, false, false, "text"⟩, ⟨"cart", none, false, false, "text"⟩,
      ⟨"note", none, true, false, "text"⟩, ⟨"updated_at", none, true, false, "text"⟩], [], []⟩

/-- The model file of carts. -/
def config : ModelConfig :=
  ⟨[⟨"cart", none, "cart", .single "id", [⟨"id", "text", false, false⟩], [items], []⟩,
    ⟨"item", none, "item", .single "id",
      [⟨"id", "text", false, false⟩, ⟨"cart", "text", false, false⟩, ⟨"note", "text", true, false⟩,
        ⟨"updated_at", "text", true, false⟩], [], []⟩], []⟩

/-- The model of carts. -/
def model : Model := ⟨[cart, item], []⟩

/-- The resource of carts. -/
def controller : Controller :=
  ⟨model, cart, "cart", ⟨"/:id", "/:id", [⟨"id", "id", defaultParamPattern, none⟩]⟩,
    [⟨"id", .desc⟩], Options.default⟩

/-- A row of a cart. -/
def cartRow (id : String) : Record := [("id", .str id)]

/-- A row of an item. -/
def itemRow (cart id note time : String) : Record :=
  [("cart", .str cart), ("id", .str id), ("note", .str note), ("updated_at", .str time)]

/-- The stamps are all the same. -/
def stamps : Stamps := fun _ => ⟨"now", "fresh"⟩

/-- Two carts, one of them with two items. -/
def steps : List Session.Step :=
  [.seed "cart" [cartRow "a", cartRow "b"],
    .seed "item" [itemRow "a" "1" "old" "then", itemRow "a" "2" "old" "then",
      itemRow "b" "3" "old" "then"]]

/-- A client of the carts. -/
def client : Client := .start ((Session.start (.create model)).runAll stamps steps).db

/-- An item as a body gives it. -/
def element (id : String) : Record := [("id", .str id), ("note", .str "new")]

/-- One item is changed, one is left out, and one is new. -/
def body : Record := [("items", .arr [.obj (element "1"), .obj (element "4")])]

/-- The update of a cart. -/
def request : Request := ⟨[("id", "a")], [], [], some (.obj body)⟩

/-- The client after the update. -/
def after : Client := ((controller.updateOne request).run (Client.answer stamps) client).state

theorem resolve_config : config.resolve = .ok model := by rfl

theorem build_controller : Controller.build model "cart" "cart" Options.default =
    .ok controller := by rfl

theorem updatedAt_not_mem_primaryKey : ∀ e ∈ model.entities, updatedAt ∉ e.primaryKey := by decide

theorem sorted_element (id : String) : (element id).Sorted := by
  rw [Fields.sorted_iff_keys]
  show ["id", "note"].Pairwise (· < ·)
  decide

theorem isReachable_client : client.db.IsReachable model := by
  refine ⟨stamps, steps, ?_, rfl⟩
  intro step hstep
  rcases List.mem_cons.1 hstep with rfl | hstep
  · intro row hrow
    obtain ⟨id, rfl⟩ : ∃ id, row = cartRow id := by
      simp only [List.mem_cons, List.not_mem_nil, or_false] at hrow
      rcases hrow with rfl | rfl
      · exact ⟨_, rfl⟩
      · exact ⟨_, rfl⟩
    exact List.pairwise_singleton _ _
  · rw [List.mem_singleton.1 hstep]
    intro row hrow
    obtain ⟨cart, id, note, time, rfl⟩ : ∃ cart id note time, row = itemRow cart id note time := by
      simp only [List.mem_cons, List.not_mem_nil, or_false] at hrow
      rcases hrow with rfl | rfl | rfl
      · exact ⟨_, _, _, _, rfl⟩
      · exact ⟨_, _, _, _, rfl⟩
      · exact ⟨_, _, _, _, rfl⟩
    rw [Fields.sorted_iff_keys]
    show ["cart", "id", "note", "updated_at"].Pairwise (· < ·)
    decide

theorem replaces_items : controller.Replaces client request "items" items item body
    [.obj (element "1"), .obj (element "4")] (cartRow "a") where
  isCollection := by decide
  hasTarget := by decide
  apart := by decide
  targetKey := by decide
  localTime := by decide
  remoteTime := by decide
  hasBody := rfl
  ordered := ⟨List.pairwise_singleton _ _, ⟨⟨sorted_element "1", trivial, trivial, trivial⟩,
    ⟨sorted_element "4", trivial, trivial, trivial⟩, trivial⟩, trivial⟩
  array := rfl
  only := by
    intro name elements hname _
    exact congrArg Prod.fst (List.mem_singleton.1 (Fields.mem_of_field? hname))
  keepsColumn := rfl
  keepsKey := by decide
  selected := ⟨_, rfl, by decide +kernel⟩
  notNull := rfl
  equal := by decide +kernel
  text := by
    have hrows : ∀ t ∈ client.db.rows "item", looseEq (t.get "cart") (.str "a") = true →
        keyPart? (t.get "cart") = some "a" := by decide +kernel
    exact hrows

theorem returns_request :
    ∃ out, (controller.updateOne request).Returns (Client.answer stamps) client out after := by
  obtain ⟨out, hout⟩ := exists_of_isOk
    (show ((controller.updateOne request).run (Client.answer stamps) client).result.isOk = true by
      decide +kernel)
  exact ⟨out, hout, rfl⟩

end Carts

/-- The cart has the two items of the body afterwards: the one that was there takes the note and
    the time of the change, and the item of the other cart stays. -/
theorem replacement_items :
    Carts.after.db.rows "item" =
        [Carts.itemRow "a" "1" "new" "now", Carts.itemRow "b" "3" "old" "then",
          ("cart", .str "a") :: Carts.element "4" ++ [("updated_at", .null)]] ∧
      ∃ children change inserted, [Json.obj (Carts.element "1"), .obj (Carts.element "4")] =
          children.map .obj ∧
        Carts.after.db.rows "item" =
          (Carts.client.db.rows "item").filterMap change ++ inserted ∧
        IsReplacement Carts.item "cart" (.str "a") Carts.stamps 1 (Carts.client.db.rows "item")
          children change inserted := by
  refine ⟨by decide +kernel, ?_⟩
  obtain ⟨out, hout⟩ := Carts.returns_request
  obtain ⟨children, change, inserted, row', hchildren, hrows, hreplacement, -⟩ :=
    updateOne_replaces Carts.resolve_config Carts.build_controller rfl
      Carts.updatedAt_not_mem_primaryKey Carts.isReachable_client Carts.replaces_items hout
  exact ⟨children, change, inserted, hchildren, hrows, hreplacement⟩

/-- A row that an element names does not only take the fields of the element: where the target has
    a column for it, the row gets the time of the change. -/
theorem not_updateOne_overlays :
    ¬∀ (config : ModelConfig) (m : Model) (resource entity : String) (o : Options)
      (c : Controller) (client client' : Client) (r : Request) (field : String)
      (relation : Relation) (target : Entity) (body : Record) (elements : List Json) (row : Record)
      (stamps : Stamps) (out : Record),
      config.resolve = .ok m → Controller.build m resource entity o = .ok c → o.hooks = .none →
      (∀ e ∈ m.entities, updatedAt ∉ e.primaryKey) → client.db.IsReachable m →
      c.Replaces client r field relation target body elements row →
      (c.updateOne r).Returns (Client.answer stamps) client out client' →
      ∀ t ∈ client.db.rows target.name,
        looseEq (t.get relation.remoteColumn) (row.get relation.localColumn) = true →
        ∀ a, .obj a ∈ elements →
          elementKey? target relation.remoteColumn (row.get relation.localColumn) a =
            target.key? t →
          Fields.put (t.overlay (target.columnFields a)) relation.remoteColumn
              (row.get relation.localColumn) ∈ client'.db.rows target.name := by
  intro h
  obtain ⟨out, hout⟩ := Carts.returns_request
  have hmem := h _ _ _ _ _ _ _ _ _ _ _ _ _ _ _ _ out Carts.resolve_config
    Carts.build_controller rfl Carts.updatedAt_not_mem_primaryKey Carts.isReachable_client
    Carts.replaces_items hout (Carts.itemRow "a" "1" "old" "then") (by decide +kernel)
    (by decide +kernel) (Carts.element "1") List.mem_cons_self (by decide +kernel)
  revert hmem
  decide +kernel

end Depot
