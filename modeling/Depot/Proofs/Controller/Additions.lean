import Depot.Proofs.Controller.Responses

/-!
# Creations only add

A creation inserts the instance, and then the elements of the arrays that its body gives to
collections. It writes nothing else, so that the committed rows stay in their places and the new
ones come after them. The scope is laid over the fields of the body, and the column of a relation is
set after the fields of an element; the store adds defaults only where there is nothing. So the
columns that a scope or a relation decides hold what it says, whatever the body says. The children
are written last, under what is stored of the instance, be it a key that was made up for it.

* `Controller.givenChildren`: the arrays of a body whose elements become rows.
* `Nested`: the elements of such an array with the rows that they become.

Results:
* `rows_applyAll_of_inserts`: insertions leave rows in their places.
* `map_given_plans`: the plans of a creation are for the given arrays.
* `nested_of_works_writePlans`: what the plans of a creation insert.
* `createOne_adds`: what a creation does to all rows.
-/

namespace Depot

/-! ## Logs of insertions -/

theorem rowsLeft_append (name : String) (ws vs : List Write) :
    rowsLeft name (ws ++ vs) = rowsLeft name ws ++ rowsLeft name vs := by
  rw [rowsLeft, List.filter_append, List.filterMap_append]
  rfl

/-- Writes of one entity leave rows of it only. -/
theorem rowsLeft_of_entity {ws : List Write} {entity : String} (h : ∀ v ∈ ws, v.entity = entity)
    (name : String) :
    rowsLeft name ws = if name = entity then ws.filterMap Write.row? else [] := by
  by_cases hname : name = entity
  · rw [if_pos hname, rowsLeft, filter_entity_eq_self fun v hv => (h v hv).trans hname.symm]
  · rw [if_neg hname, rowsLeft,
      filter_entity_eq_nil fun v hv hsame => hname (hsame.symm.trans (h v hv))]
    rfl

theorem rowsLeft_insert (name entity : String) (key : RowKey) (row : Record) :
    rowsLeft name [.insert entity key row] = if name = entity then [row] else [] := by
  have hentity : ∀ v ∈ [Write.insert entity key row], v.entity = entity := by
    intro v hv
    rw [List.mem_singleton.1 hv]
    rfl
  exact rowsLeft_of_entity hentity name

/-- A log of insertions leaves the rows of every entity in their places, and adds its own. -/
theorem rows_applyAll_of_inserts {m : Model} {t t' : Tables} {ws : List Write}
    (h : applyAll m t ws = .ok t') (hws : ∀ v ∈ ws, v.IsInsert) (name : String) :
    t'.rows name = t.rows name ++ rowsLeft name ws := by
  induction ws generalizing t with
  | nil =>
    cases h
    exact (List.append_nil _).symm
  | cons v ws ih =>
    obtain ⟨t₁, hv, hlater⟩ := applyAll_cons_iff.1 h
    have hrest := ih hlater fun u hu => hws u (List.mem_cons_of_mem _ hu)
    obtain ⟨entity, key, row, rfl⟩ := hws v List.mem_cons_self
    obtain ⟨e, rows, -, hrows, rfl⟩ := Write.apply_eq_ok hv
    obtain ⟨-, hadded⟩ := Write.applyToRows_insert_iff.1 hrows
    rw [hrest]
    show (t.set entity rows).rows name ++ rowsLeft name ws =
      t.rows name ++ rowsLeft name ([.insert entity key row] ++ ws)
    rw [Tables.rows_set, rowsLeft_append, rowsLeft_insert, hadded]
    by_cases hname : name = entity
    · rw [if_pos hname, if_pos hname, hname, List.append_assoc]
      rfl
    · rw [if_neg hname, if_neg hname]
      rfl

/-! ## Children -/

/-- A row that an element became: it holds the columns of the element and the nulls of a new
    instance, other than a key that is made up and the column of the reference. -/
def IsMadeOf (target : Entity) (column : String) (element : Json) (row : Record) : Prop :=
  ∃ a, element = .obj a ∧ ∀ k v, k ≠ column → target.hasColumn k = true →
    (target.blank a).field? k = some v → target.makesUp k v = false → row.get k = v

/-- The elements of an array for a relation, each with the row that it became. -/
structure Nested where
  relation : Relation
  rows : List (Json × Record)

namespace Nested

/-- The relation and the array. -/
def given (n : Nested) : Relation × List Json := (n.relation, n.rows.map Prod.fst)

/-- The rows of an entity that elements became. -/
def rowsOf (name : String) (nested : List Nested) : List Record :=
  (nested.filter fun n => n.relation.target == name).flatMap fun n => n.rows.map Prod.snd

theorem rowsOf_append (name : String) (nested more : List Nested) :
    rowsOf name (nested ++ more) = rowsOf name nested ++ rowsOf name more := by
  rw [rowsOf, List.filter_append, List.flatMap_append]
  rfl

theorem rowsOf_singleton (name : String) (n : Nested) :
    rowsOf name [n] = if name = n.relation.target then n.rows.map Prod.snd else [] := by
  rw [rowsOf, List.filter_cons, List.filter_nil]
  by_cases hname : name = n.relation.target
  · rw [if_pos hname, if_pos (beq_iff_eq.2 hname.symm)]
    exact List.append_nil _
  · rw [if_neg hname, if_neg fun htarget => hname (beq_iff_eq.1 htarget).symm]
    rfl

/-- Every row is made of its element, and refers to a value unless this is null. -/
structure IsUnder (m : Model) (v : Json) (n : Nested) : Prop where
  made : ∃ target, m.entity? n.relation.target = some target ∧
    ∀ x ∈ n.rows, IsMadeOf target n.relation.remoteColumn x.1 x.2
  refers : v.isNull = false → ∀ x ∈ n.rows, x.2.get n.relation.remoteColumn = v

end Nested

/-- The relation of a plan, and the elements that it creates. -/
def ChildPlan.given (p : ChildPlan) : Relation × List Json :=
  (p.relation, p.changes.toCreate.map .obj)

/-- New instances of a target for elements: each becomes a row. -/
theorem exists_rows_of_creates {e : Entity} {stamps : Stamps} {column : String} {v : Json}
    (hcolumn : e.hasColumn column = true) {elements : List Record} {ws : List Write}
    (h : List.Forall₂ (fun a w => Creates e stamps ((e.blank a).put column v) w) elements ws) :
    ∃ rows : List (Json × Record), rows.map Prod.fst = elements.map .obj ∧
      ws.filterMap Write.row? = rows.map Prod.snd ∧
      (∀ w ∈ ws, w.IsInsert ∧ w.entity = e.name) ∧
      ∀ x ∈ rows, IsMadeOf e column x.1 x.2 ∧ (v.isNull = false → x.2.get column = v) := by
  induction h with
  | nil =>
    refine ⟨[], rfl, rfl, ?_, ?_⟩
    · intro w hw
      cases hw
    · intro x hx
      cases hx
  | @cons a w as ws hfirst _ ih =>
    obtain ⟨rows, hgiven, hrows, hinserts, hmade⟩ := ih
    obtain ⟨key, new, rfl, -, -, hfields⟩ := insert_of_creates hfirst
    have hnew : IsMadeOf e column (.obj a) new := by
      refine ⟨a, rfl, fun k x hne hk hx hup => hfields k x hk ?_ hup⟩
      rw [Fields.field?_put, if_neg (Ne.symm hne), hx]
    have hrefers (hv : v.isNull = false) : new.get column = v := by
      refine hfields column v hcolumn ?_ ?_
      · rw [Fields.field?_put, if_pos rfl]
      · rw [Entity.makesUp, hv]
        rfl
    refine ⟨(.obj a, new) :: rows, ?_, ?_, ?_, ?_⟩
    · rw [List.map_cons, List.map_cons, hgiven]
    · rw [List.filterMap_cons_some (show (Write.insert e.name key new).row? = some new from rfl),
        List.map_cons, hrows]
    · intro u hu
      rcases List.mem_cons.1 hu with rfl | hu
      · exact ⟨⟨_, _, _, rfl⟩, rfl⟩
      · exact hinserts u hu
    · intro x hx
      rcases List.mem_cons.1 hx with rfl | hx
      · exact ⟨hnew, hrefers⟩
      · exact hmade x hx

namespace Controller

variable {c : Controller} {stamps : Stamps} {m : Model} {w w' : Transaction × Nat}

/-! ## The arrays of a body -/

/-- The relation and the array of a field that gives one to a to-many relation whose target has a
    key. -/
def given? (c : Controller) (f : String × Json) : Option (Relation × List Json) :=
  match c.toMany? f.1, f.2 with
  | some relation, .arr elements =>
    if (c.model.entity? relation.target).any (!·.primaryKey.isEmpty) then some (relation, elements)
    else none
  | _, _ => none

/-- The arrays that a body gives to to-many relations whose targets have keys, in its order. -/
def givenChildren (c : Controller) (body : Record) : List (Relation × List Json) :=
  body.filterMap c.given?

theorem given?_eq_some {f : String × Json} {g : Relation × List Json} (h : c.given? f = some g) :
    c.toMany? f.1 = some g.1 ∧ f.2 = .arr g.2 ∧
      ∃ target, c.model.entity? g.1.target = some target ∧ target.primaryKey ≠ [] := by
  unfold given? at h
  split at h
  · rename_i relation elements hmany harray
    by_cases hkey : (c.model.entity? relation.target).any (!·.primaryKey.isEmpty) = true
    · rw [if_pos hkey] at h
      cases h
      obtain ⟨target, htarget, hne⟩ := (Option.any_eq_true _ _).1 hkey
      refine ⟨hmany, harray, target, htarget, ?_⟩
      rintro hnil
      rw [hnil] at hne
      cases hne
    · rw [if_neg hkey] at h
      cases h
  · cases h

theorem given?_of_toMany? {field : String} {elements : List Json} {relation : Relation}
    {target : Entity} (hmany : c.toMany? field = some relation)
    (htarget : c.model.entity? relation.target = some target) (hkey : target.primaryKey ≠ []) :
    c.given? (field, .arr elements) = some (relation, elements) := by
  have hkeyed : (c.model.entity? relation.target).any (!·.primaryKey.isEmpty) = true := by
    rw [htarget, Option.any_some, Bool.not_eq_true', List.isEmpty_eq_false_iff]
    exact hkey
  simp only [given?, hmany]
  rw [if_pos hkeyed]

/-- For a new instance there is a plan for a field exactly if it gives an array that becomes rows,
    and the plan creates all its elements. -/
theorem map_given_planChildren {field : String} {v : Json} {plan : Option ChildPlan}
    (h : c.planChildren [] field v = .ok plan) :
    plan.map ChildPlan.given = c.given? (field, v) := by
  cases plan with
  | some p =>
    obtain ⟨elements, existing, rows, rfl, hmany, htarget, hkey, hexisting, hrows, hchanges⟩ :=
      planChildren_eq_some h
    obtain rfl : [] = existing := Option.some.inj hexisting
    have hcreated : p.changes.toCreate = rows := by
      rw [Reconciliation.toCreate_of_reconcile_nil hchanges]
      exact List.map_id _
    rw [given?_of_toMany? hmany htarget hkey, Option.map_some, ChildPlan.given, hcreated,
      ← childRows_eq_ok hrows]
  | none =>
    cases hgiven : c.given? (field, v) with
    | none => rfl
    | some g =>
      obtain ⟨hmany, rfl, target, htarget, hkey⟩ := given?_eq_some hgiven
      obtain ⟨rows, changes, -, hplan, -⟩ := planChildren_eq_ok hmany htarget hkey rfl h
      cases hplan

/-- The plans of a creation are for the given arrays, in their order. -/
theorem map_given_plans {r record body : Record} {plans : List ChildPlan}
    (h : c.assignFields (some []) r body = .ok (record, plans)) :
    plans.map ChildPlan.given = c.givenChildren body := by
  induction body generalizing r plans with
  | nil =>
    cases h
    rfl
  | cons f rest ih =>
    obtain ⟨field, v⟩ := f
    obtain ⟨plan, others, hplan, hrest, rfl⟩ := assignFields_cons h
    have hfirst := map_given_planChildren hplan
    rw [List.map_append, ih hrest, givenChildren, givenChildren]
    cases plan with
    | none => rw [List.filterMap_cons_none hfirst.symm]; rfl
    | some p => rw [List.filterMap_cons_some hfirst.symm]; rfl

/-! ## What plans insert -/

/-- What a plan inserts that only creates. -/
theorem nested_of_works_writePlan (hc : c.IsPlain) {p : ChildPlan}
    (hrelation : p.relation ∈ c.entity.relations)
    (htarget : c.model.entity? p.relation.target = some p.target)
    (hcreates : p.changes.toUpdate = [] ∧ p.changes.toRemove = []) {v : Json}
    {children : List Record} (h : (c.writePlan p v).Works stamps m w children w') :
    ∃ ws n, w'.1 = w.1.stageAll ws ∧ (∀ u ∈ ws, u.IsInsert) ∧ Nested.given n = p.given ∧
      (∀ name, rowsLeft name ws = Nested.rowsOf name [n]) ∧ n.IsUnder c.model v := by
  obtain ⟨updated, w₁, created, w₂, hupdated, hcreated, hremoved, -⟩ := of_works_writePlan h
  rw [ChildPlan.rows, hcreates.1] at hupdated
  obtain ⟨-, rfl⟩ := Program.returns_pure_iff.1 hupdated
  rw [hcreates.2] at hremoved
  obtain ⟨-, rfl⟩ := Program.returns_pure_iff.1 hremoved
  obtain ⟨ws, hws, hforall⟩ := of_works_persistAll_insert hcreated
  obtain ⟨target, htarget', hcolumn⟩ :=
    (hc.consistent.relation c.entity hc.mem p.relation hrelation).hasTarget
  obtain rfl : p.target = target := Option.some.inj (htarget.symm.trans htarget')
  obtain ⟨rows, hgiven, hrows, hinserts, hmade⟩ :=
    exists_rows_of_creates hcolumn (List.forall₂_map_left_iff.1 hforall)
  refine ⟨ws, ⟨p.relation, rows⟩, hws, fun u hu => (hinserts u hu).1, ?_, ?_, ?_, ?_⟩
  · rw [Nested.given, hgiven]
    rfl
  · intro name
    rw [rowsLeft_of_entity (fun u hu => (hinserts u hu).2), hrows, name_of_entity? htarget,
      Nested.rowsOf_singleton]
  · exact ⟨p.target, htarget, fun x hx => (hmade x hx).1⟩
  · intro hv x hx
    exact (hmade x hx).2 hv

/-- What the plans of a creation insert under an instance. The induction is on the plans; the
    instance takes the collections that are written on the way, but keeps its columns. -/
theorem nested_of_works_writePlans (hc : c.IsPlain) {stored r out : Record} {plans : List ChildPlan}
    (hplans : ∀ p ∈ plans, p.relation ∈ c.entity.relations ∧
      c.model.entity? p.relation.target = some p.target ∧
      p.changes.toUpdate = [] ∧ p.changes.toRemove = [])
    (hstored : ∀ p ∈ plans, r.get p.relation.localColumn = stored.get p.relation.localColumn)
    (h : (c.writePlans r plans).Works stamps m w out w') :
    ∃ ws nested, w'.1 = w.1.stageAll ws ∧ (∀ u ∈ ws, u.IsInsert) ∧
      nested.map Nested.given = plans.map ChildPlan.given ∧
      (∀ name, rowsLeft name ws = Nested.rowsOf name nested) ∧
      ∀ n ∈ nested, n.IsUnder c.model (stored.get n.relation.localColumn) := by
  induction plans generalizing r w with
  | nil =>
    obtain ⟨-, rfl⟩ := Program.returns_pure_iff.1 h
    refine ⟨[], [], (Transaction.stageAll_nil _).symm, ?_, rfl, fun _ => rfl, ?_⟩
    · intro u hu
      cases hu
    · intro n hn
      cases hn
  | cons p plans ih =>
    obtain ⟨children, w₁, hplan, h⟩ := Program.returns_bind_iff.1 h
    obtain ⟨hrelation, htarget, hcreates⟩ := hplans p List.mem_cons_self
    obtain ⟨ws, n, hws, hinserts, hgiven, hrows, hunder⟩ :=
      nested_of_works_writePlan hc hrelation htarget hcreates hplan
    have hnext : ∀ q ∈ plans, Record.get (r.put p.relation.name (.arr (children.map .obj)))
        q.relation.localColumn = stored.get q.relation.localColumn := by
      intro q hq
      have hcolumn := (hc.isUnshadowed q.relation (hplans q (List.mem_cons_of_mem _ hq)).1).1
      have hne : p.relation.name ≠ q.relation.localColumn :=
        hc.isUnshadowed.name_ne hrelation hcolumn
      rw [← hstored q (List.mem_cons_of_mem _ hq), Record.get, Record.get, Fields.field?_put,
        if_neg hne]
    obtain ⟨vs, nested, hvs, hinserts', hgiven', hrows', hunder'⟩ :=
      ih (fun q hq => hplans q (List.mem_cons_of_mem _ hq)) hnext h
    refine ⟨ws ++ vs, n :: nested, ?_, ?_, ?_, ?_, ?_⟩
    · rw [hvs, hws, Transaction.stageAll_stageAll]
    · intro u hu
      rcases List.mem_append.1 hu with hu | hu
      · exact hinserts u hu
      · exact hinserts' u hu
    · rw [List.map_cons, List.map_cons, hgiven, hgiven']
    · intro name
      rw [rowsLeft_append, hrows, hrows', ← Nested.rowsOf_append]
      rfl
    · intro n' hn'
      rcases List.mem_cons.1 hn' with rfl | hn'
      · have hsame : n'.relation = p.relation := congrArg Prod.fst hgiven
        rw [hsame, ← hstored p List.mem_cons_self]
        exact hunder
      · exact hunder' n' hn'

/-! ## The instance -/

variable {client client' : Client} {r : Request} {out : Record}

/-- The instance holds the scope in its columns, other than a key that is made up. -/
theorem Creation.get_stored_of_scope (made : c.Creation stamps client r out client')
    (hscope : (c.options.scope r).Sorted) {k : String} {v : Json}
    (hk : (k, v) ∈ c.options.scope r) (hcolumn : c.entity.hasColumn k = true)
    (hup : c.entity.makesUp k v = false) : made.stored.get k = v := by
  obtain ⟨hfill, -⟩ := Transaction.insert_eq_ok made.persisted
  exact Transaction.get_fillDefaults_of_field? hfill (made.field?_of_scope hscope hk hcolumn) hup

/-- The rows after a creation: those from before, the instance and its children. -/
theorem Creation.exists_nested (hc : c.IsPlain) (made : c.Creation stamps client r out client') :
    ∃ nested, nested.map Nested.given = c.givenChildren made.body ∧
      (∀ name, client'.db.rows name = client.db.rows name ++
        ((if name = c.entity.name then [made.stored] else []) ++ Nested.rowsOf name nested)) ∧
      ∀ n ∈ nested, n.IsUnder c.model (made.stored.get n.relation.localColumn) := by
  obtain ⟨-, key, -, htx⟩ := Transaction.insert_eq_ok made.persisted
  have hplans (p : ChildPlan) (hp : p ∈ made.plans) : p.relation ∈ c.entity.relations ∧
      c.model.entity? p.relation.target = some p.target ∧
      p.changes.toUpdate = [] ∧ p.changes.toRemove = [] :=
    ⟨(of_mem_plans made.assigned p hp).1, (of_mem_plans made.assigned p hp).2.2,
      changes_of_mem_plans made.assigned p hp⟩
  have hstored (p : ChildPlan) (hp : p ∈ made.plans) :
      Record.get ((made.record.overlay (c.options.scope r)).overlay made.stored)
        p.relation.localColumn = made.stored.get p.relation.localColumn := by
    have hcolumn := (hc.isUnshadowed p.relation (hplans p hp).1).1
    rw [Record.get, Record.get,
      field?_overlay_stored (sorted_creation made) (made.has_stored hcolumn)]
  obtain ⟨ws, nested, hws, hinserts, hgiven, hrows, hunder⟩ :=
    nested_of_works_writePlans hc hplans hstored made.children
  have hlog : made.ended.1.log = [.insert c.entity.name key made.stored] ++ ws := by
    rw [hws, htx]
    rfl
  have hall : ∀ v ∈ made.ended.1.log, v.IsInsert := by
    rw [hlog]
    intro v hv
    rcases List.mem_append.1 hv with hv | hv
    · exact ⟨_, _, _, List.mem_singleton.1 hv⟩
    · exact hinserts v hv
  refine ⟨nested, hgiven.trans (map_given_plans made.assigned), fun name => ?_, hunder⟩
  rw [Database.rows, rows_applyAll_of_inserts made.applied hall, hlog, rowsLeft_append,
    rowsLeft_insert, hrows]
  rfl

end Controller

/-- A creation only adds. Take a resource without hooks, any scope and any body, and a database on
    which nobody commits beside it. If the creation returns, then all rows from before are in their
    places. After them come one row of the entity, the instance, and one row of its target for each
    element of the arrays that the body gives to to-many relations whose targets have keys. The row
    of the instance holds the scope in its columns, other than a generated key that the scope leaves
    null. The row of an element holds the columns of the element, and refers to what is stored of
    the instance unless this is null, be it a key that was made up just then. -/
theorem createOne_adds {config : ModelConfig} {m : Model} {resource entity : String} {o : Options}
    {c : Controller} (hm : config.resolve = .ok m)
    (hc : Controller.build m resource entity o = .ok c) (hooks : o.hooks = .none)
    (stamps : Stamps) {client client' : Client} {r : Request} (hscope : (o.scope r).Sorted)
    {out : Record} (h : (c.createOne r).Returns (Client.answer stamps) client out client') :
    ∃ body stored nested, c.bodyObject r = .ok body ∧
      nested.map Nested.given = c.givenChildren body ∧
      (∀ name, client'.db.rows name = client.db.rows name ++
        ((if name = c.entity.name then [stored] else []) ++ Nested.rowsOf name nested)) ∧
      c.entity.columnFields stored = c.entity.columnFields out ∧
      (∀ k v, (k, v) ∈ o.scope r → c.entity.hasColumn k = true →
        c.entity.makesUp k v = false → stored.get k = v) ∧
      ∀ n ∈ nested, n.IsUnder m (stored.get n.relation.localColumn) := by
  have hbuilt := Controller.isPlain_of_build hm hc hooks
  obtain ⟨rfl, -, rfl⟩ := Controller.build_eq_ok hc
  obtain ⟨made⟩ := Controller.of_returns_createOne hooks h
  obtain ⟨nested, hgiven, hrows, hunder⟩ := made.exists_nested hbuilt
  exact ⟨made.body, made.stored, nested, made.hasBody, hgiven, hrows,
    made.columnFields_stored hbuilt, fun k v hk hcolumn hup =>
      made.get_stored_of_scope hscope hk hcolumn hup, hunder⟩

/-! ## An order with lines -/

namespace Lines

/-- An order has lines. -/
def lines : Relation := ⟨"lines", .toMany, "line", "id", "order"⟩

/-- Orders are numbered by the store, and belong to tenants. -/
def order : Entity :=
  ⟨"order", "public", "order", ["id"],
    [⟨"id", some .int, false, true, "integer"⟩, ⟨"note", none, true, false, "text"⟩,
      ⟨"tenant", none, false, false, "text"⟩], [lines], []⟩

/-- Lines refer to their order. -/
def line : Entity :=
  ⟨"line", "public", "line", ["id"],
    [⟨"id", some .text, false, false, "text"⟩, ⟨"order", none, false, false, "integer"⟩], [], []⟩

/-- The model file of orders. -/
def config : ModelConfig :=
  ⟨[⟨"order", none, "order", .single "id",
      [⟨"id", "serial", false, false⟩, ⟨"note", "text", true, false⟩,
        ⟨"tenant", "text", false, false⟩], [lines], []⟩,
    ⟨"line", none, "line", .single "id",
      [⟨"id", "text", false, false⟩, ⟨"order", "integer", false, false⟩], [], []⟩], []⟩

/-- The model of orders. -/
def model : Model := ⟨[order, line], []⟩

/-- The scope of a tenant. -/
def scope : Record := [("tenant", .str "acme")]

/-- The options of a tenant's orders. -/
def options : Options := { Options.default with scope := fun _ => scope }

/-- The resource of a tenant's orders. -/
def controller : Controller :=
  ⟨model, order, "order", ⟨"/:id", "/:id", [⟨"id", "id", defaultParamPattern, none⟩]⟩,
    [⟨"id", .desc⟩], options⟩

/-- A row of an order. -/
def orderRow (id : Json) (tenant : String) : Record :=
  [("id", id), ("note", .null), ("tenant", .str tenant)]

/-- A row of a line. -/
def lineRow (id : String) (order : Json) : Record := [("id", .str id), ("order", order)]

/-- The number of an order. -/
def number (n : Nat) : Json := .num (.wrap n)

/-- The stamps are all the same. -/
def stamps : Stamps := fun _ => ⟨"now", "fresh"⟩

/-- A client of an order with one line. -/
def client : Client :=
  .start ⟨model, (Tables.empty.set "order" [orderRow (number 1) "globex"]).set "line"
    [lineRow "a" (number 1)]⟩

/-- An order for another tenant, with a line for another order. -/
def request : Request :=
  ⟨[], [], [], some (.obj [("lines", .arr [.obj (lineRow "b" (number 1)), .obj [("id", .str "c")]]),
    ("tenant", .str "globex")])⟩

/-- What the request returns. -/
def created : Record :=
  [("id", number 2), ("lines", .arr [.obj (lineRow "b" (number 2)), .obj (lineRow "c" (number 2))]),
    ("note", .null), ("tenant", .str "acme")]

/-- The client after the request. -/
def after : Client := ((controller.createOne request).run (Client.answer stamps) client).state

theorem resolve_config : config.resolve = .ok model := by rfl

theorem build_controller : Controller.build model "order" "order" options = .ok controller := by rfl

theorem sorted_scope : scope.Sorted := List.pairwise_singleton _ _

theorem returns_request :
    (controller.createOne request).Returns (Client.answer stamps) client created after :=
  ⟨by decide +kernel, rfl⟩

end Lines

/-- The new order belongs to the tenant of the scope, not to that of the body. Its lines refer to
    the number that was made up for it, also the one that the body gives to another order. -/
theorem createOne_adds_lines :
    ∃ n : Nested, n.given =
        (Lines.lines, [.obj (Lines.lineRow "b" (Lines.number 1)), .obj [("id", .str "c")]]) ∧
      Lines.after.db.rows "order" = Lines.client.db.rows "order" ++
        [Lines.orderRow (Lines.number 2) "acme"] ∧
      Lines.after.db.rows "line" = Lines.client.db.rows "line" ++ n.rows.map Prod.snd ∧
      ∀ x ∈ n.rows, x.2.get "order" = Lines.number 2 := by
  obtain ⟨body, stored, nested, hbody, hgiven, hrows, -, -, hunder⟩ :=
    createOne_adds Lines.resolve_config Lines.build_controller rfl Lines.stamps Lines.sorted_scope
      Lines.returns_request
  cases hbody
  obtain ⟨n, rfl, hn⟩ := List.map_eq_singleton_iff.1 hgiven
  have hrelation : n.relation = Lines.lines := congrArg Prod.fst hn
  have horders := hrows "order"
  have hlines := hrows "line"
  rw [Nested.rowsOf_singleton, hrelation] at horders hlines
  have hstored : [stored] = [Lines.orderRow (Lines.number 2) "acme"] := by
    have hafter : Lines.after.db.rows "order" = Lines.client.db.rows "order" ++
        [Lines.orderRow (Lines.number 2) "acme"] := by decide +kernel
    exact List.append_cancel_left (horders.symm.trans hafter)
  have hrefers := (hunder n List.mem_cons_self).refers
  rw [hrelation, List.singleton_inj.1 hstored] at hrefers
  exact ⟨n, hn, hstored ▸ horders, hlines, hrefers rfl⟩

end Depot
