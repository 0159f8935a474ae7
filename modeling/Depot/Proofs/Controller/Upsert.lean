import Depot.Proofs.Controller.Lookup
import Depot.Proofs.Controller.Replacement

/-!
# Creations onto an instance that is there

A creation whose loader finds an instance writes onto it, as an update of this instance does, but
it gets there in another way. It loads the collections that the body replaces by the key of what
the loader has found, plans against a copy that stays as it is, and lays the scope over the body;
an update populates the collections as it looks the instance up, and plans against the record that
it is changing. Nothing of this is seen in what is written, as long as the body names no column
that joins a relation or belongs to the scope.

* `Program.Commits`: programs that return and leave tables committed.
* `Controller.WritesTo`: an instance and its collections that are written over what is there.
* `Controller.reloaded`: a row with the collections that a body replaces.
* `Controller.UpsertsOnto`: creations onto a row that an update of the same request selects.

Results:
* `writesTo_congr`: of the instance only the columns count.
* `plans_eq_of_alike`: plans depend on the stored collections and on the columns that join them.
* `works_createWork_iff`: the work of a creation onto a row.
* `createOne_agrees_updateOne`: both commit the same tables.
-/

namespace Depot

/-- A program that returns, and leaves these tables committed. -/
def Program.Commits {α : Type} (p : Program .store α) (stamps : Stamps) (client : Client)
    (t : Tables) : Prop :=
  ∃ a client', p.Returns (Client.answer stamps) client a client' ∧ client'.db.tables = t

/-- A program commits the tables that its run leaves, and no others. -/
theorem Program.commits_iff_of_returns {α : Type} {p : Program .store α} {stamps : Stamps}
    {client client' : Client} {a : α} {t : Tables}
    (h : p.Returns (Client.answer stamps) client a client') :
    p.Commits stamps client t ↔ client'.db.tables = t := by
  constructor
  · rintro ⟨b, other, hother, rfl⟩
    rw [← h.2, ← hother.2]
  · exact fun ht => ⟨a, client', h, ht⟩

namespace Controller

variable {c : Controller} {stamps : Stamps} {m : Model} {w w' : Transaction × Nat}
  {client : Client} {r : Request} {row body record record' out : Record} {names : List String}
  {plans plans' : List ChildPlan} {t : Tables}

/-! ## What is written -/

/-- The children of an instance are written by the values that join them to it. -/
theorem works_writePlans_congr (hplans : ∀ p ∈ plans, p.relation ∈ c.entity.relations)
    (hlocal : ∀ relation ∈ c.entity.relations,
      record.field? relation.localColumn = record'.field? relation.localColumn)
    (h : (c.writePlans record plans).Works stamps m w out w') :
    ∃ out', (c.writePlans record' plans).Works stamps m w out' w' := by
  induction plans generalizing record record' w with
  | nil =>
    obtain ⟨-, rfl⟩ := Program.returns_pure_iff.1 h
    exact ⟨record', Program.returns_pure_iff.2 ⟨rfl, rfl⟩⟩
  | cons p plans ih =>
    obtain ⟨children, w₁, hplan, hrest⟩ := Program.returns_bind_iff.1 h
    have hkey : record.get p.relation.localColumn = record'.get p.relation.localColumn := by
      rw [Record.get, hlocal _ (hplans p List.mem_cons_self), Record.get]
    rw [hkey] at hplan
    -- both records take the same children under the name of the relation
    have hlocal' : ∀ relation ∈ c.entity.relations,
        (record.put p.relation.name (.arr (children.map .obj))).field? relation.localColumn =
          (record'.put p.relation.name (.arr (children.map .obj))).field? relation.localColumn := by
      intro relation hrelation
      rw [Fields.field?_put, Fields.field?_put, hlocal relation hrelation]
    obtain ⟨out', hrest'⟩ := ih (fun q hq => hplans q (List.mem_cons_of_mem _ hq)) hlocal' hrest
    exact ⟨out', Program.returns_bind_iff.2 ⟨children, w₁, hplan, hrest'⟩⟩

theorem field?_eq_of_columnFields {e : Entity} (h : e.columnFields record = e.columnFields record')
    {k : String} (hk : e.hasColumn k = true) : record.field? k = record'.field? k := by
  have hfield := congrArg (Fields.field? · k) h
  simp only [Entity.columnFields, Fields.field?_restrict, if_pos hk] at hfield
  exact hfield

/-- Records that have the same columns are written over what is there in the same way. -/
theorem works_write_congr (he : c.entity.IsUnshadowed)
    (hplans : ∀ p ∈ plans, p.relation ∈ c.entity.relations)
    (hcolumns : c.entity.columnFields record = c.entity.columnFields record')
    (h : (c.write record .update plans).Works stamps m w out w') :
    ∃ out', (c.write record' .update plans).Works stamps m w out' w' := by
  obtain ⟨stored, tx, hpersist, hchildren⟩ := of_works_write h
  have hpersist' : w.1.persist c.entity record' .update (stamps w.2) = .ok (stored, tx) := by
    rw [← hpersist]
    simp only [Transaction.persist, Transaction.update, hcolumns]
  have hlocal : ∀ relation ∈ c.entity.relations,
      (record.overlay stored).field? relation.localColumn =
        (record'.overlay stored).field? relation.localColumn := by
    intro relation hrelation
    rw [Fields.field?_overlay, Fields.field?_overlay,
      field?_eq_of_columnFields hcolumns (he relation hrelation).1]
  obtain ⟨out', hchildren'⟩ := works_writePlans_congr hplans hlocal hchildren
  exact ⟨out', Program.returns_bind_iff.2
    ⟨stored, (tx, w.2 + 1), works_persist_iff.2 ⟨tx, hpersist', rfl⟩, hchildren'⟩⟩

/-- An instance and its children can be written over what is committed, and leave these tables. -/
def WritesTo (c : Controller) (stamps : Stamps) (client : Client) (record : Record)
    (plans : List ChildPlan) (t : Tables) : Prop :=
  ∃ out w, (c.write record .update plans).Works stamps client.db.model
      (client.db.begin, client.taken) out w ∧
    applyAll client.db.model client.db.tables w.1.log = .ok t

theorem writesTo_congr (he : c.entity.IsUnshadowed)
    (hplans : ∀ p ∈ plans, p.relation ∈ c.entity.relations)
    (hcolumns : c.entity.columnFields record = c.entity.columnFields record') :
    c.WritesTo stamps client record plans t ↔ c.WritesTo stamps client record' plans t := by
  constructor
  · rintro ⟨out, w, hwrite, happly⟩
    obtain ⟨out', hwrite'⟩ := works_write_congr he hplans hcolumns hwrite
    exact ⟨out', w, hwrite', happly⟩
  · rintro ⟨out, w, hwrite, happly⟩
    obtain ⟨out', hwrite'⟩ := works_write_congr he hplans hcolumns.symm hwrite
    exact ⟨out', w, hwrite', happly⟩

/-- Work that comes to one write commits what the write leaves. -/
theorem commits_commit_flushed_iff {work : Program .transaction Record}
    (hwork : ∀ out w, work.Works stamps client.db.model (client.db.begin, client.taken) out w ↔
      (c.write record .update plans).Works stamps client.db.model
        (client.db.begin, client.taken) out w) :
    (c.commit (c.flushed work)).Commits stamps client t ↔
      c.WritesTo stamps client record plans t := by
  constructor
  · rintro ⟨out, client', hreturns, rfl⟩
    obtain ⟨w, hworks, happly, -⟩ := of_returns_commit_flushed hreturns
    exact ⟨out, w, (hwork out w).1 hworks, happly⟩
  · rintro ⟨out, ⟨tx, n⟩, hwrite, happly⟩
    obtain ⟨ws, hws⟩ := stageAll_of_works_write hwrite
    obtain rfl : tx = client.db.begin.stageAll ws := hws
    exact ⟨out, _, returns_commit_flushed ((hwork _ _).2 hwrite) happly, rfl⟩

/-- Work that writes what it has assigned, unless it is not valid: if it succeeds once, then it
    commits under every supply what the write leaves. -/
theorem commits_of_returns {work : Program .transaction Record}
    {assigned : Except RequestError (Record × List ChildPlan)} {valid : Record → Prop}
    {written : Record → Record}
    (hwork : ∀ supply out w,
      work.Works supply client.db.model (client.db.begin, client.taken) out w ↔
        ∃ record plans, assigned = .ok (record, plans) ∧ valid record ∧
          (c.write (written record) .update plans).Works supply client.db.model
            (client.db.begin, client.taken) out w) {client' : Client}
    (h : (c.commit (c.flushed work)).Returns (Client.answer stamps) client out client') :
    ∃ record plans, assigned = .ok (record, plans) ∧
      ∀ supply t, (c.commit (c.flushed work)).Commits supply client t ↔
        c.WritesTo supply client (written record) plans t := by
  obtain ⟨w, hworks, -⟩ := of_returns_commit_flushed h
  obtain ⟨record, plans, hassign, hvalid, -⟩ := (hwork stamps out w).1 hworks
  refine ⟨record, plans, hassign, fun supply t => commits_commit_flushed_iff fun out w =>
    (hwork supply out w).trans ⟨?_, ?_⟩⟩
  · rintro ⟨record', plans', hassign', -, hwrite⟩
    cases hassign.symm.trans hassign'
    exact hwrite
  · exact fun hwrite => ⟨record, plans, hassign, hvalid, hwrite⟩

/-! ## What is planned -/

theorem storedChildren?_congr {current current' : Record} {field : String} {v : Json}
    (h : current.field? field = some v) (h' : current'.field? field = some v) :
    storedChildren? current field = storedChildren? current' field := by
  simp only [storedChildren?, h, h']
  cases v <;> rfl

theorem planChildren_congr {current current' : Record} {field : String} {payload : Json}
    (h : ∀ relation elements, c.toMany? field = some relation → payload = .arr elements →
      storedChildren? current field = storedChildren? current' field ∧
        current.field? relation.localColumn = current'.field? relation.localColumn) :
    c.planChildren current field payload = c.planChildren current' field payload := by
  cases hmany : c.toMany? field with
  | none => simp only [planChildren, hmany]
  | some relation =>
    cases payload with
    | arr elements =>
      obtain ⟨hstored, hlocal⟩ := h relation elements hmany rfl
      simp only [planChildren, hmany, hstored, hlocal]
    | _ => simp only [planChildren, hmany]

/-- The plans of a body are the same against a copy that stays as it is and against the record
    that takes the fields, if both start with the same collections. Only a field of the body can
    change a collection, and it is planned before it does; the columns that join collections are
    no fields of the body. -/
theorem plans_eq_of_alike {current start changing : Record} (hsorted : body.Sorted)
    (hjoins : ∀ relation ∈ c.entity.relations, body.field? relation.localColumn = none)
    (hlocal : ∀ relation ∈ c.entity.relations,
      current.field? relation.localColumn = changing.field? relation.localColumn)
    (hstored : ∀ f ∈ body, ∀ elements, f.2 = .arr elements → (c.toMany? f.1).isSome = true →
      ∃ v, current.field? f.1 = some v ∧ changing.field? f.1 = some v)
    (h : c.assignFields (some current) start body = .ok (record, plans))
    (h' : c.assignFields none changing body = .ok (record', plans')) : plans = plans' := by
  induction body generalizing start changing plans plans' with
  | nil =>
    cases h
    cases h'
    rfl
  | cons f rest ih =>
    obtain ⟨hfirst, hrest⟩ := List.pairwise_cons.1 hsorted
    obtain ⟨plan, others, hplan, hassign, rfl⟩ := assignFields_cons h
    obtain ⟨plan', others', hplan', hassign', rfl⟩ := assignFields_cons h'
    have hsame : c.planChildren current f.1 f.2 = c.planChildren changing f.1 f.2 := by
      apply planChildren_congr
      intro relation elements hmany harray
      obtain ⟨v, hv, hv'⟩ := hstored f List.mem_cons_self elements harray (by rw [hmany]; rfl)
      refine ⟨?_, hlocal relation (relation?_mem (toMany?_eq_some hmany).1).1⟩
      exact storedChildren?_congr hv hv'
    obtain rfl : plan = plan' := Except.ok.inj (hplan.symm.trans (hsame.trans hplan'))
    rw [ih hrest ?_ ?_ ?_ hassign hassign']
    · intro relation hrelation
      have hnone := hjoins relation hrelation
      rw [Fields.field?_eq_none_iff] at hnone ⊢
      exact fun g hg => hnone g (List.mem_cons_of_mem _ hg)
    · intro relation hrelation
      have hne := Fields.field?_eq_none_iff.1 (hjoins relation hrelation) f List.mem_cons_self
      rw [hlocal relation hrelation, Fields.field?_put, if_neg hne]
    · intro g hg elements harray hmany
      have hne : f.1 ≠ g.1 := fun hname => String.lt_irrefl _ (hname ▸ hfirst g hg)
      obtain ⟨v, hv, hv'⟩ := hstored g (List.mem_cons_of_mem _ hg) elements harray hmany
      exact ⟨v, hv, by rw [Fields.field?_put, if_neg hne, hv']⟩

/-- So they are against two instances that a row was populated to, with relations among which are
    the collections of the body. -/
theorem plans_eq_of_isPopulated (he : c.entity.IsUnshadowed) {tx : Transaction}
    {current loaded : Record} {names' : List String}
    (hcurrent : tx.IsPopulated c.entity row current names)
    (hloaded : tx.IsPopulated c.entity row loaded names')
    (hnames : ∀ name ∈ c.replacedCollections body, name ∈ names ∧ name ∈ names')
    (hsorted : body.Sorted)
    (hjoins : ∀ relation ∈ c.entity.relations, body.field? relation.localColumn = none)
    (h : c.assignFields (some current) current body = .ok (record, plans))
    (h' : c.assignFields none loaded body = .ok (record', plans')) : plans = plans' := by
  refine plans_eq_of_alike hsorted hjoins ?_ ?_ h h'
  · intro relation hrelation
    have hcolumn := (he relation hrelation).1
    rw [hcurrent.columns _ hcolumn, hloaded.columns _ hcolumn]
  · rintro ⟨name, v⟩ hf elements rfl hmany
    obtain ⟨hname, hname'⟩ := hnames name (mem_replacedCollections hf hmany)
    obtain ⟨relation, hrelation⟩ := Option.isSome_iff_exists.1 hmany
    obtain ⟨hrelation, -⟩ := toMany?_eq_some hrelation
    exact ⟨tx.relatedJson relation row, hcurrent.relation name hname relation hrelation,
      hloaded.relation name hname' relation hrelation⟩

/-! ## Onto a row -/

/-- The collections that a body replaces and that a row does not have. -/
def missingCollections (c : Controller) (row body : Record) : List String :=
  (c.replacedCollections body).filter fun name => !(row.get name).isArray

/-- A row with the collections that a body replaces, as they are stored in a transaction. -/
def reloaded (c : Controller) (tx : Transaction) (row body : Record) : Record :=
  let names := c.missingCollections row body
  takeFields row (tx.populated c.entity names row) names

theorem field?_takeFields (record source : Record) (names : List String) (k : String) :
    (takeFields record source names).field? k =
      if k ∈ names then (source.field? k).or (record.field? k) else record.field? k := by
  induction names generalizing record with
  | nil => rfl
  | cons name names ih =>
    cases hname : source.field? name with
    | none =>
      have hskip : takeFields record source (name :: names) = takeFields record source names := by
        rw [takeFields, List.filterMap_cons_none (by rw [hname]; rfl), takeFields]
      rw [hskip, ih]
      by_cases hk : k = name
      · subst hk
        simp [hname]
      · simp [hk]
    | some v =>
      have hput : takeFields record source (name :: names) =
          takeFields (record.put name v) source names := by
        rw [takeFields, List.filterMap_cons_some (b := (name, v)) (by rw [hname]; rfl), takeFields]
        rfl
      rw [hput, ih, Fields.field?_put]
      by_cases hk : k = name
      · subst hk
        simp [hname]
      · simp [hk, Ne.symm hk]

theorem isPopulated_reloaded (he : c.entity.IsUnshadowed) (tx : Transaction) (row body : Record) :
    tx.IsPopulated c.entity row (c.reloaded tx row body) (c.missingCollections row body) := by
  have hsource := Transaction.isPopulated_populated he tx row (c.missingCollections row body)
  refine ⟨?_, ?_, fun hrow => Fields.sorted_overlay hrow _, ?_⟩
  · intro k hk
    rw [reloaded, field?_takeFields, if_neg hk]
  · intro k hk
    rw [reloaded, field?_takeFields, hsource.columns k hk]
    split
    · exact Option.or_self
    · rfl
  · intro name hname relation hrelation
    rw [reloaded, field?_takeFields, if_pos hname, hsource.relation name hname relation hrelation]
    rfl

/-- The collections are loaded with the row that is found by the key of the loaded one. -/
theorem works_withCollections
    (hfound : (w.1.working.rows c.entity.name).find?
      (Selection.ofFields (c.entity.keyFields row)).selects = some row) :
    (c.withCollections row body).Works stamps m w (c.reloaded w.1 row body) w := by
  show Program.Works stamps m (if (c.missingCollections row body).isEmpty then _ else _) _ _ _
  by_cases hnone : (c.missingCollections row body).isEmpty = true
  · rw [if_pos hnone]
    refine Program.returns_pure_iff.2 ⟨?_, rfl⟩
    rw [reloaded, List.isEmpty_iff.1 hnone]
    rfl
  · rw [if_neg hnone]
    have hknown : ∀ name ∈ c.missingCollections row body,
        (c.entity.relation? name).isSome = true := fun name hname =>
      isSome_relation?_of_mem_replacedCollections body name (List.mem_filter.1 hname).1
    refine Program.returns_bind_iff.2
      ⟨some (w.1.populated c.entity (c.missingCollections row body) row), w,
        Program.returns_askWith_iff.2 ?_, Program.returns_pure_iff.2 ⟨rfl, rfl⟩⟩
    show (w.1.findOne c.entity (.ofFields (c.entity.keyFields row))
      (c.missingCollections row body), w) = _
    rw [Transaction.findOne_of_find? rfl hfound hknown]

/-- A creation onto a row assigns the body to the row with its collections, and writes what it has
    assigned under the scope. -/
theorem works_createWork_iff {load : Request → Program .transaction (Option Record)}
    (hooks : c.options.hooks = { Hooks.none with createLoader := some load })
    (hload : (load r).Works stamps m w (some row) w)
    (hfound : (w.1.working.rows c.entity.name).find?
      (Selection.ofFields (c.entity.keyFields row)).selects = some row) {scope : Record} :
    (c.createWork r body scope).Works stamps m w out w' ↔
      ∃ record plans,
        c.assignFields (some (c.reloaded w.1 row body)) (c.reloaded w.1 row body) body =
          .ok (record, plans) ∧
        validate (c.entity.columnFields (record.overlay scope)) c.entity.rules = .ok () ∧
        (c.write (record.overlay scope) .update plans).Works stamps m w out w' := by
  have hpreloaded : (c.preloaded r).Works stamps m w (some row) w := by
    rw [preloaded, hooks]
    exact hload
  have hsanitized : (c.sanitized r body true).Works stamps m w body w := by
    rw [sanitized, hooks]
    exact Program.returns_pure_iff.2 ⟨rfl, rfl⟩
  have hloaded : (c.withCollections row body).Works stamps m w (c.reloaded w.1 row body) w :=
    works_withCollections hfound
  have hsave (record : Record) (plans : List ChildPlan) :
      c.save r record .update plans true = c.write record .update plans :=
    save_eq_write (congrArg Hooks.preSave hooks) (congrArg Hooks.postSave hooks) ..
  unfold createWork
  refine (Program.returns_bind_iff_of_returns hpreloaded).trans ?_
  refine (Program.returns_bind_iff_of_returns hsanitized).trans ?_
  refine (Program.returns_bind_iff_of_returns hloaded).trans ?_
  refine (Program.returns_bind_iff_of_returns (Program.returns_pure_iff.2 ⟨rfl, rfl⟩)).trans ?_
  constructor
  · intro h
    obtain ⟨⟨record, plans⟩, w₁, hassigned, h⟩ := Program.returns_bind_iff.1 h
    obtain ⟨hassign, rfl⟩ := Program.returns_done_iff.1 hassigned
    obtain ⟨u, w₂, hdone, h⟩ := Program.returns_bind_iff.1 h
    obtain ⟨hchecked, rfl⟩ := Program.returns_done_iff.1 hdone
    exact ⟨record, plans, hassign, of_checked hchecked, hsave _ _ ▸ h⟩
  · rintro ⟨record, plans, hassign, hvalid, hwrite⟩
    refine Program.returns_bind_iff.2 ⟨_, _, Program.returns_done_iff.2 ⟨hassign, rfl⟩, ?_⟩
    refine Program.returns_bind_iff.2 ⟨(), _, Program.returns_done_iff.2 ⟨?_, rfl⟩, ?_⟩
    · rw [hvalid]
      rfl
    · rw [← hsave] at hwrite
      exact hwrite

/-! ## One outcome -/

/-- A creation of a request onto a row: the loader looks it up and does nothing else, an update of
    the request selects it, and it is the first row that is found by its key. The row is as it is
    stored, without collections, and what it holds in the columns of the scope is what the scope
    asks for. The body, ordered as all bodies are that are read from bytes, names none of these
    columns, and none that joins a relation. -/
structure UpsertsOnto (c : Controller) (client : Client) (r : Request)
    (load : Request → Program .transaction (Option Record)) (body row : Record) : Prop where
  loads : ∀ stamps, (load r).Works stamps client.db.model (client.db.begin, client.taken)
    (some row) (client.db.begin, client.taken)
  selected : ∃ s, c.keySelection r = .ok s ∧
    (client.db.rows c.entity.name).find? s.selects = some row
  found : (client.db.rows c.entity.name).find?
    (Selection.ofFields (c.entity.keyFields row)).selects = some row
  sorted : row.Sorted
  unpopulated : ∀ relation ∈ c.entity.relations, relation.kind = .toMany →
    (row.get relation.name).isArray = false
  inScope : ∀ f ∈ c.options.scope r, c.entity.hasColumn f.1 = true → row.field? f.1 = some f.2
  hasBody : c.bodyObject r = .ok body
  ordered : body.Sorted
  keepsJoins : ∀ relation ∈ c.entity.relations, body.field? relation.localColumn = none
  keepsScope : ∀ f ∈ c.options.scope r, c.entity.hasColumn f.1 = true → body.field? f.1 = none

/-- Fields whose columns a record holds already change none of its columns. -/
theorem columnFields_overlay_of_held {e : Entity} {scope : Record} (hrecord : record.Sorted)
    (h : ∀ f ∈ scope, e.hasColumn f.1 = true → record.field? f.1 = some f.2) :
    e.columnFields (record.overlay scope) = e.columnFields record := by
  refine Fields.ext_of_sorted (Fields.sorted_restrict (Fields.sorted_overlay hrecord _) _)
    (Fields.sorted_restrict hrecord _) fun k => ?_
  rw [Entity.columnFields, Entity.columnFields, Fields.field?_restrict, Fields.field?_restrict]
  by_cases hk : e.hasColumn k = true
  · rw [if_pos hk, if_pos hk, Fields.field?_overlay]
    cases hscope : Fields.field? scope.reverse k with
    | none => rfl
    | some v =>
      rw [h (k, v) (List.mem_reverse.1 (Fields.mem_of_field? hscope)) hk]
      rfl
  · rw [if_neg hk, if_neg hk]

section

variable {load : Request → Program .transaction (Option Record)}
  (hooks : c.options.hooks = { Hooks.none with createLoader := some load })
  (hr : c.UpsertsOnto client r load body row)

include hr in
/-- Both write the same columns: those of the row under the body. -/
theorem UpsertsOnto.columnFields_eq (he : c.entity.IsUnshadowed) {tx : Transaction}
    {current loaded : Record} {names' : List String} {stored stored' : Option Record}
    (hcurrent : tx.IsPopulated c.entity row current names)
    (hloaded : tx.IsPopulated c.entity row loaded names')
    (h : c.assignFields stored current body = .ok (record, plans))
    (h' : c.assignFields stored' loaded body = .ok (record', plans')) :
    c.entity.columnFields (record.overlay (c.options.scope r)) =
      c.entity.columnFields record' := by
  have hcolumns := columnFields_of_isPopulated he hcurrent hr.sorted h
  rw [columnFields_of_isPopulated he hloaded hr.sorted h', ← hcolumns]
  refine columnFields_overlay_of_held (sorted_assignFields (hcurrent.sorted hr.sorted) h) ?_
  intro f hf hk
  rw [field?_eq_of_columnFields hcolumns hk,
    Fields.field?_overlay_of_none _ (hr.keepsScope f hf hk), hr.inScope f hf hk]

include hr in
/-- Both plan against the same stored collections. -/
theorem UpsertsOnto.plans_eq (he : c.entity.IsUnshadowed)
    (h : c.assignFields (some (c.reloaded client.db.begin row body))
      (c.reloaded client.db.begin row body) body = .ok (record, plans))
    (h' : c.assignFields none (client.db.begin.populated c.entity
      (addNames names (c.replacedCollections body)) row) body = .ok (record', plans')) :
    plans = plans' := by
  refine plans_eq_of_isPopulated he (isPopulated_reloaded he client.db.begin row body)
    (Transaction.isPopulated_populated he client.db.begin row _) ?_ hr.ordered hr.keepsJoins h h'
  intro name hname
  refine ⟨List.mem_filter.2 ⟨hname, ?_⟩, mem_addNames.2 (.inr hname)⟩
  obtain ⟨relation, hmany⟩ := of_mem_replacedCollections hname
  obtain ⟨hrelation, hkind⟩ := toMany?_eq_some hmany
  obtain ⟨hmem, rfl⟩ := relation?_mem hrelation
  rw [hr.unpopulated relation hmem hkind]
  rfl

include hooks hr in
/-- What a creation that succeeds has planned, and what it commits under every supply. -/
theorem UpsertsOnto.of_returns_createOne {client' : Client}
    (h : (c.createOne r).Returns (Client.answer stamps) client out client') :
    ∃ record plans, c.assignFields (some (c.reloaded client.db.begin row body))
        (c.reloaded client.db.begin row body) body = .ok (record, plans) ∧
      ∀ supply t, (c.createOne r).Commits supply client t ↔
        c.WritesTo supply client (record.overlay (c.options.scope r)) plans t := by
  rw [createOne, hr.hasBody] at h ⊢
  exact commits_of_returns
    (fun supply _ _ => works_createWork_iff hooks (hr.loads supply) hr.found) h

include hooks hr in
/-- What an update that succeeds has planned, and what it commits under every supply. -/
theorem UpsertsOnto.of_returns_updateOne {client' : Client}
    (hnames : c.populateNames r c.options.populate.one = .ok names)
    (hknown : ∀ name ∈ names, (c.entity.relation? name).isSome = true)
    (h : (c.updateOne r).Returns (Client.answer stamps) client out client') :
    ∃ record plans, c.assignFields none (client.db.begin.populated c.entity
        (addNames names (c.replacedCollections body)) row) body = .ok (record, plans) ∧
      ∀ supply t, (c.updateOne r).Commits supply client t ↔
        c.WritesTo supply client record plans t := by
  obtain ⟨s, hs, hfound⟩ := hr.selected
  have hknown' : ∀ name ∈ addNames names (c.replacedCollections body),
      (c.entity.relation? name).isSome = true := by
    intro name hname
    rcases mem_addNames.1 hname with hname | hname
    · exact hknown name hname
    · exact isSome_relation?_of_mem_replacedCollections body name hname
  rw [updateOne, hr.hasBody, hnames] at h ⊢
  exact commits_of_returns (fun _ _ _ => works_updateWork_iff hooks hs hfound hknown') h

end

end Controller

/-- A creation onto a row and an update of the row agree, on a controller whose only hook is the
    loader: if both succeed, under whatever supplies of times and identifiers, then under every
    supply the one commits what the other does. In particular they leave the same tables if they
    have met the same supply. -/
theorem createOne_agrees_updateOne {config : ModelConfig} {m : Model} {resource entity : String}
    {o : Options} {c : Controller} (hm : config.resolve = .ok m)
    (hc : Controller.build m resource entity o = .ok c)
    {load : Request → Program .transaction (Option Record)}
    (hooks : o.hooks = { Hooks.none with createLoader := some load }) {client : Client}
    {r : Request} {body row : Record} (hr : c.UpsertsOnto client r load body row)
    {stamps stamps' : Stamps} {created updated : Record} {client₁ client₂ : Client}
    (hcreate : (c.createOne r).Returns (Client.answer stamps) client created client₁)
    (hupdate : (c.updateOne r).Returns (Client.answer stamps') client updated client₂) :
    (stamps = stamps' → client₁.db.tables = client₂.db.tables) ∧
      ∀ supply t, (c.createOne r).Commits supply client t ↔
        (c.updateOne r).Commits supply client t := by
  obtain ⟨rfl, hentity, rfl⟩ := Controller.build_eq_ok hc
  have he : c.entity.IsUnshadowed :=
    (isConsistent_of_resolve hm).isUnshadowed (entity?_mem hentity)
  obtain ⟨names, hnames⟩ : ∃ names, c.populateNames r c.options.populate.one = .ok names := by
    obtain ⟨_, _, _, hrest⟩ := Program.returns_bind_iff.1 hupdate
    obtain ⟨names, _, hdone, _⟩ := Program.returns_bind_iff.1 hrest
    exact ⟨names, (Program.returns_done_iff.1 hdone).1⟩
  obtain ⟨record, plans, hassign, hcreated⟩ := hr.of_returns_createOne hooks hcreate
  obtain ⟨record', plans', hassign', hupdated⟩ := hr.of_returns_updateOne hooks hnames
    (Controller.isSome_relation?_of_build hc hnames) hupdate
  obtain rfl := hr.plans_eq he hassign hassign'
  have hcolumns := hr.columnFields_eq he
    (Controller.isPopulated_reloaded he client.db.begin row body)
    (Transaction.isPopulated_populated he client.db.begin row _) hassign hassign'
  have hrelations := fun p hp => (Controller.of_mem_plans hassign p hp).1
  have hagree (supply : Stamps) (t : Tables) : (c.createOne r).Commits supply client t ↔
      (c.updateOne r).Commits supply client t := by
    rw [hcreated, hupdated, Controller.writesTo_congr he hrelations hcolumns]
  refine ⟨?_, hagree⟩
  rintro rfl
  have hcommits := (hagree stamps client₁.db.tables).1 ⟨created, client₁, hcreate, rfl⟩
  exact ((Program.commits_iff_of_returns hupdate).1 hcommits).symm

namespace Carts

/-- Looks up the cart of the path. -/
def loader (r : Request) : Program .transaction (Option Record) :=
  Program.ask .transaction "cart" (.findOne cart
    (.ofFields [("id", .str ((KeyPath.param? r.params "id").getD ""))]) [])

/-- The options of carts that are created onto those that are there. -/
def onto : Options := { Options.default with
  hooks := { Hooks.none with createLoader := some loader } }

/-- The resource of carts that are created onto those that are there. -/
def upserting : Controller := { controller with options := onto }

/-- The client after the cart was created onto the one that was there. -/
def upserted : Client := ((upserting.createOne request).run (Client.answer stamps) client).state

theorem upsertsOnto_request : upserting.UpsertsOnto client request loader body (cartRow "a") where
  loads := by
    intro stamps
    have hfind : client.db.begin.findOne cart (.ofFields [("id", .str "a")]) [] =
        .ok (some (cartRow "a")) :=
      Transaction.findOne_of_find? rfl (by decide +kernel) nofun
    refine Program.returns_askWith_iff.2 ?_
    show (client.db.begin.findOne cart (.ofFields [("id", .str "a")]) [], _) = _
    rw [hfind]
  selected := ⟨_, rfl, by decide +kernel⟩
  found := by decide +kernel
  sorted := List.pairwise_singleton _ _
  unpopulated := by decide
  inScope := nofun
  hasBody := rfl
  ordered := List.pairwise_singleton _ _
  keepsJoins := by decide
  keepsScope := nofun

end Carts

/-- Created onto, the cart has the items that an update gives it. -/
theorem createOne_agrees_updateOne_items :
    Carts.upserted.db.rows "item" =
        [Carts.itemRow "a" "1" "new" "now", Carts.itemRow "b" "3" "old" "then",
          ("cart", .str "a") :: Carts.element "4" ++ [("updated_at", .null)]] ∧
      ∃ out client', (Carts.upserting.updateOne Carts.request).Returns
          (Client.answer Carts.stamps) Carts.client out client' ∧
        Carts.upserted.db.tables = client'.db.tables := by
  refine ⟨by decide +kernel, ?_⟩
  obtain ⟨created, hcreated⟩ := exists_of_isOk
    (show ((Carts.upserting.createOne Carts.request).run (Client.answer Carts.stamps)
      Carts.client).result.isOk = true by decide +kernel)
  obtain ⟨updated, hupdated⟩ := exists_of_isOk
    (show ((Carts.upserting.updateOne Carts.request).run (Client.answer Carts.stamps)
      Carts.client).result.isOk = true by decide +kernel)
  have hbuild : Controller.build Carts.model "cart" "cart" Carts.onto = .ok Carts.upserting := rfl
  obtain ⟨hsame, -⟩ := createOne_agrees_updateOne Carts.resolve_config hbuild rfl
    Carts.upsertsOnto_request ⟨hcreated, rfl⟩ ⟨hupdated, rfl⟩
  exact ⟨updated, _, ⟨hupdated, rfl⟩, hsame rfl⟩

end Depot
