import Depot.Proofs.Controller.Replacement
import Depot.Proofs.Controller.Settled
import Depot.Proofs.Controller.Success
import Mathlib.Data.List.Find

/-!
# Updates that are sent again

A client that does not know whether its update has been done sends it again. If nothing was
committed in between, the second update finds the row that the first one has stored, which holds
the fields of the body, and the collection that it has replaced, whose rows are what the elements
say. So it succeeds too, although it takes other ways: what was created is updated, and nothing is
removed. All that changes are the times of the last changes.

* `Controller.CanReplace`: collections that an update can replace again.
* `Controller.IsRepeatable`: updates that can be sent again.
* `Controller.IsSettled`: a row and a collection that are what the body says.

Results:
* `isSettled_update`: after such an update the row and the collection are what the body says.
* `isRepeatable_update`: and it can still be sent again.
* `exists_returns_of_isSettled`: if they are so already, the update succeeds.
* `untimed_update_of_isSettled`: and it leaves them as they are.
* `updateOne_again`: an update that succeeded succeeds again, and changes nothing.
-/

namespace Depot

/-- A collection that an update can replace again: its rows are of another entity with keys, and
    refer to the selected row in the same text; the elements refer to no other row, and have keys
    of their own. -/
structure Controller.CanReplace (c : Controller) (db : Database) (relation : Relation)
    (target : Entity) (elements : List Json) (row : Record) : Prop where
  apart : target.name ≠ c.entity.name
  targetKey : target.primaryKey ≠ []
  notNull : (row.get relation.localColumn).isNull = false
  equal : looseEq (row.get relation.localColumn) (row.get relation.localColumn) = true
  text : ∀ t ∈ db.rows target.name,
    looseEq (t.get relation.remoteColumn) (row.get relation.localColumn) = true →
      keyPart? (t.get relation.remoteColumn) = keyPart? (row.get relation.localColumn)
  named : ∀ a, .obj a ∈ elements →
    target.IsNamed relation.remoteColumn (row.get relation.localColumn) a

/-- An update of a row that can be sent again: its body leaves the key of the row as it is, what
    the path and the scope of requests ask for, and what relations join; and it gives one
    collection at most an array. -/
structure Controller.IsRepeatable (c : Controller) (db : Database) (r : Request)
    (body row : Record) : Prop where
  hasBody : c.bodyObject r = .ok body
  ordered : (Json.obj body).IsOrdered
  selected : ∃ s, c.keySelection r = .ok s ∧
    (db.rows c.entity.name).find? s.selects = some row
  keepsKey : ∀ k ∈ c.entity.primaryKey, body.field? k = none
  keepsPath : ∀ entry ∈ c.keyPath.entries,
    entry.column ≠ updatedAt ∧ body.field? entry.column = none
  keepsScope : ∀ f ∈ c.options.scope r, f.1 ≠ updatedAt ∧ body.field? f.1 = none
  keepsJoins : ∀ relation ∈ c.entity.relations, relation.localColumn ≠ updatedAt ∧
    relation.remoteColumn ≠ updatedAt ∧ body.field? relation.localColumn = none
  single : (c.replacedCollections body).length ≤ 1
  collection : ∀ field relation target elements, c.toMany? field = some relation →
    c.model.entity? relation.target = some target → body.field? field = some (.arr elements) →
      c.CanReplace db relation target elements row

/-- A row that holds the fields of a body, with a collection that is what the body says. -/
structure Controller.IsSettled (c : Controller) (db : Database) (body row : Record) : Prop where
  fields : ∀ k x, c.entity.hasColumn k = true → k ≠ updatedAt → body.field? k = some x →
    row.field? k = some x
  collection : ∀ field relation target elements, c.toMany? field = some relation →
    c.model.entity? relation.target = some target → body.field? field = some (.arr elements) →
      ∃ children, elements = children.map .obj ∧
        target.IsSettled relation.remoteColumn (row.get relation.localColumn)
          (db.rows target.name) children

namespace Controller

variable {c : Controller} {stamps : Stamps} {client client' again : Client} {r : Request}
  {out body row : Record}

/-! ## Selections -/

/-- Rows that have the same in the fields that the body lacks are selected alike. -/
theorem IsRepeatable.selects_eq {db : Database} (hr : c.IsRepeatable db r body row) {s : Selection}
    (hs : c.keySelection r = .ok s) {stored : Record}
    (hkept : ∀ k, k ≠ updatedAt → body.field? k = none → stored.field? k = row.field? k) :
    s.selects stored = s.selects row := by
  have hget : ∀ f ∈ s.fields, stored.get f.1 = row.get f.1 := by
    intro f hf
    have hfield : f.1 ≠ updatedAt ∧ body.field? f.1 = none := by
      rcases mem_keySelection hs f hf with hscope | ⟨entry, hentry, hcolumn⟩
      · exact hr.keepsScope f hscope
      · exact hcolumn ▸ hr.keepsPath entry hentry
    rw [Record.get, hkept f.1 hfield.1 hfield.2, Record.get]
  rw [Selection.selects, Selection.selects, conditions_keySelection hs]
  congr 1
  rw [Bool.eq_iff_iff, List.all_eq_true, List.all_eq_true]
  refine forall₂_congr fun f hf => ?_
  show looseEq (stored.get f.1) f.2 = true ↔ looseEq (row.get f.1) f.2 = true
  rw [hget f hf]

/-! ## The collection -/

theorem IsRepeatable.replaces (hr : c.IsRepeatable client.db r body row) {field : String}
    {relation : Relation} {target : Entity} {elements : List Json}
    (hmany : c.toMany? field = some relation)
    (htarget : c.model.entity? relation.target = some target)
    (harray : body.field? field = some (.arr elements)) :
    c.Replaces client r field relation target body elements row := by
  have hreplace := hr.collection field relation target elements hmany htarget harray
  obtain ⟨hlocal, hremote, hkeeps⟩ :=
    hr.keepsJoins relation (relation?_mem (toMany?_eq_some hmany).1).1
  refine ⟨hmany, htarget, hreplace.apart, hreplace.targetKey, hlocal, hremote, hr.hasBody,
    hr.ordered, harray, ?_, hkeeps, hr.keepsKey, hr.selected, hreplace.notNull, hreplace.equal,
    hreplace.text⟩
  intro name items hname hsome
  have hfirst := mem_replacedCollections (Fields.mem_of_field? harray) (by rw [hmany]; rfl)
  have hsecond := mem_replacedCollections (Fields.mem_of_field? hname) hsome
  have hsingle := hr.single
  cases hnames : c.replacedCollections body with
  | nil => rw [hnames] at hfirst; cases hfirst
  | cons first others =>
    rw [hnames, List.length_cons] at hsingle
    have hnone : others = [] := List.length_eq_zero_iff.1 (by omega)
    rw [hnames, hnone] at hfirst hsecond
    rw [List.mem_singleton.1 hfirst, List.mem_singleton.1 hsecond]

/-- The body gives no collection an array, or it replaces one. -/
theorem IsRepeatable.flat_or_replaces (hc : c.IsPlain) (hr : c.IsRepeatable client.db r body row) :
    (∀ f ∈ body, ∀ items, f.2 = .arr items → c.toMany? f.1 = none) ∨
      ∃ field relation target elements,
        c.Replaces client r field relation target body elements row := by
  by_cases hflat : ∀ f ∈ body, ∀ items, f.2 = .arr items → c.toMany? f.1 = none
  · exact .inl hflat
  · push Not at hflat
    obtain ⟨⟨field, v⟩, hmem, elements, rfl, hsome⟩ := hflat
    obtain ⟨relation, hmany⟩ := Option.ne_none_iff_exists'.1 hsome
    obtain ⟨hrelation, -⟩ := relation?_mem (toMany?_eq_some hmany).1
    obtain ⟨target, htarget, -⟩ := (hc.consistent.relation c.entity hc.mem _ hrelation).hasTarget
    exact .inr ⟨field, relation, target, elements,
      hr.replaces hmany htarget (hr.ordered.1.field?_of_mem hmem)⟩

theorem IsSettled.of_children {db : Database} (hsettled : c.IsSettled db body row)
    {field : String} {relation : Relation} {target : Entity} {children : List Record}
    (hmany : c.toMany? field = some relation)
    (htarget : c.model.entity? relation.target = some target)
    (harray : body.field? field = some (.arr (children.map .obj))) :
    target.IsSettled relation.remoteColumn (row.get relation.localColumn) (db.rows target.name)
      children := by
  obtain ⟨children', hchildren, hcollection⟩ :=
    hsettled.collection field relation target _ hmany htarget harray
  rw [List.map_injective_iff.2 (fun _ _ => Json.obj.inj) hchildren]
  exact hcollection

/-! ## What an update stores -/

section

variable (hc : c.IsPlain) (hmodel : client.db.model = c.model)
  (htime : ∀ e ∈ c.model.entities, updatedAt ∉ e.primaryKey)
  (hsorted : ∀ q ∈ client.db.rows c.entity.name, q.Sorted)
  (hkeyed : c.entity.IsKeyed (client.db.rows c.entity.name))
  (hr : c.IsRepeatable client.db r body row) (h : c.Update stamps client r out client')

include hr in
theorem IsRepeatable.body_eq : h.body = body :=
  Except.ok.inj (h.hasBody.symm.trans hr.hasBody)

include hr in
theorem IsRepeatable.row_eq : h.row = row := by
  obtain ⟨s, hs, hfound⟩ := hr.selected
  have hselection : h.selection = s := Except.ok.inj (h.selected.symm.trans hs)
  have hfound' := h.found
  rw [hselection, hfound, Option.some.injEq] at hfound'
  exact hfound'.symm

include hc hr in
theorem IsRepeatable.plans_apart : ∀ p ∈ h.plans, p.target.name ≠ c.entity.name := by
  rcases hr.flat_or_replaces hc with hflat | ⟨field, relation, target, elements, hreplaces⟩
  · have hplans : h.plans = [] := plans_eq_nil (hr.body_eq h ▸ hflat) h.assigned
    rw [hplans]
    intro p hp
    cases hp
  · obtain ⟨children, changes, -, hplans, -⟩ :=
      plan_update hc hreplaces h (hr.body_eq h) (hr.row_eq h)
    rw [hplans]
    intro p hp
    rw [List.mem_singleton.1 hp]
    exact hreplaces.apart

include hc hmodel hsorted hkeyed hr h in
theorem IsRepeatable.sorted_rows : ∀ q ∈ client'.db.rows c.entity.name, q.Sorted := by
  obtain ⟨-, hrows⟩ := rows_update_of_keepsKey hc hmodel hsorted hkeyed h (hr.plans_apart hc h)
    (hr.body_eq h ▸ hr.keepsKey)
  rw [hrows]
  intro q hq
  obtain ⟨p, hp, rfl⟩ := List.mem_map.1 hq
  split
  · exact sorted_update hsorted h
  · exact hsorted p hp

include hc hmodel hsorted hkeyed hr in
/-- The row that an update stores has the fields of the body, and those of the selected row. -/
theorem IsRepeatable.field?_stored {k : String} (hk : k ≠ updatedAt) :
    h.stored.field? k =
      (if c.entity.hasColumn k then body.field? k else none).or (row.field? k) := by
  obtain rfl := hr.body_eq h
  obtain rfl := hr.row_eq h
  obtain ⟨hstored, -⟩ := rows_update_of_keepsKey hc hmodel hsorted hkeyed h
    (hr.plans_apart hc h) hr.keepsKey
  have hrow := hsorted h.row (List.mem_of_find?_eq_some h.found)
  have hwritten : (c.entity.columnFields (h.row.overlay h.body)).Sorted :=
    Fields.sorted_restrict (Fields.sorted_overlay hrow _) _
  rw [hstored, Transaction.field?_touch hwritten hk,
    Entity.columnFields, Fields.field?_restrict, Fields.field?_overlay_of_sorted _ hr.ordered.1]
  by_cases hcolumn : c.entity.hasColumn k = true
  · rw [if_pos hcolumn, if_pos hcolumn, Option.or_assoc, Option.or_self]
  · rw [if_neg hcolumn, if_neg hcolumn]

include hc hmodel hsorted hkeyed hr in
theorem IsRepeatable.field?_stored_of_none {k : String} (hk : k ≠ updatedAt)
    (hnone : body.field? k = none) : h.stored.field? k = row.field? k := by
  rw [hr.field?_stored hc hmodel hsorted hkeyed h hk, hnone, ite_self, Option.none_or]

include hc hmodel hsorted hkeyed hr in
/-- The stored row is joined to its collection by the same value. -/
theorem IsRepeatable.field?_stored_localColumn {field : String} {relation : Relation}
    {target : Entity} {elements : List Json}
    (hreplaces : c.Replaces client r field relation target body elements row) :
    h.stored.field? relation.localColumn = some (row.get relation.localColumn) := by
  rw [hr.field?_stored_of_none hc hmodel hsorted hkeyed h hreplaces.localTime
    hreplaces.keepsColumn, Record.field?_of_notNull hreplaces.notNull]

include hc hmodel hsorted hkeyed hr in
/-- The stored row is selected in place of the one that it was. -/
theorem IsRepeatable.selected_stored : ∃ s, c.keySelection r = .ok s ∧
    (client'.db.rows c.entity.name).find? s.selects = some h.stored := by
  obtain ⟨s, hs, hfound⟩ := hr.selected
  obtain rfl := hr.row_eq h
  obtain rfl := hr.body_eq h
  obtain ⟨-, hrows⟩ := rows_update_of_keepsKey hc hmodel hsorted hkeyed h
    (hr.plans_apart hc h) hr.keepsKey
  have hmem := List.mem_of_find?_eq_some hfound
  refine ⟨s, hs, ?_⟩
  rw [hrows, List.find?_map, List.find?_congr, hfound, Option.map_some, if_pos rfl]
  intro q hq
  show s.selects (if c.entity.key? q = c.entity.key? h.row then h.stored else q) = s.selects q
  by_cases hkey : c.entity.key? q = c.entity.key? h.row
  · rw [if_pos hkey, hkeyed.eq_of_key hq hmem hkey]
    exact hr.selects_eq hs fun k hk hnone =>
      hr.field?_stored_of_none hc hmodel hsorted hkeyed h hk hnone
  · rw [if_neg hkey]

end

/-! ## The first time -/

section

variable (hc : c.IsPlain) (hmodel : client.db.model = c.model)
  (htime : ∀ e ∈ c.model.entities, updatedAt ∉ e.primaryKey)
  (hsound : client.db.tables.IsSound c.model)

include hc hmodel htime hsound

/-- An update that can be sent again leaves its row and its collection as the body says. -/
theorem isSettled_update (hr : c.IsRepeatable client.db r body row)
    (h : c.Update stamps client r out client') : c.IsSettled client'.db body h.stored := by
  obtain ⟨hkeyed, hsorted⟩ := hsound c.entity.name c.entity hc.known
  constructor
  · intro k x hk hne hx
    rw [hr.field?_stored hc hmodel hsorted hkeyed h hne, if_pos hk, hx, Option.some_or]
  · intro field relation target elements hmany htarget harray
    have hreplaces := hr.replaces hmany htarget harray
    obtain ⟨children, changes, hchildren, hplans, hrec⟩ :=
      plan_update hc hreplaces h (hr.body_eq h) (hr.row_eq h)
    have hlocal := hr.field?_stored_localColumn hc hmodel hsorted hkeyed h hreplaces
    have hj := hreplaces.isJoined hc htime hsound
    obtain ⟨updates, inserts, removes, hstaged, hrows⟩ :=
      staged_update hmodel hsorted hreplaces hj h hlocal hchildren hplans hrec
    have hnamed : ∀ a ∈ children,
        target.IsNamed relation.remoteColumn (row.get relation.localColumn) a := by
      intro a ha
      exact (hr.collection field relation target elements hmany htarget harray).named a
        (hchildren ▸ List.mem_map_of_mem ha)
    refine ⟨children, hchildren, ?_⟩
    rw [Record.get_of_field? hlocal]
    exact isSettled_of_isStaged hj (hreplaces.sorted hchildren) hnamed hrec hstaged hrows

/-- After an update that can be sent again, it can still be sent again. -/
theorem isRepeatable_update (hr : c.IsRepeatable client.db r body row)
    (h : c.Update stamps client r out client') :
    c.IsRepeatable client'.db r body h.stored := by
  obtain ⟨hkeyed, hsorted⟩ := hsound c.entity.name c.entity hc.known
  refine ⟨hr.hasBody, hr.ordered, hr.selected_stored hc hmodel hsorted hkeyed h, hr.keepsKey,
    hr.keepsPath, hr.keepsScope, hr.keepsJoins, hr.single, ?_⟩
  intro field relation target elements hmany htarget harray
  have hreplace := hr.collection field relation target elements hmany htarget harray
  obtain ⟨children, -, hsettled⟩ := (isSettled_update hc hmodel htime hsound hr h).collection
    field relation target elements hmany htarget harray
  have hreplaces := hr.replaces hmany htarget harray
  have hlocal : h.stored.get relation.localColumn = row.get relation.localColumn :=
    Record.get_of_field? (hr.field?_stored_localColumn hc hmodel hsorted hkeyed h hreplaces)
  refine ⟨hreplace.apart, hreplace.targetKey, ?_, ?_, hsettled.joined.text, ?_⟩
  · rw [hlocal]
    exact hreplace.notNull
  · rw [hlocal]
    exact hreplace.equal
  · rw [hlocal]
    exact hreplace.named

end

/-! ## Once more -/

section

variable (hc : c.IsPlain) (hmodel : client.db.model = c.model)
  (hsorted : ∀ q ∈ client.db.rows c.entity.name, q.Sorted)
  (hkeyed : c.entity.IsKeyed (client.db.rows c.entity.name))
  (hr : c.IsRepeatable client.db r body row) (hsettled : c.IsSettled client.db body row)

/-- The rows of an entity that is neither that of the controller nor the target of a plan. -/
theorem rows_update_of_ne (h : c.Update stamps client r out client') {name : String}
    (hown : name ≠ c.entity.name) (hplans : ∀ p ∈ h.plans, p.target.name ≠ name) :
    client'.db.rows name = client.db.rows name := by
  obtain ⟨key, nested, -, hlog, hnested⟩ := log_update h
  refine rows_applyAll_of_ne h.applied fun v hv => ?_
  rw [hlog] at hv
  rcases List.mem_cons.1 hv with rfl | hv
  · exact Ne.symm hown
  · obtain ⟨p, hp, hentity⟩ := hnested v hv
    rw [hentity]
    exact hplans p hp

include hc hmodel hsorted hkeyed hr hsettled

/-- The selected row is replaced by one that holds the same. -/
theorem untimed_own_of_isSettled (h : c.Update stamps client r out client') :
    (client'.db.rows c.entity.name).map untimed = (client.db.rows c.entity.name).map untimed := by
  obtain ⟨-, hrows⟩ := rows_update_of_keepsKey hc hmodel hsorted hkeyed h (hr.plans_apart hc h)
    (hr.body_eq h ▸ hr.keepsKey)
  obtain rfl := hr.row_eq h
  have hmem := List.mem_of_find?_eq_some h.found
  have hstored : untimed h.stored = untimed h.row := by
    refine untimed_congr (sorted_update hsorted h) (hsorted h.row hmem) fun k hk => ?_
    rw [hr.field?_stored hc hmodel hsorted hkeyed h hk]
    by_cases hcolumn : c.entity.hasColumn k = true
    · rw [if_pos hcolumn]
      cases hx : body.field? k with
      | none => rw [Option.none_or]
      | some x => rw [Option.some_or, hsettled.fields k x hcolumn hk hx]
    · rw [if_neg hcolumn, Option.none_or]
  rw [hrows, List.map_map]
  apply List.map_congr_left
  intro q hq
  show untimed (if c.entity.key? q = c.entity.key? h.row then h.stored else q) = untimed q
  by_cases hkey : c.entity.key? q = c.entity.key? h.row
  · rw [if_pos hkey, hstored, hkeyed.eq_of_key hq hmem hkey]
  · rw [if_neg hkey]

/-- The collection is replaced by one that is the same. -/
theorem untimed_target_of_isSettled {field : String} {relation : Relation} {target : Entity}
    {elements : List Json}
    (hreplaces : c.Replaces client r field relation target body elements row)
    (h : c.Update stamps client r out client') :
    (client'.db.rows target.name).map untimed = (client.db.rows target.name).map untimed := by
  obtain ⟨children, changes, hchildren, hplans, hrec⟩ :=
    plan_update hc hreplaces h (hr.body_eq h) (hr.row_eq h)
  have hcollection := hsettled.of_children hreplaces.isCollection hreplaces.hasTarget
    (hchildren ▸ hreplaces.array)
  have hlocal := hr.field?_stored_localColumn hc hmodel hsorted hkeyed h hreplaces
  obtain ⟨change, inserted, hrows, hreplacement⟩ := batches_update hmodel hsorted hreplaces
    hcollection.joined h hlocal hchildren hplans hrec
  rw [hrows]
  exact hcollection.untimed_eq (hreplaces.sorted hchildren) hreplacement

/-- An update of a row and a collection that are what the body says leaves all rows as they are,
    each in its place. -/
theorem untimed_update_of_isSettled (h : c.Update stamps client r out client') (name : String) :
    (client'.db.rows name).map untimed = (client.db.rows name).map untimed := by
  by_cases hown : name = c.entity.name
  · rw [hown]
    exact untimed_own_of_isSettled hc hmodel hsorted hkeyed hr hsettled h
  · rcases hr.flat_or_replaces hc with hflat | ⟨field, relation, target, elements, hreplaces⟩
    · have hplans : h.plans = [] := plans_eq_nil (hr.body_eq h ▸ hflat) h.assigned
      rw [rows_update_of_ne h hown fun p hp => by rw [hplans] at hp; cases hp]
    · by_cases htarget : name = target.name
      · rw [htarget]
        exact untimed_target_of_isSettled hc hmodel hsorted hkeyed hr hsettled hreplaces h
      · obtain ⟨children, changes, -, hplans, -⟩ :=
          plan_update hc hreplaces h (hr.body_eq h) (hr.row_eq h)
        rw [rows_update_of_ne h hown fun p hp => ?_]
        rw [hplans] at hp
        rw [List.mem_singleton.1 hp]
        exact Ne.symm htarget

end

/-! ## Once more, with success -/

section

variable (hc : c.IsPlain) (hmodel : client.db.model = c.model)
  (htime : ∀ e ∈ c.model.entities, updatedAt ∉ e.primaryKey)
  (hsorted : ∀ q ∈ client.db.rows c.entity.name, q.Sorted)
  (hkeyed : c.entity.IsKeyed (client.db.rows c.entity.name))
  (hr : c.IsRepeatable client.db r body row) (hsettled : c.IsSettled client.db body row)

include hc hr hsettled in
/-- The changes of the array can be planned. -/
theorem exists_assignFields_of_isSettled {names : List String} {loaded : Record}
    (hloaded : client.db.begin.IsPopulated c.entity row loaded
      (addNames names (c.replacedCollections body))) :
    ∃ record plans, c.assignFields none loaded body = .ok (record, plans) := by
  refine exists_assignFields hr.ordered.1 fun f hf current hcurrent => ?_
  by_cases hplain : ∀ items, f.2 = .arr items → c.toMany? f.1 = none
  · exact ⟨none, planChildren_eq_none hplain⟩
  · push Not at hplain
    obtain ⟨elements, harr, hsome⟩ := hplain
    obtain ⟨relation, hmany⟩ := Option.ne_none_iff_exists'.1 hsome
    obtain ⟨hrelation, -⟩ := relation?_mem (toMany?_eq_some hmany).1
    obtain ⟨target, htarget, -⟩ := (hc.consistent.relation c.entity hc.mem _ hrelation).hasTarget
    have harray : body.field? f.1 = some (.arr elements) :=
      hr.ordered.1.field?_of_mem (harr ▸ hf)
    have hreplaces := hr.replaces hmany htarget harray
    obtain ⟨hexisting, hparent⟩ := hreplaces.of_current hc hloaded (hreplaces.mem names) hcurrent
    obtain ⟨children, rfl, hcollection⟩ :=
      hsettled.collection f.1 relation target elements hmany htarget harray
    obtain ⟨changes, hrec, -, -⟩ := hcollection.exists_reconcile
    refine ⟨some ⟨relation, target, changes⟩, ?_⟩
    rw [harr]
    exact planChildren_of_reconcile hmany htarget hreplaces.targetKey hexisting
      (by rw [hparent]; exact hrec)

include hc hsorted hkeyed hr in
/-- The record that is written is under the key of the selected row. -/
theorem isThere_written {names : List String} {loaded record : Record} {plans : List ChildPlan}
    (hloaded : client.db.begin.IsPopulated c.entity row loaded names)
    (hassign : c.assignFields none loaded body = .ok (record, plans)) :
    c.entity.IsThere (client.db.rows c.entity.name) record := by
  obtain ⟨s, -, hfound⟩ := hr.selected
  have hmem := List.mem_of_find?_eq_some hfound
  obtain ⟨key, hrowKey⟩ := Option.isSome_iff_exists.1 (hkeyed.complete row hmem)
  have hcolumns := columnFields_of_isPopulated hc.isUnshadowed hloaded (hsorted row hmem) hassign
  refine ⟨?_, row, hmem, key, hrowKey, ?_⟩
  · rw [hcolumns]
    exact Fields.sorted_restrict (Fields.sorted_overlay (hsorted row hmem) _) _
  · rw [hcolumns, key?_columnFields_overlay hc hr.keepsKey, hrowKey]

include hc hsorted hr in
/-- What is written is joined to its collection by the same value as the selected row. -/
theorem get_written_localColumn {names : List String} {loaded record stored : Record}
    {plans : List ChildPlan} {tx : Transaction} {stamp : Stamp} {field : String}
    {relation : Relation} {target : Entity} {elements : List Json}
    (hreplaces : c.Replaces client r field relation target body elements row)
    (hloaded : client.db.begin.IsPopulated c.entity row loaded names)
    (hassign : c.assignFields none loaded body = .ok (record, plans))
    (hupdate : client.db.begin.update c.entity record stamp = .ok (stored, tx)) :
    Record.get (record.overlay stored) relation.localColumn = row.get relation.localColumn := by
  obtain ⟨s, -, hfound⟩ := hr.selected
  have hrow := hsorted row (List.mem_of_find?_eq_some hfound)
  have hcolumns := columnFields_of_isPopulated hc.isUnshadowed hloaded hrow hassign
  have hwritten : (c.entity.columnFields record).Sorted := by
    rw [hcolumns]
    exact Fields.sorted_restrict (Fields.sorted_overlay hrow _) _
  obtain ⟨key, current, -, hcurrent, hstored, -⟩ := Transaction.update_eq_ok hupdate
  have hcurrentSorted := hsorted current (findRow?_eq_some hcurrent).1
  obtain ⟨hrelation, -⟩ := relation?_mem (toMany?_eq_some hreplaces.isCollection).1
  rw [hstored]
  refine Record.get_overlay_of_field? (Transaction.sorted_touch hcurrentSorted) ?_
  rw [Transaction.field?_touch hwritten hreplaces.localTime, hcolumns, Entity.columnFields,
    Fields.field?_restrict, if_pos (hc.isUnshadowed _ hrelation).1,
    Fields.field?_overlay_of_none _ hreplaces.keepsColumn,
    Record.field?_of_notNull hreplaces.notNull, Option.some_or]

include hc hmodel htime hsorted hkeyed hr hsettled in
/-- What is planned can be written, and goes over rows that are there. -/
theorem exists_write_of_isSettled (stamps : Stamps) {names : List String}
    {loaded record : Record} {plans : List ChildPlan}
    (hloaded : client.db.begin.IsPopulated c.entity row loaded
      (addNames names (c.replacedCollections body)))
    (hassign : c.assignFields none loaded body = .ok (record, plans)) :
    ∃ out w, (c.write record .update plans).Works stamps client.db.model
        (client.db.begin, client.taken) out w ∧
      w.1.IsInPlace client.db.model ∧ w.1.working = client.db.tables := by
  obtain ⟨stored, tx, hupdate, htx, hworking⟩ :=
    (Transaction.isInPlace_begin client.db.model client.db).exists_update (hmodel ▸ hc.known)
      (htime c.entity hc.mem) (isThere_written hc hsorted hkeyed hr hloaded hassign)
      (stamps client.taken)
  have hpersist : (c.perform (.persist c.entity record .update)).Works stamps client.db.model
      (client.db.begin, client.taken) stored (tx, client.taken + 1) :=
    works_persist_iff.2 ⟨tx, hupdate, rfl⟩
  rcases hr.flat_or_replaces hc with hflat | ⟨field, relation, target, elements, hreplaces⟩
  · obtain rfl : plans = [] := plans_eq_nil hflat hassign
    exact ⟨_, _, Program.returns_bind_iff.2 ⟨stored, _, hpersist,
      Program.returns_pure_iff.2 ⟨rfl, rfl⟩⟩, htx, hworking⟩
  · obtain ⟨children, changes, hchildren, rfl, hrec⟩ :=
      plan_assignFields hc hreplaces hloaded (hreplaces.mem names) hassign
    have hcollection := hsettled.of_children hreplaces.isCollection hreplaces.hasTarget
      (hchildren ▸ hreplaces.array)
    obtain ⟨changes', hrec', hcreate, hremove⟩ := hcollection.exists_reconcile
    obtain rfl : changes = changes' := Except.ok.inj (hrec.symm.trans hrec')
    have hrows : ∀ x ∈ changes.toUpdate, target.IsThere (tx.working.rows target.name)
        ((x.1.overlay x.2).put relation.remoteColumn (row.get relation.localColumn)) := by
      rw [hworking]
      exact fun x hx => isThere_patched hcollection.joined (hreplaces.sorted hchildren) hrec hx
    have hknown : client.db.model.entity? target.name = some target :=
      hmodel ▸ entity?_name hreplaces.hasTarget
    obtain ⟨saved, w, hplan, hw, hworking'⟩ := exists_writePlan (c := c)
      (p := ⟨relation, target, changes⟩) (w := (tx, client.taken + 1)) stamps htx hknown
      (htime target (entity?_mem hreplaces.hasTarget)) hcreate hremove hrows
    rw [← get_written_localColumn hc hsorted hr hreplaces hloaded hassign hupdate] at hplan
    exact ⟨_, w, Program.returns_bind_iff.2 ⟨stored, _, hpersist, Program.returns_bind_iff.2
      ⟨saved, w, hplan, Program.returns_pure_iff.2 ⟨rfl, rfl⟩⟩⟩, hw, hworking'.trans hworking⟩

include hc hmodel htime hsorted hkeyed hr hsettled in
/-- An update of a row and a collection that are what the body says succeeds. -/
theorem exists_returns_of_isSettled (stamps : Stamps) {names : List String}
    (hnames : c.populateNames r c.options.populate.one = .ok names)
    (hknown : ∀ name ∈ addNames names (c.replacedCollections body),
      (c.entity.relation? name).isSome = true)
    (hvalid : validatePartial c.entity.rules (c.entity.columnFields body) = .ok ()) :
    ∃ out client', (c.updateOne r).Returns (Client.answer stamps) client out client' := by
  obtain ⟨s, hs, hfound⟩ := hr.selected
  have hloaded := Transaction.isPopulated_populated hc.isUnshadowed client.db.begin row
    (addNames names (c.replacedCollections body))
  obtain ⟨record, plans, hassign⟩ := exists_assignFields_of_isSettled hc hr hsettled hloaded
  obtain ⟨out, w, hwrite, hw, hworking⟩ := exists_write_of_isSettled hc hmodel htime hsorted
    hkeyed hr hsettled stamps hloaded hassign
  obtain ⟨t, happly⟩ := exists_applyAll_of_isInPlace hw.staged
  have hlog : w.1.log = w.1.staged := by
    rw [Transaction.log, hw.flushed, List.nil_append]
  rw [hworking, ← hlog] at happly
  exact ⟨out, _, returns_updateOne_of_write hc.hooks hr.hasBody hnames hs hfound hknown hvalid
    hassign hwrite happly⟩

end

end Controller

/-- An update that succeeded succeeds again if it is sent again, at whatever time, with nothing
    committed in between, and then leaves all rows of all entities as they are, each in its place,
    but for the times of their last changes. The database is reachable, the controller has no
    hooks, and the time of the last change is no part of a key. -/
theorem updateOne_again {config : ModelConfig} {m : Model} {resource entity : String}
    {o : Options} {c : Controller} (hm : config.resolve = .ok m)
    (hc : Controller.build m resource entity o = .ok c) (hooks : o.hooks = .none)
    (htime : ∀ e ∈ m.entities, updatedAt ∉ e.primaryKey) {client client' : Client}
    (hdb : client.db.IsReachable m) {r : Request} {body row : Record}
    (hr : c.IsRepeatable client.db r body row) {stamps : Stamps} {out : Record}
    (h : (c.updateOne r).Returns (Client.answer stamps) client out client')
    (stamps' : Stamps) {again : Client} (hagain : again.db = client'.db) :
    ∃ out' client'', (c.updateOne r).Returns (Client.answer stamps') again out' client'' ∧
      ∀ name, (client''.db.rows name).map untimed = (client'.db.rows name).map untimed := by
  have hplain := Controller.isPlain_of_build hm hc hooks
  obtain ⟨rfl, -, rfl⟩ := Controller.build_eq_ok hc
  obtain ⟨hmodel, hsound⟩ := isSound_of_isReachable htime hdb
  obtain ⟨hkeyed, hsorted⟩ := hsound c.entity.name c.entity hplain.known
  obtain ⟨u, hnames⟩ := Controller.update_of_returns hplain.hooks h
  have hapart := hr.plans_apart hplain u
  -- the database that the update leaves
  have hmodel' : again.db.model = c.model := by rw [hagain, u.model, hmodel]
  have hkeyed' : c.entity.IsKeyed (again.db.rows c.entity.name) := by
    rw [hagain]
    exact Controller.isKeyed_update hplain hmodel (htime _ hplain.mem) hsorted hkeyed u hapart
  have hsorted' : ∀ q ∈ again.db.rows c.entity.name, q.Sorted := by
    rw [hagain]
    exact hr.sorted_rows hplain hmodel hsorted hkeyed u
  have hr' : c.IsRepeatable again.db r body u.stored := by
    rw [hagain]
    exact Controller.isRepeatable_update hplain hmodel htime hsound hr u
  have hsettled : c.IsSettled again.db body u.stored := by
    rw [hagain]
    exact Controller.isSettled_update hplain hmodel htime hsound hr u
  have hknown := (Transaction.populate_eq_ok_iff.1 u.populated).1
  have hvalid := u.valid
  rw [hr.body_eq u] at hknown hvalid
  obtain ⟨out', client'', h'⟩ := Controller.exists_returns_of_isSettled hplain hmodel' htime
    hsorted' hkeyed' hr' hsettled stamps' hnames hknown hvalid
  obtain ⟨u'⟩ := Controller.of_returns_updateOne hplain.hooks h'
  refine ⟨out', client'', h', fun name => ?_⟩
  rw [← hagain]
  exact Controller.untimed_update_of_isSettled hplain hmodel' hsorted' hkeyed' hr' hsettled u' name

namespace Carts

theorem isNamed_element (id : String) : item.IsNamed "cart" (.str "a") (element id) :=
  ⟨.inl rfl, rfl⟩

/-- The body names no field of the cart but its items, which have keys and no cart. -/
theorem isRepeatable_request :
    controller.IsRepeatable client.db request body (cartRow "a") where
  hasBody := rfl
  ordered := replaces_items.ordered
  selected := replaces_items.selected
  keepsKey := replaces_items.keepsKey
  keepsPath := by decide
  keepsScope := by decide
  keepsJoins := by decide
  single := by decide
  collection := by
    intro field relation target elements hmany htarget harray
    obtain rfl : field = "items" :=
      congrArg Prod.fst (List.mem_singleton.1 (Fields.mem_of_field? harray))
    obtain rfl := Option.some.inj (hmany.symm.trans replaces_items.isCollection)
    obtain rfl := Option.some.inj (htarget.symm.trans replaces_items.hasTarget)
    obtain rfl := Json.arr.inj (Option.some.inj (harray.symm.trans replaces_items.array))
    refine ⟨replaces_items.apart, replaces_items.targetKey, replaces_items.notNull,
      replaces_items.equal, replaces_items.text, ?_⟩
    intro a ha
    simp only [List.mem_cons, Json.obj.injEq, List.not_mem_nil, or_false] at ha
    rcases ha with rfl | rfl
    · exact isNamed_element "1"
    · exact isNamed_element "4"

end Carts

/-- The update of the cart has removed the second item and inserted the fourth; sent again at
    another time it finds the first and the fourth, and keeps both. -/
theorem updateOne_again_items :
    (Carts.after.db.rows "item").map untimed =
        [untimed (Carts.itemRow "a" "1" "new" "now"), untimed (Carts.itemRow "b" "3" "old" "then"),
          ("cart", .str "a") :: Carts.element "4"] ∧
      ∃ out client, (Carts.controller.updateOne Carts.request).Returns
          (Client.answer fun _ => ⟨"later", "other"⟩) Carts.after out client ∧
        ∀ name, (client.db.rows name).map untimed = (Carts.after.db.rows name).map untimed := by
  refine ⟨by decide +kernel, ?_⟩
  obtain ⟨out, hout⟩ := Carts.returns_request
  exact updateOne_again Carts.resolve_config Carts.build_controller rfl
    Carts.updatedAt_not_mem_primaryKey Carts.isReachable_client Carts.isRepeatable_request hout
    (fun _ => ⟨"later", "other"⟩) rfl

end Depot
