import Depot.Proofs.Controller.OwnRows

/-!
# Isolation of scopes

Every request of a resource is confined to a scope: field values that the rows it reads and writes
should have. A request looks its row up within the scope and lays the scope over what it creates,
but not over what it updates: the body of an update may name another row by its key, or take the
row out of the scope. So the rows outside a scope stay as they are exactly as long as no update
does that.

* `inScope`, `outside`: whether a row is in a scope, and the rows that are not.
* `WriteRequest`, `Controller.serveAll`: requests that write, served one after the other.
* `Controller.Confines`: what a request must not do for the rows outside a scope to stay.

Results:
* `outside_serve_iff`: a single request.
* `outside_serveAll_iff`: the rows outside the scope stay as they are, request after request, if
  and only if every request is confined.
* `outside_serveAll_of_tame`: they stay as they are if no update names a column of the key or of
  the scope.
-/

namespace Depot

/-- Whether a row is in a scope: every scoped field equals the scope's value. -/
def inScope (scope row : Record) : Bool := (Selection.ofFields scope).selects row

/-- The rows that are not in a scope, in their order. -/
def outside (scope : Record) (rows : List Record) : List Record :=
  rows.filter fun row => !inScope scope row

theorem inScope_iff {scope row : Record} :
    inScope scope row = true ↔ ∀ f v, (f, v) ∈ scope → looseEq (row.get f) v = true := by
  rw [inScope, Selection.selects]
  show (scope.all _ && true) = true ↔ _
  rw [Bool.and_true, List.all_eq_true]
  exact ⟨fun h f v hm => h (f, v) hm, fun h f hm => h f.1 f.2 hm⟩

/-- Replacing a row leaves the rows outside a scope as they are if the row stays the same or stays
    in the scope, and not otherwise. -/
theorem outside_replace_iff {scope : Record} {before after : List Record} {q row : Record} :
    outside scope (before ++ row :: after) = outside scope (before ++ q :: after) ↔
      row = q ∨ inScope scope q = true ∧ inScope scope row = true := by
  simp only [outside, List.filter_append, List.append_cancel_left_eq, List.filter_cons]
  cases hq : inScope scope q with
  | true =>
    cases hrow : inScope scope row with
    | true => simp
    | false =>
      have hne : row ≠ q := by
        rintro rfl
        rw [hq] at hrow
        cases hrow
      simp [hne]
  | false =>
    cases hrow : inScope scope row with
    | true =>
      have hne : row ≠ q := by
        rintro rfl
        rw [hq] at hrow
        cases hrow
      simp [hne]
    | false => simp

theorem outside_remove_iff {scope : Record} {before after : List Record} {q : Record} :
    outside scope (before ++ after) = outside scope (before ++ q :: after) ↔
      inScope scope q = true := by
  simp only [outside, List.filter_append, List.append_cancel_left_eq, List.filter_cons]
  cases inScope scope q with
  | true => simp
  | false => simp

theorem outside_add_iff {scope : Record} {rows : List Record} {row : Record} :
    outside scope (rows ++ [row]) = outside scope rows ↔ inScope scope row = true := by
  simp only [outside, List.filter_append, List.filter_cons, List.filter_nil]
  cases inScope scope row with
  | true => simp
  | false => simp

/-! ## Runs of requests -/

/-- A request that writes. -/
inductive WriteRequest
  | create (r : Request)
  | update (r : Request)
  | delete (r : Request)

/-- What is asked for. -/
def WriteRequest.request : WriteRequest → Request
  | .create r | .update r | .delete r => r

namespace Controller

/-- Whether a request succeeds. -/
def succeeds (c : Controller) (stamps : Stamps) (client : Client) : WriteRequest → Bool
  | .create r => ((c.createOne r).run (Client.answer stamps) client).result.isOk
  | .update r => ((c.updateOne r).run (Client.answer stamps) client).result.isOk
  | .delete r => ((c.deleteOne r).run (Client.answer stamps) client).result.isOk

/-- A client after a request. -/
def serve (c : Controller) (stamps : Stamps) (client : Client) : WriteRequest → Client
  | .create r => ((c.createOne r).run (Client.answer stamps) client).state
  | .update r => ((c.updateOne r).run (Client.answer stamps) client).state
  | .delete r => ((c.deleteOne r).run (Client.answer stamps) client).state

/-- A client after requests. -/
def serveAll (c : Controller) (stamps : Stamps) (client : Client) (rs : List WriteRequest) :
    Client :=
  rs.foldl (c.serve stamps) client

/-- Whether rows can be created in a scope: its values equal themselves, and it asks for no key
    that the store makes up. -/
def admits (c : Controller) (scope : Record) : Bool :=
  scope.all fun (f, v) => looseEq v v && !c.entity.makesUp f v

/-- A request that does not reach out of a scope, if it succeeds. A creation needs a scope that can
    be had at all. An update must write over a row of the scope and leave it there, or change
    nothing. A deletion must take out a row of the scope. -/
def Confines (c : Controller) (stamps : Stamps) (scope : Record) (client : Client)
    (q : WriteRequest) : Prop :=
  c.succeeds stamps client q = true →
    match q with
    | .create _ => c.admits scope = true
    | .update r => ∀ current stored, c.replacement? stamps client r = some (current, stored) →
        stored = current ∨ inScope scope current = true ∧ inScope scope stored = true
    | .delete r => ∀ row, c.removed? client r = some row → inScope scope row = true

/-- Requests none of which reaches out of a scope when its turn comes. -/
def ConfinesAll (c : Controller) (stamps : Stamps) (scope : Record) :
    Client → List WriteRequest → Prop
  | _, [] => True
  | client, q :: rs =>
    c.Confines stamps scope client q ∧ c.ConfinesAll stamps scope (c.serve stamps client q) rs

variable {c : Controller} {stamps : Stamps} {client : Client} {scope : Record}

/-! ## A single request -/

/-- A created row holds the values of the scope, but for a key that the store makes up. -/
theorem inScope_creation_iff {r : Request} {out : Record} {client' : Client}
    (hscope : scope.Sorted) (hcolumns : ∀ f v, (f, v) ∈ scope → c.entity.hasColumn f = true)
    (hr : c.options.scope r = scope) (h : c.Creation stamps client r out client') :
    inScope scope h.stored = true ↔ c.admits scope = true := by
  obtain ⟨hfill, -⟩ := Transaction.insert_eq_ok h.persisted
  subst hr
  have hvalue (f : String) (v : Json) (hm : (f, v) ∈ c.options.scope r) :=
    h.field?_of_scope hscope hm (hcolumns f v hm)
  rw [inScope_iff, admits, List.all_eq_true]
  have hfield (f : String) (v : Json) (hm : (f, v) ∈ c.options.scope r) :
      looseEq (h.stored.get f) v = (looseEq v v && !c.entity.makesUp f v) := by
    have hget := Record.get_of_field? (hvalue f v hm)
    cases hup : c.entity.makesUp f v with
    | false =>
      rw [Transaction.get_fillDefaults_of_field? hfill (hvalue f v hm) hup]
      exact (Bool.and_true _).symm
    | true =>
      have hfilled := Transaction.isNull_get_fillDefaults hfill (k := f) (by rw [hget, hup])
      have hnull : v = .null := by
        rw [Entity.makesUp, Bool.and_eq_true] at hup
        cases v with
        | null => rfl
        | _ => cases hup.1
      rw [hnull, looseEq_null_right, hfilled]
      rfl
  constructor
  · intro hin f hm
    have := hin f.1 f.2 hm
    rwa [hfield f.1 f.2 hm] at this
  · intro hadmits f v hm
    rw [hfield f v hm]
    exact hadmits (f, v) hm

/-- A client of the controller's model whose rows of the entity have their fields in order. -/
structure Fits (c : Controller) (client : Client) : Prop where
  model : client.db.model = c.model
  sorted : ∀ row ∈ client.db.rows c.entity.name, row.Sorted

theorem db_serve_of_not_succeeds {q : WriteRequest} (h : c.succeeds stamps client q = false) :
    (c.serve stamps client q).db = client.db := by
  cases q with
  | create r =>
    obtain ⟨e, he⟩ := exists_error_of_not_isOk h
    exact c.keepsOnFailure_createOne r stamps client e he
  | update r =>
    obtain ⟨e, he⟩ := exists_error_of_not_isOk h
    exact c.keepsOnFailure_updateOne r stamps client e he
  | delete r =>
    obtain ⟨e, he⟩ := exists_error_of_not_isOk h
    exact c.keepsOnFailure_deleteOne r stamps client e he

/-- A request that succeeds, by its kind. -/
inductive Served (c : Controller) (stamps : Stamps) (client : Client) :
    WriteRequest → Client → Prop
  | created {r : Request} {out : Record} {client' : Client}
      (h : c.Creation stamps client r out client') : Served c stamps client (.create r) client'
  | updated {r : Request} {out : Record} {client' : Client}
      (h : c.Update stamps client r out client') : Served c stamps client (.update r) client'
  | deleted {r : Request} {client' : Client} (h : c.Deletion client r client') :
      Served c stamps client (.delete r) client'

theorem served_serve (hooks : c.options.hooks = .none) {q : WriteRequest}
    (h : c.succeeds stamps client q = true) :
    c.Served stamps client q (c.serve stamps client q) := by
  cases q with
  | create r =>
    obtain ⟨out, hout⟩ := exists_of_isOk h
    obtain ⟨created⟩ := of_returns_createOne hooks ⟨hout, rfl⟩
    exact .created created
  | update r =>
    obtain ⟨out, hout⟩ := exists_of_isOk h
    obtain ⟨updated⟩ := of_returns_updateOne hooks ⟨hout, rfl⟩
    exact .updated updated
  | delete r =>
    obtain ⟨u, hout⟩ := exists_of_isOk h
    obtain ⟨deleted⟩ := of_returns_deleteOne hooks ⟨hout, rfl⟩
    exact .deleted deleted

/-- What a request that succeeds does to the rows of the entity: it adds the new instance, writes
    over a row, or takes one out. -/
theorem rows_serve (hc : c.IsPlain) (hapart : c.KeepsApart) (hclient : c.Fits client)
    {q : WriteRequest} (h : c.succeeds stamps client q = true) :
    let rows := client.db.rows c.entity.name
    let after := (c.serve stamps client q).db.rows c.entity.name
    match q with
    | .create r => ∃ out client', ∃ created : c.Creation stamps client r out client',
        after = rows ++ [created.stored]
    | .update r => ∃ before current rest stored, rows = before ++ current :: rest ∧
        c.replacement? stamps client r = some (current, stored) ∧ stored.Sorted ∧
        after = before ++ stored :: rest
    | .delete r => ∃ before row rest, rows = before ++ row :: rest ∧
        c.removed? client r = some row ∧ after = before ++ rest := by
  have hserved := served_serve hc.hooks h
  generalize c.serve stamps client q = client' at hserved
  cases hserved with
  | created created => exact ⟨_, _, created, rows_creation hc hapart hclient.model created⟩
  | updated updated =>
    obtain ⟨before, current, rest, hrows, hreplace, hafter⟩ :=
      rows_update hc hapart hclient.model hclient.sorted updated
    exact ⟨before, current, rest, updated.stored, hrows, hreplace,
      sorted_update hclient.sorted updated, hafter⟩
  | deleted deleted => exact rows_deletion hc hclient.model deleted

theorem model_serve (hc : c.IsPlain) (stamps : Stamps) (client : Client) (q : WriteRequest) :
    (c.serve stamps client q).db.model = client.db.model := by
  cases h : c.succeeds stamps client q with
  | false => rw [db_serve_of_not_succeeds h]
  | true =>
    have hserved := served_serve hc.hooks h
    generalize c.serve stamps client q = client' at hserved
    cases hserved with
    | created created => exact created.model
    | updated updated => exact updated.model
    | deleted deleted => exact deleted.model

theorem fits_serve (hc : c.IsPlain) (hapart : c.KeepsApart) (stamps : Stamps)
    (hclient : c.Fits client) (q : WriteRequest) :
    c.Fits (c.serve stamps client q) := by
  refine ⟨(model_serve hc stamps client q).trans hclient.model, ?_⟩
  cases h : c.succeeds stamps client q with
  | false =>
    rw [db_serve_of_not_succeeds h]
    exact hclient.sorted
  | true =>
    have hsorted := hclient.sorted
    have hrows := rows_serve hc hapart hclient h
    cases q with
    | create r =>
      obtain ⟨out, client', created, hafter⟩ := hrows
      rw [hafter]
      exact List.forall_mem_append.2
        ⟨hsorted, List.forall_mem_singleton.2 (sorted_creation created)⟩
    | update r =>
      obtain ⟨before, current, rest, stored, hbefore, -, hstored, hafter⟩ := hrows
      rw [hbefore, List.forall_mem_append, List.forall_mem_cons] at hsorted
      rw [hafter, List.forall_mem_append, List.forall_mem_cons]
      exact ⟨hsorted.1, hstored, hsorted.2.2⟩
    | delete r =>
      obtain ⟨before, gone, rest, hbefore, -, hafter⟩ := hrows
      rw [hbefore, List.forall_mem_append, List.forall_mem_cons] at hsorted
      rw [hafter, List.forall_mem_append]
      exact ⟨hsorted.1, hsorted.2.2⟩

/-- A request leaves the rows outside its scope as they are if and only if it is confined. -/
theorem outside_serve_iff (hc : c.IsPlain) (hapart : c.KeepsApart) (stamps : Stamps)
    (hscope : scope.Sorted)
    (hcolumns : ∀ f v, (f, v) ∈ scope → c.entity.hasColumn f = true) (hclient : c.Fits client)
    {q : WriteRequest} (hq : c.options.scope q.request = scope) :
    outside scope ((c.serve stamps client q).db.rows c.entity.name) =
        outside scope (client.db.rows c.entity.name) ↔
      c.Confines stamps scope client q := by
  unfold Confines
  cases h : c.succeeds stamps client q with
  | false =>
    rw [db_serve_of_not_succeeds h]
    simp
  | true =>
    rw [forall_prop_of_true rfl]
    have hrows := rows_serve hc hapart hclient h
    cases q with
    | create r =>
      obtain ⟨out, client', created, hafter⟩ := hrows
      rw [hafter, outside_add_iff]
      exact inScope_creation_iff hscope hcolumns hq created
    | update r =>
      obtain ⟨before, current, rest, stored, hbefore, hreplace, -, hafter⟩ := hrows
      rw [hafter, hbefore, outside_replace_iff]
      constructor
      · intro hin current' stored' hreplace'
        rw [hreplace, Option.some.injEq, Prod.mk.injEq] at hreplace'
        rw [← hreplace'.1, ← hreplace'.2]
        exact hin
      · intro hin
        exact hin current stored hreplace
    | delete r =>
      obtain ⟨before, row, rest, hbefore, hremoved, hafter⟩ := hrows
      rw [hafter, hbefore, outside_remove_iff]
      constructor
      · intro hin row' hremoved'
        rw [hremoved, Option.some.injEq] at hremoved'
        rw [← hremoved']
        exact hin
      · intro hin
        exact hin row hremoved

/-! ## Runs -/

theorem serveAll_take_succ (q : WriteRequest) (rs : List WriteRequest) (n : Nat) :
    c.serveAll stamps client ((q :: rs).take (n + 1)) =
      c.serveAll stamps (c.serve stamps client q) (rs.take n) := rfl

/-- The run lemma: request after request, the rows outside the scope stay as they are if and only
    if each request is confined when its turn comes. -/
theorem outside_take_iff (hc : c.IsPlain) (hapart : c.KeepsApart) (hscope : scope.Sorted)
    (hcolumns : ∀ f v, (f, v) ∈ scope → c.entity.hasColumn f = true) (hclient : c.Fits client)
    {rs : List WriteRequest} (hrs : ∀ q ∈ rs, c.options.scope q.request = scope) :
    (∀ n, outside scope ((c.serveAll stamps client (rs.take n)).db.rows c.entity.name) =
        outside scope (client.db.rows c.entity.name)) ↔
      c.ConfinesAll stamps scope client rs := by
  induction rs generalizing client with
  | nil => simp [ConfinesAll, serveAll]
  | cons q rs ih =>
    have hfirst := outside_serve_iff hc hapart stamps hscope hcolumns hclient
      (hrs q List.mem_cons_self)
    have hrest := ih (fits_serve hc hapart stamps hclient q)
      fun q' hq' => hrs q' (List.mem_cons_of_mem _ hq')
    rw [ConfinesAll, ← hfirst, ← hrest]
    constructor
    · intro h
      have hone : outside scope ((c.serve stamps client q).db.rows c.entity.name) =
          outside scope (client.db.rows c.entity.name) := h 1
      refine ⟨hone, fun n => ?_⟩
      rw [hone]
      exact h (n + 1)
    · rintro ⟨hone, hall⟩ n
      cases n with
      | zero => rfl
      | succ n => rw [serveAll_take_succ, hall n, hone]

/-! ## Tame requests -/

/-- A request that names neither a column of the key nor a scoped one, if it is an update. -/
def IsTame (c : Controller) (scope : Record) : WriteRequest → Prop
  | .update r => ∀ body, c.bodyObject r = .ok body →
      ∀ k, k ∈ c.entity.primaryKey ∨ scope.has k = true → body.field? k = none
  | _ => True

/-- The row that a request selects is in its scope. -/
theorem inScope_of_selected {r : Request} {s : Selection} {row : Record}
    (hscope : scope.Sorted) (hr : c.options.scope r = scope) (hs : c.keySelection r = .ok s)
    (hrow : (client.db.rows c.entity.name).find? s.selects = some row) :
    inScope scope row = true := by
  obtain ⟨fields, -, hs⟩ := bind_eq_ok_iff.1 hs
  rw [Except.ok.injEq, hr] at hs
  have hselects := List.find?_some hrow
  rw [← hs, Selection.selects, Bool.and_eq_true, List.all_eq_true] at hselects
  rw [inScope_iff]
  intro f v hm
  exact hselects.1 (f, v) (Fields.mem_overlay_of_mem fields hscope hm)

/-- A tame update writes over the row that it selects, and leaves the scoped columns as they are. -/
theorem replacement?_of_isTame (hc : c.IsPlain) (hclient : c.Fits client)
    (hkeyed : c.entity.IsKeyed (client.db.rows c.entity.name)) {r : Request}
    (htame : c.IsTame scope (.update r)) {current stored : Record}
    (h : c.replacement? stamps client r = some (current, stored)) :
    (∃ s, c.keySelection r = .ok s ∧
      (client.db.rows c.entity.name).find? s.selects = some current) ∧
    ∀ k, scope.has k = true → c.entity.hasColumn k = true → k ≠ updatedAt →
      stored.get k = current.get k := by
  obtain ⟨body, s, row, key, hbody, hs, hrow, hkey, hfound, hstored⟩ := replacement?_eq_some h
  have hmem := List.mem_of_find?_eq_some hrow
  have hbare := htame body hbody
  have hsame : c.entity.key? row = some key := by
    rw [← hkey, key?_columnFields_overlay hc fun k hk => hbare k (.inl hk)]
  rw [hkeyed.findRow?_eq hmem hsame, Option.some.injEq] at hfound
  subst hfound
  refine ⟨⟨s, hs, hrow⟩, fun k hk hcolumn hne => ?_⟩
  have hwritten : (c.entity.columnFields (row.overlay body)).Sorted :=
    Fields.sorted_restrict (Fields.sorted_overlay (hclient.sorted row hmem) _) _
  have hkept : (c.entity.columnFields (row.overlay body)).field? k = row.field? k := by
    rw [Entity.columnFields, Fields.field?_restrict, if_pos hcolumn,
      Fields.field?_overlay_of_none _ (hbare k (.inr hk))]
  rw [Record.get, hstored, Transaction.field?_touch hwritten hne, hkept, Option.or_self, Record.get]

theorem confines_of_isTame (hc : c.IsPlain) (stamps : Stamps) (hscope : scope.Sorted)
    (hcolumns : ∀ f v, (f, v) ∈ scope → c.entity.hasColumn f = true)
    (hadmits : c.admits scope = true) (htime : scope.has updatedAt = false)
    (hclient : c.Fits client)
    (hkeyed : c.entity.IsKeyed (client.db.rows c.entity.name)) {q : WriteRequest}
    (hq : c.options.scope q.request = scope) (htame : c.IsTame scope q) :
    c.Confines stamps scope client q := by
  intro _
  cases q with
  | create r => exact hadmits
  | delete r =>
    intro q hremoved
    obtain ⟨s, row, key, hs, hrow, hkey, hfound⟩ := removed?_eq_some hremoved
    rw [hkeyed.findRow?_eq (List.mem_of_find?_eq_some hrow) hkey, Option.some.injEq] at hfound
    rw [← hfound]
    exact inScope_of_selected hscope hq hs hrow
  | update r =>
    intro current stored hreplace
    obtain ⟨⟨s, hs, hrow⟩, hkept⟩ := replacement?_of_isTame hc hclient hkeyed htame hreplace
    have hin := inScope_of_selected hscope hq hs hrow
    refine .inr ⟨hin, ?_⟩
    rw [inScope_iff] at hin ⊢
    intro f v hm
    have hhas : scope.has f = true := by
      rw [Fields.has, hscope.field?_of_mem hm]
      rfl
    have hne : f ≠ updatedAt := by
      rintro rfl
      rw [htime] at hhas
      cases hhas
    rw [hkept f hhas (hcolumns f v hm) hne]
    exact hin f v hm

theorem isKeyed_serve (hc : c.IsPlain) (hapart : c.KeepsApart) (stamps : Stamps)
    (hclient : c.Fits client)
    (htime : updatedAt ∉ c.entity.primaryKey)
    (hkeyed : c.entity.IsKeyed (client.db.rows c.entity.name)) (q : WriteRequest) :
    c.entity.IsKeyed ((c.serve stamps client q).db.rows c.entity.name) := by
  cases h : c.succeeds stamps client q with
  | false =>
    rw [db_serve_of_not_succeeds h]
    exact hkeyed
  | true =>
    have hserved := served_serve hc.hooks h
    generalize c.serve stamps client q = client' at hserved
    cases hserved with
    | created created => exact isKeyed_creation hc hapart hclient.model hkeyed created
    | updated updated =>
      exact isKeyed_update hc hclient.model htime hclient.sorted hkeyed updated
        (hapart.of_mem_plans updated.assigned)
    | deleted deleted => exact isKeyed_deletion hc hclient.model hkeyed deleted

/-- Isolation: tame requests never change the rows outside their scope. -/
theorem outside_serveAll_of_tame (hc : c.IsPlain) (hapart : c.KeepsApart) (stamps : Stamps)
    (hscope : scope.Sorted)
    (hcolumns : ∀ f v, (f, v) ∈ scope → c.entity.hasColumn f = true)
    (hadmits : c.admits scope = true) (htime : updatedAt ∉ c.entity.primaryKey)
    (htime' : scope.has updatedAt = false) (hclient : c.Fits client)
    (hkeyed : c.entity.IsKeyed (client.db.rows c.entity.name)) {rs : List WriteRequest}
    (hrs : ∀ q ∈ rs, c.options.scope q.request = scope ∧ c.IsTame scope q) :
    outside scope ((c.serveAll stamps client rs).db.rows c.entity.name) =
      outside scope (client.db.rows c.entity.name) := by
  induction rs generalizing client with
  | nil => rfl
  | cons q rs ih =>
    obtain ⟨hq, htame⟩ := hrs q List.mem_cons_self
    have hconfined := confines_of_isTame hc stamps hscope hcolumns hadmits htime' hclient hkeyed
      hq htame
    have hfirst := (outside_serve_iff hc hapart stamps hscope hcolumns hclient hq).2 hconfined
    have hrest := ih (fits_serve hc hapart stamps hclient q)
      (isKeyed_serve hc hapart stamps hclient htime hkeyed q)
      fun q' hq' => hrs q' (List.mem_cons_of_mem _ hq')
    rw [← hfirst, ← hrest]
    rfl

end Controller

/-- The rows outside a scope stay as they are, request after request, if and only if every request
    is confined when its turn comes. The requests all carry the scope, which is over columns of the
    entity; the resource has no hooks, and its entity is not the target of one of its own to-many
    relations. -/
theorem outside_serveAll_iff {config : ModelConfig} {m : Model} {resource entity : String}
    {o : Options} {c : Controller} (hm : config.resolve = .ok m)
    (hc : Controller.build m resource entity o = .ok c) (hooks : o.hooks = .none)
    (apart : ∀ r ∈ c.entity.relations, r.kind = .toMany → r.target ≠ c.entity.name)
    (stamps : Stamps) {client : Client} (hmodel : client.db.model = m)
    (hrows : ∀ row ∈ client.db.rows c.entity.name, row.Sorted) {scope : Record}
    (hscope : scope.Sorted) (hcolumns : ∀ f v, (f, v) ∈ scope → c.entity.hasColumn f = true)
    {rs : List WriteRequest} (hrs : ∀ q ∈ rs, o.scope q.request = scope) :
    (∀ n, outside scope ((c.serveAll stamps client (rs.take n)).db.rows c.entity.name) =
        outside scope (client.db.rows c.entity.name)) ↔
      c.ConfinesAll stamps scope client rs := by
  have hplain := Controller.isPlain_of_build hm hc hooks
  obtain ⟨rfl, -, rfl⟩ := Controller.build_eq_ok hc
  exact Controller.outside_take_iff hplain apart hscope hcolumns ⟨hmodel, hrows⟩ hrs

/-! ## Orders of two tenants -/

namespace Orders

/-- Orders belong to tenants. -/
def entity : Entity :=
  ⟨"order", "public", "order", ["id"],
    [⟨"id", some .text, false, false, "text"⟩, ⟨"note", none, true, false, "text"⟩,
      ⟨"tenant", none, false, false, "text"⟩], [], []⟩

/-- The model file of orders. -/
def config : ModelConfig :=
  ⟨[⟨"order", none, "order", .single "id",
    [⟨"id", "text", false, false⟩, ⟨"note", "text", true, false⟩, ⟨"tenant", "text", false, false⟩],
    [], []⟩], []⟩

/-- The scope of one of the tenants. -/
def scope : Record := [("tenant", .str "acme")]

/-- The options of a resource of one tenant's orders. -/
def options : Options := { Options.default with scope := fun _ => scope }

/-- The resource of one tenant's orders. -/
def controller : Controller :=
  ⟨⟨[entity], []⟩, entity, "order", ⟨"/:id", "/:id", [⟨"id", "id", defaultParamPattern, none⟩]⟩,
    [⟨"id", .desc⟩], options⟩

/-- An order. -/
def order (id note tenant : String) : Record :=
  [("id", .str id), ("note", .str note), ("tenant", .str tenant)]

/-- A client of orders. -/
def client (rows : List Record) : Client := .start ⟨⟨[entity], []⟩, Tables.empty.set "order" rows⟩

/-- The stamps are all the same. -/
def stamps : Stamps := fun _ => ⟨"now", "fresh"⟩

/-- A request on the order of a key, with a body. -/
def request (id : String) (body : Record) : Request := ⟨[("id", id)], [], [], some (.obj body)⟩

/-- An order of each tenant. -/
def start : Client := client [order "1" "mine" "acme", order "2" "theirs" "globex"]

/-- An order is created, changed and removed. -/
def requests : List WriteRequest :=
  [.create (request "" [("id", .str "3")]), .update (request "1" [("note", .str "changed")]),
    .delete (request "3" [])]

theorem resolve_config : config.resolve = .ok ⟨[entity], []⟩ := by rfl

theorem build_controller : Controller.build ⟨[entity], []⟩ "order" "order" options =
    .ok controller := by rfl

theorem sorted_order (id note tenant : String) : (order id note tenant).Sorted := by
  rw [Fields.sorted_iff_keys]
  show ["id", "note", "tenant"].Pairwise (· < ·)
  decide

theorem sorted_start : ∀ row ∈ start.db.rows controller.entity.name, row.Sorted := by
  intro row hrow
  rcases List.mem_cons.1 hrow with rfl | hrow
  · exact sorted_order _ _ _
  · rw [List.mem_singleton.1 hrow]
    exact sorted_order _ _ _

theorem sorted_scope : scope.Sorted := List.pairwise_singleton _ _

theorem hasColumn_of_mem_scope (f : String) (v : Json) (h : (f, v) ∈ scope) :
    controller.entity.hasColumn f = true := by
  cases List.mem_singleton.1 h
  decide

theorem outside_requests : ∀ n,
    outside scope ((controller.serveAll stamps start (requests.take n)).db.rows "order") =
      outside scope (start.db.rows "order")
  | 0 => rfl
  | 1 => by decide +kernel
  | 2 => by decide +kernel
  | n + 3 => by
    rw [List.take_of_length_le (Nat.le_add_left 3 n)]
    decide +kernel

end Orders

/-- The order of the other tenant stays as it is in a run that creates, changes and removes orders,
    so that each of its requests is confined. -/
theorem confinesAll_orders :
    (Orders.controller.serveAll Orders.stamps Orders.start Orders.requests).db.rows "order" =
        [Orders.order "1" "changed" "acme", Orders.order "2" "theirs" "globex"] ∧
      Orders.controller.ConfinesAll Orders.stamps Orders.scope Orders.start Orders.requests := by
  refine ⟨by decide +kernel, ?_⟩
  have hrelations : ∀ r ∈ Orders.controller.entity.relations, r.kind = .toMany →
      r.target ≠ Orders.controller.entity.name := by
    intro r hr
    cases hr
  have hscoped : ∀ q ∈ Orders.requests, Orders.options.scope q.request = Orders.scope :=
    fun _ _ => rfl
  exact (outside_serveAll_iff Orders.resolve_config Orders.build_controller rfl hrelations
    Orders.stamps rfl Orders.sorted_start Orders.sorted_scope Orders.hasColumn_of_mem_scope
    hscoped).1 Orders.outside_requests

/-- Not every request is confined: the scope is not laid over what an update writes, so that a body
    can take an order out of its scope. -/
theorem not_outside_serveAll_eq :
    ¬∀ (config : ModelConfig) (m : Model) (resource entity : String) (o : Options)
      (c : Controller) (stamps : Stamps) (client : Client) (scope : Record)
      (rs : List WriteRequest),
      config.resolve = .ok m → Controller.build m resource entity o = .ok c → o.hooks = .none →
      (∀ r ∈ c.entity.relations, r.kind = .toMany → r.target ≠ c.entity.name) →
      client.db.model = m → (∀ row ∈ client.db.rows c.entity.name, row.Sorted) → scope.Sorted →
      (∀ f v, (f, v) ∈ scope → c.entity.hasColumn f = true) →
      (∀ q ∈ rs, o.scope q.request = scope) →
      outside scope ((c.serveAll stamps client rs).db.rows c.entity.name) =
        outside scope (client.db.rows c.entity.name) := by
  intro h
  have hrelations : ∀ r ∈ Orders.controller.entity.relations, r.kind = .toMany →
      r.target ≠ Orders.controller.entity.name := by
    intro r hr
    cases hr
  have hsame := h Orders.config _ "order" "order" Orders.options Orders.controller Orders.stamps
    Orders.start Orders.scope [.update (Orders.request "1" [("tenant", .str "globex")])]
    Orders.resolve_config Orders.build_controller rfl hrelations rfl Orders.sorted_start
    Orders.sorted_scope Orders.hasColumn_of_mem_scope (fun _ _ => rfl)
  revert hsame
  decide +kernel

end Depot
