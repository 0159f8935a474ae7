import Depot.Proofs.Controller.Written
import Depot.Proofs.Validation

/-!
# Rules of stored rows

A new instance is checked against the rules of its entity as the body and the scope give it, and
of an update the fields of the body are checked. Nobody checks the rows of nested collections, nor
the values that the store supplies after the check: a key that is made up, the time in columns that
take it, and the time of the last change. All else that is stored passes its rules if it did before.

* `Model.Passes`: rows that pass the rules of their entity.
* `Entity.supplies`: the columns that the store supplies values of.
* `Controller.Upholds`: requests that leave no unchecked value that breaks a rule.
* `serveEach`: a client after requests on several resources.

Results:
* `checkColumn_creation`, `checkColumn_update`: what the check of an instance is good for.
* `passes_serve_iff`: a request keeps all rows valid exactly if it upholds the rules.
* `passes_serveEach_iff`: so do requests one after the other.
-/

namespace Depot

open Validation

/-! ## Columns that the store supplies -/

/-- Whether the store may supply the value of a column: a key that it makes up, or a time. -/
def Entity.supplies (e : Entity) (column : String) : Bool :=
  (e.generatedKey?.any fun c => c.name == column) ||
    e.columns.any (fun c => Transaction.takesTime c && c.name == column) ||
    (column == updatedAt && e.hasColumn updatedAt)

namespace Transaction

variable {tx : Transaction} {e : Entity} {stamp : Stamp} {row out current : Record} {k : String}

/-- New rows keep the fields that the store does not supply. -/
theorem field?_fillDefaults (h : tx.fillDefaults e stamp row = .ok out)
    (hk : e.supplies k = false) : out.field? k = row.field? k := by
  rw [Entity.supplies, Bool.or_eq_false_iff, Bool.or_eq_false_iff] at hk
  obtain ⟨⟨hkey, htime⟩, -⟩ := hk
  obtain ⟨keyed, hkeyed, rfl, -⟩ := fillDefaults_eq_ok h
  rw [field?_fillTimes_eq, Entity.filling?, htime, if_neg Bool.false_ne_true, Option.or_none]
  rcases fillKey_eq_ok hkeyed with ⟨rfl, -⟩ | ⟨c, v, hc, -, -, rfl⟩
  · rfl
  · rw [hc, Option.any_some, beq_eq_false_iff_ne] at hkey
    rw [Fields.field?_put, if_neg hkey]

/-- Changed rows take the fields that are written, but for the time of the last change. -/
theorem field?_touch_of_not_supplies (stamp : Stamp) (current : Record) (hrow : row.Sorted)
    (hk : e.supplies k = false) :
    (touch e stamp current row).field? k = (row.field? k).or (current.field? k) := by
  rw [Entity.supplies, Bool.or_eq_false_iff] at hk
  by_cases hname : k = updatedAt
  · have hcolumn : e.hasColumn updatedAt = false := by
      simpa [hname] using hk.2
    rw [touch, hcolumn, if_neg Bool.false_ne_true, Fields.field?_overlay_of_sorted _ hrow]
  · exact field?_touch hrow hname

end Transaction

/-! ## Instances -/

/-- The rows of a model's entities that pass the rules of their entity. -/
def Model.Passes (m : Model) (entity : String) (row : Record) : Prop :=
  ∀ e ∈ m.entity? entity, validate row e.rules = .ok ()

instance (m : Model) (entity : String) (row : Record) : Decidable (m.Passes entity row) :=
  inferInstanceAs (Decidable (∀ e ∈ m.entity? entity, validate row e.rules = .ok ()))

/-- Of a row, what the store supplied passes its rules. -/
def Entity.SuppliesRightly (e : Entity) (row : Record) : Prop :=
  ∀ x ∈ e.rules, e.supplies x.1 = true → checkColumn row x.1 x.2 = .ok ()

instance (e : Entity) (row : Record) : Decidable (e.SuppliesRightly row) :=
  inferInstanceAs (Decidable (∀ x ∈ e.rules, _))

namespace Controller

variable {c : Controller} {stamps : Stamps} {client client' : Client} {r : Request} {out : Record}

/-- A new instance passes the rules of the columns that the store does not supply. -/
theorem checkColumn_creation (made : c.Creation stamps client r out client') {column : String}
    {rule : Rule} (hrule : (column, rule) ∈ c.entity.rules)
    (hsupplies : c.entity.supplies column = false) :
    checkColumn made.stored column rule = .ok () := by
  obtain ⟨hfill, -⟩ := Transaction.insert_eq_ok made.persisted
  rw [checkColumn_congr (Transaction.field?_fillDefaults hfill hsupplies)]
  exact validate_eq_ok_iff.1 made.valid (column, rule) hrule

/-- An updated instance passes the rules of the columns that the store does not supply: the value
    is one of the body, which was checked, or else one of a row that was there. -/
theorem checkColumn_update (hc : c.IsPlain) (hrules : c.entity.rules.Sorted)
    (hrows : ∀ row ∈ client.db.rows c.entity.name, row.Sorted ∧
      validate row c.entity.rules = .ok ())
    (made : c.Update stamps client r out client') {column : String} {rule : Rule}
    (hrule : (column, rule) ∈ c.entity.rules) (hsupplies : c.entity.supplies column = false) :
    checkColumn made.stored column rule = .ok () := by
  obtain ⟨key, current, -, hcurrent, hstored, -⟩ := Transaction.update_eq_ok made.persisted
  obtain ⟨hsorted, hrow⟩ := hrows made.row (List.mem_of_find?_eq_some made.found)
  have hold := (hrows current (findRow?_eq_some hcurrent).1).2
  have hwritten : (c.entity.columnFields (made.row.overlay made.body)).Sorted :=
    Fields.sorted_restrict (Fields.sorted_overlay hsorted _) _
  rw [columnFields_update hc made hsorted] at hstored
  have hfield := Transaction.field?_touch_of_not_supplies (stamps client.taken) current hwritten
    hsupplies
  rw [← hstored, Entity.columnFields, Fields.field?_restrict] at hfield
  have hcurrentPasses := validate_eq_ok_iff.1 hold (column, rule) hrule
  by_cases hcolumn : c.entity.hasColumn column = true
  · rw [if_pos hcolumn, Fields.field?_overlay] at hfield
    cases hbody : Fields.field? made.body.reverse column with
    | some v =>
      -- the body has the last word on the column, and was checked
      rw [hbody, Option.some_or, Option.some_or] at hfield
      have hmem : (column, v) ∈ c.entity.columnFields made.body :=
        List.mem_filter.2 ⟨List.mem_reverse.1 (Fields.mem_of_field? hbody), hcolumn⟩
      exact checkColumn_of_validatePartial made.valid hmem (hrules.field?_of_mem hrule) hfield
    | none =>
      rw [hbody, Option.none_or] at hfield
      cases hselected : made.row.field? column with
      | some v =>
        rw [hselected, Option.some_or, ← hselected] at hfield
        rw [checkColumn_congr hfield]
        exact validate_eq_ok_iff.1 hrow (column, rule) hrule
      | none =>
        rw [hselected, Option.none_or] at hfield
        rw [checkColumn_congr hfield]
        exact hcurrentPasses
  · rw [if_neg hcolumn, Option.none_or] at hfield
    rw [checkColumn_congr hfield]
    exact hcurrentPasses

/-! ## A single request -/

/-- A request that succeeds leaves no unchecked value that breaks a rule: of its own instance, what
    the store supplied passes, and the rows of nested collections pass as a whole. A row that the
    request itself has replaced or removed again does not count. -/
def Upholds (c : Controller) (stamps : Stamps) (client : Client) (q : WriteRequest) : Prop :=
  let writes := c.written stamps client q
  let after := (c.serve stamps client q).db
  c.succeeds stamps client q = true →
    (∀ own ∈ writes.head?, ∀ row ∈ own.row?, row ∈ after.rows c.entity.name →
      c.entity.SuppliesRightly row) ∧
    ∀ w ∈ writes.tail, ∀ row ∈ w.row?, row ∈ after.rows w.entity → c.model.Passes w.entity row

instance (c : Controller) (stamps : Stamps) (client : Client) (q : WriteRequest) :
    Decidable (c.Upholds stamps client q) :=
  inferInstanceAs (Decidable (_ → _))

/-- A client of the controller's model whose rows have their fields in order and pass the rules of
    their entities. -/
structure Valid (m : Model) (client : Client) : Prop where
  model : client.db.model = m
  ordered : client.db.tables.AllRows inOrder
  passes : client.db.tables.AllRows m.Passes

theorem passes_of_known {m : Model} {e : Entity} (he : m.entity? e.name = some e) {row : Record}
    (h : validate row e.rules = .ok ()) : m.Passes e.name row := by
  intro e' he'
  obtain rfl : e = e' := Option.some.inj (he.symm.trans he')
  exact h

/-- The instance that a creation or an update leaves passes its rules if what the store supplied
    does. -/
theorem validate_of_suppliesRightly {row : Record} {e : Entity}
    (hchecked : ∀ x ∈ e.rules, e.supplies x.1 = false → checkColumn row x.1 x.2 = .ok ())
    (hsupplied : e.SuppliesRightly row) : validate row e.rules = .ok () := by
  rw [validate_eq_ok_iff]
  intro x hx
  cases hsupplies : e.supplies x.1 with
  | true => exact hsupplied x hx hsupplies
  | false => exact hchecked x hx hsupplies

/-- A request whose instance is checked but for what the store supplies keeps the rows valid if it
    upholds the rules. -/
theorem passes_of_upholds (hc : c.IsPlain) (hclient : Valid c.model client) {q : WriteRequest}
    (h : c.succeeds stamps client q = true) {own : Write} {nested : List Write}
    (hwritten : c.written stamps client q = own :: nested) (hown : own.entity = c.entity.name)
    (hchecked : ∀ row ∈ own.row?, ∀ x ∈ c.entity.rules, c.entity.supplies x.1 = false →
      checkColumn row x.1 x.2 = .ok ()) (hupholds : c.Upholds stamps client q) :
    (c.serve stamps client q).db.tables.AllRows c.model.Passes := by
  have happly := applyAll_written hc.hooks h
  obtain ⟨hsupplied, hnested⟩ := hupholds h
  rw [hwritten] at happly hsupplied hnested
  intro name row hrow
  rcases mem_rows_applyAll happly hrow with hold | ⟨w, hw, rfl, hleft⟩
  · exact hclient.passes name row hold
  · rcases List.mem_cons.1 hw with rfl | hw
    · rw [hown] at hrow ⊢
      exact passes_of_known hc.known
        (validate_of_suppliesRightly (hchecked row hleft) (hsupplied w rfl row hleft hrow))
    · exact hnested w hw row hleft hrow

/-- The step lemma: a request keeps all rows valid exactly if it upholds the rules. -/
theorem passes_serve_iff (hc : c.IsPlain) (hrules : c.entity.rules.Sorted)
    (hclient : Valid c.model client) (q : WriteRequest) :
    (c.serve stamps client q).db.tables.AllRows c.model.Passes ↔ c.Upholds stamps client q := by
  have hrows : ∀ row ∈ client.db.rows c.entity.name, row.Sorted ∧
      validate row c.entity.rules = .ok () := fun row hrow =>
    ⟨hclient.ordered _ row hrow, hclient.passes _ row hrow c.entity hc.known⟩
  constructor
  · intro hpasses _
    refine ⟨?_, ?_⟩
    · intro own _ row _ hrow x hx _
      exact validate_eq_ok_iff.1 (hpasses _ row hrow c.entity hc.known) x hx
    · intro w _ row _ hrow
      exact hpasses w.entity row hrow
  · intro hupholds
    cases h : c.succeeds stamps client q with
    | false =>
      rw [db_serve_of_not_succeeds h]
      exact hclient.passes
    | true =>
      cases q with
      | create r =>
        obtain ⟨out, made, -, hwritten⟩ := creation_of_succeeds hc.hooks h
        obtain ⟨key, nested, -, hlog, -⟩ := log_creation made
        refine passes_of_upholds hc hclient h (hwritten.trans hlog) rfl ?_ hupholds
        rintro row ⟨⟩ x hx hsupplies
        exact checkColumn_creation made hx hsupplies
      | update r =>
        obtain ⟨out, made, -, hwritten⟩ := update_of_succeeds hc.hooks h
        obtain ⟨key, nested, -, hlog, -⟩ := log_update made
        refine passes_of_upholds hc hclient h (hwritten.trans hlog) rfl ?_ hupholds
        rintro row ⟨⟩ x hx hsupplies
        exact checkColumn_update hc hrules hrows made hx hsupplies
      | delete r =>
        obtain ⟨made, hwritten⟩ := deletion_of_succeeds hc.hooks h
        refine passes_of_upholds hc hclient h hwritten rfl ?_ hupholds
        rintro row ⟨⟩

theorem Valid.serve (hc : c.IsPlain) (hclient : Valid c.model client) (q : WriteRequest)
    (hpasses : (c.serve stamps client q).db.tables.AllRows c.model.Passes) :
    Valid c.model (c.serve stamps client q) where
  model := (model_serve hc stamps client q).trans hclient.model
  ordered := inOrder_serve hc.hooks hclient.ordered q
  passes := hpasses

end Controller

/-! ## Requests on several resources -/

/-- A client after requests, each on a resource of its own. -/
def serveEach (stamps : Stamps) (client : Client) (qs : List (Controller × WriteRequest)) :
    Client :=
  qs.foldl (fun client x => x.1.serve stamps client x.2) client

/-- Each request upholds the rules when its turn comes. -/
def UpholdsEach (stamps : Stamps) : Client → List (Controller × WriteRequest) → Prop
  | _, [] => True
  | client, (c, q) :: qs =>
    c.Upholds stamps client q ∧ UpholdsEach stamps (c.serve stamps client q) qs

instance decidableUpholdsEach (stamps : Stamps) :
    (client : Client) → (qs : List (Controller × WriteRequest)) →
      Decidable (UpholdsEach stamps client qs)
  | _, [] => .isTrue trivial
  | client, (c, q) :: qs =>
    @instDecidableAnd _ _ _ (decidableUpholdsEach stamps (c.serve stamps client q) qs)

/-- The run lemma: request after request, all rows are valid exactly if each request upholds the
    rules when its turn comes. -/
theorem passes_take_iff {m : Model} (hrules : ∀ e ∈ m.entities, e.rules.Sorted) {stamps : Stamps}
    {client : Client} (hclient : Controller.Valid m client) {qs : List (Controller × WriteRequest)}
    (hqs : ∀ x ∈ qs, x.1.IsPlain ∧ x.1.model = m) :
    (∀ n, (serveEach stamps client (qs.take n)).db.tables.AllRows m.Passes) ↔
      UpholdsEach stamps client qs := by
  induction qs generalizing client with
  | nil =>
    refine iff_of_true (fun n => ?_) trivial
    rw [List.take_nil]
    exact hclient.passes
  | cons x qs ih =>
    obtain ⟨c, q⟩ := x
    obtain ⟨hc, rfl⟩ := hqs (c, q) List.mem_cons_self
    have hfirst : _ ↔ c.Upholds stamps client q :=
      Controller.passes_serve_iff hc (hrules _ hc.mem) hclient q
    have hrest (hpasses : (c.serve stamps client q).db.tables.AllRows c.model.Passes) :=
      ih (hclient.serve hc q hpasses) fun y hy => hqs y (List.mem_cons_of_mem _ hy)
    rw [UpholdsEach, ← hfirst]
    constructor
    · intro hall
      have hpasses : (c.serve stamps client q).db.tables.AllRows c.model.Passes := hall 1
      exact ⟨hpasses, (hrest hpasses).1 fun n => hall (n + 1)⟩
    · rintro ⟨hpasses, hupholds⟩ n
      cases n with
      | zero => exact hclient.passes
      | succ n => exact (hrest hpasses).2 hupholds n

/-- Declared rules hold of every stored row, request after request, if and only if each request
    upholds them. The requests create, update and delete instances on any resources without hooks of
    one model, whatever their bodies, and all rows pass the rules of their entities at the start. A
    request that succeeds checks all of its own instance but the values that the store supplies;
    these must pass, and so must the rows that it writes by nested arrays, as far as they are there
    when it ends. -/
theorem passes_serveEach_iff {config : ModelConfig} {m : Model} (hm : config.resolve = .ok m)
    (hrules : ∀ e ∈ m.entities, e.rules.Sorted) (stamps : Stamps) {client : Client}
    (hmodel : client.db.model = m) (hordered : client.db.tables.AllRows fun _ row => row.Sorted)
    (hpasses : client.db.tables.AllRows m.Passes) {qs : List (Controller × WriteRequest)}
    (hqs : ∀ x ∈ qs, ∃ resource entity o,
      Controller.build m resource entity o = .ok x.1 ∧ o.hooks = .none) :
    (∀ n, (serveEach stamps client (qs.take n)).db.tables.AllRows m.Passes) ↔
      UpholdsEach stamps client qs := by
  refine passes_take_iff hrules ⟨hmodel, hordered, hpasses⟩ ?_
  intro x hx
  obtain ⟨resource, entity, o, hc, hooks⟩ := hqs x hx
  exact ⟨Controller.isPlain_of_build hm hc hooks, (Controller.build_eq_ok hc).1⟩

/-! ## Baskets with lines -/

namespace Baskets

/-- A rule that asks for a text that is not empty. -/
def notEmpty : Rule := { Rule.none with minLength := some 1 }

/-- The lines of a basket. -/
def lines : Relation := ⟨"lines", .toMany, "line", "id", "basket"⟩

/-- Baskets have an owner. -/
def basket : Entity :=
  ⟨"basket", "public", "basket", ["id"],
    [⟨"id", some .text, false, false, "text"⟩, ⟨"owner", none, false, false, "text"⟩], [lines],
    [("owner", notEmpty)]⟩

/-- Lines refer to their basket, and say what is in it. -/
def line : Entity :=
  ⟨"line", "public", "line", ["id"],
    [⟨"id", some .text, false, false, "text"⟩, ⟨"basket", none, false, false, "text"⟩,
      ⟨"what", none, false, false, "text"⟩], [], [("what", notEmpty)]⟩

/-- The model file of baskets. -/
def config : ModelConfig :=
  ⟨[⟨"basket", none, "basket", .single "id",
      [⟨"id", "text", false, false⟩, ⟨"owner", "text", false, false⟩], [lines],
      [("owner", notEmpty)]⟩,
    ⟨"line", none, "line", .single "id",
      [⟨"id", "text", false, false⟩, ⟨"basket", "text", false, false⟩,
        ⟨"what", "text", false, false⟩], [], [("what", notEmpty)]⟩], []⟩

/-- The model of baskets. -/
def model : Model := ⟨[basket, line], []⟩

/-- The resource of baskets. -/
def controller : Controller :=
  ⟨model, basket, "basket", ⟨"/:id", "/:id", [⟨"id", "id", defaultParamPattern, none⟩]⟩,
    [⟨"id", .desc⟩], Options.default⟩

/-- A row of a basket. -/
def basketRow (id owner : String) : Record := [("id", .str id), ("owner", .str owner)]

/-- A row of a line. -/
def lineRow (basket id what : String) : Record :=
  [("basket", .str basket), ("id", .str id), ("what", .str what)]

/-- A client of a basket with a line. -/
def client : Client :=
  .start ⟨model, (Tables.empty.set "basket" [basketRow "a" "ann"]).set "line"
    [lineRow "a" "1" "tea"]⟩

/-- The stamps are all the same. -/
def stamps : Stamps := fun _ => ⟨"now", "fresh"⟩

/-- A line as a body gives it. -/
def element (id what : String) : Json := .obj [("id", .str id), ("what", .str what)]

/-- A request to replace the lines of the basket. -/
def replacement (what : String) : WriteRequest :=
  .update ⟨[("id", "a")], [], [],
    some (.obj [("lines", .arr [element "1" what, element "2" "milk"])])⟩

/-- A request for another basket with a line. -/
def creation : WriteRequest :=
  .create ⟨[], [], [], some (.obj [("id", .str "b"), ("lines", .arr [element "3" "salt"]),
    ("owner", .str "bob")])⟩

/-- A request without the owner that a basket needs. -/
def ownerless : WriteRequest :=
  .update ⟨[("id", "a")], [], [], some (.obj [("owner", .str "")])⟩

theorem resolve_config : config.resolve = .ok model := by rfl

theorem build_controller : Controller.build model "basket" "basket" Options.default =
    .ok controller := by rfl

theorem sorted_rules : ∀ e ∈ model.entities, e.rules.Sorted := by
  intro e he
  simp only [model, List.mem_cons, List.not_mem_nil, or_false] at he
  rcases he with rfl | rfl
  · exact List.pairwise_singleton _ _
  · exact List.pairwise_singleton _ _

theorem sorted_client : client.db.tables.AllRows fun _ row => row.Sorted := by
  refine (Tables.allRows_empty.set ?_).set ?_
  · intro row hrow
    rw [List.mem_singleton.1 hrow, Fields.sorted_iff_keys]
    show ["id", "owner"].Pairwise (· < ·)
    decide
  · intro row hrow
    rw [List.mem_singleton.1 hrow, Fields.sorted_iff_keys]
    show ["basket", "id", "what"].Pairwise (· < ·)
    decide

theorem passes_client : client.db.tables.AllRows model.Passes := by
  refine (Tables.allRows_empty.set ?_).set ?_
  · intro row hrow e he
    obtain rfl := List.mem_singleton.1 hrow
    obtain rfl : basket = e := Option.some.inj he
    decide +kernel
  · intro row hrow e he
    obtain rfl := List.mem_singleton.1 hrow
    obtain rfl : line = e := Option.some.inj he
    decide +kernel

theorem build_requests (q : WriteRequest) : ∃ resource entity o,
    Controller.build model resource entity o = .ok (controller, q).1 ∧ o.hooks = .none :=
  ⟨"basket", "basket", Options.default, build_controller, rfl⟩

end Baskets

/-- Baskets and lines are written, each with something in it, and a basket is not left without an
    owner. -/
theorem passes_baskets :
    let qs := [Baskets.replacement "jam", Baskets.ownerless, Baskets.creation].map fun q =>
      (Baskets.controller, q)
    let after := serveEach Baskets.stamps Baskets.client qs
    after.db.rows "basket" = [Baskets.basketRow "a" "ann", Baskets.basketRow "b" "bob"] ∧
      after.db.rows "line" = [Baskets.lineRow "a" "1" "jam", Baskets.lineRow "a" "2" "milk",
        Baskets.lineRow "b" "3" "salt"] ∧
      after.db.tables.AllRows Baskets.model.Passes := by
  intro qs after
  refine ⟨by decide +kernel, by decide +kernel, ?_⟩
  have hupholds : UpholdsEach Baskets.stamps Baskets.client qs := by decide +kernel
  have hqs : ∀ x ∈ qs, ∃ resource entity o,
      Controller.build Baskets.model resource entity o = .ok x.1 ∧ o.hooks = .none := by
    intro x hx
    obtain ⟨q, -, rfl⟩ := List.mem_map.1 hx
    exact Baskets.build_requests q
  exact (passes_serveEach_iff Baskets.resolve_config Baskets.sorted_rules Baskets.stamps rfl
    Baskets.sorted_client Baskets.passes_client hqs).2 hupholds 3

/-- Not every request upholds the rules: nobody checks the rows of a nested array. -/
theorem not_passes_serveEach :
    ¬∀ (config : ModelConfig) (m : Model) (stamps : Stamps) (client : Client)
      (qs : List (Controller × WriteRequest)),
      config.resolve = .ok m → (∀ e ∈ m.entities, e.rules.Sorted) → client.db.model = m →
      (client.db.tables.AllRows fun _ row => row.Sorted) → client.db.tables.AllRows m.Passes →
      (∀ x ∈ qs, ∃ resource entity o,
        Controller.build m resource entity o = .ok x.1 ∧ o.hooks = .none) →
      (serveEach stamps client qs).db.tables.AllRows m.Passes := by
  intro h
  have hpasses := h Baskets.config Baskets.model Baskets.stamps Baskets.client
    [(Baskets.controller, Baskets.replacement "")] Baskets.resolve_config Baskets.sorted_rules rfl
    Baskets.sorted_client Baskets.passes_client
    (fun x hx => List.mem_singleton.1 hx ▸ Baskets.build_requests (Baskets.replacement ""))
  have hrow : Baskets.lineRow "a" "1" "" ∈ (serveEach Baskets.stamps Baskets.client
      [(Baskets.controller, Baskets.replacement "")]).db.rows "line" := by decide +kernel
  exact absurd (hpasses "line" _ hrow) (by decide +kernel)

end Depot
