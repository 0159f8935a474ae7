import Depot.Proofs.Controller.HookFree

/-!
# Reading without hooks

A resource without hooks answers a request that reads by one search in the committed rows. So what
it answers, a failure included, is a function of the request and of these rows.

* `Controller.shown`: the instance that a request names, `Controller.listed`: a page of instances.

Results:
* `search_eq_ok`: what a request for many instances asks for.
* `of_shown`, `shown_of_find?`: what is shown is the first row that a request selects.
* `result_getOne`, `result_index`: what the requests that read return.
-/

namespace Depot.Controller

/-- The instance that a request names, as a transaction finds it. -/
def shown (c : Controller) (tx : Transaction) (r : Request) : Except RequestError Record := do
  let names ← c.populateNames r c.options.populate.one
  let s ← c.keySelection r
  match ← (tx.findOne c.entity s names).mapError (c.lookupFailure s) with
  | none => .error (.notFound c.resource ("query=" ++ s.text))
  | some record => .ok record

/-- The page of instances that a request selects, as a transaction finds it. -/
def listed (c : Controller) (tx : Transaction) (r : Request) : Except RequestError Page := do
  let s ← c.search r
  (tx.findPage c.entity s.selection s.options).mapError c.searchFailure

variable {c : Controller} {stamps : Stamps} {client : Client} {r : Request}

/-! ## What is asked for -/

theorem search_eq_ok {s : Search} (h : c.search r = .ok s) :
    ∃ offset limit names, r.natural c.resource "offset" = .ok offset ∧
      r.natural c.resource "pagesize" = .ok limit ∧
      c.withSearch r (.ofFields (c.options.scope r)) c.options.searchable = .ok s.selection ∧
      c.requestedSort r = .ok s.options.sort ∧
      c.populateNames r c.options.populate.many = .ok names ∧
      s.options = ⟨limit.getD defaultPageSize, offset.getD 0, s.options.sort, names,
        c.options.distinct⟩ := by
  obtain ⟨offset, hoffset, h⟩ := bind_eq_ok_iff.1 h
  obtain ⟨limit, hlimit, h⟩ := bind_eq_ok_iff.1 h
  obtain ⟨selection, hselection, h⟩ := bind_eq_ok_iff.1 h
  obtain ⟨sort, hsort, h⟩ := bind_eq_ok_iff.1 h
  obtain ⟨names, hnames, h⟩ := bind_eq_ok_iff.1 h
  cases h
  exact ⟨offset, limit, names, hoffset, hlimit, hselection, hsort, hnames, rfl⟩

theorem populateNames_of_none (h : r.populate? = none) (usual : List String) :
    c.populateNames r usual = .ok usual := by
  rw [populateNames, h]

/-- What is shown is the first row that the request selects, with the populated relations. -/
theorem of_shown {tx : Transaction} {record : Record} (h : c.shown tx r = .ok record) :
    ∃ names s row, c.populateNames r c.options.populate.one = .ok names ∧
      c.keySelection r = .ok s ∧
      (tx.working.rows c.entity.name).find? s.selects = some row ∧
      tx.populate c.entity [row] names = .ok [record] := by
  obtain ⟨names, hnames, h⟩ := bind_eq_ok_iff.1 h
  obtain ⟨s, hs, h⟩ := bind_eq_ok_iff.1 h
  obtain ⟨found, hfound, h⟩ := bind_eq_ok_iff.1 h
  cases found with
  | none => cases h
  | some shown =>
    cases h
    obtain ⟨row, hrow, hpopulate⟩ :=
      Transaction.findOne_eq_ok (conditions_keySelection hs) (mapError_eq_ok_iff.1 hfound)
    exact ⟨names, s, row, hnames, hs, hrow, hpopulate⟩

/-- A request that selects a row shows it, with the relations that it populates. -/
theorem shown_of_find? {tx : Transaction} {names : List String} {s : Selection} {row : Record}
    (hnames : c.populateNames r c.options.populate.one = .ok names)
    (hknown : ∀ name ∈ names, (c.entity.relation? name).isSome = true)
    (hs : c.keySelection r = .ok s)
    (hfound : (tx.working.rows c.entity.name).find? s.selects = some row) :
    c.shown tx r = .ok (tx.populated c.entity names row) := by
  rw [shown, hnames]
  show (c.keySelection r >>= fun s => _) = _
  rw [hs]
  show ((tx.findOne c.entity s names).mapError _ >>= _) = _
  rw [Transaction.findOne_of_find? (conditions_keySelection hs) hfound hknown]
  rfl

/-! ## What is returned -/

/-- Work in a new transaction starts from the committed rows. -/
theorem result_begin {α : Type} (work : Program .transaction α) :
    ((c.begin work).run (Client.answer stamps) client).result =
      (work.run (Transaction.respond stamps client.db.model)
        (client.db.begin, client.taken)).result :=
  (run_within stamps client.db work (client.db.begin, client.taken)).1

theorem afterLoad_quiet {I : Interface} (hload : c.options.hooks.afterLoad = [])
    (records : List Record) :
    ((c.afterLoad r records).quiet : Program I (List Record)) = pure records := by
  rw [afterLoad, hload]
  rfl

theorem result_getOne (hooks : c.options.hooks = .none) :
    ((c.getOne r).run (Client.answer stamps) client).result = c.shown client.db.begin r := by
  rw [getOne, Program.result_bind, shown]
  show (c.populateNames r c.options.populate.one >>= fun names => _) = _
  congr 1
  funext names
  show ((c.begin (c.loadOne r names)).run (Client.answer stamps) client).result = _
  rw [result_begin, loadOne, Program.result_bind]
  show (c.keySelection r >>= fun s => _) = _
  congr 1
  funext s
  rw [Program.result_bind, (Program.run_askWith _ _).1]
  show (((client.db.begin.findOne c.entity s names).mapError (c.lookupFailure s)) >>= _) = _
  congr 1
  funext found
  cases found with
  | none => rfl
  | some record =>
    simp only [afterLoad_quiet (congrArg Hooks.afterLoad hooks)]
    rfl

theorem result_index (hooks : c.options.hooks = .none) :
    ((c.index r).run (Client.answer stamps) client).result = c.listed client.db.begin r := by
  rw [index, Program.result_bind, listed]
  show (c.search r >>= fun s => _) = _
  congr 1
  funext s
  rw [Program.result_bind]
  simp only [afterLoad_quiet (congrArg Hooks.afterLoad hooks)]
  refine (bind_pure _).trans ?_
  rw [result_begin, (Program.run_askWith _ _).1]
  rfl

end Depot.Controller
