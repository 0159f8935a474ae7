import Depot.Proofs.Controller.Isolation
import Depot.Store.Faults

/-!
# Failures of the store

An operation without hooks ends with the first call that fails, and what the store says decides how
this appears. A conflict is an existing resource. A value that a column cannot hold is the caller's
mistake: it names no instance where the key is looked up, and it is a malformed query where a page
is searched for, and a malformed update elsewhere. Every other failure is the store's own.

* `Operation`, `Controller.operate`: the operations of a controller.
* `Program.failures`: the calls of a run that fail, with their failures.
* `Program.FailsAs`: programs that end with each call that fails, in a way that a relation allows.
* `Controller.Reports`: how the failure of a call in an operation appears.

Results:
* `Program.FailsAs.result`: how a run ends in which a call fails.
* `Controller.failsAs_operate`: every operation reports the failures of its calls.
* `store_failures_classified`: the code and the status of an operation in which a call fails.
-/

namespace Depot

/-- Whether a failure of the store is a mistake of the caller: what is to be written is there
    already, or a value cannot be held. -/
def StoreError.blamesCaller : StoreError → Bool
  | .conflict _ | .invalidValue _ => true
  | .missing _ | .unknownEntity _ | .database _ | .backend _ => false

/-! ## Programs -/

namespace Program

variable {I J : Interface} {α β σ : Type}

/-- The calls of a run that fail, with their failures. -/
def failures (answer : (c : I.Call) → σ → Except StoreError (I.Reply c) × σ) :
    Program I α → σ → List (I.Call × StoreError)
  | .done _, _ => []
  | .note _ next, s => next.failures answer s
  | .call c next, s =>
    let rest := (next (answer c s).1).failures answer (answer c s).2
    match (answer c s).1 with
    | .ok _ => rest
    | .error failure => (c, failure) :: rest

/-- A program ends with each call that fails, and with a failure that `as` allows for this call and
    what it failed with. -/
def FailsAs (as : I.Call → StoreError → RequestError → Prop) : Program I α → Prop
  | .done _ => True
  | .note _ next => next.FailsAs as
  | .call c next =>
    (∀ failure, ∃ e, next (.error failure) = .done (.error e) ∧ as c failure e) ∧
      ∀ reply, (next (.ok reply)).FailsAs as

variable {as : I.Call → StoreError → RequestError → Prop}

theorem failsAs_done (result : Except RequestError α) : (done result : Program I α).FailsAs as :=
  trivial

theorem failsAs_pure (a : α) : (pure a : Program I α).FailsAs as :=
  failsAs_done (.ok a)

theorem FailsAs.bind {p : Program I α} {f : α → Program I β} (hp : p.FailsAs as)
    (hf : ∀ a, (f a).FailsAs as) : (p >>= f).FailsAs as := by
  induction p with
  | done result =>
    cases result with
    | ok a => exact hf a
    | error e => exact failsAs_done (.error e)
  | note text next ih => exact ih hp
  | call c next ih =>
    refine ⟨fun failure => ?_, fun reply => ih _ (hp.2 reply)⟩
    obtain ⟨e, hnext, he⟩ := hp.1 failure
    refine ⟨e, ?_, he⟩
    show (next (.error failure)).bind f = .done (.error e)
    rw [hnext]
    rfl

/-- After a computation the program may rely on what it came to. -/
theorem failsAs_done_bind {result : Except RequestError α} {f : α → Program I β}
    (hf : ∀ a, result = .ok a → (f a).FailsAs as) : (done result >>= f).FailsAs as := by
  cases result with
  | ok a => exact hf a rfl
  | error e => exact failsAs_done (.error e)

theorem failsAs_askWith {failed : StoreError → RequestError} {c : I.Call}
    (h : ∀ failure, as c failure (failed failure)) : (askWith I failed c).FailsAs as :=
  ⟨fun failure => ⟨failed failure, rfl, h failure⟩, fun reply => failsAs_pure reply⟩

theorem FailsAs.embed {through : Interface.Embedding I J}
    {as' : J.Call → StoreError → RequestError → Prop} {p : Program I α}
    (hp : p.FailsAs fun c => as' (through.call c)) : (p.embed through).FailsAs as' := by
  induction p with
  | done result => exact failsAs_done result
  | note text next ih => exact ih hp
  | call c next ih =>
    refine ⟨fun failure => ?_, fun reply => ih _ (hp.2 (through.reply c reply))⟩
    obtain ⟨e, hnext, he⟩ := hp.1 failure
    refine ⟨e, ?_, he⟩
    show (next (.error failure)).embed through = .done (.error e)
    rw [hnext]
    rfl

/-- A program without calls cannot fail with one. -/
theorem failsAs_quiet (p : Program .none α) : (p.quiet : Program I α).FailsAs as := by
  induction p with
  | done result => exact failsAs_done result
  | note text next ih => exact ih
  | call c next ih => exact nomatch c

/-- A run in which a call fails ends with a failure that is allowed for this call. The induction is
    on the tree of calls: behind a call that fails there are no others. -/
theorem FailsAs.result {p : Program I α} (hp : p.FailsAs as)
    {answer : (c : I.Call) → σ → Except StoreError (I.Reply c) × σ} {s : σ} {c : I.Call}
    {failure : StoreError} (h : (c, failure) ∈ p.failures answer s) :
    ∃ e, (p.run answer s).result = .error e ∧ as c failure e := by
  induction p generalizing s with
  | done result => cases h
  | note text next ih => exact ih hp h
  | call d next ih =>
    rw [failures] at h
    rw [run]
    rcases hanswer : answer d s with ⟨reply, s'⟩
    rw [hanswer] at h
    cases reply with
    | ok reply => exact ih _ (hp.2 reply) h
    | error failure' =>
      obtain ⟨e, hnext, he⟩ := hp.1 failure'
      dsimp only at h ⊢
      rw [hnext] at h ⊢
      obtain ⟨rfl, rfl⟩ := Prod.mk.inj (List.mem_singleton.1 h)
      exact ⟨e, rfl, he⟩

end Program

/-! ## Operations -/

/-- The operations of a controller. -/
inductive Operation
  | get
  | create
  | update
  | delete
  | index
  deriving DecidableEq, Repr

/-- What an operation returns. -/
abbrev Operation.Reply : Operation → Type
  | .get | .create | .update => Record
  | .delete => Unit
  | .index => Page

namespace Controller

variable {c : Controller} {r : Request} {op : Operation} {call : StoreCall}

/-- The program of an operation for a request. -/
def operate (c : Controller) (r : Request) : (op : Operation) → Program .store op.Reply
  | .get => c.getOne r
  | .create => c.createOne r
  | .update => c.updateOne r
  | .delete => c.deleteOne r
  | .index => c.index r

/-- A call of an operation looks up the instance that a request names. -/
def IsKeyLookup (c : Controller) (r : Request) (op : Operation) (call : StoreCall) : Prop :=
  (op = .get ∨ op = .update ∨ op = .delete) ∧
    ∃ s names, c.keySelection r = .ok s ∧ call = .within (.findOne c.entity s names)

/-- A call of an operation searches for the page that a request asks for. -/
def IsSearch (c : Controller) (r : Request) (op : Operation) (call : StoreCall) : Prop :=
  op = .index ∧
    ∃ s, c.search r = .ok s ∧ call = .within (.findPage c.entity s.selection s.options)

/-- How the failure of a call in an operation appears. -/
inductive Reports (c : Controller) (r : Request) (op : Operation) (call : StoreCall) :
    StoreError → RequestError → Prop
  | conflict (detail : String) :
    Reports c r op call (.conflict detail) (.alreadyExists c.resource detail)
  | lookup (h : c.IsKeyLookup r op call) (detail text : String) :
    Reports c r op call (.invalidValue detail) (.notFound c.resource text)
  | search (h : c.IsSearch r op call) (detail : String) :
    Reports c r op call (.invalidValue detail) (.queryMalformed c.resource detail)
  | other (hlookup : ¬c.IsKeyLookup r op call) (hsearch : ¬c.IsSearch r op call)
    (detail : String) :
    Reports c r op call (.invalidValue detail) (.updateMalformed c.resource detail)
  | store {failure : StoreError} (h : failure.blamesCaller = false) :
    Reports c r op call failure (.store c.resource failure)

/-- A call within a transaction that changes or flushes rows. -/
def writes : TransactionCall → Bool
  | .findOne .. | .findPage .. => false
  | .persist .. | .remove .. | .flush => true

/-- Elsewhere than in searches a failure appears as that of the store. -/
theorem reports_ofStore (hlookup : ¬c.IsKeyLookup r op call) (hsearch : ¬c.IsSearch r op call)
    (failure : StoreError) : c.Reports r op call failure (.ofStore c.resource failure) := by
  cases failure with
  | conflict detail => exact .conflict detail
  | invalidValue detail => exact .other hlookup hsearch detail
  | _ => exact .store rfl

theorem reports_lookupFailure (h : c.IsKeyLookup r op call) (s : Selection)
    (failure : StoreError) : c.Reports r op call failure (c.lookupFailure s failure) := by
  cases failure with
  | conflict detail => exact .conflict detail
  | invalidValue detail => exact .lookup h detail _
  | _ => exact .store rfl

theorem reports_searchFailure (h : c.IsSearch r op call) (failure : StoreError) :
    c.Reports r op call failure (c.searchFailure failure) := by
  cases failure with
  | conflict detail => exact .conflict detail
  | invalidValue detail => exact .search h detail
  | _ => exact .store rfl

section

variable {failure : StoreError} {e : RequestError}

theorem IsKeyLookup.not_isSearch (h : c.IsKeyLookup r op call) : ¬c.IsSearch r op call := by
  rintro ⟨rfl, -⟩
  obtain ⟨hop | hop | hop, -⟩ := h <;> cases hop

theorem Reports.resource_eq (h : c.Reports r op call failure e) : e.resource = c.resource := by
  cases h <;> rfl

theorem Reports.code_of_conflict {detail : String}
    (h : c.Reports r op call (.conflict detail) e) :
    e.code = "RES-002 RESOURCE_ALREADY_EXISTS" := by
  cases h with
  | conflict => rfl
  | store h => cases h

/-- A value that cannot be held is reported by what the call is for. -/
theorem Reports.code_of_invalidValue {detail : String}
    (h : c.Reports r op call (.invalidValue detail) e) :
    (c.IsKeyLookup r op call → e.code = "RES-001 RESOURCE_NOT_FOUND") ∧
      (c.IsSearch r op call → e.code = "RES-004 QUERY_MALFORM") ∧
      (¬c.IsKeyLookup r op call → ¬c.IsSearch r op call → e.code = "RES-006 UPDATE_MALFORM") := by
  cases h with
  | lookup h => exact ⟨fun _ => rfl, fun hs => absurd hs h.not_isSearch, fun hl => absurd h hl⟩
  | search h => exact ⟨fun hl => absurd h hl.not_isSearch, fun _ => rfl, fun _ hs => absurd h hs⟩
  | other hl hs => exact ⟨fun h => absurd h hl, fun h => absurd h hs, fun _ _ => rfl⟩
  | store h => cases h

theorem Reports.code_eq_iff (h : c.Reports r op call failure e) :
    e.code = "RES-500 STORE_FAILURE" ↔ failure.blamesCaller = false := by
  cases h with
  | store h => exact iff_of_true rfl h
  | _ => simp [RequestError.code, StoreError.blamesCaller]

/-- The caller's mistakes have a status below 500, and the failures of the store have 500. -/
theorem Reports.status_iff (h : c.Reports r op call failure e) :
    (e.status = 500 ↔ failure.blamesCaller = false) ∧
      (400 ≤ e.status ∧ e.status < 500 ↔ failure.blamesCaller = true) := by
  cases h with
  | store h => simp [RequestError.status, h]
  | _ => simp [RequestError.status, StoreError.blamesCaller]

end

/-! ## Work within a transaction -/

/-- Work within the transaction of an operation ends with each call that fails, and reports this. -/
abbrev FailsRightly {α : Type} (c : Controller) (r : Request) (op : Operation)
    (work : Program .transaction α) : Prop :=
  work.FailsAs fun call => c.Reports r op (.within call)

theorem failsRightly_perform (r : Request) (op : Operation) {call : TransactionCall}
    (h : writes call = true) : c.FailsRightly r op (c.perform call) := by
  refine Program.failsAs_askWith (reports_ofStore ?_ ?_)
  · rintro ⟨-, s, names, -, hcall⟩
    cases hcall
    cases h
  · rintro ⟨-, s, -, hcall⟩
    cases hcall
    cases h

theorem failsRightly_persistAll (e : Entity) (mode : WriteMode) (rows : List Record) :
    c.FailsRightly r op (c.persistAll e mode rows) := by
  induction rows with
  | nil => exact Program.failsAs_pure []
  | cons row rows ih =>
    exact (failsRightly_perform r op rfl).bind fun saved =>
      ih.bind fun others => Program.failsAs_pure _

theorem failsRightly_removeAll (e : Entity) (rows : List Record) :
    c.FailsRightly r op (c.removeAll e rows) := by
  induction rows with
  | nil => exact Program.failsAs_pure ()
  | cons row rows ih => exact (failsRightly_perform r op rfl).bind fun _ => ih

theorem failsRightly_writePlans (out : Record) (plans : List ChildPlan) :
    c.FailsRightly r op (c.writePlans out plans) := by
  induction plans generalizing out with
  | nil => exact Program.failsAs_pure out
  | cons p plans ih =>
    have hplan (key : Json) : c.FailsRightly r op (c.writePlan p key) :=
      (failsRightly_persistAll p.target .update _).bind fun updated =>
        (failsRightly_persistAll p.target .insert _).bind fun created =>
          (failsRightly_removeAll p.target _).bind fun _ => Program.failsAs_pure _
    exact (hplan _).bind fun children => ih _

theorem failsRightly_write (record : Record) (mode : WriteMode) (plans : List ChildPlan) :
    c.FailsRightly r op (c.write record mode plans) :=
  (failsRightly_perform r op rfl).bind fun _ => failsRightly_writePlans _ plans

theorem failsRightly_removeFlushed (records : List Record) :
    c.FailsRightly r op (c.removeFlushed records) := by
  induction records with
  | nil => exact Program.failsAs_pure ()
  | cons record records ih =>
    exact (failsRightly_perform r op rfl).bind fun _ =>
      (failsRightly_perform r op rfl).bind fun _ => ih

/-- The instance that a request names is looked up by one call, before anything else is called. -/
theorem failsRightly_loadOne (hop : op = .get ∨ op = .update ∨ op = .delete)
    (populate : List String) : c.FailsRightly r op (c.loadOne r populate) := by
  refine Program.failsAs_done_bind fun s hs => ?_
  refine Program.FailsAs.bind (Program.failsAs_askWith
    (reports_lookupFailure ⟨hop, s, populate, hs, rfl⟩ s)) fun found => ?_
  cases found with
  | none => exact Program.failsAs_done _
  | some record =>
    refine (Program.failsAs_quiet (c.afterLoad r [record])).bind fun records => ?_
    split
    · exact Program.failsAs_pure _
    · exact Program.failsAs_done _

section

variable (hooks : c.options.hooks = .none)

include hooks

theorem failsRightly_save (record : Record) (mode : WriteMode) (plans : List ChildPlan)
    (creating : Bool) : c.FailsRightly r op (c.save r record mode plans creating) := by
  rw [save, hooks]
  exact (Program.failsAs_pure record).bind fun record =>
    (failsRightly_write record mode plans).bind fun saved => Program.failsAs_pure saved

theorem failsRightly_sanitized (body : Record) (creating : Bool) :
    c.FailsRightly r op (c.sanitized r body creating) := by
  rw [sanitized, hooks]
  exact Program.failsAs_pure body

theorem failsRightly_createWork (body scope : Record) :
    c.FailsRightly r op (c.createWork r body scope) := by
  have hpreloaded : c.preloaded r = .done (.ok none) := by
    rw [preloaded, hooks]
    rfl
  rw [createWork, hpreloaded]
  refine Program.failsAs_done_bind ?_
  rintro existing ⟨⟩
  refine Program.FailsAs.bind (failsRightly_sanitized hooks body true) fun body => ?_
  refine Program.FailsAs.bind (Program.failsAs_pure _) fun start => ?_
  refine Program.failsAs_done_bind fun assigned _ => ?_
  refine Program.failsAs_done_bind fun _ _ => ?_
  exact failsRightly_save hooks _ start.2.2 assigned.2 true

theorem failsRightly_updateWork (hop : op = .get ∨ op = .update ∨ op = .delete) (body : Record)
    (populate : List String) : c.FailsRightly r op (c.updateWork r body populate) := by
  refine Program.FailsAs.bind (failsRightly_loadOne hop populate) fun record => ?_
  refine Program.FailsAs.bind (failsRightly_sanitized hooks body false) fun body => ?_
  refine Program.failsAs_done_bind fun _ _ => ?_
  refine Program.failsAs_done_bind fun assigned _ => ?_
  exact failsRightly_save hooks assigned.1 .update assigned.2 false

theorem failsRightly_deleteWork (hop : op = .get ∨ op = .update ∨ op = .delete)
    (populate : List String) : c.FailsRightly r op (c.deleteWork r populate) := by
  rw [deleteWork, hooks]
  refine Program.FailsAs.bind (failsRightly_loadOne hop populate) fun target => ?_
  exact (failsRightly_removeFlushed [target]).bind fun _ => Program.failsAs_pure ()

end

/-! ## Transactions -/

theorem failsAs_onStore (h : call = .begin ∨ call = .commit) :
    (c.onStore call).FailsAs (c.Reports r op) := by
  refine Program.failsAs_askWith (reports_ofStore ?_ ?_)
  · rintro ⟨-, s, names, -, rfl⟩
    obtain h | h := h <;> cases h
  · rintro ⟨-, s, -, rfl⟩
    obtain h | h := h <;> cases h

theorem failsAs_begin {α : Type} {work : Program .transaction α} (h : c.FailsRightly r op work) :
    (c.begin work).FailsAs (c.Reports r op) :=
  (failsAs_onStore (Or.inl rfl)).bind fun _ => h.embed

theorem failsAs_commit {α : Type} {work : Program .transaction α} (h : c.FailsRightly r op work) :
    (c.commit work).FailsAs (c.Reports r op) :=
  (failsAs_begin h).bind fun _ =>
    (failsAs_onStore (Or.inr rfl)).bind fun _ => Program.failsAs_pure _

theorem failsRightly_flushed {α : Type} {work : Program .transaction α}
    (h : c.FailsRightly r op work) : c.FailsRightly r op (c.flushed work) :=
  h.bind fun _ => (failsRightly_perform r op rfl).bind fun _ => Program.failsAs_pure _

/-- Every operation without hooks ends with each call that fails, and reports this. -/
theorem failsAs_operate (hooks : c.options.hooks = .none) (r : Request) (op : Operation) :
    (c.operate r op).FailsAs (c.Reports r op) := by
  cases op with
  | get =>
    exact Program.failsAs_done_bind fun names _ =>
      failsAs_begin (failsRightly_loadOne (Or.inl rfl) names)
  | create =>
    exact Program.failsAs_done_bind fun body _ =>
      failsAs_commit (failsRightly_flushed (failsRightly_createWork hooks body _))
  | update =>
    refine Program.failsAs_done_bind fun body _ => Program.failsAs_done_bind fun names _ => ?_
    exact failsAs_commit (failsRightly_flushed
      (failsRightly_updateWork hooks (Or.inr (Or.inl rfl)) body _))
  | delete =>
    exact Program.failsAs_done_bind fun names _ =>
      failsAs_commit (failsRightly_deleteWork hooks (Or.inr (Or.inr rfl)) names)
  | index =>
    refine Program.failsAs_done_bind fun s hs => ?_
    refine Program.FailsAs.bind (failsAs_begin (Program.failsAs_askWith
      (reports_searchFailure ⟨rfl, s, hs, rfl⟩))) fun page => ?_
    exact (Program.failsAs_quiet (c.afterLoad r page.items)).bind fun items =>
      Program.failsAs_pure _

end Controller

/-- An operation without hooks in which a call of the store fails, whatever the store answers, fails
    on the resource: as an existing resource if there is a conflict, and if a value cannot be held
    as a missing one where the key is looked up, as a malformed query where a page is searched for,
    and as a malformed update elsewhere. For the other failures, and for these only, it is a failure
    of the store, so that no mistake of the caller has the status 500 and no failure of the store
    itself one from 400 to 499. -/
theorem store_failures_classified {c : Controller} (hooks : c.options.hooks = .none) (r : Request)
    (op : Operation) {σ : Type}
    (answer : (call : StoreCall) → σ → Except StoreError call.Reply × σ) (s : σ)
    {call : StoreCall} {failure : StoreError}
    (h : (call, failure) ∈ (c.operate r op).failures answer s) :
    ∃ e, ((c.operate r op).run answer s).result = .error e ∧ e.resource = c.resource ∧
      (∀ detail, failure = .conflict detail → e.code = "RES-002 RESOURCE_ALREADY_EXISTS") ∧
      (∀ detail, failure = .invalidValue detail →
        (c.IsKeyLookup r op call → e.code = "RES-001 RESOURCE_NOT_FOUND") ∧
        (c.IsSearch r op call → e.code = "RES-004 QUERY_MALFORM") ∧
        (¬c.IsKeyLookup r op call → ¬c.IsSearch r op call → e.code = "RES-006 UPDATE_MALFORM")) ∧
      (e.code = "RES-500 STORE_FAILURE" ↔ failure.blamesCaller = false) ∧
      (e.status = 500 ↔ failure.blamesCaller = false) ∧
      (400 ≤ e.status ∧ e.status < 500 ↔ failure.blamesCaller = true) := by
  obtain ⟨e, hresult, hreports⟩ := (Controller.failsAs_operate hooks r op).result h
  refine ⟨e, hresult, hreports.resource_eq, ?_, ?_, hreports.code_eq_iff, hreports.status_iff⟩
  · rintro detail rfl
    exact hreports.code_of_conflict
  · rintro detail rfl
    exact hreports.code_of_invalidValue

/-! ## A store of orders that fails -/

namespace Orders

/-- The answers of a store of orders that fails the first call of a kind. -/
def failing (kind : CallKind) (failure : StoreError) (call : StoreCall) (s : Faulty Client) :
    Except StoreError call.Reply × Faulty Client :=
  Faulty.answer [⟨kind, 1, failure⟩] (Client.answer stamps) call s

/-- What an operation on the order of a key comes to on such a store. -/
def attempt (op : Operation) (id : String) (kind : CallKind) (failure : StoreError) :
    Except RequestError op.Reply :=
  ((controller.operate (request id [("note", .str "new")]) op).run (failing kind failure)
    ⟨start, []⟩).result

end Orders

open Orders in
/-- A key that is no key is looked up, an order is changed in vain, another one cannot be removed,
    and orders are searched for in a store that is gone. -/
theorem store_failures_classified_orders :
    (∃ e, attempt .get "?" .findOne (.invalidValue "?") = .error e ∧
      e.code = "RES-001 RESOURCE_NOT_FOUND") ∧
    (∃ e, attempt .update "1" .flush (.conflict "1") = .error e ∧
      e.code = "RES-002 RESOURCE_ALREADY_EXISTS") ∧
    (∃ e, attempt .delete "1" .remove (.invalidValue "1") = .error e ∧
      e.code = "RES-006 UPDATE_MALFORM") ∧
    ∃ e, attempt .index "" .findPage (.database "gone") = .error e ∧ e.status = 500 := by
  refine ⟨?_, ?_, ?_, ?_⟩
  · obtain ⟨e, hresult, -, -, hinvalid, -⟩ := store_failures_classified (c := controller) rfl
      (request "?" [("note", .str "new")]) .get (failing .findOne (.invalidValue "?")) ⟨start, []⟩
      List.mem_cons_self
    exact ⟨e, hresult, (hinvalid "?" rfl).1 ⟨Or.inl rfl, _, _, rfl, rfl⟩⟩
  · obtain ⟨e, hresult, -, hconflict, -⟩ := store_failures_classified (c := controller) rfl
      (request "1" [("note", .str "new")]) .update (failing .flush (.conflict "1")) ⟨start, []⟩
      List.mem_cons_self
    exact ⟨e, hresult, hconflict "1" rfl⟩
  · obtain ⟨e, hresult, -, -, hinvalid, -⟩ := store_failures_classified (c := controller) rfl
      (request "1" [("note", .str "new")]) .delete (failing .remove (.invalidValue "1")) ⟨start, []⟩
      List.mem_cons_self
    refine ⟨e, hresult, (hinvalid "1" rfl).2.2 ?_ ?_⟩
    · rintro ⟨-, s, names, -, hcall⟩
      cases hcall
    · rintro ⟨hop, -⟩
      cases hop
  · obtain ⟨e, hresult, -, -, -, -, hstatus, -⟩ := store_failures_classified (c := controller) rfl
      (request "" [("note", .str "new")]) .index (failing .findPage (.database "gone")) ⟨start, []⟩
      List.mem_cons_self
    exact ⟨e, hresult, hstatus.2 rfl⟩

end Depot
