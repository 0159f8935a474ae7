import Depot.Proofs.Model.Resolved
import Depot.Proofs.Store.Replay

/-!
# Calls without dangling references

A call refers to things by name: to an entity, to the columns that it searches and sorts by, and to
relations. If the model has all of them, the call cannot fail because one is missing, and what it
stages cannot either. A program whose calls are all like this fails for other reasons only.

* `StoreError.IsGrounded`, `RequestError.IsGrounded`: failures that no missing name causes.
* `TransactionCall.IsGrounded`, `StoreCall.IsGrounded`: calls whose names are there.
* `Transaction.IsGrounded`, `Client.IsGrounded`: writes of entities that are there.
* `Program.IsGrounded`: programs that make grounded calls, however these are answered.
* `Program.calls`: the calls of a run.
* `Program.RunsGrounded`: runs that refer to nothing that is not there.

Results:
* `exists_populate`: relations that are there can be populated.
* `Client.IsGrounded.answer`: a grounded call fails for another reason, and keeps a client grounded.
* `Program.isGrounded_run`: the calls of a grounded program are grounded, and so is its failure.
-/

namespace Depot

/-! ## Failures -/

/-- The failures of a store that have another cause than a name that is not there. They are listed
    by their causes: the texts alone do not tell failures apart, as names occur in them. -/
inductive StoreError.IsGrounded : StoreError → Prop
  | conflict (detail : String) : IsGrounded (.conflict detail)
  | missing (detail : String) : IsGrounded (.missing detail)
  | invalidValue (detail : String) : IsGrounded (.invalidValue detail)
  | database (detail : String) : IsGrounded (.database detail)
  | noTransaction : IsGrounded Client.noTransaction
  | likePattern : IsGrounded (.backend "like pattern")
  | noKey (e : Entity) : IsGrounded (.backend (Transaction.noKey e))
  | cannotGenerate (e : Entity) (c : Column) :
    IsGrounded (.backend (e.name ++ ": cannot generate key for column " ++ c.name))
  | nullValue (e : Entity) (c : Column) : IsGrounded (.backend
      ("null value in column " ++ c.name ++ " of " ++ e.name ++ " violates not-null constraint"))

theorem StoreError.IsGrounded.ne_unknownEntity {e : StoreError} (h : e.IsGrounded)
    (name : String) : e ≠ .unknownEntity name := by
  rintro rfl
  cases h

/-- A failed request, unless a name that is not there in the store has caused it. -/
def RequestError.IsGrounded : RequestError → Prop
  | .store _ source => source.IsGrounded
  | _ => True

theorem isGrounded_ofStore (resource : String) {e : StoreError} (h : e.IsGrounded) :
    (RequestError.ofStore resource e).IsGrounded := by
  cases e with
  | conflict detail => trivial
  | invalidValue detail => trivial
  | _ => exact h

/-! ## Calls -/

/-- The relations of names are there, and sound. -/
def Model.Populates (m : Model) (e : Entity) (names : List String) : Prop :=
  ∀ name ∈ names, ∃ r, e.relation? name = some r ∧ m.IsSound e r

/-- A selection by columns and by fields of a scope. -/
structure Selection.IsGrounded (e : Entity) (scope : Record) (s : Selection) : Prop where
  fields : ∀ f ∈ s.fields, e.hasColumn f.1 = true ∨ f ∈ scope
  conditions : ∀ f ∈ s.conditions, e.hasColumn f.1 = true

/-- What a call refers to is there: the entity is the one that the model knows by its name, and it
    has the relations that are populated, the columns that are sorted by, and those that are
    searched, the fields of a scope apart. -/
def TransactionCall.IsGrounded (m : Model) (scope : Record) : TransactionCall → Prop
  | .findOne e s populate =>
    m.entity? e.name = some e ∧ s.IsGrounded e scope ∧ m.Populates e populate
  | .findPage e s o =>
    m.entity? e.name = some e ∧ s.IsGrounded e scope ∧ m.Populates e o.populate ∧
      ∀ k ∈ o.sort, e.hasColumn k.field = true
  | .persist e _ _ => m.entity? e.name = some e
  | .remove e _ => m.entity? e.name = some e
  | .flush => True

/-- What a call on a store refers to is there. -/
def StoreCall.IsGrounded (m : Model) (scope : Record) : StoreCall → Prop
  | .within c => c.IsGrounded m scope
  | _ => True

/-! ## Answers -/

/-- The writes of a transaction are of entities that the model knows. -/
def Transaction.IsGrounded (m : Model) (tx : Transaction) : Prop :=
  ∀ w ∈ tx.log, (m.entity? w.entity).isSome

section

variable {m : Model} {scope : Record} {tx : Transaction} {e : Entity}

theorem isGrounded_matching {s : Selection} {failure : StoreError}
    (h : tx.matching e s = .error failure) : failure.IsGrounded := by
  rw [Transaction.matching] at h
  split at h
  · cases h
    exact .likePattern
  · cases h

/-- Relations that are there can be populated. -/
theorem exists_populate (tx : Transaction) {names : List String} (h : m.Populates e names)
    (rows : List Record) : ∃ populated, tx.populate e rows names = .ok populated := by
  induction names generalizing rows with
  | nil => exact ⟨rows, rfl⟩
  | cons name names ih =>
    obtain ⟨r, hr, -⟩ := h name List.mem_cons_self
    obtain ⟨populated, hpopulated⟩ := ih (fun n hn => h n (List.mem_cons_of_mem _ hn))
      (rows.map fun row => row.put r.name (tx.relatedJson r row))
    refine ⟨populated, ?_⟩
    rw [Transaction.populate, hr]
    exact hpopulated

theorem isGrounded_findOne {s : Selection} {names : List String} (hnames : m.Populates e names)
    {failure : StoreError} (h : tx.findOne e s names = .error failure) : failure.IsGrounded := by
  rcases bind_eq_error_iff.1 h with h | ⟨rows, -, h⟩
  · exact isGrounded_matching h
  rcases bind_eq_error_iff.1 h with h | ⟨shown, -, h⟩
  · obtain ⟨populated, hpopulated⟩ := exists_populate tx hnames (rows.take 1)
    rw [hpopulated] at h
    cases h
  · cases h

theorem isGrounded_findPage {s : Selection} {o : FindOptions} (hnames : m.Populates e o.populate)
    {failure : StoreError} (h : tx.findPage e s o = .error failure) : failure.IsGrounded := by
  rcases bind_eq_error_iff.1 h with h | ⟨rows, -, h⟩
  · exact isGrounded_matching (map_eq_error_iff.1 h)
  rcases bind_eq_error_iff.1 h with h | ⟨shown, -, h⟩
  · obtain ⟨populated, hpopulated⟩ := exists_populate tx hnames
      (((sortRows o.sort rows).drop o.offset).take o.limit)
    rw [hpopulated] at h
    cases h
  · cases h

theorem isGrounded_generate {c : Column} {stamp : Stamp} {failure : StoreError}
    (h : tx.generate e c stamp = .error failure) : failure.IsGrounded := by
  rw [Transaction.generate] at h
  split at h
  · cases h
  · cases h
  · cases h
  · cases h
    exact .cannotGenerate e c

theorem isGrounded_fillDefaults {stamp : Stamp} {row : Record} {failure : StoreError}
    (h : tx.fillDefaults e stamp row = .error failure) : failure.IsGrounded := by
  rcases bind_eq_error_iff.1 h with h | ⟨filled, -, h⟩
  · rw [Transaction.fillKey] at h
    split at h
    · cases h
    · split at h
      · exact isGrounded_generate (map_eq_error_iff.1 h)
      · cases h
  · dsimp only at h
    split at h
    · cases h
    · rename_i c _
      cases h
      exact .nullValue e c

theorem isGrounded_persist {r : Record} {mode : WriteMode} {stamp : Stamp} {failure : StoreError}
    (h : tx.persist e r mode stamp = .error failure) : failure.IsGrounded := by
  cases mode with
  | insert =>
    rcases bind_eq_error_iff.1 h with h | ⟨row, -, h⟩
    · exact isGrounded_fillDefaults h
    · split at h
      · cases h
        exact .noKey e
      · cases h
  | update =>
    rw [Transaction.persist, Transaction.update] at h
    split at h
    · cases h
      exact .missing _
    · split at h
      · cases h
        exact .missing _
      · cases h

theorem isGrounded_remove {r : Record} {failure : StoreError}
    (h : tx.remove e r = .error failure) : failure.IsGrounded := by
  rw [Transaction.remove] at h
  split at h
  · cases h
    exact .missing _
  · cases h

/-! ## Writes -/

/-- A write of an entity that is there may meet a row that is there already, or miss one. -/
theorem isGrounded_apply {w : Write} (hw : (m.entity? w.entity).isSome) {t : Tables}
    {failure : StoreError} (h : w.apply m t = .error failure) : failure.IsGrounded := by
  obtain ⟨e, he⟩ := Option.isSome_iff_exists.1 hw
  rw [Write.apply, he] at h
  have h := map_eq_error_iff.1 h
  cases w with
  | insert entity key row =>
    rw [Write.applyToRows] at h
    split at h
    · cases h
      exact .conflict _
    · cases h
  | update entity key row =>
    rw [Write.applyToRows] at h
    split at h
    · cases h
    · cases h
      exact .missing _
  | remove entity key =>
    rw [Write.applyToRows] at h
    split at h
    · cases h
    · cases h
      exact .missing _

theorem isGrounded_failure_applyPrefix {ws : List Write}
    (hws : ∀ w ∈ ws, (m.entity? w.entity).isSome) {t : Tables} {failure : StoreError}
    (h : (applyPrefix m t ws).failure = some failure) : failure.IsGrounded := by
  obtain ⟨w, rest, hsplit, hw⟩ := of_applyPrefix_failure h
  have hmem : w ∈ ws := by
    rw [hsplit]
    exact List.mem_append_right _ List.mem_cons_self
  exact isGrounded_apply (hws w hmem) hw

theorem isGrounded_flush (htx : tx.IsGrounded m) {failure : StoreError}
    (h : (tx.flush m).2 = .error failure) : failure.IsGrounded := by
  rw [Transaction.flush] at h
  split at h
  · cases h
  · rename_i f hf
    cases h
    exact isGrounded_failure_applyPrefix (fun w hw => htx w (List.mem_append_right _ hw)) hf

theorem Transaction.IsGrounded.flush (htx : tx.IsGrounded m) :
    (tx.flush m).1.IsGrounded m := by
  rw [Transaction.IsGrounded, Transaction.log_flush]
  refine List.forall_mem_append.2 ⟨fun w hw => ?_, fun w hw => ?_⟩
  · exact htx w (List.mem_append_left _ hw)
  · exact htx w (List.mem_append_right _ (Transaction.mem_flushing w hw))

theorem Transaction.IsGrounded.stage (htx : tx.IsGrounded m) {w : Write}
    (hw : (m.entity? w.entity).isSome) : (tx.stage w).IsGrounded m := by
  rw [Transaction.IsGrounded, Transaction.log_stage]
  exact List.forall_mem_append.2 ⟨htx, List.forall_mem_singleton.2 hw⟩

/-- An answer is no failure. -/
theorem isGrounded_of_answered {α : Type} {a : α} :
    ∀ failure : StoreError, Except.ok a = .error failure → failure.IsGrounded := by
  intro failure h
  cases h

theorem isGrounded_of_failed {α : Type} {cause : StoreError} (hcause : cause.IsGrounded) :
    ∀ failure : StoreError, (.error cause : Except StoreError α) = .error failure →
      failure.IsGrounded := by
  rintro failure ⟨⟩
  exact hcause

/-- A grounded call fails for another reason than a missing name, and stages writes of its own
    entity at most. -/
theorem Transaction.IsGrounded.answers (htx : tx.IsGrounded m) {call : TransactionCall}
    (hcall : call.IsGrounded m scope) {stamp : Stamp} {reply : Except StoreError call.Reply}
    {tx' : Transaction} (h : tx.Answers m stamp call reply tx') :
    (∀ failure, reply = .error failure → failure.IsGrounded) ∧ tx'.IsGrounded m := by
  cases h with
  | findOne e s names => exact ⟨fun failure h => isGrounded_findOne hcall.2.2 h, htx⟩
  | findPage e s o => exact ⟨fun failure h => isGrounded_findPage hcall.2.2.1 h, htx⟩
  | persisted hp =>
    obtain ⟨w, -, hentity, -, rfl⟩ := Transaction.persist_eq_ok hp
    refine ⟨isGrounded_of_answered, htx.stage ?_⟩
    rw [hentity]
    exact Option.isSome_of_eq_some hcall
  | notPersisted hp => exact ⟨isGrounded_of_failed (isGrounded_persist hp), htx⟩
  | removed hr =>
    obtain ⟨key, -, rfl⟩ := Transaction.remove_eq_ok hr
    exact ⟨isGrounded_of_answered, htx.stage (Option.isSome_of_eq_some hcall)⟩
  | notRemoved hr => exact ⟨isGrounded_of_failed (isGrounded_remove hr), htx⟩
  | flush => exact ⟨fun failure h => isGrounded_flush htx h, htx.flush⟩

theorem isGrounded_commit {db : Database} (htx : tx.IsGrounded db.model) {failure : StoreError}
    (h : db.commit tx = .error failure) : failure.IsGrounded := by
  rw [Database.commit] at h
  split at h
  · rename_i tx' f hflush
    cases h
    exact isGrounded_flush htx (congrArg Prod.snd hflush)
  · rename_i tx' hflush
    have hflushed := htx.flush
    rw [hflush] at hflushed
    exact isGrounded_failure_applyPrefix (fun w hw => hflushed w (List.mem_append_left _ hw))
      (failure_applyPrefix_of_applyAll (map_eq_error_iff.1 h))

/-- A client of a model whose transaction, if there is one, writes entities that are there. -/
structure Client.IsGrounded (m : Model) (client : Client) : Prop where
  model : client.db.model = m
  transaction : ∀ tx, client.transaction = some tx → tx.IsGrounded m

/-- A client without a transaction is grounded. -/
theorem Client.isGrounded_of_db (db : Database) (taken : Nat) :
    Client.IsGrounded db.model ⟨db, none, taken⟩ := ⟨rfl, nofun⟩

/-- A grounded call fails for another reason than a missing name, and keeps a client grounded. -/
theorem Client.IsGrounded.answer {client : Client} (hclient : client.IsGrounded m)
    {call : StoreCall} (hcall : call.IsGrounded m scope) (stamps : Stamps) :
    (∀ failure, (Client.answer stamps call client).1 = .error failure → failure.IsGrounded) ∧
      (Client.answer stamps call client).2.IsGrounded m := by
  obtain ⟨db, transaction, taken⟩ := client
  obtain ⟨rfl, htransaction⟩ := hclient
  cases call with
  | begin =>
    refine ⟨isGrounded_of_answered, rfl, fun tx htx v hv => ?_⟩
    cases htx
    cases hv
  | ping => exact ⟨isGrounded_of_answered, rfl, htransaction⟩
  | commit =>
    rw [Client.answer]
    cases transaction with
    | none => exact ⟨isGrounded_of_failed .noTransaction, rfl, htransaction⟩
    | some tx =>
      dsimp only
      cases hcommit : db.commit tx with
      | error failure =>
        exact ⟨isGrounded_of_failed (isGrounded_commit (htransaction tx rfl) hcommit),
          isGrounded_of_db db taken⟩
      | ok db' =>
        refine ⟨isGrounded_of_answered, ?_⟩
        rw [← Database.model_commit hcommit]
        exact isGrounded_of_db db' taken
  | within call =>
    rw [Client.answer]
    cases transaction with
    | none => exact ⟨isGrounded_of_failed .noTransaction, rfl, htransaction⟩
    | some tx =>
      obtain ⟨hfailure, hkept⟩ :=
        (htransaction tx rfl).answers hcall (tx.answers_answer stamps db.model taken call)
      refine ⟨hfailure, rfl, fun tx' htx' => ?_⟩
      cases htx'
      exact hkept

end

/-! ## Programs -/

namespace Program

variable {I J : Interface} {α β σ : Type} {grounded : I.Call → Prop}

/-- The calls that a run makes, in their order. -/
def calls (answer : (c : I.Call) → σ → Except StoreError (I.Reply c) × σ) :
    Program I α → σ → List I.Call
  | .done _, _ => []
  | .note _ next, s => next.calls answer s
  | .call c next, s => c :: (next (answer c s).1).calls answer (answer c s).2

/-- A program that makes grounded calls and fails with grounded failures, whatever it is answered,
    as long as its calls do not fail otherwise. -/
def IsGrounded (grounded : I.Call → Prop) : Program I α → Prop
  | .done result => ∀ e, result = .error e → e.IsGrounded
  | .note _ next => next.IsGrounded grounded
  | .call c next => grounded c ∧ ∀ reply : Except StoreError (I.Reply c),
      (∀ e, reply = .error e → e.IsGrounded) → (next reply).IsGrounded grounded

theorem isGrounded_done {result : Except RequestError α}
    (h : ∀ e, result = .error e → e.IsGrounded) : (done result : Program I α).IsGrounded grounded :=
  h

theorem isGrounded_pure (a : α) : (pure a : Program I α).IsGrounded grounded :=
  isGrounded_done nofun

theorem IsGrounded.bind {p : Program I α} {f : α → Program I β} (hp : p.IsGrounded grounded)
    (hf : ∀ a, (f a).IsGrounded grounded) : (p >>= f).IsGrounded grounded := by
  induction p with
  | done result =>
    cases result with
    | ok a => exact hf a
    | error e =>
      rintro _ ⟨⟩
      exact hp e rfl
  | note text next ih => exact ih hp
  | call c next ih => exact ⟨hp.1, fun reply hreply => ih reply (hp.2 reply hreply)⟩

/-- After a computation the program may rely on what it came to. -/
theorem isGrounded_done_bind {result : Except RequestError α} {f : α → Program I β}
    (hresult : ∀ e, result = .error e → e.IsGrounded)
    (hf : ∀ a, result = .ok a → (f a).IsGrounded grounded) :
    (done result >>= f).IsGrounded grounded := by
  cases result with
  | ok a => exact hf a rfl
  | error e =>
    rintro _ ⟨⟩
    exact hresult e rfl

theorem isGrounded_askWith {failed : StoreError → RequestError} {c : I.Call} (hc : grounded c)
    (hfailed : ∀ e, e.IsGrounded → (failed e).IsGrounded) :
    (askWith I failed c).IsGrounded grounded := by
  refine ⟨hc, ?_⟩
  intro reply hreply
  cases reply with
  | ok a => exact isGrounded_pure a
  | error e =>
    rintro _ ⟨⟩
    exact hfailed e (hreply e rfl)

theorem isGrounded_ask (resource : String) {c : I.Call} (hc : grounded c) :
    (ask I resource c).IsGrounded grounded :=
  isGrounded_askWith hc fun _ => isGrounded_ofStore resource

theorem IsGrounded.embed {through : Interface.Embedding I J} {grounded' : J.Call → Prop}
    (hcalls : ∀ c, grounded c → grounded' (through.call c)) {p : Program I α}
    (hp : p.IsGrounded grounded) : (p.embed through).IsGrounded grounded' := by
  induction p with
  | done result => exact hp
  | note text next ih => exact ih hp
  | call c next ih =>
    refine ⟨hcalls c hp.1, ?_⟩
    intro reply hreply
    refine ih _ (hp.2 _ ?_)
    intro e he
    exact hreply e (map_eq_error_iff.1 he)

/-- A run on a client that refers to nothing that is not there: its calls are grounded, and if it
    fails it does so for another reason, and never for an entity that the store does not know. -/
structure RunsGrounded (stamps : Stamps) (m : Model) (scope : Record) (p : Program .store α)
    (client : Client) : Prop where
  calls : ∀ c ∈ p.calls (Client.answer stamps) client, c.IsGrounded m scope
  failure : ∀ e, (p.run (Client.answer stamps) client).result = .error e → e.IsGrounded
  known : ∀ resource name, (p.run (Client.answer stamps) client).result ≠
    .error (.store resource (.unknownEntity name))

/-- The calls of a grounded program are grounded, and so is its failure. The induction is on the
    tree of calls, along which the client stays grounded. -/
theorem isGrounded_run {m : Model} {scope : Record} {p : Program .store α}
    (hp : p.IsGrounded (StoreCall.IsGrounded m scope)) {client : Client}
    (hclient : client.IsGrounded m) (stamps : Stamps) :
    (∀ c ∈ p.calls (Client.answer stamps) client, c.IsGrounded m scope) ∧
      ∀ e, (p.run (Client.answer stamps) client).result = .error e → e.IsGrounded := by
  induction p generalizing client with
  | done result => exact ⟨nofun, hp⟩
  | note text next ih => exact ih hp hclient
  | call c next ih =>
    obtain ⟨hcall, hnext⟩ := hp
    obtain ⟨hfailure, hkept⟩ := hclient.answer hcall stamps
    obtain ⟨hcalls, hresult⟩ := ih _ (hnext _ hfailure) hkept
    exact ⟨List.forall_mem_cons.2 ⟨hcall, hcalls⟩, hresult⟩

theorem runsGrounded {m : Model} {scope : Record} {p : Program .store α}
    (hp : p.IsGrounded (StoreCall.IsGrounded m scope)) {client : Client}
    (hclient : client.IsGrounded m) (stamps : Stamps) :
    p.RunsGrounded stamps m scope client := by
  obtain ⟨hcalls, hfailure⟩ := isGrounded_run hp hclient stamps
  refine ⟨hcalls, hfailure, ?_⟩
  intro resource name h
  exact (hfailure _ h).ne_unknownEntity name rfl

end Program

end Depot
