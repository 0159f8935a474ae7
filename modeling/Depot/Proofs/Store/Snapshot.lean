import Depot.Proofs.Store.InPlace
import Mathlib.Data.List.Induction

/-!
# Tables of a transaction

A transaction works on the committed rows as they were when it began. The writes that it applies
to them are those that it adds to its log, one by one, so that its tables are its flushed log over
what it began with, also after flushes that failed. If the committed rows are the same by the time
of the commit, then the log fits them, and leads to what the transaction has seen.

* `Transaction.IsOver`: a transaction whose tables are its flushed log over a snapshot.

Results:
* `flush_eq_error_iff`: a flush that fails has applied and logged the writes before the first that
  does not fit, and drops the rest.
* `IsOver.answers`: a call keeps the tables and the log together.
* `isOver_of_open`: so they are together in every transaction that steps leave open.
* `commit_of_isOver`, `run_commit_of_isOver`: a commit on the rows of the snapshot is the last
  flush.
* `working_of_open`: the tables of a transaction, its flushes and its commit in a session.
-/

namespace Depot

variable {m : Model} {t t' : Tables} {ws : List Write}

/-! ## Flushes -/

/-- A log is applied up to the first write that does not fit. -/
theorem applyPrefix_of_failure {before : List Write} {w : Write} {failure : StoreError}
    (hbefore : applyAll m t before = .ok t') (hw : w.apply m t' = .error failure)
    (rest : List Write) :
    applyPrefix m t (before ++ w :: rest) = ⟨t', before, some failure⟩ := by
  induction before generalizing t with
  | nil =>
    cases hbefore
    rw [List.nil_append, applyPrefix, hw]
  | cons v before ih =>
    obtain ⟨t₁, hv, hrest⟩ := applyAll_cons_iff.1 hbefore
    simp only [List.cons_append, applyPrefix, hv, ih hrest]

namespace Transaction

variable {tx tx' : Transaction}

/-- A flush fails at the first staged write that does not fit. It has applied and logged the
    writes before it, and drops the others. -/
theorem flush_eq_error_iff {failure : StoreError} :
    tx.flush m = (tx', .error failure) ↔
      ∃ before w rest t, tx.staged = before ++ w :: rest ∧ applyAll m tx.working before = .ok t ∧
        w.apply m t = .error failure ∧ tx' = ⟨t, [], tx.flushed ++ before⟩ := by
  constructor
  · intro h
    rw [flush] at h
    cases hf : (applyPrefix m tx.working tx.staged).failure with
    | none => rw [hf] at h; cases h
    | some e =>
      rw [hf] at h
      cases h
      obtain ⟨w, rest, hsplit, hw⟩ := of_applyPrefix_failure hf
      exact ⟨_, w, rest, _, hsplit, applyAll_applied m tx.working tx.staged, hw, rfl⟩
  · rintro ⟨before, w, rest, t, hsplit, hbefore, hw, rfl⟩
    simp only [flush, hsplit, applyPrefix_of_failure hbefore hw]

/-! ## Snapshots -/

/-- The tables of a transaction are its flushed log over a snapshot. -/
def IsOver (m : Model) (snapshot : Tables) (tx : Transaction) : Prop :=
  applyAll m snapshot tx.flushed = .ok tx.working

variable {snapshot : Tables}

theorem isOver_begin (m : Model) (db : Database) : db.begin.IsOver m db.tables := rfl

/-- A flush adds to the log what it applies to the tables. -/
theorem IsOver.flush (h : tx.IsOver m snapshot) : (tx.flush m).1.IsOver m snapshot := by
  rw [IsOver, flushed_flush, applyAll_append, show applyAll _ _ _ = _ from h]
  exact applyAll_flushing m tx

/-- The step lemma: calls other than flushes change neither the tables nor the flushed log. -/
theorem IsOver.answers (h : tx.IsOver m snapshot) {stamp : Stamp} {c : TransactionCall}
    {reply : Except StoreError c.Reply} (hc : tx.Answers m stamp c reply tx') :
    tx'.IsOver m snapshot := by
  cases hc with
  | persisted hp =>
    obtain ⟨w, -, -, -, rfl⟩ := persist_eq_ok hp
    exact h
  | removed hr =>
    obtain ⟨key, -, rfl⟩ := remove_eq_ok hr
    exact h
  | flush => exact h.flush
  | _ => exact h

end Transaction

/-! ## Sessions -/

namespace Session

/-- Steps that neither seed nor commit leave the database as it is. -/
theorem db_runAll_of_not_writes (stamps : Stamps) (s : Session) {steps : List Step}
    (h : ∀ step ∈ steps, step.writes = false) : (s.runAll stamps steps).db = s.db := by
  induction steps generalizing s with
  | nil => rfl
  | cons step steps ih =>
    have hrest := ih (s.run stamps step).2 fun v hv => h v (List.mem_cons_of_mem _ hv)
    exact hrest.trans (db_run_of_not_writes stamps s step (h step List.mem_cons_self))

/-- A transaction that is open after a step was begun by it, was called by it, or was left as it was
    by a step of others. -/
theorem of_field?_run {stamps : Stamps} {s : Session} {step : Step} {name : String}
    {tx : Transaction} (hopen : (s.run stamps step).2.transactions.field? name = some tx) :
    (step = .begin name ∧ tx = s.db.begin) ∨
      (∃ tx₀ c, step = .within name c ∧ s.transactions.field? name = some tx₀ ∧
        tx = (tx₀.answer stamps s.db.model s.taken c).2.1) ∨
      (step.transaction? ≠ some name ∧ s.transactions.field? name = some tx) := by
  have hmoves := moves_run stamps s step
  generalize (s.run stamps step).2 = s' at hmoves hopen
  have hother {n : String} (hn : n ≠ name) : some n ≠ some name := mt Option.some.inj hn
  -- of a name without an open transaction nothing is left behind
  have hclosed {n : String} (hn : s.transactions.field? n = none)
      (h : s.transactions.field? name = some tx) : n ≠ name := by
    rintro rfl
    cases hn.symm.trans h
  cases hmoves with
  | seed entity rows => exact .inr (.inr ⟨nofun, hopen⟩)
  | rows entity => exact .inr (.inr ⟨nofun, hopen⟩)
  | ping => exact .inr (.inr ⟨nofun, hopen⟩)
  | begin n =>
    rcases of_field?_put hopen with ⟨rfl, rfl⟩ | ⟨hn, hopen⟩
    · exact .inl ⟨rfl, rfl⟩
    · exact .inr (.inr ⟨hother hn, hopen⟩)
  | within c htx =>
    rcases of_field?_put hopen with ⟨rfl, rfl⟩ | ⟨hn, hopen⟩
    · exact .inr (.inl ⟨_, c, rfl, htx, rfl⟩)
    · exact .inr (.inr ⟨hother hn, hopen⟩)
  | drop n =>
    obtain ⟨hn, hopen⟩ := of_field?_close hopen
    exact .inr (.inr ⟨hother hn, hopen⟩)
  | commit htx h =>
    obtain ⟨hn, hopen⟩ := of_field?_close hopen
    exact .inr (.inr ⟨hother hn, hopen⟩)
  | commitFailed htx h =>
    obtain ⟨hn, hopen⟩ := of_field?_close hopen
    exact .inr (.inr ⟨hother hn, hopen⟩)
  | commitNotOpen hn => exact .inr (.inr ⟨hother (hclosed hn hopen), hopen⟩)
  | withinNotOpen c hn => exact .inr (.inr ⟨hother (hclosed hn hopen), hopen⟩)

/-- The run lemma: a transaction that is open after steps was begun by one of them, and since then
    its name was used for calls in it only. Its tables are its flushed log over the committed rows
    as they were when it began. The induction is on the steps from the last one back, since a name
    can be used for one transaction after another. -/
theorem isOver_of_open (stamps : Stamps) (db : Database) {steps : List Step} {name : String}
    {tx : Transaction}
    (hopen : ((start db).runAll stamps steps).transactions.field? name = some tx) :
    ∃ first last, steps = first ++ .begin name :: last ∧
      (∀ step ∈ last, step.transaction? = some name → ∃ c, step = .within name c) ∧
      tx.IsOver db.model ((start db).runAll stamps first).db.tables := by
  induction steps using List.reverseRecOn generalizing tx with
  | nil => cases hopen
  | append_singleton steps step ih =>
    let s := (start db).runAll stamps steps
    have hrun : (s.run stamps step).2.transactions.field? name = some tx := by
      rw [runAll_append] at hopen
      exact hopen
    -- the transaction was begun before the step
    have hlater {tx₀ : Transaction} (hbefore : s.transactions.field? name = some tx₀)
        (hkeep : ∀ snapshot, tx₀.IsOver db.model snapshot → tx.IsOver db.model snapshot)
        (hcall : step.transaction? = some name → ∃ c, step = .within name c) :
        ∃ first last, steps ++ [step] = first ++ .begin name :: last ∧
          (∀ step ∈ last, step.transaction? = some name → ∃ c, step = .within name c) ∧
          tx.IsOver db.model ((start db).runAll stamps first).db.tables := by
      obtain ⟨first, last, hsplit, hlast, hover⟩ := ih hbefore
      refine ⟨first, last ++ [step], ?_, ?_, hkeep _ hover⟩
      · rw [hsplit, List.append_assoc, List.cons_append]
      · intro v hv
        rcases List.mem_append.1 hv with hv | hv
        · exact hlast v hv
        · rw [List.mem_singleton.1 hv]
          exact hcall
    rcases of_field?_run hrun with ⟨rfl, rfl⟩ | ⟨tx₀, c, rfl, hbefore, rfl⟩ | ⟨hname, hbefore⟩
    · exact ⟨steps, [], rfl, fun v hv => absurd hv List.not_mem_nil,
        Transaction.isOver_begin db.model s.db⟩
    · have hmodel : s.db.model = db.model := model_runAll stamps db steps
      refine hlater hbefore (fun snapshot hover => ?_) fun _ => ⟨c, rfl⟩
      rw [hmodel]
      exact hover.answers (tx₀.answers_answer stamps db.model s.taken c)
    · exact hlater hbefore (fun _ hover => hover) fun h => absurd h hname

end Session

/-! ## Commits -/

/-- A commit on the rows of the snapshot: it succeeds exactly if the last flush does, and the
    committed rows are then what the transaction has seen. -/
theorem Database.commit_of_isOver {db : Database} {tx : Transaction}
    (hover : tx.IsOver db.model db.tables) :
    db.commit tx = (tx.flush db.model).2.map fun () =>
      { db with tables := (tx.flush db.model).1.working } := by
  have hlog : applyAll db.model db.tables (tx.flush db.model).1.flushed =
      .ok (tx.flush db.model).1.working := hover.flush
  rw [commit]
  cases hf : tx.flush db.model with
  | mk tx' result =>
    rw [hf] at hlog
    cases result with
    | error failure => rfl
    | ok u =>
      simp only [hlog]
      rfl

/-- A commit in a session whose committed rows are those of the snapshot. -/
theorem Session.run_commit_of_isOver (stamps : Stamps) {s : Session} {name : String}
    {tx : Transaction} (hopen : s.transactions.field? name = some tx)
    (hover : tx.IsOver s.db.model s.db.tables) :
    ((s.run stamps (.commit name)).1 = .ok .done ↔ (tx.flush s.db.model).2 = .ok ()) ∧
      ((tx.flush s.db.model).2 = .ok () →
        (s.run stamps (.commit name)).2.db.tables = (tx.flush s.db.model).1.working) := by
  have hrun : s.run stamps (.commit name) = s.commit name tx := by
    simp only [run, hopen]
  rw [hrun, commit, Database.commit_of_isOver hover]
  cases (tx.flush s.db.model).2 with
  | ok u => exact ⟨⟨fun _ => rfl, fun _ => rfl⟩, fun _ => rfl⟩
  | error failure =>
    refine ⟨⟨fun h => ?_, fun h => ?_⟩, fun h => ?_⟩
    · cases h
    · cases h
    · cases h

/-- The tables of a transaction are its log over its snapshot. A transaction that is open after
    steps of a session was begun by one of them, and since then its name was used for calls in it
    only. Its tables are its flushed log, applied to the committed rows as they were when it began,
    whatever was called and whichever flushes failed; and a flush that fails has applied and logged
    exactly the writes before the first that does not fit, and drops the others. So if the committed
    rows are still the same, as they are if there was neither a commit nor a seed since, then a
    commit succeeds exactly if its flush does, and the committed rows are then the transaction's. -/
theorem working_of_open (stamps : Stamps) (db : Database) (steps : List Session.Step)
    {name : String} {tx : Transaction}
    (hopen : ((Session.start db).runAll stamps steps).transactions.field? name = some tx) :
    let s := (Session.start db).runAll stamps steps
    ∃ first last, steps = first ++ .begin name :: last ∧
      (∀ step ∈ last, step.transaction? = some name → ∃ c, step = .within name c) ∧
      let snapshot := ((Session.start db).runAll stamps first).db.tables
      applyAll db.model snapshot tx.flushed = .ok tx.working ∧
      (∀ tx' failure, tx.flush db.model = (tx', .error failure) ↔
        ∃ before w rest t, tx.staged = before ++ w :: rest ∧
          applyAll db.model tx.working before = .ok t ∧ w.apply db.model t = .error failure ∧
          tx' = ⟨t, [], tx.flushed ++ before⟩) ∧
      ((∀ step ∈ last, step.writes = false) → s.db.tables = snapshot) ∧
      (s.db.tables = snapshot →
        ((s.run stamps (.commit name)).1 = .ok .done ↔ (tx.flush db.model).2 = .ok ()) ∧
        ((tx.flush db.model).2 = .ok () →
          (s.run stamps (.commit name)).2.db.tables = (tx.flush db.model).1.working)) := by
  intro s
  obtain ⟨first, last, hsplit, hlast, hover⟩ := Session.isOver_of_open stamps db hopen
  let begun := (Session.start db).runAll stamps first
  have hmodel : s.db.model = db.model := Session.model_runAll stamps db steps
  refine ⟨first, last, hsplit, hlast, hover, fun _ _ => Transaction.flush_eq_error_iff, ?_, ?_⟩
  · intro hquiet
    have hs : s = (begun.run stamps (.begin name)).2.runAll stamps last := by
      show (Session.start db).runAll stamps steps = _
      rw [hsplit, Session.runAll_append]
      rfl
    rw [hs, Session.db_runAll_of_not_writes stamps _ hquiet]
    rfl
  · intro hsame
    have hover' : tx.IsOver s.db.model s.db.tables := by
      rw [hmodel, hsame]
      exact hover
    have hcommit := Session.run_commit_of_isOver stamps hopen hover'
    rw [hmodel] at hcommit
    exact hcommit

/-! ## A flush that fails in the middle -/

namespace HalfFlushed

/-- The world supplies the same stamp at all times. -/
def stamps : Stamps := fun _ => ⟨"now", "fresh"⟩

/-- A note is seeded. A transaction adds three, the second of which has the key of the seeded one,
    so that the flush fails at it; then it changes the first. -/
def steps : List Session.Step :=
  [.seed "note" [note "1" "seeded"], .begin "t",
    .within "t" (.persist noteEntity (note "2" "first") .insert),
    .within "t" (.persist noteEntity (note "1" "second") .insert),
    .within "t" (.persist noteEntity (note "3" "third") .insert),
    .within "t" .flush,
    .within "t" (.persist noteEntity (note "2" "later") .update)]

/-- The session after these steps. -/
def session : Session := (Session.start (.create ⟨[noteEntity], []⟩)).runAll stamps steps

/-- The transaction after these steps. -/
def transaction : Transaction := (session.transactions.field? "t").getD (.start .empty)

/-- The transaction began after the seed, and nothing is seeded or committed since. -/
theorem writes_eq_false {first last : List Session.Step} (h : steps = first ++ .begin "t" :: last) :
    ∀ step ∈ last, step.writes = false := by
  cases first with
  | nil => cases h
  | cons seed first =>
    obtain ⟨-, htail⟩ := List.cons.inj h
    have hquiet : ∀ step ∈ steps.tail, step.writes = false := by simp [steps, Session.Step.writes]
    intro step hstep
    refine hquiet step ?_
    rw [show steps.tail = first ++ .begin "t" :: last from htail]
    exact List.mem_append_right _ (List.mem_cons_of_mem _ hstep)

end HalfFlushed

/-- The first of the notes was applied and logged and the last one is lost; the commit succeeds. -/
theorem working_of_open_halfFlushed :
    let s := HalfFlushed.session
    let tx := HalfFlushed.transaction
    tx.flushed = [.insert "note" ⟨["2"]⟩ (note "2" "first")] ∧
      tx.working.rows "note" = [note "1" "seeded", note "2" "first"] ∧
      (s.run HalfFlushed.stamps (.commit "t")).1 = .ok .done ∧
      (s.run HalfFlushed.stamps (.commit "t")).2.db.rows "note" =
        [note "1" "seeded", note "2" "later"] := by
  intro s tx
  have hopen : s.transactions.field? "t" = some tx := by rfl
  obtain ⟨first, last, hsplit, -, -, -, hsame, hcommit⟩ :=
    working_of_open HalfFlushed.stamps (.create ⟨[noteEntity], []⟩) HalfFlushed.steps hopen
  obtain ⟨hdone, htables⟩ := hcommit (hsame (HalfFlushed.writes_eq_false hsplit))
  have hflush : (tx.flush ⟨[noteEntity], []⟩).2 = .ok () := by rfl
  refine ⟨by decide +kernel, by decide +kernel, hdone.2 hflush, ?_⟩
  rw [Database.rows,
    show (s.run HalfFlushed.stamps (.commit "t")).2.db.tables = _ from htables hflush]
  decide +kernel

end Depot
