import Depot.Proofs.Store.Staging

/-!
# Serial replay

Any number of transactions work on one database at the same time, and rows are seeded beside
them. The committed rows are nevertheless those of a serial history: a list of blocks, one for
each seed and one for each commit that succeeds, applied one after the other. The block of a
commit is the whole log of its transaction.

A `Journal` is a session with what can be seen of it: the calls that were made in each open
transaction with their outcomes, and the blocks so far.

Results:
* `applyAll_seeded`: a seed changes the committed rows by its insertions.
* `faithful_run`: what one step keeps of a journal.
* `replay_runAll`: the committed rows of a session are the replay of its blocks, and the log of a
  transaction without failed flush is what its calls staged, in their order.
-/

namespace Depot

/-! ## Seeds -/

/-- The insertions of rows, up to the first row without a key. -/
def seedLog (e : Entity) : List Record → List Write
  | [] => []
  | row :: rest =>
    match e.key? row with
    | none => []
    | some key => .insert e.name key row :: seedLog e rest

theorem exists_of_mem_seedLog {e : Entity} {rows : List Record} {w : Write}
    (hw : w ∈ seedLog e rows) :
    ∃ row key, row ∈ rows ∧ e.key? row = some key ∧ w = .insert e.name key row := by
  induction rows with
  | nil => cases hw
  | cons row rest ih =>
    rw [seedLog] at hw
    cases hkey : e.key? row with
    | none => rw [hkey] at hw; cases hw
    | some key =>
      rw [hkey] at hw
      rcases List.mem_cons.1 hw with rfl | hw
      · exact ⟨row, key, List.mem_cons_self, hkey, rfl⟩
      · obtain ⟨r, k, hr, hk, rfl⟩ := ih hw
        exact ⟨r, k, List.mem_cons_of_mem _ hr, hk, rfl⟩

namespace Database

/-- The insertions that a seed makes, up to the first that does not fit. -/
def seeded (db : Database) (entity : String) (rows : List Record) : List Write :=
  match db.model.entity? entity with
  | none => []
  | some e => (applyPrefix db.model db.tables (seedLog e rows)).writes

/-- What a seed inserts are its rows, each under its key. -/
theorem exists_of_mem_seeded {db : Database} {entity : String} {rows : List Record} {w : Write}
    (hw : w ∈ db.seeded entity rows) :
    ∃ e row key, db.model.entity? entity = some e ∧ row ∈ rows ∧ e.key? row = some key ∧
      w = .insert e.name key row := by
  rw [seeded] at hw
  cases he : db.model.entity? entity with
  | none => rw [he] at hw; cases hw
  | some e =>
    rw [he] at hw
    obtain ⟨row, key, hrow, hkey, rfl⟩ := exists_of_mem_seedLog (mem_writes_applyPrefix w hw)
    exact ⟨e, row, key, rfl, hrow, hkey, rfl⟩

theorem seedRows_tables (m : Model) (e : Entity) (t : Tables) (rows : List Record) :
    (seedRows m e t rows).1 = (applyPrefix m t (seedLog e rows)).tables := by
  induction rows generalizing t with
  | nil => rfl
  | cons row rest ih =>
    simp only [seedRows, seedRow, seedLog]
    cases e.key? row with
    | none => rfl
    | some key =>
      simp only [applyPrefix]
      cases (Write.insert e.name key row).apply m t with
      | error failure => rfl
      | ok t => exact ih t

theorem applyAll_seeded (db : Database) (entity : String) (rows : List Record) :
    applyAll db.model db.tables (db.seeded entity rows) = .ok (db.seed entity rows).1.tables := by
  simp only [seeded, seed]
  cases db.model.entity? entity with
  | none => rfl
  | some e =>
    simp only [seedRows_tables]
    exact applyAll_applied db.model db.tables (seedLog e rows)

theorem model_seed (db : Database) (entity : String) (rows : List Record) :
    (db.seed entity rows).1.model = db.model := by
  simp only [seed]
  split <;> rfl

theorem model_commit {db db' : Database} {tx : Transaction} (h : db.commit tx = .ok db') :
    db'.model = db.model := by
  simp only [commit] at h
  split at h
  · cases h
  · obtain ⟨tables, -, rfl⟩ := map_eq_ok_iff.1 h
    rfl

/-- The flush of a commit that succeeds has left nothing behind. -/
theorem flushed_commit {db db' : Database} {tx : Transaction} (h : db.commit tx = .ok db') :
    (tx.flush db.model).1.flushed = tx.log := by
  simp only [commit] at h
  split at h
  · cases h
  · rename_i tx' hf
    have hok : (tx.flush db.model).2 = .ok () := by rw [hf]
    obtain ⟨t, -, htx⟩ := Transaction.flush_eq_ok hok
    rw [htx]
    rfl

end Database

/-! ## Journals -/

/-- What changes the committed rows at once: the rows of a seed, or the log of a transaction,
    which comes with the calls that were made in it. -/
inductive Block
  | seed (log : List Write)
  | commit (calls : List Exchange) (log : List Write)

/-- The writes of a block. -/
def Block.log : Block → List Write
  | .seed log => log
  | .commit _ log => log

/-- A session, the calls of its open transactions since they were begun, and the blocks that were
    applied to the committed rows. -/
structure Journal where
  session : Session
  calls : String → List Exchange
  blocks : List Block

namespace Journal

/-- A journal in which nothing has happened yet. -/
def start (db : Database) : Journal := ⟨.start db, fun _ => [], []⟩

/-- Calls with other ones for a name. -/
def record (calls : String → List Exchange) (name : String) (xs : List Exchange) :
    String → List Exchange :=
  fun n => if n = name then xs else calls n

/-- The calls of the open transactions after a step. -/
def callsAfter (stamps : Stamps) (j : Journal) : Session.Step → String → List Exchange
  | .begin name => record j.calls name []
  | .within name c =>
    match j.session.transactions.field? name with
    | none => j.calls
    | some tx =>
      let reply := (tx.answer stamps j.session.db.model j.session.taken c).1
      record j.calls name (j.calls name ++ [⟨c, reply⟩])
  | _ => j.calls

/-- The block that a step applies: a seed applies what it inserts, and a commit that returns
    without failure the log of its transaction after the last flush. -/
def blockOf (stamps : Stamps) (j : Journal) : Session.Step → List Block
  | .seed entity rows => [.seed (j.session.db.seeded entity rows)]
  | .commit name =>
    match j.session.transactions.field? name, (j.session.run stamps (.commit name)).1 with
    | some tx, .ok _ => [.commit (j.calls name) (tx.flush j.session.db.model).1.flushed]
    | _, _ => []
  | _ => []

/-- The journal after a step. -/
def run (stamps : Stamps) (j : Journal) (step : Session.Step) : Journal :=
  ⟨(j.session.run stamps step).2, j.callsAfter stamps step, j.blocks ++ j.blockOf stamps step⟩

/-- The journal after steps. -/
def runAll (stamps : Stamps) (j : Journal) (steps : List Session.Step) : Journal :=
  steps.foldl (run stamps) j

/-- Keeping a journal does not disturb the session. -/
theorem session_runAll (stamps : Stamps) (j : Journal) (steps : List Session.Step) :
    (j.runAll stamps steps).session = j.session.runAll stamps steps := by
  induction steps generalizing j with
  | nil => rfl
  | cons step steps ih => exact ih (j.run stamps step)

theorem runAll_append (stamps : Stamps) (j : Journal) (first more : List Session.Step) :
    j.runAll stamps (first ++ more) = (j.runAll stamps first).runAll stamps more :=
  List.foldl_append

/-- Blocks stay. -/
theorem prefix_blocks_runAll (stamps : Stamps) (j : Journal) (steps : List Session.Step) :
    j.blocks <+: (j.runAll stamps steps).blocks := by
  induction steps generalizing j with
  | nil => exact List.prefix_rfl
  | cons step steps ih => exact (List.prefix_append _ _).trans (ih (j.run stamps step))

/-! ## What a journal says -/

/-- The writes that calls staged, in their order. -/
def written (calls : List Exchange) : List Write := calls.filterMap Exchange.write?

/-- No call was a flush that failed. -/
def NoFailedFlush (calls : List Exchange) : Prop := ∀ x ∈ calls, x.isFailedFlush = false

/-- A journal tells the truth about a session that started from a database: the committed rows are
    the replay of the blocks, and transactions without failed flush hold what their calls
    staged. -/
structure Faithful (db : Database) (j : Journal) : Prop where
  model : j.session.db.model = db.model
  replay : applyAll db.model db.tables (j.blocks.flatMap Block.log) = .ok j.session.db.tables
  isOpen : ∀ name tx, j.session.transactions.field? name = some tx →
    NoFailedFlush (j.calls name) → tx.log = written (j.calls name)
  committed : ∀ calls log, Block.commit calls log ∈ j.blocks →
    NoFailedFlush calls → log = written calls

variable {db : Database} {j : Journal}

theorem faithful_start (db : Database) : Faithful db (start db) where
  model := rfl
  replay := rfl
  isOpen := by
    intro name tx h
    cases h
  committed := by
    intro calls log h
    cases h

/-- A step that leaves the committed rows as they are and applies no block. -/
theorem Faithful.of_quiet {s : Session} {calls : String → List Exchange} (h : Faithful db j)
    (hdb : s.db = j.session.db)
    (hopen : ∀ name tx, s.transactions.field? name = some tx →
      NoFailedFlush (calls name) → tx.log = written (calls name)) :
    Faithful db ⟨s, calls, j.blocks ++ []⟩ where
  model := by
    show s.db.model = db.model
    rw [hdb]
    exact h.model
  replay := by
    show applyAll _ _ ((j.blocks ++ []).flatMap Block.log) = .ok s.db.tables
    rw [List.append_nil, hdb]
    exact h.replay
  isOpen := hopen
  committed := by
    show ∀ calls log, Block.commit calls log ∈ j.blocks ++ [] → _
    rw [List.append_nil]
    exact h.committed

/-- A step that applies a block. -/
theorem Faithful.of_block {s : Session} {calls : String → List Exchange} {b : Block}
    (h : Faithful db j) (hmodel : s.db.model = j.session.db.model)
    (happly : applyAll j.session.db.model j.session.db.tables b.log = .ok s.db.tables)
    (hopen : ∀ name tx, s.transactions.field? name = some tx →
      NoFailedFlush (calls name) → tx.log = written (calls name))
    (hblock : ∀ calls log, b = .commit calls log → NoFailedFlush calls → log = written calls) :
    Faithful db ⟨s, calls, j.blocks ++ [b]⟩ where
  model := hmodel.trans h.model
  replay := by
    rw [List.flatMap_append, applyAll_append, h.replay, List.flatMap_singleton, ← h.model]
    exact happly
  isOpen := hopen
  committed := by
    intro cs log hm
    rcases List.mem_append.1 hm with hm | hm
    · exact h.committed cs log hm
    · exact hblock cs log (List.mem_singleton.1 hm).symm

/-- Closing a transaction leaves the others as they are. -/
theorem Faithful.isOpen_close (h : Faithful db j) (name : String) :
    ∀ n tx, (j.session.close name).transactions.field? n = some tx →
      NoFailedFlush (j.calls n) → tx.log = written (j.calls n) :=
  fun n tx htx => h.isOpen n tx (Session.of_field?_close htx).2

/-- Putting a transaction under a name, with its calls. -/
theorem Faithful.isOpen_put (h : Faithful db j) (name : String) {tx : Transaction}
    {xs : List Exchange} (htx : NoFailedFlush xs → tx.log = written xs) :
    ∀ n t, (j.session.transactions.put name tx).field? n = some t →
      NoFailedFlush (record j.calls name xs n) → t.log = written (record j.calls name xs n) := by
  intro n t ht
  rcases Session.of_field?_put ht with ⟨rfl, rfl⟩ | ⟨hn, ht⟩
  · rw [show record j.calls name xs name = xs from if_pos rfl]
    exact htx
  · rw [show record j.calls name xs n = j.calls n from if_neg (Ne.symm hn)]
    exact h.isOpen n t ht

theorem faithful_call (stamps : Stamps) (h : Faithful db j) {name : String} {tx : Transaction}
    (htx : j.session.transactions.field? name = some tx) (c : TransactionCall) :
    Faithful db (j.run stamps (.within name c)) := by
  have hrun : (j.session.run stamps (.within name c)).2 = (j.session.call stamps name tx c).2 := by
    simp only [Session.run, htx]
  have hcalls : j.callsAfter stamps (.within name c) = record j.calls name
      (j.calls name ++ [⟨c, (tx.answer stamps j.session.db.model j.session.taken c).1⟩]) := by
    simp only [callsAfter, htx]
  generalize hx : Exchange.mk c (tx.answer stamps j.session.db.model j.session.taken c).1 = x
    at hcalls
  have hlog : NoFailedFlush (j.calls name ++ [x]) →
      (tx.answer stamps j.session.db.model j.session.taken c).2.1.log =
        written (j.calls name ++ [x]) := by
    intro hno
    have hlast : x.isFailedFlush = false :=
      hno x (List.mem_append_right _ List.mem_cons_self)
    have hbefore : NoFailedFlush (j.calls name) := fun y hy => hno y (List.mem_append_left _ hy)
    subst hx
    rw [(tx.answers_answer stamps _ _ c).log hlast, h.isOpen name tx htx hbefore]
    show (j.calls name).filterMap Exchange.write? ++ _ = _
    rw [written, List.filterMap_append]
    cases hw : Exchange.write? ⟨c, (tx.answer stamps j.session.db.model j.session.taken c).1⟩ with
    | none => rw [List.filterMap_cons_none hw]; rfl
    | some w => rw [List.filterMap_cons_some hw]; rfl
  rw [run, hrun, hcalls]
  exact h.of_quiet rfl (h.isOpen_put name hlog)

/-- A commit that succeeds applies the log of its transaction. -/
theorem blockOf_commit (stamps : Stamps) {name : String} {tx : Transaction} {db' : Database}
    (htx : j.session.transactions.field? name = some tx)
    (hc : j.session.db.commit tx = .ok db') :
    j.blockOf stamps (.commit name) = [.commit (j.calls name) tx.log] := by
  have hrun : j.session.run stamps (.commit name) = j.session.commit name tx := by
    simp only [Session.run, htx]
  rw [← Database.flushed_commit hc]
  simp only [blockOf, hrun, Session.commit, htx, hc]

theorem faithful_commit (stamps : Stamps) (h : Faithful db j) {name : String} {tx : Transaction}
    (htx : j.session.transactions.field? name = some tx) :
    Faithful db (j.run stamps (.commit name)) := by
  have hrun : j.session.run stamps (.commit name) = j.session.commit name tx := by
    simp only [Session.run, htx]
  rw [run, hrun]
  cases hc : j.session.db.commit tx with
  | error failure =>
    have hb : j.blockOf stamps (.commit name) = [] := by
      simp only [blockOf, hrun, Session.commit, htx, hc]
    rw [hb]
    simp only [Session.commit, hc]
    exact h.of_quiet rfl (h.isOpen_close name)
  | ok db' =>
    rw [blockOf_commit stamps htx hc]
    simp only [Session.commit, hc]
    refine h.of_block (Database.model_commit hc) (Database.commit_tables hc)
      (h.isOpen_close name) ?_
    intro calls log hlog hno
    cases hlog
    exact h.isOpen name tx htx hno

theorem faithful_run (stamps : Stamps) (h : Faithful db j) (step : Session.Step) :
    Faithful db (j.run stamps step) := by
  cases step with
  | seed entity rows =>
    refine h.of_block (Database.model_seed _ entity rows)
      (Database.applyAll_seeded _ entity rows) h.isOpen ?_
    intro calls log hlog
    cases hlog
  | rows entity => exact h.of_quiet rfl h.isOpen
  | ping => exact h.of_quiet rfl h.isOpen
  | begin name => exact h.of_quiet rfl (h.isOpen_put name fun _ => rfl)
  | drop name => exact h.of_quiet rfl (h.isOpen_close name)
  | commit name =>
    cases htx : j.session.transactions.field? name with
    | some tx => exact faithful_commit stamps h htx
    | none =>
      simp only [run, Session.run, callsAfter, blockOf, htx]
      exact h.of_quiet rfl h.isOpen
  | within name c =>
    cases htx : j.session.transactions.field? name with
    | some tx => exact faithful_call stamps h htx c
    | none =>
      simp only [run, Session.run, callsAfter, blockOf, htx]
      exact h.of_quiet rfl h.isOpen

theorem faithful_runAll (stamps : Stamps) (h : Faithful db j) (steps : List Session.Step) :
    Faithful db (j.runAll stamps steps) := by
  induction steps generalizing j with
  | nil => exact h
  | cons step steps ih => exact ih (faithful_run stamps h step)

end Journal

/-- Steps leave the model as it is. -/
theorem Session.model_runAll (stamps : Stamps) (db : Database) (steps : List Session.Step) :
    ((start db).runAll stamps steps).db.model = db.model := by
  have h := (Journal.faithful_runAll stamps (Journal.faithful_start db) steps).model
  rw [Journal.session_runAll] at h
  exact h

/-- The committed rows of a session are those of a serial history. Whatever steps transactions
    take in whatever order, with seeds between them: applying the blocks of the session one after
    the other to the rows that it started from gives the committed rows. The blocks are the rows
    that seeds inserted and the logs of the transactions whose commits succeeded, and such a log
    holds the writes that the calls in its transaction staged, each once and in their order, if
    none of its flushes failed. -/
theorem replay_runAll (stamps : Stamps) (db : Database) (steps : List Session.Step) :
    let j := (Journal.start db).runAll stamps steps
    j.session = (Session.start db).runAll stamps steps ∧
      applyAll db.model db.tables (j.blocks.flatMap Block.log) = .ok j.session.db.tables ∧
      ∀ calls log, Block.commit calls log ∈ j.blocks →
        (∀ x ∈ calls, x.isFailedFlush = false) → log = calls.filterMap Exchange.write? := by
  have h := Journal.faithful_runAll stamps (Journal.faithful_start db) steps
  exact ⟨Journal.session_runAll stamps _ steps, h.replay, h.committed⟩

/-! ## Competing transactions -/

/-- An entity of notes under names. -/
def noteEntity : Entity :=
  ⟨"note", "public", "note", ["id"],
    [⟨"id", some .text, false, false, "text"⟩, ⟨"body", none, true, false, "text"⟩], [], []⟩

/-- A note. -/
def note (id body : String) : Record := [("body", .str body), ("id", .str id)]

/-- Two transactions write a note of one name, after another note was seeded. The first to commit
    succeeds, the other one does not. -/
def competingNotes : Journal :=
  (Journal.start (.create ⟨[noteEntity], []⟩)).runAll (fun _ => ⟨"now", "fresh"⟩)
    [.seed "note" [note "1" "seeded"], .begin "a", .begin "b",
      .within "a" (.persist noteEntity (note "2" "first") .insert),
      .within "b" (.persist noteEntity (note "2" "second") .insert),
      .within "b" .flush, .commit "a", .commit "b"]

theorem replay_competingNotes :
    let call : Exchange := ⟨.persist noteEntity (note "2" "first") .insert, .ok (note "2" "first")⟩
    let log := [Write.insert "note" ⟨["2"]⟩ (note "2" "first")]
    competingNotes.blocks =
        [.seed [.insert "note" ⟨["1"]⟩ (note "1" "seeded")], .commit [call] log] ∧
      log = [call].filterMap Exchange.write? ∧
      applyAll ⟨[noteEntity], []⟩ .empty (competingNotes.blocks.flatMap Block.log) =
        .ok competingNotes.session.db.tables ∧
      competingNotes.session.db.rows "note" = [note "1" "seeded", note "2" "first"] := by
  intro call log
  have hblocks : competingNotes.blocks =
      [.seed [.insert "note" ⟨["1"]⟩ (note "1" "seeded")], .commit [call] log] := rfl
  have hrows : competingNotes.session.db.rows "note" =
      [note "1" "seeded", note "2" "first"] := by decide +kernel
  obtain ⟨-, happly, hlogs⟩ :=
    replay_runAll (fun _ => ⟨"now", "fresh"⟩) (.create ⟨[noteEntity], []⟩)
      [.seed "note" [note "1" "seeded"], .begin "a", .begin "b",
        .within "a" (.persist noteEntity (note "2" "first") .insert),
        .within "b" (.persist noteEntity (note "2" "second") .insert),
        .within "b" .flush, .commit "a", .commit "b"]
  refine ⟨hblocks, hlogs [call] log ?_ ?_, happly, hrows⟩
  · show Block.commit [call] log ∈ competingNotes.blocks
    rw [hblocks]
    exact List.mem_cons_of_mem _ List.mem_cons_self
  · intro x hx
    rw [List.mem_singleton.1 hx]
    rfl

end Depot
