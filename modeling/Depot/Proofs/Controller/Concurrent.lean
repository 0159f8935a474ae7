import Depot.Proofs.Controller.Transactions
import Depot.Proofs.Store.Defaults
import Depot.Proofs.Store.Replay

/-!
# Requests in a session

A request works in a session under a name of its own. Before each of its calls others may take any
steps but those of its transaction, so that the steps of many requests come in any order. The work
of a request is then work by itself, on the rows as they were when its transaction began: others
neither see the transaction nor change it. Only the stamps are other ones, since others take stamps
from the same supply.

* `Session.after`, `Session.history`: the session on a model after steps, and the blocks so far.
* `Session.client`: a session as it is seen from one of its transactions.
* `Program.IsServed`: a request that succeeds in a session.

Results:
* `client_run_step`, `run_step_of_ok`: a call does in a session what it does for a client.
* `answer_restamp`: calls are answered alike at other times.
* `works_of_returns_within`: work in a session is work by itself.
* `of_isServed_commit`: a request that succeeds has added the log of its work as a block.
-/

namespace Depot

namespace Session

/-- The session on a model after steps. -/
def after (m : Model) (stamps : Stamps) (steps : List Step) : Session :=
  (start (.create m)).runAll stamps steps

/-- What steps have applied to the committed rows of a session on a model: the blocks in their
    order. -/
def history (m : Model) (stamps : Stamps) (steps : List Step) : List Block :=
  ((Journal.start (.create m)).runAll stamps steps).blocks

/-- A session as it is seen from the transaction of a name. -/
def client (s : Session) (name : String) : Client :=
  ⟨s.db, s.transactions.field? name, s.taken⟩

end Session

/-- A call on the store as a step, with a transaction under a name. -/
def StoreCall.step (name : String) : StoreCall → Session.Step
  | .begin => .begin name
  | .commit => .commit name
  | .ping => .ping
  | .within c => .within name c

/-- What a session says to a call that is answered. -/
def StoreCall.answer : (call : StoreCall) → call.Reply → Session.Answer
  | .within c, reply => .reply c reply
  | .begin, _ | .commit, _ | .ping, _ => .done

/-- The answer to a call of a request under a name, after the steps that were taken so far and those
    that others take before the call. -/
def Session.answer (m : Model) (stamps : Stamps) (name : String)
    (others : List Step → List Step) (call : StoreCall) (steps : List Step) :
    Except StoreError call.Reply × List Step :=
  let before := steps ++ others steps
  ((Client.answer stamps call ((after m stamps before).client name)).1,
    before ++ [call.step name])

/-- A request succeeds in a session on a model. It works under a name that no one else uses
    meanwhile; `first` are the steps before its first call, and `last` those up to its last one. -/
def Program.IsServed {α : Type} (p : Program .store α) (m : Model) (stamps : Stamps)
    (name : String) (first : List Session.Step) (a : α) (last : List Session.Step) : Prop :=
  ∃ others : List Session.Step → List Session.Step,
    (∀ steps, ∀ step ∈ others steps, step.transaction? ≠ some name) ∧
      p.Returns (Session.answer m stamps name others) first a last

/-! ## Steps of one transaction -/

namespace Session

variable {m : Model} {stamps : Stamps} {s : Session} {name : String}

theorem after_append (m : Model) (stamps : Stamps) (steps more : List Step) :
    after m stamps (steps ++ more) = (after m stamps steps).runAll stamps more :=
  runAll_append stamps _ steps more

theorem model_after (m : Model) (stamps : Stamps) (steps : List Step) :
    (after m stamps steps).db.model = m :=
  model_runAll stamps (.create m) steps

theorem history_prefix {steps last : List Step} (h : steps <+: last) :
    history m stamps steps <+: history m stamps last := by
  obtain ⟨more, rfl⟩ := h
  rw [history, history, Journal.runAll_append]
  exact Journal.prefix_blocks_runAll stamps _ more

/-- A step leaves the session to its transaction as the call leaves the client. -/
theorem client_run_step (stamps : Stamps) (s : Session) (name : String) (call : StoreCall) :
    (s.run stamps (call.step name)).2.client name =
      (Client.answer stamps call (s.client name)).2 := by
  cases call with
  | begin => simp [StoreCall.step, run, client, Client.answer, Fields.field?_put]
  | ping => rfl
  | commit =>
    simp only [StoreCall.step, run, client, Client.answer]
    cases htx : s.transactions.field? name with
    | none => simp [htx]
    | some tx =>
      simp only [commit]
      cases s.db.commit tx with
      | ok db => simp [close, Client.drop, Fields.field?_without]
      | error failure => simp [close, Client.drop, Fields.field?_without]
  | within c =>
    simp only [StoreCall.step, run, client, Client.answer]
    cases htx : s.transactions.field? name with
    | none => simp [htx]
    | some tx => simp [call, Fields.field?_put]

/-- A call that succeeds is what the session answers to the step. -/
theorem run_step_of_ok (stamps : Stamps) (s : Session) (name : String) (call : StoreCall)
    {reply : call.Reply} (h : (Client.answer stamps call (s.client name)).1 = .ok reply) :
    (s.run stamps (call.step name)).1 = .ok (call.answer reply) := by
  cases call with
  | begin => rfl
  | ping => rfl
  | commit =>
    simp only [StoreCall.step, run, client, Client.answer] at h ⊢
    cases htx : s.transactions.field? name with
    | none => rw [htx] at h; cases h
    | some tx =>
      rw [htx] at h
      simp only [commit]
      cases hc : s.db.commit tx with
      | ok db => rfl
      | error failure => simp only [hc] at h; cases h
  | within c =>
    simp only [StoreCall.step, run, client, Client.answer] at h ⊢
    cases htx : s.transactions.field? name with
    | none => rw [htx] at h; cases h
    | some tx =>
      rw [htx] at h
      simp only [call, StoreCall.answer]
      exact congrArg (outcome (.reply c)) h

end Session

/-! ## Work among others -/

/-- A call is answered alike whatever the stamps are, unless it takes one. -/
theorem Transaction.answer_restamp (stamps : Stamps) (m : Model) (tx : Transaction) (taken : Nat)
    (c : TransactionCall) :
    let answered := tx.answer stamps m taken c
    (∀ stamps' k, tx.answer stamps' m k c = (answered.1, answered.2.1, k)) ∨
      ∀ (stamps' : Stamps) (k : Nat), stamps' k = stamps taken →
        tx.answer stamps' m k c = (answered.1, answered.2.1, k + 1) := by
  intro answered
  cases c with
  | findOne e s populate => exact .inl fun _ _ => rfl
  | findPage e s options => exact .inl fun _ _ => rfl
  | remove e r =>
    refine .inl fun stamps' k => ?_
    simp only [answered, answer]
    cases tx.remove e r with
    | ok tx' => rfl
    | error failure => rfl
  | flush => exact .inl fun _ _ => rfl
  | persist e r mode =>
    cases hp : tx.persist e r mode (stamps taken) with
    | ok result =>
      refine .inr fun stamps' k hstamp => ?_
      simp only [answered, answer, hstamp, hp]
    | error failure =>
      refine .inl fun stamps' k => ?_
      simp only [answered, answer, hp, persist_error_restamp hp (stamps' k)]

section

variable {α : Type} {m : Model} {stamps : Stamps} {name : String}
  {others : List Session.Step → List Session.Step} {steps last : List Session.Step}

/-- The transaction of a request, when others have taken their steps before a call. -/
theorem Session.transaction_before
    (hothers : ∀ steps, ∀ step ∈ others steps, step.transaction? ≠ some name)
    (steps : List Session.Step) :
    ((after m stamps (steps ++ others steps)).client name).transaction =
      (after m stamps steps).transactions.field? name := by
  rw [after_append]
  exact field?_runAll_of_ne (hothers steps)

/-- A call in the transaction of a request is answered by the transaction as it was left, and
    leaves it under the name of the request. -/
theorem Session.answer_within
    (hothers : ∀ steps, ∀ step ∈ others steps, step.transaction? ≠ some name) {tx : Transaction}
    (hopen : (after m stamps steps).transactions.field? name = some tx) (c : TransactionCall) :
    ∃ taken steps', answer m stamps name others (.within c) steps =
        ((tx.answer stamps m taken c).1, steps') ∧
      (after m stamps steps').transactions.field? name =
        some (tx.answer stamps m taken c).2.1 := by
  let before := steps ++ others steps
  have htx : ((after m stamps before).client name).transaction = some tx :=
    (transaction_before hothers steps).trans hopen
  have hmodel : ((after m stamps before).client name).db.model = m := model_after m stamps before
  have hclient := client_run_step stamps (after m stamps before) name (.within c)
  refine ⟨(after m stamps before).taken, before ++ [.within name c], ?_, ?_⟩
  · show ((Client.answer stamps (.within c) ((after m stamps before).client name)).1, _) = _
    simp only [Client.answer, htx, hmodel]
    rfl
  · rw [after_append]
    refine (congrArg Client.transaction hclient).trans ?_
    simp only [Client.answer, htx, hmodel]
    rfl

/-- The run lemma: a program within a transaction of a session runs as it does by itself, with
    stamps of its own that are chosen call by call. The induction is on its tree of calls. -/
theorem works_of_returns_within
    (hothers : ∀ steps, ∀ step ∈ others steps, step.transaction? ≠ some name)
    {p : Program .transaction α} {a : α} {tx : Transaction}
    (hopen : (Session.after m stamps steps).transactions.field? name = some tx)
    (h : p.within.Returns (Session.answer m stamps name others) steps a last) (k : Nat) :
    ∃ (own : Stamps) (tx' : Transaction) (k' : Nat),
      (Session.after m stamps last).transactions.field? name = some tx' ∧
        ∀ stamps' : Stamps, (∀ n, k ≤ n → stamps' n = own n) →
          p.Works stamps' m (tx, k) a (tx', k') := by
  induction p generalizing steps tx k with
  | done result =>
    obtain ⟨hresult, rfl⟩ := Program.returns_done_iff.1 h
    exact ⟨stamps, tx, k, hopen, fun _ _ => ⟨hresult, rfl⟩⟩
  | note text next ih => exact ih hopen h k
  | call c next ih =>
    obtain ⟨taken, steps', hanswer, hnext⟩ := Session.answer_within hothers hopen c
    let answer := Session.answer m stamps name others
    have hcall : (next ((answer (.within c) steps).1.map id)).within.Returns answer
        (answer (.within c) steps).2 a last := h
    rw [show answer (.within c) steps = _ from hanswer] at hcall
    have hrest : (next (tx.answer stamps m taken c).1).within.Returns answer steps' a last := by
      revert hcall
      cases (tx.answer stamps m taken c).1 with
      | ok reply => exact id
      | error failure => exact id
    rcases Transaction.answer_restamp stamps m tx taken c with hsame | htaken
    · obtain ⟨own, tx', k', hlast, hworks⟩ := ih _ hnext hrest k
      refine ⟨own, tx', k', hlast, fun stamps' hown => ?_⟩
      rw [Program.Works, Program.Returns, Program.run, Transaction.respond, hsame]
      exact hworks stamps' hown
    · obtain ⟨own, tx', k', hlast, hworks⟩ := ih _ hnext hrest (k + 1)
      refine ⟨fun n => if n = k then stamps taken else own n, tx', k', hlast, ?_⟩
      intro stamps' hown
      have hfirst : stamps' k = stamps taken := (hown k (Nat.le_refl k)).trans (if_pos rfl)
      rw [Program.Works, Program.Returns, Program.run, Transaction.respond,
        htaken stamps' k hfirst]
      apply hworks
      intro n hn
      exact (hown n (Nat.le_of_succ_le hn)).trans (if_neg (Nat.ne_of_gt hn))

/-- A request that is committed: its work is done by itself on the rows as they were when its
    transaction began, and its last call adds the log of the work to what is applied. -/
theorem of_isServed_commit {c : Controller} {work : Program .transaction α}
    {first : List Session.Step} {a : α}
    (h : (c.commit work).IsServed m stamps name first a last) :
    ∃ (db : Database) (own : Stamps) (w : Transaction × Nat) (before : List Session.Step)
      (calls : List Exchange), db.model = m ∧ work.Works own m (db.begin, 0) a w ∧
        last = before ++ [.commit name] ∧
        Session.history m stamps last =
          Session.history m stamps before ++ [.commit calls w.1.log] := by
  obtain ⟨others, hothers, h⟩ := h
  obtain ⟨b, steps₁, hwork, h⟩ := Program.returns_bind_iff.1 h
  obtain ⟨u, steps₂, hcommit, h⟩ := Program.returns_bind_iff.1 h
  obtain ⟨rfl, rfl⟩ := Program.returns_pure_iff.1 h
  obtain ⟨u', steps₀, hbegin, hwork⟩ := Program.returns_bind_iff.1 hwork
  rw [Controller.onStore, Program.ask, Program.returns_askWith_iff] at hbegin hcommit
  -- the transaction begins on the rows as others have left them by then
  let start := first ++ others first
  obtain rfl : start ++ [.begin name] = steps₀ := congrArg Prod.snd hbegin
  have hopen : (Session.after m stamps (start ++ [.begin name])).transactions.field? name =
      some (Session.after m stamps start).db.begin := by
    rw [Session.after_append]
    exact (Fields.field?_put ..).trans (if_pos rfl)
  obtain ⟨own, tx, k, hend, hworks⟩ := works_of_returns_within hothers hopen hwork 0
  -- it is committed as it was left
  let before := steps₁ ++ others steps₁
  obtain rfl : before ++ [.commit name] = steps₂ := congrArg Prod.snd hcommit
  have htx : (Session.after m stamps before).transactions.field? name = some tx :=
    (Session.transaction_before hothers steps₁).trans hend
  obtain ⟨db', hdb'⟩ : ∃ db', (Session.after m stamps before).db.commit tx = .ok db' := by
    have hreply := congrArg Prod.fst hcommit
    change (Client.answer stamps .commit ((Session.after m stamps before).client name)).1 = _
      at hreply
    simp only [Client.answer, Session.client, htx] at hreply
    cases hc : (Session.after m stamps before).db.commit tx with
    | ok db' => exact ⟨db', rfl⟩
    | error failure => rw [hc] at hreply; cases hreply
  let j := (Journal.start (.create m)).runAll stamps before
  have hsession : j.session = Session.after m stamps before := Journal.session_runAll stamps _ _
  refine ⟨(Session.after m stamps start).db, own, (tx, k), before, j.calls name,
    Session.model_after m stamps start, hworks own fun _ _ => rfl, rfl, ?_⟩
  rw [Session.history, Journal.runAll_append]
  show j.blocks ++ j.blockOf stamps (.commit name) = _
  rw [Journal.blockOf_commit stamps (hsession ▸ htx) (hsession ▸ hdb')]
  rfl

end

end Depot
