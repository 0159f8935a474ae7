import Depot.Proofs.Controller.Creations
import Depot.Proofs.Controller.Isolation
import Depot.Proofs.Store.Insertions

/-!
# Unique keys

Keys tell rows apart at every moment of a session, whatever transactions, requests and seeds it is
made of and in whatever order their steps come: the committed rows, and the rows that each open
transaction works on. Of transactions that insert rows under one key only the first to commit
succeeds, unless a row of that key is removed in between; and so it is with requests.

* `Session.Creates`: a request for a new instance that succeeds and inserts it under a key.

Results:
* `removed_between_creations`: between two creations under one key it is removed.
* `creates_of_isServed`: creations without hooks are under the key of what they return.
* `unique_keys_after`: all this of the entities of a resolved model.
-/

namespace Depot

section

variable {m : Model} {stamps : Stamps} {e : Entity} {key : RowKey}

/-- The last of the steps commits a request for a new instance of an entity, whatever its hooks.
    Its transaction has inserted a row under a key, between earlier and later writes. -/
def Session.Creates (m : Model) (stamps : Stamps) (e : Entity) (key : RowKey)
    (steps : List Step) (earlier later : List Write) : Prop :=
  ∃ (c : Controller) (r : Request) (name : String) (first : List Step) (out row : Record)
    (blocks : List Block) (calls : List Exchange), c.model = m ∧ c.entity = e ∧
      (c.createOne r).IsServed m stamps name first out steps ∧
      history m stamps steps =
        blocks ++ [.commit calls (earlier ++ .insert e.name key row :: later)]

/-- Between two creations under one key, a row of that key is removed: by one of them, after the
    first insertion or before the second one, or by a commit between theirs. -/
theorem removed_between_creations (htime : ∀ e ∈ m.entities, updatedAt ∉ e.primaryKey)
    {steps first last : List Session.Step} (hsteps : ∀ step ∈ steps, step.IsOn m)
    (he : m.entity? e.name = some e) (hfirst : first <+: last) (hne : first ≠ last)
    (hlast : last <+: steps) {earlier later earlier' later' : List Write}
    (hcreated : Session.Creates m stamps e key first earlier later)
    (hagain : Session.Creates m stamps e key last earlier' later') :
    ∃ between b, Session.history m stamps last =
        Session.history m stamps first ++ between ++ [b] ∧
      Write.remove e.name key ∈ later ++ between.flatMap Block.log ++ earlier' := by
  obtain ⟨_, _, _, _, _, row, blocks, calls, -, -, -, hhistory⟩ := hcreated
  obtain ⟨c, r, name, _, out, row', blocks', calls', -, -, hserved, hhistory'⟩ := hagain
  -- the second creation adds the last block, which the first one has not added
  obtain ⟨body, hcommit⟩ := Controller.isServed_commit_of_createOne hserved
  obtain ⟨_, _, _, before, _, -, -, rfl, hbefore⟩ := of_isServed_commit hcommit
  obtain ⟨rfl, -⟩ := List.append_inj' (hbefore.symm.trans hhistory') rfl
  have hprefix : first <+: before := by
    rcases List.prefix_concat_iff.1 hfirst with heq | hprefix
    · exact absurd heq hne
    · exact hprefix
  obtain ⟨between, hbetween⟩ : Session.history m stamps first <+: Session.history m stamps before :=
    Session.history_prefix hprefix
  rw [← hbetween] at hhistory'
  refine ⟨between, _, hhistory', ?_⟩
  obtain ⟨more, hmore⟩ : Session.history m stamps (before ++ [.commit name]) <+:
      Session.history m stamps steps := Session.history_prefix hlast
  have hwrites : (Session.history m stamps steps).flatMap Block.log =
      (blocks.flatMap Block.log ++ earlier) ++ Write.insert e.name key row ::
        ((later ++ between.flatMap Block.log ++ earlier') ++ Write.insert e.name key row' ::
          (later' ++ more.flatMap Block.log)) := by
    rw [← hmore, hhistory', hhistory]
    simp [Block.log]
  exact Journal.removed_between htime stamps hsteps he hwrites (Write.inserts_iff.2 ⟨row, rfl⟩)
    (Write.inserts_iff.2 ⟨row', rfl⟩)

/-- Without hooks, a creation that succeeds is one under the key of the instance that it returns,
    and makes no other writes but insertions. -/
theorem creates_of_isServed {c : Controller} (hc : c.IsPlain) {r : Request} {name : String}
    {first last : List Session.Step} {out : Record}
    (h : (c.createOne r).IsServed c.model stamps name first out last) :
    ∃ key later, c.entity.key? out = some key ∧
      Session.Creates c.model stamps c.entity key last [] later ∧ ∀ v ∈ later, v.IsInsert := by
  obtain ⟨key, row, later, blocks, calls, hkey, hhistory, hinserts⟩ :=
    Controller.of_isServed_createOne hc h
  exact ⟨key, later, hkey, ⟨c, r, name, first, out, row, blocks, calls, rfl, rfl, h, hhistory⟩,
    hinserts⟩

/-- Keys are unique in every session. Take the entities of a resolved model that keep the time of
    their last change out of their keys, and any steps of any transactions in any order, with seeds
    among them. Then the committed rows of every entity have complete keys, no two of them the same
    one, and so have the rows that each open transaction works on. Among the writes that seeds and
    commits have applied, in their order, two insertions under one key have a removal of that key
    between them: without it, one at most of the transactions that insert it commits. Requests for
    new instances are transactions like others: of two of them that succeed under one key, whatever
    their hooks, the second has such a removal between its insertion and that of the first. Without
    hooks, the key is that of the instance which is returned, and the request removes nothing. -/
theorem unique_keys_after {config : ModelConfig} (hm : config.resolve = .ok m)
    (htime : ∀ e ∈ m.entities, updatedAt ∉ e.primaryKey) (stamps : Stamps)
    {steps : List Session.Step} (hsteps : ∀ step ∈ steps, step.IsOn m) :
    let s := Session.after m stamps steps
    let history := Session.history m stamps
    (∀ e ∈ m.entities, e.IsKeyed (s.db.rows e.name) ∧
      (∀ name tx, s.transactions.field? name = some tx → e.IsKeyed (tx.working.rows e.name)) ∧
      ∀ key,
        (∀ before v between w after,
          (history steps).flatMap Block.log = before ++ v :: (between ++ w :: after) →
          v.inserts e.name key = true → w.inserts e.name key = true →
          Write.remove e.name key ∈ between) ∧
        ∀ first last earlier later earlier' later', first <+: last → first ≠ last →
          last <+: steps → Session.Creates m stamps e key first earlier later →
          Session.Creates m stamps e key last earlier' later' →
          ∃ between b, history last = history first ++ between ++ [b] ∧
            Write.remove e.name key ∈ later ++ between.flatMap Block.log ++ earlier') ∧
      ∀ resource entity o c, Controller.build m resource entity o = .ok c → o.hooks = .none →
        ∀ r name first out last, (c.createOne r).IsServed m stamps name first out last →
          ∃ key later, c.entity.key? out = some key ∧
            Session.Creates m stamps c.entity key last [] later ∧ ∀ v ∈ later, v.IsInsert := by
  have hsound : (Session.after m stamps steps).IsSound m :=
    Session.isSound_runAll (Session.isSound_start m) htime stamps hsteps
  refine ⟨fun e he => ?_, ?_⟩
  · have hentity := entity?_of_resolve hm he
    refine ⟨(hsound.tables e.name e hentity).1, ?_, fun key => ⟨?_, ?_⟩⟩
    · intro name tx htx
      exact ((hsound.transactions name tx htx).working e.name e hentity).1
    · intro before v between w after hwrites hv hw
      exact Journal.removed_between htime stamps hsteps hentity hwrites hv hw
    · intro first last earlier later earlier' later' hfirst hne hlast hcreated hagain
      exact removed_between_creations htime hsteps hentity hfirst hne hlast hcreated hagain
  · intro resource entity o c hc hooks r name first out last hserved
    have hplain := Controller.isPlain_of_build hm hc hooks
    obtain ⟨rfl, -, -⟩ := Controller.build_eq_ok hc
    exact creates_of_isServed hplain hserved

end

/-! ## Orders under one key -/

namespace Orders

/-- A request for a new order under a key. -/
def creation : Request := request "" [("id", .str "3")]

/-- The new order. -/
def created : Record := [("id", .str "3"), ("note", .null), ("tenant", .str "acme")]

/-- Another transaction begins while the first request works, to insert an order under its key. -/
def competing (steps : List Session.Step) : List Session.Step :=
  if steps.length = 1 then [.begin "b", .within "b" (.persist entity created .insert)] else []

/-- The steps of the first request with those of the other transaction among them. -/
def firstSteps : List Session.Step :=
  ((controller.createOne creation).run
    (Session.answer ⟨[entity], []⟩ stamps "a" competing) []).state

/-- After the first request, the other transaction commits too late, and the order is removed. -/
def removing (steps : List Session.Step) : List Session.Step :=
  if steps.length = 6 then
    [.commit "b", .begin "c", .within "c" (.remove entity created), .commit "c"]
  else []

/-- The steps up to the last one of a second request like the first. -/
def secondSteps : List Session.Step :=
  ((controller.createOne creation).run
    (Session.answer ⟨[entity], []⟩ stamps "d" removing) firstSteps).state

theorem firstSteps_eq : firstSteps =
    [.begin "a", .begin "b", .within "b" (.persist entity created .insert),
      .within "a" (.persist entity created .insert), .within "a" .flush, .commit "a"] := rfl

theorem secondSteps_eq : secondSteps =
    firstSteps ++ [.commit "b", .begin "c", .within "c" (.remove entity created), .commit "c",
      .begin "d", .within "d" (.persist entity created .insert), .within "d" .flush,
      .commit "d"] := rfl

theorem isServed_first :
    (controller.createOne creation).IsServed ⟨[entity], []⟩ stamps "a" [] created firstSteps := by
  refine ⟨competing, ?_, by decide +kernel, rfl⟩
  intro steps step hstep
  rw [competing] at hstep
  split at hstep
  · rcases List.mem_cons.1 hstep with rfl | hstep
    · decide
    · rw [List.mem_singleton.1 hstep]
      decide
  · cases hstep

theorem isServed_second :
    (controller.createOne creation).IsServed ⟨[entity], []⟩ stamps "d" firstSteps created
      secondSteps := by
  refine ⟨removing, ?_, by decide +kernel, rfl⟩
  intro steps step hstep
  rw [removing] at hstep
  split at hstep
  · simp only [List.mem_cons, List.not_mem_nil, or_false] at hstep
    rcases hstep with rfl | rfl | rfl | rfl
    · decide
    · decide
    · decide
    · decide
  · cases hstep

theorem sorted_created : created.Sorted := by
  rw [Fields.sorted_iff_keys]
  show ["id", "note", "tenant"].Pairwise (· < ·)
  decide

theorem isOn_secondSteps : ∀ step ∈ secondSteps, step.IsOn ⟨[entity], []⟩ := by
  have hinsert (name : String) :
      (Session.Step.within name (.persist entity created .insert)).IsOn ⟨[entity], []⟩ :=
    ⟨rfl, sorted_created⟩
  rw [secondSteps_eq, firstSteps_eq]
  intro step hstep
  cases step with
  | seed entity rows => simp at hstep
  | within name c =>
    simp only [List.cons_append, List.nil_append, List.mem_cons, reduceCtorEq, false_or,
      Session.Step.within.injEq, List.not_mem_nil, or_false] at hstep
    rcases hstep with ⟨rfl, rfl⟩ | ⟨rfl, rfl⟩ | ⟨rfl, rfl⟩ | ⟨rfl, rfl⟩ | ⟨rfl, rfl⟩ | ⟨rfl, rfl⟩
    · exact hinsert "b"
    · exact hinsert "a"
    · trivial
    · trivial
    · exact hinsert "d"
    · trivial
  | _ => trivial

end Orders

/-- An order is created twice under one key, and was removed in between. A transaction that began
    beside the first request to insert an order under this key has not committed. -/
theorem unique_keys_orders :
    let m : Model := ⟨[Orders.entity], []⟩
    let history := Session.history m Orders.stamps
    (Orders.controller.createOne Orders.creation).IsServed m Orders.stamps "a" [] Orders.created
        Orders.firstSteps ∧
      (Orders.controller.createOne Orders.creation).IsServed m Orders.stamps "d" Orders.firstSteps
        Orders.created Orders.secondSteps ∧
      (∃ between b, history Orders.secondSteps = history Orders.firstSteps ++ between ++ [b] ∧
        Write.remove "order" ⟨["3"]⟩ ∈ between.flatMap Block.log) ∧
      Orders.entity.IsKeyed
        ((Session.after m Orders.stamps Orders.secondSteps).db.rows "order") := by
  intro m history
  have htime : ∀ e ∈ m.entities, updatedAt ∉ e.primaryKey := by decide
  obtain ⟨hkeys, hcreates⟩ := unique_keys_after Orders.resolve_config htime Orders.stamps
    Orders.isOn_secondSteps
  have hcreated {name : String} {first last : List Session.Step}
      (h : (Orders.controller.createOne Orders.creation).IsServed m Orders.stamps name first
        Orders.created last) :
      ∃ later, Session.Creates m Orders.stamps Orders.entity ⟨["3"]⟩ last [] later ∧
        ∀ v ∈ later, v.IsInsert := by
    obtain ⟨key, later, hkey, hlast⟩ :=
      hcreates "order" "order" _ _ Orders.build_controller rfl _ _ _ _ _ h
    cases hkey
    exact ⟨later, hlast⟩
  obtain ⟨later, hfirst, hinserts⟩ := hcreated Orders.isServed_first
  obtain ⟨later', hsecond, -⟩ := hcreated Orders.isServed_second
  have hprefix : Orders.firstSteps <+: Orders.secondSteps := ⟨_, Orders.secondSteps_eq.symm⟩
  have hne : Orders.firstSteps ≠ Orders.secondSteps := fun h => by
    have hlength := congrArg List.length h
    revert hlength
    decide +kernel
  obtain ⟨hrows, -, hkey⟩ := hkeys Orders.entity List.mem_cons_self
  obtain ⟨between, b, hhistory, hremove⟩ :=
    (hkey ⟨["3"]⟩).2 _ _ _ _ _ _ hprefix hne List.prefix_rfl hfirst hsecond
  refine ⟨Orders.isServed_first, Orders.isServed_second, ⟨between, b, hhistory, ?_⟩, hrows⟩
  rw [List.append_nil] at hremove
  rcases List.mem_append.1 hremove with hremove | hremove
  · obtain ⟨_, _, _, hinsert⟩ := hinserts _ hremove
    cases hinsert
  · exact hremove

end Depot
