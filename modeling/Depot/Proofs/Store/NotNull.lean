import Depot.Proofs.Store.RowInvariants

/-!
# Columns that need a value

A column needs a value if it may not be null and has no default. A row that is inserted is checked
for one, and a row that is changed is not: the fields that it is changed by are laid over it as
they are. So rows stay filled exactly as long as no change gives such a column an explicit null.
The column of the last change is an exception, which the store writes itself.

* `Entity.IsFilled`: rows with a value in every column that needs one.
* `Entity.erases`: records that would take such a value away.
* `Session.erasesNone`: steps of which none changes a row by such a record.

Results:
* `isFilled_fillDefaults`: a row is inserted only if it is filled.
* `isFilled_touch_iff`: a change keeps a row filled exactly if it erases no value.
* `isFilled_saved_iff`: the same for what a step of a session saves.
* `allRows_runAll_iff`: the rows of a session and of all sessions on the way to it.
* `committed_isFilled`: the committed rows.
-/

namespace Depot

/-- Whether a column needs a value. -/
def Column.isRequired (c : Column) : Bool := !c.nullable && !c.hasDefault

namespace Entity

/-- A row has a value in every column that needs one. -/
def IsFilled (e : Entity) (row : Record) : Prop :=
  ∀ c ∈ e.columns, c.isRequired = true → (row.get c.name).isNull = false

/-- Whether a record has an explicit null in a column that needs a value and that the store does
    not write. -/
def erases (e : Entity) (r : Record) : Bool :=
  e.columns.any fun c => c.isRequired && c.name != updatedAt && r.field? c.name == some .null

end Entity

/-- The rows of a model's entities that are filled, by the names of the entities. -/
def Model.Fills (m : Model) (entity : String) (row : Record) : Prop :=
  ∀ e, m.entity? entity = some e → e.IsFilled row

/-! ## One row -/

variable {e : Entity} {r row current : Record} {stamp : Stamp}

theorem erases_eq_false_iff : e.erases r = false ↔
    ∀ c ∈ e.columns, c.isRequired = true → c.name ≠ updatedAt → r.field? c.name ≠ some .null := by
  rw [Entity.erases, List.any_eq_false]
  simp only [Bool.and_eq_true, bne_iff_ne, beq_iff_eq, not_and]
  constructor
  · intro h c hc hrequired hname
    exact h c hc ⟨hrequired, hname⟩
  · rintro h c hc ⟨hrequired, hname⟩
    exact h c hc hrequired hname

theorem isNull_iff {v : Json} : v.isNull = true ↔ v = .null := by
  cases v <;> simp [Json.isNull]

namespace Transaction

theorem isFilled_of_nullColumn? (h : nullColumn? e row = none) : e.IsFilled row := by
  intro c hc hrequired
  rw [nullColumn?, List.find?_eq_none] at h
  have hnull := h c hc
  rw [Column.isRequired] at hrequired
  rw [hrequired, Bool.true_and] at hnull
  exact Bool.eq_false_iff.2 hnull

theorem isFilled_fillDefaults {tx : Transaction} {out : Record}
    (h : tx.fillDefaults e stamp row = .ok out) : e.IsFilled out := by
  obtain ⟨keyed, -, -, hnull⟩ := fillDefaults_eq_ok h
  exact isFilled_of_nullColumn? hnull

theorem field?_columnFields {c : Column} (hc : c ∈ e.columns) (r : Record) :
    (e.columnFields r).field? c.name = r.field? c.name := by
  rw [Entity.columnFields, Fields.field?_restrict, if_pos (hasColumn_iff.2 ⟨c, hc, rfl⟩)]

/-- A field of a filled row is null after a change only if the change says so. -/
theorem isNull_get_touch {c : Column} (hc : c ∈ e.columns)
    (hcurrent : (current.get c.name).isNull = false) (hr : r.Sorted) :
    ((touch e stamp current (e.columnFields r)).get c.name).isNull = true ↔
      c.name ≠ updatedAt ∧ r.field? c.name = some .null := by
  by_cases hname : c.name = updatedAt
  · have hcolumn : e.hasColumn updatedAt = true := hasColumn_iff.2 ⟨c, hc, hname⟩
    have htouched : (touch e stamp current (e.columnFields r)).get c.name = .str stamp.now := by
      rw [touch, if_pos hcolumn, Record.get_put, if_pos hname.symm]
    rw [htouched]
    exact iff_of_false Bool.false_ne_true (fun h => h.1 hname)
  · have hrow : (e.columnFields r).Sorted := Fields.sorted_restrict hr _
    have htouched : (touch e stamp current (e.columnFields r)).field? c.name =
        (r.field? c.name).or (current.field? c.name) := by
      rw [field?_touch hrow hname, field?_columnFields hc]
    rw [Record.get, htouched]
    cases hv : r.field? c.name with
    | none =>
      rw [Option.none_or]
      exact iff_of_false (Bool.eq_false_iff.1 hcurrent) (fun h => by cases h.2)
    | some v =>
      rw [Option.some_or, Option.getD_some, isNull_iff, Option.some.injEq]
      exact (and_iff_right hname).symm

/-- A change keeps a row filled exactly if it erases none of its values. -/
theorem isFilled_touch_iff (stamp : Stamp) (hcurrent : e.IsFilled current) (hr : r.Sorted) :
    e.IsFilled (touch e stamp current (e.columnFields r)) ↔ e.erases r = false := by
  rw [erases_eq_false_iff, Entity.IsFilled]
  refine forall₂_congr fun c hc => forall_congr' fun hrequired => ?_
  rw [← Bool.not_eq_true, isNull_get_touch hc (hcurrent c hc hrequired) hr, not_and]

end Transaction

/-! ## Sessions -/

namespace Session

/-- Whether a step changes a row by a record that erases a value. -/
def Step.erases (stamps : Stamps) (s : Session) (step : Step) : Bool :=
  match step with
  | .within _ (.persist e r .update) => (step.saved? stamps s).isSome && e.erases r
  | _ => false

/-- Whether no step erases a value when its turn comes. -/
def erasesNone (stamps : Stamps) (s : Session) : List Step → Bool
  | [] => true
  | step :: steps => !step.erases stamps s && erasesNone stamps (s.run stamps step).2 steps

variable {m : Model} {s : Session}

theorem saved?_within {stamps : Stamps} {name : String} {mode : WriteMode} {x : String × Record}
    (h : Step.saved? stamps s (.within name (.persist e r mode)) = some x) :
    ∃ tx tx', s.transactions.field? name = some tx ∧
      tx.persist e r mode (stamps s.taken) = .ok (x.2, tx') ∧ x.1 = e.name := by
  simp only [Step.saved?, Option.bind_eq_bind, Option.bind_eq_some_iff] at h
  obtain ⟨tx, htx, ⟨saved, tx'⟩, hsaved, hx⟩ := h
  cases hx
  refine ⟨tx, tx', htx, ?_, rfl⟩
  cases hp : tx.persist e r mode (stamps s.taken) with
  | error failure => rw [hp] at hsaved; cases hsaved
  | ok result =>
    rw [hp] at hsaved
    cases hsaved
    rfl

/-- What a step saves in a session of filled rows is filled, unless the step erases a value. -/
theorem isFilled_saved_iff (h : s.AllRows m.Fills) (stamps : Stamps) {step : Step}
    (hstep : step.IsOn m) :
    (∀ x ∈ step.saved? stamps s, m.Fills x.1 x.2) ↔ step.erases stamps s = false := by
  match step with
  | .within name (.persist e r .insert) =>
    refine iff_of_true ?_ rfl
    intro x hx
    obtain ⟨tx, tx', -, hp, hname⟩ := saved?_within hx
    intro e' he'
    rw [hname, hstep.1, Option.some.injEq] at he'
    exact he' ▸ Transaction.isFilled_fillDefaults (Transaction.insert_eq_ok hp).1
  | .within name (.persist e r .update) =>
    rw [Step.erases]
    cases hsaved : Step.saved? stamps s (.within name (.persist e r .update)) with
    | none => exact iff_of_true (fun _ hx => nomatch hx) rfl
    | some x =>
      obtain ⟨tx, tx', htx, hp, hname⟩ := saved?_within hsaved
      obtain ⟨key, current, -, hcurrent, hrow, -⟩ := Transaction.update_eq_ok hp
      have hfilled : e.IsFilled current :=
        (h.transactions name tx htx).of_current? hcurrent e hstep.1
      rw [Option.isSome_some, Bool.true_and,
        ← Transaction.isFilled_touch_iff (stamps s.taken) hfilled hstep.2, ← hrow]
      constructor
      · intro hx
        exact hx x rfl e (hname ▸ hstep.1)
      · rintro hx y ⟨⟩ e' he'
        rw [hname, hstep.1, Option.some.injEq] at he'
        exact he' ▸ hx
  | .within _ (.findOne ..) => exact iff_of_true (fun _ hx => nomatch hx) rfl
  | .within _ (.findPage ..) => exact iff_of_true (fun _ hx => nomatch hx) rfl
  | .within _ (.remove ..) => exact iff_of_true (fun _ hx => nomatch hx) rfl
  | .within _ .flush => exact iff_of_true (fun _ hx => nomatch hx) rfl
  | .seed .. => exact iff_of_true (fun _ hx => nomatch hx) rfl
  | .rows _ => exact iff_of_true (fun _ hx => nomatch hx) rfl
  | .ping => exact iff_of_true (fun _ hx => nomatch hx) rfl
  | .begin _ => exact iff_of_true (fun _ hx => nomatch hx) rfl
  | .drop _ => exact iff_of_true (fun _ hx => nomatch hx) rfl
  | .commit _ => exact iff_of_true (fun _ hx => nomatch hx) rfl

/-- The run lemma: a session of filled rows goes through sessions of filled rows exactly if none
    of its steps erases a value. -/
theorem allRows_runAll_iff (h : s.AllRows m.Fills) (stamps : Stamps) {steps : List Step}
    (hsteps : ∀ step ∈ steps, step.IsOn m) (hseeds : ∀ step ∈ steps, step.Seeds m.Fills) :
    (∀ n, (s.runAll stamps (steps.take n)).AllRows m.Fills) ↔
      s.erasesNone stamps steps = true := by
  induction steps generalizing s with
  | nil =>
    refine iff_of_true (fun n => ?_) rfl
    rw [List.take_nil]
    exact h
  | cons step steps ih =>
    have hfirst : (s.run stamps step).2.AllRows m.Fills ↔ step.erases stamps s = false :=
      (allRows_run_iff h stamps (hseeds step List.mem_cons_self)).trans
        (isFilled_saved_iff h stamps (hsteps step List.mem_cons_self))
    have hrest (hrun : (s.run stamps step).2.AllRows m.Fills) :=
      ih hrun (fun t ht => hsteps t (List.mem_cons_of_mem _ ht))
        (fun t ht => hseeds t (List.mem_cons_of_mem _ ht))
    rw [erasesNone, Bool.and_eq_true, Bool.not_eq_true', ← hfirst]
    constructor
    · intro hall
      have hrun : (s.run stamps step).2.AllRows m.Fills := hall 1
      exact ⟨hrun, (hrest hrun).1 fun n => hall (n + 1)⟩
    · rintro ⟨hrun, hnone⟩ n
      cases n with
      | zero => exact h
      | succ n => exact (hrest hrun).2 hnone n

end Session

/-- Whatever transactions and seeds do with a model's own entities, in whatever order: starting
    from filled rows, and as long as all rows that are seeded are filled, the rows of the session
    stay filled exactly if no change of a row that succeeds gives a column that needs a value,
    other than that of the last change, an explicit null. No committed row then has a null or
    missing value in a column that is neither nullable nor defaulted, at any time. -/
theorem committed_isFilled (stamps : Stamps) {db : Database}
    (hdb : db.tables.AllRows db.model.Fills) {steps : List Session.Step}
    (hsteps : ∀ step ∈ steps, step.IsOn db.model)
    (hseeds : ∀ step ∈ steps, step.Seeds db.model.Fills) :
    ((∀ n, ((Session.start db).runAll stamps (steps.take n)).AllRows db.model.Fills) ↔
      (Session.start db).erasesNone stamps steps = true) ∧
    ((Session.start db).erasesNone stamps steps = true →
      ∀ n name e, db.model.entity? name = some e →
        ∀ row ∈ ((Session.start db).runAll stamps (steps.take n)).db.rows name,
          ∀ c ∈ e.columns, c.nullable = false → c.hasDefault = false →
            (row.get c.name).isNull = false) := by
  have hiff := Session.allRows_runAll_iff (Session.allRows_start hdb) stamps hsteps hseeds
  refine ⟨hiff, ?_⟩
  intro hnone n name e he row hrow c hc hnullable hdefault
  refine (hiff.2 hnone n).tables name row hrow e he c hc ?_
  rw [Column.isRequired, hnullable, hdefault]
  rfl

/-! ## An account without an owner -/

namespace Accounts

/-- Accounts need an owner. -/
def entity : Entity :=
  ⟨"account", "public", "account", ["id"],
    [⟨"id", some .text, false, false, "text"⟩, ⟨"owner", none, false, false, "text"⟩,
      ⟨"note", none, true, false, "text"⟩], [], []⟩

/-- The model file of accounts. -/
def config : ModelConfig :=
  ⟨[⟨"account", none, "account", .single "id",
    [⟨"id", "text", false, false⟩, ⟨"owner", "text", false, false⟩, ⟨"note", "text", true, false⟩],
    [], []⟩], []⟩

/-- A database of accounts. -/
def database : Database := .create ⟨[entity], []⟩

/-- The account of an owner, who may be missing. -/
def account (owner : Json) : Record := [("id", .str "1"), ("owner", owner)]

/-- An account is seeded and gets another owner. -/
def steps (owner : Json) : List Session.Step :=
  [.seed "account" [account (.str "ann")], .begin "t",
    .within "t" (.persist entity (account owner) .update), .commit "t"]

/-- The world supplies the same stamp at all times. -/
def stamps : Stamps := fun _ => ⟨"now", "fresh"⟩

theorem resolve_config : config.resolve = .ok database.model := by rfl

theorem fills_account : database.model.Fills "account" (account (.str "ann")) := by
  intro e he
  obtain rfl : entity = e := Option.some.inj he
  exact Transaction.isFilled_of_nullColumn? (by decide +kernel)

theorem sorted_account (owner : Json) : (account owner).Sorted := by
  rw [Fields.sorted_iff_keys]
  show ["id", "owner"].Pairwise (· < ·)
  decide

theorem isOn_steps (owner : Json) : ∀ step ∈ steps owner, step.IsOn database.model := by
  have hentity : database.model.entity? entity.name = some entity := rfl
  simp [steps, Session.Step.IsOn, TransactionCall.IsOn, sorted_account, hentity]

theorem seeds_steps (owner : Json) : ∀ step ∈ steps owner, step.Seeds database.model.Fills := by
  simp [steps, Session.Step.Seeds, fills_account]

theorem allRows_database : database.tables.AllRows database.model.Fills := Tables.allRows_empty

end Accounts

/-- An account stays filled when it gets another owner. -/
theorem isFilled_accounts :
    (Session.start Accounts.database).erasesNone Accounts.stamps (Accounts.steps (.str "bob")) =
        true ∧
      ((Session.start Accounts.database).runAll Accounts.stamps
        (Accounts.steps (.str "bob"))).db.rows "account" = [Accounts.account (.str "bob")] ∧
      ∀ row ∈ ((Session.start Accounts.database).runAll Accounts.stamps
        (Accounts.steps (.str "bob"))).db.rows "account", (row.get "owner").isNull = false := by
  have hnone : (Session.start Accounts.database).erasesNone Accounts.stamps
      (Accounts.steps (.str "bob")) = true := by decide +kernel
  have hfilled := (committed_isFilled Accounts.stamps Accounts.allRows_database
    (Accounts.isOn_steps (.str "bob")) (Accounts.seeds_steps (.str "bob"))).2 hnone 4 "account"
    Accounts.entity rfl
  refine ⟨hnone, by decide +kernel, ?_⟩
  intro row hrow
  exact hfilled row hrow ⟨"owner", none, false, false, "text"⟩ (by decide +kernel) rfl rfl

/-- The rows do not stay filled by themselves: a change takes the owner from an account. -/
theorem not_committed_isFilled :
    ¬∀ (config : ModelConfig) (stamps : Stamps) (db : Database) (steps : List Session.Step),
      config.resolve = .ok db.model → db.tables.AllRows db.model.Fills →
      (∀ step ∈ steps, step.IsOn db.model) → (∀ step ∈ steps, step.Seeds db.model.Fills) →
      ∀ name e, db.model.entity? name = some e →
        ∀ row ∈ ((Session.start db).runAll stamps steps).db.rows name,
          ∀ c ∈ e.columns, c.nullable = false → c.hasDefault = false →
            (row.get c.name).isNull = false := by
  intro h
  have hrows : ((Session.start Accounts.database).runAll Accounts.stamps
      (Accounts.steps .null)).db.rows "account" = [Accounts.account .null] := by decide +kernel
  have hfilled := h Accounts.config Accounts.stamps Accounts.database (Accounts.steps .null)
    Accounts.resolve_config Accounts.allRows_database (Accounts.isOn_steps .null)
    (Accounts.seeds_steps .null) "account" Accounts.entity rfl (Accounts.account .null)
    (by rw [hrows]; exact List.mem_singleton_self _)
    ⟨"owner", none, false, false, "text"⟩ (by decide +kernel) rfl rfl
  exact absurd hfilled (by decide)

end Depot
