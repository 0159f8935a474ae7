import Depot.Program

/-!
# Runs that succeed

A run of a program is taken apart along its sequence: it succeeds if its first part succeeds and
the rest succeeds on what the first part left. `Program.Returns` is a successful run with the
notes left out.

Results:
* `bind_eq_ok_iff`, `map_eq_ok_iff`, `mapError_eq_ok_iff`: the same for computations that may fail,
  `bind_eq_error_iff`, `map_eq_error_iff`: and for their failures.
* `run_bind_ok`, `run_bind_error`: a sequence by the outcome of its first part.
* `result_bind`: what a sequence comes to.
* `returns_bind_iff`, `returns_bind_iff_of_returns`: a sequence of two programs succeeds if both
  parts do.
* `returns_askWith_iff`: a call succeeds if it is answered.
-/

namespace Depot

section Except

variable {ε α β : Type}

theorem bind_eq_ok_iff {x : Except ε α} {f : α → Except ε β} {b : β} :
    (x >>= f) = .ok b ↔ ∃ a, x = .ok a ∧ f a = .ok b := by
  cases x with
  | error e =>
    constructor
    · intro h; cases h
    · rintro ⟨a, ha, -⟩; cases ha
  | ok a =>
    constructor
    · intro h; exact ⟨a, rfl, h⟩
    · rintro ⟨a', ha, h⟩; cases ha; exact h

/-- A sequence fails with the failure of its first part, or of the rest. -/
theorem bind_eq_error_iff {x : Except ε α} {f : α → Except ε β} {e : ε} :
    (x >>= f) = .error e ↔ x = .error e ∨ ∃ a, x = .ok a ∧ f a = .error e := by
  cases x with
  | error e' =>
    show Except.error e' = .error e ↔ _
    simp
  | ok a =>
    show f a = .error e ↔ _
    simp

theorem map_eq_ok_iff {x : Except ε α} {f : α → β} {b : β} :
    x.map f = .ok b ↔ ∃ a, x = .ok a ∧ f a = b := by
  cases x with
  | error e => simp [Except.map]
  | ok a => simp [Except.map]

theorem map_eq_error_iff {x : Except ε α} {f : α → β} {e : ε} :
    x.map f = .error e ↔ x = .error e := by
  cases x with
  | error e' => simp [Except.map]
  | ok a => simp [Except.map]

theorem mapError_eq_ok_iff {δ : Type} {x : Except ε α} {f : ε → δ} {a : α} :
    x.mapError f = .ok a ↔ x = .ok a := by
  cases x with
  | error e =>
    show Except.error (f e) = .ok a ↔ Except.error e = .ok a
    simp only [reduceCtorEq]
  | ok b =>
    show Except.ok b = .ok a ↔ Except.ok b = .ok a
    rw [Except.ok.injEq, Except.ok.injEq]

theorem exists_of_isOk {x : Except ε α} (h : x.isOk = true) : ∃ a, x = .ok a := by
  cases x with
  | ok a => exact ⟨a, rfl⟩
  | error e => cases h

theorem exists_error_of_not_isOk {x : Except ε α} (h : x.isOk = false) : ∃ e, x = .error e := by
  cases x with
  | ok a => cases h
  | error e => exact ⟨e, rfl⟩

end Except

namespace Program

variable {I J : Interface} {α β σ : Type}

/-- A run that succeeds with a value and leaves a state. -/
def Returns (answer : (c : I.Call) → σ → Except StoreError (I.Reply c) × σ) (p : Program I α)
    (s : σ) (a : α) (s' : σ) : Prop :=
  (p.run answer s).result = .ok a ∧ (p.run answer s).state = s'

variable {answer : (c : I.Call) → σ → Except StoreError (I.Reply c) × σ} {s s' : σ}

/-- A sequence whose first part fails ends there. -/
theorem run_bind_error {p : Program I α} (f : α → Program I β) {e : RequestError}
    (h : (p.run answer s).result = .error e) :
    ((p >>= f).run answer s).result = .error e ∧
      ((p >>= f).run answer s).state = (p.run answer s).state := by
  have hrun := run_bind answer p f s
  revert hrun h
  generalize p.run answer s = o
  intro h hrun
  obtain ⟨result, trail, state⟩ := o
  cases h
  have hresult := congrArg Outcome.result hrun
  have hstate := congrArg Outcome.state hrun
  exact ⟨hresult, hstate⟩

/-- A sequence whose first part succeeds goes on with its value from the state it left. -/
theorem run_bind_ok {p : Program I α} (f : α → Program I β) {a : α}
    (h : (p.run answer s).result = .ok a) :
    ((p >>= f).run answer s).result = ((f a).run answer (p.run answer s).state).result ∧
      ((p >>= f).run answer s).state = ((f a).run answer (p.run answer s).state).state := by
  have hrun := run_bind answer p f s
  revert hrun h
  generalize p.run answer s = o
  intro h hrun
  obtain ⟨result, trail, state⟩ := o
  cases h
  have hresult := congrArg Outcome.result hrun
  have hstate := congrArg Outcome.state hrun
  exact ⟨hresult, hstate⟩

/-- What a sequence comes to: the result of its rest, if there is one. -/
theorem result_bind (p : Program I α) (f : α → Program I β) (s : σ) :
    ((p >>= f).run answer s).result =
      (p.run answer s).result >>= fun a => ((f a).run answer (p.run answer s).state).result := by
  cases h : (p.run answer s).result with
  | ok a => exact (run_bind_ok f h).1
  | error e => exact (run_bind_error f h).1

/-- A call leaves the state that its answer leaves. -/
theorem run_askWith (failed : StoreError → RequestError) (c : I.Call) :
    ((askWith I failed c).run answer s).result = (answer c s).1.mapError failed ∧
      ((askWith I failed c).run answer s).state = (answer c s).2 := by
  simp only [askWith, run]
  rcases answer c s with ⟨reply, state⟩
  cases reply with
  | ok b => exact ⟨rfl, rfl⟩
  | error e => exact ⟨rfl, rfl⟩

theorem returns_done_iff {result : Except RequestError α} {a : α} :
    (done result : Program I α).Returns answer s a s' ↔ result = .ok a ∧ s = s' := Iff.rfl

theorem returns_pure_iff {a b : α} :
    (pure a : Program I α).Returns answer s b s' ↔ a = b ∧ s = s' := by
  show (done (.ok a)).Returns answer s b s' ↔ _
  rw [returns_done_iff, Except.ok.injEq]

theorem not_returns_fail {e : RequestError} {a : α} :
    ¬(fail e : Program I α).Returns answer s a s' := by
  rintro ⟨h, -⟩
  cases h

theorem returns_askWith_iff {failed : StoreError → RequestError} {c : I.Call} {a : I.Reply c} :
    (askWith I failed c).Returns answer s a s' ↔ answer c s = (.ok a, s') := by
  obtain ⟨hresult, hstate⟩ := @run_askWith I σ answer s failed c
  rw [Returns, hresult, hstate]
  rcases answer c s with ⟨reply, state⟩
  cases reply with
  | ok b =>
    show Except.ok b = .ok a ∧ state = s' ↔ (Except.ok b, state) = (.ok a, s')
    rw [Prod.mk.injEq, Except.ok.injEq, Except.ok.injEq]
  | error e =>
    show Except.error (failed e) = .ok a ∧ state = s' ↔ (Except.error e, state) = (.ok a, s')
    simp

theorem returns_bind_iff {p : Program I α} {f : α → Program I β} {b : β} :
    (p >>= f).Returns answer s b s' ↔
      ∃ a t, p.Returns answer s a t ∧ (f a).Returns answer t b s' := by
  cases hp : (p.run answer s).result with
  | ok a =>
    obtain ⟨hresult, hstate⟩ := run_bind_ok f hp
    constructor
    · rintro ⟨hb, hs⟩
      exact ⟨a, _, ⟨hp, rfl⟩, hresult ▸ hb, hstate ▸ hs⟩
    · rintro ⟨a', t, ⟨ha, rfl⟩, hb, hs⟩
      rw [hp, Except.ok.injEq] at ha
      subst ha
      exact ⟨hresult.trans hb, hstate.trans hs⟩
  | error e =>
    obtain ⟨hresult, -⟩ := run_bind_error f hp
    constructor
    · rintro ⟨hb, -⟩
      rw [hresult] at hb
      cases hb
    · rintro ⟨a', t, ⟨ha, -⟩, -⟩
      rw [hp] at ha
      cases ha

/-- A sequence whose first part succeeds does so if the rest does on what the first part left. -/
theorem returns_bind_iff_of_returns {p : Program I α} {f : α → Program I β} {a : α} {t : σ} {b : β}
    (h : p.Returns answer s a t) :
    (p >>= f).Returns answer s b s' ↔ (f a).Returns answer t b s' := by
  obtain ⟨hresult, hstate⟩ := run_bind_ok f h.1
  rw [Returns, Returns, hresult, hstate, h.2]

end Program

end Depot
