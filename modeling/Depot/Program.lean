import Depot.Error

/-!
# Programs

What a request does is a tree of calls on a store: a program ends with a result, leaves a note, or
makes a call and goes on with what it is answered. Which calls there are is said by an interface,
so that a program cannot make others. Answers come from outside: running a program takes a
function that answers calls and may fail any of them.

* `Interface`, `Program`: the calls, and the programs that make them.
* `Program.ask`: a call whose failure fails the program.
* `Program.embed`: a program of one interface as a program of another.
* `Program.run`: the outcome of a program.

Results:
* `bind_done`, `bind_assoc`: the laws of putting programs one after the other.
* `run_bind`: a sequence of two programs runs one after the other.
-/

namespace Depot

/-- The calls that a program can make, and what each is answered with. -/
structure Interface where
  Call : Type
  Reply : Call → Type

namespace Interface

/-- The interface without calls. -/
def none : Interface := ⟨Empty, fun _ => Empty⟩

/-- A way to make the calls of one interface through another. -/
structure Embedding (I J : Interface) where
  call : I.Call → J.Call
  reply : (c : I.Call) → J.Reply (call c) → I.Reply c

/-- Every interface can make no calls. -/
def Embedding.ofNone (J : Interface) : Embedding none J := ⟨nofun, nofun⟩

end Interface

/-- A tree of calls. Notes are kept in the trail of a run. -/
inductive Program (I : Interface) (α : Type)
  | done (result : Except RequestError α)
  | note (text : String) (next : Program I α)
  | call (c : I.Call) (next : Except StoreError (I.Reply c) → Program I α)

/-- What a run comes to: the result, the notes in their order, and the state that is left. -/
structure Outcome (σ α : Type) where
  result : Except RequestError α
  trail : List String
  state : σ

namespace Program

variable {I J : Interface} {α β γ σ : Type}

/-- The program that does nothing. -/
def value (a : α) : Program I α := .done (.ok a)

/-- The program that fails. -/
def fail (e : RequestError) : Program I α := .done (.error e)

/-- Goes on with the value of a program. -/
def bind : Program I α → (α → Program I β) → Program I β
  | .done (.ok a), f => f a
  | .done (.error e), _ => .done (.error e)
  | .note text next, f => .note text (next.bind f)
  | .call c next, f => .call c fun reply => (next reply).bind f

instance : Monad (Program I) where
  pure := value
  bind := bind

/-- Leaves a note. -/
def leave (text : String) : Program I Unit := .note text (value ())

/-- A call; `failed` says how its failure appears. -/
def askWith (I : Interface) (failed : StoreError → RequestError) (c : I.Call) :
    Program I (I.Reply c) :=
  .call c fun
    | .ok reply => value reply
    | .error e => fail (failed e)

/-- A call on behalf of a resource. -/
def ask (I : Interface) (resource : String) (c : I.Call) : Program I (I.Reply c) :=
  askWith I (.ofStore resource) c

/-- A program of one interface as a program of another. -/
def embed (through : Interface.Embedding I J) : Program I α → Program J α
  | .done result => .done result
  | .note text next => .note text (next.embed through)
  | .call c next =>
    .call (through.call c) fun reply => (next (reply.map (through.reply c))).embed through

/-- Runs a program; `answer` answers its calls. -/
def run (answer : (c : I.Call) → σ → Except StoreError (I.Reply c) × σ) :
    Program I α → σ → Outcome σ α
  | .done result, s => ⟨result, [], s⟩
  | .note text next, s =>
    let rest := next.run answer s
    { rest with trail := text :: rest.trail }
  | .call c next, s =>
    let (reply, s) := answer c s
    (next reply).run answer s

/-! ## Laws -/

theorem bind_done (a : α) (f : α → Program I β) : (value a).bind f = f a := rfl

theorem bind_value (p : Program I α) : p.bind value = p := by
  induction p with
  | done result => cases result <;> rfl
  | note text next ih => simp only [bind, ih]
  | call c next ih => simp only [bind, ih]

theorem bind_assoc (p : Program I α) (f : α → Program I β) (g : β → Program I γ) :
    (p.bind f).bind g = p.bind fun a => (f a).bind g := by
  induction p with
  | done result => cases result <;> rfl
  | note text next ih => simp only [bind, ih]
  | call c next ih => simp only [bind, ih]

theorem run_bind (answer : (c : I.Call) → σ → Except StoreError (I.Reply c) × σ)
    (p : Program I α) (f : α → Program I β) (s : σ) :
    (p.bind f).run answer s =
      match p.run answer s with
      | ⟨.ok a, trail, s⟩ =>
        let rest := (f a).run answer s
        { rest with trail := trail ++ rest.trail }
      | ⟨.error e, trail, s⟩ => ⟨.error e, trail, s⟩ := by
  induction p generalizing s with
  | done result => cases result <;> rfl
  | note text next ih =>
    simp only [bind, run, ih]
    rcases next.run answer s with ⟨result, trail, state⟩
    cases result <;> rfl
  | call c next ih => exact ih _ _

end Program

end Depot
