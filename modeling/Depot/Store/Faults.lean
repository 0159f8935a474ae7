import Depot.Store.Call

/-!
# Failing calls

A store in front of another one that fails some of the calls instead of passing them on: those of
a kind that have a given number, counted from one.

* `Faulty.answer`: the answer to a call.
-/

namespace Depot

/-- The kinds of calls on a store. -/
inductive CallKind
  | begin
  | findOne
  | findPage
  | persist
  | remove
  | flush
  | commit
  | ping
  deriving DecidableEq, Repr

/-- The kind of a call. -/
def StoreCall.kind : StoreCall → CallKind
  | .begin => .begin
  | .commit => .commit
  | .ping => .ping
  | .within (.findOne ..) => .findOne
  | .within (.findPage ..) => .findPage
  | .within (.persist ..) => .persist
  | .within (.remove ..) => .remove
  | .within .flush => .flush

/-- The failure of one call of a kind. -/
structure CallFault where
  kind : CallKind
  nth : Nat
  failure : StoreError

/-- The state of a store, and the kinds of the calls made so far. -/
structure Faulty (σ : Type) where
  state : σ
  made : List CallKind

/-- The answer to a call: the failure that is set for it, or the answer of the store behind. -/
def Faulty.answer {σ : Type} (faults : List CallFault)
    (behind : (c : StoreCall) → σ → Except StoreError c.Reply × σ) (c : StoreCall) (s : Faulty σ) :
    Except StoreError c.Reply × Faulty σ :=
  let made := c.kind :: s.made
  match faults.find? fun f => f.kind == c.kind && f.nth == made.count c.kind with
  | some f => (.error f.failure, { s with made })
  | none =>
    let (reply, state) := behind c s.state
    (reply, ⟨state, made⟩)

end Depot
