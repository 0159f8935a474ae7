import Depot.Pattern.Escape

/-!
# Classes in brackets

A class in brackets lists characters, ranges, other classes, and classes in brackets of their own.
Between lists the operations `&&`, `--` and `~~` combine sets, from left to right.

* `Bracket`: the set of a class, and how deeply it nests.
* `bracket?`: reads a class after its opening bracket.

Results:
* `height_add`: an item nests no deeper than the list that it is added to.
-/

namespace Depot.Pattern

/-- The set of a class in brackets or of a part of one, and how deeply it nests. -/
structure Bracket where
  set : CharSet
  height : Nat

/-- The items of a class that have been read: their union, their number, and how deeply the deepest
    of them nests. -/
structure Items where
  set : CharSet
  count : Nat
  height : Nat

namespace Items

/-- No items. -/
def none : Items := ⟨.empty, 0, 0⟩

/-- Adds an item. -/
def add (items : Items) (item : Bracket) : Items :=
  ⟨items.set.union item.set, items.count + 1, max items.height item.height⟩

/-- Items as a part of a class: two of them or more are one level deeper. -/
def whole (items : Items) : Bracket :=
  ⟨items.set, if items.count < 2 then items.height else items.height + 1⟩

theorem height_add (items : Items) (item : Bracket) :
    item.height ≤ (items.add item).whole.height := by
  grind [add, whole]

end Items

/-- An operation between sets. -/
abbrev SetOperation := CharSet → CharSet → CharSet

/-- The operations between sets in a class. -/
def setOperation? : List Char → Option (SetOperation × List Char)
  | '&' :: '&' :: cs => some (.inter, cs)
  | '-' :: '-' :: cs => some (.diff, cs)
  | '~' :: '~' :: cs => some (.symm, cs)
  | _ => none

/-- What has been read before the last operation, with that operation. -/
abbrev Left := Option (SetOperation × Bracket)

/-- The class of what stands before an operation and of the items after it. -/
def combine (f : Flags) (left : Left) (items : Items) : Bracket :=
  match left with
  | none => items.whole
  | some (op, l) =>
    ⟨op (f.foldSet l.set) (f.foldSet items.whole.set), max l.height items.whole.height + 1⟩

/-! ## Items -/

/-- A class written by name, such as `[:alpha:]`, after its opening bracket: the set, whether it is
    to be complemented, and the rest. -/
def namedClass? (cs : List Char) : Option (CharSet × Bool × List Char) := do
  let rest ← Text.after? [':'] cs
  let (negated, rest) := match rest with
    | '^' :: rest => (true, rest)
    | rest => (false, rest)
  let (name, rest) ← Text.cutAt ':' rest
  let rest ← Text.after? [']'] rest
  let set ← CharSet.bracketed? name
  some (set, negated, rest)

/-- Reads an item of a class: a character or an escape. -/
def classItem? (f : Flags) : List Char → Option (Escape × List Char)
  | [] => none
  | '\\' :: cs => escape? f cs
  | c :: cs => some (.char c, cs)

/-- The set of a single item of a class. -/
def itemSet? (f : Flags) : Escape → Option CharSet
  | .char c => if f.allows c then some (.single c) else none
  | .set s => some s
  | .anchor _ => none

/-- The set of a range between two items. -/
def rangeSet? (f : Flags) : Escape → Escape → Option CharSet
  | .char a, .char b =>
    if a.toNat ≤ b.toNat ∧ f.allows a ∧ f.allows b then some (.range a.toNat b.toNat) else none
  | _, _ => none

/-- The character that decides whether a hyphen stands for itself, given the text after the hyphen.
    Blanks that do not count are passed over, but of a comment its sign only. -/
def afterHyphen? (f : Flags) (cs : List Char) : Option Char :=
  if !f.ignoreBlank then cs.head?
  else
    let rest := cs.dropWhile Text.isBlank
    let rest := match rest with
      | '#' :: more => more.dropWhile Text.isBlank
      | rest => rest
    if rest.isEmpty then cs.head? else rest.head?

/-- Reads an item or a range of characters. -/
def classRange? (f : Flags) (cs : List Char) : Option (CharSet × List Char) := do
  let (first, rest) ← classItem? f cs
  match skipBlank f rest with
  | [] => none
  | c :: after =>
    let next := afterHyphen? f after
    if c != '-' || next == some ']' || next == some '-' then some (← itemSet? f first, c :: after)
    else
      let (last, rest) ← classItem? f (skipBlank f after)
      some (← rangeSet? f first last, rest)

/-- The hyphens that a class starts with, each of which is an item. -/
def leadingHyphens (f : Flags) : (fuel : Nat) → Items → List Char → Items × List Char
  | 0, items, cs => (items, cs)
  | fuel + 1, items, cs =>
    match skipBlank f cs with
    | '-' :: rest => leadingHyphens f fuel (items.add ⟨.single '-', 0⟩) rest
    | cs => (items, cs)

/-- The items that a class starts with and that stand for themselves there: hyphens, or a closing
    bracket. -/
def leadingItems (f : Flags) (cs : List Char) : Items × List Char :=
  match leadingHyphens f (cs.length + 1) .none cs with
  | (items, ']' :: rest) =>
    if items.count = 0 then (items.add ⟨.single ']', 0⟩, rest) else (items, ']' :: rest)
  | read => read

/-! ## Classes -/

mutual

/-- Reads a class after its opening bracket. -/
def bracket? (f : Flags) : (fuel : Nat) → List Char → Option (Bracket × List Char)
  | 0, _ => none
  | fuel + 1, cs => do
    let (negated, cs) := match skipBlank f cs with
      | '^' :: cs => (true, cs)
      | cs => (false, cs)
    let (items, cs) := leadingItems f cs
    let (inner, rest) ← classItems? f fuel none items cs
    some (⟨← f.close? negated (f.foldSet inner.set), inner.height + 1⟩, rest)

/-- Reads the items of a class up to its closing bracket. -/
def classItems? (f : Flags) : (fuel : Nat) → Left → Items → List Char →
    Option (Bracket × List Char)
  | 0, _, _, _ => none
  | fuel + 1, left, items, cs =>
    match skipBlank f cs with
    | [] => none
    | ']' :: rest => some (combine f left items, rest)
    | '[' :: rest =>
      match namedClass? rest with
      | some (s, negated, rest) => do
        let s ← f.close? negated (f.foldSet s)
        classItems? f fuel left (items.add ⟨s, 0⟩) rest
      | none => do
        let (inner, rest) ← bracket? f fuel rest
        classItems? f fuel left (items.add inner) rest
    | cs =>
      match setOperation? cs with
      | some (op, rest) => classItems? f fuel (some (op, combine f left items)) .none rest
      | none => do
        let (s, rest) ← classRange? f cs
        classItems? f fuel left (items.add ⟨s, 0⟩) rest

end

end Depot.Pattern
