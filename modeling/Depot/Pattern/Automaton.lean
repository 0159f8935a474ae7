import Depot.Pattern.Build
import Depot.Text.ByteSequences
import Std.Data.HashMap

/-!
# The size of a pattern's automaton

A pattern is searched by two automata that read the bytes of a text, one forward and one backward,
and each of them must fit into ten mebibytes. The automata themselves are not needed here, only
their size: how many states they have, and what these take beside the place of a state. So a
`Draft` of an automaton is these two numbers.

A state of a choice or a repetition is a fork; it takes space for every state it leads to. A state
that leads on by bytes takes space for every range of bytes, unless there is one only. Repetitions
are written out. States for the codes of characters are shared as far as a bounded memory of earlier
states goes, in which a state takes the place of another one that falls on the same slot. As a part
that is repeated is added many times, a pattern is brought into a `Sketch` first, in which the states
of a set are planned.

* `Pattern.sketch`: what of a pattern takes states, `Pattern.build`: the draft of a sketch.
* `Pattern.fits`: whether both automata of a pattern are within the limit.

Results:
* `size_add`: what is added to a draft is added to its size.
* `size_le_of_add`: a draft that something was added to is within the limit.
-/

namespace Depot.Pattern

/-- The states of an automaton, and the bytes that they take beside the place of each. -/
structure Draft where
  states : Nat
  extra : Nat
  deriving DecidableEq, Repr

/-- The greatest size of an automaton. -/
def maxSize : Nat := 10 * 1024 * 1024

namespace Draft

/-- The size of an automaton in bytes. -/
def size (d : Draft) : Nat := 32 * d.states + d.extra

/-- A draft with more states and bytes. -/
def plus (d : Draft) (states extra : Nat) : Draft := ⟨d.states + states, d.extra + extra⟩

/-- A draft with more states and bytes, if it stays within the limit. -/
def add (d : Draft) (states extra : Nat) : Option Draft :=
  if (d.plus states extra).size ≤ maxSize then some (d.plus states extra) else none

theorem size_add (d : Draft) (states extra : Nat) :
    (d.plus states extra).size = d.size + 32 * states + extra := by
  simp only [size, plus]
  omega

theorem size_le_of_add {d d' : Draft} {states extra : Nat} (h : d.add states extra = some d') :
    d'.size ≤ maxSize := by
  unfold add at h
  split at h
  · rw [← Option.some.inj h]
    assumption
  · exact absurd h (by simp)

end Draft

/-- A draft to which a part of a pattern was added last, and whether that part ends in a fork. -/
structure Built where
  draft : Draft
  atFork : Bool
  deriving DecidableEq, Repr

/-- What it takes to lead on from the last part: a fork notes where it leads. -/
def Built.link (b : Built) : Nat := if b.atFork then 4 else 0

/-! ## States of character codes

The states for the codes of a set are planned once, in the order in which they are made. Where a
plan names a state it counts from the target of the set, which is 0; the first planned state is 1.
A plan is carried out each time the set is added. -/

/-- A step by a byte within a range to a state. -/
structure ByteStep where
  first : Nat
  last : Nat
  target : Nat
  deriving DecidableEq

/-- The steps of every planned state. -/
abbrev Plan := Array (List ByteStep)

/-- A state whose steps are not complete: those that are, and the bytes of the one that is not. -/
structure OpenState where
  steps : List ByteStep
  pending : Option (Nat × Nat)

/-- The steps of a state whose pending one leads to a target. -/
def OpenState.close (s : OpenState) (target : Nat) : List ByteStep :=
  match s.pending with
  | some (first, last) => s.steps ++ [⟨first, last, target⟩]
  | none => s.steps

/-- Plans a state; its number is the second part. -/
def Plan.state (plan : Plan) (steps : List ByteStep) : Plan × Nat :=
  let plan := plan.push steps
  (plan, plan.size)

/-- Plans some open states, each of which leads to the next one and the last one to the target; the
    number of the first of them is the second part. -/
def Plan.closeAll : List OpenState → Plan → Plan × Nat
  | [], plan => (plan, 0)
  | s :: rest, plan =>
    let (plan, next) := closeAll rest plan
    plan.state (s.close next)

/-- Adds a sequence to open states that hold the one before it. What both begin with is kept. -/
def Plan.addSequence : List OpenState → List (Nat × Nat) → Plan → List OpenState × Plan
  | s :: rest, r :: rs, plan =>
    if s.pending = some r ∧ !rest.isEmpty then
      let (rest, plan) := addSequence rest rs plan
      (s :: rest, plan)
    else
      let (plan, next) := closeAll rest plan
      (⟨s.close next, some r⟩ :: rs.map fun r => ⟨[], some r⟩, plan)
  | states, _, plan => (states, plan)

/-- The states that read some sequences forward: those that begin alike share their beginning. -/
def forwardPlan (sequences : List (List (Nat × Nat))) : Plan :=
  let start : List OpenState × Plan := ([⟨[], none⟩], #[])
  let (states, plan) :=
    sequences.foldl (fun (states, plan) q => Plan.addSequence states q plan) start
  (plan.closeAll states).1

/-- The states that read some sequences backward: each sequence has its own, one after the other
    from the first byte, which is read last. -/
def backwardPlan (sequences : List (List (Nat × Nat))) : Plan :=
  sequences.foldl (fun plan q =>
    (q.foldl (fun (plan, next) r => Plan.state plan [⟨r.1, r.2, next⟩]) (plan, 0)).1) #[]

/-- Mixes a number into a hash. -/
def mix (hash : UInt64) (n : Nat) : UInt64 := (hash ^^^ n.toUInt64) * 1099511628211

/-- The slot of a state: backward automata take the target of a step first, and have fewer slots. -/
def slotOf (backward : Bool) (steps : List ByteStep) : Nat :=
  let hash := steps.foldl (fun hash s =>
    if backward then mix (mix (mix hash s.target) s.first) s.last
    else mix (mix (mix hash s.first) s.last) s.target) 14695981039346656037
  hash.toNat % (if backward then 1000 else 10000)

/-- A plan that is being carried out: the draft, the states that are remembered by slots, and the
    numbers of the states that were planned. -/
structure Execution where
  draft : Draft
  memory : Std.HashMap Nat (List ByteStep × Nat)
  numbers : Array Nat

/-- Carries out one planned state: a remembered one that does the same, or a new one. -/
def Execution.step (backward : Bool) (x : Execution) (steps : List ByteStep) : Execution :=
  let ⟨draft, memory, numbers⟩ := x
  let steps := steps.map fun s => { s with target := numbers.getD s.target 0 }
  let slot := slotOf backward steps
  match (memory[slot]?).filter fun known => known.1 = steps with
  | some known => ⟨draft, memory, numbers.push known.2⟩
  | none =>
    let extra := if backward then 0 else 8 * steps.length
    ⟨draft.plus 1 extra, memory.insert slot (steps, draft.states), numbers.push draft.states⟩

/-- Carries out a plan behind a draft whose last state is the target. -/
def Plan.carryOut (backward : Bool) (plan : Plan) (d : Draft) : Draft :=
  let start : Execution := ⟨d, .emptyWithCapacity plan.size, #[d.states - 1]⟩
  (plan.foldl (Execution.step backward) start).draft

/-! ## Choices between texts -/

/-- The texts of a choice between texts. -/
def texts? : Pattern → Option (List (List Char))
  | .literal text => some [text]
  | .alt p q => do some ((← p.texts?) ++ (← q.texts?))
  | _ => none

/-- The code of a text in the order in which it is read. -/
def codeOf (backward : Bool) (text : List Char) : List Nat :=
  let code := text.flatMap fun c => Text.bytes c.toNat
  if backward then code.reverse else code

/-- Cuts codes where one of them ends; one that ends before any other goes on counts once. -/
def cutAtEnds (codes : List (List Nat)) : List (List (List Nat)) :=
  let ends := codes.takeWhile (·.isEmpty)
  let pieces := (codes.drop ends.length).foldr (fun code pieces =>
    if code.isEmpty then [] :: pieces
    else match pieces with
      | [] => [[code]]
      | piece :: pieces => (code :: piece) :: pieces) [[]]
  if ends.isEmpty then pieces else [] :: pieces

/-- The states and bytes of a tree of codes; `fuel` bounds its depth. A node has a fork, and for the
    codes between two that end there a state with a step for every byte that comes next. -/
def treeSize : (fuel : Nat) → List (List Nat) → Draft
  | 0, _ => ⟨0, 0⟩
  | fuel + 1, codes =>
    let pieces := cutAtEnds codes
    let full := pieces.filter (!·.isEmpty)
    let node : Draft := ⟨1 + full.length, 4 * (full.length + (pieces.length - 1))⟩
    full.foldl (fun d piece =>
      let bytes := (piece.filterMap List.head?).eraseDups
      let d := if bytes.length = 1 then d else d.plus 0 (8 * bytes.length)
      bytes.foldl (fun d b =>
        let below := (piece.filter (·.head? == some b)).map List.tail
        if below.all (·.isEmpty) then d
        else
          let t := treeSize fuel below
          d.plus t.states t.extra) d) node

/-! ## Sketches -/

/-- What takes states, in the order in which a text is read: some states with the bytes that they
    take, then those of a plan; parts that follow each other; a fork between two parts; a repetition
    of a part, with whether it never matches the empty text; a part between two states. -/
inductive Sketch
  | states (count extra : Nat) (plan : Plan)
  | seq (p q : Sketch)
  | fork (p q : Sketch)
  | rep (p : Sketch) (neverEmpty : Bool) (least : Nat) (most : Option Nat)
  | framed (p : Sketch)

/-- Some states without a plan. -/
def Sketch.plain (count extra : Nat) : Sketch := .states count extra #[]

/-- The sketch of a set of characters: one step for every range if a byte decides. A backward
    automaton has a fork that leads to every sequence. -/
def sketchSet (backward : Bool) (s : CharSet) : Sketch :=
  if s.isAscii then .plain 2 (8 * s.ranges.length)
  else
    let sequences := s.ranges.flatMap Text.byteSequences
    if backward then .states 2 (4 * sequences.length) (backwardPlan sequences)
    else .states 1 0 (forwardPlan sequences)

/-- The sketch of a choice between texts. -/
def sketchTexts (backward : Bool) (texts : List (List Char)) : Sketch :=
  let codes := texts.map (codeOf backward)
  let tree := treeSize ((codes.map List.length).foldl max 0 + 1) codes
  .plain (1 + tree.states) tree.extra

/-- The sketch of a pattern. A later branch of a choice is no choice of its own. -/
def sketch (backward : Bool) : (laterBranch : Bool) → Pattern → Sketch
  | _, .empty | _, .anchor _ => .plain 1 0
  | _, .literal text => .plain (codeOf backward text).length 0
  | _, .oneOf s => sketchSet backward s
  | _, .seq p q =>
    if backward then .seq (sketch backward false q) (sketch backward false p)
    else .seq (sketch backward false p) (sketch backward false q)
  | later, .alt p q =>
    match if later then none else (Pattern.alt p q).texts? with
    | some texts => sketchTexts backward texts
    | none => .fork (sketch backward false p) (sketch backward true q)
  | _, .rep p least most _ =>
    let neverEmpty := match p.minLen? with
      | some n => 0 < n
      | none => false
    .rep (sketch backward false p) neverEmpty least most
  | _, .group _ p => if backward then sketch backward false p else .framed (sketch backward false p)

/-! ## Repetitions -/

/-- Adds a part `n` times behind what was added last. -/
def addTimes (one : Draft → Option Built) : (n : Nat) → Built → Option Built
  | 0, b => some b
  | n + 1, b =>
    match (b.draft.add 0 b.link).bind one with
    | none => none
    | some b => addTimes one n b

/-- Adds a part `n` times, each behind a fork that also leads past it. -/
def addOptional (one : Draft → Option Built) : (n : Nat) → Built → Option Built
  | 0, b => some b
  | n + 1, b =>
    match (b.draft.add 1 (8 + b.link)).bind one with
    | none => none
    | some b => addOptional one n b

/-- Adds a part exactly `n` times. -/
def addExactly (one : Draft → Option Built) (n : Nat) (d : Draft) : Option Built :=
  match n with
  | 0 => (d.add 1 0).map fun d => ⟨d, false⟩
  | n + 1 => (one d).bind (addTimes one n)

/-- Adds a part that may be repeated without end. A part that can match the empty text has a fork
    in front of it and one behind it. -/
def addEndless (one : Draft → Option Built) (neverEmpty : Bool) (least : Nat) (d : Draft) :
    Option Built :=
  match least with
  | 0 =>
    if neverEmpty then do
      let b ← (d.add 1 0).bind one
      some ⟨← b.draft.add 0 (4 + b.link), true⟩
    else do
      let b ← one d
      some ⟨← b.draft.add 3 (16 + b.link), false⟩
  | least => do
    let b ← addExactly one least d
    some ⟨← b.draft.add 1 (4 + b.link), true⟩

/-- Adds a repetition of a part. -/
def addRepetition (one : Draft → Option Built) (neverEmpty : Bool) (least : Nat)
    (most : Option Nat) (d : Draft) : Option Built :=
  match most with
  | none => addEndless one neverEmpty least d
  | some most =>
    if least = most then addExactly one least d
    else if least = 0 ∧ most = 1 then do
      let b ← (d.add 1 0).bind one
      some ⟨← b.draft.add 1 (8 + b.link), false⟩
    else do
      let b ← addExactly one least d
      let b ← addOptional one (most - least) ⟨← b.draft.add 1 0, b.atFork⟩
      some ⟨← b.draft.add 0 b.link, false⟩

/-! ## Automata -/

/-- Where a part stands among the branches of a choice. -/
inductive Branch
  | only
  | second (firstAtFork : Bool)
  | later

/-- Leads from a fork to a branch and from the branch to the end of the choice. The fork and the end
    come with the second branch. -/
def Branch.finish : Branch → Built → Option Built
  | .only, b => some b
  | .second firstAtFork, b =>
    (b.draft.add 2 (8 + (if firstAtFork then 4 else 0) + b.link)).map fun d => ⟨d, false⟩
  | .later, b => (b.draft.add 0 (4 + b.link)).map fun d => ⟨d, false⟩

/-- Adds the states of a sketch. -/
def build (backward : Bool) : Sketch → Branch → Draft → Option Built
  | .states count extra plan, branch, d =>
    ((plan.carryOut backward (d.plus count extra)).add 0 0).bind fun d => branch.finish ⟨d, false⟩
  | .seq p q, branch, d => do
    let b ← build backward p .only d
    let b ← (b.draft.add 0 b.link).bind (build backward q .only)
    branch.finish b
  | .fork p q, .only, d => do
    let b ← build backward p .only d
    build backward q (.second b.atFork) b.draft
  | .fork p q, branch, d => do
    let b ← build backward p .only d
    let b ← branch.finish b
    build backward q .later b.draft
  | .rep p neverEmpty least most, branch, d =>
    (addRepetition (build backward p .only) neverEmpty least most d).bind branch.finish
  | .framed p, branch, d => do
    let b ← (d.add 1 0).bind (build backward p .only)
    branch.finish ⟨← b.draft.add 1 b.link, false⟩

/-- The automaton of a pattern. Unless all matches are at the end of the text where it starts to
    read, it begins with a part that passes over any bytes. -/
def automaton (backward : Bool) (p : Pattern) : Option Draft := do
  let anchored := if backward then p.endsAnchored else p.startsAnchored
  let d ← if anchored then Draft.add ⟨0, 0⟩ 1 0 else Draft.add ⟨0, 0⟩ 3 16
  let whole := sketch backward false p
  let b ← build backward (if backward then whole else .framed whole) .only d
  b.draft.add 1 b.link

/-- Whether both automata of a pattern are within the limit. -/
def fits (p : Pattern) : Bool := (automaton false p).isSome && (automaton true p).isSome

end Depot.Pattern
