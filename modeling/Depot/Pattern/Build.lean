import Depot.Pattern.Basic

/-!
# Patterns in their plain form

Patterns are built so that what matches the same text in a simpler way takes its place: texts that
follow each other are one text, a set of one character is that character, a choice between
characters is a set, and branches that begin alike share their beginning.

* `Pattern.ofSet`, `Pattern.concat`, `Pattern.choice`, `Pattern.repeated`: patterns in plain form.
* `Pattern.minLen?`: the least length of a match, `Pattern.isEmptyOnly`: whether no match is longer.
* `Pattern.startsAnchored`, `Pattern.endsAnchored`: whether all matches start or end with the text.

Results:
* `parts_ofParts`: the parts of a sequence are those it was made of.
* `image_ofParts_cons`: a sequence matches its first part and then the others.
-/

namespace Depot.Pattern

/-! ## What a pattern is made of -/

/-- The parts that follow each other. -/
def parts : Pattern → List Pattern
  | .empty => []
  | .seq p q => p :: q.parts
  | p => [p]

/-- The sequence of some parts. -/
def ofParts : List Pattern → Pattern
  | [] => .empty
  | [p] => p
  | p :: ps => .seq p (ofParts ps)

/-- The branches of a choice. -/
def branches : Pattern → List Pattern
  | .alt p q => p :: q.branches
  | p => [p]

/-- The choice between some branches. -/
def ofBranches : List Pattern → Pattern
  | [] => .oneOf .empty
  | [p] => p
  | p :: ps => .alt p (ofBranches ps)

/-- Whether a pattern is a single part of a sequence. -/
def IsPart : Pattern → Prop
  | .empty | .seq _ _ => False
  | _ => True

theorem parts_of_isPart {p : Pattern} (h : p.IsPart) : p.parts = [p] := by
  cases p with
  | empty | seq => exact absurd h id
  | _ => rfl

theorem parts_ofParts {ps : List Pattern} (h : ∀ p ∈ ps, p.IsPart) : (ofParts ps).parts = ps := by
  induction ps with
  | nil => rfl
  | cons p ps ih =>
    cases ps with
    | nil => exact parts_of_isPart (h p List.mem_cons_self)
    | cons q qs =>
      rw [ofParts, parts, ih fun r hr => h r (List.mem_cons_of_mem _ hr)]
      simp

theorem image_ofParts_cons (l : Layout) (p : Pattern) (ps : List Pattern) (set : PlaceSet) :
    (ofParts (p :: ps)).image l set = (ofParts ps).image l (p.image l set) := by
  cases ps with
  | nil => rfl
  | cons q qs => rfl

/-! ## Measures -/

/-- The least length of a match, unless part of the pattern is a set without members. -/
def minLen? : Pattern → Option Nat
  | .empty | .anchor _ => some 0
  | .literal text => some text.length
  | .oneOf s => if s.ranges.isEmpty then none else some 1
  | .seq p q => do some ((← p.minLen?) + (← q.minLen?))
  | .alt p q => do some (min (← p.minLen?) (← q.minLen?))
  | .rep p least _ _ => p.minLen?.map (least * ·)
  | .group _ p => p.minLen?

/-- Whether a pattern matches nothing longer than the empty text. -/
def isEmptyOnly : Pattern → Bool
  | .empty | .anchor _ => true
  | .literal _ | .oneOf _ => false
  | .seq p q | .alt p q => p.isEmptyOnly && q.isEmptyOnly
  | .rep p _ most _ => p.isEmptyOnly && most.isSome
  | .group _ p => p.isEmptyOnly

/-- Whether all matches start where the text does. -/
def startsAnchored : Pattern → Bool
  | .anchor a => a == .textStart
  | .seq p q => p.startsAnchored || (p.isEmptyOnly && q.startsAnchored)
  | .alt p q => p.startsAnchored && q.startsAnchored
  | .rep p least _ _ => 0 < least && p.startsAnchored
  | .group _ p => p.startsAnchored
  | _ => false

/-- Whether all matches end where the text does. -/
def endsAnchored : Pattern → Bool
  | .anchor a => a == .textEnd
  | .seq p q => q.endsAnchored || (q.isEmptyOnly && p.endsAnchored)
  | .alt p q => p.endsAnchored && q.endsAnchored
  | .rep p least _ _ => 0 < least && p.endsAnchored
  | .group _ p => p.endsAnchored
  | _ => false

/-! ## Building -/

/-- The pattern of a set. -/
def ofSet (s : CharSet) : Pattern :=
  match s.onlyMember? with
  | some c => .literal [c]
  | none => .oneOf s

/-- Puts a part before others; texts that follow each other become one. -/
def prepend : Pattern → List Pattern → List Pattern
  | .literal a, .literal b :: ps => .literal (a ++ b) :: ps
  | p, ps => p :: ps

/-- The sequence of some patterns. -/
def concat (ps : List Pattern) : Pattern := ofParts ((ps.flatMap parts).foldr prepend [])

/-- The set of a pattern that matches single characters. -/
def asSet? : Pattern → Option CharSet
  | .literal [c] => some (.single c)
  | .oneOf s => some s
  | _ => none

/-- The choice between some branches that do not begin alike. -/
def plainChoice (ps : List Pattern) : Pattern :=
  match ps with
  | [p] => p
  | ps => if ps.all (·.asSet?.isSome) then ofSet (.unions (ps.filterMap asSet?)) else ofBranches ps

/-- What two sequences have in common at their beginning. -/
def shared : List Pattern → List Pattern → List Pattern
  | p :: ps, q :: qs => if p = q then p :: shared ps qs else []
  | _, _ => []

/-- The beginning that some sequences share. -/
def sharedByAll : List (List Pattern) → List Pattern
  | [] => []
  | ps :: rest => rest.foldl shared ps

/-- Whether a pattern is a sequence of two parts or more. -/
def isSequence : Pattern → Bool
  | .seq _ _ => true
  | _ => false

/-- The choice between some patterns: branches that are all sequences share their beginning. -/
def choice (ps : List Pattern) : Pattern :=
  let bs := ps.flatMap branches
  let beginning := if bs.all isSequence then sharedByAll (bs.map parts) else []
  if beginning.isEmpty || bs.length = 1 then plainChoice bs
  else
    let rests := bs.map fun b => concat (b.parts.drop beginning.length)
    concat (beginning ++ [plainChoice (rests.flatMap branches)])

/-- The repetition of a pattern. One that matches the empty text only is repeated at most once. -/
def repeated (p : Pattern) (least : Nat) (most : Option Nat) (greedy : Bool) : Pattern :=
  let (least, most) :=
    if most != some 0 && p.isEmptyOnly then (min least 1, some (min (most.getD 1) 1))
    else (least, most)
  if least = 0 ∧ most = some 0 then .empty
  else if least = 1 ∧ most = some 1 then p
  else .rep p least most greedy

end Depot.Pattern
