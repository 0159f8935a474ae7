import Depot.Pattern.Motion

/-!
# Patterns

A regular expression, and where it matches. Matching a text only tells whether some part of it
matches; it does not tell which.

A pattern is a motion that leads from the places where a match may start to those where it may end.

* `Pattern`: texts, sets of characters, conditions on a place, sequence, choice and repetition.
* `Pattern.motion`: a pattern as a motion between the places of a text.
* `Pattern.image`: the places where matches end.
* `Pattern.isMatch`: whether a match starts and ends somewhere in a text.

Results:
* `isMatch_eq`: a text matches if a match ends at one of its places.
* `image_seq`, `image_alt`, `image_group`, `image_empty`: the motions of compound patterns.
* `testBit_image_oneOf`: a set leads across each of its characters.
-/

namespace Depot

/-- A regular expression. A repetition may ask for the longer match or the shorter one, and a
    group has a number; neither matters for whether a text matches. -/
inductive Pattern
  | empty
  | literal (text : List Char)
  | oneOf (s : CharSet)
  | anchor (a : Anchor)
  | seq (p q : Pattern)
  | alt (p q : Pattern)
  | rep (p : Pattern) (least : Nat) (most : Option Nat) (greedy : Bool)
  | group (index : Nat) (p : Pattern)
  deriving DecidableEq

/-! ## Matching -/

namespace Pattern

/-- A pattern as a motion in a text. A match never goes back, so of more steps than there are places
    all but as many stand still. -/
def motion (l : Layout) : Pattern → Motion
  | .empty => .cross []
  | .literal text => .cross (text.map l.letter)
  | .oneOf s => .cross [l.letters s]
  | .anchor a => .hold (l.holding a)
  | .seq p q => .seq (p.motion l) (q.motion l)
  | .alt p q => .alt (p.motion l) (q.motion l)
  | .rep p least most _ =>
    let places := l.places.length
    let more := match most with
      | none => places
      | some most => min (most - least) places
    .rep (p.motion l) (min least places) more
  | .group _ p => p.motion l

/-- The places at which matches that start at the places of a set can end. -/
def image (l : Layout) (p : Pattern) (set : PlaceSet) : PlaceSet := (p.motion l).image set

/-- Whether some part of a text matches. -/
def isMatch (p : Pattern) (s : String) : Bool :=
  let l := Layout.ofText s.toList
  ((p.motion l).follow .empty l.everywhere).1 != 0

theorem isMatch_eq (p : Pattern) (s : String) :
    p.isMatch s = (p.image (.ofText s.toList) (Layout.ofText s.toList).everywhere != 0) := by
  rw [isMatch, (Motion.follow_eq_image _ _ _ (Motion.sound_empty _)).1, image]

theorem image_empty (l : Layout) (set : PlaceSet) : Pattern.empty.image l set = set := rfl

theorem image_seq (l : Layout) (p q : Pattern) (set : PlaceSet) :
    (Pattern.seq p q).image l set = q.image l (p.image l set) := rfl

theorem image_alt (l : Layout) (p q : Pattern) (set : PlaceSet) :
    (Pattern.alt p q).image l set = p.image l set ||| q.image l set := rfl

theorem image_group (l : Layout) (n : Nat) (p : Pattern) (set : PlaceSet) :
    (Pattern.group n p).image l set = p.image l set := rfl

theorem testBit_image_oneOf (cs : List Char) (s : CharSet) (set : PlaceSet) (i : Nat) :
    ((Pattern.oneOf s).image (.ofText cs) set).testBit (i + 1) =
      (set.testBit i && (cs[i]?).any s.mem) := by
  simp [image, motion, Motion.image, PlaceSet.testBit_shift, Layout.testBit_letters]

end Pattern

end Depot
