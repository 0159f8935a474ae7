import Depot.Text.Case
import Depot.Text.Word

/-!
# Classes of characters in patterns

The sets that a pattern can name, and their closure under letter case.

* `CharSet.bracketed?`: the classes that are written between `[:` and `:]`.
* `CharSet.anyCase`: a set with all forms of its letters, `CharSet.anyAsciiCase`: with the other
  case of its ASCII letters.

Results:
* `mem_anyCase_of_mem`: a set is part of its closure under letter case.
-/

namespace Depot.CharSet

/-- The ASCII characters. -/
def ascii : CharSet := range 0 0x7F

/-- The ASCII digits. -/
def asciiDigit : CharSet := range 0x30 0x39

/-- The ASCII word characters. -/
def asciiWord : CharSet := ofRanges [(0x30, 0x39), (0x41, 0x5A), (0x5F, 0x5F), (0x61, 0x7A)]

/-- The ASCII blanks. -/
def asciiBlank : CharSet := ofRanges [(0x09, 0x0D), (0x20, 0x20)]

/-- The classes that are written by a name between `[:` and `:]`. -/
def bracketed? (name : List Char) : Option CharSet :=
  match String.ofList name with
  | "alnum" => some (ofRanges [(0x30, 0x39), (0x41, 0x5A), (0x61, 0x7A)])
  | "alpha" => some (ofRanges [(0x41, 0x5A), (0x61, 0x7A)])
  | "ascii" => some ascii
  | "blank" => some (ofRanges [(0x09, 0x09), (0x20, 0x20)])
  | "cntrl" => some (ofRanges [(0x00, 0x1F), (0x7F, 0x7F)])
  | "digit" => some asciiDigit
  | "graph" => some (range 0x21 0x7E)
  | "lower" => some (range 0x61 0x7A)
  | "print" => some (range 0x20 0x7E)
  | "punct" => some (ofRanges [(0x21, 0x2F), (0x3A, 0x40), (0x5B, 0x60), (0x7B, 0x7E)])
  | "space" => some asciiBlank
  | "upper" => some (range 0x41 0x5A)
  | "word" => some asciiWord
  | "xdigit" => some (ofRanges [(0x30, 0x39), (0x41, 0x46), (0x61, 0x66)])
  | _ => none

/-- Whether a set has ASCII characters only. -/
def isAscii (s : CharSet) : Bool := s.ranges.all fun r => r.2 < 0x80

/-- The only member of a set that has one. -/
def onlyMember? (s : CharSet) : Option Char :=
  match s.ranges with
  | [(a, b)] => if a = b then some (Char.ofNat a) else none
  | _ => none

/-- The set of some code points. -/
def ofCodePoints (ns : List Nat) : CharSet := ofRanges (ns.map fun n => (n, n))

/-- A set with the folded forms of its members. -/
def withFolded (s : CharSet) : CharSet :=
  s.union (ofCodePoints ((Text.folding.filter fun p => s.has p.1).map (·.2)))

/-- A set with what folds to its members. -/
def withUnfolded (s : CharSet) : CharSet :=
  s.union (ofCodePoints ((Text.folding.filter fun p => s.has p.2).map (·.1)))

/-- A set with all forms of its letters. -/
def anyCase (s : CharSet) : CharSet := s.withFolded.withUnfolded

/-- A set with the other case of its ASCII letters. -/
def anyAsciiCase (s : CharSet) : CharSet :=
  let capitals := (s.inter (range 0x41 0x5A)).ranges
  let small := (s.inter (range 0x61 0x7A)).ranges
  unions [s, ofRanges (capitals.map fun r => (r.1 + 0x20, r.2 + 0x20)),
    ofRanges (small.map fun r => (r.1 - 0x20, r.2 - 0x20))]

theorem mem_anyCase_of_mem {s : CharSet} {c : Char} (h : s.mem c = true) :
    s.anyCase.mem c = true := by
  rw [anyCase, withUnfolded, mem_union, withFolded, mem_union, h]
  rfl

end Depot.CharSet
