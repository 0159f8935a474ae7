import Depot.Pattern.Basic
import Depot.Pattern.Scan
import Depot.Unicode.Naming

/-!
# Escapes in patterns

What a backslash and the characters after it stand for: a character, a class of characters, or a
condition on a place.

* `Escape`: what an escape stands for.
* `property?`: a class by a property of characters, such as `\p{Greek}` or `\pL`.
* `escape?`: reads an escape after its backslash.

Results:
* `escape?_meta`: a backslash takes the meaning away from a character.
-/

namespace Depot.Pattern

/-- What a backslash and what follows it stand for. -/
inductive Escape
  | char (c : Char)
  | set (s : CharSet)
  | anchor (a : Anchor)

/-- The characters with a meaning of their own, which a backslash takes away. -/
def isMeta (c : Char) : Bool := "\\.+*?()|[]\x7b\x7d^$#&-~".toList.contains c

/-- Other characters before which a backslash changes nothing. -/
def isEscapable (c : Char) : Bool :=
  c.toNat < 0x80 && !Text.isAsciiDigit c && !Text.isAsciiLetter c && c != '<' && c != '>'

/-! ## Classes -/

/-- The class of a letter, or its complement for a capital one. -/
def letterClass? (f : Flags) (c : Char) : Option CharSet :=
  match c with
  | 'd' => some (if f.unicode then Text.digits else .asciiDigit)
  | 's' => some (if f.unicode then Unicode.whiteSpace else .asciiBlank)
  | 'w' => some (if f.unicode then Text.wordCharacters else .asciiWord)
  | 'D' => if f.unicode then some Text.digits.compl else none
  | 'S' => if f.unicode then some Unicode.whiteSpace.compl else none
  | 'W' => if f.unicode then some Text.wordCharacters.compl else none
  | _ => none

/-- The text before two characters that follow each other, and the text after them. -/
def cutAtPair (a b : Char) : List Char → Option (List Char × List Char)
  | [] => none
  | c :: cs =>
    if c = a ∧ cs.head? = some b then some ([], cs.tail)
    else (cutAtPair a b cs).map fun (before, after) => (c :: before, after)

/-- The set of what stands in the braces of a property, and whether it is to be complemented:
    a name, or a name and a value between which `!=`, `:` or `=` stands. -/
def propertySet? (name : List Char) : Option (CharSet × Bool) :=
  match cutAtPair '!' '=' name, Text.cutAt ':' name, Text.cutAt '=' name with
  | some (p, v), _, _ => (Unicode.valued? p v).map (·, true)
  | none, some (p, v), _ => (Unicode.valued? p v).map (·, false)
  | none, none, some (p, v) => (Unicode.valued? p v).map (·, false)
  | none, none, none => (Unicode.named? name).map (·, false)

/-- What stands before a closing brace, the blanks that do not count left out. -/
def untilBrace? (f : Flags) : (fuel : Nat) → List Char → Option (List Char × List Char)
  | 0, _ => none
  | fuel + 1, cs =>
    match skipBlank f cs with
    | [] => none
    | '\x7d' :: rest => some ([], rest)
    | c :: rest => (untilBrace? f fuel rest).map fun (name, rest) => (c :: name, rest)

/-- Reads a class by property after its letter. -/
def property? (f : Flags) (negated : Bool) (cs : List Char) : Option (CharSet × List Char) := do
  let ((set, unequal), rest) ← match skipBlank f cs with
    | '\x7b' :: rest => do
      let (name, rest) ← untilBrace? f (rest.length + 1) rest
      some (← propertySet? name, rest)
    | '\\' :: _ => none
    | c :: rest => do some ((← Unicode.named? [c], false), skipBlank f rest)
    | [] => none
  if f.unicode then some (← f.close? (negated != unequal) (f.foldSet set), rest) else none

/-! ## Boundaries -/

/-- Whether a character may stand in the name of a boundary. -/
def isBoundaryChar (c : Char) : Bool := Text.isAsciiLetter c || c == '-'

/-- Reads the name of a boundary, the blanks that do not count left out. -/
def boundaryName (f : Flags) : (fuel : Nat) → List Char → List Char × List Char
  | 0, cs => ([], cs)
  | _ + 1, [] => ([], [])
  | fuel + 1, c :: cs =>
    if isBoundaryChar c then
      let (name, rest) := boundaryName f fuel (skipBlank f cs)
      (c :: name, rest)
    else ([], c :: cs)

/-- The condition of a name. -/
def boundary? (ascii : Bool) (name : List Char) : Option Anchor :=
  match String.ofList name with
  | "start" => some (.wordStart ascii)
  | "end" => some (.wordEnd ascii)
  | "start-half" => some (.wordStartHalf ascii)
  | "end-half" => some (.wordEndHalf ascii)
  | _ => none

/-- Reads what follows `\b`: a name in braces, or nothing that belongs to it. A brace in which no
    name starts belongs to a repetition. -/
def wordBoundary? (f : Flags) (cs : List Char) : Option (Anchor × List Char) :=
  let plain := (Anchor.wordBoundary !f.unicode, cs)
  match cs with
  | '\x7b' :: rest =>
    match skipBlank f rest with
    | [] => none
    | c :: rest =>
      if !isBoundaryChar c then some plain
      else
        let (name, rest) := boundaryName f (rest.length + 1) (c :: rest)
        match rest with
        | '\x7d' :: rest => (boundary? (!f.unicode) name).map (·, rest)
        | _ => none
  | _ => some plain

/-! ## Escapes -/

/-- Reads what follows a backslash. -/
def escape? (f : Flags) : List Char → Option (Escape × List Char)
  | [] => none
  | c :: cs =>
    if isMeta c || isEscapable c then some (.char c, cs)
    else if let some s := letterClass? f c then some (.set s, cs)
    else match c with
      | 'p' => (property? f false cs).map fun (s, rest) => (.set s, rest)
      | 'P' => (property? f true cs).map fun (s, rest) => (.set s, rest)
      | 'x' => (hexCode? f 2 cs).map fun (c, rest) => (.char c, rest)
      | 'u' => (hexCode? f 4 cs).map fun (c, rest) => (.char c, rest)
      | 'U' => (hexCode? f 8 cs).map fun (c, rest) => (.char c, rest)
      | 'a' => some (.char (Char.ofNat 0x07), cs)
      | 'f' => some (.char (Char.ofNat 0x0C), cs)
      | 't' => some (.char '\t', cs)
      | 'n' => some (.char '\n', cs)
      | 'r' => some (.char '\r', cs)
      | 'v' => some (.char (Char.ofNat 0x0B), cs)
      | 'A' => some (.anchor .textStart, cs)
      | 'z' => some (.anchor .textEnd, cs)
      | 'b' => (wordBoundary? f cs).map fun (a, rest) => (.anchor a, rest)
      | 'B' => some (.anchor (.notWordBoundary !f.unicode), cs)
      | '<' => some (.anchor (.wordStart !f.unicode), cs)
      | '>' => some (.anchor (.wordEnd !f.unicode), cs)
      | _ => none

theorem escape?_meta (f : Flags) {c : Char} (h : isMeta c = true) (cs : List Char) :
    escape? f (c :: cs) = some (.char c, cs) := by
  simp [escape?, h]

end Depot.Pattern
