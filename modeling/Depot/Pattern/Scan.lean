import Depot.Pattern.Class
import Depot.Text.Integer

/-!
# Reading a pattern

What the notation of patterns is read with: the switches in force, blanks that do not count, and
numbers whose digits may stand apart.

* `Flags`: the switches, `Flags.foldSet` and `Flags.close?`: a set under them.
* `skipBlank`: a text without the blanks and comments in front of it.
* `hexCode?`: a character written by its code, `decimal?`: a number.

Results:
* `skipBlank_of_counts`: where blanks count none are skipped.
* `isAscii_of_checked?`: without Unicode a set has ASCII characters only.
-/

namespace Depot.Pattern

/-- The switches in force at a place in a pattern. -/
structure Flags where
  ignoreCase : Bool := false
  multiLine : Bool := false
  dotAll : Bool := false
  unicode : Bool := true
  ignoreBlank : Bool := false
  crlf : Bool := false
  swapGreed : Bool := false

namespace Flags

/-- A set with all forms of its letters, if letter case does not count. -/
def foldSet (f : Flags) (s : CharSet) : CharSet :=
  if !f.ignoreCase then s
  else if f.unicode then s.anyCase
  else s.anyAsciiCase

/-- A set that may stand in a pattern: without Unicode it has ASCII characters only. -/
def checked? (f : Flags) (s : CharSet) : Option CharSet :=
  if f.unicode || s.isAscii then some s else none

/-- A set or its complement, if it may stand in a pattern. -/
def close? (f : Flags) (negated : Bool) (s : CharSet) : Option CharSet :=
  f.checked? (if negated then s.compl else s)

/-- Whether a character may be in a class. -/
def allows (f : Flags) (c : Char) : Bool := f.unicode || c.toNat < 0x80

end Flags

theorem isAscii_of_checked? {f : Flags} {s t : CharSet} (hf : f.unicode = false)
    (h : f.checked? s = some t) : t.isAscii = true := by
  unfold Flags.checked? at h
  split at h
  · rename_i hs
    rw [← Option.some.inj h]
    simpa [hf] using hs
  · exact absurd h (by simp)

/-! ## Blanks -/

/-- In a pattern whose blanks do not count, a text without leading blanks and comments. -/
def skipBlank (f : Flags) : List Char → List Char
  | [] => []
  | c :: cs =>
    if !f.ignoreBlank then c :: cs
    else if Text.isBlank c then skipBlank f cs
    else if c = '#' then skipComment f cs
    else c :: cs
where
  /-- A text after the end of the line that it starts in. -/
  skipComment (f : Flags) : List Char → List Char
    | [] => []
    | c :: cs => if c = '\n' then skipBlank f cs else skipComment f cs

theorem skipBlank_of_counts {f : Flags} (h : f.ignoreBlank = false) (cs : List Char) :
    skipBlank f cs = cs := by
  cases cs with
  | nil => rfl
  | cons c cs => simp [skipBlank, h]

/-! ## Numbers -/

/-- The character of a code point. -/
def charOf? (n : Nat) : Option Char := if n.isValidChar then some (Char.ofNat n) else none

/-- Reads `count` hexadecimal digits, after each of which blanks may stand, after the number
    `acc`. -/
def hexDigits? (f : Flags) : (count acc : Nat) → List Char → Option (Nat × List Char)
  | 0, acc, cs => some (acc, cs)
  | _ + 1, _, [] => none
  | n + 1, acc, c :: cs => do
    let d ← Text.hexValue? c
    let rest := skipBlank f cs
    hexDigits? f n (acc * 16 + d) rest

/-- Reads hexadecimal digits up to a closing brace, after the number `acc` if there was a digit. -/
def hexBraces? (f : Flags) : (fuel : Nat) → (acc : Option Nat) → List Char →
    Option (Nat × List Char)
  | 0, _, _ => none
  | fuel + 1, acc, cs =>
    match skipBlank f cs with
    | [] => none
    | '\x7d' :: rest => acc.map fun n => (n, skipBlank f rest)
    | c :: rest => do
      let d ← Text.hexValue? c
      hexBraces? f fuel (some (acc.getD 0 * 16 + d)) rest

/-- Reads the code of a character after its letter: digits in braces, or `width` of them. Without
    Unicode two digits are a byte, which has to be ASCII. -/
def hexCode? (f : Flags) (width : Nat) (cs : List Char) : Option (Char × List Char) :=
  match skipBlank f cs with
  | '\x7b' :: rest => do
    let (n, rest) ← hexBraces? f (rest.length + 1) none rest
    some (← charOf? n, rest)
  | rest => do
    let (n, rest) ← hexDigits? f width 0 rest
    let c ← charOf? n
    if width = 2 && !f.allows c then none else some (c, rest)

/-- The digits that a text starts with, the blanks between and after them skipped; `fuel` bounds
    their number. -/
def digitsFrom (f : Flags) : (fuel : Nat) → List Char → List Char × List Char
  | 0, cs => ([], cs)
  | _ + 1, [] => ([], [])
  | fuel + 1, c :: cs =>
    if Text.isAsciiDigit c then
      let (digits, rest) := digitsFrom f fuel (skipBlank f cs)
      (c :: digits, rest)
    else ([], c :: cs)

/-- A text after the blanks in front of it, and comments behind a blank that does not count. -/
def afterBlanks (f : Flags) : (fuel : Nat) → List Char → List Char
  | 0, cs => cs
  | _ + 1, [] => []
  | fuel + 1, c :: cs =>
    if Text.isBlank c then afterBlanks f fuel (skipBlank f cs) else c :: cs

/-- The greatest number of repetitions. -/
def greatestCount : Nat := 0xFFFFFFFF

/-- Reads a number and the blanks around it. -/
def decimal? (f : Flags) (cs : List Char) : Option (Nat × List Char) :=
  let cs := cs.dropWhile Text.isBlank
  let (digits, rest) := digitsFrom f cs.length cs
  match Text.Natural.parse greatestCount digits with
  | .ok n => some (n, afterBlanks f rest.length rest)
  | .error _ => none

end Depot.Pattern
