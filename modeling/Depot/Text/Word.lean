import Depot.Unicode.Letter

/-!
# Digits, letters and word characters

The classes of characters that key paths, filters and patterns refer to. What patterns can ask for
goes by the sixteenth edition of the tables; the letters of the names of groups go by the
seventeenth.

* `isDigit`: the decimal digits of every script.
* `isWord`: letters, marks, digits, connectors and the two joiners, that is the characters of which
  a name may consist.
* `isLetter`, `isLetterOrNumber`: the letters in the wide sense, and these with all numbers.

Results:
* `isDigit_ascii`, `isWord_ascii`: below `U+0080` the classes are `[0-9]` and `[0-9A-Za-z_]`.
-/

namespace Depot.Text

open Unicode

/-- `[0-9]`. -/
def isAsciiDigit (c : Char) : Bool := 0x30 ≤ c.toNat && c.toNat ≤ 0x39

/-- `[A-Za-z]`. -/
def isAsciiLetter (c : Char) : Bool :=
  (0x41 ≤ c.toNat && c.toNat ≤ 0x5A) || (0x61 ≤ c.toNat && c.toNat ≤ 0x7A)

/-- `[0-9A-Za-z_]`. -/
def isAsciiWord (c : Char) : Bool := isAsciiDigit c || isAsciiLetter c || c.toNat == 0x5F

/-- The decimal digits. -/
def digits : CharSet := Category.set .sixteenth .decimalNumber

/-- The characters of which names consist. -/
def wordCharacters : CharSet := word .sixteenth

/-- The letters in the wide sense. -/
def letters : CharSet := alphabetic .seventeenth

/-- Numbers of every kind. -/
def numbers : CharSet := Category.sets .seventeenth [.decimalNumber, .letterNumber, .otherNumber]

/-- A decimal digit of any script. -/
def isDigit (c : Char) : Bool := if c.toNat < 0x80 then isAsciiDigit c else digits.mem c

/-- A character of which names consist. -/
def isWord (c : Char) : Bool := if c.toNat < 0x80 then isAsciiWord c else wordCharacters.mem c

/-- A letter of any script. -/
def isLetter (c : Char) : Bool := if c.toNat < 0x80 then isAsciiLetter c else letters.mem c

/-- A letter or a number of any script. -/
def isLetterOrNumber (c : Char) : Bool :=
  if c.toNat < 0x80 then isAsciiLetter c || isAsciiDigit c else letters.mem c || numbers.mem c

theorem isDigit_ascii {c : Char} (h : c.toNat < 0x80) : isDigit c = isAsciiDigit c := by
  simp [isDigit, h]

theorem isWord_ascii {c : Char} (h : c.toNat < 0x80) : isWord c = isAsciiWord c := by
  simp [isWord, h]

end Depot.Text
