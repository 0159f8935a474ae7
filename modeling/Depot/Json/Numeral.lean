import Depot.Json.Basic

/-!
# Numbers in JSON texts

A number is read into a significand of 64 bits and a power of ten. Digits that no longer fit the
significand are dropped; those before the point still count for the power of ten. A number without
point and exponent that fits 64 bits is exact; any other is the significand, rounded to a double,
times or over the power of ten, rounded again. Values that reach infinity are not numbers.

* `Numeral.scan?`: takes a number's text off the front of a text.
* `Numeral.value?`: the number that it stands for.
-/

namespace Depot.Json

/-- A number as it is written. -/
structure Numeral where
  negative : Bool
  whole : List Char
  fraction : Option (List Char)
  exponent : Option (Bool × List Char)

namespace Numeral

open Double (digitSpan digitsValue)

/-! ## Form -/

/-- The part after the point, if the text goes on with a point; it has at least one digit. -/
def scanFraction? : List Char → Option (Option (List Char) × List Char)
  | '.' :: cs =>
    let (digits, rest) := digitSpan cs
    if digits.isEmpty then none else some (some digits, rest)
  | cs => some (none, cs)

/-- The exponent, if the text goes on with one: whether it is negative, and its digits. -/
def scanExponent? : List Char → Option (Option (Bool × List Char) × List Char)
  | c :: cs =>
    if c = 'e' ∨ c = 'E' then
      let (negative, cs) := Double.signOf cs
      let (digits, rest) := digitSpan cs
      if digits.isEmpty then none else some (some (negative, digits), rest)
    else some (none, c :: cs)
  | [] => some (none, [])

/-- Takes a number off the front of a text. A whole part of several digits has no leading zero. -/
def scan? (cs : List Char) : Option (Numeral × List Char) :=
  let (negative, cs) := match cs with
    | '-' :: cs => (true, cs)
    | cs => (false, cs)
  let (whole, rest) := digitSpan cs
  match whole with
  | [] => none
  | '0' :: _ :: _ => none
  | _ => do
    let (fraction, rest) ← scanFraction? rest
    let (exponent, rest) ← scanExponent? rest
    some (⟨negative, whole, fraction, exponent⟩, rest)

/-! ## Value -/

/-- The greatest significand. -/
def maxSignificand : Nat := 0xFFFFFFFFFFFFFFFF

/-- Appends digits to a significand while it fits; the digits that are left over come back. -/
def gather (significand : Nat) : List Char → Nat × List Char
  | [] => (significand, [])
  | c :: cs =>
    let next := significand * 10 + Text.digitValue c
    if next ≤ maxSignificand then gather next cs else (significand, c :: cs)

/-- The greatest power of ten that is a double. -/
def maxPower : Nat := 308

/-- A power of ten as a double. -/
def power (n : Nat) : Double := Double.ofDecimal false 1 n

/-- Scales a double by a power of ten. Three divisions by the greatest power take every
    significand to zero, so four steps are enough. -/
def scale : (steps : Nat) → Double → Int → Option Double
  | 0, d, _ => some d
  | steps + 1, d, e =>
    if e.natAbs ≤ maxPower then
      let scaled := if 0 ≤ e then d.mul (power e.toNat) else d.div (power e.natAbs)
      if scaled.isFinite then some scaled else none
    else if d.isZero then some d
    else if 0 ≤ e then none
    else scale steps (d.div (power maxPower)) (e + maxPower)

/-- A significand and a power of ten as a number. -/
def ofParts (negative : Bool) (significand : Nat) (e : Int) : Option Number := do
  let d ← scale 4 (Double.ofInt significand) e
  Number.ofDouble? (if negative then d.negate else d)

/-- The number that a significand, a power of ten and a written exponent stand for. An exponent
    beyond 32 bits leaves a zero if it is negative or the significand is zero. -/
def withExponent (negative : Bool) (significand : Nat) (e : Int) :
    Option (Bool × List Char) → Option Number
  | none => ofParts negative significand e
  | some (down, digits) =>
    let n := digitsValue digits
    if 0x7FFFFFFF < n then
      if significand ≠ 0 ∧ !down then none else Number.ofDouble? (.zero negative)
    else ofParts negative significand (if down then e - n else e + n)

/-- The number that a numeral stands for, if it is finite. -/
def value? (n : Numeral) : Option Number :=
  let (significand, spill) := gather 0 n.whole
  match n.fraction, n.exponent with
  | none, none =>
    if spill.isEmpty then
      if !n.negative then Number.ofInt? significand
      else if significand = 0 ∨ 0x8000000000000000 < significand then
        Number.ofDouble? (Double.ofInt significand).negate
      else Number.ofInt? (-significand)
    else ofParts n.negative significand spill.length
  | none, some e => withExponent n.negative significand spill.length (some e)
  | some fraction, e =>
    let (significand', rest) := gather significand fraction
    let shift : Int := fraction.length - rest.length
    withExponent n.negative significand' (spill.length - shift) e

end Numeral

end Depot.Json
