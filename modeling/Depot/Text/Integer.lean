import Depot.Text.Word

/-!
# Integers written in decimal

`Natural.parse limit cs` reads an optional `+` and ASCII digits as a natural number of at most
`limit`, from left to right, and stops at the first fault.

Results:
* `parse_le`: a number that is read is within the limit.
* `digits_of_parse`: what is read without a sign consists of ASCII digits.
-/

namespace Depot.Text

/-- Why a text is not an integer of the wanted type. -/
inductive IntegerFault
  | empty
  | invalidDigit
  | tooLarge
  deriving DecidableEq, Repr

/-- The wording of a fault. -/
def IntegerFault.message : IntegerFault → String
  | .empty => "cannot parse integer from empty string"
  | .invalidDigit => "invalid digit found in string"
  | .tooLarge => "number too large to fit in target type"

/-- The value of an ASCII digit. -/
def digitValue (c : Char) : Nat := c.toNat - 0x30

/-- The value of a hexadecimal digit. -/
def hexValue? (c : Char) : Option Nat :=
  let n := c.toNat
  if 0x30 ≤ n ∧ n ≤ 0x39 then some (n - 0x30)
  else if 0x41 ≤ n ∧ n ≤ 0x46 then some (n - 0x37)
  else if 0x61 ≤ n ∧ n ≤ 0x66 then some (n - 0x57)
  else none

namespace Natural

/-- Reads digits after the number `acc`. -/
def parseDigits (limit : Nat) (acc : Nat) : List Char → Except IntegerFault Nat
  | [] => .ok acc
  | c :: cs =>
    if isAsciiDigit c then
      let next := acc * 10 + digitValue c
      if next ≤ limit then parseDigits limit next cs else .error .tooLarge
    else .error .invalidDigit

/-- Reads a natural number of at most `limit`. -/
def parse (limit : Nat) : List Char → Except IntegerFault Nat
  | [] => .error .empty
  | c :: cs =>
    if c = '+' then
      if cs.isEmpty then .error .invalidDigit else parseDigits limit 0 cs
    else parseDigits limit 0 (c :: cs)

theorem parseDigits_le {limit acc n : Nat} {cs : List Char} (ha : acc ≤ limit)
    (h : parseDigits limit acc cs = .ok n) : n ≤ limit := by
  induction cs generalizing acc with
  | nil => simp_all [parseDigits]
  | cons c cs ih =>
    simp only [parseDigits] at h
    split at h
    · split at h
      · rename_i hn; exact ih hn h
      · simp at h
    · simp at h

theorem parse_le {limit n : Nat} {cs : List Char} (h : parse limit cs = .ok n) : n ≤ limit := by
  cases cs with
  | nil => simp [parse] at h
  | cons c cs =>
    simp only [parse] at h
    split at h
    · split at h
      · simp at h
      · exact parseDigits_le (Nat.zero_le _) h
    · exact parseDigits_le (Nat.zero_le _) h

theorem digits_of_parse {limit acc n : Nat} {cs : List Char}
    (h : parseDigits limit acc cs = .ok n) : ∀ c ∈ cs, isAsciiDigit c = true := by
  induction cs generalizing acc with
  | nil => simp
  | cons c cs ih =>
    simp only [parseDigits] at h
    split at h
    · rename_i hc
      split at h
      · simp only [List.mem_cons, forall_eq_or_imp]
        exact ⟨hc, ih h⟩
      · simp at h
    · simp at h

end Natural

/-! ## Writing -/

/-- The decimal digits of a natural number. -/
def natDigits (n : Nat) : List Char := Nat.toDigits 10 n

/-- A natural number in decimal, filled up with zeros on the left to `width` digits. -/
def padded (width n : Nat) : List Char :=
  let ds := natDigits n
  List.replicate (width - ds.length) '0' ++ ds

/-- An integer in decimal. -/
def intDigits (n : Int) : List Char :=
  if n < 0 then '-' :: natDigits n.natAbs else natDigits n.natAbs

end Depot.Text
