/-!
# Double-precision numbers

A `Double` is a 64-bit floating point number given by its sign and by the 63 bits below it, read
as one natural number, its magnitude. Magnitudes are ordered as the absolute values they stand
for, so comparing two doubles is comparing two integers. All arithmetic is exact arithmetic on
fractions followed by one rounding, `nearest`.

* `nearest`: the magnitude nearest to a fraction; a fraction half way between two magnitudes goes
  to the even one, and one beyond the largest finite double goes to infinity.
* `order?`: the order of two doubles, which a not-a-number has with none.
* `ofInt`, `ofDecimal`, `mul`, `div`: the doubles nearest to the exact results.
* `truncate`: the integer part, held within the range of 64-bit integers.

Results:
* `order?_isSome_iff`: exactly the not-a-numbers are unordered.
* `order?_swap`: the order of two doubles reverses with the operands.
* `eq_comm`: equality does not depend on the order of the operands.
* `truncate_mem`: a truncated double fits 64 bits.
-/

namespace Depot

/-- A floating point number: its sign, and its exponent and fraction bits as one number. -/
structure Double where
  negative : Bool
  magnitude : Fin 0x8000000000000000
  deriving DecidableEq

namespace Double

/-- Powers of natural numbers are the core library's, whatever other powers are known. -/
scoped instance (priority := 5000) natPow : Pow Nat Nat := instPowNat

/-- The magnitude of the two infinities; greater ones are not numbers. -/
def infinityMagnitude : Nat := 0x7FF0000000000000

/-- The double with a given sign and magnitude; magnitudes beyond infinity become infinite. -/
def ofMagnitude (negative : Bool) (m : Nat) : Double :=
  ⟨negative, ⟨min m infinityMagnitude, by unfold infinityMagnitude; omega⟩⟩

/-- A value that is not a number. -/
def nan : Double := ⟨false, ⟨0x7FF8000000000000, by decide⟩⟩

/-- Infinity of a given sign. -/
def infinity (negative : Bool) : Double := ofMagnitude negative infinityMagnitude

/-- Zero of a given sign. -/
def zero (negative : Bool) : Double := ofMagnitude negative 0

/-- Whether the value is not a number. -/
def isNan (d : Double) : Bool := infinityMagnitude < d.magnitude.val

/-- Whether the value is a number other than the infinities. -/
def isFinite (d : Double) : Bool := d.magnitude.val < infinityMagnitude

/-- Whether the value is a zero. -/
def isZero (d : Double) : Bool := d.magnitude.val == 0

/-- The number with the other sign. -/
def negate (d : Double) : Double := { d with negative := !d.negative }

/-! ## Order -/

/-- The position of a number among all numbers; the two zeros share one. -/
def position (d : Double) : Int :=
  if d.negative then -(d.magnitude.val : Int) else d.magnitude.val

/-- The order of two doubles, if both are numbers. -/
def order? (a b : Double) : Option Ordering :=
  if a.isNan || b.isNan then none else some (compare a.position b.position)

/-- Numeric equality: a not-a-number equals nothing, and the two zeros are equal. -/
def eq (a b : Double) : Bool := a.order? b == some .eq

/-- Whether `a` is below `b`. -/
def lt (a b : Double) : Bool := a.order? b == some .lt

/-! ## Rounding -/

/-- The significand and the exponent of two of a magnitude. -/
def significand (magnitude : Nat) : Nat × Int :=
  let e : Nat := magnitude / 2 ^ (52 : Nat)
  let f : Nat := magnitude % 2 ^ (52 : Nat)
  if e = 0 then (f, -1074) else (2 ^ (52 : Nat) + f, (e : Int) - 1075)

/-- The absolute value of a finite double as a fraction. -/
def toFraction (d : Double) : Nat × Nat :=
  let (m, q) := significand d.magnitude.val
  if 0 ≤ q then (m * 2 ^ q.toNat, 1) else (m, 2 ^ (-q).toNat)

/-- The quotient of `num` by `den`, rounded to the nearest natural number, a half to the even
    one. -/
def divNearest (num den : Nat) : Nat :=
  let m := num / den
  let r := num % den
  if den < 2 * r ∨ (2 * r = den ∧ m % 2 = 1) then m + 1 else m

/-- The fraction `num / den` divided by a power of two. -/
def scaleDown (num den : Nat) (q : Int) : Nat × Nat :=
  if 0 ≤ q then (num, den * 2 ^ q.toNat) else (num * 2 ^ (-q).toNat, den)

/-- The magnitude nearest to a fraction. -/
def nearest (num den : Nat) : Nat :=
  if num = 0 ∨ den = 0 then 0
  else
    let high : Int := (num.log2 : Int) - den.log2 - 52
    let (n, d) := scaleDown num den high
    let q := max (if n < d * 2 ^ (52 : Nat) then high - 1 else high) (-1074)
    let (n, d) := scaleDown num den q
    min ((q + 1074).toNat * 2 ^ (52 : Nat) + divNearest n d) infinityMagnitude

/-- The double nearest to a fraction, with a sign. -/
def ofFraction (negative : Bool) (num den : Nat) : Double :=
  ofMagnitude negative (nearest num den)

/-- The double nearest to an integer. -/
def ofInt (n : Int) : Double := ofFraction (n < 0) n.natAbs 1

/-- The double nearest to `digits · 10 ^ exponent`. -/
def ofDecimal (negative : Bool) (digits : Nat) (exponent : Int) : Double :=
  if digits = 0 then zero negative
  else if 400 < exponent then infinity negative
  else if exponent + digits.log2 / 3 + 1 < -400 then zero negative
  else if 0 ≤ exponent then ofFraction negative (digits * 10 ^ exponent.toNat) 1
  else ofFraction negative digits (10 ^ (-exponent).toNat)

/-- The product of two finite doubles. -/
def mul (a b : Double) : Double :=
  let (n, d) := a.toFraction
  let (n', d') := b.toFraction
  ofFraction (a.negative != b.negative) (n * n') (d * d')

/-- The quotient of two finite doubles, the second one not zero. -/
def div (a b : Double) : Double :=
  let (n, d) := a.toFraction
  let (n', d') := b.toFraction
  ofFraction (a.negative != b.negative) (n * d') (d * n')

/-! ## Integer part -/

/-- The least 64-bit integer. -/
def minInt64 : Int := -0x8000000000000000

/-- The greatest 64-bit integer. -/
def maxInt64 : Int := 0x7FFFFFFFFFFFFFFF

/-- The integer part, toward zero. Values beyond the 64-bit integers go to the nearest of these,
    and what is not a number goes to zero. -/
def truncate (d : Double) : Int :=
  if d.isNan then 0
  else
    let (n, den) := d.toFraction
    let whole : Int := (n / den : Nat)
    max minInt64 (min maxInt64 (if d.negative then -whole else whole))

/-! ## Laws -/

theorem order?_isSome_iff (a b : Double) :
    (a.order? b).isSome ↔ a.isNan = false ∧ b.isNan = false := by
  unfold order?
  cases a.isNan <;> cases b.isNan <;> simp

theorem order?_swap (a b : Double) : b.order? a = (a.order? b).map Ordering.swap := by
  unfold order?
  cases a.isNan <;> cases b.isNan <;> simp [Int.compare_swap]

theorem eq_comm (a b : Double) : a.eq b = b.eq a := by
  rw [eq, eq, order?_swap a b]
  cases a.order? b with
  | none => rfl
  | some o => cases o <;> rfl

theorem truncate_mem (d : Double) : minInt64 ≤ d.truncate ∧ d.truncate ≤ maxInt64 := by
  unfold truncate minInt64 maxInt64
  split
  · omega
  · dsimp only
    omega

end Double

end Depot
