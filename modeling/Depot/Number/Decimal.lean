import Depot.Number.Double
import Depot.Text.Blank
import Depot.Text.Integer

/-!
# Decimal texts of doubles

A finite double is written with the fewest digits that read back as the same double. Among the
decimals with that many digits the nearest to the double is taken. Which of two equally near ones
is taken, and where the digits go, is said by a `Layout`.

* `shortest`: the digits and their power of ten.
* `Layout.json`, `Layout.plain`: the two ways in which the program writes numbers.
* `Double.parse`: the double nearest to a decimal text.
-/

namespace Depot

namespace Double

/-! ## Fewest digits -/

/-- Whether `num / den` is below `10 ^ e`. -/
def belowPower (num den : Nat) (e : Int) : Bool :=
  if 0 ≤ e then num < den * 10 ^ e.toNat else num * 10 ^ (-e).toNat < den

/-- The least `e` for which the positive fraction `num / den` is below `10 ^ e`. -/
def decimalPoint (num den : Nat) : Int :=
  let guess := ((num.log2 : Int) - den.log2) * 30103 / 100000
  (([guess - 1, guess, guess + 1, guess + 2].find? (belowPower num den))).getD (guess + 3)

/-- A rounding interval: everything strictly between `low / den` and `high / den` reads as
    `value / den`, and so do the two ends if `closed`. -/
structure Interval where
  low : Nat
  value : Nat
  high : Nat
  den : Nat
  closed : Bool

/-- The rounding interval of a finite magnitude. The numbers below a power of two are twice as
    dense as those above it, so its lower end is nearer. -/
def interval (magnitude : Nat) : Interval :=
  let (m, q) := significand magnitude
  let below := if m = 2 ^ (52 : Nat) ∧ -1074 < q then 4 * m - 1 else 4 * m - 2
  let e := q - 2
  let scale := 2 ^ e.toNat
  ⟨below * scale, 4 * m * scale, (4 * m + 2) * scale, 2 ^ (-e).toNat, m % 2 = 0⟩

/-- Whether `c · 10 ^ p` lies in the interval. -/
def Interval.holds (i : Interval) (c : Nat) (p : Int) : Bool :=
  let x := c * 10 ^ p.toNat * i.den
  let unit := 10 ^ (-p).toNat
  (i.low * unit < x && x < i.high * unit) ||
    (i.closed && (x == i.low * unit || x == i.high * unit))

/-- Which of two equally near decimals is taken: the greater one, or the one whose last digit is
    even. -/
inductive Tie
  | up
  | even
  deriving DecidableEq, Repr

/-- Whether of the equally near `c` and `c + 1` the latter is taken. -/
def Tie.takesNext : Tie → (c : Nat) → Bool
  | .up, _ => true
  | .even, c => c % 2 = 1

/-- The multiple of `10 ^ p` that is nearest to the interval's value, if one of the two
    neighbours of the value lies in the interval. -/
def Interval.onGrid (i : Interval) (tie : Tie) (p : Int) : Option Nat :=
  let unit := i.den * 10 ^ p.toNat
  let scaled := i.value * 10 ^ (-p).toNat
  let c := scaled / unit
  let r := scaled % unit
  match i.holds c p, i.holds (c + 1) p with
  | true, true => some (if unit < 2 * r || (2 * r == unit && tie.takesNext c) then c + 1 else c)
  | true, false => some c
  | false, true => some (c + 1)
  | false, false => none

/-- Takes trailing zeros off `digits · 10 ^ p`; `fuel` bounds their number. -/
def stripZeros : (fuel : Nat) → Nat → Int → Nat × Int
  | 0, digits, p => (digits, p)
  | fuel + 1, digits, p =>
    if digits % 10 = 0 then stripZeros fuel (digits / 10) (p + 1) else (digits, p)

/-- The digits and the power of ten of the shortest decimal for a positive finite magnitude. -/
def shortest (tie : Tie) (magnitude : Nat) : Nat × Int :=
  let i := interval magnitude
  let point := decimalPoint i.value i.den
  let found := (List.range 17).findSome? fun (n : Nat) =>
    let p := point - 1 - (n : Int)
    (i.onGrid tie p).map fun c => (c, p)
  let (c, p) := found.getD (0, 0)
  stripZeros 20 c p

/-! ## Layout -/

/-- How a number is written. It is written positionally if the exponent of its first digit lies
    from `lowest` to below `limit`, and in scientific form otherwise; `fraction` tells whether a
    whole number shows `.0`, and `tie` which of two equally near decimals is written. -/
structure Layout where
  lowest : Option Int
  limit : Option Int
  fraction : Bool
  tie : Tie

/-- Stored numbers: positional from 0.00001 to below 10^16, with a fraction; a half goes to the
    even digit. -/
def Layout.json : Layout := ⟨some (-5), some 16, true, .even⟩

/-- Numbers in messages: always positional, whole ones without a fraction; a half goes up. -/
def Layout.plain : Layout := ⟨none, none, false, .up⟩

/-- Whether a number whose first digit has exponent `e` is written positionally. -/
def Layout.positional (l : Layout) (e : Int) : Bool :=
  (match l.lowest with | some b => decide (b ≤ e) | none => true) &&
    (match l.limit with | some b => decide (e < b) | none => true)

/-- The digits `ds` with the point after the first `point` of them. -/
def Layout.place (l : Layout) (ds : List Char) (point : Int) : List Char :=
  if point ≤ 0 then ['0', '.'] ++ List.replicate (-point).toNat '0' ++ ds
  else if (ds.length : Int) ≤ point then
    ds ++ List.replicate (point - ds.length).toNat '0' ++ (if l.fraction then ['.', '0'] else [])
  else ds.take point.toNat ++ '.' :: ds.drop point.toNat

/-- The digits `ds` in scientific form, where the first digit has exponent `e`. -/
def Layout.scientific (ds : List Char) (e : Int) : List Char :=
  let digits := match ds with
    | d :: rest@(_ :: _) => d :: '.' :: rest
    | _ => ds
  digits ++ 'e' :: (if e < 0 then ['-'] else ['+']) ++ Text.natDigits e.natAbs

/-- The text of a double in a layout. -/
def Layout.render (l : Layout) (d : Double) : List Char :=
  if d.isNan then ['N', 'a', 'N']
  else
    let body :=
      if !d.isFinite then ['i', 'n', 'f']
      else if d.isZero then '0' :: (if l.fraction then ['.', '0'] else [])
      else
        let (digits, p) := shortest l.tie d.magnitude.val
        let ds := Text.natDigits digits
        let point := p + ds.length
        if l.positional (point - 1) then l.place ds point else Layout.scientific ds (point - 1)
    if d.negative then '-' :: body else body

/-! ## Reading -/

/-- The digits at the start of a text and what follows them. -/
def digitSpan (cs : List Char) : List Char × List Char :=
  (cs.takeWhile Text.isAsciiDigit, cs.dropWhile Text.isAsciiDigit)

/-- The number written by a list of digits. -/
def digitsValue (ds : List Char) : Nat := ds.foldl (fun n c => n * 10 + Text.digitValue c) 0

/-- Takes a sign off a text: whether it is negative, and the rest. -/
def signOf : List Char → Bool × List Char
  | '-' :: cs => (true, cs)
  | '+' :: cs => (false, cs)
  | cs => (false, cs)

/-- Reads the exponent that ends a decimal, if the text is nothing else. -/
def parseExponent : List Char → Option Int
  | [] => some 0
  | c :: cs =>
    if c = 'e' ∨ c = 'E' then
      let (negative, digits) := signOf cs
      if digits.isEmpty || !digits.all Text.isAsciiDigit then none
      else
        let n : Int := digitsValue digits
        some (if negative then -n else n)
    else none

/-- Reads a decimal without a sign: digits with an optional point among or beside them, and an
    optional exponent. -/
def parseUnsigned (negative : Bool) (cs : List Char) : Option Double :=
  let (whole, rest) := digitSpan cs
  let (fraction, rest) := match rest with
    | '.' :: rest => digitSpan rest
    | _ => ([], rest)
  if whole.isEmpty && fraction.isEmpty then none
  else (parseExponent rest).map fun e =>
    ofDecimal negative (digitsValue (whole ++ fraction)) (e - fraction.length)

/-- Reads a double: a decimal, or a name of infinity or of what is not a number in any letter
    case, after an optional sign. -/
def parse (cs : List Char) : Option Double :=
  let (negative, body) := signOf cs
  match body.map Char.toLower with
  | ['i', 'n', 'f'] | ['i', 'n', 'f', 'i', 'n', 'i', 't', 'y'] => some (infinity negative)
  | ['n', 'a', 'n'] => some { nan with negative := negative }
  | _ => parseUnsigned negative body

end Double

end Depot
