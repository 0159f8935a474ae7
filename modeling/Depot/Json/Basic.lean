import Depot.Number.Decimal

/-!
# JSON values

The values that records hold. A number is an exact integer, signed or unsigned, of 64 bits or a
finite double, and the two kinds stay apart: `1` is not `1.0`. An object lists its fields in
increasing order of their keys; the operations on such lists are in `Depot.Json.Record`.

* `Json.same`: the equality of values as data. It differs from `=` in the two zeros of the
  doubles, which are the same datum.

Results:
* `Number.wrap_eq`: wrapping an integer that fits 64 bits with a sign does not change it.
* `Json.identical_iff`: equality of values is decided by comparing them piece by piece.
* `Json.same_refl`: every value is the same as itself.
-/

namespace Depot

/-- The integers that fit 64 bits with or without a sign. -/
abbrev Integer64 := { n : Int // -0x8000000000000000 ≤ n ∧ n < 0x10000000000000000 }

/-- The doubles that are numbers and not infinite. -/
abbrev FiniteDouble := { d : Double // d.isFinite = true }

/-- A number: an exact integer or a double. -/
inductive Number
  | int (value : Integer64)
  | real (value : FiniteDouble)
  deriving DecidableEq

namespace Number

/-- The integer `n` as a number, if it fits. -/
def ofInt? (n : Int) : Option Number :=
  if h : -0x8000000000000000 ≤ n ∧ n < 0x10000000000000000 then some (.int ⟨n, h⟩) else none

/-- A natural number as a number; what does not fit 64 bits becomes the greatest that does. -/
def ofNat (n : Nat) : Number :=
  .int ⟨min n 0xFFFFFFFFFFFFFFFF, by omega⟩

/-- The integer of 64 bits with a sign that is `n` but for a multiple of 2^64. -/
def wrap (n : Int) : Number :=
  .int ⟨Int.bmod n 0x10000000000000000, by
    have low := Int.le_bmod (x := n) (m := 0x10000000000000000) (by decide)
    have high := Int.bmod_lt (x := n) (m := 0x10000000000000000) (by decide)
    omega⟩

/-- A double as a number, if it is finite. -/
def ofDouble? (d : Double) : Option Number :=
  if h : d.isFinite = true then some (.real ⟨d, h⟩) else none

/-- The double nearest to a number. -/
def toDouble : Number → Double
  | .int n => Double.ofInt n.val
  | .real d => d.val

/-- A number as a signed integer of 64 bits, if it is one. -/
def toInt64? : Number → Option Int
  | .int n => if n.val ≤ Double.maxInt64 then some n.val else none
  | .real _ => none

/-- Equality as data: the two zeros among the doubles are the same. -/
def same : Number → Number → Bool
  | .int a, .int b => a.val == b.val
  | .real a, .real b => a.val.eq b.val
  | _, _ => false

/-- The text of a number. -/
def chars : Number → List Char
  | .int n => Text.intDigits n.val
  | .real d => Double.Layout.json.render d.val

theorem wrap_eq {n : Int} (low : -0x8000000000000000 ≤ n) (high : n < 0x8000000000000000) :
    some (wrap n) = ofInt? n := by
  have h : Int.bmod n 0x10000000000000000 = n := by
    unfold Int.bmod
    dsimp only
    split <;> omega
  have fits : -0x8000000000000000 ≤ n ∧ n < 0x10000000000000000 := by omega
  simp only [wrap, h, ofInt?, dif_pos fits]

theorem same_refl (n : Number) : n.same n = true := by
  cases n with
  | int n => simp [same]
  | real d =>
    have h := d.property
    simp only [Double.isFinite, decide_eq_true_eq] at h
    have : d.val.isNan = false := by
      simp only [Double.isNan, decide_eq_false_iff_not]
      omega
    simp [same, Double.eq, Double.order?, this]

end Number

/-- A JSON value. -/
inductive Json
  | null
  | bool (b : Bool)
  | num (n : Number)
  | str (s : String)
  | arr (items : List Json)
  | obj (fields : List (String × Json))

namespace Json

instance : Inhabited Json := ⟨.null⟩

/-- The natural number `n` as a value. -/
def nat (n : Nat) : Json := .num (.ofNat n)

/-- Whether a value is null. -/
def isNull : Json → Bool
  | .null => true
  | _ => false

/-- Whether a value is an array. -/
def isArray : Json → Bool
  | .arr _ => true
  | _ => false

/-! ## Equality -/

mutual

/-- Whether two values are equal. -/
def identical : Json → Json → Bool
  | .null, .null => true
  | .bool a, .bool b => a == b
  | .num a, .num b => decide (a = b)
  | .str a, .str b => a == b
  | .arr a, .arr b => identicalItems a b
  | .obj a, .obj b => identicalFields a b
  | _, _ => false

/-- Whether two lists of values are equal. -/
def identicalItems : List Json → List Json → Bool
  | [], [] => true
  | a :: as, b :: bs => identical a b && identicalItems as bs
  | _, _ => false

/-- Whether two lists of fields are equal. -/
def identicalFields : List (String × Json) → List (String × Json) → Bool
  | [], [] => true
  | (k, a) :: as, (l, b) :: bs => k == l && identical a b && identicalFields as bs
  | _, _ => false

end

mutual

theorem identical_iff : ∀ a b : Json, identical a b = true ↔ a = b
  | .null, b => by cases b <;> simp [identical]
  | .bool _, b => by cases b <;> simp [identical]
  | .num _, b => by cases b <;> simp [identical]
  | .str _, b => by cases b <;> simp [identical]
  | .arr as, b => by
    cases b <;> simp [identical]
    exact identicalItems_iff as _
  | .obj as, b => by
    cases b <;> simp [identical]
    exact identicalFields_iff as _

theorem identicalItems_iff : ∀ as bs : List Json, identicalItems as bs = true ↔ as = bs
  | [], bs => by cases bs <;> simp [identicalItems]
  | a :: as, bs => by
    cases bs with
    | nil => simp [identicalItems]
    | cons b bs => simp [identicalItems, identical_iff a b, identicalItems_iff as bs]

theorem identicalFields_iff :
    ∀ as bs : List (String × Json), identicalFields as bs = true ↔ as = bs
  | [], bs => by cases bs <;> simp [identicalFields]
  | (k, a) :: as, bs => by
    cases bs with
    | nil => simp [identicalFields]
    | cons b bs => simp [identicalFields, identical_iff a b.2, identicalFields_iff as bs, Prod.ext_iff]

end

instance : DecidableEq Json := fun a b =>
  decidable_of_iff (identical a b = true) (identical_iff a b)

mutual

/-- Equality as data. -/
def same : Json → Json → Bool
  | .null, .null => true
  | .bool a, .bool b => a == b
  | .num a, .num b => a.same b
  | .str a, .str b => a == b
  | .arr a, .arr b => sameItems a b
  | .obj a, .obj b => sameFields a b
  | _, _ => false

/-- Equality of lists of values as data. -/
def sameItems : List Json → List Json → Bool
  | [], [] => true
  | a :: as, b :: bs => same a b && sameItems as bs
  | _, _ => false

/-- Equality of lists of fields as data. -/
def sameFields : List (String × Json) → List (String × Json) → Bool
  | [], [] => true
  | (k, a) :: as, (l, b) :: bs => k == l && same a b && sameFields as bs
  | _, _ => false

end

mutual

theorem same_refl : ∀ a : Json, same a a = true
  | .null => rfl
  | .bool _ => by simp [same]
  | .num n => by simp [same, Number.same_refl]
  | .str _ => by simp [same]
  | .arr as => by simp [same, sameItems_refl as]
  | .obj as => by simp [same, sameFields_refl as]

theorem sameItems_refl : ∀ as : List Json, sameItems as as = true
  | [] => rfl
  | a :: as => by simp [sameItems, same_refl a, sameItems_refl as]

theorem sameFields_refl : ∀ as : List (String × Json), sameFields as as = true
  | [] => rfl
  | (_, a) :: as => by simp [sameFields, same_refl a, sameFields_refl as]

end

end Json

end Depot
