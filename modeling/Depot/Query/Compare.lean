import Depot.Query.Condition
import Depot.Query.Like
import Depot.Query.Sort
import Depot.Text.Blank
import Depot.Text.Case

/-!
# Comparing stored values

Stored values and operands are compared as a typed column would do it: a string that reads as a
number is that number, and a string or an integer can be a truth value. Null equals only null and
has no order. What has no other common reading is compared by its text.

* `looseEq`: equality, `order?`: order.
* `Condition.holds`: whether a value satisfies a condition.
* `Selection.selects`: whether a row is selected, `Selection.refuses`: whether that cannot be told.
* `compareRows`: the order of rows under sort keys.

Results:
* `looseEq_null_left`, `looseEq_null_right`: only null equals null.
* `looseEq_comm`: equality does not depend on the order of the operands.
* `Selection.refuses_of_isSound`: a sound selection refuses no row.
-/

namespace Depot

/-! ## Readings of a value -/

/-- A value as a number: a number, or a string that is the text of one. -/
def asNumber? : Json → Option Double
  | .num n => some n.toDouble
  | .str s => Double.parse (Text.trim s.toList)
  | _ => none

/-- A value as a truth value. -/
def asBool? : Json → Option Bool
  | .bool b => some b
  | .num n => n.toInt64?.map (· != 0)
  | .str s =>
    match Text.lowercaseAscii s with
    | "true" | "1" | "t" => some true
    | "false" | "0" | "f" => some false
    | _ => none
  | _ => none

/-! ## Equality and order -/

/-- Equality of values neither of which is null or a truth value. -/
def plainEq (a b : Json) : Bool :=
  match asNumber? a, asNumber? b with
  | some x, some y => x.eq y
  | _, _ => a.plainText == b.plainText

/-- Equality of values: null equals only null, and a truth value equals what reads as it. -/
def looseEq : Json → Json → Bool
  | .null, b => b.isNull
  | _, .null => false
  | .bool x, b => asBool? b == some x
  | a, .bool y => asBool? a == some y
  | a, b => plainEq a b

/-- The order of values, if they have one: numbers by size, others by text. -/
def order? (a b : Json) : Option Ordering :=
  if a.isNull || b.isNull then none
  else match asNumber? a, asNumber? b with
    | some x, some y => x.order? y
    | _, _ => some (compare a.plainText b.plainText)

theorem looseEq_null_left (b : Json) : looseEq .null b = b.isNull := by
  cases b <;> rfl

theorem looseEq_null_right (a : Json) : looseEq a .null = a.isNull := by
  cases a <;> rfl

theorem plainEq_comm (a b : Json) : plainEq a b = plainEq b a := by
  unfold plainEq
  cases asNumber? a with
  | none => cases asNumber? b <;> exact Bool.beq_comm
  | some x =>
    cases asNumber? b with
    | none => exact Bool.beq_comm
    | some y => exact x.eq_comm y

theorem looseEq_comm (a b : Json) : looseEq a b = looseEq b a := by
  cases a with
  | null => rw [looseEq_null_left, looseEq_null_right]
  | bool x =>
    cases b with
    | bool y => exact Bool.beq_comm
    | _ => rfl
  | _ =>
    cases b with
    | null | bool y => rfl
    | _ => simpa only [looseEq] using plainEq_comm _ _

/-! ## Conditions -/

/-- Whether a value satisfies a condition. -/
def Condition.holds (value : Json) : Condition → Bool
  | .eq x => looseEq value x
  | .ne x => !value.isNull && !looseEq value x
  | .gt x => order? value x == some .gt
  | .lt x => order? value x == some .lt
  | .range low high =>
    (order? value low == some .gt || order? value low == some .eq) &&
      (order? value high == some .lt || order? value high == some .eq)
  | .like p => !value.isNull && Like.test p.toList value.plainText.toList
  | .oneOf xs => xs.any (looseEq value)

/-- Whether a condition can be tested on any value. -/
def Condition.isSound : Condition → Bool
  | .like p => Like.fits p.toList
  | _ => true

namespace Selection

/-- Whether a row is selected. -/
def selects (s : Selection) (row : Record) : Bool :=
  s.fields.all (fun (field, expected) => looseEq (row.get field) expected) &&
    s.conditions.all (fun (field, c) => c.holds (row.get field))

/-- Whether all conditions can be tested on any row. -/
def isSound (s : Selection) : Bool := s.conditions.all fun (_, c) => c.isSound

/-- Whether a condition that cannot be tested comes before any that a row does not satisfy. Null
    satisfies no such condition, and that takes no test. -/
def getsStuck (row : Record) : List (String × Condition) → Bool
  | [] => false
  | (field, c) :: cs =>
    let v := row.get field
    if c.isSound || v.isNull then c.holds v && getsStuck row cs else true

/-- Whether it cannot be told if a row is selected. -/
def refuses (s : Selection) (row : Record) : Bool :=
  s.fields.all (fun (field, expected) => looseEq (row.get field) expected) &&
    getsStuck row s.conditions

theorem getsStuck_of_all (row : Record) {cs : List (String × Condition)}
    (h : cs.all (fun (_, c) => c.isSound) = true) : getsStuck row cs = false := by
  induction cs with
  | nil => rfl
  | cons entry cs ih =>
    obtain ⟨field, c⟩ := entry
    simp only [List.all_cons, Bool.and_eq_true] at h
    simp [getsStuck, h.1, ih h.2]

theorem refuses_of_isSound {s : Selection} (h : s.isSound = true) (row : Record) :
    s.refuses row = false := by
  rw [refuses, getsStuck_of_all row h, Bool.and_false]

end Selection

/-! ## Sorting -/

/-- The order of two values in an ascending column: nulls come last. -/
def compareCells (a b : Json) : Ordering :=
  match a.isNull, b.isNull with
  | true, true => .eq
  | true, false => .gt
  | false, true => .lt
  | false, false => (order? a b).getD .eq

/-- The order of two values in a direction. -/
def compareDirected (d : Direction) (a b : Json) : Ordering :=
  match d with
  | .asc => compareCells a b
  | .desc => (compareCells a b).swap

/-- The order of two rows: the first sort key that tells them apart decides. -/
def compareRows (a b : Record) : List SortKey → Ordering
  | [] => .eq
  | k :: ks =>
    match compareDirected k.direction (a.get k.field) (b.get k.field) with
    | .eq => compareRows a b ks
    | o => o

/-- Puts a row among sorted rows, the last one first: it comes before the rows that it is less
    than. -/
def insertRow (keys : List SortKey) (row : Record) : List Record → List Record
  | [] => [row]
  | r :: rest =>
    if compareRows row r keys = .lt then r :: insertRow keys row rest else row :: r :: rest

/-- Rows in the order of sort keys; rows that no key tells apart stay in their order. -/
def sortRows (keys : List SortKey) (rows : List Record) : List Record :=
  (rows.foldl (fun sorted row => insertRow keys row sorted) []).reverse

end Depot
