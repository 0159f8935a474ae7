import Depot.Text.Integer

/-!
# Instants

An instant is a number of milliseconds since the start of 1970, and is written as its date and
time of day in UTC. Only instants from 1970 on occur.

* `Date.ofDay`: the calendar date of a day counted from the start of the year 0.
* `Instant.text?`: the ISO 8601 form, with milliseconds.

Results:
* `yearOf_spec`: a day lies between the start of its year and the start of the next one.
-/

namespace Depot

/-- A date of the Gregorian calendar. -/
structure Date where
  year : Nat
  month : Nat
  day : Nat
  deriving DecidableEq, Repr

namespace Date

/-- The number of leap years before a year, counted from the year 0. -/
def leapYearsBefore (y : Nat) : Nat := (y + 3) / 4 - (y + 99) / 100 + (y + 399) / 400

/-- The first day of a year. -/
def yearStart (y : Nat) : Nat := 365 * y + leapYearsBefore y

/-- The year of a day: the mean length of a year puts it within one year. -/
def yearOf (d : Nat) : Nat :=
  let guess := d * 400 / 146097
  if d < yearStart guess then guess - 1
  else if yearStart (guess + 1) ≤ d then guess + 1
  else guess

/-- Whether a year has a 29 February. -/
def isLeap (y : Nat) : Bool := y % 4 == 0 && (y % 100 != 0 || y % 400 == 0)

/-- The lengths of the months of a year. -/
def monthLengths (y : Nat) : List Nat :=
  [31, if isLeap y then 29 else 28, 31, 30, 31, 30, 31, 31, 30, 31, 30, 31]

/-- The month and the day of the month of a day of the year, where the first of the given month
    lengths belongs to `month`. -/
def monthAndDay (month : Nat) : List Nat → Nat → Nat × Nat
  | [], d => (month, d + 1)
  | l :: ls, d => if d < l then (month, d + 1) else monthAndDay (month + 1) ls (d - l)

/-- The date of a day counted from the start of the year 0. -/
def ofDay (d : Nat) : Date :=
  let y := yearOf d
  let (m, day) := monthAndDay 1 (monthLengths y) (d - yearStart y)
  ⟨y, m, day⟩

theorem yearOf_spec (d : Nat) : yearStart (yearOf d) ≤ d ∧ d < yearStart (yearOf d + 1) := by
  unfold yearOf
  generalize hg : d * 400 / 146097 = g
  dsimp only
  split
  · rename_i h
    cases g with
    | zero => exact absurd h (by simp [yearStart, leapYearsBefore])
    | succ k =>
      refine ⟨?_, h⟩
      unfold yearStart leapYearsBefore
      omega
  · rename_i h
    split
    · rename_i h'
      refine ⟨h', ?_⟩
      unfold yearStart leapYearsBefore
      omega
    · omega

end Date

namespace Instant

/-- The day on which 1970 starts. -/
def epochDay : Nat := 719528

/-- The last millisecond that has a calendar date: the end of the year 262142. -/
def last : Nat := 8210266876799999

/-- The digits of a year: four, or more after a plus sign. -/
def yearChars (y : Nat) : List Char :=
  if y ≤ 9999 then Text.padded 4 y else '+' :: Text.padded 4 y

/-- The characters of an instant's ISO 8601 form. -/
def chars (millis : Nat) : List Char :=
  let date := Date.ofDay (epochDay + millis / 86400000)
  let ms := millis % 86400000
  yearChars date.year ++ '-' :: Text.padded 2 date.month ++ '-' :: Text.padded 2 date.day ++
    'T' :: Text.padded 2 (ms / 3600000) ++ ':' :: Text.padded 2 (ms / 60000 % 60) ++
    ':' :: Text.padded 2 (ms / 1000 % 60) ++ '.' :: Text.padded 3 (ms % 1000) ++ ['Z']

/-- The ISO 8601 form of an instant, if it has a calendar date. -/
def text? (millis : Nat) : Option String :=
  if millis ≤ last then some (String.ofList (chars millis)) else none

end Instant

end Depot
