import Depot.Query.Instant
import Mathlib.Algebra.GroupWithZero.Nat

/-!
# The calendar

A date is the day that its year, its month and its day of the month count. Every day has one date,
and dates are in the order of their days, years before months and months before days.

* `Date.IsValid`: a date that occurs in the calendar.
* `Date.Precedes`: a date before another one.
* `Date.toDay`: the day of a date, counted from the start of the year 0.

Results:
* `leapYearsBefore_succ`: the leap years are those that have a 29 February.
* `yearStart_succ`: a year is as long as its months together.
* `ofDay_spec`: the date of a day occurs in the calendar, and its day is that day.
* `precedes_ofDay_iff`: dates are in the order of their days.
-/

namespace Depot.Date

/-- A date that occurs in the calendar. -/
structure IsValid (date : Date) : Prop where
  month_pos : 0 < date.month
  day_pos : 0 < date.day
  day_le : ∃ length, (monthLengths date.year)[date.month - 1]? = some length ∧ date.day ≤ length

/-- The day of a date, counted from the start of the year 0. -/
def toDay (date : Date) : Nat :=
  yearStart date.year + ((monthLengths date.year).take (date.month - 1)).sum + (date.day - 1)

/-- A date stands before another one: in the year, in the month or in the day. -/
def Precedes (a b : Date) : Prop :=
  a.year < b.year ∨ a.year = b.year ∧ (a.month < b.month ∨ a.month = b.month ∧ a.day < b.day)

/-! ## Years -/

/-- A year that has a 29 February is one more among the leap years before the next one. -/
theorem leapYearsBefore_succ (y : Nat) :
    leapYearsBefore (y + 1) = leapYearsBefore y + if isLeap y then 1 else 0 := by
  have h4 : (y + 1 + 3) / 4 = (y + 3) / 4 + if y % 4 = 0 then 1 else 0 := by
    split <;> omega
  have h100 : (y + 1 + 99) / 100 = (y + 99) / 100 + if y % 100 = 0 then 1 else 0 := by
    split <;> omega
  have h400 : (y + 1 + 399) / 400 = (y + 399) / 400 + if y % 400 = 0 then 1 else 0 := by
    split <;> omega
  have hle : (y + 99) / 100 ≤ (y + 3) / 4 := by omega
  have hcentury : y % 100 = 0 → y % 4 = 0 := by omega
  have hcycle : y % 400 = 0 → y % 100 = 0 := by omega
  unfold leapYearsBefore
  rw [h4, h100, h400]
  -- What is left is about the three remainders: the quotients are any numbers.
  generalize (y + 3) / 4 = a at *
  generalize (y + 99) / 100 = b at *
  simp only [isLeap, Bool.and_eq_true, Bool.or_eq_true, beq_iff_eq, bne_iff_ne]
  grind

/-- A year is as long as its months together. -/
theorem yearStart_succ (y : Nat) : yearStart (y + 1) = yearStart y + (monthLengths y).sum := by
  have hsum : (monthLengths y).sum = if isLeap y then 366 else 365 := by
    unfold monthLengths
    cases isLeap y <;> rfl
  rw [hsum]
  unfold yearStart
  rw [leapYearsBefore_succ]
  split <;> omega

theorem yearStart_mono {y z : Nat} (h : y ≤ z) : yearStart y ≤ yearStart z := by
  unfold yearStart leapYearsBefore
  omega

/-- The years up to 9999 end where the year 10000 starts. -/
theorem yearOf_lt {d : Nat} (h : d < yearStart 10000) : yearOf d < 10000 := by
  refine Nat.lt_of_not_le fun hyear => ?_
  have hmono := yearStart_mono hyear
  have hstart := (yearOf_spec d).1
  omega

/-! ## Months -/

/-- The day of the year is found in the month in which it is. -/
theorem monthAndDay_spec {lengths : List Nat} {d : Nat} (month : Nat) (h : d < lengths.sum) :
    ∃ i length, lengths[i]? = some length ∧ (monthAndDay month lengths d).1 = month + i ∧
      0 < (monthAndDay month lengths d).2 ∧ (monthAndDay month lengths d).2 ≤ length ∧
      (lengths.take i).sum + ((monthAndDay month lengths d).2 - 1) = d := by
  induction lengths generalizing month d with
  | nil => cases h
  | cons length lengths ih =>
    rw [monthAndDay]
    by_cases hday : d < length
    · rw [if_pos hday]
      exact ⟨0, length, rfl, rfl, Nat.succ_pos d, hday, Nat.zero_add d⟩
    · have hrest : d - length < lengths.sum := by
        rw [List.sum_cons] at h
        omega
      rw [if_neg hday]
      obtain ⟨i, l, hl, hmonth, hpos, hle, hsum⟩ := ih (month + 1) hrest
      refine ⟨i + 1, l, hl, by omega, hpos, hle, ?_⟩
      rw [List.take_succ_cons, List.sum_cons]
      omega

/-- What comes up to the end of an entry is not more than what comes before a later one. -/
theorem sum_take_add_le {lengths : List Nat} {i j length : Nat} (hi : lengths[i]? = some length)
    (h : i < j) : (lengths.take i).sum + length ≤ (lengths.take j).sum := by
  induction lengths generalizing i j with
  | nil => cases hi
  | cons l lengths ih =>
    obtain ⟨j, rfl⟩ := Nat.exists_eq_succ_of_ne_zero (Nat.ne_zero_of_lt h)
    cases i with
    | zero =>
      obtain rfl := Option.some.inj hi
      simp
    | succ i =>
      have hrest := ih hi (Nat.lt_of_succ_lt_succ h)
      simp only [List.take_succ_cons, List.sum_cons]
      omega

/-! ## Dates -/

/-- The date of a day occurs in the calendar, and its day is that day. -/
theorem ofDay_spec (d : Nat) : (ofDay d).IsValid ∧ (ofDay d).toDay = d := by
  obtain ⟨hstart, hend⟩ := yearOf_spec d
  have hdate : ofDay d = ⟨yearOf d,
      (monthAndDay 1 (monthLengths (yearOf d)) (d - yearStart (yearOf d))).1,
      (monthAndDay 1 (monthLengths (yearOf d)) (d - yearStart (yearOf d))).2⟩ := rfl
  rw [hdate]
  generalize yearOf d = y at *
  have hyear : d - yearStart y < (monthLengths y).sum := by
    rw [yearStart_succ] at hend
    omega
  obtain ⟨i, length, hlength, hmonth, hpos, hle, hsum⟩ := monthAndDay_spec 1 hyear
  generalize monthAndDay 1 (monthLengths y) (d - yearStart y) = found at *
  obtain ⟨month, day⟩ := found
  obtain rfl : month = i + 1 := hmonth.trans (Nat.add_comm 1 i)
  refine ⟨⟨Nat.succ_pos i, hpos, length, hlength, hle⟩, ?_⟩
  show yearStart y + ((monthLengths y).take i).sum + (day - 1) = d
  omega

theorem ofDay_inj {d e : Nat} : ofDay d = ofDay e ↔ d = e := by
  constructor
  · intro h
    rw [← (ofDay_spec d).2, h, (ofDay_spec e).2]
  · rintro rfl
    rfl

/-- There are twelve months, and none is longer than 31 days. -/
theorem IsValid.le {date : Date} (h : date.IsValid) : date.month ≤ 12 ∧ date.day ≤ 31 := by
  obtain ⟨hmonth, -, length, hlength, hday⟩ := h
  have hindex : date.month - 1 < 12 := (List.getElem?_eq_some_iff.1 hlength).1
  have hmax : ∀ l ∈ monthLengths date.year, l ≤ 31 := by
    unfold monthLengths
    cases isLeap date.year <;> decide
  have hmem := hmax length (List.mem_of_getElem? hlength)
  omega

/-- The day of a date is in its year. -/
theorem IsValid.toDay_lt {date : Date} (h : date.IsValid) :
    date.toDay < yearStart (date.year + 1) := by
  obtain ⟨-, hpos, length, hlength, hday⟩ := h
  have hindex := (List.getElem?_eq_some_iff.1 hlength).1
  have hle := sum_take_add_le hlength hindex
  rw [List.take_length] at hle
  rw [yearStart_succ]
  unfold toDay
  omega

/-- What stands before a date has an earlier day. -/
theorem Precedes.toDay_lt {a b : Date} (ha : a.IsValid) (hb : b.IsValid) (h : a.Precedes b) :
    a.toDay < b.toDay := by
  have hend := ha.toDay_lt
  obtain ⟨hmonth, hpos, length, hlength, hday⟩ := ha
  obtain ⟨hmonth', hpos', -⟩ := hb
  rcases h with hyear | ⟨hyear, h | ⟨heq, h⟩⟩
  · have hstart : yearStart (a.year + 1) ≤ yearStart b.year := yearStart_mono hyear
    have hle : yearStart b.year ≤ b.toDay := by
      unfold toDay
      omega
    omega
  · have hle := sum_take_add_le hlength (show a.month - 1 < b.month - 1 by omega)
    unfold toDay
    rw [← hyear]
    omega
  · unfold toDay
    rw [← hyear, ← heq]
    omega

theorem precedes_or (a b : Date) : a.Precedes b ∨ a = b ∨ b.Precedes a := by
  obtain ⟨y, m, d⟩ := a
  obtain ⟨y', m', d'⟩ := b
  unfold Precedes
  rw [Date.mk.injEq]
  dsimp only
  omega

/-- Dates are in the order of their days. -/
theorem precedes_ofDay_iff {d e : Nat} : (ofDay d).Precedes (ofDay e) ↔ d < e := by
  obtain ⟨hd, hday⟩ := ofDay_spec d
  obtain ⟨he, hday'⟩ := ofDay_spec e
  constructor
  · intro h
    have hlt := h.toDay_lt hd he
    omega
  · intro h
    rcases precedes_or (ofDay d) (ofDay e) with hbefore | heq | hbehind
    · exact hbefore
    · exact absurd (ofDay_inj.1 heq) (Nat.ne_of_lt h)
    · have hlt := hbehind.toDay_lt he hd
      omega

/-- The instants start with the year 1970. -/
example : ofDay Instant.epochDay = ⟨1970, 1, 1⟩ := by decide

end Depot.Date
