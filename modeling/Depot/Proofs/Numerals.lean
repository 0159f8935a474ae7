import Depot.Proofs.Program
import Depot.Proofs.Text.Cuts
import Depot.Request

/-!
# Numbers in decimal

A natural number that is written in decimal reads as the same number again, within a limit, and as
the value of a query parameter too.

Results:
* `parseDigits_eq_ok_iff`: digits read as the number that they stand for, if it is within the limit.
* `parse_natDigits_iff`: a number in decimal reads as itself, if it is within the limit.
* `natural_eq_ok_iff`: a query parameter that was given a number holds it.
-/

namespace Depot

namespace Text

/-! ## Digits -/

theorem isAsciiDigit_of_isDigit {c : Char} (h : c.isDigit = true) : isAsciiDigit c = true := by
  simp only [Char.isDigit, Bool.and_eq_true, decide_eq_true_eq] at h
  simp only [isAsciiDigit, Bool.and_eq_true, decide_eq_true_eq]
  exact h

theorem isAsciiDigit_of_mem_natDigits {n : Nat} {c : Char} (h : c ∈ natDigits n) :
    isAsciiDigit c = true :=
  isAsciiDigit_of_isDigit (Nat.isDigit_of_mem_toDigits (by decide) (by decide) h)

theorem isBlank_of_isAsciiDigit {c : Char} (h : isAsciiDigit c = true) : isBlank c = false := by
  simp only [isAsciiDigit, Bool.and_eq_true, decide_eq_true_eq] at h
  simp only [isBlank, Bool.or_eq_false_iff, Bool.and_eq_false_iff, decide_eq_false_iff_not,
    beq_eq_false_iff_ne]
  omega

/-! ## Reading -/

namespace Natural

theorem le_ofDigitChars (cs : List Char) (acc : Nat) : acc ≤ Nat.ofDigitChars 10 cs acc := by
  induction cs generalizing acc with
  | nil => exact Nat.le_refl acc
  | cons c cs ih =>
    rw [Nat.ofDigitChars_cons]
    exact Nat.le_trans (by omega) (ih _)

/-- Digits read as the number that they stand for, if it is within the limit. -/
theorem parseDigits_eq_ok_iff {limit acc n : Nat} {cs : List Char} (hacc : acc ≤ limit)
    (hcs : ∀ c ∈ cs, isAsciiDigit c = true) :
    parseDigits limit acc cs = .ok n ↔ Nat.ofDigitChars 10 cs acc = n ∧ n ≤ limit := by
  induction cs generalizing acc with
  | nil =>
    rw [parseDigits, Except.ok.injEq]
    constructor
    · rintro rfl
      exact ⟨rfl, hacc⟩
    · rintro ⟨rfl, -⟩
      rfl
  | cons c cs ih =>
    have hnext : acc * 10 + digitValue c = 10 * acc + (c.toNat - '0'.toNat) := by
      rw [Nat.mul_comm]
      rfl
    rw [parseDigits, if_pos (hcs c List.mem_cons_self), hnext, Nat.ofDigitChars_cons]
    dsimp only
    by_cases hle : 10 * acc + (c.toNat - '0'.toNat) ≤ limit
    · rw [if_pos hle]
      exact ih hle fun c' hc' => hcs c' (List.mem_cons_of_mem _ hc')
    · rw [if_neg hle]
      refine iff_of_false (fun h => by cases h) ?_
      rintro ⟨rfl, hfits⟩
      exact absurd (Nat.le_trans (le_ofDigitChars cs _) hfits) hle

/-- A number in decimal reads as itself, if it is within the limit. -/
theorem parse_natDigits_iff {limit n k : Nat} :
    parse limit (natDigits n) = .ok k ↔ n = k ∧ k ≤ limit := by
  have hdigits : ∀ c ∈ natDigits n, isAsciiDigit c = true :=
    fun c hc => isAsciiDigit_of_mem_natDigits hc
  have hvalue : Nat.ofDigitChars 10 (natDigits n) 0 = n := Nat.ofDigitChars_ten_toDigits
  cases hcs : natDigits n with
  | nil => exact absurd hcs Nat.toDigits_ne_nil
  | cons c cs =>
    rw [hcs] at hdigits hvalue
    have hplus : c ≠ '+' := by
      rintro rfl
      exact absurd (hdigits '+' List.mem_cons_self) (by decide)
    rw [parse, if_neg hplus, parseDigits_eq_ok_iff (Nat.zero_le limit) hdigits, hvalue]

end Natural

end Text

/-! ## Query parameters -/

/-- A query parameter that was given a number holds it, if it is not too large. -/
theorem Request.natural_eq_ok_iff {r : Request} {resource key : String} {n : Nat}
    (h : r.query.field? key = some (.single (Nat.repr n))) {k : Option Nat} :
    r.natural resource key = .ok k ↔ k = some n ∧ n ≤ maxNatural := by
  obtain ⟨c, cs, hdigits⟩ : ∃ c cs, Text.natDigits n = c :: cs :=
    List.exists_cons_of_ne_nil Nat.toDigits_ne_nil
  have htext : Text.trim (Nat.repr n).toList = c :: cs := by
    rw [← hdigits, Nat.repr_eq_ofList_toDigits, String.toList_ofList]
    exact Text.dropEnds_eq_self fun c hc =>
      Text.isBlank_of_isAsciiDigit (Text.isAsciiDigit_of_mem_natDigits hc)
  have hsingle : r.single resource key = .ok (some (Nat.repr n)) := by rw [single, h]
  simp only [natural, hsingle, bind, Except.bind, Option.map_some, htext]
  cases hparse : Text.Natural.parse maxNatural (c :: cs) with
  | ok m =>
    rw [← hdigits] at hparse
    obtain ⟨rfl, hle⟩ := Text.Natural.parse_natDigits_iff.1 hparse
    simp only [Except.ok.injEq, hle, and_true]
    exact eq_comm
  | error fault =>
    refine ⟨nofun, ?_⟩
    rintro ⟨-, hle⟩
    rw [← hdigits, Text.Natural.parse_natDigits_iff.2 ⟨rfl, hle⟩] at hparse
    cases hparse

end Depot
