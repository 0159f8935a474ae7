import Depot.Proofs.Number.Exact
import Depot.Query.Compare

/-!
# Values with the text of an integer

The text of a row's key is the text of a value. It is the decimal text of an integer only if the
value is that integer, or a string that consists of its digits: a number that is stored as a double
shows a point or an exponent, and all other texts begin with a letter or a bracket.

* `Json.Denotes`: a value that is an integer, or its decimal text.

Results:
* `plainText_eq_intDigits_iff`: the values whose text is that of an integer.
* `asNumber?_of_denotes`: such a value reads as the double nearest to the integer.
-/

namespace Depot

/-! ## Digits -/

namespace Text

theorem natDigits_inj {a b : Nat} (h : natDigits a = natDigits b) : a = b := by
  have hvalue := congrArg (Nat.ofDigitChars 10 · 0) h
  rwa [natDigits, natDigits, Nat.ofDigitChars_ten_toDigits, Nat.ofDigitChars_ten_toDigits] at hvalue

theorem minus_notMem_natDigits (n : Nat) : '-' ∉ natDigits n :=
  fun h => absurd (isAsciiDigit_of_mem_natDigits h) (by decide)

theorem intDigits_inj {a b : Int} (h : intDigits a = intDigits b) : a = b := by
  rw [intDigits, intDigits] at h
  by_cases ha : a < 0
  · rw [if_pos ha] at h
    by_cases hb : b < 0
    · rw [if_pos hb] at h
      have habs := natDigits_inj (List.cons.inj h).2
      omega
    · rw [if_neg hb] at h
      exact absurd (h ▸ List.mem_cons_self) (minus_notMem_natDigits b.natAbs)
  · rw [if_neg ha] at h
    by_cases hb : b < 0
    · rw [if_pos hb] at h
      exact absurd (h ▸ List.mem_cons_self) (minus_notMem_natDigits a.natAbs)
    · rw [if_neg hb] at h
      have habs := natDigits_inj h
      omega

/-- The text of an integer consists of digits and a sign. -/
theorem of_mem_intDigits {n : Int} {c : Char} (h : c ∈ intDigits n) :
    c = '-' ∨ isAsciiDigit c = true := by
  rw [intDigits] at h
  by_cases hn : n < 0
  · rw [if_pos hn] at h
    exact (List.mem_cons.1 h).imp_right isAsciiDigit_of_mem_natDigits
  · rw [if_neg hn] at h
    exact Or.inr (isAsciiDigit_of_mem_natDigits h)

end Text

/-! ## Doubles -/

namespace Double

/-- A number that is written positionally shows a point. -/
theorem point_mem_place (ds : List Char) (point : Int) : '.' ∈ Layout.json.place ds point := by
  rw [Layout.place]
  by_cases hsmall : point ≤ 0
  · rw [if_pos hsmall]
    exact List.mem_append_left _ (List.mem_append_left _ (by decide))
  · rw [if_neg hsmall]
    by_cases hlarge : (ds.length : Int) ≤ point
    · rw [if_pos hlarge]
      exact List.mem_append_right _ (by decide)
    · rw [if_neg hlarge]
      exact List.mem_append_right _ List.mem_cons_self

/-- A number in scientific form shows an exponent. -/
theorem exponent_mem_scientific (ds : List Char) (e : Int) : 'e' ∈ Layout.scientific ds e := by
  unfold Layout.scientific
  exact List.mem_append_left _ (List.mem_append_right _ List.mem_cons_self)

/-- A stored double shows a point or an exponent. -/
theorem mark_mem_render {d : Double} (h : d.isFinite = true) :
    '.' ∈ Layout.json.render d ∨ 'e' ∈ Layout.json.render d := by
  have hnan : d.isNan = false := by
    rw [isFinite, decide_eq_true_eq] at h
    rw [isNan, decide_eq_false_iff_not]
    omega
  have hbody {body : List Char} (hmark : '.' ∈ body ∨ 'e' ∈ body) :
      '.' ∈ (if d.negative then '-' :: body else body) ∨
        'e' ∈ (if d.negative then '-' :: body else body) := by
    cases d.negative with
    | true => exact hmark.imp (List.mem_cons_of_mem _) (List.mem_cons_of_mem _)
    | false => exact hmark
  rw [Layout.render, if_neg (ne_true_of_eq_false hnan)]
  refine hbody ?_
  rw [h, Bool.not_true, if_neg Bool.false_ne_true]
  by_cases hzero : d.isZero = true
  · rw [if_pos hzero]
    exact Or.inl (by decide)
  · rw [if_neg hzero]
    generalize shortest Layout.json.tie d.magnitude.val = found
    obtain ⟨digits, p⟩ := found
    dsimp only
    split
    · exact Or.inl (point_mem_place _ _)
    · exact Or.inr (exponent_mem_scientific _ _)

end Double

/-! ## Values -/

/-- A value that is an integer, or its decimal text. -/
inductive Json.Denotes (n : Int) : Json → Prop
  | num {k : Integer64} (h : k.val = n) : Json.Denotes n (.num (.int k))
  | str : Json.Denotes n (.str (String.ofList (Text.intDigits n)))

namespace Json

/-- The texts of numbers are those of integers only for integers. -/
theorem chars_eq_intDigits_iff {x : Number} {n : Int} :
    x.chars = Text.intDigits n ↔ ∃ k : Integer64, x = .int k ∧ k.val = n := by
  cases x with
  | int k =>
    rw [Number.chars]
    constructor
    · exact fun h => ⟨k, rfl, Text.intDigits_inj h⟩
    · rintro ⟨k', h, rfl⟩
      rw [Number.int.inj h]
  | real d =>
    have hreal : ¬∃ k : Integer64, Number.real d = .int k ∧ k.val = n := by
      rintro ⟨k, h, -⟩
      cases h
    refine iff_of_false (fun h => ?_) hreal
    rw [Number.chars] at h
    have hno {c : Char} (hc : c ∈ Double.Layout.json.render d.val) :
        c = '-' ∨ Text.isAsciiDigit c = true := Text.of_mem_intDigits (h ▸ hc)
    obtain hmark | hmark := Double.mark_mem_render d.property
    · exact absurd (hno hmark) (by decide)
    · exact absurd (hno hmark) (by decide)

/-- The text of a value is that of an integer only if the value is the integer, or its text. -/
theorem plainText_eq_intDigits_iff {v : Json} {n : Int} :
    v.plainText = String.ofList (Text.intDigits n) ↔ v.Denotes n := by
  have hfirst {c : Char} {cs : List Char} (hc : ¬(c = '-' ∨ Text.isAsciiDigit c = true)) :
      String.ofList (c :: cs) ≠ String.ofList (Text.intDigits n) := by
    intro h
    have hchars : c :: cs = Text.intDigits n := String.ofList_injective h
    exact hc (Text.of_mem_intDigits (hchars ▸ List.mem_cons_self))
  cases v with
  | null => exact iff_of_false (hfirst (by decide)) nofun
  | bool b =>
    cases b with
    | true => exact iff_of_false (hfirst (by decide)) nofun
    | false => exact iff_of_false (hfirst (by decide)) nofun
  | arr items => exact iff_of_false (hfirst (by decide)) nofun
  | obj fields => exact iff_of_false (hfirst (by decide)) nofun
  | str s =>
    constructor
    · rintro rfl
      exact .str
    · rintro ⟨⟩
      rfl
  | num x =>
    have htext : (Json.num x).plainText = String.ofList x.chars := rfl
    rw [htext, String.ofList_inj, chars_eq_intDigits_iff]
    constructor
    · rintro ⟨k, rfl, hk⟩
      exact .num hk
    · rintro ⟨hk⟩
      exact ⟨_, rfl, hk⟩

/-- A value that is a natural number, or its text, reads as the double nearest to it. -/
theorem asNumber?_of_denotes {v : Json} {n : Nat} (h : v.Denotes n) :
    asNumber? v = some (Double.ofInt n) := by
  cases h with
  | num h => rw [asNumber?, Number.toDouble, h]
  | str =>
    have hdigits : Text.intDigits n = Text.natDigits n := by
      rw [Text.intDigits, if_neg (by omega), Int.natAbs_natCast]
    rw [asNumber?, hdigits, String.toList_ofList, Text.trim, Text.dropEnds_eq_self,
      Double.parse_natDigits]
    exact fun c hc => Text.isBlank_of_isAsciiDigit (Text.isAsciiDigit_of_mem_natDigits hc)

end Json

end Depot
