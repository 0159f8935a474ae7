import Depot.Number.Decimal
import Depot.Proofs.Numerals

/-!
# Integers as doubles

A natural number of at most 53 bits is a double, and so is 2^53; the double nearest to a greater one
may be another number. The decimal text of a natural number reads as the double nearest to it.

Results:
* `nearest_of_lt`: the magnitude of a natural number of at most 53 bits.
* `truncate_ofInt`: natural numbers up to 2^53 are kept.
* `parse_natDigits`: the decimal text of a natural number reads as the double nearest to it.
-/

namespace Depot

namespace Double

/-! ## Natural numbers of 53 bits -/

theorem divNearest_one (n : Nat) : divNearest n 1 = n := by
  rw [divNearest, Nat.div_one, Nat.mod_one]
  exact if_neg (by omega)

/-- A natural number of at most 53 bits has its bits in front of the point once it is shifted to
    53 bits. -/
theorem scaleDown_of_log2_le {n : Nat} (h : n.log2 ≤ 52) :
    scaleDown n 1 ((n.log2 : Int) - 52) = (n * 2 ^ (52 - n.log2), 1) := by
  rw [scaleDown]
  by_cases hfull : n.log2 = 52
  · rw [if_pos (by omega), hfull]
    simp
  · have hshift : (-((n.log2 : Int) - 52)).toNat = 52 - n.log2 := by omega
    rw [if_neg (by omega), hshift]

/-- A natural number of at most 53 bits, shifted to 53 bits. -/
theorem shifted_mem {n : Nat} (hpos : n ≠ 0) (h : n.log2 ≤ 52) :
    2 ^ (52 : Nat) ≤ n * 2 ^ (52 - n.log2) ∧ n * 2 ^ (52 - n.log2) < 2 ^ (53 : Nat) := by
  have hlow := Nat.log2_self_le hpos
  have hhigh := @Nat.lt_log2_self n
  have hsplit : 2 ^ n.log2 * 2 ^ (52 - n.log2) = 2 ^ (52 : Nat) := by
    rw [← Nat.pow_add, Nat.add_sub_cancel' h]
  have hsplit' : 2 ^ (n.log2 + 1) * 2 ^ (52 - n.log2) = 2 ^ (53 : Nat) := by
    rw [← Nat.pow_add]
    congr 1
    omega
  constructor
  · rw [← hsplit]
    exact Nat.mul_le_mul_right _ hlow
  · rw [← hsplit']
    exact Nat.mul_lt_mul_of_pos_right hhigh (Nat.pow_pos (by decide))

/-- The magnitude of a scaled fraction, rounded. -/
def scaledMagnitude (q : Int) : Nat × Nat → Nat
  | (n, d) => min ((q + 1074).toNat * 2 ^ (52 : Nat) + divNearest n d) infinityMagnitude

/-- The magnitude of a natural number of at most 53 bits: its exponent, and its bits behind the
    first. -/
theorem nearest_of_lt {n : Nat} (hpos : n ≠ 0) (h : n < 2 ^ (53 : Nat)) :
    nearest n 1 = (n.log2 + 1022) * 2 ^ (52 : Nat) + n * 2 ^ (52 - n.log2) := by
  have hlog : n.log2 ≤ 52 := Nat.lt_succ_iff.1 ((Nat.log2_lt hpos).2 h)
  obtain ⟨hlow, hhigh⟩ := shifted_mem hpos hlog
  have hone : ((n.log2 : Int) - ((1 : Nat).log2 : Int) - 52) = (n.log2 : Int) - 52 := by
    rw [show (1 : Nat).log2 = 0 from rfl]
    omega
  rw [nearest, if_neg (by omega), hone]
  extract_lets high
  have hscale : scaleDown n 1 high = (n * 2 ^ (52 - n.log2), 1) := scaleDown_of_log2_le hlog
  rw [hscale]
  show (let q := max (if n * 2 ^ (52 - n.log2) < 1 * 2 ^ (52 : Nat) then high - 1 else high) (-1074)
    scaledMagnitude q (scaleDown n 1 q)) = _
  extract_lets q
  -- The number is not shifted too far, and it does not underflow.
  have hq : q = high := by
    show max (if n * 2 ^ (52 - n.log2) < 1 * 2 ^ (52 : Nat) then high - 1 else high) (-1074) = high
    rw [if_neg (by omega)]
    exact Int.max_eq_left (by omega)
  have hbits : (high + 1074).toNat = n.log2 + 1022 := by omega
  rw [hq, hscale, scaledMagnitude, hbits, divNearest_one]
  refine Nat.min_eq_left ?_
  unfold infinityMagnitude
  omega

theorem significand_normal {exponent fraction : Nat} (he : exponent ≠ 0)
    (hf : fraction < 2 ^ (52 : Nat)) :
    significand (exponent * 2 ^ (52 : Nat) + fraction) =
      (2 ^ (52 : Nat) + fraction, (exponent : Int) - 1075) := by
  have hdiv : (exponent * 2 ^ (52 : Nat) + fraction) / 2 ^ (52 : Nat) = exponent := by omega
  have hmod : (exponent * 2 ^ (52 : Nat) + fraction) % 2 ^ (52 : Nat) = fraction := by omega
  rw [significand, hdiv, hmod]
  exact if_neg he

/-- The integer part of a number of which a fraction is known. -/
theorem truncate_of_toFraction {d : Double} {num den : Nat} (hnan : d.isNan = false)
    (hfraction : d.toFraction = (num, den)) (hpos : d.negative = false) :
    d.truncate = max minInt64 (min maxInt64 (num / den : Nat)) := by
  rw [truncate, if_neg (ne_true_of_eq_false hnan), hfraction]
  show max minInt64 (min maxInt64 (if d.negative = true then _ else _)) = _
  rw [if_neg (ne_true_of_eq_false hpos)]

theorem ofInt_natCast (n : Nat) : ofInt n = ofFraction false n 1 := by
  rw [ofInt, Int.natAbs_natCast, decide_eq_false (by omega)]

/-- The magnitude of a natural number of at most 53 bits is finite. -/
theorem magnitude_ofInt {n : Nat} (hpos : n ≠ 0) (h : n < 2 ^ (53 : Nat)) :
    (ofInt n).magnitude.val =
      (n.log2 + 1023) * 2 ^ (52 : Nat) + (n * 2 ^ (52 - n.log2) - 2 ^ (52 : Nat)) := by
  have hlog : n.log2 ≤ 52 := Nat.lt_succ_iff.1 ((Nat.log2_lt hpos).2 h)
  obtain ⟨hlow, hhigh⟩ := shifted_mem hpos hlog
  rw [ofInt_natCast]
  show min (nearest n 1) infinityMagnitude = _
  rw [nearest_of_lt hpos h]
  unfold infinityMagnitude
  omega

/-- A natural number of at most 53 bits is its shifted bits over the power of two by which they
    are shifted. -/
theorem toFraction_ofInt {n : Nat} (hpos : n ≠ 0) (h : n < 2 ^ (53 : Nat)) :
    (ofInt n).toFraction = (n * 2 ^ (52 - n.log2), 2 ^ (52 - n.log2)) := by
  have hlog : n.log2 ≤ 52 := Nat.lt_succ_iff.1 ((Nat.log2_lt hpos).2 h)
  obtain ⟨hlow, hhigh⟩ := shifted_mem hpos hlog
  have hbits : 2 ^ (52 : Nat) + (n * 2 ^ (52 - n.log2) - 2 ^ (52 : Nat)) =
      n * 2 ^ (52 - n.log2) := by omega
  rw [toFraction, magnitude_ofInt hpos h, significand_normal (by omega) (by omega), hbits]
  show (if 0 ≤ ((n.log2 + 1023 : Nat) : Int) - 1075 then _ else _) = _
  by_cases hfull : n.log2 = 52
  · rw [if_pos (by omega), hfull]
    simp
  · have hshift : (-(((n.log2 + 1023 : Nat) : Int) - 1075)).toNat = 52 - n.log2 := by omega
    rw [if_neg (by omega), hshift]

/-- A natural number of at most 53 bits is a double, and so is 2^53. -/
theorem truncate_ofInt {n : Nat} (h : n ≤ 2 ^ (53 : Nat)) : (ofInt n).truncate = n := by
  obtain rfl | hpos := Nat.eq_zero_or_pos n
  · decide +kernel
  · obtain rfl | hlt := Nat.eq_or_lt_of_le h
    · decide +kernel
    · have hne : n ≠ 0 := by omega
      have hlog : n.log2 ≤ 52 := Nat.lt_succ_iff.1 ((Nat.log2_lt hne).2 hlt)
      obtain ⟨hlow, hhigh⟩ := shifted_mem hne hlog
      have hnan : (ofInt n).isNan = false := by
        refine decide_eq_false ?_
        rw [magnitude_ofInt hne hlt]
        unfold infinityMagnitude
        omega
      have hsign : (ofInt n).negative = false := by rw [ofInt_natCast, ofFraction, ofMagnitude]
      rw [truncate_of_toFraction hnan (toFraction_ofInt hne hlt) hsign,
        Nat.mul_div_cancel n (Nat.pow_pos (by decide))]
      unfold minInt64 maxInt64
      omega

/-! ## Decimal texts -/

theorem digitsValue_eq (cs : List Char) : digitsValue cs = Nat.ofDigitChars 10 cs 0 := by
  rw [digitsValue, Nat.ofDigitChars]
  congr 1
  funext n c
  rw [Nat.mul_comm]
  rfl

theorem toLower_of_isAsciiDigit {c : Char} (h : Text.isAsciiDigit c = true) : c.toLower = c := by
  simp only [Text.isAsciiDigit, Bool.and_eq_true, decide_eq_true_eq] at h
  have hletter : ¬('A'.val ≤ c.val ∧ c.val ≤ 'Z'.val) := by
    rintro ⟨hlow, -⟩
    have hlow : 65 ≤ c.toNat := hlow
    omega
  exact dif_neg hletter

/-- What begins with a digit, behind a sign if there is one, is no name of a number. -/
theorem parse_of_signOf {cs ds : List Char} {negative : Bool} {c : Char}
    (hsign : signOf cs = (negative, c :: ds)) (hc : Text.isAsciiDigit c = true) :
    parse cs = parseUnsigned negative (c :: ds) := by
  have hname {l : Char} {name : List Char} (hl : Text.isAsciiDigit l = false) :
      (c :: ds).map Char.toLower ≠ l :: name := by
    intro h
    have hhead : c = l := by
      rw [← toLower_of_isAsciiDigit hc]
      exact (List.cons.inj h).1
    rw [hhead, hl] at hc
    cases hc
  rw [parse, hsign]
  dsimp only
  split
  · rename_i h
    exact absurd h (hname (by decide))
  · rename_i h
    exact absurd h (hname (by decide))
  · rename_i h
    exact absurd h (hname (by decide))
  · rfl

theorem signOf_of_isAsciiDigit {c : Char} (hc : Text.isAsciiDigit c = true) (cs : List Char) :
    signOf (c :: cs) = (false, c :: cs) := by
  unfold signOf
  split
  · rename_i h
    exact absurd ((List.cons.inj h).1 ▸ hc) (by decide)
  · rename_i h
    exact absurd ((List.cons.inj h).1 ▸ hc) (by decide)
  · rfl

/-- Digits are no sign and no name of a number. -/
theorem parse_of_digits {cs : List Char} (hne : cs ≠ [])
    (h : ∀ c ∈ cs, Text.isAsciiDigit c = true) : parse cs = parseUnsigned false cs := by
  obtain ⟨c, cs, rfl⟩ := List.exists_cons_of_ne_nil hne
  have hc := h c List.mem_cons_self
  exact parse_of_signOf (signOf_of_isAsciiDigit hc cs) hc

/-- The decimal text of a natural number reads as the double nearest to it. -/
theorem parse_natDigits (n : Nat) : parse (Text.natDigits n) = some (ofInt n) := by
  have hdigits : ∀ c ∈ Text.natDigits n, Text.isAsciiDigit c = true :=
    fun c hc => Text.isAsciiDigit_of_mem_natDigits hc
  have hvalue : digitsValue (Text.natDigits n) = n := by
    rw [digitsValue_eq]
    exact Nat.ofDigitChars_ten_toDigits
  have hspan : digitSpan (Text.natDigits n ++ []) = (Text.natDigits n, []) := by
    rw [digitSpan, List.takeWhile_append_of_pos hdigits, List.dropWhile_append_of_pos hdigits,
      List.takeWhile_nil, List.dropWhile_nil, List.append_nil]
  rw [List.append_nil] at hspan
  have hne : Text.natDigits n ≠ [] := Nat.toDigits_ne_nil
  rw [parse_of_digits hne hdigits, parseUnsigned, hspan]
  show (if ((Text.natDigits n).isEmpty && true) = true then none
    else some (ofDecimal false (digitsValue (Text.natDigits n ++ [])) 0)) = _
  rw [Bool.and_true, if_neg (by rwa [List.isEmpty_iff]), List.append_nil, hvalue, ofInt_natCast,
    ofDecimal]
  by_cases hzero : n = 0
  · rw [if_pos hzero, hzero]
    rfl
  · rw [if_neg hzero, if_neg (by decide), if_neg (by omega), if_pos (Int.le_refl 0), Int.toNat_zero,
      Nat.pow_zero, Nat.mul_one]

end Double

end Depot
