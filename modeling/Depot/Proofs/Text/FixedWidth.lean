import Depot.Proofs.Numerals
import Mathlib.Algebra.Group.Nat.Defs
import Mathlib.Data.List.Forall2

/-!
# Numbers of fixed width

Digits of one width are in the order of texts as the numbers that they stand for. So texts made of
such numbers, each with a mark behind it, are in the order of the lists of numbers: the first
number in which they differ decides.

* `inFields`: numbers of fixed widths, each with a mark behind it.

Results:
* `append_lt_append_iff`: two texts with beginnings of one length.
* `lt_iff_ofDigitChars_lt`: digits of one width are in the order of their numbers.
* `inFields_lt_iff`: fields are in the order of their numbers.
-/

namespace Depot.Text

/-- The order of two texts that begin with parts of one length. -/
theorem append_lt_append_iff {a b c d : List Char} (h : a.length = b.length) :
    a ++ c < b ++ d ↔ a < b ∨ a = b ∧ c < d := by
  induction a generalizing b with
  | nil =>
    obtain rfl := List.length_eq_zero_iff.1 h.symm
    simp
  | cons x a ih =>
    cases b with
    | nil => cases h
    | cons y b =>
      rw [List.cons_append, List.cons_append, List.cons_lt_cons_iff, List.cons_lt_cons_iff,
        ih (Nat.succ.inj h), List.cons.injEq]
      grind

/-! ## Digits -/

theorem ofDigitChars_cons_eq (c : Char) (cs : List Char) :
    Nat.ofDigitChars 10 (c :: cs) 0 =
      10 ^ cs.length * digitValue c + Nat.ofDigitChars 10 cs 0 := by
  rw [Nat.ofDigitChars_cons, Nat.ofDigitChars_eq_ofDigitChars_zero, Nat.mul_zero, Nat.zero_add]
  rfl

theorem digitValue_lt {c : Char} (h : isAsciiDigit c = true) : digitValue c < 10 := by
  simp only [isAsciiDigit, Bool.and_eq_true, decide_eq_true_eq] at h
  unfold digitValue
  omega

theorem ofDigitChars_lt {cs : List Char} (h : ∀ c ∈ cs, isAsciiDigit c = true) :
    Nat.ofDigitChars 10 cs 0 < 10 ^ cs.length := by
  induction cs with
  | nil => exact Nat.one_pos
  | cons c cs ih =>
    obtain ⟨hc, hcs⟩ := List.forall_mem_cons.1 h
    have hrest := ih hcs
    have hdigit : 10 ^ cs.length * digitValue c ≤ 10 ^ cs.length * 9 :=
      Nat.mul_le_mul_left _ (Nat.le_of_lt_succ (digitValue_lt hc))
    rw [ofDigitChars_cons_eq, List.length_cons, Nat.pow_succ]
    omega

theorem lt_iff_digitValue_lt {c d : Char} (hc : isAsciiDigit c = true)
    (hd : isAsciiDigit d = true) : c < d ↔ digitValue c < digitValue d := by
  simp only [isAsciiDigit, Bool.and_eq_true, decide_eq_true_eq] at hc hd
  have hlt : c < d ↔ c.toNat < d.toNat := Iff.rfl
  rw [hlt]
  unfold digitValue
  omega

theorem digitValue_inj {c d : Char} (hc : isAsciiDigit c = true) (hd : isAsciiDigit d = true)
    (h : digitValue c = digitValue d) : c = d := by
  simp only [isAsciiDigit, Bool.and_eq_true, decide_eq_true_eq] at hc hd
  rw [← Char.toNat_inj]
  unfold digitValue at h
  omega

/-- Digits of one width are in the order of the numbers that they stand for. -/
theorem lt_iff_ofDigitChars_lt {a b : List Char} (hlength : a.length = b.length)
    (ha : ∀ c ∈ a, isAsciiDigit c = true) (hb : ∀ c ∈ b, isAsciiDigit c = true) :
    a < b ↔ Nat.ofDigitChars 10 a 0 < Nat.ofDigitChars 10 b 0 := by
  induction a generalizing b with
  | nil =>
    obtain rfl := List.length_eq_zero_iff.1 hlength.symm
    exact iff_of_false (List.not_lt_nil []) (Nat.lt_irrefl _)
  | cons c a ih =>
    cases b with
    | nil => cases hlength
    | cons d b =>
      obtain ⟨hc, ha⟩ := List.forall_mem_cons.1 ha
      obtain ⟨hd, hb⟩ := List.forall_mem_cons.1 hb
      have hlength := Nat.succ.inj hlength
      have hx := ofDigitChars_lt ha
      have hy := ofDigitChars_lt hb
      rw [List.cons_lt_cons_iff, ofDigitChars_cons_eq, ofDigitChars_cons_eq, ih hlength ha hb,
        lt_iff_digitValue_lt hc hd]
      rw [hlength] at hx ⊢
      -- A difference in the first digit outweighs all others.
      have hstep {m n : Nat} (h : m < n) :
          10 ^ b.length * m + 10 ^ b.length ≤ 10 ^ b.length * n := by
        rw [← Nat.mul_succ]
        exact Nat.mul_le_mul_left _ h
      rcases Nat.lt_trichotomy (digitValue c) (digitValue d) with h | h | h
      · have := hstep h
        exact iff_of_true (.inl h) (by omega)
      · have hcd := digitValue_inj hc hd h
        rw [h]
        constructor
        · rintro (h | ⟨-, h⟩) <;> omega
        · exact fun h => .inr ⟨hcd, by omega⟩
      · have := hstep h
        refine iff_of_false ?_ (by omega)
        rintro (h' | ⟨rfl, -⟩) <;> omega

/-! ## Padding -/

theorem isAsciiDigit_of_mem_padded {width n : Nat} {c : Char} (h : c ∈ padded width n) :
    isAsciiDigit c = true := by
  rcases List.mem_append.1 h with h | h
  · rw [List.eq_of_mem_replicate h]
    decide
  · exact isAsciiDigit_of_mem_natDigits h

theorem length_padded {width n : Nat} (hwidth : 0 < width) (h : n < 10 ^ width) :
    (padded width n).length = width := by
  have hlength : (natDigits n).length ≤ width :=
    (Nat.length_toDigits_le_iff (by decide) hwidth).2 h
  simp only [padded, List.length_append, List.length_replicate]
  omega

theorem ofDigitChars_padded (width n : Nat) : Nat.ofDigitChars 10 (padded width n) 0 = n := by
  rw [padded, Nat.ofDigitChars_append, Nat.ofDigitChars_replicate_zero, Nat.mul_zero]
  exact Nat.ofDigitChars_ten_toDigits

theorem padded_inj {width m n : Nat} : padded width m = padded width n ↔ m = n := by
  constructor
  · intro h
    rw [← ofDigitChars_padded width m, h, ofDigitChars_padded]
  · rintro rfl
    rfl

theorem padded_lt_padded_iff {width m n : Nat} (hwidth : 0 < width) (hm : m < 10 ^ width)
    (hn : n < 10 ^ width) : padded width m < padded width n ↔ m < n := by
  have hlength : (padded width m).length = (padded width n).length := by
    rw [length_padded hwidth hm, length_padded hwidth hn]
  rw [lt_iff_ofDigitChars_lt hlength (fun _ => isAsciiDigit_of_mem_padded)
    (fun _ => isAsciiDigit_of_mem_padded), ofDigitChars_padded, ofDigitChars_padded]

/-! ## Fields -/

/-- Numbers in fields of fixed widths, each with a mark behind it. -/
def inFields : List (Nat × Char) → List Nat → List Char
  | (width, mark) :: fields, n :: ns => padded width n ++ mark :: inFields fields ns
  | _, _ => []

/-- A number fits a field. -/
def Fits (field : Nat × Char) (n : Nat) : Prop := 0 < field.1 ∧ n < 10 ^ field.1

/-- Fields are in the order of the numbers in them. -/
theorem inFields_lt_iff {fields : List (Nat × Char)} {ns ms : List Nat}
    (hns : List.Forall₂ Fits fields ns) (hms : List.Forall₂ Fits fields ms) :
    inFields fields ns < inFields fields ms ↔ ns < ms := by
  induction hns generalizing ms with
  | nil =>
    cases hms
    exact iff_of_false (List.not_lt_nil []) (List.not_lt_nil [])
  | @cons field n fields ns hn hns ih =>
    cases hms with
    | @cons _ m _ ms hm hms =>
      obtain ⟨hwidth, hn⟩ := hn
      obtain ⟨-, hm⟩ := hm
      have hlength : (padded field.1 n).length = (padded field.1 m).length := by
        rw [length_padded hwidth hn, length_padded hwidth hm]
      rw [inFields, inFields, append_lt_append_iff hlength, padded_lt_padded_iff hwidth hn hm,
        padded_inj, List.cons_lt_cons_self, ih hms, List.cons_lt_cons_iff]

/-- The characters of fields are digits and marks. -/
theorem of_mem_inFields {fields : List (Nat × Char)} {ns : List Nat} {c : Char}
    (h : c ∈ inFields fields ns) : isAsciiDigit c = true ∨ c ∈ fields.map Prod.snd := by
  induction fields generalizing ns with
  | nil => cases h
  | cons field fields ih =>
    cases ns with
    | nil => cases h
    | cons n ns =>
      rcases List.mem_append.1 h with h | h
      · exact .inl (isAsciiDigit_of_mem_padded h)
      · rcases List.mem_cons.1 h with rfl | h
        · exact .inr List.mem_cons_self
        · exact (ih h).imp_right (List.mem_cons_of_mem _)

end Depot.Text
