import Depot.Proofs.Number.Texts

/-!
# Less, equal and greater

Equality and order read two values each in its own way. Both take two texts of numbers as the
numbers, and both go by the texts of values that have no other common reading. A truth value,
however, equals what reads as it, while in the order it is its text, `true` or `false`; and what is
not a number is neither equal to a number nor on one side of it. In all other cases exactly one of
less, equal and greater holds of two values that are not null.

* `IsUnordered`: two values that read as numbers, one as what is not a number.
* `IsOtherForm`: a truth value and another form of it.

Results:
* `order?_of_numbers`, `order?_of_texts`: the order of two values.
* `looseEq_of_numbers`, `looseEq_of_texts`: the equality of two values.
* `holds_once_iff`: exactly one comparison holds, unless two values are unordered or two forms of
  one truth value.
* `not_holds_once`: for these two, equal and greater may hold at once.
-/

namespace Depot

/-- Two values that read as numbers, one of them as what is not a number. -/
def IsUnordered (a b : Json) : Prop :=
  ∃ x y, asNumber? a = some x ∧ asNumber? b = some y ∧ (x.isNan = true ∨ y.isNan = true)

/-- A truth value, and a value that reads as it but has another text. -/
def IsOtherForm (a b : Json) : Prop :=
  (∃ t, a = .bool t ∧ asBool? b = some t ∨ b = .bool t ∧ asBool? a = some t) ∧
    a.plainText ≠ b.plainText

variable {a b : Json}

theorem IsOtherForm.symm (h : IsOtherForm a b) : IsOtherForm b a := by
  obtain ⟨⟨t, ht⟩, hne⟩ := h
  exact ⟨⟨t, ht.symm⟩, Ne.symm hne⟩

/-- A truth value does not read as a number. -/
theorem IsOtherForm.not_numbers (h : IsOtherForm a b) :
    asNumber? a = none ∨ asNumber? b = none := by
  obtain ⟨⟨t, ⟨rfl, -⟩ | ⟨rfl, -⟩⟩, -⟩ := h
  · exact .inl rfl
  · exact .inr rfl

/-! ## Numbers -/

theorem isNull_eq_false_of_number {x : Double} (hx : asNumber? a = some x) : a.isNull = false := by
  cases a with
  | null => cases hx
  | _ => rfl

theorem order?_of_numbers {x y : Double} (hx : asNumber? a = some x) (hy : asNumber? b = some y) :
    order? a b = x.order? y := by
  simp [order?, isNull_eq_false_of_number hx, isNull_eq_false_of_number hy, hx, hy]

theorem looseEq_of_numbers {x y : Double} (hx : asNumber? a = some x) (hy : asNumber? b = some y) :
    looseEq a b = x.eq y := by
  have hplain : plainEq a b = x.eq y := by simp [plainEq, hx, hy]
  cases a with
  | num | str =>
    cases b with
    | num | str => exact hplain
    | null | bool | arr | obj => cases hy
  | null | bool | arr | obj => cases hx

theorem isUnordered_iff {x y : Double} (hx : asNumber? a = some x) (hy : asNumber? b = some y) :
    IsUnordered a b ↔ x.order? y = none := by
  have hnone : x.order? y = none ↔ x.isNan = true ∨ y.isNan = true := by
    rw [← Option.not_isSome_iff_eq_none, Double.order?_isSome_iff]
    cases x.isNan <;> cases y.isNan <;> decide
  rw [hnone]
  constructor
  · rintro ⟨x', y', hx', hy', h⟩
    obtain rfl := Option.some.inj (hx.symm.trans hx')
    obtain rfl := Option.some.inj (hy.symm.trans hy')
    exact h
  · exact fun h => ⟨x, y, hx, hy, h⟩

/-! ## Texts -/

theorem order?_of_texts (ha : a.isNull = false) (hb : b.isNull = false)
    (h : asNumber? a = none ∨ asNumber? b = none) :
    order? a b = some (compare a.plainText b.plainText) := by
  rcases h with h | h <;> simp [order?, ha, hb, h]

theorem plainEq_of_texts (h : asNumber? a = none ∨ asNumber? b = none) :
    plainEq a b = (a.plainText == b.plainText) := by
  rcases h with h | h <;> simp [plainEq, h]

/-- A value with the text of a truth value reads as it: a number has the text of a number, and an
    array or an object begins with a bracket or a brace. -/
theorem asBool?_of_plainText_eq {t : Bool} (h : a.plainText = (Json.bool t).plainText) :
    asBool? a = some t := by
  have hfirst {c : Char} {cs : List Char} (hc : c ≠ 't' ∧ c ≠ 'f') :
      String.ofList (c :: cs) ≠ (Json.bool t).plainText := by
    intro heq
    cases t with
    | true => exact hc.1 (List.cons.inj (String.ofList_injective heq)).1
    | false => exact hc.2 (List.cons.inj (String.ofList_injective heq)).1
  cases a with
  | null => exact absurd h (hfirst (by decide))
  | arr items => exact absurd h (hfirst (by decide))
  | obj fields => exact absurd h (hfirst (by decide))
  | num n =>
    have hnumber := isSome_asNumber?_eq (.num n)
    rw [h, ← isSome_asNumber?_eq] at hnumber
    cases hnumber
  | bool t' => cases t <;> cases t' <;> first | rfl | exact absurd h (by decide)
  | str s =>
    obtain rfl : s = (Json.bool t).plainText := h
    cases t <;> decide

/-- A truth value equals what has its text, and its other forms. -/
theorem looseEq_bool_iff {t : Bool} (hb : b.isNull = false) :
    looseEq (.bool t) b = true ↔
      (Json.bool t).plainText = b.plainText ∨ IsOtherForm (.bool t) b := by
  have hloose : looseEq (.bool t) b = (asBool? b == some t) := by
    cases b with
    | null => cases hb
    | _ => rfl
  rw [hloose, beq_iff_eq]
  constructor
  · intro h
    by_cases htext : (Json.bool t).plainText = b.plainText
    · exact .inl htext
    · exact .inr ⟨⟨t, .inl ⟨rfl, h⟩⟩, htext⟩
  · rintro (htext | ⟨⟨t', ⟨⟨⟩, h⟩ | ⟨rfl, h⟩⟩, -⟩)
    · exact asBool?_of_plainText_eq htext.symm
    · exact h
    · exact h.symm

/-- Values that do not both read as numbers are equal if they have one text or are two forms of one
    truth value. -/
theorem looseEq_of_texts (ha : a.isNull = false) (hb : b.isNull = false)
    (h : asNumber? a = none ∨ asNumber? b = none) :
    looseEq a b = true ↔ a.plainText = b.plainText ∨ IsOtherForm a b := by
  by_cases hbool : ∃ t, a = .bool t ∨ b = .bool t
  · obtain ⟨t, rfl | rfl⟩ := hbool
    · exact looseEq_bool_iff hb
    · rw [looseEq_comm, looseEq_bool_iff ha, eq_comm]
      exact or_congr Iff.rfl ⟨IsOtherForm.symm, IsOtherForm.symm⟩
  · have hother : ¬IsOtherForm a b := by
      rintro ⟨⟨t, ⟨ht, -⟩ | ⟨ht, -⟩⟩, -⟩
      · exact hbool ⟨t, .inl ht⟩
      · exact hbool ⟨t, .inr ht⟩
    have hplain : looseEq a b = plainEq a b := by
      cases a with
      | null => cases ha
      | bool t => exact absurd ⟨t, .inl rfl⟩ hbool
      | _ =>
        cases b with
        | null => cases hb
        | bool t => exact absurd ⟨t, .inr rfl⟩ hbool
        | _ => rfl
    rw [hplain, plainEq_of_texts h, beq_iff_eq, or_iff_left hother]

/-! ## Conditions -/

/-- Exactly one of less, equal and greater holds if values are equal that neither order tells
    apart. -/
theorem countP_holds_eq_one_iff (v x : Json) :
    [Condition.lt x, .eq x, .gt x].countP (Condition.holds v) = 1 ↔
      (looseEq v x = true ↔ order? v x ≠ some .lt ∧ order? v x ≠ some .gt) := by
  show [order? v x == some .lt, looseEq v x, order? v x == some .gt].countP id = 1 ↔ _
  generalize order? v x = o
  cases o with
  | none => cases looseEq v x <;> decide
  | some o => cases o <;> cases looseEq v x <;> decide

/-- Texts that neither order tells apart are one. -/
theorem compare_texts_iff (s t : String) :
    some (compare s t) ≠ some .lt ∧ some (compare s t) ≠ some .gt ↔ s = t := by
  rw [← Std.LawfulEqOrd.compare_eq_iff_eq (a := s)]
  cases compare s t <;> decide

theorem compare_eq_lt_iff {s t : String} : compare s t = .lt ↔ s < t := compareOfLessAndEq_eq_lt

theorem compare_eq_gt_iff {s t : String} : compare s t = .gt ↔ t < s :=
  Std.OrientedCmp.gt_iff_lt.trans compare_eq_lt_iff

/-- Of two values that are not null exactly one of less, equal and greater holds, unless both read
    as numbers and one as what is not a number, or one is a truth value and the other a form of it
    with another text. Equal and greater hold at once exactly in the latter case, if the texts are
    in that order. -/
theorem holds_once_iff {v x : Json} (hv : v.isNull = false) (hx : x.isNull = false) :
    ([Condition.lt x, .eq x, .gt x].countP (Condition.holds v) = 1 ↔
      ¬IsUnordered v x ∧ ¬IsOtherForm v x) ∧
    ((Condition.gt x).holds v = true ∧ (Condition.eq x).holds v = true ↔
      IsOtherForm v x ∧ x.plainText < v.plainText) := by
  have hgreater : (Condition.gt x).holds v = true ↔ order? v x = some .gt := beq_iff_eq
  have hequal : (Condition.eq x).holds v = looseEq v x := rfl
  rw [countP_holds_eq_one_iff, hgreater, hequal]
  by_cases htexts : asNumber? v = none ∨ asNumber? x = none
  · have hordered : ¬IsUnordered v x := by
      rintro ⟨d, e, hd, he, -⟩
      simp [hd, he] at htexts
    have hother : IsOtherForm v x → v.plainText ≠ x.plainText := And.right
    rw [order?_of_texts hv hx htexts, compare_texts_iff, looseEq_of_texts hv hx htexts]
    rw [Option.some.injEq, compare_eq_gt_iff, or_iff_left_iff_imp]
    refine ⟨⟨fun h => ⟨hordered, fun hform => hother hform (h hform)⟩,
      fun h hform => absurd hform h.2⟩, ?_⟩
    constructor
    · rintro ⟨hlt, h⟩
      refine ⟨h.resolve_left ?_, hlt⟩
      intro heq
      rw [heq] at hlt
      exact String.lt_irrefl _ hlt
    · exact fun ⟨h, hlt⟩ => ⟨hlt, .inr h⟩
  · obtain ⟨hv', hx'⟩ := not_or.1 htexts
    obtain ⟨d, hd⟩ := Option.ne_none_iff_exists'.1 hv'
    obtain ⟨e, he⟩ := Option.ne_none_iff_exists'.1 hx'
    have hother : ¬IsOtherForm v x := fun h => htexts h.not_numbers
    rw [isUnordered_iff hd he, order?_of_numbers hd he, looseEq_of_numbers hd he, Double.eq]
    cases d.order? e with
    | none => simp [hother]
    | some o => cases o <;> simp [hother]

/-- A flag that is set is equal to `true` only, and both equal to `1` and greater than it. -/
theorem holds_once_flag :
    let v : Json := .bool true
    v.isNull = false ∧
      [Condition.lt (.str "true"), .eq (.str "true"), .gt (.str "true")].countP
        (Condition.holds v) = 1 ∧
      (Condition.gt (.str "1")).holds v = true ∧ (Condition.eq (.str "1")).holds v = true := by
  intro v
  have hform : IsOtherForm v (.str "1") := ⟨⟨true, .inl ⟨rfl, by decide⟩⟩, by decide⟩
  have hordered : ¬IsUnordered v (.str "true") := by
    rintro ⟨x, y, hx, -⟩
    cases hx
  exact ⟨rfl, (holds_once_iff rfl rfl).1.2 ⟨hordered, fun h => h.2 rfl⟩,
    (holds_once_iff rfl rfl).2.2 ⟨hform, by decide⟩⟩

/-- Not exactly one of less, equal and greater holds of all values: a flag that is set is both equal
    to `1` and greater than it. -/
theorem not_holds_once :
    ¬∀ v x : Json, v.isNull = false → x.isNull = false →
      [Condition.lt x, .eq x, .gt x].countP (Condition.holds v) = 1 := by
  intro h
  exact absurd (h (.bool true) (.str "1") rfl rfl) (by decide)

end Depot
