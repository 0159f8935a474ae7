import Depot.Json.Record

/-!
# Equality as data

Two values are the same as data if they differ at most in the signs of zeros: a zero among the
doubles has a sign, which shows in its text but not in comparisons. So values that are the same as
data can have different texts, and rows that are the same as data different keys.

* `Json.unsigned`: a value with its zeros without their signs.

Results:
* `same_iff_unsigned`: values are the same as data if and only if they are equal once the zeros have
  no signs.
* `unsigned_field?_of_sameFields`: records that are the same as data hold the same under each key,
  but for the signs of zeros.
-/

namespace Depot

namespace Double

theorem eq_iff_of_isFinite {a b : Double} (ha : a.isFinite = true) (hb : b.isFinite = true) :
    a.eq b = true ↔ a = b ∨ a.isZero = true ∧ b.isZero = true := by
  have hnan : a.isNan = false ∧ b.isNan = false := by
    simp only [isFinite, decide_eq_true_eq] at ha hb
    simp only [isNan, decide_eq_false_iff_not]
    omega
  rw [eq, order?, hnan.1, hnan.2]
  show (some (compare a.position b.position) == some .eq) = true ↔ _
  rw [beq_iff_eq, Option.some.injEq, Int.compare_eq_eq]
  obtain ⟨an, am⟩ := a
  obtain ⟨bn, bm⟩ := b
  simp only [position, isZero, Double.mk.injEq, beq_iff_eq, Fin.ext_iff]
  cases an <;> cases bn <;> simp <;> omega

theorem isZero_zero (negative : Bool) : (zero negative).isZero = true := by
  cases negative <;> rfl

end Double

namespace Number

/-- A number; a zero among the doubles without its sign. -/
def unsigned : Number → Number
  | .int n => .int n
  | .real d => if d.val.isZero then .real ⟨.zero false, by decide⟩ else .real d

theorem same_iff_unsigned (a b : Number) : a.same b = true ↔ a.unsigned = b.unsigned := by
  have hmixed (n : Integer64) (d : FiniteDouble) : .int n ≠ unsigned (.real d) := by
    rw [unsigned]
    split <;> exact Number.noConfusion
  cases a with
  | int n =>
    cases b with
    | int k => simp only [same, unsigned, beq_iff_eq, int.injEq, Subtype.ext_iff]
    | real d =>
      exact ⟨fun h => absurd h Bool.false_ne_true, fun h => absurd h (hmixed n d)⟩
  | real d =>
    cases b with
    | int n =>
      exact ⟨fun h => absurd h Bool.false_ne_true, fun h => absurd h.symm (hmixed n d)⟩
    | real f =>
      rw [same, Double.eq_iff_of_isFinite d.property f.property, unsigned, unsigned]
      -- equal doubles are both zeros or both not, before and after a zero loses its sign
      have hequal (h : d.val = f.val) : d.val.isZero = f.val.isZero := by rw [h]
      cases hd : d.val.isZero with
      | true =>
        cases hf : f.val.isZero with
        | true => simp
        | false =>
          have hne : d.val ≠ f.val := fun h => by simp [hequal h, hf] at hd
          have hne' : Double.zero false ≠ f.val := fun h => by simp [← h, Double.isZero_zero] at hf
          simp [hne, Subtype.ext_iff, hne']
      | false =>
        cases hf : f.val.isZero with
        | true =>
          have hne : d.val ≠ f.val := fun h => by simp [hequal h, hf] at hd
          have hne' : d.val ≠ Double.zero false := fun h => by simp [h, Double.isZero_zero] at hd
          simp [hne, Subtype.ext_iff, hne']
        | false => simp [Subtype.ext_iff]

end Number

namespace Json

mutual

/-- A value with its zeros without their signs. -/
def unsigned : Json → Json
  | .num n => .num n.unsigned
  | .arr items => .arr (unsignedItems items)
  | .obj fields => .obj (unsignedFields fields)
  | v => v

/-- Values with their zeros without their signs. -/
def unsignedItems : List Json → List Json
  | [] => []
  | v :: vs => unsigned v :: unsignedItems vs

/-- Fields with the zeros of their values without their signs. -/
def unsignedFields : List (String × Json) → List (String × Json)
  | [] => []
  | (k, v) :: fields => (k, unsigned v) :: unsignedFields fields

end

mutual

theorem same_iff_unsigned : ∀ a b : Json, same a b = true ↔ a.unsigned = b.unsigned
  | .null, b => by cases b <;> simp [same, unsigned]
  | .bool _, b => by cases b <;> simp [same, unsigned]
  | .num _, b => by cases b <;> simp [same, unsigned, Number.same_iff_unsigned]
  | .str _, b => by cases b <;> simp [same, unsigned]
  | .arr as, b => by
    cases b <;> simp [same, unsigned]
    exact sameItems_iff_unsigned as _
  | .obj as, b => by
    cases b <;> simp [same, unsigned]
    exact sameFields_iff_unsigned as _

theorem sameItems_iff_unsigned :
    ∀ as bs : List Json, sameItems as bs = true ↔ unsignedItems as = unsignedItems bs
  | [], bs => by cases bs <;> simp [sameItems, unsignedItems]
  | a :: as, bs => by
    cases bs with
    | nil => simp [sameItems, unsignedItems]
    | cons b bs =>
      simp [sameItems, unsignedItems, same_iff_unsigned a b, sameItems_iff_unsigned as bs]

theorem sameFields_iff_unsigned :
    ∀ as bs : List (String × Json),
      sameFields as bs = true ↔ unsignedFields as = unsignedFields bs
  | [], bs => by cases bs <;> simp [sameFields, unsignedFields]
  | (k, a) :: as, bs => by
    cases bs with
    | nil => simp [sameFields, unsignedFields]
    | cons b bs =>
      simp [sameFields, unsignedFields, same_iff_unsigned a b.2, sameFields_iff_unsigned as bs,
        and_assoc]

end

/-- What a record holds once the zeros have no signs. -/
theorem field?_unsignedFields (r : Record) (k : String) :
    Fields.field? (unsignedFields r) k = (r.field? k).map unsigned := by
  induction r with
  | nil => rfl
  | cons f r ih =>
    rw [unsignedFields, Fields.field?_cons, Fields.field?_cons, ih]
    split <;> rfl

/-- Records that are the same as data hold the same under each key, but for the signs of zeros. -/
theorem unsigned_field?_of_sameFields {r s : Record} (h : sameFields r s = true) (k : String) :
    (r.field? k).map unsigned = (s.field? k).map unsigned := by
  rw [← field?_unsignedFields, ← field?_unsignedFields, (sameFields_iff_unsigned r s).1 h]

end Json

end Depot
