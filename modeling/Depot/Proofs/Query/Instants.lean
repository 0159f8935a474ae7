import Depot.Proofs.Query.Calendar
import Depot.Proofs.Query.Comparisons
import Depot.Proofs.Query.Expressions
import Depot.Proofs.Text.FixedWidth

/-!
# Comparing instants

Instants are compared by their texts. Up to the end of the year 9999 such a text is made of numbers
in fields of fixed widths, the greater unit of time first, and it does not read as a number. So the
texts are in the order of the instants, and comparisons with the operand `$dt(n)` are comparisons
with the instant `n`.

* `Instant.parts`: the numbers in the text of an instant.
* `timestamp`: the text of an instant, as a column holds it.
* `Text.IsSolid`: a text of ASCII characters without blanks.
* `instantOperand`: an instant as an operand.

Results:
* `parts_lt_iff`: the numbers are in the order of the instants.
* `chars_eq_inFields`: the text of an instant is its numbers in fields.
* `order?_timestamps`: the order of two texts is that of their instants.
* `interpret_applied`: the condition of an operator on arguments without blanks.
* `holds_instants_iff`: a timestamp satisfies a comparison with instants exactly if its instant
  does.
-/

namespace Depot

namespace Instant

/-- The last millisecond of the year 9999. -/
def fourDigitEnd : Nat := 253402300799999

/-- The numbers in the text of an instant, the greatest unit first. -/
def parts (millis : Nat) : List Nat :=
  let date := Date.ofDay (epochDay + millis / 86400000)
  let ms := millis % 86400000
  [date.year, date.month, date.day, ms / 3600000, ms / 60000 % 60, ms / 1000 % 60, ms % 1000]

/-- The widths of the numbers, and the marks behind them. -/
def layout : List (Nat × Char) :=
  [(4, '-'), (2, '-'), (2, 'T'), (2, ':'), (2, ':'), (2, '.'), (3, 'Z')]

/-! ## The order of instants -/

/-- Numbers are in the order of their quotients, and of their remainders if these are equal. -/
theorem lt_iff_div_mod {x y b : Nat} :
    x < y ↔ x / b < y / b ∨ x / b = y / b ∧ x % b < y % b := by
  have hx := Nat.div_add_mod x b
  have hy := Nat.div_add_mod y b
  constructor
  · intro h
    rcases Nat.lt_or_eq_of_le (Nat.div_le_div_right (c := b) (Nat.le_of_lt h)) with hlt | heq
    · exact .inl hlt
    · rw [heq] at hx
      exact .inr ⟨heq, by omega⟩
  · rintro (h | ⟨heq, h⟩)
    · exact Nat.lt_of_div_lt_div h
    · rw [heq] at hx
      omega

/-- Times of a day are in the order of hours, minutes, seconds and milliseconds. -/
theorem timeOfDay_lt_iff {x y : Nat} :
    x < y ↔
      [x / 3600000, x / 60000 % 60, x / 1000 % 60, x % 1000] <
        [y / 3600000, y / 60000 % 60, y / 1000 % 60, y % 1000] := by
  have hminute (z : Nat) : z % 3600000 / 60000 = z / 60000 % 60 := by omega
  have hrest (z : Nat) : z % 3600000 % 60000 = z % 60000 := by omega
  have hsecond (z : Nat) : z % 60000 / 1000 = z / 1000 % 60 := by omega
  have hmilli (z : Nat) : z % 60000 % 1000 = z % 1000 := by omega
  rw [lt_iff_div_mod (b := 3600000), lt_iff_div_mod (x := x % _) (b := 60000),
    lt_iff_div_mod (x := x % _ % _) (b := 1000)]
  simp only [hminute, hrest, hsecond, hmilli, List.cons_lt_cons_iff, List.lt_irrefl, and_false,
    or_false]

/-- The numbers in the texts are in the order of the instants. -/
theorem parts_lt_iff {n m : Nat} : parts n < parts m ↔ n < m := by
  have hdate : (Date.ofDay (epochDay + n / 86400000)).Precedes
      (Date.ofDay (epochDay + m / 86400000)) ↔ n / 86400000 < m / 86400000 := by
    rw [Date.precedes_ofDay_iff, Nat.add_lt_add_iff_left]
  have hsame : Date.ofDay (epochDay + n / 86400000) = Date.ofDay (epochDay + m / 86400000) ↔
      n / 86400000 = m / 86400000 := by
    rw [Date.ofDay_inj, Nat.add_left_cancel_iff]
  rw [lt_iff_div_mod (b := 86400000), ← hdate, ← hsame, timeOfDay_lt_iff]
  unfold parts
  generalize Date.ofDay (epochDay + n / 86400000) = a
  generalize Date.ofDay (epochDay + m / 86400000) = b
  obtain ⟨y, month, day⟩ := a
  obtain ⟨y', month', day'⟩ := b
  rw [Date.mk.injEq]
  unfold Date.Precedes
  dsimp only
  rw [List.cons_lt_cons_iff, List.cons_lt_cons_iff, List.cons_lt_cons_iff]
  grind

/-! ## The text of an instant -/

theorem year_lt {millis : Nat} (h : millis ≤ fourDigitEnd) :
    (Date.ofDay (epochDay + millis / 86400000)).year < 10000 := by
  refine Date.yearOf_lt (Nat.lt_of_lt_of_eq ?_ (show 3652425 = Date.yearStart 10000 from rfl))
  unfold fourDigitEnd at h
  unfold epochDay
  omega

/-- The numbers fit their fields. -/
theorem fits_parts {millis : Nat} (h : millis ≤ fourDigitEnd) :
    List.Forall₂ Text.Fits layout (parts millis) := by
  have hyear := year_lt h
  have hdate := (Date.ofDay_spec (epochDay + millis / 86400000)).1.le
  simp only [layout, parts, Text.Fits, List.forall₂_cons, List.Forall₂.nil, and_true]
  omega

/-- The text of an instant is its numbers in fields. -/
theorem chars_eq_inFields {millis : Nat} (h : millis ≤ fourDigitEnd) :
    chars millis = Text.inFields layout (parts millis) := by
  have hyear := Nat.le_of_lt_succ (year_lt h)
  simp [chars, yearChars, hyear, layout, parts, Text.inFields]

/-- No character of the text is blank. -/
theorem isBlank_eq_false {millis : Nat} (h : millis ≤ fourDigitEnd) :
    ∀ c ∈ chars millis, Text.isBlank c = false := by
  intro c hc
  rw [chars_eq_inFields h] at hc
  rcases Text.of_mem_inFields hc with hdigit | hmark
  · exact Text.isBlank_of_isAsciiDigit hdigit
  · have hmarks : (layout.map Prod.snd).all (!Text.isBlank ·) = true := by decide
    simpa using List.all_eq_true.1 hmarks c hmark

end Instant

/-- The text of an instant, as a column holds it. -/
def timestamp (millis : Nat) : String := String.ofList (Instant.chars millis)

/-- The text of an instant is no number: it goes on behind the year. -/
theorem asNumber?_timestamp {n : Nat} (h : n ≤ Instant.fourDigitEnd) :
    asNumber? (.str (timestamp n)) = none := by
  have hdigits : ∀ c ∈ Text.padded 4 (Date.ofDay (Instant.epochDay + n / 86400000)).year,
      Text.isAsciiDigit c = true := fun _ => Text.isAsciiDigit_of_mem_padded
  have hyear : (Date.ofDay (Instant.epochDay + n / 86400000)).year < 10 ^ 4 := Instant.year_lt h
  have hlength := Text.length_padded (Nat.succ_pos 3) hyear
  have hne : Text.padded 4 (Date.ofDay (Instant.epochDay + n / 86400000)).year ≠ [] :=
    List.ne_nil_of_length_pos (hlength ▸ Nat.succ_pos 3)
  rw [asNumber?, timestamp, String.toList_ofList, Text.trim,
    Text.dropEnds_eq_self (Instant.isBlank_eq_false h), Instant.chars_eq_inFields h]
  exact Double.parse_digits_minus hne hdigits _

theorem timestamp_lt_iff {n m : Nat} (hn : n ≤ Instant.fourDigitEnd)
    (hm : m ≤ Instant.fourDigitEnd) : timestamp n < timestamp m ↔ n < m := by
  rw [String.lt_iff, timestamp, timestamp, String.toList_ofList, String.toList_ofList,
    Instant.chars_eq_inFields hn, Instant.chars_eq_inFields hm,
    Text.inFields_lt_iff (Instant.fits_parts hn) (Instant.fits_parts hm), Instant.parts_lt_iff]

theorem timestamp_inj {n m : Nat} (hn : n ≤ Instant.fourDigitEnd)
    (hm : m ≤ Instant.fourDigitEnd) : timestamp n = timestamp m ↔ n = m := by
  constructor
  · intro h
    have hlt := timestamp_lt_iff hn hm
    have hgt := timestamp_lt_iff hm hn
    rw [h, iff_false_left (String.lt_irrefl _)] at hlt hgt
    omega
  · rintro rfl
    rfl

/-- The order of two texts of instants is that of the instants. -/
theorem order?_timestamps {n m : Nat} (hn : n ≤ Instant.fourDigitEnd)
    (hm : m ≤ Instant.fourDigitEnd) :
    order? (.str (timestamp n)) (.str (timestamp m)) = some (compare n m) := by
  have hcompare : compare (timestamp n) (timestamp m) = compare n m := by
    rcases Nat.lt_trichotomy n m with h | rfl | h
    · rw [Nat.compare_eq_lt.2 h]
      exact compare_eq_lt_iff.2 ((timestamp_lt_iff hn hm).2 h)
    · rw [Nat.compare_eq_eq.2 rfl]
      exact Std.LawfulEqOrd.compare_eq_iff_eq.2 rfl
    · rw [Nat.compare_eq_gt.2 h]
      exact compare_eq_gt_iff.2 ((timestamp_lt_iff hm hn).2 h)
  rw [order?_of_texts rfl rfl (.inl (asNumber?_timestamp hn))]
  exact congrArg some hcompare

/-! ## Texts without blanks -/

/-- A text of ASCII characters without blanks. -/
def Text.IsSolid (cs : List Char) : Prop := ∀ c ∈ cs, c.toNat < 0x80 ∧ isBlank c = false

instance (cs : List Char) : Decidable (Text.IsSolid cs) :=
  List.decidableBAll (fun c : Char => c.toNat < 0x80 ∧ Text.isBlank c = false) cs

theorem Text.IsSolid.append {a b : List Char} :
    IsSolid (a ++ b) ↔ IsSolid a ∧ IsSolid b :=
  List.forall_mem_append

theorem Text.IsSolid.trim_eq {cs : List Char} (h : IsSolid cs) : trim cs = cs :=
  dropEnds_eq_self fun c hc => (h c hc).2

theorem Text.IsSolid.isLine {cs : List Char} (h : IsSolid cs) (hne : cs ≠ []) : IsLine cs :=
  ⟨hne, fun hmem => absurd (h '\n' hmem).2 (by decide)⟩

theorem Text.isSolid_natDigits (n : Nat) : IsSolid (natDigits n) := by
  intro c hc
  have hdigit := isAsciiDigit_of_mem_natDigits hc
  refine ⟨?_, isBlank_of_isAsciiDigit hdigit⟩
  simp only [isAsciiDigit, Bool.and_eq_true, decide_eq_true_eq] at hdigit
  omega

/-! ## Operands -/

/-- An operator and its arguments, as a text. -/
def Operator.applied (op : Operator) (args : String) : String := op.name ++ "(" ++ args ++ ")"

/-- An instant as an operand. -/
def instantOperand (millis : Nat) : String := Operator.instant.applied (Nat.repr millis)

theorem Operator.toList_applied (op : Operator) (args : String) :
    (op.applied args).toList = op.name.toList ++ enclosed args.toList := by
  simp only [applied, String.toList_append, enclosed, List.append_assoc]
  rfl

theorem toList_instantOperand (millis : Nat) :
    (instantOperand millis).toList = ['$', 'd', 't', '('] ++ (Text.natDigits millis ++ [')']) := by
  rw [instantOperand, Operator.toList_applied, Nat.toList_repr]
  rfl

theorem Operator.isSolid_applied {op : Operator} {args : String}
    (h : Text.IsSolid args.toList) : Text.IsSolid (op.applied args).toList := by
  have hname : Text.IsSolid op.name.toList := by cases op <;> decide
  have hopen : Text.IsSolid ['('] := by decide
  have hclose : Text.IsSolid [')'] := by decide
  rw [toList_applied]
  exact Text.IsSolid.append.2
    ⟨hname, Text.IsSolid.append.2 ⟨hopen, Text.IsSolid.append.2 ⟨h, hclose⟩⟩⟩

theorem isSolid_instantOperand (millis : Nat) : Text.IsSolid (instantOperand millis).toList := by
  refine Operator.isSolid_applied ?_
  rw [Nat.toList_repr]
  exact Text.isSolid_natDigits millis

/-- An instant is no integer, and there is no comma in it. -/
theorem not_isInteger_instantOperand (millis n : Nat) :
    ¬IsInteger n (instantOperand millis).toList := by
  intro h
  rw [toList_instantOperand] at h
  exact absurd (h.2.1 '$' List.mem_cons_self) (by decide)

theorem comma_notMem_instantOperand (millis : Nat) : ',' ∉ (instantOperand millis).toList := by
  have hdigits : ',' ∉ Text.natDigits millis :=
    fun h => absurd (Text.isAsciiDigit_of_mem_natDigits h) (by decide)
  rw [toList_instantOperand]
  simp [hdigits]

/-- The digits of an instant are found in its operand. -/
theorem instantDigits?_instantOperand (millis : Nat) :
    instantDigits? (instantOperand millis).toList = some (Text.natDigits millis) := by
  have hdigits : (Text.natDigits millis).all Text.isDigit = true := by
    refine List.all_eq_true.2 fun c hc => ?_
    rw [Text.isDigit_ascii (Text.isSolid_natDigits millis c hc).1]
    exact Text.isAsciiDigit_of_mem_natDigits hc
  have hne : (Text.natDigits millis).isEmpty = false :=
    List.isEmpty_eq_false_iff.2 Nat.toDigits_ne_nil
  rw [instantDigits?, (isSolid_instantOperand millis).trim_eq, toList_instantOperand,
    Text.after?_eq_some_iff.2 rfl]
  show (do
    let digits ← Text.before? ')' (Text.natDigits millis ++ [')'])
    if digits.isEmpty || !digits.all Text.isDigit then none else some digits) = _
  rw [Text.before?_eq_some_iff.2 rfl]
  show (if (Text.natDigits millis).isEmpty || !(Text.natDigits millis).all Text.isDigit then none
    else some (Text.natDigits millis)) = _
  rw [hdigits, hne]
  rfl

/-- An instant that is not too small is compared by its text. -/
theorem normalize_instantOperand {millis : Nat} (hlow : instantFloor ≤ millis)
    (hhigh : millis ≤ Instant.fourDigitEnd) :
    normalize (instantOperand millis) = .ok (.str (timestamp millis)) := by
  have hlimit : millis ≤ maxInteger := Nat.le_trans hhigh (by decide)
  have hlast : millis ≤ Instant.last := Nat.le_trans hhigh (by decide)
  rw [normalize, instantDigits?_instantOperand]
  dsimp only
  rw [Text.Natural.parse_natDigits_iff.2 ⟨rfl, hlimit⟩]
  dsimp only
  rw [if_neg (Nat.not_lt.2 hlow), Instant.text?, if_pos hlast]
  rfl

/-- The condition of an operator on arguments without blanks. -/
theorem interpret_applied {op : Operator} {args : String} {f : Filter}
    (hargs : Text.IsSolid args.toList) (hmeans : op.Means args.toList f) :
    interpret (op.applied args) = f.condition? := by
  have hop : op ≠ .instant := by
    rintro rfl
    cases hmeans
  have hsolid : Text.IsSolid (op.applied args).toList := Operator.isSolid_applied hargs
  have hopens : op.Opens (op.applied args).toList (enclosed args.toList) := by
    refine ⟨hop, ⟨op.name.toList, op.toList_applied args, ?_⟩, not_isWord_enclosed⟩
    cases op <;> rfl
  have hparse : Filter.parse (op.applied args) = .ok f :=
    (Filter.parse_eq_ok_iff (fun c hc => (hsolid c hc).1) hsolid.trim_eq).2
      (.inl (.applied hopens hmeans))
  rw [interpret, hparse]
  rfl

/-! ## Conditions -/

theorem isLine_instantOperand (millis : Nat) : IsLine (instantOperand millis).toList := by
  refine (isSolid_instantOperand millis).isLine ?_
  rw [toList_instantOperand]
  exact List.cons_ne_nil _ _

theorem trimmed_instantOperand (millis : Nat) :
    String.ofList (Text.trim (instantOperand millis).toList) = instantOperand millis := by
  rw [(isSolid_instantOperand millis).trim_eq, String.ofList_toList]

/-- The condition of an operator that compares with one operand, which is an instant. -/
theorem interpret_comparison {op : Operator} {f : String → Filter} {c : Json → Condition}
    {millis : Nat} (hlow : instantFloor ≤ millis) (hhigh : millis ≤ Instant.fourDigitEnd)
    (hmeans : ∀ args, IsLine args → op.Means args (f (String.ofList (Text.trim args))))
    (hcondition : ∀ x, (f x).condition? = (normalize x).bind fun j => .ok (some (c j))) :
    interpret (op.applied (instantOperand millis)) = .ok (some (c (.str (timestamp millis)))) := by
  have hexpression := hmeans _ (isLine_instantOperand millis)
  rw [trimmed_instantOperand] at hexpression
  rw [interpret_applied (isSolid_instantOperand millis) hexpression, hcondition,
    normalize_instantOperand hlow hhigh]
  rfl

/-- The condition of a range of instants. -/
theorem interpret_between_instants {a b : Nat} (ha : instantFloor ≤ a)
    (ha' : a ≤ Instant.fourDigitEnd) (hb : instantFloor ≤ b) (hb' : b ≤ Instant.fourDigitEnd) :
    interpret (Operator.between.applied (instantOperand a ++ "," ++ instantOperand b)) =
      .ok (some (.range (.str (timestamp a)) (.str (timestamp b)))) := by
  have hargs : (instantOperand a ++ "," ++ instantOperand b).toList =
      (instantOperand a).toList ++ ',' :: (instantOperand b).toList := by
    simp only [String.toList_append, List.append_assoc]
    rfl
  have hcomma : Text.IsSolid [','] := by decide
  have hsolid : Text.IsSolid (instantOperand a ++ "," ++ instantOperand b).toList := by
    rw [hargs]
    exact Text.IsSolid.append.2 ⟨isSolid_instantOperand a,
      Text.IsSolid.append.2 ⟨hcomma, isSolid_instantOperand b⟩⟩
  have hmeans := Operator.Means.between (isLine_instantOperand a).1 (comma_notMem_instantOperand a)
    (isLine_instantOperand b) fun ⟨⟨n, h⟩, _⟩ => not_isInteger_instantOperand a n h
  rw [trimmed_instantOperand, trimmed_instantOperand, ← hargs] at hmeans
  rw [interpret_applied hsolid hmeans, Filter.condition?, normalize_instantOperand ha ha',
    normalize_instantOperand hb hb']
  rfl

/-- Instants from 10,000,000,000 milliseconds up to the end of the year 9999 are operands whose
    texts are in their order, and a column with the text of an instant satisfies a comparison with
    them exactly if the instant does. -/
theorem holds_instants_iff {a b k : Nat} (ha : instantFloor ≤ a) (ha' : a ≤ Instant.fourDigitEnd)
    (hb : instantFloor ≤ b) (hb' : b ≤ Instant.fourDigitEnd) (hk : k ≤ Instant.fourDigitEnd) :
    normalize (instantOperand a) = .ok (.str (timestamp a)) ∧
    normalize (instantOperand b) = .ok (.str (timestamp b)) ∧
    order? (.str (timestamp a)) (.str (timestamp b)) = some (compare a b) ∧
    (∃ c, interpret (Operator.gt.applied (instantOperand a)) = .ok (some c) ∧
      (c.holds (.str (timestamp k)) = true ↔ a < k)) ∧
    (∃ c, interpret (Operator.lt.applied (instantOperand a)) = .ok (some c) ∧
      (c.holds (.str (timestamp k)) = true ↔ k < a)) ∧
    ∃ c, interpret (Operator.between.applied (instantOperand a ++ "," ++ instantOperand b)) =
        .ok (some c) ∧
      (c.holds (.str (timestamp k)) = true ↔ a ≤ k ∧ k ≤ b) := by
  have hlow := order?_timestamps hk ha'
  have hhigh := order?_timestamps hk hb'
  refine ⟨normalize_instantOperand ha ha', normalize_instantOperand hb hb',
    order?_timestamps ha' hb',
    ⟨_, interpret_comparison ha ha' (fun _ => Operator.Means.gt) fun _ => rfl, ?_⟩,
    ⟨_, interpret_comparison ha ha' (fun _ => Operator.Means.lt) fun _ => rfl, ?_⟩,
    _, interpret_between_instants ha ha' hb hb', ?_⟩
  · rw [Condition.holds, hlow, beq_iff_eq, Option.some.injEq, Nat.compare_eq_gt]
  · rw [Condition.holds, hlow, beq_iff_eq, Option.some.injEq, Nat.compare_eq_lt]
  · simp only [Condition.holds, hlow, hhigh, Bool.and_eq_true, Bool.or_eq_true, beq_iff_eq,
      Option.some.injEq, Nat.compare_eq_gt, Nat.compare_eq_eq, Nat.compare_eq_lt]
    omega

/-- The last millisecond of a 29 February comes before the first one of March, in the order of texts
    and in a filter. -/
theorem holds_instants_leap_day :
    instantFloor ≤ 951868799999 ∧ 951868800000 ≤ Instant.fourDigitEnd ∧
      order? (.str "2000-02-29T23:59:59.999Z") (.str "2000-03-01T00:00:00.000Z") = some .lt ∧
      ∃ c, interpret "$gt($dt(951868799999))" = .ok (some c) ∧
        c.holds (.str "2000-03-01T00:00:00.000Z") = true := by
  have hlow : instantFloor ≤ 951868799999 := by decide
  have hlow' : instantFloor ≤ 951868800000 := by decide
  have hhigh : 951868799999 ≤ Instant.fourDigitEnd := by decide
  have hhigh' : 951868800000 ≤ Instant.fourDigitEnd := by decide
  have hfebruary : timestamp 951868799999 = "2000-02-29T23:59:59.999Z" := by decide
  have hmarch : timestamp 951868800000 = "2000-03-01T00:00:00.000Z" := by decide
  have hraw : Operator.gt.applied (instantOperand 951868799999) = "$gt($dt(951868799999))" := by
    decide
  obtain ⟨-, -, horder, ⟨c, hc, hholds⟩, -⟩ :=
    holds_instants_iff hlow hhigh hlow' hhigh' hhigh'
  rw [hfebruary, hmarch] at horder
  rw [hraw] at hc
  rw [hmarch] at hholds
  exact ⟨hlow, hhigh', horder, c, hc, hholds.2 (by decide)⟩

end Depot
