import Depot.Proofs.Number.Exact
import Depot.Proofs.Text.Cuts
import Depot.Query.Compare

/-!
# Texts that read as numbers

A number is written as a decimal, and every decimal reads as a number. So whether a value reads as a
number can be told from its text alone.

* `Double.IsDecimal`: digits, maybe a point and more digits, maybe an exponent.

Results:
* `isSome_parse_of_isDecimal`: a decimal reads as a number, with or without a minus sign.
* `exists_isDecimal_chars`: a number is written as a decimal, with or without a minus sign.
* `isSome_asNumber?_eq`: a value reads as a number if and only if its text does.
-/

namespace Depot

/-- Trimming stops at the first element that stays. -/
theorem Text.exists_dropEnds_cons {α : Type} {p : α → Bool} {a : α} (h : p a = false)
    (l : List α) : ∃ rest, dropEnds p (a :: l) = a :: rest := by
  have hfirst : (a :: l).dropWhile p = a :: l := dropWhile_eq_self_of_stops fun b hb => by
    rwa [← Option.some.inj hb]
  have hlast : (l.reverse ++ [a]).dropWhile p = l.reverse.dropWhile p ++ [a] := by
    rw [List.dropWhile_append]
    split
    · rename_i hempty
      simp [List.isEmpty_iff.1 hempty, h]
    · rfl
  refine ⟨(l.reverse.dropWhile p).reverse, ?_⟩
  rw [dropEnds, hfirst, List.reverse_cons, hlast, List.reverse_append]
  rfl

namespace Double

/-! ## Decimals -/

/-- The exponent at the end of a decimal, or nothing. -/
inductive IsExponent : List Char → Prop
  | absent : IsExponent []
  | present {sign : Char} {ds : List Char} (hsign : sign = '-' ∨ sign = '+') (hne : ds ≠ [])
      (hds : ∀ c ∈ ds, Text.isAsciiDigit c = true) : IsExponent ('e' :: sign :: ds)

/-- A decimal without a sign. -/
inductive IsDecimal : List Char → Prop
  | whole {ds rest : List Char} (hne : ds ≠ []) (hds : ∀ c ∈ ds, Text.isAsciiDigit c = true)
      (hrest : IsExponent rest) : IsDecimal (ds ++ rest)
  | fraction {ds fs rest : List Char} (hne : ds ≠ [])
      (hds : ∀ c ∈ ds, Text.isAsciiDigit c = true) (hfs : ∀ c ∈ fs, Text.isAsciiDigit c = true)
      (hrest : IsExponent rest) : IsDecimal (ds ++ '.' :: (fs ++ rest))

/-- No character of a decimal is blank. -/
theorem IsExponent.isBlank_eq_false {cs : List Char} (h : IsExponent cs) :
    ∀ c ∈ cs, Text.isBlank c = false := by
  cases h with
  | absent => exact fun _ hc => nomatch hc
  | present hsign _ hds =>
    have hmark : Text.isBlank 'e' = false := by decide
    refine List.forall_mem_cons.2 ⟨hmark, List.forall_mem_cons.2 ⟨?_, ?_⟩⟩
    · rcases hsign with rfl | rfl <;> decide
    · exact fun c hc => Text.isBlank_of_isAsciiDigit (hds c hc)

theorem IsDecimal.isBlank_eq_false {cs : List Char} (h : IsDecimal cs) :
    ∀ c ∈ cs, Text.isBlank c = false := by
  cases h with
  | whole _ hds hrest =>
    exact List.forall_mem_append.2
      ⟨fun c hc => Text.isBlank_of_isAsciiDigit (hds c hc), hrest.isBlank_eq_false⟩
  | fraction _ hds hfs hrest =>
    refine List.forall_mem_append.2
      ⟨fun c hc => Text.isBlank_of_isAsciiDigit (hds c hc), List.forall_mem_cons.2 ⟨by decide, ?_⟩⟩
    exact List.forall_mem_append.2
      ⟨fun c hc => Text.isBlank_of_isAsciiDigit (hfs c hc), hrest.isBlank_eq_false⟩

/-- A decimal begins with a digit. -/
theorem IsDecimal.exists_cons {cs : List Char} (h : IsDecimal cs) :
    ∃ c rest, cs = c :: rest ∧ Text.isAsciiDigit c = true := by
  cases h with
  | whole hne hds =>
    obtain ⟨c, ds, rfl⟩ := List.exists_cons_of_ne_nil hne
    exact ⟨c, _, List.cons_append, hds c List.mem_cons_self⟩
  | fraction hne hds =>
    obtain ⟨c, ds, rfl⟩ := List.exists_cons_of_ne_nil hne
    exact ⟨c, _, List.cons_append, hds c List.mem_cons_self⟩

/-! ## Reading -/

/-- The digits at the start of a text end at the first other character. -/
theorem digitSpan_append {ds rest : List Char} (hds : ∀ c ∈ ds, Text.isAsciiDigit c = true)
    (hrest : ∀ c, rest.head? = some c → Text.isAsciiDigit c = false) :
    digitSpan (ds ++ rest) = (ds, rest) := by
  rw [digitSpan, Text.takeWhile_eq_of_stops hds hrest, Text.dropWhile_eq_of_stops hds hrest]

theorem IsExponent.head?_ne_digit {cs : List Char} (h : IsExponent cs) :
    ∀ c, cs.head? = some c → Text.isAsciiDigit c = false := by
  cases h with
  | absent => nofun
  | present =>
    rintro _ ⟨⟩
    decide

theorem isSome_parseExponent {cs : List Char} (h : IsExponent cs) :
    (parseExponent cs).isSome = true := by
  cases h with
  | absent => rfl
  | @present sign ds hsign hne hds =>
    have hdigits : (ds.isEmpty || !ds.all Text.isAsciiDigit) = false := by
      rw [Bool.or_eq_false_iff, Bool.not_eq_false', List.all_eq_true]
      exact ⟨List.isEmpty_eq_false_iff.2 hne, hds⟩
    rcases hsign with rfl | rfl <;> simp [parseExponent, signOf, hdigits]

/-- What reads a decimal without a sign reads every one. -/
theorem isSome_parseUnsigned {cs : List Char} (h : IsDecimal cs) (negative : Bool) :
    (parseUnsigned negative cs).isSome = true := by
  cases h with
  | @whole ds rest hne hds hrest =>
    have hexponent := isSome_parseExponent hrest
    rw [parseUnsigned, digitSpan_append hds hrest.head?_ne_digit]
    cases hrest with
    | absent => simp [hne, hexponent]
    | present => simp [hne, hexponent]
  | @fraction ds fs rest hne hds hfs hrest =>
    have hstop : ∀ c, ('.' :: (fs ++ rest)).head? = some c → Text.isAsciiDigit c = false := by
      rintro _ ⟨⟩
      decide
    rw [parseUnsigned, digitSpan_append hds hstop]
    simp [digitSpan_append hfs hrest.head?_ne_digit, hne, isSome_parseExponent hrest]

/-- A decimal reads as a number, with or without a minus sign. -/
theorem isSome_parse_of_isDecimal {cs : List Char} (h : IsDecimal cs) :
    (parse cs).isSome = true ∧ (parse ('-' :: cs)).isSome = true := by
  obtain ⟨c, rest, rfl, hc⟩ := h.exists_cons
  have hminus : signOf ('-' :: c :: rest) = (true, c :: rest) := rfl
  rw [parse_of_signOf (signOf_of_isAsciiDigit hc rest) hc, parse_of_signOf hminus hc]
  exact ⟨isSome_parseUnsigned h false, isSome_parseUnsigned h true⟩

/-- Digits with a minus sign behind them are no number. -/
theorem parse_digits_minus {ds : List Char} (hne : ds ≠ [])
    (hds : ∀ c ∈ ds, Text.isAsciiDigit c = true) (rest : List Char) :
    parse (ds ++ '-' :: rest) = none := by
  have hspan : digitSpan (ds ++ '-' :: rest) = (ds, '-' :: rest) := by
    refine digitSpan_append hds ?_
    rintro _ ⟨⟩
    decide
  obtain ⟨c, ds, rfl⟩ := List.exists_cons_of_ne_nil hne
  have hc := hds c List.mem_cons_self
  rw [List.cons_append] at hspan ⊢
  rw [parse_of_signOf (signOf_of_isAsciiDigit hc _) hc, parseUnsigned, hspan]
  rfl

/-! ## Writing -/

theorem isDecimal_natDigits (n : Nat) : IsDecimal (Text.natDigits n) := by
  have hds : ∀ c ∈ Text.natDigits n, Text.isAsciiDigit c = true :=
    fun c hc => Text.isAsciiDigit_of_mem_natDigits hc
  have hne : Text.natDigits n ≠ [] := Nat.toDigits_ne_nil
  rw [← List.append_nil (Text.natDigits n)]
  exact .whole hne hds .absent

theorem isDecimal_place {ds : List Char} (hds : ∀ c ∈ ds, Text.isAsciiDigit c = true)
    (point : Int) : IsDecimal (Layout.json.place ds point) := by
  have hzeros {n : Nat} : ∀ c ∈ List.replicate n '0', Text.isAsciiDigit c = true := by
    intro c hc
    rw [List.eq_of_mem_replicate hc]
    decide
  have hzero : ∀ c ∈ ['0'], Text.isAsciiDigit c = true :=
    List.forall_mem_singleton.2 (by decide)
  rw [Layout.place]
  split
  · -- All digits are behind the point.
    have hfs := List.forall_mem_append.2 ⟨hzeros (n := (-point).toNat), hds⟩
    have hdecimal := IsDecimal.fraction (List.cons_ne_nil '0' []) hzero hfs .absent
    rw [List.append_nil] at hdecimal
    exact hdecimal
  · split
    · -- All digits are in front of the point.
      rename_i hpoint hlength
      have hne : ds ++ List.replicate (point - ds.length).toNat '0' ≠ [] := by
        intro h
        have hlen := congrArg List.length h
        simp only [List.length_append, List.length_replicate, List.length_nil] at hlen
        omega
      have hall := List.forall_mem_append.2 ⟨hds, hzeros (n := (point - ds.length).toNat)⟩
      exact IsDecimal.fraction hne hall hzero .absent
    · rename_i hpoint hlength
      have hne : ds.take point.toNat ≠ [] := by
        intro h
        have hlen := congrArg List.length h
        simp only [List.length_take, List.length_nil] at hlen
        omega
      have hdecimal := IsDecimal.fraction hne (fun c hc => hds c (List.mem_of_mem_take hc))
        (fun c hc => hds c (List.mem_of_mem_drop (i := point.toNat) hc)) .absent
      rw [List.append_nil] at hdecimal
      exact hdecimal

theorem isDecimal_scientific {ds : List Char} (hne : ds ≠ [])
    (hds : ∀ c ∈ ds, Text.isAsciiDigit c = true) (e : Int) :
    IsDecimal (Layout.scientific ds e) := by
  have hexponent :
      IsExponent ('e' :: (if e < 0 then ['-'] else ['+']) ++ Text.natDigits e.natAbs) := by
    have hdigits : ∀ c ∈ Text.natDigits e.natAbs, Text.isAsciiDigit c = true :=
      fun c hc => Text.isAsciiDigit_of_mem_natDigits hc
    split
    · exact .present (.inl rfl) Nat.toDigits_ne_nil hdigits
    · exact .present (.inr rfl) Nat.toDigits_ne_nil hdigits
  unfold Layout.scientific
  dsimp only
  split
  · rename_i d d' rest
    obtain ⟨hd, hrest⟩ := List.forall_mem_cons.1 hds
    have hfirst : ∀ c ∈ [d], Text.isAsciiDigit c = true := List.forall_mem_singleton.2 hd
    have hdecimal := IsDecimal.fraction (List.cons_ne_nil d []) hfirst hrest hexponent
    simpa only [List.append_assoc, List.cons_append, List.nil_append] using hdecimal
  · have hdecimal := IsDecimal.whole hne hds hexponent
    simpa only [List.append_assoc, List.cons_append] using hdecimal

/-- A stored double is written as a decimal, behind a minus sign if it is negative. -/
theorem exists_isDecimal_render {d : Double} (h : d.isFinite = true) :
    ∃ body, IsDecimal body ∧
      (Layout.json.render d = body ∨ Layout.json.render d = '-' :: body) := by
  have hnan : d.isNan = false := by
    rw [isFinite, decide_eq_true_eq] at h
    rw [isNan, decide_eq_false_iff_not]
    omega
  have hsigned {body : List Char} (hbody : IsDecimal body) :
      ∃ b, IsDecimal b ∧ ((if d.negative then '-' :: body else body) = b ∨
        (if d.negative then '-' :: body else body) = '-' :: b) := by
    cases d.negative with
    | true => exact ⟨body, hbody, .inr rfl⟩
    | false => exact ⟨body, hbody, .inl rfl⟩
  rw [Layout.render, if_neg (ne_true_of_eq_false hnan)]
  refine hsigned ?_
  rw [h, Bool.not_true, if_neg Bool.false_ne_true]
  split
  · have hzero : ∀ c ∈ ['0'], Text.isAsciiDigit c = true :=
      List.forall_mem_singleton.2 (by decide)
    exact IsDecimal.fraction (List.cons_ne_nil '0' []) hzero hzero .absent
  · generalize shortest Layout.json.tie d.magnitude.val = found
    obtain ⟨digits, p⟩ := found
    have hds : ∀ c ∈ Text.natDigits digits, Text.isAsciiDigit c = true :=
      fun c hc => Text.isAsciiDigit_of_mem_natDigits hc
    dsimp only
    split
    · exact isDecimal_place hds _
    · exact isDecimal_scientific Nat.toDigits_ne_nil hds _

end Double

/-! ## Values -/

/-- A number is written as a decimal, behind a minus sign if it is negative. -/
theorem Number.exists_isDecimal_chars (n : Number) :
    ∃ body, Double.IsDecimal body ∧ (n.chars = body ∨ n.chars = '-' :: body) := by
  cases n with
  | int k =>
    refine ⟨_, Double.isDecimal_natDigits k.val.natAbs, ?_⟩
    rw [Number.chars, Text.intDigits]
    split
    · exact .inr rfl
    · exact .inl rfl
  | real d => exact Double.exists_isDecimal_render d.property

/-- The text of a number reads as a number. -/
theorem Number.isSome_parse_chars (n : Number) :
    (Double.parse (Text.trim n.chars)).isSome = true := by
  obtain ⟨body, hbody, hchars⟩ := n.exists_isDecimal_chars
  have hblank := hbody.isBlank_eq_false
  rcases hchars with h | h
  · rw [h, Text.trim, Text.dropEnds_eq_self hblank]
    exact (Double.isSome_parse_of_isDecimal hbody).1
  · rw [h, Text.trim, Text.dropEnds_eq_self (List.forall_mem_cons.2 ⟨by decide, hblank⟩)]
    exact (Double.isSome_parse_of_isDecimal hbody).2

/-- A text that begins with a bracket or a brace is no number. -/
theorem Double.parse_trim_of_bracket {c : Char} (hc : c = '[' ∨ c = '\x7b') (cs : List Char) :
    Double.parse (Text.trim (c :: cs)) = none := by
  have hblank : Text.isBlank c = false := by rcases hc with rfl | rfl <;> decide
  obtain ⟨rest, hrest⟩ := Text.exists_dropEnds_cons hblank cs
  rw [Text.trim, hrest]
  rcases hc with rfl | rfl <;> rfl

/-- A value reads as a number if and only if its text does. -/
theorem isSome_asNumber?_eq (v : Json) :
    (asNumber? v).isSome = (Double.parse (Text.trim v.plainText.toList)).isSome := by
  have hchars (w : Json) : w.text.toList = w.chars := String.toList_ofList
  cases v with
  | null => decide
  | bool b => cases b <;> decide
  | num n =>
    rw [show (Json.num n).plainText = (Json.num n).text from rfl, hchars]
    exact n.isSome_parse_chars.symm
  | str s => rfl
  | arr items =>
    rw [show (Json.arr items).plainText = (Json.arr items).text from rfl, hchars]
    exact (congrArg Option.isSome (Double.parse_trim_of_bracket (.inl rfl) _)).symm
  | obj fields =>
    rw [show (Json.obj fields).plainText = (Json.obj fields).text from rfl, hchars]
    exact (congrArg Option.isSome (Double.parse_trim_of_bracket (.inr rfl) _)).symm

end Depot
