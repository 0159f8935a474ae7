import Depot.Proofs.Text.Cuts
import Depot.Text.Case
import Depot.Text.Word

/-!
# Words in any letter case

An ASCII text begins with a word, letter case ignored, if its first characters in small letters are
the word. Beyond ASCII there are further forms of two letters.

* `Text.IsAscii`: texts of ASCII characters.
* `Text.IsSmall`, `Text.IsLetters`: words in small letters, and words of letters only.

Results:
* `isFormOf_iff`: the forms of a small letter among the ASCII characters.
* `isFormOf_iff_fold`: the forms of a small letter are the characters that fold to it.
* `afterWord_eq_some_iff`: what follows a word at the start of an ASCII text.
* `afterWord_eq_nil_iff`: a text is a word if it folds to that word.
-/

namespace Depot.Text

/-- A text of ASCII characters. -/
def IsAscii (cs : List Char) : Prop := ∀ c ∈ cs, c.toNat < 0x80

/-- A word without capital letters. -/
def IsSmall (word : List Char) : Prop := ∀ l ∈ word, lowerAscii l = l

/-- A word of the letters `a` to `z`. -/
def IsLetters (word : List Char) : Prop := ∀ l ∈ word, 0x61 ≤ l.toNat ∧ l.toNat ≤ 0x7A

-- The instances go through the text: the search may find one that goes through all characters.
instance (cs : List Char) : Decidable (IsAscii cs) :=
  List.decidableBAll (fun c : Char => c.toNat < 0x80) cs

instance (word : List Char) : Decidable (IsSmall word) :=
  List.decidableBAll (fun l : Char => lowerAscii l = l) word

instance (word : List Char) : Decidable (IsLetters word) :=
  List.decidableBAll (fun l : Char => 0x61 ≤ l.toNat ∧ l.toNat ≤ 0x7A) word

theorem IsAscii.append {a b : List Char} : IsAscii (a ++ b) ↔ IsAscii a ∧ IsAscii b :=
  List.forall_mem_append

theorem IsAscii.trim {cs : List Char} (h : IsAscii cs) : IsAscii (trim cs) :=
  fun c hc => h c (mem_of_mem_dropEnds hc)

theorem toNat_lowerAscii (c : Char) :
    (lowerAscii c).toNat = if 0x41 ≤ c.toNat ∧ c.toNat ≤ 0x5A then c.toNat + 32 else c.toNat := by
  rw [lowerAscii]
  split
  · rename_i h
    have hvalid : (c.toNat + 32).isValidChar := Or.inl (by omega)
    rw [Char.ofNat, dif_pos hvalid]
    rfl
  · rfl

/-- A character that is no small letter is the small form of itself only. -/
theorem eq_of_lowerAscii_eq {c d : Char} (hd : d.toNat < 0x61 ∨ 0x7A < d.toNat)
    (h : lowerAscii c = d) : c = d := by
  have hn := toNat_lowerAscii c
  rw [h] at hn
  split at hn
  · omega
  · exact Char.toNat_inj.1 hn.symm

theorem isFormOf_iff {l c : Char} (hl : lowerAscii l = l) (hc : c.toNat < 0x80) :
    isFormOf l c = true ↔ lowerAscii c = l := by
  have hsmall := toNat_lowerAscii l
  have hform := toNat_lowerAscii c
  rw [hl] at hsmall
  have hbound : ¬(0x41 ≤ l.toNat ∧ l.toNat ≤ 0x5A) := by
    intro h
    rw [if_pos h] at hsmall
    omega
  have hlong : (c.toNat == 0x17F) = false := by
    rw [beq_eq_false_iff_ne]
    omega
  have hsign : (c.toNat == 0x212A) = false := by
    rw [beq_eq_false_iff_ne]
    omega
  rw [isFormOf, hlong, hsign, Bool.and_false, Bool.and_false, Bool.or_false, Bool.or_false,
    ← Char.toNat_inj, hform]
  simp only [Bool.or_eq_true, Bool.and_eq_true, beq_iff_eq, decide_eq_true_eq, ← Char.toNat_inj]
  split
  · omega
  · omega

/-- A text whose small form is of ASCII characters is one of ASCII characters itself. -/
theorem isAscii_of_map_lowerAscii {cs : List Char} (h : IsAscii (cs.map lowerAscii)) :
    IsAscii cs := by
  intro c hc
  have hsmall : (lowerAscii c).toNat < 0x80 := h _ (List.mem_map_of_mem hc)
  rw [toNat_lowerAscii] at hsmall
  split at hsmall <;> omega

/-! ## Case folding -/

theorem mapRuns_eq_some {runs : List CaseRun} {n m : Nat} (h : mapRuns runs n = some m) :
    ∃ r ∈ runs, r.first ≤ n ∧ n ≤ r.last ∧ m = r.image + (n - r.first) := by
  unfold mapRuns at h
  obtain ⟨r, hr, rfl⟩ := Option.map_eq_some_iff.1 h
  have hcovers := List.find?_some hr
  simp only [CaseRun.covers, Bool.and_eq_true, decide_eq_true_eq] at hcovers
  exact ⟨r, List.mem_of_find?_eq_some hr, hcovers.1.1, hcovers.1.2, rfl⟩

/-- Of the runs beyond ASCII, two lead back to ASCII characters: that of the long s and that of the
    Kelvin sign. -/
theorem image_of_mem_runs :
    ∀ r ∈ foldExceptions ++ lowerRuns, 0x80 ≤ r.image ∨
      r.first = r.last ∧ (r.first, r.image) ∈ [(0x17F, 0x73), (0x212A, 0x6B)] := by
  decide +kernel

/-- The long s or the Kelvin sign, and the letter that it is a form of. -/
def IsOutlyingForm (l c : Char) : Prop :=
  (l = 's' ∧ c.toNat = 0x17F) ∨ (l = 'k' ∧ c.toNat = 0x212A)

-- The table is read as a list of characters: its packed form takes the kernel long to unpack.
set_option maxRecDepth 10000 in
theorem added_outlying :
    Unicode.added.has 0x17F = false ∧ Unicode.added.has 0x212A = false :=
  ⟨(CharSet.has_read_ofList _ _).trans (by decide +kernel),
    (CharSet.has_read_ofList _ _).trans (by decide +kernel)⟩

theorem fold_of_isOutlyingForm {l c : Char} (h : IsOutlyingForm l c) : fold c = l := by
  obtain ⟨rfl, hc⟩ | ⟨rfl, hc⟩ := h
  · rw [fold, CharSet.mem, hc, added_outlying.1]
    rfl
  · rw [fold, lowerChar, CharSet.mem, hc, added_outlying.2]
    rfl

section

variable {l c : Char} (hl : 0x61 ≤ l.toNat ∧ l.toNat ≤ 0x7A)

include hl

theorem lowerAscii_of_small : lowerAscii l = l := by
  rw [lowerAscii, if_neg (by omega)]

theorem isOutlyingForm_of_mapRuns {runs : List CaseRun} {m : Nat}
    (hruns : runs ⊆ foldExceptions ++ lowerRuns) (h : mapRuns runs c.toNat = some m)
    (hm : Char.ofNat m = l) : IsOutlyingForm l c := by
  obtain ⟨r, hr, hfirst, hlast, himage⟩ := mapRuns_eq_some h
  -- A number that is no code point would stand for `U+0000`, which is no letter.
  have hvalue : l.toNat = m := by
    by_cases hvalid : m.isValidChar
    · rw [← hm, Char.ofNat, dif_pos hvalid]
      rfl
    · rw [← hm, Char.ofNat, dif_neg hvalid] at hl
      exact absurd hl.1 (by decide)
  have hrun := image_of_mem_runs r (hruns hr)
  simp only [List.mem_cons, Prod.mk.injEq, List.not_mem_nil, or_false] at hrun
  unfold IsOutlyingForm
  rw [← Char.toNat_inj, ← Char.toNat_inj]
  show (l.toNat = 0x73 ∧ _) ∨ (l.toNat = 0x6B ∧ _)
  omega

theorem isFormOf_iff_outlying (hc : 0x80 ≤ c.toNat) :
    isFormOf l c = true ↔ IsOutlyingForm l c := by
  have hne : c ≠ l := fun h => by
    rw [h] at hc
    omega
  have hcapital : ¬(0x41 ≤ c.toNat ∧ c.toNat ≤ 0x5A) := by omega
  simp only [isFormOf, IsOutlyingForm, Bool.or_eq_true, Bool.and_eq_true, beq_iff_eq,
    decide_eq_true_eq, hne, hcapital, false_and, false_or]

/-- The forms of a small letter are the characters that fold to it. -/
theorem isFormOf_iff_fold : isFormOf l c = true ↔ fold c = l := by
  by_cases hc : c.toNat < 0x80
  · rw [fold_of_lowerAscii hc]
    exact isFormOf_iff (lowerAscii_of_small hl) hc
  · rw [isFormOf_iff_outlying hl (by omega)]
    refine ⟨fold_of_isOutlyingForm, fun h => ?_⟩
    have hne : c ≠ l := fun heq => hc (by rw [heq]; omega)
    rw [fold, if_neg hc] at h
    split at h
    · exact absurd h hne
    · split at h
      · rename_i hm
        exact isOutlyingForm_of_mapRuns hl (List.subset_append_left _ _) hm h
      · rw [lowerChar, if_neg hc] at h
        split at h
        · rename_i hm
          exact isOutlyingForm_of_mapRuns hl (List.subset_append_right _ _) hm h
        · exact absurd h hne

/-- A form of a letter is no blank. -/
theorem isBlank_of_isFormOf (h : isFormOf l c = true) : isBlank c = false := by
  have hform : c = l ∨ (0x41 ≤ c.toNat ∧ c.toNat ≤ 0x5A) ∨ c.toNat = 0x17F ∨ c.toNat = 0x212A := by
    simp only [isFormOf, Bool.or_eq_true, Bool.and_eq_true, beq_iff_eq, decide_eq_true_eq] at h
    obtain ((h | ⟨h, -⟩) | ⟨-, h⟩) | ⟨-, h⟩ := h
    · exact Or.inl h
    · exact Or.inr (Or.inl h)
    · exact Or.inr (Or.inr (Or.inl h))
    · exact Or.inr (Or.inr (Or.inr h))
  rw [← Char.toNat_inj] at hform
  simp only [isBlank, Bool.or_eq_false_iff, Bool.and_eq_false_iff, decide_eq_false_iff_not,
    beq_eq_false_iff_ne]
  omega

end

theorem map_fold_of_isAscii {cs : List Char} (h : IsAscii cs) :
    cs.map fold = cs.map lowerAscii :=
  List.map_congr_left fun c hc => fold_of_lowerAscii (h c hc)

/-! ## Words -/

/-- A text begins with the forms of a word if it begins with a form of its first letter and the
    rest with those of its rest. -/
theorem exists_front_cons_iff {f : Char → Char} {l c : Char} {word cs rest : List Char} :
    (∃ front, c :: cs = front ++ rest ∧ front.map f = l :: word) ↔
      f c = l ∧ ∃ front, cs = front ++ rest ∧ front.map f = word := by
  constructor
  · rintro ⟨front, hcs, hfront⟩
    cases front with
    | nil => cases hfront
    | cons d front =>
      obtain ⟨rfl, hrest⟩ := List.cons.inj hcs
      exact ⟨(List.cons.inj hfront).1, front, hrest, (List.cons.inj hfront).2⟩
  · rintro ⟨hc, front, rfl, hfront⟩
    exact ⟨c :: front, rfl, by rw [List.map_cons, hc, hfront]⟩

/-- What follows a word at the start of a text, where `f` takes the forms of the letters of the word
    to these letters. -/
theorem afterWord_eq_some_iff_map {f : Char → Char} {word cs rest : List Char}
    (hf : ∀ l ∈ word, ∀ c ∈ cs, isFormOf l c = true ↔ f c = l) :
    afterWord word cs = some rest ↔ ∃ front, cs = front ++ rest ∧ front.map f = word := by
  induction word generalizing cs with
  | nil =>
    rw [afterWord, Option.some.injEq]
    constructor
    · rintro rfl
      exact ⟨[], rfl, rfl⟩
    · rintro ⟨front, rfl, hfront⟩
      rw [List.map_eq_nil_iff.1 hfront]
      rfl
  | cons l word ih =>
    cases cs with
    | nil =>
      refine iff_of_false nofun ?_
      rintro ⟨front, hcs, hfront⟩
      rw [(List.append_eq_nil_iff.1 hcs.symm).1] at hfront
      cases hfront
    | cons c cs =>
      have hrest : ∀ l ∈ word, ∀ c ∈ cs, isFormOf l c = true ↔ f c = l := fun l hl c hc =>
        hf l (List.mem_cons_of_mem _ hl) c (List.mem_cons_of_mem _ hc)
      rw [afterWord, exists_front_cons_iff, ← hf l List.mem_cons_self c List.mem_cons_self]
      by_cases hc : isFormOf l c = true
      · rw [if_pos hc, ih hrest, and_iff_right hc]
      · rw [if_neg hc]
        exact iff_of_false nofun fun h => hc h.1

/-- What follows a word in small letters at the start of an ASCII text, letter case ignored. -/
theorem afterWord_eq_some_iff {word cs rest : List Char} (hword : IsSmall word)
    (hcs : IsAscii cs) :
    afterWord word cs = some rest ↔ ∃ front, cs = front ++ rest ∧ front.map lowerAscii = word :=
  afterWord_eq_some_iff_map fun l hl c hc => isFormOf_iff (hword l hl) (hcs c hc)

/-- A text is a word in some letter case if it folds to that word. -/
theorem afterWord_eq_nil_iff {word cs : List Char} (hword : IsLetters word) :
    afterWord word cs = some [] ↔ cs.map fold = word := by
  rw [afterWord_eq_some_iff_map fun l hl c _ => isFormOf_iff_fold (hword l hl)]
  simp only [List.append_nil, exists_eq_left']

end Depot.Text
