import Depot.Query.Filter

/-!
# Lists of values

A list of values is cut at the commas outside parentheses, so that an operand with arguments of its
own stays whole. The parentheses of a text are described by what is open after each of its parts.

* `level`: the parentheses that a text opens and does not close.
* `Closes`, `Balanced`: texts whose parentheses close.
* `IsPiece`: texts whose parentheses close and whose commas stand inside them.
* `IsCut`: the pieces of a text, joined by commas.
* `Splits`: what the items of a list are.

Results:
* `cutTopLevel_eq_some_iff`: a text is cut into its pieces, and there is one way to cut it.
* `splitTopLevel_eq_some_iff`: the items of a list.
* `exists_splitTopLevel_iff`: a text is a list of items if and only if its parentheses balance.
-/

namespace Depot

/-- The number of parentheses that a text opens, less the number that it closes. -/
def level (cs : List Char) : Int := cs.count '(' - cs.count ')'

/-- The parentheses of a text close where `depth` are open before it: none is closed that is not
    open, and none stays open. -/
def Closes (depth : Int) (cs : List Char) : Prop :=
  (∀ p, p <+: cs → 0 ≤ depth + level p) ∧ depth + level cs = 0

/-- The parentheses of a text balance. -/
def Balanced (cs : List Char) : Prop := Closes 0 cs

/-- A text whose parentheses close and whose commas stand inside parentheses, where `depth` are open
    before it. -/
def IsPiece (depth : Int) (cs : List Char) : Prop :=
  Closes depth cs ∧ ∀ p, p ++ [','] <+: cs → 0 < depth + level p

/-- The pieces of a text, where `depth` parentheses are open before it: joined by commas they are
    the text, and the first closes what is open. -/
def IsCut (depth : Nat) (cs : List Char) (pieces : List (List Char)) : Prop :=
  ∃ p ps, pieces = p :: ps ∧ cs = p ++ ps.flatMap (',' :: ·) ∧ IsPiece depth p ∧
    ∀ q ∈ ps, IsPiece 0 q

/-- What the items of a list are: it consists of pieces joined by commas, and the items are the
    pieces without the blanks at their ends and without those of blanks only. -/
def Splits (args : List Char) (items : List (List Char)) : Prop :=
  ∃ p ps, args = p ++ ps.flatMap (',' :: ·) ∧ (∀ q ∈ p :: ps, IsPiece 0 q) ∧
    items = ((p :: ps).map Text.trim).filter (!·.isEmpty)

/-! ## Levels -/

theorem level_nil : level [] = 0 := rfl

theorem level_cons (c : Char) (cs : List Char) : level (c :: cs) = level [c] + level cs := by
  rw [← List.singleton_append, level, List.count_append, List.count_append, level, level]
  omega

theorem level_singleton (c : Char) :
    level [c] = if c = '(' then 1 else if c = ')' then -1 else 0 := by
  rw [level, List.count_singleton, List.count_singleton]
  by_cases hopen : c = '('
  · rw [if_pos hopen, hopen]
    rfl
  · rw [if_neg hopen, if_neg (by rwa [beq_iff_eq])]
    by_cases hclose : c = ')'
    · rw [if_pos hclose, hclose]
      rfl
    · rw [if_neg hclose, if_neg (by rwa [beq_iff_eq])]
      rfl

/-! ## Texts that close -/

theorem closes_nil {depth : Int} : Closes depth [] ↔ depth = 0 := by
  rw [Closes, level_nil, Int.add_zero, and_iff_right_iff_imp]
  intro hdepth p hp
  rw [List.prefix_nil.1 hp, level_nil, hdepth]
  exact Int.le_refl 0

theorem closes_cons {depth : Int} {c : Char} {cs : List Char} :
    Closes depth (c :: cs) ↔ 0 ≤ depth ∧ Closes (depth + level [c]) cs := by
  constructor
  · rintro ⟨hparts, htotal⟩
    have hstart := hparts [] List.nil_prefix
    rw [level_nil, Int.add_zero] at hstart
    rw [level_cons, ← Int.add_assoc] at htotal
    refine ⟨hstart, fun p hp => ?_, htotal⟩
    have hpart := hparts (c :: p) (List.cons_prefix_cons.2 ⟨rfl, hp⟩)
    rwa [level_cons, ← Int.add_assoc] at hpart
  · rintro ⟨hstart, hparts, htotal⟩
    constructor
    · intro p hp
      obtain rfl | ⟨t, rfl, ht⟩ := List.prefix_cons_iff.1 hp
      · rwa [level_nil, Int.add_zero]
      · rw [level_cons, ← Int.add_assoc]
        exact hparts t ht
    · rw [level_cons, ← Int.add_assoc]
      exact htotal

theorem Closes.nonneg {depth : Int} {cs : List Char} (h : Closes depth cs) : 0 ≤ depth := by
  have hstart := h.1 [] List.nil_prefix
  rwa [level_nil, Int.add_zero] at hstart

theorem isPiece_nil {depth : Int} : IsPiece depth [] ↔ depth = 0 := by
  rw [IsPiece, closes_nil, and_iff_left_iff_imp]
  intro _ p hp
  exact absurd (List.prefix_nil.1 hp) (List.append_ne_nil_of_right_ne_nil p (List.cons_ne_nil _ _))

theorem isPiece_cons {depth : Int} {c : Char} {cs : List Char} :
    IsPiece depth (c :: cs) ↔
      0 ≤ depth ∧ (c = ',' → 0 < depth) ∧ IsPiece (depth + level [c]) cs := by
  rw [IsPiece, closes_cons, IsPiece]
  constructor
  · rintro ⟨⟨hstart, hcloses⟩, hcommas⟩
    refine ⟨hstart, ?_, hcloses, fun p hp => ?_⟩
    · rintro rfl
      have hfirst := hcommas [] (List.cons_prefix_cons.2 ⟨rfl, List.nil_prefix⟩)
      rwa [level_nil, Int.add_zero] at hfirst
    · have hinside := hcommas (c :: p) (List.cons_prefix_cons.2 ⟨rfl, hp⟩)
      rwa [level_cons, ← Int.add_assoc] at hinside
  · rintro ⟨hstart, hfirst, hcloses, hcommas⟩
    refine ⟨⟨hstart, hcloses⟩, fun p hp => ?_⟩
    cases p with
    | nil =>
      rw [level_nil, Int.add_zero]
      exact hfirst (List.cons_prefix_cons.1 hp).1.symm
    | cons d p =>
      rw [List.cons_append] at hp
      obtain ⟨rfl, hrest⟩ := List.cons_prefix_cons.1 hp
      rw [level_cons, ← Int.add_assoc]
      exact hcommas p hrest

/-! ## The cuts -/

theorem cutTopLevel_ne_nil {depth : Nat} {cs : List Char} : cutTopLevel depth cs ≠ some [] := by
  cases cs with
  | nil =>
    rw [cutTopLevel]
    split <;> exact nofun
  | cons c cs =>
    rw [cutTopLevel]
    split
    · rw [Ne, Option.map_eq_some_iff]
      exact fun ⟨_, _, h⟩ => List.cons_ne_nil _ _ h
    · dsimp only
      rw [Ne, Option.map_eq_some_iff]
      rintro ⟨pieces, -, h⟩
      cases pieces with
      | nil => cases h
      | cons piece pieces => cases h

/-- Behind a character a text is cut at the depth that the character leaves. -/
theorem inner_eq_some_iff {depth : Nat} {c : Char} {cs : List Char} {pieces : List (List Char)} :
    (if c = '(' then cutTopLevel (depth + 1) cs
      else if c = ')' then (if depth = 0 then none else cutTopLevel (depth - 1) cs)
      else cutTopLevel depth cs) = some pieces ↔
      ∃ inner : Nat, (inner : Int) = depth + level [c] ∧ cutTopLevel inner cs = some pieces := by
  have hat {after : Nat} (hafter : (after : Int) = depth + level [c]) :
      cutTopLevel after cs = some pieces ↔
        ∃ inner : Nat, (inner : Int) = depth + level [c] ∧ cutTopLevel inner cs = some pieces := by
    constructor
    · exact fun h => ⟨after, hafter, h⟩
    · rintro ⟨inner, hinner, h⟩
      have hsame : inner = after := by omega
      rwa [← hsame]
  by_cases hopen : c = '('
  · rw [if_pos hopen]
    refine hat ?_
    rw [level_singleton, if_pos hopen, Int.natCast_add]
    rfl
  · rw [if_neg hopen]
    by_cases hclose : c = ')'
    · rw [if_pos hclose]
      by_cases hdepth : depth = 0
      · rw [if_pos hdepth]
        refine iff_of_false nofun ?_
        rintro ⟨inner, hinner, -⟩
        rw [level_singleton, if_neg hopen, if_pos hclose] at hinner
        omega
      · rw [if_neg hdepth]
        refine hat ?_
        rw [level_singleton, if_neg hopen, if_pos hclose]
        omega
    · rw [if_neg hclose]
      refine hat ?_
      rw [level_singleton, if_neg hopen, if_neg hclose, Int.add_zero]

/-- A character that is no cut belongs to the first piece. -/
theorem cutTopLevel_cons_eq_some_iff {depth : Nat} {c : Char} {cs : List Char}
    {pieces : List (List Char)} (hc : ¬(c = ',' ∧ depth = 0)) :
    cutTopLevel depth (c :: cs) = some pieces ↔
      ∃ inner : Nat, (inner : Int) = depth + level [c] ∧
        ∃ p ps, cutTopLevel inner cs = some (p :: ps) ∧ pieces = (c :: p) :: ps := by
  rw [cutTopLevel, if_neg hc]
  dsimp only
  rw [Option.map_eq_some_iff]
  constructor
  · rintro ⟨found, hfound, rfl⟩
    obtain ⟨inner, hinner, hcut⟩ := inner_eq_some_iff.1 hfound
    cases found with
    | nil => exact absurd hcut cutTopLevel_ne_nil
    | cons p ps => exact ⟨inner, hinner, p, ps, hcut, rfl⟩
  · rintro ⟨inner, hinner, p, ps, hcut, rfl⟩
    exact ⟨p :: ps, inner_eq_some_iff.2 ⟨inner, hinner, hcut⟩, rfl⟩

theorem isCut_nil {depth : Nat} {pieces : List (List Char)} :
    IsCut depth [] pieces ↔ depth = 0 ∧ pieces = [[]] := by
  constructor
  · rintro ⟨p, ps, rfl, hcs, hp, -⟩
    obtain ⟨rfl, hps⟩ := List.append_eq_nil_iff.1 hcs.symm
    cases ps with
    | nil => exact ⟨by exact_mod_cast isPiece_nil.1 hp, rfl⟩
    | cons q ps => cases hps
  · rintro ⟨rfl, rfl⟩
    exact ⟨[], [], rfl, rfl, isPiece_nil.2 rfl, fun q hq => absurd hq List.not_mem_nil⟩

/-- A comma outside parentheses ends an empty piece. -/
theorem isCut_comma {cs : List Char} {pieces : List (List Char)} :
    IsCut 0 (',' :: cs) pieces ↔ ∃ found, IsCut 0 cs found ∧ pieces = [] :: found := by
  constructor
  · rintro ⟨p, ps, rfl, hcs, hp, hps⟩
    cases p with
    | nil =>
      cases ps with
      | nil => cases hcs
      | cons q ps =>
        obtain ⟨hq, hps⟩ := List.forall_mem_cons.1 hps
        exact ⟨q :: ps, ⟨q, ps, rfl, (List.cons.inj hcs).2, hq, hps⟩, rfl⟩
    | cons d p =>
      obtain ⟨rfl, -⟩ := List.cons.inj hcs
      exact absurd ((isPiece_cons.1 hp).2.1 rfl) (Int.lt_irrefl 0)
  · rintro ⟨found, ⟨p, ps, rfl, rfl, hp, hps⟩, rfl⟩
    exact ⟨[], p :: ps, rfl, rfl, isPiece_nil.2 rfl, List.forall_mem_cons.2 ⟨hp, hps⟩⟩

/-- Any other character extends the first piece. -/
theorem isCut_cons {depth : Nat} {c : Char} {cs : List Char} {pieces : List (List Char)}
    (hc : ¬(c = ',' ∧ depth = 0)) :
    IsCut depth (c :: cs) pieces ↔
      ∃ inner : Nat, (inner : Int) = depth + level [c] ∧
        ∃ p ps, IsCut inner cs (p :: ps) ∧ pieces = (c :: p) :: ps := by
  constructor
  · rintro ⟨p, ps, rfl, hcs, hp, hps⟩
    cases p with
    | nil =>
      -- A text that begins with a cut begins with a comma at depth zero.
      have hdepth : depth = 0 := by exact_mod_cast isPiece_nil.1 hp
      cases ps with
      | nil => cases hcs
      | cons q ps => exact absurd ⟨(List.cons.inj hcs).1, hdepth⟩ hc
    | cons d p =>
      rw [List.cons_append] at hcs
      obtain ⟨rfl, hrest⟩ := List.cons.inj hcs
      obtain ⟨-, -, hpiece⟩ := isPiece_cons.1 hp
      obtain ⟨inner, hinner⟩ := Int.eq_ofNat_of_zero_le hpiece.1.nonneg
      rw [hinner] at hpiece
      exact ⟨inner, hinner.symm, p, ps, ⟨p, ps, rfl, hrest, hpiece, hps⟩, rfl⟩
  · rintro ⟨inner, hinner, p, ps, ⟨p', ps', hpieces, rfl, hp, hps⟩, rfl⟩
    obtain ⟨rfl, rfl⟩ := List.cons.inj hpieces
    refine ⟨c :: p, ps, rfl, rfl, isPiece_cons.2 ⟨by omega, ?_, hinner ▸ hp⟩, hps⟩
    intro hcomma
    have hdepth : depth ≠ 0 := fun h => hc ⟨hcomma, h⟩
    omega

/-- A text is cut into its pieces, and there is one way to cut it. -/
theorem cutTopLevel_eq_some_iff {depth : Nat} {cs : List Char} {pieces : List (List Char)} :
    cutTopLevel depth cs = some pieces ↔ IsCut depth cs pieces := by
  induction cs generalizing depth pieces with
  | nil =>
    rw [cutTopLevel, isCut_nil]
    by_cases hdepth : depth = 0
    · rw [if_pos hdepth, Option.some.injEq, and_iff_right hdepth, eq_comm]
    · rw [if_neg hdepth]
      exact iff_of_false nofun fun h => hdepth h.1
  | cons c cs ih =>
    by_cases hc : c = ',' ∧ depth = 0
    · obtain ⟨rfl, rfl⟩ := hc
      rw [cutTopLevel, if_pos ⟨rfl, rfl⟩, Option.map_eq_some_iff, isCut_comma]
      exact exists_congr fun found => and_congr ih eq_comm
    · rw [cutTopLevel_cons_eq_some_iff hc, isCut_cons hc]
      exact exists_congr fun inner => and_congr_right fun _ =>
        exists_congr fun p => exists_congr fun ps => and_congr_left fun _ => ih

/-- A text has pieces if and only if its parentheses close. -/
theorem exists_cutTopLevel_iff {depth : Nat} {cs : List Char} :
    (∃ pieces, cutTopLevel depth cs = some pieces) ↔ Closes depth cs := by
  induction cs generalizing depth with
  | nil =>
    rw [closes_nil, cutTopLevel]
    by_cases hdepth : depth = 0
    · rw [if_pos hdepth]
      exact iff_of_true ⟨_, rfl⟩ (by omega)
    · rw [if_neg hdepth]
      refine iff_of_false ?_ (by omega)
      rintro ⟨pieces, h⟩
      cases h
  | cons c cs ih =>
    rw [closes_cons]
    by_cases hc : c = ',' ∧ depth = 0
    · obtain ⟨rfl, rfl⟩ := hc
      have hlevel : ((0 : Nat) : Int) + level [','] = ((0 : Nat) : Int) := rfl
      rw [hlevel, ← ih, cutTopLevel, if_pos ⟨rfl, rfl⟩]
      constructor
      · rintro ⟨found, h⟩
        obtain ⟨pieces, hcut, -⟩ := Option.map_eq_some_iff.1 h
        exact ⟨Int.le_refl 0, pieces, hcut⟩
      · rintro ⟨-, pieces, hcut⟩
        exact ⟨[] :: pieces, by rw [hcut, Option.map_some]⟩
    · constructor
      · rintro ⟨pieces, h⟩
        obtain ⟨inner, hinner, p, ps, hcut, -⟩ := (cutTopLevel_cons_eq_some_iff hc).1 h
        exact ⟨by omega, hinner ▸ ih.1 ⟨p :: ps, hcut⟩⟩
      · rintro ⟨-, hcloses⟩
        obtain ⟨inner, hinner⟩ := Int.eq_ofNat_of_zero_le hcloses.nonneg
        rw [hinner] at hcloses
        obtain ⟨pieces, hcut⟩ := ih.2 hcloses
        cases pieces with
        | nil => exact absurd hcut cutTopLevel_ne_nil
        | cons p ps =>
          exact ⟨(c :: p) :: ps,
            (cutTopLevel_cons_eq_some_iff hc).2 ⟨inner, hinner.symm, p, ps, hcut, rfl⟩⟩

/-! ## The items -/

theorem splitTopLevel_eq_some_iff {args : List Char} {items : List (List Char)} :
    splitTopLevel args = some items ↔ Splits args items := by
  rw [splitTopLevel, Option.map_eq_some_iff]
  constructor
  · rintro ⟨pieces, hcut, rfl⟩
    obtain ⟨p, ps, rfl, hargs, hp, hps⟩ := cutTopLevel_eq_some_iff.1 hcut
    exact ⟨p, ps, hargs, List.forall_mem_cons.2 ⟨hp, hps⟩, rfl⟩
  · rintro ⟨p, ps, hargs, hpieces, rfl⟩
    obtain ⟨hp, hps⟩ := List.forall_mem_cons.1 hpieces
    exact ⟨p :: ps, cutTopLevel_eq_some_iff.2 ⟨p, ps, rfl, hargs, hp, hps⟩, rfl⟩

/-- A text is a list of items if and only if its parentheses balance. -/
theorem exists_splitTopLevel_iff {args : List Char} :
    (∃ items, splitTopLevel args = some items) ↔ Balanced args := by
  rw [Balanced, ← Int.ofNat_zero, ← exists_cutTopLevel_iff]
  constructor
  · rintro ⟨items, h⟩
    obtain ⟨pieces, hcut, -⟩ := Option.map_eq_some_iff.1 h
    exact ⟨pieces, hcut⟩
  · rintro ⟨pieces, hcut⟩
    exact ⟨_, Option.map_eq_some_iff.2 ⟨pieces, hcut, rfl⟩⟩

end Depot
