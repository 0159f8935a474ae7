import Depot.Pattern.Parser
import Depot.Proofs.Pattern.Matches
import Depot.Proofs.Pattern.Size
import Depot.Query.Compare
import Mathlib.Data.List.Forall2

/-!
# Texts with wildcards and the notation of patterns

A text with wildcards is tested by writing it as a pattern: `%` becomes `.*`, `_` becomes `.`, and a
character with a meaning of its own gets a backslash. In this notation a dot stands for all
characters other than a line break, so the wildcards stop at the ends of lines, which those of a
relational database do not.

* `Like.expression`: a text with wildcards in the notation of patterns.
* `Like.Takes`: what a wildcard or character takes in a relational database.
* `Like.TakesInLine`: the same within a line.
* `Like.Cuts`: whether a text can be cut into pieces that a text with wildcards takes.

Results:
* `parse?_expression`: what is written is read as `Like.pattern`, if that is small enough.
* `fits_of_length_le`: it is small enough for up to 7000 wildcards and characters.
* `isMatch_pattern_iff`, `admits_iff`: what the pattern matches, and what is admitted.
* `cuts_takesInLine_iff`: cutting within lines is cutting with as many line breaks.
* `isSound_like`: a condition is sound if it can be read as a pattern.
* `holds_like_iff`: a condition holds if the text can be cut and has no more line breaks than the
  condition.
* `not_holds_like_iff`: it does not hold of all texts that can be cut.
-/

namespace Depot

namespace Like

open Pattern (Scope Node isMeta pieces?)

/-! ## Notation -/

/-- A wildcard or character in the notation of patterns. -/
def written (p : Char) : List Char :=
  if p = '%' then ['.', '*'] else if p = '_' then ['.'] else if isMeta p then ['\\', p] else [p]

/-- A text with wildcards in the notation of patterns, from the start of a text to its end. -/
def expression (wild : List Char) : List Char := '^' :: wild.flatMap written ++ ['$']

/-- What is read of a wildcard or character. -/
def node (p : Char) : Node := ⟨piece p, if p = '%' then 1 else 0⟩

/-- The characters with which something starts that is longer, ends a sequence or repeats what is
    before it. -/
def openers : List Char := [')', '|', '(', '[', '\\', '?', '*', '+', '\x7b']

variable {s : Scope} {fuel : Nat} {pieces : List (Option Node)} {rest : List Char} {p : Char}

theorem mem_ofLine {c : Char} : ofLine.mem c = true ↔ c ≠ '\n' := by
  have hsingle : (CharSet.single '\n').mem c = (c == '\n') := by
    rw [CharSet.mem, CharSet.single, CharSet.range, CharSet.has_ofRanges, Bool.eq_iff_iff,
      beq_iff_eq, ← Char.toNat_inj]
    simp only [List.any_cons, List.any_nil, Bool.or_false, CharSet.inRange, Bool.and_eq_true,
      decide_eq_true_iff]
    omega
  rw [ofLine, CharSet.mem_compl, hsingle, Bool.not_eq_true', beq_eq_false_iff_ne]

theorem ranges_ofLine : ofLine.ranges = [(0, 9), (11, 0x10FFFF)] := by
  have hsingle : (CharSet.single '\n').ranges = [(10, 10)] := by
    simp [CharSet.single, CharSet.range, CharSet.ofRanges, CharSet.ordered, CharSet.joined,
      CharSet.join]
  show CharSet.gaps 0 (CharSet.single '\n').ranges = _
  rw [hsingle]
  rfl

theorem ofSet_ofLine : Pattern.ofSet ofLine = .oneOf ofLine := by
  rw [Pattern.ofSet, CharSet.onlyMember?, ranges_ofLine]

theorem sign?_dot : Pattern.sign? {} '.' = some (.oneOf ofLine) := by
  rw [← ofSet_ofLine]
  rfl

/-! ## Reading -/

theorem pieces?_sign (hs : s.flags = {}) {c : Char} (hc : c ∉ openers) :
    pieces? (fuel + 1) s pieces (c :: rest) =
      (Pattern.sign? {} c).bind fun p => pieces? fuel s (some ⟨p, 0⟩ :: pieces) rest := by
  simp only [openers, List.mem_cons, List.not_mem_nil, or_false, not_or] at hc
  rw [pieces?, Pattern.skipBlank_of_counts (by rw [hs]), hs]
  simp [Pattern.repetition?, hc]

theorem pieces?_star (hs : s.flags = {}) {n : Node} (hrest : rest.head? ≠ some '?') :
    pieces? (fuel + 1) s (some n :: pieces) ('*' :: rest) =
      pieces? fuel s (some ⟨n.pattern.repeated 0 none true, n.height + 1⟩ :: pieces) rest := by
  have hgreed : Pattern.greed {} rest = (true, rest) := by
    unfold Pattern.greed
    split
    · exact absurd rfl hrest
    · rfl
  obtain ⟨flags, names, groups⟩ := s
  obtain rfl : flags = {} := hs
  show pieces? fuel _ (some ⟨n.pattern.repeated 0 none (Pattern.greed {} rest).1, n.height + 1⟩ ::
    pieces) (Pattern.greed {} rest).2 = _
  rw [hgreed]

theorem pieces?_escape (hs : s.flags = {}) {c : Char} (hc : isMeta c = true) :
    pieces? (fuel + 1) s pieces ('\\' :: c :: rest) =
      pieces? fuel s (some ⟨.literal [c], 0⟩ :: pieces) rest := by
  obtain ⟨flags, names, groups⟩ := s
  obtain rfl : flags = {} := hs
  show (Pattern.escape? {} (c :: rest)).bind (fun read =>
    pieces? fuel _ (some ⟨Pattern.Escape.pattern {} read.1, 0⟩ :: pieces) read.2) = _
  rw [Pattern.escape?_meta _ hc]
  rfl

theorem pieces?_nil :
    pieces? (fuel + 1) s pieces [] = some (Pattern.joinPieces pieces, s, []) := rfl

theorem notMem_openers (h : isMeta p = false) : p ∉ openers := by
  intro hp
  have hall : openers.all isMeta = true := by decide
  rw [List.all_eq_true.1 hall p hp] at h
  cases h

theorem sign?_of_not_isMeta (h : isMeta p = false) :
    Pattern.sign? {} p = some (.literal [p]) := by
  unfold Pattern.sign?
  split
  · exact absurd h (by decide)
  · exact absurd h (by decide)
  · exact absurd h (by decide)
  · rfl

/-- The number of steps in which a wildcard or character is read. -/
def steps (p : Char) : Nat := if p = '%' then 2 else 1

/-- A wildcard or character is read as its pattern. A question mark behind it would ask for the
    shorter match. -/
theorem pieces?_written (hs : s.flags = {}) (hrest : rest.head? ≠ some '?') (p : Char) :
    pieces? (fuel + steps p) s pieces (written p ++ rest) =
      pieces? fuel s (some (node p) :: pieces) rest := by
  have hdot : '.' ∉ openers := by decide
  by_cases hany : p = '%'
  · subst hany
    show pieces? (fuel + 1 + 1) s pieces ('.' :: '*' :: rest) =
      pieces? fuel s (some ⟨.rep (.oneOf ofLine) 0 none true, 1⟩ :: pieces) rest
    rw [pieces?_sign hs hdot, sign?_dot, Option.bind_some, pieces?_star hs hrest]
    rfl
  · by_cases hone : p = '_'
    · subst hone
      show pieces? (fuel + 1) s pieces ('.' :: rest) =
        pieces? fuel s (some ⟨.oneOf ofLine, 0⟩ :: pieces) rest
      rw [pieces?_sign hs hdot, sign?_dot, Option.bind_some]
    · rw [steps, written, node, piece, if_neg hany, if_neg hany, if_neg hany, if_neg hany,
        if_neg hone, if_neg hone]
      cases hmeta : isMeta p with
      | true => exact pieces?_escape hs hmeta
      | false =>
        show pieces? (fuel + 1) s pieces (p :: rest) = _
        rw [pieces?_sign hs (notMem_openers hmeta), sign?_of_not_isMeta hmeta, Option.bind_some]

theorem head?_written_append (p : Char) (rest : List Char) :
    (written p ++ rest).head? ≠ some '?' := by
  have hmark : isMeta '?' = true := by decide
  unfold written
  split
  · simp
  · split
    · simp
    · split
      · simp
      · rename_i hmeta
        simp only [List.cons_append, List.head?_cons, ne_eq, Option.some.injEq]
        rintro rfl
        exact hmeta hmark

/-- All pieces are read, one after the other. -/
theorem pieces?_expression (hs : s.flags = {}) (wild : List Char)
    (hfuel : 2 * wild.length + 2 ≤ fuel) :
    pieces? fuel s pieces (wild.flatMap written ++ ['$']) =
      some (Pattern.joinPieces (some ⟨.anchor .textEnd, 0⟩ ::
        ((wild.map fun p => some (node p)).reverse ++ pieces)), s, []) := by
  induction wild generalizing fuel pieces with
  | nil =>
    obtain ⟨fuel, rfl⟩ : ∃ rest, fuel = rest + 1 + 1 := ⟨fuel - 2, by simp at hfuel; omega⟩
    have hend : '$' ∉ openers := by decide
    have hsign : Pattern.sign? {} '$' = some (.anchor .textEnd) := rfl
    rw [List.flatMap_nil, List.nil_append, pieces?_sign hs hend, hsign, Option.bind_some,
      pieces?_nil]
    rfl
  | cons p wild ih =>
    have hsteps : steps p ≤ 2 := by
      unfold steps
      split <;> omega
    rw [List.length_cons] at hfuel
    obtain ⟨fuel, rfl⟩ : ∃ rest, fuel = rest + steps p := ⟨fuel - steps p, by omega⟩
    have hrest : (wild.flatMap written ++ ['$']).head? ≠ some '?' := by
      cases wild with
      | nil => simp
      | cons q wild =>
        rw [List.flatMap_cons, List.append_assoc]
        exact head?_written_append q _
    rw [List.flatMap_cons, List.append_assoc, pieces?_written hs hrest, ih (by omega)]
    simp

theorem greatestHeight_le {nodes : List Node} {k : Nat} (h : ∀ n ∈ nodes, n.height ≤ k) :
    Pattern.greatestHeight nodes ≤ k := by
  have hfold : ∀ (nodes : List Node) (least : Nat), (∀ n ∈ nodes, n.height ≤ k) → least ≤ k →
      nodes.foldl (fun h n => max h n.height) least ≤ k := by
    intro nodes
    induction nodes with
    | nil => exact fun least _ hleast => hleast
    | cons n nodes ih =>
      intro least h hleast
      obtain ⟨hn, hnodes⟩ := List.forall_mem_cons.1 h
      exact ih _ hnodes (Nat.max_le.2 ⟨hleast, hn⟩)
  exact hfold nodes 0 h (Nat.zero_le k)

/-- The nodes of a text with wildcards. -/
def nodes (wild : List Char) : List Node :=
  ⟨.anchor .textStart, 0⟩ :: wild.map node ++ [⟨.anchor .textEnd, 0⟩]

theorem joinPieces_nodes (wild : List Char) :
    Pattern.joinPieces (some ⟨.anchor .textEnd, 0⟩ ::
      ((wild.map fun p => some (node p)).reverse ++ [some ⟨.anchor .textStart, 0⟩])) =
        ⟨pattern wild, Pattern.greatestHeight (nodes wild) + 1⟩ := by
  have hnodes : ((some ⟨.anchor .textEnd, 0⟩ :: ((wild.map fun p => some (node p)).reverse ++
      [some ⟨.anchor .textStart, 0⟩])).filterMap id).reverse = nodes wild := by
    simp [nodes, ← List.map_reverse, List.filterMap_map]
  have hpatterns : (nodes wild).map (·.pattern) =
      .anchor .textStart :: wild.map piece ++ [.anchor .textEnd] := by
    simp [nodes, node, Function.comp_def]
  rw [Pattern.joinPieces, hnodes, hpatterns, pattern, if_neg (by simp)]

theorem height_nodes (wild : List Char) : Pattern.greatestHeight (nodes wild) ≤ 1 := by
  apply greatestHeight_le
  intro n hn
  simp only [nodes, List.mem_append, List.mem_cons, List.mem_map, List.not_mem_nil, or_false] at hn
  rcases hn with (rfl | ⟨p, -, rfl⟩) | rfl
  · exact Nat.zero_le 1
  · unfold node
    split <;> simp
  · exact Nat.zero_le 1

theorem length_le_flatMap_written (wild : List Char) :
    wild.length ≤ (wild.flatMap written).length := by
  induction wild with
  | nil => exact Nat.le_refl 0
  | cons p wild ih =>
    have hwritten : 1 ≤ (written p).length := by
      unfold written
      split_ifs <;> simp
    simp only [List.flatMap_cons, List.length_append, List.length_cons]
    omega

/-- What is written is read back, if the automata of it are small enough. -/
theorem parse?_expression (wild : List Char) :
    Pattern.parse? (expression wild) = if fits wild then some (pattern wild) else none := by
  have hfuel : 2 * wild.length + 2 ≤ 3 * (expression wild).length + 1 := by
    have hwritten := length_le_flatMap_written wild
    simp only [expression, List.length_append, List.length_cons, List.length_nil]
    omega
  have hread : Pattern.pieces? (3 * (expression wild).length + 2) ⟨{}, [], 0⟩ []
      (expression wild) =
        some (⟨pattern wild, Pattern.greatestHeight (nodes wild) + 1⟩, ⟨{}, [], 0⟩, []) := by
    have hstart : '^' ∉ openers := by decide
    have hsign : Pattern.sign? {} '^' = some (.anchor .textStart) := rfl
    rw [← joinPieces_nodes, ← pieces?_expression rfl wild hfuel, expression, List.cons_append,
      pieces?_sign rfl hstart, hsign, Option.bind_some]
  have hbranches : Pattern.branches? (3 * (expression wild).length + 3) ⟨{}, [], 0⟩
      (expression wild) =
        some ([⟨pattern wild, Pattern.greatestHeight (nodes wild) + 1⟩], ⟨{}, [], 0⟩, []) := by
    rw [Pattern.branches?, hread]
    rfl
  have hheight : Pattern.greatestHeight (nodes wild) + 1 ≤ Pattern.maxHeight :=
    Nat.le_trans (Nat.succ_le_succ (height_nodes wild)) (by decide)
  rw [Pattern.parse?, hbranches, fits]
  cases hfits : (pattern wild).fits <;>
    simp [Pattern.joinBranches, Pattern.Node.isAccepted, hheight, hfits]

/-! ## Size -/

theorem weight_ofLine_le (backward : Bool) :
    (Pattern.sketch backward false (.oneOf ofLine)).weight ≤ 1288 := by
  have hascii : ofLine.isAscii = false := by
    rw [CharSet.isAscii, ranges_ofLine]
    rfl
  rw [Pattern.sketch, Pattern.sketchSet, hascii, ranges_ofLine]
  cases backward <;> decide

theorem isStraight_piece (backward : Bool) (p : Char) :
    (Pattern.sketch backward false (piece p)).IsStraight := by
  have hline : (Pattern.sketchSet backward ofLine).IsStraight := by
    unfold Pattern.sketchSet
    split_ifs <;> trivial
  unfold piece
  split_ifs
  · exact ⟨rfl, rfl, hline⟩
  · exact hline
  · trivial

theorem weight_piece_le (backward : Bool) (p : Char) :
    (Pattern.sketch backward false (piece p)).weight ≤ 1400 := by
  have hline := weight_ofLine_le backward
  unfold piece
  split_ifs
  · exact Nat.add_le_add_right hline 112
  · exact Nat.le_trans hline (by decide)
  · have hcode : (Pattern.codeOf backward [p]).length ≤ 4 := by
      have hlength : (Pattern.codeOf backward [p]).length = Text.codeLength p.toNat := by
        unfold Pattern.codeOf
        cases backward <;> simp [Text.length_bytes]
      rw [hlength, Text.codeLength]
      split_ifs <;> decide
    show 32 * (Pattern.codeOf backward [p]).length + 0 + 0 ≤ 1400
    omega

/-- A text with no more than 7000 wildcards and characters is small enough as a pattern. -/
theorem fits_of_length_le {wild : List Char} (h : wild.length ≤ 7000) : fits wild = true := by
  apply Pattern.fits_of_weight
  · intro backward
    apply Pattern.isStraight_concat
    intro q hq
    simp only [List.mem_append, List.mem_cons, List.mem_map, List.not_mem_nil, or_false] at hq
    rcases hq with (rfl | ⟨p, -, rfl⟩) | rfl
    · trivial
    · exact isStraight_piece backward p
    · trivial
  · intro backward
    have hpieces : Pattern.totalWeight backward (wild.map piece) ≤ 1400 * wild.length := by
      clear h
      induction wild with
      | nil => exact Nat.le_refl 0
      | cons p wild ih =>
        have hp := weight_piece_le backward p
        rw [List.map_cons, Pattern.totalWeight_cons, List.length_cons]
        omega
    have hweight := Pattern.weight_concat_le backward
      (.anchor .textStart :: wild.map piece ++ [.anchor .textEnd])
    have hanchor (a : Anchor) : (Pattern.sketch backward false (.anchor a)).weight = 32 := rfl
    rw [Pattern.totalWeight_append, Pattern.totalWeight_cons, Pattern.totalWeight_cons,
      Pattern.totalWeight_nil, hanchor, hanchor] at hweight
    have hmax : Pattern.maxSize = 10485760 := rfl
    rw [pattern]
    omega

/-! ## Pieces of a text -/

/-- Whether a wildcard or character takes a piece of a text in a relational database: `%` any
    piece, `_` one character, and another character itself. -/
def Takes (p : Char) (piece : List Char) : Prop :=
  if p = '%' then True else if p = '_' then piece.length = 1 else piece = [p]

/-- The same within a line: a wildcard takes no line break. -/
def TakesInLine (p : Char) (piece : List Char) : Prop :=
  Takes p piece ∧ piece.count '\n' = [p].count '\n'

/-- Whether a text can be cut into pieces that are taken one after the other. -/
def Cuts (takes : Char → List Char → Prop) (wild text : List Char) : Prop :=
  ∃ pieces, List.Forall₂ takes wild pieces ∧ pieces.flatten = text

variable {takes : Char → List Char → Prop} {wild text : List Char}

theorem cuts_nil : Cuts takes [] text ↔ text = [] := by
  simp [Cuts, eq_comm]

theorem cuts_cons {p : Char} : Cuts takes (p :: wild) text ↔
    ∃ piece rest, text = piece ++ rest ∧ takes p piece ∧ Cuts takes wild rest := by
  constructor
  · rintro ⟨pieces, hpieces, rfl⟩
    obtain ⟨piece, others, hpiece, hothers, rfl⟩ := List.forall₂_cons_left_iff.1 hpieces
    exact ⟨piece, others.flatten, List.flatten_cons, hpiece, others, hothers, rfl⟩
  · rintro ⟨piece, rest, rfl, hpiece, others, hothers, rfl⟩
    exact ⟨piece :: others, .cons hpiece hothers, List.flatten_cons⟩

theorem takes_any {piece : List Char} : Takes '%' piece := by
  rw [Takes, if_pos rfl]
  trivial

theorem count_le_of_takes {p : Char} {piece : List Char} (h : Takes p piece) :
    [p].count '\n' ≤ piece.count '\n' := by
  rw [Takes] at h
  split_ifs at h with hany hone
  · simp [hany]
  · simp [hone]
  · exact Nat.le_of_eq (by rw [h])

theorem count_cons_eq (p : Char) (wild : List Char) :
    (p :: wild).count '\n' = [p].count '\n' + wild.count '\n' := by
  rw [← List.count_append, List.singleton_append]

theorem count_le_of_cuts (h : Cuts Takes wild text) : wild.count '\n' ≤ text.count '\n' := by
  induction wild generalizing text with
  | nil => simp
  | cons p wild ih =>
    obtain ⟨piece, rest, rfl, hpiece, hrest⟩ := cuts_cons.1 h
    rw [count_cons_eq p wild, List.count_append]
    exact Nat.add_le_add (count_le_of_takes hpiece) (ih hrest)

/-- No wildcard takes a line break exactly if there are no more of them than the text with
    wildcards asks for. -/
theorem cuts_takesInLine_iff : Cuts TakesInLine wild text ↔
    Cuts Takes wild text ∧ text.count '\n' = wild.count '\n' := by
  induction wild generalizing text with
  | nil => simp +contextual [cuts_nil]
  | cons p wild ih =>
    simp only [cuts_cons, ih, TakesInLine]
    rw [count_cons_eq p wild]
    constructor
    · rintro ⟨piece, rest, rfl, ⟨hpiece, hcount⟩, hrest, hcount'⟩
      refine ⟨⟨piece, rest, rfl, hpiece, hrest⟩, ?_⟩
      rw [List.count_append, hcount, hcount']
    · rintro ⟨⟨piece, rest, rfl, hpiece, hrest⟩, hcount⟩
      have hle := count_le_of_takes hpiece
      have hle' := count_le_of_cuts hrest
      rw [List.count_append] at hcount
      exact ⟨piece, rest, rfl, ⟨hpiece, by omega⟩, hrest, by omega⟩

/-! ## Matching -/

theorem takesInLine_any {piece : List Char} : TakesInLine '%' piece ↔ '\n' ∉ piece := by
  rw [TakesInLine, ← List.count_eq_zero]
  exact and_iff_right takes_any

theorem takesInLine_one {piece : List Char} :
    TakesInLine '_' piece ↔ ∃ c, piece = [c] ∧ c ≠ '\n' := by
  have htakes : Takes '_' piece ↔ piece.length = 1 := by
    rw [Takes, if_neg (by decide), if_pos rfl]
  rw [TakesInLine, htakes, List.length_eq_one_iff]
  constructor
  · rintro ⟨⟨c, rfl⟩, hcount⟩
    refine ⟨c, rfl, ?_⟩
    rintro rfl
    cases hcount
  · rintro ⟨c, rfl, hc⟩
    refine ⟨⟨c, rfl⟩, ?_⟩
    simp [hc]

theorem takesInLine_self {p : Char} (hany : p ≠ '%') (hone : p ≠ '_') {piece : List Char} :
    TakesInLine p piece ↔ piece = [p] := by
  rw [TakesInLine, Takes, if_neg hany, if_neg hone, and_iff_left_iff_imp]
  rintro rfl
  rfl

open Pattern in
/-- The pattern of a wildcard or character matches what it takes within a line. -/
theorem matches_piece {before after : List Char} {j : Nat} (p : Char) :
    (piece p).Matches (before ++ after) before.length j ↔
      ∃ taken rest, after = taken ++ rest ∧ TakesInLine p taken ∧
        j = (before ++ taken).length := by
  unfold piece
  by_cases hany : p = '%'
  · subst hany
    simp only [if_true, matches_rep_oneOf, mem_ofLine, takesInLine_any, List.length_append,
      List.forall_mem_ne']
  · by_cases hone : p = '_'
    · subst hone
      simp only [if_neg hany, if_true, matches_oneOf, mem_ofLine, takesInLine_one]
      constructor
      · rintro ⟨c, rest, rfl, hc, rfl⟩
        exact ⟨[c], rest, rfl, ⟨c, rfl, hc⟩, by simp⟩
      · rintro ⟨taken, rest, rfl, ⟨c, rfl, hc⟩, rfl⟩
        exact ⟨c, rest, rfl, hc, by simp⟩
    · simp only [if_neg hany, if_neg hone, matches_character, takesInLine_self hany hone]
      constructor
      · rintro ⟨rest, rfl, rfl⟩
        exact ⟨[p], rest, rfl, rfl, by simp⟩
      · rintro ⟨taken, rest, rfl, rfl, rfl⟩
        exact ⟨rest, rfl, by simp⟩

open Pattern in
theorem matchesAll_pieces {before after : List Char} {j : Nat} :
    MatchesAll (before ++ after) (wild.map piece ++ [.anchor .textEnd]) before.length j ↔
      Cuts TakesInLine wild after ∧ j = (before ++ after).length := by
  induction wild generalizing before after with
  | nil =>
    rw [List.map_nil, List.nil_append, matchesAll_singleton, matches_textEnd, cuts_nil,
      List.length_append, ← List.length_eq_zero_iff]
    omega
  | cons p wild ih =>
    simp only [List.map_cons, List.cons_append, MatchesAll, matches_piece, cuts_cons]
    constructor
    · rintro ⟨k, ⟨taken, rest, rfl, htaken, rfl⟩, hall⟩
      rw [← List.append_assoc] at hall ⊢
      obtain ⟨hrest, hend⟩ := ih.1 hall
      exact ⟨⟨taken, rest, rfl, htaken, hrest⟩, hend⟩
    · rintro ⟨⟨taken, rest, rfl, htaken, hrest⟩, hend⟩
      refine ⟨(before ++ taken).length, ⟨taken, rest, rfl, htaken, rfl⟩, ?_⟩
      rw [← List.append_assoc] at hend ⊢
      exact ih.2 ⟨hrest, hend⟩

theorem isMatch_pattern_iff (wild : List Char) (text : String) :
    (pattern wild).isMatch text = true ↔ Cuts TakesInLine wild text.toList := by
  have hmatches : ∀ i j, (pattern wild).Matches text.toList i j ↔
      i = 0 ∧ Cuts TakesInLine wild text.toList ∧ j = text.toList.length := by
    intro i j
    rw [pattern, Pattern.matches_concat, List.cons_append, Pattern.MatchesAll]
    simp only [Pattern.matches_textStart]
    constructor
    · rintro ⟨k, ⟨rfl, rfl⟩, hall⟩
      exact ⟨rfl, (@matchesAll_pieces wild [] _ _).1 hall⟩
    · rintro ⟨rfl, hall⟩
      exact ⟨0, ⟨rfl, rfl⟩, (@matchesAll_pieces wild [] _ _).2 hall⟩
  rw [Pattern.isMatch_iff]
  simp only [hmatches]
  constructor
  · rintro ⟨i, j, -, -, hcuts, -⟩
    exact hcuts
  · intro hcuts
    exact ⟨0, text.toList.length, Nat.zero_le _, rfl, hcuts, rfl⟩

theorem anywhere_iff (f : List Char → Bool) : admits.anywhere f text = true ↔
    ∃ taken rest, text = taken ++ rest ∧ '\n' ∉ taken ∧ f rest = true := by
  induction text with
  | nil => simp [admits.anywhere, and_assoc]
  | cons c text ih =>
    rw [admits.anywhere, Bool.or_eq_true, Bool.and_eq_true, bne_iff_ne, ih]
    constructor
    · rintro (hf | ⟨hc, taken, rest, rfl, htaken, hf⟩)
      · exact ⟨[], c :: text, rfl, by simp, hf⟩
      · exact ⟨c :: taken, rest, rfl, by simp [Ne.symm hc, htaken], hf⟩
    · rintro ⟨taken, rest, heq, htaken, hf⟩
      cases taken with
      | nil =>
        rw [heq]
        exact .inl hf
      | cons d taken =>
        rw [List.cons_append, List.cons.injEq] at heq
        obtain ⟨rfl, rfl⟩ := heq
        rw [List.mem_cons, not_or] at htaken
        exact .inr ⟨Ne.symm htaken.1, taken, rest, rfl, htaken.2, hf⟩

/-- What is not `%` takes one character. -/
theorem takesInLine_iff_takes {p : Char} (hany : p ≠ '%') {piece : List Char} :
    TakesInLine p piece ↔ ∃ c, piece = [c] ∧ Like.takes p c = true := by
  by_cases hone : p = '_'
  · subst hone
    simp [takesInLine_one, Like.takes]
  · simp [takesInLine_self hany hone, Like.takes, hone]

theorem admits_iff : admits wild text = true ↔ Cuts TakesInLine wild text := by
  induction wild generalizing text with
  | nil => simp [admits, cuts_nil]
  | cons p wild ih =>
    rw [cuts_cons]
    by_cases hany : p = '%'
    · subst hany
      simp only [admits, if_true, anywhere_iff, takesInLine_any, ih]
    · cases text with
      | nil => simp [admits, hany, takesInLine_iff_takes hany]
      | cons c text =>
        simp only [admits, if_neg hany, Bool.and_eq_true, ih, takesInLine_iff_takes hany]
        constructor
        · rintro ⟨hc, hcuts⟩
          exact ⟨[c], text, rfl, ⟨c, rfl, hc⟩, hcuts⟩
        · rintro ⟨_, rest, heq, ⟨d, rfl, hd⟩, hcuts⟩
          rw [List.singleton_append, List.cons.injEq] at heq
          rw [heq.1, heq.2]
          exact ⟨hd, hcuts⟩

/-- The pattern of a text with wildcards matches what the test admits. -/
theorem isMatch_pattern (wild : List Char) (text : String) :
    (pattern wild).isMatch text = test wild text.toList := by
  rw [Bool.eq_iff_iff, isMatch_pattern_iff, test_eq_admits, admits_iff]

theorem test_iff (wild text : List Char) : test wild text = true ↔
    Cuts Takes wild text ∧ text.count '\n' = wild.count '\n' := by
  rw [test_eq_admits, admits_iff, cuts_takesInLine_iff]

end Like

/-- A condition can be tested if what it is written as is a pattern. -/
theorem isSound_like (p : String) :
    (Condition.like p).isSound = (Pattern.parse? (Like.expression p.toList)).isSome := by
  rw [Like.parse?_expression, Condition.isSound]
  cases Like.fits p.toList <;> rfl

theorem holds_like (p : String) {v : Json} (hv : v.isNull = false) :
    Condition.holds v (.like p) = Like.test p.toList v.plainText.toList := by
  rw [Condition.holds, hv]
  rfl

/-- A condition on a text is tested by the pattern that it is written as. It holds of a value
    exactly if the text of the value can be cut into what the wildcards and characters take, and has
    no more line breaks than the condition. -/
theorem holds_like_iff {p : String} {m : Pattern}
    (hm : Pattern.parse? (Like.expression p.toList) = some m) {v : Json} (hv : v.isNull = false) :
    Condition.holds v (.like p) = m.isMatch v.plainText ∧
      (Condition.holds v (.like p) = true ↔
        Like.Cuts Like.Takes p.toList v.plainText.toList ∧
          v.plainText.toList.count '\n' = p.toList.count '\n') := by
  have hpattern : m = Like.pattern p.toList := by
    rw [Like.parse?_expression] at hm
    split at hm
    · exact (Option.some.inj hm).symm
    · cases hm
  rw [holds_like p hv, hpattern, Like.isMatch_pattern]
  exact ⟨rfl, Like.test_iff _ _⟩

/-! ## Lines -/

namespace Lines

/-- The texts that start with `first`. -/
def first : String := "first%"

/-- How a text that starts so is cut. -/
def pieces (rest : List Char) : List (List Char) := [['f'], ['i'], ['r'], ['s'], ['t'], rest]

theorem parse?_first :
    Pattern.parse? (Like.expression first.toList) = some (Like.pattern first.toList) := by
  rw [Like.parse?_expression, Like.fits_of_length_le (by decide), if_pos rfl]

theorem cuts_first (rest : List Char) :
    Like.Cuts Like.Takes first.toList (pieces rest).flatten := by
  refine ⟨pieces rest, ?_, rfl⟩
  show List.Forall₂ Like.Takes ['f', 'i', 'r', 's', 't', '%'] (pieces rest)
  simp [pieces, Like.Takes]

end Lines

open Lines in
/-- A text is found if it goes on in the same line. -/
theorem holds_like_lines :
    Pattern.parse? (Like.expression first.toList) = some (Like.pattern first.toList) ∧
      Condition.holds (.str "first second") (.like first) = true := by
  refine ⟨parse?_first, (holds_like_iff parse?_first rfl).2.2 ⟨?_, by decide⟩⟩
  exact cuts_first " second".toList

/-- A text is not found if it goes on in the next line, though a database would find it. -/
theorem not_holds_like_iff :
    ¬∀ (p : String) (m : Pattern) (v : Json), '\\' ∉ p.toList →
      Pattern.parse? (Like.expression p.toList) = some m → v.isNull = false →
        (Condition.holds v (.like p) = true ↔
          Like.Cuts Like.Takes p.toList v.plainText.toList) := by
  intro h
  have hcuts : Like.Cuts Like.Takes Lines.first.toList "first\nsecond".toList :=
    Lines.cuts_first "\nsecond".toList
  have hholds := (h Lines.first (Like.pattern Lines.first.toList) (.str "first\nsecond")
    (by decide) Lines.parse?_first rfl).2 hcuts
  rw [holds_like _ rfl] at hholds
  exact absurd ((Like.test_iff _ _).1 hholds).2 (by decide)

end Depot
