import Depot.Pattern.Automaton

/-!
# Texts with wildcards

A condition on a text may be given as the text itself with wildcards in it: `%` stands for any
characters of one line and `_` for one character other than a line break. Every other character
stands for itself. A text with wildcards is a pattern too, and as such it can be too large.

* `Like.admits`: whether a text is one that a text with wildcards stands for.
* `Like.test`: the same, in steps as many as the lengths of the two texts multiplied.
* `Like.pattern`: a text with wildcards as a pattern, `Like.fits`: whether that is small enough.

Results:
* `row_eq_map`: a row tells of every suffix of a text whether it is admitted.
* `test_eq_admits`: both tests agree.
-/

namespace Depot.Like

/-! ## What a text with wildcards stands for -/

/-- Whether a wildcard or character other than `%` stands for a character. -/
def takes (p c : Char) : Bool := if p = '_' then c != '\n' else c == p

/-- Whether a text is one that a text with wildcards stands for. -/
def admits : (wild : List Char) → List Char → Bool
  | [], cs => cs.isEmpty
  | p :: ps, cs =>
    if p = '%' then anywhere (admits ps) cs
    else match cs with
      | [] => false
      | c :: rest => takes p c && admits ps rest
where
  /-- Whether the rest of a text satisfies `f` after some characters of its first line. -/
  anywhere (f : List Char → Bool) : List Char → Bool
    | [] => f []
    | c :: cs => f (c :: cs) || (c != '\n' && anywhere f cs)

/-! ## The test by rows

A row holds an answer for every suffix of the text, from the whole of it to the empty one. The row
of a text with wildcards is made from the row of its tail. -/

/-- The suffixes of a text, the longest one first. -/
def suffixes : List Char → List (List Char)
  | [] => [[]]
  | c :: cs => (c :: cs) :: suffixes cs

/-- The row of a wildcard or character before what has the row `r`. -/
def stepRow (p : Char) : (text : List Char) → (r : List Bool) → List Bool
  | c :: cs, b :: bs =>
    let next := stepRow p cs bs
    (if p = '%' then b || (c != '\n' && next.headD false) else takes p c && bs.headD false) :: next
  | _, bs => if p = '%' then bs.take 1 else [false]

/-- The row of a text with wildcards. -/
def row (text : List Char) : (wild : List Char) → List Bool
  | [] => text.map (fun _ => false) ++ [true]
  | p :: ps => stepRow p text (row text ps)

/-- Whether a text is one that a text with wildcards stands for: the first answer of its row. -/
def test (wild text : List Char) : Bool := (row text wild).headD false

theorem headD_map_suffixes (f : List Char → Bool) (cs : List Char) :
    ((suffixes cs).map f).headD false = f cs := by
  cases cs <;> rfl

theorem row_nil_eq_map (cs : List Char) : row cs [] = (suffixes cs).map (admits []) := by
  induction cs with
  | nil => rfl
  | cons c cs ih => simpa [row, suffixes, admits] using ih

theorem stepRow_map (p : Char) (ps cs : List Char) :
    stepRow p cs ((suffixes cs).map (admits ps)) = (suffixes cs).map (admits (p :: ps)) := by
  induction cs with
  | nil => by_cases h : p = '%' <;> simp [stepRow, suffixes, admits, admits.anywhere, h]
  | cons c cs ih =>
    simp only [suffixes, List.map_cons, stepRow, ih, headD_map_suffixes]
    by_cases h : p = '%' <;> simp [admits, admits.anywhere, h]

theorem row_eq_map (wild text : List Char) : row text wild = (suffixes text).map (admits wild) := by
  induction wild with
  | nil => exact row_nil_eq_map text
  | cons p ps ih => rw [row, ih, stepRow_map]

theorem test_eq_admits (wild text : List Char) : test wild text = admits wild text := by
  rw [test, row_eq_map, headD_map_suffixes]

/-! ## As a pattern -/

/-- The characters other than a line break. -/
def ofLine : CharSet := (CharSet.single '\n').compl

/-- The pattern of a wildcard or character. -/
def piece (p : Char) : Pattern :=
  if p = '%' then .rep (.oneOf ofLine) 0 none true
  else if p = '_' then .oneOf ofLine
  else .literal [p]

/-- The pattern of a text with wildcards: it matches from the start of a text to its end. -/
def pattern (wild : List Char) : Pattern :=
  .concat (.anchor .textStart :: wild.map piece ++ [.anchor .textEnd])

/-- Whether a text with wildcards is small enough as a pattern. -/
def fits (wild : List Char) : Bool := (pattern wild).fits

end Depot.Like
