import Depot.Pattern.Class

/-!
# Places in a text

A text of `n` characters has `n + 1` places between them. A set of places is a number: its bit `i`
says whether place `i` is a member, so the union of two sets is `|||` and what they have in common
is `&&&`.

* `Place.satisfies`: whether a condition holds at a place.
* `PlaceSet.select`, `PlaceSet.minus`, `PlaceSet.shift`: sets of places.
* `Layout`: the places of a text and where its characters stand.

Results:
* `length_placesFrom`, `after_getElem_placesFrom`: the places of a text and what comes after each.
* `testBit_select`, `testBit_minus`, `testBit_shift`: the members of a set.
* `testBit_letter`, `testBit_letters`: where a layout has a character or one of a set.
-/

namespace Depot

/-- A condition on a place between two characters. A word may be taken in ASCII only. -/
inductive Anchor
  | textStart
  | textEnd
  | lineStart (crlf : Bool)
  | lineEnd (crlf : Bool)
  | wordBoundary (ascii : Bool)
  | notWordBoundary (ascii : Bool)
  | wordStart (ascii : Bool)
  | wordEnd (ascii : Bool)
  | wordStartHalf (ascii : Bool)
  | wordEndHalf (ascii : Bool)
  deriving DecidableEq, Repr

/-- A place in a text: the characters before and after it. -/
structure Place where
  before : Option Char
  after : Option Char
  deriving DecidableEq

namespace Place

/-- Whether a character counts as part of a word. -/
def inWord (ascii : Bool) : Option Char → Bool
  | none => false
  | some c => if ascii then Text.isAsciiWord c else Text.isWord c

/-- Whether a condition holds at a place. -/
def satisfies (p : Place) : Anchor → Bool
  | .textStart => p.before.isNone
  | .textEnd => p.after.isNone
  | .lineStart crlf =>
    match p.before with
    | none => true
    | some c => c == '\n' || (crlf && c == '\r' && p.after != some '\n')
  | .lineEnd crlf =>
    match p.after with
    | none => true
    | some c => if crlf then c == '\r' || (c == '\n' && p.before != some '\r') else c == '\n'
  | .wordBoundary ascii => inWord ascii p.before != inWord ascii p.after
  | .notWordBoundary ascii => inWord ascii p.before == inWord ascii p.after
  | .wordStart ascii => !inWord ascii p.before && inWord ascii p.after
  | .wordEnd ascii => inWord ascii p.before && !inWord ascii p.after
  | .wordStartHalf ascii => !inWord ascii p.before
  | .wordEndHalf ascii => !inWord ascii p.after

end Place

/-- The places of a text, given the character before it. -/
def placesFrom (before : Option Char) : List Char → List Place
  | [] => [⟨before, none⟩]
  | c :: cs => ⟨before, some c⟩ :: placesFrom (some c) cs

theorem length_placesFrom (before : Option Char) (cs : List Char) :
    (placesFrom before cs).length = cs.length + 1 := by
  induction cs generalizing before with
  | nil => rfl
  | cons c cs ih => simp [placesFrom, ih]

theorem after_getElem_placesFrom (before : Option Char) (cs : List Char) (i : Nat) :
    ((placesFrom before cs)[i]?).bind Place.after = cs[i]? := by
  induction cs generalizing before i with
  | nil => cases i <;> simp [placesFrom]
  | cons c cs ih =>
    cases i with
    | zero => rfl
    | succ i => simpa [placesFrom] using ih (some c) i

/-! ## Sets of places -/

/-- A set of places of a text: bit `i` says whether place `i` is a member. -/
abbrev PlaceSet := Nat

namespace PlaceSet

/-- The places that satisfy a predicate. -/
def select (f : Place → Bool) : List Place → PlaceSet
  | [] => 0
  | p :: ps => 2 * select f ps + (f p).toNat

/-- The members of a set that are not in another. -/
def minus (a b : PlaceSet) : PlaceSet := (a ||| b) ^^^ b

/-- The places one further on. -/
def shift (a : PlaceSet) : PlaceSet := a <<< 1

theorem two_mul_add_div_two (n : Nat) (b : Bool) : (2 * n + b.toNat) / 2 = n := by
  cases b <;> simp only [Bool.toNat_false, Bool.toNat_true] <;> omega

theorem testBit_select (f : Place → Bool) (ps : List Place) (i : Nat) :
    (select f ps).testBit i = (ps[i]?).any f := by
  induction ps generalizing i with
  | nil => simp [select]
  | cons p ps ih =>
    cases i with
    | zero => cases h : f p <;> simp [select, Nat.testBit_zero, h]
    | succ i =>
      simp only [select, Nat.testBit_succ, two_mul_add_div_two, ih]
      simp

theorem testBit_minus (a b : PlaceSet) (i : Nat) :
    (a.minus b).testBit i = (a.testBit i && !b.testBit i) := by
  simp only [minus, Nat.testBit_xor, Nat.testBit_or]
  cases a.testBit i <;> cases b.testBit i <;> rfl

theorem testBit_shift (a : PlaceSet) (i : Nat) : a.shift.testBit (i + 1) = a.testBit i := by
  simp [shift, Nat.testBit_shiftLeft]

end PlaceSet

/-! ## Layouts -/

/-- The places of a text, and for each of its characters those that it comes after. -/
structure Layout where
  places : List Place
  standing : List (Char × PlaceSet)

namespace Layout

/-- The places that a character comes after. -/
def standingAt (places : List Place) (c : Char) : PlaceSet :=
  .select (·.after == some c) places

/-- The layout of a text. -/
def ofText (cs : List Char) : Layout :=
  let places := placesFrom none cs
  ⟨places, cs.eraseDups.map fun c => (c, standingAt places c)⟩

/-- All places. -/
def everywhere (l : Layout) : PlaceSet := .select (fun _ => true) l.places

/-- The places where a condition holds. -/
def holding (l : Layout) (a : Anchor) : PlaceSet := .select (·.satisfies a) l.places

/-- The places that a character comes after. -/
def letter (l : Layout) (c : Char) : PlaceSet := (l.standing.lookup c).getD 0

/-- The places that a character of a set comes after. -/
def letters (l : Layout) (s : CharSet) : PlaceSet :=
  l.standing.foldr (fun e set => if s.mem e.1 then e.2 ||| set else set) 0

theorem testBit_standingAt (cs : List Char) (c : Char) (i : Nat) :
    (standingAt (placesFrom none cs) c).testBit i = (cs[i]? == some c) := by
  rw [standingAt, PlaceSet.testBit_select, ← after_getElem_placesFrom none cs i]
  cases (placesFrom none cs)[i]? <;> rfl

theorem lookup_map_self (f : Char → PlaceSet) (cs : List Char) (c : Char) :
    ((cs.map fun c => (c, f c)).lookup c) = if c ∈ cs then some (f c) else none := by
  induction cs with
  | nil => rfl
  | cons d cs ih =>
    by_cases h : c = d
    · simp [h]
    · have hd : (c == d) = false := by simp [h]
      simp [List.lookup_cons, ih, h, hd]

theorem testBit_letter (cs : List Char) (c : Char) (i : Nat) :
    ((ofText cs).letter c).testBit i = (cs[i]? == some c) := by
  by_cases h : c ∈ cs
  · simp [letter, ofText, lookup_map_self, List.mem_eraseDups, h, testBit_standingAt]
  · have hc : cs[i]? ≠ some c := fun hi => h (List.mem_of_getElem? hi)
    simp [letter, ofText, lookup_map_self, List.mem_eraseDups, h, hc]

theorem testBit_foldr (s : CharSet) (i : Nat) (es : List (Char × PlaceSet)) :
    (es.foldr (fun e set => if s.mem e.1 then e.2 ||| set else set) 0 : PlaceSet).testBit i =
      es.any fun e => s.mem e.1 && e.2.testBit i := by
  induction es with
  | nil => simp
  | cons e es ih => cases h : s.mem e.1 <;> simp [h, ih]

theorem testBit_letters (cs : List Char) (s : CharSet) (i : Nat) :
    ((ofText cs).letters s).testBit i = (cs[i]?).any s.mem := by
  rw [letters, testBit_foldr, Bool.eq_iff_iff]
  simp only [ofText, List.any_map, List.any_eq_true, List.mem_eraseDups, Function.comp,
    testBit_standingAt, Bool.and_eq_true, beq_iff_eq]
  constructor
  · rintro ⟨c, -, hs, hi⟩
    simp [hi, hs]
  · intro h
    cases hi : cs[i]? with
    | none => simp [hi] at h
    | some c => exact ⟨c, List.mem_of_getElem? hi, by simpa [hi] using h, rfl⟩

end Layout

end Depot
