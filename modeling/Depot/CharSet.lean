import Depot.Text.Blank

/-!
# Sets of characters

A set of characters is given by ranges of code points in increasing order, any two of them with a
gap between. So equal sets have equal ranges, and the number of ranges is that of the set.

* `CharSet.mem`: membership.
* `CharSet.ofRanges`: the set of ranges in any order, `CharSet.read`: the set that a text lists.
* `CharSet.compl`, `CharSet.union`, `CharSet.inter`, `CharSet.diff`, `CharSet.symm`.

Results:
* `has_ofRanges`: a code point is in a set if it is in one of the ranges that made it.
* `mem_compl`, `mem_union`, `mem_inter`, `mem_diff`, `mem_symm`: membership in combined sets.
-/

namespace Depot

namespace CharSet

/-- Ranges that start at `least` or later and increase, with a gap between any two. -/
def Apart : (least : Nat) → List (Nat × Nat) → Prop
  | _, [] => True
  | least, (a, b) :: rest => least ≤ a ∧ a ≤ b ∧ Apart (b + 2) rest

theorem Apart.mono {k least : Nat} {ranges : List (Nat × Nat)} (h : Apart least ranges)
    (hk : k ≤ least) : Apart k ranges := by
  cases ranges with
  | nil => trivial
  | cons r rest => exact ⟨Nat.le_trans hk h.1, h.2⟩

/-- Whether a number lies in a range, both ends included. -/
def inRange (n : Nat) (r : Nat × Nat) : Bool := r.1 ≤ n && n ≤ r.2

/-- Whether a number lies in one of some increasing ranges. -/
def covers (n : Nat) : List (Nat × Nat) → Bool
  | [] => false
  | (a, b) :: rest => a ≤ n && (n ≤ b || covers n rest)

end CharSet

/-- A set of characters: the ranges of its code points. -/
structure CharSet where
  ranges : List (Nat × Nat)
  apart : CharSet.Apart 0 ranges
  deriving DecidableEq

namespace CharSet

/-- Whether a code point is in a set. -/
def has (s : CharSet) (n : Nat) : Bool := covers n s.ranges

/-- Membership. -/
def mem (s : CharSet) (c : Char) : Bool := s.has c.toNat

/-- The set without members. -/
def empty : CharSet := ⟨[], trivial⟩

theorem lt_of_covers {n least : Nat} {ranges : List (Nat × Nat)} (h : Apart least ranges)
    (hn : covers n ranges = true) : least ≤ n := by
  cases ranges with
  | nil => simp [covers] at hn
  | cons r rest =>
    simp only [covers, Bool.and_eq_true, decide_eq_true_eq] at hn
    exact Nat.le_trans h.1 hn.1

/-! ## Ranges in any order -/

/-- The range from `a` to `b` and further ones that start no earlier, put together where they
    overlap or touch. -/
def join (a b : Nat) : List (Nat × Nat) → List (Nat × Nat)
  | [] => [(a, b)]
  | (c, d) :: rest => if c ≤ b + 1 then join a (max b d) rest else (a, b) :: join c d rest

/-- Puts together ranges that are ordered by their first members. -/
def joined : List (Nat × Nat) → List (Nat × Nat)
  | [] => []
  | (a, b) :: rest => join a b rest

theorem apart_join {k a b : Nat} {rest : List (Nat × Nat)} (hk : k ≤ a) (hab : a ≤ b)
    (hrest : ∀ r ∈ rest, r.1 ≤ r.2) : Apart k (join a b rest) := by
  induction rest generalizing k a b with
  | nil => exact ⟨hk, hab, trivial⟩
  | cons r rest ih =>
    obtain ⟨c, d⟩ := r
    have hcd : c ≤ d := hrest (c, d) List.mem_cons_self
    have hrest : ∀ r ∈ rest, r.1 ≤ r.2 := fun r hr => hrest r (List.mem_cons_of_mem _ hr)
    rw [join]
    split
    · exact ih hk (by omega) hrest
    · exact ⟨hk, hab, ih (by omega) hcd hrest⟩

theorem apart_joined {l : List (Nat × Nat)} (h : ∀ r ∈ l, r.1 ≤ r.2) : Apart 0 (joined l) := by
  cases l with
  | nil => trivial
  | cons r rest =>
    exact apart_join (Nat.zero_le _) (h r List.mem_cons_self)
      fun r hr => h r (List.mem_cons_of_mem _ hr)

theorem covers_join {n a b : Nat} {rest : List (Nat × Nat)} (hab : a ≤ b)
    (hfirst : ∀ r ∈ rest, a ≤ r.1) (hsorted : rest.Pairwise fun r s => r.1 ≤ s.1)
    (hrest : ∀ r ∈ rest, r.1 ≤ r.2) :
    covers n (join a b rest) = (inRange n (a, b) || rest.any (inRange n)) := by
  induction rest generalizing a b with
  | nil => simp [join, covers, inRange]
  | cons r rest ih =>
    obtain ⟨c, d⟩ := r
    obtain ⟨hc, hsorted⟩ := List.pairwise_cons.1 hsorted
    have hac : a ≤ c := hfirst (c, d) List.mem_cons_self
    have hcd : c ≤ d := hrest (c, d) List.mem_cons_self
    have hrest : ∀ r ∈ rest, r.1 ≤ r.2 := fun r hr => hrest r (List.mem_cons_of_mem _ hr)
    have hlater : rest.any (inRange n) = true → c ≤ n := by
      intro h
      obtain ⟨r, hr, hn⟩ := List.any_eq_true.1 h
      have := hc r hr
      grind [inRange]
    rw [join, List.any_cons]
    split
    · rw [ih (by omega) (fun r hr => Nat.le_trans hac (hc r hr)) hsorted hrest]
      grind [inRange]
    · rw [covers, ih hcd hc hsorted hrest]
      grind [inRange]

theorem covers_joined {n : Nat} {l : List (Nat × Nat)}
    (hsorted : l.Pairwise fun r s => r.1 ≤ s.1) (h : ∀ r ∈ l, r.1 ≤ r.2) :
    covers n (joined l) = l.any (inRange n) := by
  cases l with
  | nil => rfl
  | cons r rest =>
    obtain ⟨hfirst, hsorted⟩ := List.pairwise_cons.1 hsorted
    exact covers_join (h r List.mem_cons_self) hfirst hsorted
      fun r hr => h r (List.mem_cons_of_mem _ hr)

/-- Ranges in the order of their starts, without those whose end comes before their start. -/
def ordered (l : List (Nat × Nat)) : List (Nat × Nat) :=
  (l.filter fun r => r.1 ≤ r.2).mergeSort fun r s => r.1 ≤ s.1

theorem mem_ordered {l : List (Nat × Nat)} {r : Nat × Nat} :
    r ∈ ordered l ↔ r ∈ l ∧ r.1 ≤ r.2 := by
  simp [ordered]

theorem pairwise_ordered (l : List (Nat × Nat)) :
    (ordered l).Pairwise fun r s => r.1 ≤ s.1 := by
  have h := @List.pairwise_mergeSort _ (fun r s : Nat × Nat => decide (r.1 ≤ s.1))
    (by simp only [decide_eq_true_eq]; omega)
    (by simp only [Bool.or_eq_true, decide_eq_true_eq]; omega)
    (l.filter fun r => r.1 ≤ r.2)
  simpa only [ordered, decide_eq_true_eq] using h

/-- The set of some ranges; a range whose end comes before its start is empty. -/
def ofRanges (l : List (Nat × Nat)) : CharSet :=
  ⟨joined (ordered l), apart_joined fun _ hr => (mem_ordered.1 hr).2⟩

theorem has_ofRanges (l : List (Nat × Nat)) (n : Nat) :
    (ofRanges l).has n = l.any (inRange n) := by
  rw [has, ofRanges, covers_joined (pairwise_ordered l) fun _ hr => (mem_ordered.1 hr).2,
    Bool.eq_iff_iff, List.any_eq_true, List.any_eq_true]
  grind [mem_ordered, inRange]

theorem covers_eq_any {n least : Nat} {l : List (Nat × Nat)} (h : Apart least l) :
    covers n l = l.any (inRange n) := by
  induction l generalizing least with
  | nil => rfl
  | cons r rest ih =>
    have hlt : covers n rest = true → r.2 + 2 ≤ n := lt_of_covers h.2.2
    have := h.2.1
    rw [covers, List.any_cons, ← ih h.2.2]
    grind [inRange]

/-- The characters from one code point to another. -/
def range (first last : Nat) : CharSet := ofRanges [(first, last)]

/-- The set of one character. -/
def single (c : Char) : CharSet := range c.toNat c.toNat

/-- The set of some characters. -/
def ofList (cs : List Char) : CharSet := ofRanges (cs.map fun c => (c.toNat, c.toNat))

/-! ## Listed ranges -/

/-- The number of hexadecimal digits. -/
def codePoint (digits : List Char) : Nat :=
  digits.foldl (fun n d => n * 16 + (if d.isDigit then d.toNat - 0x30 else d.toNat - 0x37)) 0

/-- Every second code point, `count` of them, from `n` on. -/
def everySecond (n count : Nat) : List (Nat × Nat) :=
  (List.range count).map fun i => (n + 2 * i, n + 2 * i)

/-- The ranges of a word: `A`, `A-B`, or `A~B` for every second code point from `A` to `B`. -/
def wordRanges (word : List Char) : List (Nat × Nat) :=
  match Text.cutAt '-' word, Text.cutAt '~' word with
  | some (a, b), _ => [(codePoint a, codePoint b)]
  | none, some (a, b) => everySecond (codePoint a) ((codePoint b - codePoint a) / 2 + 1)
  | none, none => [(codePoint word, codePoint word)]

/-- The set that a text lists in words between blanks and line ends, in hexadecimal digits. -/
def read (s : String) : CharSet :=
  let words := (Text.splitOn '\n' s.toList).flatMap (Text.splitOn ' ')
  ofRanges ((words.filter (!·.isEmpty)).flatMap wordRanges)

theorem has_read_ofList (cs : List Char) (n : Nat) :
    (read (String.ofList cs)).has n =
      ((((Text.splitOn '\n' cs).flatMap (Text.splitOn ' ')).filter (!·.isEmpty)).flatMap
        wordRanges).any (inRange n) := by
  rw [read, String.toList_ofList, has_ofRanges]

/-! ## Combinations -/

/-- The greatest code point. -/
def greatest : Nat := 0x10FFFF

/-- Every character. -/
def all : CharSet := range 0 greatest

/-- The members of either set. -/
def union (a b : CharSet) : CharSet := ofRanges (a.ranges ++ b.ranges)

/-- The members of some sets. -/
def unions (sets : List CharSet) : CharSet := ofRanges (sets.flatMap (·.ranges))

/-- The ranges between some ranges, from `n` on. -/
def gaps (n : Nat) : List (Nat × Nat) → List (Nat × Nat)
  | [] => if n ≤ greatest then [(n, greatest)] else []
  | (a, b) :: rest => if n < a then (n, a - 1) :: gaps (b + 1) rest else gaps (b + 1) rest

theorem apart_gaps {k n : Nat} {l : List (Nat × Nat)} (hk : k ≤ n) (h : Apart n l) :
    Apart k (gaps n l) := by
  induction l generalizing k n with
  | nil =>
    rw [gaps]
    split
    · exact ⟨hk, ‹_›, trivial⟩
    · trivial
  | cons r rest ih =>
    obtain ⟨a, b⟩ := r
    obtain ⟨hna, hab, h⟩ := h
    have h := h.mono (Nat.le_succ (b + 1))
    rw [gaps]
    split
    · exact ⟨hk, by omega, ih (by omega) h⟩
    · exact ih (by omega) h

theorem covers_gaps {m n : Nat} {l : List (Nat × Nat)} (h : Apart n l) (hm : m ≤ greatest) :
    covers m (gaps n l) = (n ≤ m && !covers m l) := by
  induction l generalizing n with
  | nil => grind [gaps, covers]
  | cons r rest ih =>
    obtain ⟨a, b⟩ := r
    obtain ⟨hna, hab, h⟩ := h
    have ih := ih (h.mono (Nat.le_succ (b + 1)))
    have hlt : covers m rest = true → b + 2 ≤ m := lt_of_covers h
    rw [gaps]
    split <;> simp only [covers, ih] <;> grind

/-- The characters that are not members. -/
def compl (a : CharSet) : CharSet := ⟨gaps 0 a.ranges, apart_gaps (Nat.le_refl 0) a.apart⟩

/-- The members of both sets. -/
def inter (a b : CharSet) : CharSet := (a.compl.union b.compl).compl

/-- The members of the first set that are not in the second. -/
def diff (a b : CharSet) : CharSet := a.inter b.compl

/-- The members of exactly one of the sets. -/
def symm (a b : CharSet) : CharSet := (a.diff b).union (b.diff a)

theorem toNat_le_greatest (c : Char) : c.toNat ≤ greatest := by
  have := c.valid
  simp only [UInt32.isValidChar, Nat.isValidChar] at this
  show c.val.toNat ≤ 0x10FFFF
  omega

theorem mem_compl (a : CharSet) (c : Char) : a.compl.mem c = !a.mem c := by
  rw [mem, has, compl, covers_gaps a.apart (toNat_le_greatest c)]
  rfl

theorem mem_union (a b : CharSet) (c : Char) : (a.union b).mem c = (a.mem c || b.mem c) := by
  rw [mem, union, has_ofRanges, List.any_append, ← covers_eq_any a.apart, ← covers_eq_any b.apart]
  rfl

theorem mem_inter (a b : CharSet) (c : Char) : (a.inter b).mem c = (a.mem c && b.mem c) := by
  simp [inter, mem_compl, mem_union]

theorem mem_diff (a b : CharSet) (c : Char) : (a.diff b).mem c = (a.mem c && !b.mem c) := by
  rw [diff, mem_inter, mem_compl]

theorem mem_symm (a b : CharSet) (c : Char) : (a.symm b).mem c = (a.mem c != b.mem c) := by
  rw [symm, mem_union, mem_diff, mem_diff]
  cases a.mem c <;> cases b.mem c <;> rfl

end CharSet

end Depot
