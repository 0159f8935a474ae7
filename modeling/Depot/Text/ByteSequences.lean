/-!
# Byte sequences of ranges of characters

The UTF-8 codes of the characters of a range are described by sequences of ranges of bytes: a code
belongs to a sequence if each of its bytes lies in the range at its place.

* `bytes`: the code of a character.
* `byteSequences`: the sequences of a range of code points, in their order. Codes of one length
  whose first bytes differ share a sequence only if the bytes after these take all values.

Results:
* `length_bytes`: the length of a code.
-/

namespace Depot.Text

/-- The number of bytes of the code of a code point. -/
def codeLength (n : Nat) : Nat :=
  if n < 0x80 then 1 else if n < 0x800 then 2 else if n < 0x10000 then 3 else 4

/-- The bytes after the first, `count` of them. -/
def continuation (n : Nat) : (count : Nat) → List Nat
  | 0 => []
  | k + 1 => continuation (n / 0x40) k ++ [0x80 + n % 0x40]

/-- The code of a code point. -/
def bytes (n : Nat) : List Nat :=
  if n < 0x80 then [n]
  else if n < 0x800 then (0xC0 + n / 0x40) :: continuation n 1
  else if n < 0x10000 then (0xE0 + n / 0x1000) :: continuation n 2
  else (0xF0 + n / 0x40000) :: continuation n 3

theorem length_continuation (n k : Nat) : (continuation n k).length = k := by
  induction k generalizing n with
  | zero => rfl
  | succ k ih => simp [continuation, ih]

theorem length_bytes (n : Nat) : (bytes n).length = codeLength n := by
  unfold bytes codeLength
  split
  · rfl
  · split
    · rfl
    · split <;> simp [length_continuation]

/-- What some ranges have in common with a range, range by range. -/
def cutBy (bounds : List (Nat × Nat)) (r : Nat × Nat) : List (Nat × Nat) :=
  (bounds.map fun b => (max r.1 b.1, min r.2 b.2)).filter fun r => r.1 ≤ r.2

/-- The code points whose codes have one, two, three and four bytes. -/
def lengthClasses : List (Nat × Nat) :=
  [(0, 0x7F), (0x80, 0x7FF), (0x800, 0xD7FF), (0xE000, 0xFFFF), (0x10000, 0x10FFFF)]

/-- Cuts a range that goes across blocks of `size` where the first whole block starts and where
    the last one ends. -/
def cutBlocks (size : Nat) (r : Nat × Nat) : List (Nat × Nat) :=
  if r.1 / size = r.2 / size then [r]
  else
    let start := if r.1 % size = 0 then r.1 else (r.1 / size + 1) * size
    let head := if r.1 < start then [(r.1, start - 1)] else []
    if start / size = r.2 / size ∨ r.2 % size = size - 1 then head ++ [(start, r.2)]
    else head ++ [(start, r.2 / size * size - 1), (r.2 / size * size, r.2)]

/-- Cuts a range of codes of one length into ranges that one sequence describes. -/
def cutCodes (r : Nat × Nat) : List (Nat × Nat) :=
  if r.2 < 0x80 then [r]
  else ((cutBlocks 0x40 r).flatMap (cutBlocks 0x1000)).flatMap (cutBlocks 0x40000)

/-- The sequences of a range of code points. -/
def byteSequences (r : Nat × Nat) : List (List (Nat × Nat)) :=
  ((cutBy lengthClasses r).flatMap cutCodes).map fun r => (bytes r.1).zip (bytes r.2)

end Depot.Text
