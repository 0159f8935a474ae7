/-!
# Reading UTF-8

Bytes are read one after the other. A byte either completes a character, carries one further, or
shows that what was begun is no character; the longest such beginning is then one ill-formed
piece, and the byte is read again as the first of a character.

* `pieces`: the characters of a byte sequence, with `none` for each ill-formed piece.
* `decode?`: the text of a well-formed sequence.
* `decodeLossy`: the text with U+FFFD in place of each ill-formed piece.

Results:
* `decodeLossy_eq_of_decode?`: both readings of a well-formed sequence are the same.
-/

namespace Depot.Text.Utf8

/-- A character that was begun: the bits read so far, how many bytes are still owed, and the
    bounds of the next byte. -/
structure Begun where
  bits : Nat
  owed : Nat
  low : Nat
  high : Nat
  deriving DecidableEq, Repr

/-- What has been read between two bytes: the pieces that are complete, and the character that is
    begun. -/
abbrev Step := List (Option Char) × Option Begun

/-- The bounds of the bytes after the second. -/
def tail (bits owed : Nat) : Begun := ⟨bits, owed, 0x80, 0xBF⟩

/-- Reads the first byte of a character. The bounds of the second byte leave out codes that a
    shorter sequence could hold, surrogates, and codes beyond the last character. -/
def first (b : Nat) : Step :=
  if b < 0x80 then ([some (Char.ofNat b)], none)
  else if b < 0xC2 then ([none], none)
  else if b < 0xE0 then ([], some (tail (b - 0xC0) 1))
  else if b = 0xE0 then ([], some ⟨0, 2, 0xA0, 0xBF⟩)
  else if b = 0xED then ([], some ⟨0xD, 2, 0x80, 0x9F⟩)
  else if b < 0xF0 then ([], some (tail (b - 0xE0) 2))
  else if b = 0xF0 then ([], some ⟨0, 3, 0x90, 0xBF⟩)
  else if b < 0xF4 then ([], some (tail (b - 0xF0) 3))
  else if b = 0xF4 then ([], some ⟨4, 3, 0x80, 0x8F⟩)
  else ([none], none)

/-- Reads a byte. -/
def step : Option Begun → Nat → Step
  | none, b => first b
  | some p, b =>
    if p.low ≤ b ∧ b ≤ p.high then
      let bits := p.bits * 0x40 + (b - 0x80)
      if p.owed ≤ 1 then ([some (Char.ofNat bits)], none) else ([], some (tail bits (p.owed - 1)))
    else
      let (read, begun) := first b
      (none :: read, begun)

/-- Reads bytes after those of a character that was begun. -/
def piecesFrom : Option Begun → List UInt8 → List (Option Char)
  | none, [] => []
  | some _, [] => [none]
  | begun, b :: bs =>
    let (read, begun) := step begun b.toNat
    read ++ piecesFrom begun bs

/-- The characters of a byte sequence, with `none` for each ill-formed piece. -/
def pieces (bytes : List UInt8) : List (Option Char) := piecesFrom none bytes

/-- The characters of pieces of which none is ill-formed. -/
def allSome? : List (Option Char) → Option (List Char)
  | [] => some []
  | none :: _ => none
  | some c :: rest => (allSome? rest).map (c :: ·)

/-- The text of a well-formed sequence. -/
def decode? (bytes : List UInt8) : Option String := (allSome? (pieces bytes)).map String.ofList

/-- The character that stands for an ill-formed piece. -/
def replacement : Char := '\ufffd'

/-- The text of a sequence, with a replacement for each ill-formed piece. -/
def decodeLossy (bytes : List UInt8) : String :=
  String.ofList ((pieces bytes).map (·.getD replacement))

/-- The bytes of a text. -/
def encode (s : String) : List UInt8 := s.toUTF8.toList

theorem map_getD_of_allSome? {ps : List (Option Char)} {cs : List Char}
    (h : allSome? ps = some cs) (d : Char) : ps.map (·.getD d) = cs := by
  induction ps generalizing cs with
  | nil => simpa [allSome?] using h
  | cons p ps ih =>
    cases p with
    | none => simp [allSome?] at h
    | some c =>
      simp only [allSome?, Option.map_eq_some_iff] at h
      obtain ⟨cs', h', rfl⟩ := h
      simp [ih h']

theorem decodeLossy_eq_of_decode? {bytes : List UInt8} {s : String}
    (h : decode? bytes = some s) : decodeLossy bytes = s := by
  simp only [decode?, Option.map_eq_some_iff] at h
  obtain ⟨cs, h, rfl⟩ := h
  rw [decodeLossy, map_getD_of_allSome? h]

end Depot.Text.Utf8
