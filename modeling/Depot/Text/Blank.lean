/-!
# White space, trimming and splitting

Texts are handled as lists of characters; `String` is their packed form.

* `isBlank`: the characters with the Unicode property `White_Space`.
* `trim`: a text without the blanks at its two ends.
* `splitOn`: the pieces of a text between occurrences of a character.
* `afterWord`: what follows a word at the start of a text, letter case ignored.

Results:
* `splitOn_ne_nil`: a text has at least one piece.
* `sep_notMem_of_mem_splitOn`: no piece contains the separator.
-/

namespace Depot.Text

/-- The characters with the Unicode property `White_Space`. -/
def isBlank (c : Char) : Bool :=
  let n := c.toNat
  (0x09 ≤ n && n ≤ 0x0D) || n == 0x20 || n == 0x85 || n == 0xA0 || n == 0x1680 ||
    (0x2000 ≤ n && n ≤ 0x200A) || n == 0x2028 || n == 0x2029 || n == 0x202F || n == 0x205F ||
    n == 0x3000

/-- The blanks among the ASCII characters that separate tokens of a byte stream: the vertical tab
    is not one of them. -/
def isAsciiBlank (b : UInt8) : Bool :=
  b == 0x20 || b == 0x09 || b == 0x0A || b == 0x0C || b == 0x0D

/-- A list without the leading elements that satisfy `p`, and without the trailing ones. -/
def dropEnds {α : Type} (p : α → Bool) (l : List α) : List α :=
  ((l.dropWhile p).reverse.dropWhile p).reverse

/-- A text without the blanks at its two ends. -/
def trim (cs : List Char) : List Char := dropEnds isBlank cs

/-- A packed text without the blanks at its two ends. -/
def trimmed (s : String) : String := String.ofList (trim s.toList)

/-- The pieces of a list between occurrences of `sep`, in order. -/
def splitOn (sep : Char) : List Char → List (List Char)
  | [] => [[]]
  | c :: cs =>
    if c = sep then [] :: splitOn sep cs
    else match splitOn sep cs with
      | [] => [[c]]
      | piece :: pieces => (c :: piece) :: pieces

/-- The text before the first `sep` and the text after it, if there is one. -/
def cutAt (sep : Char) : List Char → Option (List Char × List Char)
  | [] => none
  | c :: cs =>
    if c = sep then some ([], cs) else (cutAt sep cs).map fun (a, b) => (c :: a, b)

/-- What follows `word` at the start of a text. -/
def after? : (word : List Char) → List Char → Option (List Char)
  | [], cs => some cs
  | _ :: _, [] => none
  | w :: ws, c :: cs => if c = w then after? ws cs else none

/-- A text without its last character, if that is `last`. -/
def before? (last : Char) (cs : List Char) : Option (List Char) :=
  match cs.reverse with
  | c :: rest => if c = last then some rest.reverse else none
  | [] => none

/-- Whether `c` is the small letter `l` in some case. Beside the two ASCII forms, the long s is a
    form of `s` and the Kelvin sign a form of `k`. -/
def isFormOf (l c : Char) : Bool :=
  c == l || (0x41 ≤ c.toNat && c.toNat ≤ 0x5A && c.toNat + 32 == l.toNat) ||
    (l == 's' && c.toNat == 0x17F) || (l == 'k' && c.toNat == 0x212A)

/-- What follows a word written in small letters at the start of a text, letter case ignored. -/
def afterWord : (word : List Char) → List Char → Option (List Char)
  | [], cs => some cs
  | _ :: _, [] => none
  | w :: ws, c :: cs => if isFormOf w c then afterWord ws cs else none

theorem splitOn_ne_nil (sep : Char) (cs : List Char) : splitOn sep cs ≠ [] := by
  cases cs with
  | nil => simp [splitOn]
  | cons c cs =>
    rw [splitOn]
    split
    · simp
    · split <;> simp

theorem sep_notMem_of_mem_splitOn {sep : Char} {cs piece : List Char}
    (h : piece ∈ splitOn sep cs) : sep ∉ piece := by
  induction cs generalizing piece with
  | nil => simp_all [splitOn]
  | cons c cs ih =>
    rw [splitOn] at h
    split at h
    · rcases List.mem_cons.1 h with rfl | h
      · simp
      · exact ih h
    · rename_i hc
      split at h
      · rw [List.mem_singleton] at h
        subst h
        simpa [eq_comm] using hc
      · rename_i p ps hp
        rcases List.mem_cons.1 h with rfl | h
        · have := ih (hp ▸ List.mem_cons_self)
          simp_all [eq_comm]
        · exact ih (hp ▸ List.mem_cons_of_mem _ h)

end Depot.Text
