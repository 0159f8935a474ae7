import Depot.Unicode.Letter

/-!
# Visible characters

* `isVisible`: whether a character shows by itself in a message. Control and format characters,
  unassigned ones, blanks other than the space, marks that join the character before them, and
  fillers do not; they are shown by their code.

Results:
* `isVisible_ascii`: below `U+0080` the visible characters are the space to the tilde.
-/

namespace Depot.Text

open Unicode

/-- The letters of Hangul that fill an empty place. -/
def fillers : CharSet := .read "115F-1160 3164 FFA0"

/-- The characters that do not show by themselves, and the space. -/
def hidden : CharSet :=
  .unions [Category.sets .seventeenth [.control, .format, .privateUse, .unassigned,
    .lineSeparator, .paragraphSeparator, .spaceSeparator], graphemeExtend .seventeenth, fillers]

/-- Whether a character shows by itself in a message. -/
def isVisible (c : Char) : Bool :=
  if c.toNat < 0x80 then 0x20 ≤ c.toNat && c.toNat ≤ 0x7E else !hidden.mem c

theorem isVisible_ascii {c : Char} (h : c.toNat < 0x80) :
    isVisible c = (0x20 ≤ c.toNat && c.toNat ≤ 0x7E) := by
  simp [isVisible, h]

end Depot.Text
