import Depot.CharSet

/-!
# Editions of the character tables

The tables of properties of characters grow by editions. Patterns go by the sixteenth edition; all
else that looks at characters goes by the seventeenth. A table is kept for the seventeenth one, and
the sixteenth is what is left of it without the characters that the seventeenth added.

* `Edition.known`: what an edition knows of a set.

Results:
* `known_seventeenth`: the later edition knows all of it.
-/

namespace Depot.Unicode

/-- An edition of the tables. -/
inductive Edition
  | sixteenth
  | seventeenth
  deriving DecidableEq, Repr

/-- The characters that the seventeenth edition added. -/
def added : CharSet := .read
  "88F C5C CDC 1ACF-1ADD 1AE0-1AEB 20C1 2B96 A7CE-A7CF A7D2 A7D4 A7F1 FBC3-FBD2 FD90-FD91
   FDC8-FDCE 10940-10959 10EC5-10EC7 10ED0-10ED8 10EFA-10EFB 11B60-11B67 11DB0-11DDB 11DE0-11DE9
   16EA0-16EB8 16EBB-16ED3 16FF2-16FF6 187F8-187FF 18D09-18D1E 18D80-18DF2 1CCFA-1CCFC
   1CEBA-1CED0 1CEE0-1CEF0 1E6C0-1E6DE 1E6E0-1E6F5 1E6FE-1E6FF 1F6D8 1F777-1F77A 1F8D0-1F8D8
   1FA54-1FA57 1FA8A 1FA8E 1FAC8 1FACD 1FAEA 1FAEF 1FBFA 2B73A-2B73F 2CEA2-2CEAD 323B0-33479"

/-- What an edition knows of a set. -/
def Edition.known (e : Edition) (s : CharSet) : CharSet :=
  match e with
  | .sixteenth => s.diff added
  | .seventeenth => s

theorem known_seventeenth (s : CharSet) : Edition.seventeenth.known s = s := rfl

theorem mem_known_sixteenth (s : CharSet) (c : Char) :
    (Edition.sixteenth.known s).mem c = (s.mem c && !added.mem c) := CharSet.mem_diff _ _ _

end Depot.Unicode
