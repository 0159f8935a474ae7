import Depot.Json.Document
import Depot.Text.Blank
import Depot.Text.Utf8

/-!
# Request targets

The target of a message is a path and a query. Both may hold escapes: a percent sign and two
hexadecimal digits stand for a byte, and a percent sign that is not followed by two digits stands
for itself. The bytes of a path parameter must be UTF-8; in a query other bytes are replaced.

* `Target.parse`: the path and the query of a target.
* `unescape`: the bytes that an escaped text stands for.
* `queryPairs`: the names and values of a query.

Results:
* `unescape_of_notMem`: a text without percent signs stands for its own bytes.
-/

namespace Depot.Http

/-- A path and a query. -/
structure Target where
  path : String
  query : String
  deriving DecidableEq, Repr

/-- The characters before the first occurrence of `sep`, or all of them. -/
def upTo (sep : Char) (cs : List Char) : List Char := cs.takeWhile (· != sep)

/-- The characters after the first occurrence of `sep`. -/
def beyond (sep : Char) (cs : List Char) : List Char := (cs.dropWhile (· != sep)).drop 1

/-- A target without the scheme and the host that may stand before its path. -/
def withoutHost (cs : List Char) : List Char :=
  match Text.after? [':', '/', '/'] (cs.dropWhile Char.isAlpha) with
  | some rest => rest.dropWhile fun c => c != '/' && c != '?'
  | none => cs

/-- The path and the query of a target; what follows a number sign is no part of it, and an empty
    path is the root. -/
def Target.parse (s : String) : Target :=
  let cs := withoutHost (upTo '#' s.toList)
  let path := upTo '?' cs
  ⟨if path.isEmpty then "/" else String.ofList path, String.ofList (beyond '?' cs)⟩

/-! ## Escapes -/

/-- The code of a percent sign. -/
def percent : UInt8 := 0x25

/-- The value of a byte that is a hexadecimal digit. -/
def hexByte? (b : UInt8) : Option Nat := Text.hexValue? (Char.ofNat b.toNat)

/-- The byte of two hexadecimal digits. -/
def digitPair? (high low : UInt8) : Option UInt8 := do
  let h ← hexByte? high
  let l ← hexByte? low
  some (UInt8.ofNat (h * 16 + l))

/-- The bytes that escaped bytes stand for. -/
def unescape : List UInt8 → List UInt8
  | b :: c :: d :: rest =>
    if b = percent then
      match digitPair? c d with
      | some byte => byte :: unescape rest
      | none => b :: unescape (c :: d :: rest)
    else b :: unescape (c :: d :: rest)
  | bytes => bytes

theorem unescape_of_notMem (bytes : List UInt8) (h : percent ∉ bytes) :
    unescape bytes = bytes := by
  induction bytes with
  | nil => rfl
  | cons b bytes ih =>
    have hb : b ≠ percent := fun e => h (e ▸ List.mem_cons_self)
    have ih := ih fun hm => h (List.mem_cons_of_mem _ hm)
    match bytes with
    | [] | [_] => rfl
    | _ :: _ :: _ => rw [unescape, if_neg hb, ih]

/-- The text of a path parameter, if its bytes are UTF-8. -/
def paramText? (s : List Char) : Option String :=
  Text.Utf8.decode? (unescape (Text.Utf8.encode (String.ofList s)))

/-- The text of a name or value in a query. -/
def queryText (s : List Char) : String :=
  let spaced := s.map fun c => if c = '+' then ' ' else c
  Text.Utf8.decodeLossy (unescape (Text.Utf8.encode (String.ofList spaced)))

/-- The name and the value of a piece of a query. -/
def queryPair (piece : List Char) : String × String :=
  (queryText (upTo '=' piece), queryText (beyond '=' piece))

/-- The names and values of a query. -/
def queryPairs (query : String) : List (String × String) :=
  ((Text.splitOn '&' query.toList).filter (!·.isEmpty)).map queryPair

end Depot.Http
