import Depot.Text.Integer

/-!
# Socket addresses

An address of version 4 or 6 and a port. A version 6 address is eight groups of 16 bits, of which
one run of zero groups may be left out in the text, and a zone may follow it.

* `SocketAddress.parse?`: the address of a text.
* `SocketAddress.text`: its canonical text.
-/

namespace Depot

/-- The address and port of a listener. -/
inductive SocketAddress
  | v4 (octets : List Nat) (port : Nat)
  | v6 (groups : List Nat) (zone : Nat) (port : Nat)
  deriving DecidableEq, Repr

namespace SocketAddress

/-! ## Reading -/

/-- The value of a digit in a radix of at most sixteen. -/
def digit? (radix : Nat) (c : Char) : Option Nat :=
  let n := c.toNat
  let v :=
    if 0x30 ≤ n ∧ n ≤ 0x39 then some (n - 0x30)
    else if 0x41 ≤ n ∧ n ≤ 0x46 then some (n - 0x37)
    else if 0x61 ≤ n ∧ n ≤ 0x66 then some (n - 0x57)
    else none
  v.filter (· < radix)

/-- The values of the digits at the start of a text. -/
def digits (radix : Nat) : List Char → List Nat × List Char
  | [] => ([], [])
  | c :: cs =>
    match digit? radix c with
    | some d =>
      let (ds, rest) := digits radix cs
      (d :: ds, rest)
    | none => ([], c :: cs)

/-- Reads a number up to `limit` with at most `width` digits, if there is such a bound; more
    digits make the number unreadable. -/
def number? (radix limit : Nat) (width : Option Nat) (leadingZero : Bool) (cs : List Char) :
    Option (Nat × List Char) :=
  let (ds, rest) := digits radix cs
  let n := ds.foldl (fun n d => n * radix + d) 0
  if ds.isEmpty || limit < n || (match width with | some w => decide (w < ds.length) | none => false) ||
      (!leadingZero && ds.head? == some 0 && 1 < ds.length) then none
  else some (n, rest)

/-- Reads a given character. -/
def char? (c : Char) : List Char → Option (List Char)
  | d :: cs => if d = c then some cs else none
  | [] => none

/-- Reads an octet in decimal. -/
def octet? (cs : List Char) : Option (Nat × List Char) := number? 10 255 (some 3) false cs

/-- Reads four octets between points. -/
def octets? (cs : List Char) : Option (List Nat × List Char) := do
  let (a, cs) ← octet? cs
  let (b, cs) ← octet? (← char? '.' cs)
  let (c, cs) ← octet? (← char? '.' cs)
  let (d, cs) ← octet? (← char? '.' cs)
  some ([a, b, c, d], cs)

/-- Reads the colon before every group but the first. -/
def separator? (first : Bool) (cs : List Char) : Option (List Char) :=
  if first then some cs else char? ':' cs

/-- Two groups as four octets. -/
def pairOctets : List Nat → List Nat
  | [a, b, c, d] => [a * 256 + b, c * 256 + d]
  | _ => []

/-- Reads at most `limit` groups, of which the last two may be written as four octets; tells
    whether they were. -/
def groups (first : Bool) : (limit : Nat) → List Char → List Nat × Bool × List Char
  | 0, cs => ([], false, cs)
  | limit + 1, cs =>
    let start := separator? first cs
    let quad := if limit = 0 then none else start.bind octets?
    match quad with
    | some (os, rest) => (pairOctets os, true, rest)
    | none =>
      match start.bind (number? 16 0xFFFF (some 4) true) with
      | some (g, rest) =>
        let (gs, quad, rest) := groups false limit rest
        (g :: gs, quad, rest)
      | none => ([], false, cs)

/-- Reads a version 6 address. -/
def v6Groups? (cs : List Char) : Option (List Nat × List Char) :=
  let (front, quad, rest) := groups true 8 cs
  if front.length = 8 then some (front, rest)
  else if quad then none
  else do
    let rest ← char? ':' (← char? ':' rest)
    let (back, _, rest) := groups true (7 - front.length) rest
    some (front ++ List.replicate (8 - front.length - back.length) 0 ++ back, rest)

/-- Reads a colon and a port. -/
def port? (cs : List Char) : Option (Nat × List Char) := do
  number? 10 0xFFFF none true (← char? ':' cs)

/-- Reads the zone of an address, if there is one. -/
def zone? : List Char → Option (Nat × List Char)
  | '%' :: cs => number? 10 0xFFFFFFFF none true cs
  | cs => some (0, cs)

/-- Reads a version 4 address and its port. -/
def readV4? (cs : List Char) : Option (SocketAddress × List Char) := do
  let (os, cs) ← octets? cs
  let (port, cs) ← port? cs
  some (.v4 os port, cs)

/-- Reads a version 6 address in brackets and its port. -/
def readV6? (cs : List Char) : Option (SocketAddress × List Char) := do
  let (gs, cs) ← v6Groups? (← char? '[' cs)
  let (zone, cs) ← zone? cs
  let (port, cs) ← port? (← char? ']' cs)
  some (.v6 gs zone port, cs)

/-- The address of a text. -/
def parse? (s : String) : Option SocketAddress :=
  match (readV4? s.toList).orElse fun _ => readV6? s.toList with
  | some (a, []) => some a
  | _ => none

/-! ## Writing -/

/-- The length of the run of zeros at the start of a list. -/
def zeroRun (gs : List Nat) : Nat := (gs.takeWhile (· == 0)).length

/-- The position and length of the longest run of zeros from a position on, the first one of
    equally long ones. -/
def longestRun (position : Nat) : List Nat → Nat × Nat
  | [] => (position, 0)
  | g :: gs =>
    let here := zeroRun (g :: gs)
    let later := longestRun (position + 1) gs
    if later.2 ≤ here then (position, here) else later

/-- The characters of groups between colons. -/
def groupChars (gs : List Nat) : List Char :=
  List.intercalate [':'] (gs.map (Nat.toDigits 16))

/-- The characters of a version 4 address. -/
def octetChars (os : List Nat) : List Char := List.intercalate ['.'] (os.map Text.natDigits)

/-- The characters of a version 6 address. The longest run of at least two zero groups is left
    out, and a version 4 address mapped into version 6 is written with its octets. -/
def v6Chars (gs : List Nat) : List Char :=
  match gs with
  | [0, 0, 0, 0, 0, 0xFFFF, a, b] =>
    "::ffff:".toList ++ octetChars [a / 256, a % 256, b / 256, b % 256]
  | _ =>
    let (position, length) := longestRun 0 gs
    if 1 < length then
      groupChars (gs.take position) ++ [':', ':'] ++ groupChars (gs.drop (position + length))
    else groupChars gs

/-- The text of an address. -/
def text : SocketAddress → String
  | .v4 os port => String.ofList (octetChars os ++ ':' :: Text.natDigits port)
  | .v6 gs zone port =>
    let scope := if zone = 0 then [] else '%' :: Text.natDigits zone
    String.ofList ('[' :: v6Chars gs ++ scope ++ ']' :: ':' :: Text.natDigits port)

end SocketAddress

end Depot
