import Depot.Json.Numeral
import Depot.Json.Printer

/-!
# JSON texts

A `Document` is a JSON text as it is written: its objects keep their entries in order and with
repeated keys, and numbers and strings that cannot be represented are kept as such. Reading a
value from it takes the last of several entries with one key, and refuses numbers beyond all
doubles, strings with half of a surrogate pair, and nesting deeper than 127.

* `Document.parse?`: the document of a text.
* `Document.value?`: the value of a document.
* `Json.parse?`: the value of a text.
-/

namespace Depot

namespace Json

/-- A JSON text: a number or a string that cannot be represented is `none`. -/
inductive Document
  | null
  | bool (b : Bool)
  | num (n : Option Number)
  | str (s : Option String)
  | arr (items : List Document)
  | obj (entries : List (Option String × Document))

namespace Document

/-! ## Strings -/

/-- A piece of a string: a character, or a 16-bit unit written by its code. -/
inductive Piece
  | char (c : Char)
  | unit (n : Nat)

/-- The character that a letter stands for after a backslash. -/
def escaped? (c : Char) : Option Char :=
  match c.toNat with
  | 0x22 => some '"'
  | 0x5C => some '\\'
  | 0x2F => some '/'
  | 0x62 => some (Char.ofNat 0x08)
  | 0x66 => some (Char.ofNat 0x0C)
  | 0x6E => some '\n'
  | 0x72 => some '\r'
  | 0x74 => some '\t'
  | _ => none

/-- The pieces of a string up to its closing quote, and what follows it. -/
def scanString? : List Char → Option (List Piece × List Char)
  | [] => none
  | '"' :: cs => some ([], cs)
  | '\\' :: 'u' :: a :: b :: c :: d :: cs => do
    let n := (((← Text.hexValue? a) * 16 + (← Text.hexValue? b)) * 16 + (← Text.hexValue? c)) * 16 +
      (← Text.hexValue? d)
    let (pieces, rest) ← scanString? cs
    some (.unit n :: pieces, rest)
  | '\\' :: c :: cs => do
    let e ← escaped? c
    let (pieces, rest) ← scanString? cs
    some (.char e :: pieces, rest)
  | c :: cs => do
    if c.toNat < 0x20 ∨ c = '\\' then none
    else
      let (pieces, rest) ← scanString? cs
      some (.char c :: pieces, rest)

/-- Whether a unit is the first half of a pair. -/
def isHigh (n : Nat) : Bool := 0xD800 ≤ n && n ≤ 0xDBFF

/-- Whether a unit is the second half of a pair. -/
def isLow (n : Nat) : Bool := 0xDC00 ≤ n && n ≤ 0xDFFF

/-- The characters of a string's pieces, if its surrogates come in pairs. -/
def joinPieces : List Piece → Option (List Char)
  | [] => some []
  | .char c :: rest => (joinPieces rest).map (c :: ·)
  | .unit h :: .unit l :: rest =>
    if isHigh h then
      if isLow l then
        (joinPieces rest).map (Char.ofNat (0x10000 + (h - 0xD800) * 0x400 + (l - 0xDC00)) :: ·)
      else none
    else if isLow h then none
    else (joinPieces (.unit l :: rest)).map (Char.ofNat h :: ·)
  | .unit n :: rest =>
    if isHigh n || isLow n then none else (joinPieces rest).map (Char.ofNat n :: ·)

/-- Takes a string, without its opening quote, off the front of a text. -/
def string? (cs : List Char) : Option (Option String × List Char) := do
  let (pieces, rest) ← scanString? cs
  some ((joinPieces pieces).map String.ofList, rest)

/-! ## Structure -/

/-- The blanks between tokens. -/
def isGap (c : Char) : Bool := c == ' ' || c == '\n' || c == '\t' || c == '\r'

/-- A text without the blanks at its start. -/
def skip (cs : List Char) : List Char := cs.dropWhile isGap

mutual

/-- Takes a document off the front of a text. -/
def read? : (fuel : Nat) → List Char → Option (Document × List Char)
  | 0, _ => none
  | fuel + 1, cs =>
    match skip cs with
    | '"' :: cs => (string? cs).map fun (s, rest) => (.str s, rest)
    | '[' :: cs =>
      match skip cs with
      | ']' :: rest => some (.arr [], rest)
      | cs => (readItems? fuel cs).map fun (items, rest) => (.arr items, rest)
    | '\x7b' :: cs =>
      match skip cs with
      | '\x7d' :: rest => some (.obj [], rest)
      | cs => (readEntries? fuel cs).map fun (entries, rest) => (.obj entries, rest)
    | 'n' :: 'u' :: 'l' :: 'l' :: rest => some (.null, rest)
    | 't' :: 'r' :: 'u' :: 'e' :: rest => some (.bool true, rest)
    | 'f' :: 'a' :: 'l' :: 's' :: 'e' :: rest => some (.bool false, rest)
    | cs => (Numeral.scan? cs).map fun (n, rest) => (.num n.value?, rest)

/-- Takes the items of an array and its closing bracket off the front of a text. -/
def readItems? : (fuel : Nat) → List Char → Option (List Document × List Char)
  | 0, _ => none
  | fuel + 1, cs => do
    let (item, rest) ← read? fuel cs
    match skip rest with
    | ',' :: rest =>
      let (items, rest) ← readItems? fuel rest
      some (item :: items, rest)
    | ']' :: rest => some ([item], rest)
    | _ => none

/-- Takes the entries of an object and its closing brace off the front of a text. -/
def readEntries? : (fuel : Nat) → List Char →
    Option (List (Option String × Document) × List Char)
  | 0, _ => none
  | fuel + 1, cs =>
    match skip cs with
    | '"' :: cs => do
      let (key, rest) ← string? cs
      match skip rest with
      | ':' :: rest =>
        let (value, rest) ← read? fuel rest
        match skip rest with
        | ',' :: rest =>
          let (entries, rest) ← readEntries? fuel rest
          some ((key, value) :: entries, rest)
        | '\x7d' :: rest => some ([(key, value)], rest)
        | _ => none
      | _ => none
    | _ => none

end

/-- The document of a text. Each step of reading a container consumes a character, so the length
    of the text bounds the steps. -/
def parse? (cs : List Char) : Option Document := do
  let (d, rest) ← read? (2 * cs.length + 2) cs
  if (skip rest).isEmpty then some d else none

/-! ## Values -/

/-- The greatest number of arrays and objects around a value. -/
def maxDepth : Nat := 127

mutual

/-- The value of a document that may nest `depth` arrays and objects. -/
def valueWithin? : (depth : Nat) → Document → Option Json
  | _, .null => some .null
  | _, .bool b => some (.bool b)
  | _, .num n => n.map .num
  | _, .str s => s.map .str
  | 0, .arr _ => none
  | depth + 1, .arr items => (itemsWithin? depth items).map .arr
  | 0, .obj _ => none
  | depth + 1, .obj entries => (fieldsWithin? depth entries).map fun fs => .obj (Fields.ofList fs)

/-- The values of documents that may each nest `depth` arrays and objects. -/
def itemsWithin? : (depth : Nat) → List Document → Option (List Json)
  | _, [] => some []
  | depth, d :: ds => do
    let v ← valueWithin? depth d
    let vs ← itemsWithin? depth ds
    some (v :: vs)

/-- The fields of an object whose values may each nest `depth` arrays and objects. -/
def fieldsWithin? : (depth : Nat) → List (Option String × Document) →
    Option (List (String × Json))
  | _, [] => some []
  | depth, (k, d) :: ds => do
    let key ← k
    let v ← valueWithin? depth d
    let vs ← fieldsWithin? depth ds
    some ((key, v) :: vs)

end

/-- The value of a document. -/
def value? (d : Document) : Option Json := d.valueWithin? maxDepth

end Document

/-- The value of a text. -/
def parse? (s : String) : Option Json := (Document.parse? s.toList).bind Document.value?

end Json

end Depot
