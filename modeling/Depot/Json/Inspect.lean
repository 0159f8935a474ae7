import Depot.Json.Printer
import Depot.Text.Visible

/-!
# Values in messages

A message shows a value with its kind: `Number(1)`, `String("a")`, `Array [Null]`. Strings are
quoted; characters that do not show by themselves are written by their code in braces.

* `Json.inspect`: a value as it is shown in a message.
-/

namespace Depot

namespace Json

/-- A character as it is shown inside a quoted string of a message. -/
def inspectChar (c : Char) : List Char :=
  match c.toNat with
  | 0x22 => ['\\', '"']
  | 0x5C => ['\\', '\\']
  | 0x0A => ['\\', 'n']
  | 0x0D => ['\\', 'r']
  | 0x09 => ['\\', 't']
  | 0x00 => ['\\', '0']
  | n =>
    if Text.isVisible c then [c]
    else "\\u\x7b".toList ++ Nat.toDigits 16 n ++ ['\x7d']

/-- A string in quotes as it is shown in a message. -/
def inspectString (s : String) : List Char := '"' :: s.toList.flatMap inspectChar ++ ['"']

/-- Texts between commas. -/
def commaSeparated (parts : List (List Char)) : List Char := List.intercalate [',', ' '] parts

mutual

/-- A value as it is shown in a message. -/
def inspect : Json → List Char
  | .null => "Null".toList
  | .bool b => "Bool(".toList ++ (Json.bool b).chars ++ [')']
  | .num n => "Number(".toList ++ n.chars ++ [')']
  | .str s => "String(".toList ++ inspectString s ++ [')']
  | .arr items => "Array [".toList ++ commaSeparated (inspectItems items) ++ [']']
  | .obj fields => "Object \x7b".toList ++ commaSeparated (inspectFields fields) ++ ['\x7d']

/-- Values as they are shown in a message. -/
def inspectItems : List Json → List (List Char)
  | [] => []
  | v :: vs => inspect v :: inspectItems vs

/-- Fields as they are shown in a message. -/
def inspectFields : List (String × Json) → List (List Char)
  | [] => []
  | (k, v) :: fs => (inspectString k ++ [':', ' '] ++ inspect v) :: inspectFields fs

end

end Json

end Depot
