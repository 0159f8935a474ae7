import Depot.Json.Record

/-!
# Texts of JSON values

Values are written without spaces. A string is quoted and escapes the quote, the backslash and
the control characters below `U+0020`, the common ones by a letter and the others by their code
in four small hexadecimal digits; every other character stands for itself.

* `Json.text`: the text of a value.
* `Json.plainText`: the text under which a value is compared: that of a string is the string.
-/

namespace Depot

namespace Json

/-- A hexadecimal digit in small letters. -/
def hexDigit (n : Nat) : Char := Char.ofNat (if n < 10 then 0x30 + n else 0x57 + n)

/-- A character as it stands in a quoted text. -/
def escapeChar (c : Char) : List Char :=
  match c.toNat with
  | 0x22 => ['\\', '"']
  | 0x5C => ['\\', '\\']
  | 0x08 => ['\\', 'b']
  | 0x0C => ['\\', 'f']
  | 0x0A => ['\\', 'n']
  | 0x0D => ['\\', 'r']
  | 0x09 => ['\\', 't']
  | n => if n < 0x20 then ['\\', 'u', '0', '0', hexDigit (n / 16), hexDigit (n % 16)] else [c]

/-- A quoted text. -/
def quote (s : String) : List Char := '"' :: s.toList.flatMap escapeChar ++ ['"']

mutual

/-- The characters of a value's text. -/
def chars : Json → List Char
  | .null => ['n', 'u', 'l', 'l']
  | .bool true => ['t', 'r', 'u', 'e']
  | .bool false => ['f', 'a', 'l', 's', 'e']
  | .num n => n.chars
  | .str s => quote s
  | .arr items => '[' :: itemChars items
  | .obj fields => '\x7b' :: fieldChars fields

/-- The items of an array and the bracket that closes it. -/
def itemChars : List Json → List Char
  | [] => [']']
  | [v] => chars v ++ [']']
  | v :: rest => chars v ++ ',' :: itemChars rest

/-- The fields of an object and the brace that closes it. -/
def fieldChars : List (String × Json) → List Char
  | [] => ['\x7d']
  | [(k, v)] => quote k ++ ':' :: chars v ++ ['\x7d']
  | (k, v) :: rest => quote k ++ ':' :: chars v ++ ',' :: fieldChars rest

end

/-- The text of a value. -/
def text (v : Json) : String := String.ofList v.chars

/-- The text under which a value is compared. -/
def plainText : Json → String
  | .str s => s
  | v => v.text

end Json

end Depot
