import Depot.Json.Record

/-!
# Statements

A statement is a list of pieces: words of the language, quoted names, and values. Values never
become part of the text: each is bound to a placeholder, and placeholders are numbered in the
order of the text.

* `Statement.text`: the text with its placeholders.
* `Statement.params`: the values that are bound to them.

Results:
* `params_append`: the values of two statements in a row.
-/

namespace Depot

/-- A piece of a statement. A value is cast to the type of its column, if that has a name. -/
inductive Piece
  | word (s : String)
  | name (s : String)
  | value (v : Json) (cast : String)
  deriving DecidableEq

/-- A statement. -/
abbrev Statement := List Piece

namespace Statement

/-- The characters of a name with its quotes doubled. -/
def doubleQuotes : List Char → List Char
  | [] => []
  | c :: cs => if c = '"' then '"' :: '"' :: doubleQuotes cs else c :: doubleQuotes cs

/-- A name in quotes. -/
def quoted (s : String) : List Char := '"' :: doubleQuotes s.toList ++ ['"']

/-- The placeholder of a number, with its cast. -/
def placeholder (n : Nat) (cast : String) : List Char :=
  '$' :: Nat.toDigits 10 n ++ (if cast.isEmpty then [] else ':' :: ':' :: cast.toList)

/-- The characters of a statement whose first placeholder has number `next`. -/
def charsFrom (next : Nat) : Statement → List Char
  | [] => []
  | .word s :: rest => s.toList ++ charsFrom next rest
  | .name s :: rest => quoted s ++ charsFrom next rest
  | .value _ cast :: rest => placeholder next cast ++ charsFrom (next + 1) rest

/-- The text of a statement. -/
def text (s : Statement) : String := String.ofList (charsFrom 1 s)

/-- The values that are bound to the placeholders. -/
def params : Statement → List Json
  | [] => []
  | .value v _ :: rest => v :: params rest
  | _ :: rest => params rest

/-- Statements one after the other with a piece of text between them. -/
def joined (between : String) : List Statement → Statement
  | [] => []
  | [s] => s
  | s :: rest => s ++ .word between :: joined between rest

theorem params_append (s t : Statement) : params (s ++ t) = params s ++ params t := by
  induction s with
  | nil => rfl
  | cons p s ih => cases p <;> simp [params, ih]

end Statement

end Depot
