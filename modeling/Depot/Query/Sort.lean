import Depot.Text.Blank
import Depot.Text.Case

/-!
# Sort orders

An order is written as fields between commas, each with an optional direction: `name asc,id`. A
field without a direction is sorted downwards.

* `SortKey.parseList`: the sort keys of an order, or the first piece that is none.
-/

namespace Depot

/-- A direction of sorting. -/
inductive Direction
  | asc
  | desc
  deriving DecidableEq, Repr

/-- The name of a direction. -/
def Direction.name : Direction → String
  | .asc => "asc"
  | .desc => "desc"

/-- A field to sort by. -/
structure SortKey where
  field : String
  direction : Direction
  deriving DecidableEq, Repr

namespace SortKey

/-- The direction that a word names; a direction is upwards only if it is written with the ASCII
    letters of `asc`. -/
def direction? (word : List Char) : Option Direction :=
  if Text.afterWord ['a', 's', 'c'] word = some [] ∨
      Text.afterWord ['d', 'e', 's', 'c'] word = some [] then
    some (if word.map Text.lowerAscii = ['a', 's', 'c'] then .asc else .desc)
  else none

/-- The sort key of a trimmed piece: a word, and after blanks an optional direction. -/
def ofToken? (token : List Char) : Option SortKey :=
  let field := token.takeWhile (!Text.isBlank ·)
  let rest := token.dropWhile (!Text.isBlank ·)
  if field.isEmpty then none
  else if rest.isEmpty then some ⟨String.ofList field, .desc⟩
  else (direction? (rest.dropWhile Text.isBlank)).map fun d => ⟨String.ofList field, d⟩

/-- Adds a sort key; a field that is there already takes its direction. -/
def add (keys : List SortKey) (key : SortKey) : List SortKey :=
  match keys with
  | [] => [key]
  | k :: rest => if k.field = key.field then key :: rest else k :: add rest key

/-- Adds the sort keys of the pieces of an order. -/
def addTokens (keys : List SortKey) : List (List Char) → Except String (List SortKey)
  | [] => .ok keys
  | t :: ts =>
    match ofToken? (Text.trim t) with
    | some key => addTokens (add keys key) ts
    | none => .error (String.ofList (Text.trim t))

/-- The sort keys of an order, or the first piece that is none. -/
def parseList (raw : String) : Except String (List SortKey) :=
  addTokens [] (Text.splitOn ',' raw.toList)

end SortKey

end Depot
