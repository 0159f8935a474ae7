import Depot.Json.Printer

/-!
# Conditions and selections

A `Condition` constrains one field. A `Selection` names the rows of an entity that a request is
about: every field equality and every condition must hold of a row.

* `Selection.toJson`: a selection as shown to callers, with the conditions in a group `$and`.
-/

namespace Depot

/-- A constraint on one field. -/
inductive Condition
  | eq (value : Json)
  | ne (value : Json)
  | gt (value : Json)
  | lt (value : Json)
  | range (low high : Json)
  | like (pattern : String)
  | oneOf (values : List Json)
  deriving DecidableEq

/-- A condition as an object of operators and operands. -/
def Condition.toJson : Condition → Json
  | .eq v => .obj [("$eq", v)]
  | .ne v => .obj [("$ne", v)]
  | .gt v => .obj [("$gt", v)]
  | .lt v => .obj [("$lt", v)]
  | .range low high => .obj [("$gte", low), ("$lte", high)]
  | .like p => .obj [("$like", .str p)]
  | .oneOf vs => .obj [("$in", .arr vs)]

/-- Field equalities and further conditions, all of which must hold. -/
structure Selection where
  fields : Record
  conditions : List (String × Condition)
  deriving DecidableEq

namespace Selection

/-- The rows with the given field values. -/
def ofFields (fields : Record) : Selection := ⟨fields, []⟩

/-- Adds field equalities; on a field that has one already, the added one takes its place. -/
def mergeFields (s : Selection) (fields : Record) : Selection :=
  { s with fields := s.fields.overlay fields }

/-- Adds a condition. -/
def push (s : Selection) (field : String) (c : Condition) : Selection :=
  { s with conditions := s.conditions ++ [(field, c)] }

/-- The group of the conditions. -/
def groupJson (cs : List (String × Condition)) : Json :=
  .arr (cs.map fun (field, c) => .obj [(field, c.toJson)])

/-- A selection as an object. -/
def toJson (s : Selection) : Json :=
  .obj (if s.conditions.isEmpty then s.fields
    else s.fields.put "$and" (groupJson s.conditions))

/-- The text of a selection. -/
def text (s : Selection) : String := s.toJson.text

end Selection

end Depot
