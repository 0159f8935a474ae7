import Depot.Json.Printer

/-!
# Bound values

Values are bound to placeholders as texts, which the statement casts to the type of the column.

* `Sql.boundText?`: the text of a bound value; null is bound as such.
-/

namespace Depot.Sql

/-- The type as which every value is bound. -/
def boundType : String := "TEXT"

/-- The text as which a value is bound; there is none for null. -/
def boundText? : Json → Option String
  | .null => none
  | v => some v.plainText

end Depot.Sql
