import Depot.Model.Entity
import Depot.Query.Condition
import Depot.Query.Sort
import Depot.Sql.Statement

/-!
# Statements for entities

The statements that select, count, insert, update and delete rows of an entity in a relational
database. Names come from the model, values from requests.

* `Sql.select`, `Sql.count`, `Sql.insert`, `Sql.update`, `Sql.delete`: the statements.
-/

namespace Depot.Sql

/-- The name under which the selected rows are referred to. -/
def mainAlias : String := "main"

/-- A relation that is selected with the rows, and its target. -/
structure Include where
  relation : Relation
  target : Entity

/-- The table of an entity, in its own schema or in the one given instead. -/
def table (schema : Option String) (e : Entity) : Statement :=
  [.name (schema.getD e.schema), .word ".", .name e.table]

/-- A value bound for a column. -/
def bound (e : Entity) (column : String) (v : Json) : Piece :=
  .value v (((e.column? column).map (·.sqlType)).getD "")

/-- Whether values of a column are selected as text: those of types in a schema and decimals. -/
def selectedAsText (c : Column) : Bool := c.sqlType.toList.contains '.' || c.sqlType == "numeric"

/-- A column among selected ones. -/
def selectedColumn (c : Column) : Statement :=
  if selectedAsText c then [.name c.name, .word "::text AS ", .name c.name] else [.name c.name]

/-- The columns of an entity as they are selected. -/
def columnList (e : Entity) : Statement := Statement.joined ", " (e.columns.map selectedColumn)

/-- A column of the selected rows. -/
def mainColumn (column : String) : Statement := [.word (mainAlias ++ "."), .name column]

/-- A comparison of a column with a value. -/
def comparison (e : Entity) (column operator : String) (v : Json) : Statement :=
  mainColumn column ++ [.word operator, bound e column v]

/-- A condition on a column. -/
def condition (e : Entity) (column : String) : Condition → Statement
  | .eq .null => mainColumn column ++ [.word " IS NULL"]
  | .ne .null => mainColumn column ++ [.word " IS NOT NULL"]
  | .eq v => comparison e column " = " v
  | .ne v => comparison e column " <> " v
  | .gt v => comparison e column " > " v
  | .lt v => comparison e column " < " v
  | .range low high =>
    .word "(" :: comparison e column " >= " low ++ .word " AND " ::
      comparison e column " <= " high ++ [.word ")"]
  | .like p => mainColumn column ++ [.word "::text LIKE ", .value (.str p) ""]
  | .oneOf vs =>
    mainColumn column ++ .word " IN (" ::
      Statement.joined ", " (vs.map fun v => [bound e column v]) ++ [.word ")"]

/-- The conditions of a selection: its equalities, then its other conditions. -/
def conditions (e : Entity) (s : Selection) : List Statement :=
  (s.fields.map fun (column, v) => condition e column (.eq v)) ++
    s.conditions.map fun (column, c) => condition e column c

/-- The clause of a selection, if it has conditions. -/
def whereClause (e : Entity) (s : Selection) : Statement :=
  let parts := conditions e s
  if parts.isEmpty then [] else .word " WHERE " :: Statement.joined " AND " parts

/-- The selected rows as a table. -/
def source (schema : Option String) (e : Entity) (s : Selection) (distinct : Bool) : Statement :=
  .word ("(SELECT " ++ if distinct then "DISTINCT " else "") :: columnList e ++
    .word " FROM " :: table schema e ++ .word (" " ++ mainAlias) :: whereClause e s ++
    [.word (") " ++ mainAlias)]

/-- The rows of an included relation, as one value under the relation's name. -/
def includeColumn (schema : Option String) (i : Include) : Statement :=
  let rows := columnList i.target ++ .word " FROM " :: table schema i.target ++
    .word " WHERE " :: .name i.relation.remoteColumn :: .word " = " ::
    mainColumn i.relation.localColumn
  let value := match i.relation.kind with
    | .toOne => .word "(SELECT row_to_json(sub) FROM (SELECT " :: rows ++ [.word " LIMIT 1) sub)"]
    | .toMany =>
      .word "(SELECT COALESCE(json_agg(row_to_json(sub)), '[]'::json) FROM (SELECT " :: rows ++
        [.word ") sub)"]
  value ++ [.word " AS ", .name i.relation.name]

/-- The word of a direction. -/
def directionWord : Direction → String
  | .asc => " ASC"
  | .desc => " DESC"

/-- The clause of an order, if there is one. -/
def orderClause (keys : List SortKey) : Statement :=
  if keys.isEmpty then []
  else .word " ORDER BY " :: Statement.joined ", "
    (keys.map fun k => mainColumn k.field ++ [.word (directionWord k.direction)])

/-- The clause of a number of rows, if there is one. -/
def limitClause : Option Nat → Statement
  | none => []
  | some n => [.word (" LIMIT " ++ Nat.repr n)]

/-- The clause of a number of rows to pass over, unless it is zero. -/
def offsetClause (n : Nat) : Statement :=
  if n = 0 then [] else [.word (" OFFSET " ++ Nat.repr n)]

/-- One page of the selected rows, with included relations. -/
def select (schema : Option String) (e : Entity) (s : Selection) (keys : List SortKey)
    (limit : Option Nat) (offset : Nat) (distinct : Bool) (includes : List Include) :
    Statement :=
  let columns := Statement.joined ", " ([.word (mainAlias ++ ".*")] ::
    includes.map (includeColumn schema))
  .word "SELECT " :: columns ++ .word " FROM " :: source schema e s distinct ++
    orderClause keys ++ limitClause limit ++ offsetClause offset

/-- The number of the selected rows. -/
def count (schema : Option String) (e : Entity) (s : Selection) (distinct : Bool) : Statement :=
  [.word "SELECT COUNT(*) AS ", .name "count", .word " FROM "] ++ source schema e s distinct

/-- The equalities that name a row by its primary key. -/
def keyPredicate (e : Entity) (r : Record) : Statement :=
  Statement.joined " AND "
    (e.primaryKey.map fun c => [.name c, .word " = ", bound e c (r.get c)])

/-- The columns that an insertion gives values for: a column with a default is left out unless
    the record has a value for it that is not null. -/
def insertedColumns (e : Entity) (r : Record) : List Column :=
  e.columns.filter fun c => !(c.hasDefault && (r.get c.name).isNull)

/-- The insertion of a record. -/
def insert (schema : Option String) (e : Entity) (r : Record) : Statement :=
  let columns := insertedColumns e r
  let returning := .word " RETURNING " :: columnList e
  if columns.isEmpty then
    .word "INSERT INTO " :: table schema e ++ .word " DEFAULT VALUES" :: returning
  else
    .word "INSERT INTO " :: table schema e ++ .word " (" ::
      Statement.joined ", " (columns.map fun c => [.name c.name]) ++ .word ") VALUES (" ::
      Statement.joined ", " (columns.map fun c => [bound e c.name (r.get c.name)]) ++
      .word ")" :: returning

/-- The assignments of an update: the columns outside the primary key that the record has, and
    the time of the update if the record does not set it. -/
def assignments (e : Entity) (r : Record) : List Statement :=
  let given := e.columns.filter fun c => !e.primaryKey.contains c.name && r.has c.name
  let sets := given.map fun c =>
    ([.name c.name, .word " = ", bound e c.name (r.get c.name)] : Statement)
  if e.hasColumn "updated_at" && !r.has "updated_at" then
    sets ++ [[.name "updated_at", .word " = NOW()"]]
  else sets

/-- The update of the row that a record names; without assignments the row is only selected. -/
def update (schema : Option String) (e : Entity) (r : Record) : Statement :=
  let sets := assignments e r
  if sets.isEmpty then
    .word "SELECT " :: columnList e ++ .word " FROM " :: table schema e ++ .word " WHERE " ::
      keyPredicate e r
  else
    .word "UPDATE " :: table schema e ++ .word " SET " :: Statement.joined ", " sets ++
      .word " WHERE " :: keyPredicate e r ++ .word " RETURNING " :: columnList e

/-- The deletion of the row that a record names. -/
def delete (schema : Option String) (e : Entity) (r : Record) : Statement :=
  .word "DELETE FROM " :: table schema e ++ .word " WHERE " :: keyPredicate e r ++
    .word " RETURNING " :: columnList e

end Depot.Sql
