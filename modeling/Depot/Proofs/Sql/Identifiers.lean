import Depot.Proofs.Sql.Placeholders
import Depot.Proofs.Sql.Quotes

/-!
# The names in statements

A statement for an entity names the columns, tables, schemas and relations of the model, whatever
characters their names have. Every table is referred to in the schema that is given instead of its
own one, or else in its own one; this goes for the tables of included relations, too.

Results:
* `names_select`, `names_count`, `names_insert`, `names_update`, `names_delete`: the names in a
  statement.
* `refers_select`, `refers_count`, `refers_insert`, `refers_update`, `refers_delete`: the tables
  that a statement refers to.
* `statements_show_names`: all of this read off the texts of the statements.
-/

namespace Depot

/-! ## Names in the order of a statement -/

/-- The names in a condition on a column: that of the column, for each comparison. -/
def Condition.names (column : String) : Condition → List String
  | .range _ _ => [column, column]
  | _ => [column]

/-- The names in a selection: those of its equalities, then those of its conditions. -/
def Selection.names (s : Selection) : List String :=
  s.fields.map (·.1) ++ s.conditions.flatMap fun c => c.2.names c.1

namespace Sql

open Statement

/-- The schema in which the table of an entity is: the one that is given, or else its own one. -/
def schemaOf (schema : Option String) (e : Entity) : String := schema.getD e.schema

/-- The names by which the table of an entity is referred to. -/
def tableNames (schema : Option String) (e : Entity) : List String := [schemaOf schema e, e.table]

/-- The reference to the table of an entity. -/
def reference (schema : Option String) (e : Entity) : Reference :=
  ⟨some (schemaOf schema e), e.table⟩

/-- The columns of an entity as they are selected: one that is selected as text is named twice. -/
def columnNames (e : Entity) : List String :=
  e.columns.flatMap fun c => if selectedAsText c then [c.name, c.name] else [c.name]

/-- The names in the selected rows. -/
def sourceNames (schema : Option String) (e : Entity) (s : Selection) : List String :=
  columnNames e ++ tableNames schema e ++ s.names

/-- The names in an included relation. -/
def includeNames (schema : Option String) (i : Include) : List String :=
  columnNames i.target ++ tableNames schema i.target ++
    [i.relation.remoteColumn, i.relation.localColumn, i.relation.name]

/-- The columns that an update assigns, in order. -/
def updatedNames (e : Entity) (r : Record) : List String :=
  (givenColumns e r).map (·.name) ++
    if e.hasColumn "updated_at" && !r.has "updated_at" then ["updated_at"] else []

/-- Whether the types of all columns have no quotes. -/
def HasUnquotedTypes (e : Entity) : Prop := ∀ c ∈ e.columns, '"' ∉ c.sqlType.toList

variable {e : Entity} {s : Selection} {r : Record}

/-! ## The names in parts of statements -/

@[simp] theorem names_table (schema : Option String) (e : Entity) :
    (table schema e).names = tableNames schema e := rfl

@[simp] theorem names_columnList (e : Entity) : (columnList e).names = columnNames e := by
  rw [columnList, names_joined, List.flatMap_map, columnNames]
  congr 1
  funext c
  rw [selectedColumn]
  split <;> rfl

@[simp] theorem names_mainColumn (column : String) : (mainColumn column).names = [column] := rfl

@[simp] theorem names_bound (e : Entity) (column : String) (v : Json) (s : Statement) :
    Statement.names (bound e column v :: s) = s.names := rfl

@[simp] theorem names_condition (e : Entity) (column : String) (c : Condition) :
    (condition e column c).names = c.names column := by
  cases c with
  | eq v => cases v <;> simp [condition, comparison, Condition.names]
  | ne v => cases v <;> simp [condition, comparison, Condition.names]
  | oneOf vs => simp [condition, Condition.names, List.flatMap_map]
  | _ => simp [condition, comparison, Condition.names]

theorem flatMap_names_conditions (e : Entity) (s : Selection) :
    (conditions e s).flatMap Statement.names = s.names := by
  simp [conditions, Selection.names, List.flatMap_map, Condition.names, ← List.map_eq_flatMap]

@[simp] theorem names_whereClause (e : Entity) (s : Selection) :
    (whereClause e s).names = s.names := by
  have hnames := flatMap_names_conditions e s
  rw [whereClause]
  cases hparts : conditions e s with
  | nil => simpa [hparts] using hnames
  | cons p parts => simpa [hparts] using hnames

@[simp] theorem names_source (schema : Option String) (e : Entity) (s : Selection)
    (distinct : Bool) : (source schema e s distinct).names = sourceNames schema e s := by
  simp [source, sourceNames]

@[simp] theorem names_includeColumn (schema : Option String) (i : Include) :
    (includeColumn schema i).names = includeNames schema i := by
  rw [includeColumn]
  cases i.relation.kind <;> simp [includeNames]

@[simp] theorem names_orderClause (keys : List SortKey) :
    (orderClause keys).names = keys.map (·.field) := by
  rw [orderClause]
  cases keys with
  | nil => rfl
  | cons k keys => simp [List.flatMap_map, ← List.map_eq_flatMap]

@[simp] theorem names_limitClause (limit : Option Nat) : (limitClause limit).names = [] := by
  cases limit <;> rfl

@[simp] theorem names_offsetClause (offset : Nat) : (offsetClause offset).names = [] := by
  rw [offsetClause]
  split <;> rfl

@[simp] theorem names_keyPredicate (e : Entity) (r : Record) :
    (keyPredicate e r).names = e.primaryKey := by
  simp [keyPredicate, List.flatMap_map]

theorem flatMap_names_assignments (e : Entity) (r : Record) :
    (assignments e r).flatMap Statement.names = updatedNames e r := by
  have htime : (timeAssignments e r).flatMap Statement.names =
      if e.hasColumn "updated_at" && !r.has "updated_at" then ["updated_at"] else [] := by
    rw [timeAssignments]
    split <;> rfl
  rw [assignments_eq, List.flatMap_append, htime, updatedNames]
  simp [List.flatMap_map, ← List.map_eq_flatMap]

theorem assignments_eq_nil_iff : assignments e r = [] ↔ updatedNames e r = [] := by
  rw [assignments_eq, updatedNames, timeAssignments, List.append_eq_nil_iff,
    List.append_eq_nil_iff, List.map_eq_nil_iff, List.map_eq_nil_iff]
  split <;> simp

/-! ## The names in statements -/

theorem names_select (schema : Option String) (e : Entity) (s : Selection) (keys : List SortKey)
    (limit : Option Nat) (offset : Nat) (distinct : Bool) (includes : List Include) :
    (select schema e s keys limit offset distinct includes).names =
      includes.flatMap (includeNames schema) ++ sourceNames schema e s ++
        keys.map (·.field) := by
  simp [select, List.flatMap_map]

theorem names_count (schema : Option String) (e : Entity) (s : Selection) (distinct : Bool) :
    (count schema e s distinct).names = "count" :: sourceNames schema e s := by
  simp [count]

theorem names_insert (schema : Option String) (e : Entity) (r : Record) :
    (insert schema e r).names =
      tableNames schema e ++ (insertedColumns e r).map (·.name) ++ columnNames e := by
  rw [insert]
  cases hcolumns : insertedColumns e r with
  | nil => simp
  | cons c columns => simp [List.flatMap_map, ← List.map_eq_flatMap]

/-- An update without assignments selects the row. -/
theorem names_update (schema : Option String) (e : Entity) (r : Record) :
    (update schema e r).names =
      if updatedNames e r = [] then columnNames e ++ tableNames schema e ++ e.primaryKey
      else tableNames schema e ++ updatedNames e r ++ e.primaryKey ++ columnNames e := by
  rw [update]
  by_cases hnone : updatedNames e r = []
  · have hempty := assignments_eq_nil_iff.2 hnone
    simp [hempty, hnone]
  · have hsome : assignments e r ≠ [] := mt assignments_eq_nil_iff.1 hnone
    simp [hsome, hnone, flatMap_names_assignments]

theorem names_delete (schema : Option String) (e : Entity) (r : Record) :
    (delete schema e r).names = tableNames schema e ++ e.primaryKey ++ columnNames e := by
  simp [delete]

/-! ## The tables in parts of statements -/

/-- The table of an entity behind a word for tables. -/
theorem refers_table (schema : Option String) (e : Entity) {w : String} (hne : w ≠ "")
    (hplain : '"' ∉ w.toList) (hw : ∀ before, opensTable (w.toList.reverse ++ before) = true) :
    Refers (.word w :: table schema e) [reference schema e] :=
  .table hne hplain hw _ _

/-- The table that rows are selected from. -/
theorem refers_from (schema : Option String) (e : Entity) :
    Refers (.word " FROM " :: table schema e) [reference schema e] :=
  refers_table schema e (by decide) (by decide) fun _ => rfl

theorem refers_columnList (e : Entity) : Refers (columnList e) [] := by
  refine .joined_nil (by decide) (List.forall_mem_map.2 fun c _ => ?_)
  rw [selectedColumn]
  split
  · exact .name trivial (.word (by decide) (.name trivial .nil))
  · exact .name trivial .nil

theorem refers_mainColumn (column : String) : Refers (mainColumn column) [] :=
  .word (by decide) (.name trivial .nil)

theorem quote_notMem_cast (h : HasUnquotedTypes e) (column : String) :
    '"' ∉ (((e.column? column).map (·.sqlType)).getD "").toList := by
  cases hcolumn : e.column? column with
  | none => simp
  | some c => exact h c (List.mem_of_find?_eq_some hcolumn)

theorem refers_bound (h : HasUnquotedTypes e) (column : String) (v : Json) :
    Refers [bound e column v] [] :=
  .value (quote_notMem_cast h column) trivial .nil

theorem refers_equality (h : HasUnquotedTypes e) (column : String) (v : Json) :
    Refers [.name column, .word " = ", bound e column v] [] :=
  .name trivial (.word (by decide) (refers_bound h column v))

theorem refers_comparison (h : HasUnquotedTypes e) (column : String) {operator : String}
    (hoperator : Settles operator) (v : Json) : Refers (comparison e column operator v) [] :=
  .append (refers_mainColumn column) (.word hoperator (refers_bound h column v)) trivial

theorem refers_condition (h : HasUnquotedTypes e) (column : String) (c : Condition) :
    Refers (condition e column c) [] := by
  have hnull {w : String} (hw : Settles w) : Refers (mainColumn column ++ [.word w]) [] :=
    .append (refers_mainColumn column) (.word hw .nil) trivial
  cases c with
  | eq v =>
    cases v with
    | null => exact hnull (by decide)
    | _ => exact refers_comparison h column (by decide) _
  | ne v =>
    cases v with
    | null => exact hnull (by decide)
    | _ => exact refers_comparison h column (by decide) _
  | gt v => exact refers_comparison h column (by decide) v
  | lt v => exact refers_comparison h column (by decide) v
  | range low high =>
    have hlow : Refers (comparison e column " >= " low) [] :=
      refers_comparison h column (by decide) low
    have hhigh : Refers (comparison e column " <= " high) [] :=
      refers_comparison h column (by decide) high
    exact .append (.append (.word (by decide) hlow) (.word (by decide) hhigh) trivial)
      (.word (by decide) .nil) trivial
  | like p =>
    have hpattern : Refers [.value (.str p) ""] [] := .value (by decide) trivial .nil
    exact .append (refers_mainColumn column) (.word (by decide) hpattern) trivial
  | oneOf vs =>
    have hvalues : Refers (Statement.joined ", " (vs.map fun v => [bound e column v])) [] :=
      .joined_nil (by decide) (List.forall_mem_map.2 fun v _ => refers_bound h column v)
    exact .append (.append (refers_mainColumn column) (.word (by decide) hvalues) trivial)
      (.word (by decide) .nil) trivial

theorem refers_whereClause (h : HasUnquotedTypes e) (s : Selection) :
    Refers (whereClause e s) [] := by
  have hparts : Refers (Statement.joined " AND " (conditions e s)) [] := by
    refine .joined_nil (by decide) (List.forall_mem_append.2 ⟨?_, ?_⟩)
    · exact List.forall_mem_map.2 fun f _ => refers_condition h f.1 (.eq f.2)
    · exact List.forall_mem_map.2 fun c _ => refers_condition h c.1 c.2
  rw [whereClause]
  split
  · exact .nil
  · exact .word (by decide) hparts

theorem refers_source (schema : Option String) (h : HasUnquotedTypes e) (s : Selection)
    (distinct : Bool) : Refers (source schema e s distinct) [reference schema e] := by
  have hselect : Settles ("(SELECT " ++ if distinct then "DISTINCT " else "") := by
    cases distinct <;> decide
  have hcolumns : Refers (.word ("(SELECT " ++ if distinct then "DISTINCT " else "") ::
      columnList e) [] := .word hselect (refers_columnList e)
  have hwhere : Refers (.word (" " ++ mainAlias) :: whereClause e s) [] :=
    .word (by decide) (refers_whereClause h s)
  exact .append (.append (.append hcolumns (refers_from schema e) trivial) hwhere trivial)
    (.word (by decide) .nil) trivial

/-- The target of an included relation is selected from a table of its own. -/
theorem refers_includeColumn (schema : Option String) (i : Include) :
    Refers (includeColumn schema i) [reference schema i.target] := by
  have hjoin : Refers (.word " WHERE " :: .name i.relation.remoteColumn :: .word " = " ::
      mainColumn i.relation.localColumn) [] :=
    .word (by decide) (.name trivial (.word (by decide) (refers_mainColumn _)))
  have hrows : ∀ w, Settles w → Refers (.word w :: (columnList i.target ++ .word " FROM " ::
      table schema i.target ++ .word " WHERE " :: .name i.relation.remoteColumn ::
        .word " = " :: mainColumn i.relation.localColumn)) [reference schema i.target] :=
    fun w hw => .word hw (.append (.append (refers_columnList _) (refers_from schema _) trivial)
      hjoin trivial)
  have hname : Refers [.word " AS ", .name i.relation.name] [] :=
    .word (by decide) (.name trivial .nil)
  rw [includeColumn]
  split
  · exact .append (.append (hrows _ (by decide)) (.word (by decide) .nil) trivial) hname trivial
  · exact .append (.append (hrows _ (by decide)) (.word (by decide) .nil) trivial) hname trivial

theorem refers_orderClause (keys : List SortKey) : Refers (orderClause keys) [] := by
  rw [orderClause]
  split
  · exact .nil
  · refine .word (by decide) (.joined_nil (by decide) (List.forall_mem_map.2 fun k _ => ?_))
    refine .append (refers_mainColumn k.field) (.word ?_ .nil) trivial
    cases k.direction <;> decide

/-- A number may follow a word: the words for tables do not end with a digit. -/
theorem settles_append_repr {w : String} (hplain : '"' ∉ w.toList) (n : Nat) :
    Settles (w ++ Nat.repr n) := by
  have hdigits : ∀ c ∈ (Nat.repr n).toList, c.isDigit = true := by
    rw [Nat.repr_eq_ofList_toDigits, String.toList_ofList]
    exact fun c hc => Nat.isDigit_of_mem_toDigits (by decide) (by decide) hc
  have hne : (Nat.repr n).toList ≠ [] := by
    rw [Nat.repr_eq_ofList_toDigits, String.toList_ofList]
    exact Nat.toDigits_ne_nil
  have hlast : ((w ++ Nat.repr n).toList.getLast?).all Char.isDigit = true := by
    rw [String.toList_append, List.getLast?_append_of_ne_nil _ hne,
      List.getLast?_eq_getLast_of_ne_nil hne]
    exact hdigits _ (List.getLast_mem hne)
  have happend : (w ++ Nat.repr n).toList ≠ [] := by
    rw [String.toList_append]
    exact List.append_ne_nil_of_right_ne_nil _ hne
  have hword : ∀ k ∈ tableWords, k.toList ≠ [] ∧ (k.toList.getLast?).all Char.isDigit = false := by
    decide
  refine ⟨mt String.toList_eq_nil_iff.2 happend, ?_, fun k hk => ⟨?_, ?_⟩⟩
  · rw [String.toList_append, List.mem_append, not_or]
    exact ⟨hplain, fun hm => absurd (hdigits _ hm) (by decide)⟩
  · rintro ⟨front, hfront⟩
    rw [← hfront, List.getLast?_append_of_ne_nil _ (hword k hk).1, (hword k hk).2] at hlast
    exact Bool.false_ne_true hlast
  · rintro ⟨front, hfront⟩
    have hdigit := (hword k hk).2
    rw [← hfront, List.getLast?_append_of_ne_nil _ happend, hlast] at hdigit
    exact absurd hdigit (by decide)

theorem refers_limitClause (limit : Option Nat) : Refers (limitClause limit) [] := by
  cases limit with
  | none => exact .nil
  | some n => exact .word (settles_append_repr (by decide) n) .nil

theorem refers_offsetClause (offset : Nat) : Refers (offsetClause offset) [] := by
  rw [offsetClause]
  split
  · exact .nil
  · exact .word (settles_append_repr (by decide) offset) .nil

theorem refers_keyPredicate (h : HasUnquotedTypes e) (r : Record) :
    Refers (keyPredicate e r) [] :=
  .joined_nil (by decide) (List.forall_mem_map.2 fun c _ => refers_equality h c (r.get c))

theorem refers_assignments (h : HasUnquotedTypes e) (r : Record) :
    Refers (Statement.joined ", " (assignments e r)) [] := by
  rw [assignments_eq]
  refine .joined_nil (by decide) (List.forall_mem_append.2 ⟨?_, ?_⟩)
  · exact List.forall_mem_map.2 fun c _ => refers_equality h c.name (r.get c.name)
  · rw [timeAssignments]
    split
    · exact List.forall_mem_singleton.2 (.name trivial (.word (by decide) .nil))
    · exact List.forall_mem_nil _

/-! ## The tables in statements -/

theorem refers_select (schema : Option String) (h : HasUnquotedTypes e) (s : Selection)
    (keys : List SortKey) (limit : Option Nat) (offset : Nat) (distinct : Bool)
    (includes : List Include) :
    Refers (select schema e s keys limit offset distinct includes)
      (includes.map (fun i => reference schema i.target) ++ [reference schema e]) := by
  have hincludes : List.Forall₂ Refers (includes.map (includeColumn schema))
      (includes.map fun i => [reference schema i.target]) :=
    List.forall₂_map_left_iff.2 (List.forall₂_map_right_iff.2
      (List.forall₂_same.2 fun i _ => refers_includeColumn schema i))
  have hmain : Refers [.word (mainAlias ++ ".*")] [] := .word (by decide) .nil
  have hcolumns : Refers (.word "SELECT " :: Statement.joined ", "
      ([.word (mainAlias ++ ".*")] :: includes.map (includeColumn schema)))
        (includes.map fun i => reference schema i.target) := by
    have hjoined := @Refers.joined ", " (by decide) _ _ (.cons hmain hincludes)
    rw [List.flatten_cons, List.nil_append, ← List.flatMap_def, ← List.map_eq_flatMap] at hjoined
    exact .word (by decide) hjoined
  have hsource : Refers (.word " FROM " :: source schema e s distinct) [reference schema e] :=
    .words (by decide) (by decide) trivial (refers_source schema h s distinct)
  have hrows := hcolumns.append hsource trivial
  have hordered := hrows.append (refers_orderClause keys) (separated_orderClause keys)
  have hlimited := hordered.append (refers_limitClause limit) (separated_limitClause limit)
  have hall := hlimited.append (refers_offsetClause offset) (separated_offsetClause offset)
  rw [List.append_nil, List.append_nil, List.append_nil] at hall
  exact hall

theorem refers_count (schema : Option String) (h : HasUnquotedTypes e) (s : Selection)
    (distinct : Bool) : Refers (count schema e s distinct) [reference schema e] :=
  .word (by decide) (.name trivial
    (.words (by decide) (by decide) trivial (refers_source schema h s distinct)))

theorem refers_insert (schema : Option String) (h : HasUnquotedTypes e) (r : Record) :
    Refers (insert schema e r) [reference schema e] := by
  have htable : Refers (.word "INSERT INTO " :: table schema e) [reference schema e] :=
    refers_table schema e (by decide) (by decide) fun _ => rfl
  have hreturning : Refers (.word " RETURNING " :: columnList e) [] :=
    .word (by decide) (refers_columnList e)
  have hnames : Refers (.word " (" ::
      Statement.joined ", " ((insertedColumns e r).map fun c => [.name c.name])) [] :=
    .word (by decide) (.joined_nil (by decide)
      (List.forall_mem_map.2 fun c _ => .name trivial .nil))
  have hvalues : Refers (.word ") VALUES (" :: Statement.joined ", "
      ((insertedColumns e r).map fun c => [bound e c.name (r.get c.name)])) [] :=
    .word (by decide) (.joined_nil (by decide)
      (List.forall_mem_map.2 fun c _ => refers_bound h c.name (r.get c.name)))
  rw [insert]
  split
  · exact htable.append (.word (by decide) hreturning) trivial
  · exact ((htable.append hnames trivial).append hvalues trivial).append
      (.word (by decide) hreturning) trivial

theorem refers_update (schema : Option String) (h : HasUnquotedTypes e) (r : Record) :
    Refers (update schema e r) [reference schema e] := by
  have hkey : Refers (.word " WHERE " :: keyPredicate e r) [] :=
    .word (by decide) (refers_keyPredicate h r)
  have htable : Refers (.word "UPDATE " :: table schema e) [reference schema e] :=
    refers_table schema e (by decide) (by decide) fun _ => rfl
  have hsets : Refers (.word " SET " :: Statement.joined ", " (assignments e r)) [] :=
    .word (by decide) (refers_assignments h r)
  have hselect : Refers (.word "SELECT " :: columnList e) [] :=
    .word (by decide) (refers_columnList e)
  have hreturning : Refers (.word " RETURNING " :: columnList e) [] :=
    .word (by decide) (refers_columnList e)
  rw [update]
  split
  · exact (hselect.append (refers_from schema e) trivial).append hkey trivial
  · exact ((htable.append hsets trivial).append hkey trivial).append hreturning trivial

theorem refers_delete (schema : Option String) (h : HasUnquotedTypes e) (r : Record) :
    Refers (delete schema e r) [reference schema e] := by
  have htable : Refers (.word "DELETE FROM " :: table schema e) [reference schema e] :=
    refers_table schema e (by decide) (by decide) fun _ => rfl
  have hkey : Refers (.word " WHERE " :: keyPredicate e r) [] :=
    .word (by decide) (refers_keyPredicate h r)
  have hreturning : Refers (.word " RETURNING " :: columnList e) [] :=
    .word (by decide) (refers_columnList e)
  exact (htable.append hkey trivial).append hreturning trivial

/-! ## The texts of statements -/

/-- The text of every statement can be split at its quotes. The names in it are those of columns,
    tables, schemas and relations, as they are in the model, and each table is referred to in the
    schema that is given, or else in its own one. -/
theorem statements_show_names (schema : Option String) (h : HasUnquotedTypes e) :
    (∀ (s : Selection) (keys : List SortKey) (limit : Option Nat) (offset : Nat)
        (distinct : Bool) (includes : List Include),
      Shows (select schema e s keys limit offset distinct includes)
        (includes.flatMap (includeNames schema) ++ sourceNames schema e s ++ keys.map (·.field))
        (includes.map (fun i => reference schema i.target) ++ [reference schema e])) ∧
    (∀ (s : Selection) (distinct : Bool),
      Shows (count schema e s distinct) ("count" :: sourceNames schema e s)
        [reference schema e]) ∧
    ∀ r : Record,
      Shows (insert schema e r)
        (tableNames schema e ++ (insertedColumns e r).map (·.name) ++ columnNames e)
        [reference schema e] ∧
      Shows (update schema e r)
        (if updatedNames e r = [] then columnNames e ++ tableNames schema e ++ e.primaryKey
          else tableNames schema e ++ updatedNames e r ++ e.primaryKey ++ columnNames e)
        [reference schema e] ∧
      Shows (delete schema e r) (tableNames schema e ++ e.primaryKey ++ columnNames e)
        [reference schema e] := by
  refine ⟨fun s keys limit offset distinct includes => ?_, fun s distinct => ?_,
    fun r => ⟨?_, ?_, ?_⟩⟩
  · rw [← names_select schema e s keys limit offset distinct includes]
    exact (refers_select schema h s keys limit offset distinct includes).shows
  · rw [← names_count schema e s distinct]
    exact (refers_count schema h s distinct).shows
  · rw [← names_insert]
    exact (refers_insert schema h r).shows
  · rw [← names_update]
    exact (refers_update schema h r).shows
  · rw [← names_delete schema e r]
    exact (refers_delete schema h r).shows

end Sql

open Statement

/-! ## Shelves -/

namespace Shelves

/-- Books, with quotes and keywords in their names. -/
def book : Entity :=
  ⟨"book", "own", "b\"\"ook", ["id"],
    [⟨"id", some .text, false, false, "text"⟩, ⟨"from \"", none, true, false, "int4"⟩], [], []⟩

/-- Shelves, whose labels are selected as text. -/
def shelf : Entity :=
  ⟨"shelf", "main\"", "\". FROM \"x", ["id"],
    [⟨"id", some .text, false, false, "$1 FROM "⟩, ⟨"\"", none, true, false, "numeric"⟩], [], []⟩

/-- The books on a shelf. -/
def books : Sql.Include := ⟨⟨"books\"", .toMany, "book", "id", "from \""⟩, book⟩

/-- The shelves whose label is in a range. -/
def selection : Selection := ⟨[("id", .str "\"")], [("\"", .range (.str "a") (.str "b"))]⟩

theorem hasUnquotedTypes_shelf : Sql.HasUnquotedTypes shelf := by
  simp [Sql.HasUnquotedTypes, shelf]

end Shelves

open Shelves in
/-- No quote in a name and no word in a type is taken for anything else. -/
theorem statements_show_names_shelves :
    identifiers? (Sql.select none shelf selection [⟨"id", .asc⟩] (some 5) 0 false [books]).text =
        some ["id", "from \"", "own", "b\"\"ook", "from \"", "id", "books\"", "id", "\"", "\"",
          "main\"", "\". FROM \"x", "id", "\"", "\"", "id"] ∧
      references? (Sql.select none shelf selection [⟨"id", .asc⟩] (some 5) 0 false [books]).text =
        some [⟨some "own", "b\"\"ook"⟩, ⟨some "main\"", "\". FROM \"x"⟩] ∧
      references? (Sql.select (some "other") shelf selection [] none 0 true [books]).text =
        some [⟨some "other", "b\"\"ook"⟩, ⟨some "other", "\". FROM \"x"⟩] := by
  have hown := (Sql.statements_show_names none hasUnquotedTypes_shelf).1 selection
    [⟨"id", .asc⟩] (some 5) 0 false [books]
  have hother := (Sql.statements_show_names (some "other") hasUnquotedTypes_shelf).1 selection
    [] none 0 true [books]
  refine ⟨hown.identifiers.trans ?_, hown.references, hother.references⟩
  decide +kernel

end Depot
