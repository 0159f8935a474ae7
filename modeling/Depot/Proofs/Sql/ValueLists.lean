import Depot.Sql.Query

/-!
# Lists of values in statements

A condition that asks for one of several values is printed with a list of them. Where every such
condition holds a value, no list in a statement is empty.

* `Condition.values`: the values that a condition holds.
* `Statement.FillsLists`: statements in which every list of values has a value.

Results:
* `Sql.fillsLists_condition`: a condition prints an empty list only if it holds one.
* `Sql.fillsLists_select`, `Sql.fillsLists_count`: the statements for the rows of a selection.
-/

namespace Depot

/-- The values that a condition holds. -/
def Condition.values : Condition → List Json
  | .eq v | .ne v | .gt v | .lt v => [v]
  | .range low high => [low, high]
  | .like p => [.str p]
  | .oneOf vs => vs

/-- In a statement every list of values has a value. -/
def Statement.FillsLists (s : Statement) : Prop :=
  ∀ front back, s = front ++ .word " IN (" :: back → ∃ v cast rest, back = .value v cast :: rest

/-! ## Parts of statements -/

namespace Statement

variable {s t : Statement}

theorem fillsLists_nil : FillsLists [] := by
  intro front back h
  exact absurd h.symm (List.append_ne_nil_of_right_ne_nil front (List.cons_ne_nil _ _))

theorem FillsLists.cons {p : Piece} (hp : p ≠ .word " IN (") (hs : s.FillsLists) :
    FillsLists (p :: s) := by
  intro front back h
  cases front with
  | nil => exact absurd (List.cons.inj h).1 hp
  | cons q front => exact hs front back (List.cons.inj h).2

theorem FillsLists.name (n : String) (hs : s.FillsLists) : FillsLists (.name n :: s) :=
  hs.cons nofun

theorem FillsLists.value (v : Json) (cast : String) (hs : s.FillsLists) :
    FillsLists (.value v cast :: s) :=
  hs.cons nofun

theorem FillsLists.word {w : String} (hw : w ≠ " IN (") (hs : s.FillsLists) :
    FillsLists (.word w :: s) :=
  hs.cons (by rwa [Ne, Piece.word.injEq])

/-- A list of values with a value in it. -/
theorem FillsLists.list {v : Json} {cast : String} (hs : s.FillsLists) :
    FillsLists (.word " IN (" :: .value v cast :: s) := by
  intro front back h
  cases front with
  | nil => exact ⟨v, cast, s, (List.cons.inj h).2.symm⟩
  | cons q front => exact hs.value v cast front back (List.cons.inj h).2

theorem FillsLists.append (hs : s.FillsLists) (ht : t.FillsLists) : FillsLists (s ++ t) := by
  intro front back h
  obtain ⟨rest, rfl, hrest⟩ | ⟨rest, hfront, hrest⟩ := List.append_eq_append_iff.1 h
  · exact ht rest back hrest
  -- The list begins where the first part ends, or within that part, which then has its value too.
  · cases rest with
    | nil => exact ht [] back hrest.symm
    | cons q rest =>
      obtain ⟨rfl, hback⟩ := List.cons.inj hrest
      obtain ⟨v, cast, tail, rfl⟩ := hs front rest hfront
      exact ⟨v, cast, tail ++ t, hback⟩

theorem FillsLists.joined {between : String} (hbetween : between ≠ " IN (") {ss : List Statement}
    (h : ∀ s ∈ ss, FillsLists s) : FillsLists (Statement.joined between ss) := by
  induction ss with
  | nil => exact fillsLists_nil
  | cons s ss ih =>
    obtain ⟨hs, hss⟩ := List.forall_mem_cons.1 h
    cases ss with
    | nil => exact hs
    | cons t ss =>
      exact hs.append ((ih hss).word hbetween)

end Statement

/-! ## The statements -/

namespace Sql

open Statement

variable (e : Entity) (column : String)

theorem fillsLists_mainColumn : FillsLists (mainColumn column) :=
  .word (by decide) (.name column fillsLists_nil)

theorem fillsLists_comparison {operator : String} (h : operator ≠ " IN (") (v : Json) :
    FillsLists (comparison e column operator v) :=
  (fillsLists_mainColumn column).append (.word h (.value v _ fillsLists_nil))

/-- A condition prints an empty list only if it holds one. -/
theorem fillsLists_condition {c : Condition} (hc : c.values ≠ []) :
    FillsLists (condition e column c) := by
  have hmain {s : Statement} (hs : s.FillsLists) : FillsLists (mainColumn column ++ s) :=
    (fillsLists_mainColumn column).append hs
  cases c with
  | eq v | ne v =>
    cases v with
    | null => exact hmain (.word (by decide) fillsLists_nil)
    | _ => exact fillsLists_comparison e column (by decide) _
  | gt v | lt v => exact fillsLists_comparison e column (by decide) v
  | range low high =>
    have hlow : FillsLists (comparison e column " >= " low) :=
      fillsLists_comparison e column (by decide) low
    have hhigh : FillsLists (comparison e column " <= " high) :=
      fillsLists_comparison e column (by decide) high
    exact ((hlow.word (by decide)).append (hhigh.word (by decide))).append
      (.word (by decide) fillsLists_nil)
  | like p => exact hmain (.word (by decide) (.value _ _ fillsLists_nil))
  | oneOf vs =>
    cases vs with
    | nil => exact absurd rfl hc
    | cons v vs =>
      have hrest : FillsLists (joined ", " (vs.map fun v => [bound e column v])) :=
        .joined (by decide) (List.forall_mem_map.2 fun v _ => .value v _ fillsLists_nil)
      have hlist : FillsLists
          (.word " IN (" :: joined ", " ((v :: vs).map fun v => [bound e column v])) := by
        cases vs with
        | nil => exact fillsLists_nil.list
        | cons w vs => exact (hrest.word (by decide)).list
      exact (hmain hlist).append (.word (by decide) fillsLists_nil)

theorem fillsLists_table (schema : Option String) : FillsLists (table schema e) :=
  .name _ (.word (by decide) (.name _ fillsLists_nil))

theorem fillsLists_columnList : FillsLists (columnList e) := by
  refine .joined (by decide) (List.forall_mem_map.2 fun c _ => ?_)
  rw [selectedColumn]
  split
  · exact .name _ (.word (by decide) (.name _ fillsLists_nil))
  · exact .name _ fillsLists_nil

theorem fillsLists_whereClause {s : Selection} (hs : ∀ entry ∈ s.conditions, entry.2.values ≠ []) :
    FillsLists (whereClause e s) := by
  have hparts : FillsLists (joined " AND " (conditions e s)) := by
    refine .joined (by decide) (List.forall_mem_append.2 ⟨?_, ?_⟩)
    · exact List.forall_mem_map.2 fun f _ => fillsLists_condition e f.1 (List.cons_ne_nil _ _)
    · exact List.forall_mem_map.2 fun entry hentry =>
        fillsLists_condition e entry.1 (hs entry hentry)
  rw [whereClause]
  split
  · exact fillsLists_nil
  · exact hparts.word (by decide)

theorem fillsLists_source (schema : Option String) {s : Selection}
    (hs : ∀ entry ∈ s.conditions, entry.2.values ≠ []) (distinct : Bool) :
    FillsLists (source schema e s distinct) := by
  have hselect : "(SELECT " ++ (if distinct then "DISTINCT " else "") ≠ " IN (" := by
    cases distinct <;> decide
  have hcolumns := (fillsLists_columnList e).word hselect
  have htable := (fillsLists_table e schema).word (w := " FROM ") (by decide)
  have hwhere := (fillsLists_whereClause e hs).word (w := " " ++ mainAlias) (by decide)
  exact ((hcolumns.append htable).append hwhere).append (.word (by decide) fillsLists_nil)

theorem fillsLists_includeColumn (schema : Option String) (i : Include) :
    FillsLists (includeColumn schema i) := by
  have hrows : FillsLists (columnList i.target ++ .word " FROM " :: table schema i.target ++
      .word " WHERE " :: .name i.relation.remoteColumn :: .word " = " ::
        mainColumn i.relation.localColumn) :=
    ((fillsLists_columnList _).append ((fillsLists_table _ schema).word (by decide))).append
      (.word (by decide) (.name _ (.word (by decide) (fillsLists_mainColumn _))))
  have hname : FillsLists [.word " AS ", .name i.relation.name] :=
    .word (by decide) (.name _ fillsLists_nil)
  rw [includeColumn]
  split
  · exact ((hrows.word (by decide)).append (.word (by decide) fillsLists_nil)).append hname
  · exact ((hrows.word (by decide)).append (.word (by decide) fillsLists_nil)).append hname

theorem fillsLists_orderClause (keys : List SortKey) : FillsLists (orderClause keys) := by
  rw [orderClause]
  split
  · exact fillsLists_nil
  · refine .word (by decide) (.joined (by decide) (List.forall_mem_map.2 fun k _ => ?_))
    refine (fillsLists_mainColumn k.field).append (.word ?_ fillsLists_nil)
    cases k.direction <;> decide

/-- A word and a number are no beginning of a list if the word is not. -/
theorem append_repr_ne {w : String} (hw : ¬w.toList <+: " IN (".toList) (n : Nat) :
    w ++ Nat.repr n ≠ " IN (" := by
  intro h
  refine hw ⟨(Nat.repr n).toList, ?_⟩
  rw [← String.toList_append, h]

/-- No list of values is empty in the statement for a page. -/
theorem fillsLists_select (schema : Option String) {s : Selection}
    (hs : ∀ entry ∈ s.conditions, entry.2.values ≠ []) (keys : List SortKey) (limit : Option Nat)
    (offset : Nat) (distinct : Bool) (includes : List Include) :
    FillsLists (select schema e s keys limit offset distinct includes) := by
  have hlimit : FillsLists (limitClause limit) := by
    cases limit with
    | none => exact fillsLists_nil
    | some n => exact .word (append_repr_ne (by decide) n) fillsLists_nil
  have hoffset : FillsLists (offsetClause offset) := by
    rw [offsetClause]
    split
    · exact fillsLists_nil
    · exact .word (append_repr_ne (by decide) offset) fillsLists_nil
  have hcolumns : FillsLists (joined ", " ([.word (mainAlias ++ ".*")] ::
      includes.map (includeColumn schema))) := by
    refine .joined (by decide) (List.forall_mem_cons.2 ⟨.word (by decide) fillsLists_nil, ?_⟩)
    exact List.forall_mem_map.2 fun i _ => fillsLists_includeColumn schema i
  have hsource := (fillsLists_source e schema hs distinct).word (w := " FROM ") (by decide)
  exact ((((hcolumns.word (by decide)).append hsource).append (fillsLists_orderClause keys)).append
    hlimit).append hoffset

/-- No list of values is empty in the statement for the number of rows. -/
theorem fillsLists_count (schema : Option String) {s : Selection}
    (hs : ∀ entry ∈ s.conditions, entry.2.values ≠ []) (distinct : Bool) :
    FillsLists (count schema e s distinct) := by
  have hcount : FillsLists [.word "SELECT COUNT(*) AS ", .name "count", .word " FROM "] :=
    .word (by decide) (.name _ (.word (by decide) fillsLists_nil))
  exact hcount.append (fillsLists_source e schema hs distinct)

end Sql

end Depot
