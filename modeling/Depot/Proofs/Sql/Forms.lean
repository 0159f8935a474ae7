import Mathlib.Data.List.Forall2
import Depot.Proofs.Json.Fields
import Depot.Sql.Query

/-!
# Statements show no values

The form of a statement is what is left of it without its values. Text and number of parameters
depend on the form only, and the form of a statement for an entity depends on little of what a
request says: on the fields that its conditions are about, on the kinds of these conditions, and
on which fields of a record are there. Values only ever travel as parameters.

Results:
* `text_eq_of_form_eq`, `length_params_eq_of_form_eq`: what a statement's form determines.
* `form_select`, `form_count`, `form_insert`, `form_update`, `form_delete`: what determines the
  form of a statement.
* `shows_no_values`: requests that differ in values only have statements of the same text and
  with as many parameters.
-/

namespace Depot

/-! ## Forms -/

/-- A piece with its value left out. -/
def Piece.blank : Piece → Piece
  | .word s => .word s
  | .name s => .name s
  | .value _ cast => .value .null cast

namespace Statement

/-- A statement with its values left out. -/
def form (s : Statement) : Statement := s.map Piece.blank

variable {s t : Statement}

@[simp] theorem form_nil : form [] = [] := rfl

@[simp] theorem form_word (w : String) (s : Statement) :
    form (.word w :: s) = .word w :: form s := rfl

@[simp] theorem form_name (n : String) (s : Statement) :
    form (.name n :: s) = .name n :: form s := rfl

@[simp] theorem form_value (v : Json) (cast : String) (s : Statement) :
    form (.value v cast :: s) = .value .null cast :: form s := rfl

@[simp] theorem form_append (s t : Statement) : form (s ++ t) = form s ++ form t :=
  List.map_append

theorem form_joined (between : String) (ss : List Statement) :
    form (joined between ss) = joined between (ss.map form) := by
  induction ss with
  | nil => rfl
  | cons s ss ih =>
    cases ss with
    | nil => rfl
    | cons t ss =>
      show form (s ++ .word between :: joined between (t :: ss)) =
        form s ++ .word between :: joined between ((t :: ss).map form)
      rw [form_append, form_word, ih]

theorem charsFrom_form (n : Nat) (s : Statement) : charsFrom n s.form = charsFrom n s := by
  induction s generalizing n with
  | nil => rfl
  | cons p s ih => cases p <;> simp [charsFrom, ih]

theorem length_params_form (s : Statement) : s.form.params.length = s.params.length := by
  induction s with
  | nil => rfl
  | cons p s ih => cases p <;> simp [params, ih]

theorem text_eq_of_form_eq (h : s.form = t.form) : s.text = t.text := by
  rw [text, text, ← charsFrom_form 1 s, ← charsFrom_form 1 t, h]

theorem length_params_eq_of_form_eq (h : s.form = t.form) :
    s.params.length = t.params.length := by
  rw [← length_params_form s, ← length_params_form t, h]

/-- Two statements with the same text and with as many parameters. -/
structure SameText (s t : Statement) : Prop where
  text : s.text = t.text
  params : s.params.length = t.params.length

theorem sameText_of_form_eq (h : s.form = t.form) : SameText s t :=
  ⟨text_eq_of_form_eq h, length_params_eq_of_form_eq h⟩

end Statement

/-! ## Conditions that differ in operands -/

/-- Two conditions of one kind, whose operands may differ, except that an equality with null is
    not one with a value, and that choices have the same number of operands. -/
inductive Condition.Alike : Condition → Condition → Prop
  | eq {v w : Json} (h : v.isNull = w.isNull) : Alike (.eq v) (.eq w)
  | ne {v w : Json} (h : v.isNull = w.isNull) : Alike (.ne v) (.ne w)
  | gt (v w : Json) : Alike (.gt v) (.gt w)
  | lt (v w : Json) : Alike (.lt v) (.lt w)
  | range (low high low' high' : Json) : Alike (.range low high) (.range low' high')
  | like (p q : String) : Alike (.like p) (.like q)
  | oneOf {vs ws : List Json} (h : vs.length = ws.length) : Alike (.oneOf vs) (.oneOf ws)

/-- Two selections with equalities on the same fields, of which the same ones are with null, and
    with conditions that are alike on the same fields in the same order. -/
structure Selection.Alike (s t : Selection) : Prop where
  fields : ∀ column, (s.fields.field? column).map Json.isNull =
    (t.fields.field? column).map Json.isNull
  conditions : List.Forall₂ (fun c d => c.1 = d.1 ∧ c.2.Alike d.2) s.conditions t.conditions

/-- Records in order that hold null and other values for the same keys have them in the same
    places. -/
theorem Fields.Sorted.nulls_eq {r s : Record} (hr : r.Sorted) (hs : s.Sorted)
    (h : ∀ k, (r.field? k).map Json.isNull = (s.field? k).map Json.isNull) :
    r.map (fun f => (f.1, f.2.isNull)) = s.map (fun f => (f.1, f.2.isNull)) := by
  have hfield : ∀ (t : Record) (k : String),
      field? (t.map fun f => (f.1, f.2.isNull)) k = (t.field? k).map Json.isNull := by
    intro t k
    induction t with
    | nil => rfl
    | cons f t ih =>
      rw [List.map_cons, field?_cons, field?_cons, ih]
      split <;> rfl
  refine ext_of_sorted (List.pairwise_map.2 hr) (List.pairwise_map.2 hs) fun k => ?_
  rw [hfield, hfield, h]

namespace Sql

open Statement

variable {e : Entity} {s t : Selection} {r r' : Record}

@[simp] theorem form_mainColumn (column : String) :
    form (mainColumn column) = mainColumn column := rfl

/-- Placeholders in a row only show how many they are. -/
theorem form_bounds (e : Entity) (column : String) {vs ws : List Json}
    (h : vs.length = ws.length) :
    (vs.map fun v => form [bound e column v]) = ws.map fun w => form [bound e column w] := by
  have hnull : ∀ us : List Json,
      (us.map fun u => form [bound e column u]) =
        List.replicate us.length (form [bound e column .null]) :=
    fun us => List.eq_replicate_iff.2 ⟨List.length_map _, fun _ hm => by
      obtain ⟨u, -, rfl⟩ := List.mem_map.1 hm
      rfl⟩
  rw [hnull, hnull, h]

theorem form_condition (e : Entity) (column : String) {c d : Condition} (h : c.Alike d) :
    form (condition e column c) = form (condition e column d) := by
  cases h with
  | eq h => rename_i v w; cases v <;> cases w <;> first | rfl | cases h
  | ne h => rename_i v w; cases v <;> cases w <;> first | rfl | cases h
  | gt v w => rfl
  | lt v w => rfl
  | range low high low' high' => rfl
  | like p q => rfl
  | oneOf h =>
    rename_i vs ws
    simp only [condition, form_append, form_word, form_joined, List.map_map, Function.comp_def]
    rw [form_bounds e column h]

theorem form_conditions (hs : s.fields.Sorted) (ht : t.fields.Sorted) (h : s.Alike t) :
    (conditions e s).map form = (conditions e t).map form := by
  have hfields : ∀ u : Selection,
      (u.fields.map fun f => form (condition e f.1 (.eq f.2))) =
        (u.fields.map fun f => (f.1, f.2.isNull)).map fun f =>
          form (condition e f.1 (.eq (if f.2 then .null else .bool true))) := by
    intro u
    rw [List.map_map]
    refine List.map_congr_left fun f _ => form_condition e f.1 (.eq ?_)
    show f.2.isNull = (if f.2.isNull then Json.null else .bool true).isNull
    cases f.2 <;> rfl
  have hconditions : (s.conditions.map fun c => form (condition e c.1 c.2)) =
      t.conditions.map fun c => form (condition e c.1 c.2) := by
    rw [← List.forall₂_eq_eq_eq, List.forall₂_map_left_iff, List.forall₂_map_right_iff]
    refine h.conditions.imp fun c d hcd => ?_
    rw [hcd.1, form_condition e d.1 hcd.2]
  simp only [conditions, List.map_append, List.map_map, Function.comp_def]
  rw [hfields s, hs.nulls_eq ht h.fields, ← hfields t, hconditions]

theorem form_whereClause (hs : s.fields.Sorted) (ht : t.fields.Sorted) (h : s.Alike t) :
    form (whereClause e s) = form (whereClause e t) := by
  have hparts : (conditions e s).map form = (conditions e t).map form := form_conditions hs ht h
  have hempty : (conditions e s).isEmpty = (conditions e t).isEmpty := by
    rw [← List.isEmpty_map (f := form), hparts, List.isEmpty_map]
  simp only [whereClause, hempty]
  split
  · rfl
  · rw [form_word, form_word, form_joined, form_joined, hparts]

theorem form_source (schema : Option String) (distinct : Bool) (hs : s.fields.Sorted)
    (ht : t.fields.Sorted) (h : s.Alike t) :
    form (source schema e s distinct) = form (source schema e t distinct) := by
  simp only [source, form_append, form_word, List.cons_append, form_whereClause hs ht h]

/-! ## The statements -/

theorem form_select (schema : Option String) (keys : List SortKey) (limit : Option Nat)
    (offset : Nat) (distinct : Bool) (includes : List Include) (hs : s.fields.Sorted)
    (ht : t.fields.Sorted) (h : s.Alike t) :
    form (select schema e s keys limit offset distinct includes) =
      form (select schema e t keys limit offset distinct includes) := by
  simp only [select, form_append, form_word, List.cons_append,
    form_source schema distinct hs ht h]

theorem form_count (schema : Option String) (distinct : Bool) (hs : s.fields.Sorted)
    (ht : t.fields.Sorted) (h : s.Alike t) :
    form (count schema e s distinct) = form (count schema e t distinct) := by
  simp only [count, form_append, form_source schema distinct hs ht h]

theorem form_keyPredicate (e : Entity) (r r' : Record) :
    form (keyPredicate e r) = form (keyPredicate e r') := by
  simp only [keyPredicate, form_joined, List.map_map, Function.comp_def]
  rfl

theorem form_insert (schema : Option String)
    (h : ∀ c ∈ e.columns, c.hasDefault = true →
      (r.get c.name).isNull = (r'.get c.name).isNull) :
    form (insert schema e r) = form (insert schema e r') := by
  have hcolumns : insertedColumns e r = insertedColumns e r' := by
    refine List.filter_congr fun c hc => ?_
    cases hdefault : c.hasDefault with
    | false => rfl
    | true => rw [h c hc hdefault]
  simp only [insert, hcolumns]
  split
  · rfl
  · simp only [form_append, form_word, List.cons_append, form_joined, List.map_map,
      Function.comp_def]
    rfl

theorem form_assignments (h : ∀ c ∈ e.columns, r.has c.name = r'.has c.name) :
    (assignments e r).map form = (assignments e r').map form := by
  have hgiven : (e.columns.filter fun c => !e.primaryKey.contains c.name && r.has c.name) =
      e.columns.filter fun c => !e.primaryKey.contains c.name && r'.has c.name :=
    List.filter_congr fun c hc => by rw [h c hc]
  have htime : (e.hasColumn "updated_at" && !r.has "updated_at") =
      (e.hasColumn "updated_at" && !r'.has "updated_at") := by
    cases hcolumn : e.hasColumn "updated_at" with
    | false => rfl
    | true =>
      obtain ⟨c, hc⟩ := Option.isSome_iff_exists.1 hcolumn
      have hname : c.name = "updated_at" := by simpa using List.find?_some hc
      rw [← hname, h c (List.mem_of_find?_eq_some hc)]
  simp only [assignments, hgiven, htime]
  split <;> simp only [List.map_append, List.map_map, Function.comp_def] <;> rfl

theorem form_update (schema : Option String)
    (h : ∀ c ∈ e.columns, r.has c.name = r'.has c.name) :
    form (update schema e r) = form (update schema e r') := by
  have hsets : (assignments e r).map form = (assignments e r').map form := form_assignments h
  have hempty : (assignments e r).isEmpty = (assignments e r').isEmpty := by
    rw [← List.isEmpty_map (f := form), hsets, List.isEmpty_map]
  simp only [update, hempty]
  split <;> simp only [form_append, form_word, List.cons_append, form_joined, hsets,
    form_keyPredicate e r r']

theorem form_delete (schema : Option String) (e : Entity) (r r' : Record) :
    form (delete schema e r) = form (delete schema e r') := by
  simp only [delete, form_append, form_word, List.cons_append, form_keyPredicate e r r']

/-- No value of a request shows in a statement: selections that are alike, and records in which
    the same fields matter, have statements of the same text with as many parameters. -/
theorem shows_no_values (e : Entity) (schema : Option String) :
    (∀ (s t : Selection) (keys : List SortKey) (limit : Option Nat) (offset : Nat)
        (distinct : Bool) (includes : List Include),
      s.fields.Sorted → t.fields.Sorted → s.Alike t →
        SameText (select schema e s keys limit offset distinct includes)
          (select schema e t keys limit offset distinct includes) ∧
        SameText (count schema e s distinct) (count schema e t distinct)) ∧
    (∀ r r' : Record,
      (∀ c ∈ e.columns, c.hasDefault = true →
        (r.get c.name).isNull = (r'.get c.name).isNull) →
        SameText (insert schema e r) (insert schema e r')) ∧
    (∀ r r' : Record, (∀ c ∈ e.columns, r.has c.name = r'.has c.name) →
      SameText (update schema e r) (update schema e r')) ∧
    ∀ r r' : Record, SameText (delete schema e r) (delete schema e r') := by
  refine ⟨fun s t keys limit offset distinct includes hs ht h => ⟨?_, ?_⟩,
    fun r r' h => ?_, fun r r' h => ?_, fun r r' => ?_⟩
  · exact sameText_of_form_eq (form_select schema keys limit offset distinct includes hs ht h)
  · exact sameText_of_form_eq (form_count schema distinct hs ht h)
  · exact sameText_of_form_eq (form_insert schema h)
  · exact sameText_of_form_eq (form_update schema h)
  · exact sameText_of_form_eq (form_delete schema e r r')

end Sql

/-! ## Parcels -/

namespace Parcels

/-- Parcels have a weight, which is zero by default, and keep the time of their last change. -/
def entity : Entity :=
  ⟨"parcel", "public", "parcel", ["id"],
    [⟨"id", some .text, false, false, "text"⟩, ⟨"weight", none, false, true, "numeric"⟩,
      ⟨"updated_at", none, true, false, "timestamptz"⟩], [], []⟩

/-- The parcels of an id that have one of two weights. -/
def selection (id low high : String) : Selection :=
  ⟨[("id", .str id)], [("weight", .oneOf [.str low, .str high])]⟩

/-- A parcel as a request gives it. -/
def record (id weight : String) : Record := [("id", .str id), ("weight", .str weight)]

theorem sorted_selection (id low high : String) : (selection id low high).fields.Sorted :=
  List.pairwise_singleton _ _

theorem alike_selection (id low high id' low' high' : String) :
    (selection id low high).Alike (selection id' low' high') where
  fields := fun column => by
    show ((if "id" = column then some (Json.str id) else none).map Json.isNull) =
      (if "id" = column then some (Json.str id') else none).map Json.isNull
    split <;> rfl
  conditions := .cons ⟨rfl, .oneOf rfl⟩ .nil

end Parcels

open Parcels in
/-- A value that would end a text of the language changes no statement. -/
theorem shows_no_values_parcels :
    (Sql.count none entity (selection "1" "2" "3") false).SameText
        (Sql.count none entity (selection "' OR 1 = 1 --" "$1" "\"") false) ∧
      (Sql.insert none entity (record "1" "2")).SameText
        (Sql.insert none entity (record "'); DROP TABLE" "$9")) ∧
      (Sql.update none entity (record "1" "2")).SameText
        (Sql.update none entity (record "'; DROP TABLE" "\"")) := by
  obtain ⟨hselect, hinsert, hupdate, -⟩ := Sql.shows_no_values entity none
  refine ⟨(hselect _ _ [] none 0 false [] (sorted_selection _ _ _) (sorted_selection _ _ _)
    (alike_selection _ _ _ _ _ _)).2, hinsert _ _ ?_, hupdate _ _ ?_⟩
  · decide +kernel
  · decide +kernel

end Depot
