import Depot.Proofs.Json.Fields
import Depot.Proofs.Model.Resolved
import Depot.Store.Transaction

/-!
# Rows with populated relations

A populated relation stands in a row under its own name, which is not that of a column. So
populating leaves the columns of a row as they are, and each relation is read off the row as it is
stored.

* `Entity.IsUnshadowed`: the relations of an entity join its columns and have other names.
* `Transaction.populated`: a row with populated relations.
* `Transaction.IsPopulated`: a record that is a row with populated relations.

Results:
* `populate_eq_ok_iff`: rows are populated one by one, with relations that the entity has.
* `field?_populated`: a populated row differs from the row in the named relations only.
* `isPopulated_populated`, `isPopulated_of_populate`: what populating a row returns.
* `findOne_eq_ok`, `findOne_of_find?`: what a search without conditions returns.
-/

namespace Depot

/-- The relations of an entity start from columns of it, and none has the name of a column. -/
def Entity.IsUnshadowed (e : Entity) : Prop :=
  ∀ r ∈ e.relations, e.hasColumn r.localColumn = true ∧ e.hasColumn r.name = false

theorem Model.IsConsistent.isUnshadowed {m : Model} (h : m.IsConsistent) {e : Entity}
    (he : e ∈ m.entities) : e.IsUnshadowed :=
  fun r hr => ⟨(h.relation e he r hr).localColumn, (h.relation e he r hr).name⟩

theorem Entity.IsUnshadowed.name_ne {e : Entity} (he : e.IsUnshadowed) {r : Relation}
    (hr : r ∈ e.relations) {k : String} (hk : e.hasColumn k = true) : r.name ≠ k := by
  rintro rfl
  exact Bool.false_ne_true ((he r hr).2.symm.trans hk)

namespace Transaction

variable {tx : Transaction} {e : Entity} {p record : Record} {names : List String}

/-! ## One row after the other -/

/-- A row with one relation under its name, if the entity has it. -/
def withRelation (tx : Transaction) (e : Entity) (row : Record) (name : String) : Record :=
  match e.relation? name with
  | some r => row.put r.name (tx.relatedJson r row)
  | none => row

/-- A row with relations under their names. -/
def populated (tx : Transaction) (e : Entity) (names : List String) (row : Record) : Record :=
  names.foldl (tx.withRelation e) row

theorem populate_eq_ok_iff {rows out : List Record} :
    tx.populate e rows names = .ok out ↔
      (∀ name ∈ names, (e.relation? name).isSome) ∧ out = rows.map (tx.populated e names) := by
  induction names generalizing rows with
  | nil =>
    have hid : rows.map (tx.populated e []) = rows := List.map_id rows
    rw [populate, Except.ok.injEq, hid]
    refine ⟨fun h => ⟨?_, h.symm⟩, fun h => h.2.symm⟩
    intro name hname
    cases hname
  | cons n names ih =>
    rw [populate]
    cases hn : e.relation? n with
    | none => simp [hn]
    | some r =>
      have hstep : (fun row : Record => row.put r.name (tx.relatedJson r row)) =
          fun row => tx.withRelation e row n := by
        funext row
        simp only [withRelation, hn]
      simp only [ih, hstep, List.map_map, List.forall_mem_cons, hn, Option.isSome_some, true_and]
      rfl

theorem field?_withRelation (tx : Transaction) (e : Entity) (row : Record) (name k : String) :
    (tx.withRelation e row name).field? k =
      if name = k then ((e.relation? name).map (tx.relatedJson · row)).or (row.field? k)
      else row.field? k := by
  rw [withRelation]
  cases hr : e.relation? name with
  | none => simp
  | some r => simp [Fields.field?_put, (relation?_mem hr).2]

theorem field?_populated {k : String} (hk : k ∉ names) :
    (tx.populated e names p).field? k = p.field? k := by
  induction names generalizing p with
  | nil => rfl
  | cons n names ih =>
    rw [List.mem_cons, not_or] at hk
    have hrest := ih (p := tx.withRelation e p n) hk.2
    rw [field?_withRelation, if_neg (Ne.symm hk.1)] at hrest
    exact hrest

theorem sorted_populated (hp : p.Sorted) : (tx.populated e names p).Sorted := by
  induction names generalizing p with
  | nil => exact hp
  | cons n names ih =>
    apply ih (p := tx.withRelation e p n)
    rw [withRelation]
    split
    · exact Fields.sorted_put hp _ _
    · exact hp

/-- A relation does not have the name of a column, so that populating it leaves columns alone. -/
theorem field?_withRelation_of_hasColumn (he : e.IsUnshadowed) {k : String}
    (hk : e.hasColumn k = true) (row : Record) (name : String) :
    (tx.withRelation e row name).field? k = row.field? k := by
  rw [field?_withRelation]
  by_cases hname : name = k
  · have hnone : e.relation? name = none := by
      cases hr : e.relation? name with
      | none => rfl
      | some r =>
        obtain ⟨hmem, hr⟩ := relation?_mem hr
        exact absurd (hr.trans hname) (he.name_ne hmem hk)
    rw [if_pos hname, hnone]
    rfl
  · rw [if_neg hname]

/-! ## A populated row -/

/-- A record that is a stored row with relations under their names. -/
structure IsPopulated (tx : Transaction) (e : Entity) (p record : Record) (names : List String) :
    Prop where
  others : ∀ k, k ∉ names → record.field? k = p.field? k
  columns : ∀ k, e.hasColumn k = true → record.field? k = p.field? k
  sorted : p.Sorted → record.Sorted
  relation : ∀ name ∈ names, ∀ r, e.relation? name = some r →
    record.field? name = some (tx.relatedJson r p)

theorem relatedJson_congr {r : Relation} {q : Record}
    (h : q.field? r.localColumn = p.field? r.localColumn) :
    tx.relatedJson r q = tx.relatedJson r p := by
  have hget : q.get r.localColumn = p.get r.localColumn := by rw [Record.get, h, Record.get]
  have hrelated : tx.related r q = tx.related r p := by
    simp only [related]
    rw [hget]
  rw [relatedJson, hrelated, relatedJson]

theorem isPopulated_populated (he : e.IsUnshadowed) (tx : Transaction) (p : Record)
    (names : List String) : tx.IsPopulated e p (tx.populated e names p) names := by
  induction names generalizing p with
  | nil =>
    refine ⟨fun _ _ => rfl, fun _ _ => rfl, id, ?_⟩
    intro name hname
    cases hname
  | cons n names ih =>
    have hrest := ih (tx.withRelation e p n)
    refine ⟨fun k hk => field?_populated hk, ?_, sorted_populated, ?_⟩
    · intro k hk
      exact (hrest.columns k hk).trans (field?_withRelation_of_hasColumn he hk p n)
    · intro name hmem r hr
      by_cases hin : name ∈ names
      · refine (hrest.relation name hin r hr).trans (congrArg some ?_)
        have hlocal := (he r (relation?_mem hr).1).1
        exact relatedJson_congr (field?_withRelation_of_hasColumn he hlocal p n)
      · obtain rfl : name = n := (List.mem_cons.1 hmem).resolve_right hin
        refine (hrest.others name hin).trans ?_
        rw [field?_withRelation, if_pos rfl, hr]
        rfl

theorem isPopulated_of_populate (he : e.IsUnshadowed) {record : Record}
    (h : tx.populate e [p] names = .ok [record]) : tx.IsPopulated e p record names := by
  rw [List.singleton_inj.1 (populate_eq_ok_iff.1 h).2]
  exact isPopulated_populated he tx p names

/-- Populating a row does not change what is stored of it. -/
theorem IsPopulated.columnFields (h : tx.IsPopulated e p record names) (hp : p.Sorted) :
    e.columnFields record = e.columnFields p := by
  rw [Entity.columnFields, Entity.columnFields]
  refine Fields.ext_of_sorted (Fields.sorted_restrict (h.sorted hp) _)
    (Fields.sorted_restrict hp _) fun k => ?_
  rw [Fields.field?_restrict, Fields.field?_restrict]
  by_cases hk : e.hasColumn k = true
  · rw [if_pos hk, if_pos hk, h.columns k hk]
  · rw [if_neg hk, if_neg hk]

theorem length_populate {rows rows' : List Record}
    (h : tx.populate e rows names = .ok rows') : rows'.length = rows.length := by
  rw [(populate_eq_ok_iff.1 h).2, List.length_map]

theorem findOne_eq_ok {s : Selection} (hs : s.conditions = [])
    (h : tx.findOne e s names = .ok (some record)) :
    ∃ p, (tx.working.rows e.name).find? s.selects = some p ∧
      tx.populate e [p] names = .ok [record] := by
  have hsound : s.isSound = true := by
    rw [Selection.isSound, hs]
    rfl
  obtain ⟨matched, hmatched, h⟩ := bind_eq_ok_iff.1 h
  rw [matching_of_isSound tx e hsound, Except.ok.injEq] at hmatched
  obtain ⟨rows, hrows, hhead⟩ := bind_eq_ok_iff.1 h
  rw [Except.ok.injEq] at hhead
  subst hmatched
  have hlength := length_populate hrows
  obtain ⟨rest, rfl⟩ := List.head?_eq_some_iff.1 hhead
  cases hf : (tx.working.rows e.name).filter s.selects with
  | nil =>
    rw [hf] at hlength
    cases hlength
  | cons p found =>
    rw [hf] at hlength hrows
    have hrest : rest = [] := List.length_eq_zero_iff.1 (Nat.succ.inj hlength)
    rw [hrest] at hrows
    refine ⟨p, ?_, hrows⟩
    rw [← List.head?_filter, hf]
    rfl

theorem findOne_of_find? {s : Selection} (hs : s.conditions = [])
    (hp : (tx.working.rows e.name).find? s.selects = some p)
    (hnames : ∀ name ∈ names, (e.relation? name).isSome) :
    tx.findOne e s names = .ok (some (tx.populated e names p)) := by
  have hsound : s.isSound = true := by
    rw [Selection.isSound, hs]
    rfl
  have hfirst : ((tx.working.rows e.name).filter s.selects).take 1 = [p] := by
    rw [List.take_one, List.head?_filter, hp]
    rfl
  have hpopulate : tx.populate e [p] names = .ok [tx.populated e names p] :=
    populate_eq_ok_iff.2 ⟨hnames, rfl⟩
  rw [findOne, matching_of_isSound tx e hsound]
  show (tx.populate e (List.take 1 _) names >>= _) = _
  rw [hfirst, hpopulate]
  rfl

end Transaction

end Depot
