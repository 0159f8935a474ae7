import Depot.Proofs.Controller.Plans
import Depot.Proofs.Store.InPlace
import Mathlib.Data.List.Perm.Subperm

/-!
# Collections that are what a list says

Once a list of elements has replaced the rows that are attached to a parent's key, these rows are
what the elements say: each is named by one element and holds its fields. If the list replaces them
again, every row takes the fields that it has, none goes, and none is new. So nothing changes but
the time of the change. The elements must have keys of their own, since the store makes up another
key each time, and must not refer to another parent.

* `Entity.IsNamed`: an element with a key of its own.
* `Entity.Reflects`: a row that holds the fields of an element.
* `Entity.IsSettled`: rows that are what the elements say.

Results:
* `Reflects.untimed_rewritten`: a row that takes the fields that it holds stays as it is.
* `isSettled_of_isStaged`: the rows are what the elements say once these have replaced them.
* `IsSettled.exists_reconcile`: a second time there is nothing to create and nothing to remove.
* `IsSettled.untimed_eq`: a second time every row stays as it is.
-/

namespace Depot

open Controller (withForeignKey)

/-- A row without the time of its last change. -/
def untimed (row : Record) : Record := row.without updatedAt

theorem untimed_congr {r s : Record} (hr : r.Sorted) (hs : s.Sorted)
    (h : ∀ k, k ≠ updatedAt → r.field? k = s.field? k) : untimed r = untimed s := by
  refine Fields.ext_of_sorted (Fields.sorted_without hr _) (Fields.sorted_without hs _) fun k => ?_
  rw [untimed, untimed, Fields.field?_without, Fields.field?_without]
  by_cases hk : updatedAt = k
  · rw [if_pos hk, if_pos hk]
  · rw [if_neg hk, if_neg hk, h k (Ne.symm hk)]

/-- An element that refers to no other value than `v`, and has a complete key. -/
structure Entity.IsNamed (e : Entity) (column : String) (v : Json) (a : Record) : Prop where
  reference : a.field? column = none ∨ a.field? column = some v
  complete : (elementKey? e column v a).isSome = true

/-- A row that refers to `v` and holds the fields of an element, but for the time of the change. -/
structure Entity.Reflects (e : Entity) (column : String) (v : Json) (a row : Record) : Prop where
  reference : row.field? column = some v
  fields : ∀ k x, e.hasColumn k = true → k ≠ column → k ≠ updatedAt → a.field? k = some x →
    row.field? k = some x

variable {e : Entity} {column : String} {v : Json} {row a : Record}

/-! ## Rows that take fields -/

theorem field?_rewritten (ha : a.Sorted) (stamp : Stamp) {k : String} (hk : k ≠ updatedAt) :
    (rewritten e column v stamp row a).field? k = if column = k then some v
      else (if e.hasColumn k then a.field? k else none).or (row.field? k) := by
  have hmerged : Fields.field? ((row.overlay (e.columnFields a)).put column v) k =
      if column = k then some v
      else (if e.hasColumn k then a.field? k else none).or (row.field? k) := by
    rw [Fields.field?_put, field?_overlay_columnFields ha]
  simp only [rewritten]
  by_cases htime : e.hasColumn updatedAt = true
  · rw [if_pos htime, Fields.field?_put, if_neg (Ne.symm hk), hmerged]
  · rw [if_neg htime, hmerged]

theorem sorted_rewritten (hrow : row.Sorted) (stamp : Stamp) :
    (rewritten e column v stamp row a).Sorted := by
  have hmerged : Fields.Sorted ((row.overlay (e.columnFields a)).put column v) :=
    Fields.sorted_put (Fields.sorted_overlay hrow _) _ _
  simp only [rewritten]
  by_cases htime : e.hasColumn updatedAt = true
  · rw [if_pos htime]
    exact Fields.sorted_put hmerged _ _
  · rw [if_neg htime]
    exact hmerged

/-- A row that takes the fields of an element holds them. -/
theorem reflects_rewritten (hcolumn : column ≠ updatedAt) (ha : a.Sorted) (stamp : Stamp) :
    e.Reflects column v a (rewritten e column v stamp row a) where
  reference := by rw [field?_rewritten ha stamp hcolumn, if_pos rfl]
  fields := by
    intro k x hk hne htime hx
    rw [field?_rewritten ha stamp htime, if_neg (Ne.symm hne), if_pos hk, hx, Option.some_or]

/-- A row that takes the fields of an element which it holds stays as it is. -/
theorem Entity.Reflects.untimed_rewritten (h : e.Reflects column v a row) (hrow : row.Sorted)
    (ha : a.Sorted) (stamp : Stamp) :
    untimed (rewritten e column v stamp row a) = untimed row := by
  refine untimed_congr (sorted_rewritten hrow stamp) hrow fun k htime => ?_
  rw [field?_rewritten ha stamp htime]
  by_cases hcolumn : column = k
  · rw [if_pos hcolumn, ← hcolumn, h.reference]
  · rw [if_neg hcolumn]
    by_cases hk : e.hasColumn k = true
    · rw [if_pos hk]
      cases hx : a.field? k with
      | none => rw [Option.none_or]
      | some x => rw [Option.some_or, h.fields k x hk (Ne.symm hcolumn) htime hx]
    · rw [if_neg hk, Option.none_or]

/-! ## New rows -/

theorem Entity.IsNamed.field?_withForeignKey (h : e.IsNamed column v a) :
    (withForeignKey column (some v) a).field? column = some v := by
  show (if a.has column then a else a.put column v).field? column = some v
  rcases h.reference with hnone | hsome
  · rw [if_neg (by rw [Fields.has, hnone]; exact Bool.false_ne_true), Fields.field?_put,
      if_pos rfl]
  · rw [if_pos (by rw [Fields.has, hsome]; rfl), hsome]

/-- What is to be stored of a new row for an element with a key has this key. -/
theorem Entity.IsNamed.key?_newRow (h : e.IsNamed column v a) (ha : a.Sorted)
    (hcolumns : ∀ k ∈ e.primaryKey, e.hasColumn k = true) :
    e.key? (newRow e column v a) = elementKey? e column v a := by
  apply key?_congr
  intro k hk
  by_cases hne : k = column
  · subst hne
    rw [field?_newRow_column (hcolumns k hk), h.field?_withForeignKey]
  · have hpart := ((Entity.key?_isSome_iff e _).1 h.complete).2 k hk
    rw [Depot.field?_withForeignKey (Ne.symm hne)] at hpart ⊢
    cases hx : a.field? k with
    | none => rw [hx] at hpart; cases hpart
    | some x => rw [field?_newRow ha (hcolumns k hk) hne hx]

/-- A new row for an element with a key has this key, and holds the fields of the element. -/
theorem reflects_of_creates {rows : List Record} (hj : e.IsJoined column v rows) (ha : a.Sorted)
    (hnamed : e.IsNamed column v a) {stamps : Stamps} {w : Write}
    (h : Creates e stamps ((e.blank (withForeignKey column (some v) a)).put column v) w) :
    ∃ new, w.row? = some new ∧ e.key? new = elementKey? e column v a ∧
      e.Reflects column v a new := by
  obtain ⟨tx, i, new, key, hfill, -, rfl⟩ := h
  change tx.fillDefaults e (stamps i) (newRow e column v a) = .ok new at hfill
  have hkey := hnamed.key?_newRow ha hj.keyColumns
  have hkept {k : String} {x : Json} (hx : (newRow e column v a).field? k = some x) :
      new.field? k = some x := by
    rw [Transaction.field?_fillDefaults_of_key hfill (hkey ▸ hnamed.complete), hx]
    rw [Fields.has, hx]
    rfl
  refine ⟨new, rfl, ?_, hkept (field?_newRow_column hj.hasColumn), ?_⟩
  · rw [← hkey]
    apply key?_congr
    intro k hk
    have hpart := ((Entity.key?_isSome_iff e _).1 (hkey ▸ hnamed.complete)).2 k hk
    cases hx : (newRow e column v a).field? k with
    | none => rw [hx] at hpart; cases hpart
    | some x => exact hkept hx
  · intro k x hk hne _ hx
    exact hkept (field?_newRow ha hk hne hx)

/-! ## Settled rows -/

/-- Rows of which those that are attached are what elements say: their keys are those of the
    elements, and each row holds the fields of the element of its key. -/
structure Entity.IsSettled (e : Entity) (column : String) (v : Json)
    (rows elements : List Record) : Prop where
  joined : e.IsJoined column v rows
  keys : ((attachedRows column v rows).map e.key?).Perm (elements.map (elementKey? e column v))
  reflects : ∀ row ∈ rows, looseEq (row.get column) v = true → ∀ a ∈ elements,
    elementKey? e column v a = e.key? row → e.Reflects column v a row

section

variable {stamps : Stamps} {n : Nat} {rows elements inserted : List Record}
  {change : Record → Option Record} {changes : Reconciliation Record Record}

/-- Where a row comes from after a replacement: it was not attached, or has taken the fields of an
    element, or is new. -/
theorem IsReplacement.of_mem
    (h : IsReplacement e column v stamps n rows elements change inserted) {new : Record}
    (hnew : new ∈ rows.filterMap change ++ inserted) :
    new ∈ rows ∧ looseEq (new.get column) v = false ∨
      (∃ row ∈ rows, ∃ a ∈ elements, ∃ i, looseEq (row.get column) v = true ∧
        elementKey? e column v a = e.key? row ∧ new = rewritten e column v (stamps i) row a) ∨
      new ∈ inserted := by
  rcases List.mem_append.1 hnew with hnew | hnew
  · obtain ⟨row, hrow, hchange⟩ := List.mem_filterMap.1 hnew
    cases hattached : looseEq (row.get column) v with
    | false =>
      rw [h.others row hrow hattached, Option.some.injEq] at hchange
      subst hchange
      exact .inl ⟨hrow, hattached⟩
    | true =>
      by_cases hnone : ∀ a ∈ elements, elementKey? e column v a ≠ e.key? row
      · rw [h.unmatched row hrow hattached hnone] at hchange
        cases hchange
      · push Not at hnone
        obtain ⟨a, ha, hkey⟩ := hnone
        obtain ⟨i, -, hrewritten⟩ := h.matched row hrow hattached a ha hkey
        rw [hrewritten, Option.some.injEq] at hchange
        exact .inr (.inl ⟨row, hrow, a, ha, i, hattached, hkey, hchange.symm⟩)
  · exact .inr (.inr hnew)

/-- Every row that is attached after a replacement holds the fields of an element of its key, if
    the new rows do. -/
theorem IsReplacement.exists_reflects (hj : e.IsJoined column v rows)
    (helements : ∀ a ∈ elements, a.Sorted)
    (h : IsReplacement e column v stamps n rows elements change inserted)
    (hinserted : ∀ new ∈ inserted, ∃ a ∈ elements, elementKey? e column v a = e.key? new ∧
      e.Reflects column v a new) {new : Record} (hnew : new ∈ rows.filterMap change ++ inserted)
    (hattached : looseEq (new.get column) v = true) :
    ∃ a ∈ elements, elementKey? e column v a = e.key? new ∧ e.Reflects column v a new := by
  rcases h.of_mem hnew with ⟨-, hnot⟩ | ⟨row, hrow, a, ha, i, hold, hkey, rfl⟩ | hnew
  · rw [hattached] at hnot
    cases hnot
  · have hrowSorted := hj.sorted row hrow
    refine ⟨a, ha, ?_, reflects_rewritten hj.columnTime (helements a ha) _⟩
    rw [hkey, ← rewritten_withForeignKey hrowSorted (helements a ha)]
    exact (key?_rewritten hj hrow (sorted_withForeignKey (helements a ha)) hold hkey _).symm
  · exact hinserted new hnew

/-- As many rows are attached as there are elements, and each holds the fields of one. So the keys
    of the elements are those of the rows. -/
theorem isSettled_of_length (hj : e.IsJoined column v rows)
    (hlength : (attachedRows column v rows).length = elements.length)
    (hreflect : ∀ row ∈ rows, looseEq (row.get column) v = true → ∃ a ∈ elements,
      elementKey? e column v a = e.key? row ∧ e.Reflects column v a row) :
    e.IsSettled column v rows elements := by
  have hnodup : ((attachedRows column v rows).map e.key?).Nodup :=
    List.pairwise_map.2 hj.keyed_attachedRows.distinct
  have hsubset : (attachedRows column v rows).map e.key? ⊆
      elements.map (elementKey? e column v) := by
    intro key hkey
    obtain ⟨row, hrow, rfl⟩ := List.mem_map.1 hkey
    obtain ⟨hmem, hattached⟩ := mem_attachedRows.1 hrow
    obtain ⟨a, ha, hsame, -⟩ := hreflect row hmem hattached
    exact List.mem_map.2 ⟨a, ha, hsame⟩
  have hperm := (List.subperm_of_subset hnodup hsubset).perm_of_length_le
    (Nat.le_of_eq (by rw [List.length_map, List.length_map, hlength]))
  refine ⟨hj, hperm, fun row hrow hattached a ha hkey => ?_⟩
  obtain ⟨b, hb, hsame, hb'⟩ := hreflect row hrow hattached
  have hab : a = b := List.inj_on_of_nodup_map (hperm.nodup_iff.1 hnodup) ha hb
    (hkey.trans hsame.symm)
  rw [hab]
  exact hb'

/-- Once elements with keys of their own have replaced the rows that are attached, these are what
    the elements say. -/
theorem isSettled_of_isStaged {relation : Relation} {target : Entity}
    (hj : target.IsJoined relation.remoteColumn v rows) (helements : ∀ a ∈ elements, a.Sorted)
    (hnamed : ∀ a ∈ elements, target.IsNamed relation.remoteColumn v a)
    (hrec : reconcile (attachedRows relation.remoteColumn v rows)
      (elements.map (withForeignKey relation.remoteColumn (some v))) target.key? target.key? =
        .ok changes) {updates inserts removes : List Write}
    (hstaged : (ChildPlan.mk relation target changes).IsStaged v stamps n rows updates inserts
      removes) {rows' : List Record}
    (happly : applyRows target rows (updates ++ (inserts ++ removes)) = .ok rows') :
    target.IsSettled relation.remoteColumn v rows' elements := by
  have hw := isWritten_of_isStaged hj helements hrec hstaged
  have hproper := (areBatches_of_isWritten hj helements hrec hw).isProper
  obtain ⟨change, hrows, hreplacement⟩ := isReplacement_of_isWritten hj helements hrec hw happly
  have hnew : ∀ new ∈ inserts.filterMap Write.row?, ∃ a ∈ elements,
      elementKey? target relation.remoteColumn v a = target.key? new ∧
        target.Reflects relation.remoteColumn v a new := by
    intro new hnew
    obtain ⟨w, hmem, hleft⟩ := List.mem_filterMap.1 hnew
    obtain ⟨row, hrow, hcreates⟩ := exists_of_forall₂_right hstaged.inserts hmem
    obtain ⟨fields, hfields, rfl⟩ := List.mem_map.1 hrow
    obtain ⟨a, ha, rfl⟩ := List.mem_map.1 (toCreate_eq hj hrec ▸ hfields)
    have ha := (List.mem_filter.1 ha).1
    obtain ⟨new', hleft', hkey, hreflect⟩ :=
      reflects_of_creates hj (helements a ha) (hnamed a ha) hcreates
    rw [hleft, Option.some.injEq] at hleft'
    subst hleft'
    exact ⟨a, ha, hkey.symm, hreflect⟩
  have hreflect : ∀ row ∈ rows', looseEq (row.get relation.remoteColumn) v = true →
      ∃ a ∈ elements, elementKey? target relation.remoteColumn v a = target.key? row ∧
        target.Reflects relation.remoteColumn v a row := by
    intro row hrow hattached
    rw [hrows] at hrow
    exact hreplacement.exists_reflects hj helements hnew hrow hattached
  have hj' : target.IsJoined relation.remoteColumn v rows' := by
    refine ⟨isKeyed_applyRows hj.keyed hproper happly, sorted_applyRows hj.sorted hproper happly,
      hj.keyColumns, hj.hasColumn, hj.keyTime, hj.columnTime, hj.notNull, hj.equal, ?_⟩
    intro row hrow hattached
    obtain ⟨a, -, -, hreflects⟩ := hreflect row hrow hattached
    rw [Record.get_of_field? hreflects.reference]
  refine isSettled_of_length hj' ?_ hreflect
  rw [attachedRows, hrows]
  exact length_attached_of_isReplacement hj hrec hreplacement

/-! ## Replacing settled rows -/

/-- A row under an element that names it is under its own key, so that it can be updated. -/
theorem isThere_patched (hj : e.IsJoined column v rows) (helements : ∀ a ∈ elements, a.Sorted)
    (hrec : reconcile (attachedRows column v rows)
      (elements.map (withForeignKey column (some v))) e.key? e.key? = .ok changes)
    {x : Record × Record} (hx : x ∈ changes.toUpdate) :
    e.IsThere rows ((x.1.overlay x.2).put column v) := by
  obtain ⟨hrow, hsorted, hattached, hkey⟩ := of_mem_toUpdate hj helements hrec hx
  obtain ⟨key, hrowKey⟩ := Option.isSome_iff_exists.1 (hj.keyed.complete x.1 hrow)
  refine ⟨?_, x.1, hrow, key, hrowKey, (key?_patched hj hrow hsorted hattached hkey).trans hrowKey⟩
  exact Fields.sorted_restrict
    (Fields.sorted_put (Fields.sorted_overlay (hj.sorted x.1 hrow) _) _ _) _

namespace Entity.IsSettled

/-- Every row that is attached is named by an element. -/
theorem exists_element (h : e.IsSettled column v rows elements) (hrow : row ∈ rows)
    (hattached : looseEq (row.get column) v = true) :
    ∃ a ∈ elements, elementKey? e column v a = e.key? row :=
  List.mem_map.1 (h.keys.subset (List.mem_map_of_mem (mem_attachedRows.2 ⟨hrow, hattached⟩)))

/-- Every element names a row that is attached. -/
theorem exists_row (h : e.IsSettled column v rows elements) (ha : a ∈ elements) :
    ∃ row ∈ rows, looseEq (row.get column) v = true ∧ e.key? row = elementKey? e column v a := by
  obtain ⟨row, hrow, hkey⟩ := List.mem_map.1 (h.keys.symm.subset (List.mem_map_of_mem ha))
  obtain ⟨hmem, hattached⟩ := mem_attachedRows.1 hrow
  exact ⟨row, hmem, hattached, hkey⟩

theorem filter_isNewTo (h : e.IsSettled column v rows elements) :
    elements.filter (isNewTo e column v rows) = [] := by
  rw [List.filter_eq_nil_iff]
  intro a ha hnew
  obtain ⟨row, hrow, hattached, hkey⟩ := h.exists_row ha
  have hnot := List.all_eq_true.1 hnew row hrow
  rw [hattached, hkey, beq_self_eq_true] at hnot
  cases hnot

/-- The elements can replace the rows again, and then there is nothing to create and nothing to
    remove. -/
theorem exists_reconcile (h : e.IsSettled column v rows elements) :
    ∃ changes : Reconciliation Record Record, reconcile (attachedRows column v rows)
      (elements.map (withForeignKey column (some v))) e.key? e.key? = .ok changes ∧
        changes.toCreate = [] ∧ changes.toRemove = [] := by
  have hnodup : (elements.map (elementKey? e column v)).Nodup :=
    h.keys.nodup_iff.1 (List.pairwise_map.2 h.joined.keyed_attachedRows.distinct)
  have hdistinct : (elements.map (withForeignKey column (some v))).Pairwise fun a b =>
      e.key? a ≠ e.key? b :=
    List.pairwise_map.2 (List.pairwise_map.1 hnodup)
  obtain ⟨changes, hrec⟩ :=
    Reconciliation.exists_reconcile (attachedRows column v rows) e.key? hdistinct
  refine ⟨changes, hrec, ?_, ?_⟩
  · rw [toCreate_eq h.joined hrec, h.filter_isNewTo, List.map_nil]
  · rw [List.eq_nil_iff_forall_not_mem]
    intro row hrow
    obtain ⟨⟨hmem, hattached⟩, hnone⟩ := (mem_toRemove_iff h.joined hrec).1 hrow
    obtain ⟨a, ha, hkey⟩ := h.exists_element hmem hattached
    exact hnone a ha hkey

/-- If the elements replace the rows again, every row stays as it is, in its place. -/
theorem untimed_eq (h : e.IsSettled column v rows elements) (helements : ∀ a ∈ elements, a.Sorted)
    (hreplacement : IsReplacement e column v stamps n rows elements change inserted) :
    (rows.filterMap change ++ inserted).map untimed = rows.map untimed := by
  have hnone : inserted = [] := by
    have hcreated := hreplacement.created
    rw [h.filter_isNewTo] at hcreated
    cases hcreated
    rfl
  rw [hnone, List.append_nil, List.map_filterMap, ← List.filterMap_eq_map]
  apply List.filterMap_congr
  intro row hrow
  cases hattached : looseEq (row.get column) v with
  | false =>
    rw [hreplacement.others row hrow hattached]
    rfl
  | true =>
    obtain ⟨a, ha, hkey⟩ := h.exists_element hrow hattached
    obtain ⟨i, -, hchange⟩ := hreplacement.matched row hrow hattached a ha hkey
    rw [hchange]
    exact congrArg some ((h.reflects row hrow hattached a ha hkey).untimed_rewritten
      (h.joined.sorted row hrow) (helements a ha) _)

end Entity.IsSettled

end

end Depot
