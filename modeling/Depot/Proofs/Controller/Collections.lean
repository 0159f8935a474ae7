import Depot.Proofs.Controller.Children
import Depot.Proofs.List
import Depot.Proofs.Reconcile
import Depot.Proofs.Store.Batches
import Depot.Proofs.Store.Defaults

/-!
# Rows that a list of elements replaces

The rows of a target that are attached to a parent's key, and what the writes of a plan make of
them: a row that an element names takes the fields of the element, a row that none names goes, and
each other element is a new row. All rows that remain of these and the new ones are attached.

* `Entity.IsJoined`: rows that refer to a key through a column.
* `rewritten`: a row that takes the fields of an element.
* `Rewrites`, `Inserts`, `IsWritten`: the writes that a plan comes to.
* `IsReplacement`: what becomes of all rows.

Results:
* `key?_patched`, `touch_patched`: a row under an element has its own key, and is `rewritten`.
* `insert_of_creates`: a new instance holds its reference and its own fields.
* `isReplacement_of_isWritten`: the writes of a plan make a replacement.
* `length_attached_of_isReplacement`: as many rows are attached as there are elements.
-/

namespace Depot

open Controller (withForeignKey)

/-! ## Rows and elements -/

/-- Rows that are told apart by their keys, and a value of the column through which they refer to
    it. All of those that do hold it in the same text. -/
structure Entity.IsJoined (e : Entity) (column : String) (v : Json) (rows : List Record) :
    Prop where
  keyed : e.IsKeyed rows
  sorted : ∀ row ∈ rows, row.Sorted
  keyColumns : ∀ k ∈ e.primaryKey, e.hasColumn k = true
  hasColumn : e.hasColumn column = true
  keyTime : updatedAt ∉ e.primaryKey
  columnTime : column ≠ updatedAt
  notNull : v.isNull = false
  equal : looseEq v v = true
  text : ∀ row ∈ rows, looseEq (row.get column) v = true →
    keyPart? (row.get column) = keyPart? v

/-- A row that takes the fields of an element, keeps its reference, and gets the time of the
    change if there is a column for it. -/
def rewritten (e : Entity) (column : String) (v : Json) (stamp : Stamp) (row a : Record) :
    Record :=
  let merged := (row.overlay (e.columnFields a)).put column v
  if e.hasColumn updatedAt then merged.put updatedAt (.str stamp.now) else merged

/-- The key of an element; without a reference of its own it refers to `v`. -/
def elementKey? (e : Entity) (column : String) (v : Json) (a : Record) : Option RowKey :=
  e.key? (withForeignKey column (some v) a)

variable {e : Entity} {column : String} {v : Json} {rows : List Record} {row a : Record}

theorem field?_withForeignKey {k : String} (hk : column ≠ k) :
    (withForeignKey column (some v) a).field? k = a.field? k := by
  show (if a.has column then a else a.put column v).field? k = a.field? k
  by_cases ha : a.has column = true
  · rw [if_pos ha]
  · rw [if_neg ha, Fields.field?_put, if_neg hk]

theorem field?_overlay_columnFields {patch : Record} (hpatch : patch.Sorted) (k : String) :
    (row.overlay (e.columnFields patch)).field? k =
      (if e.hasColumn k then patch.field? k else none).or (row.field? k) := by
  have hsorted : (e.columnFields patch).Sorted := Fields.sorted_restrict hpatch _
  rw [Fields.field?_overlay_of_sorted _ hsorted, Entity.columnFields, Fields.field?_restrict]

theorem sorted_withForeignKey {key : Option Json} (ha : a.Sorted) :
    (withForeignKey column key a).Sorted := by
  cases key with
  | none => exact ha
  | some v =>
    show (if a.has column then a else a.put column v).Sorted
    by_cases hhas : a.has column = true
    · rwa [if_pos hhas]
    · rw [if_neg hhas]
      exact Fields.sorted_put ha _ _

theorem rewritten_withForeignKey (hrow : row.Sorted) (ha : a.Sorted) (stamp : Stamp) :
    rewritten e column v stamp row (withForeignKey column (some v) a) =
      rewritten e column v stamp row a := by
  have hmerged : (row.overlay (e.columnFields (withForeignKey column (some v) a))).put column v =
      (row.overlay (e.columnFields a)).put column v := by
    refine Fields.ext_of_sorted (Fields.sorted_put (Fields.sorted_overlay hrow _) _ _)
      (Fields.sorted_put (Fields.sorted_overlay hrow _) _ _) fun k => ?_
    rw [Fields.field?_put, Fields.field?_put]
    by_cases hk : column = k
    · rw [if_pos hk, if_pos hk]
    · rw [if_neg hk, if_neg hk, field?_overlay_columnFields (sorted_withForeignKey ha),
        field?_overlay_columnFields ha, field?_withForeignKey hk]
  simp only [rewritten, hmerged]

/-- What a row under an element of its key and a reference has in the columns of the key: what the
    row has, but for the reference. -/
theorem text_patched (hcolumns : ∀ k ∈ e.primaryKey, e.hasColumn k = true)
    (hcomplete : (e.key? row).isSome = true) {patch : Record} (hpatch : patch.Sorted)
    (hkey : e.key? patch = e.key? row) {k : String} (hk : k ∈ e.primaryKey) :
    ((e.columnFields ((row.overlay patch).put column v)).field? k).bind keyPart? =
      if column = k then keyPart? v else (row.field? k).bind keyPart? := by
  obtain ⟨key, hrow⟩ := Option.isSome_iff_exists.1 hcomplete
  have htext := text_of_key? (hkey.trans hrow) hrow k hk
  rw [Entity.columnFields, Fields.field?_restrict, if_pos (hcolumns k hk), Fields.field?_put]
  by_cases hcolumn : column = k
  · rw [if_pos hcolumn, if_pos hcolumn, Option.bind_some]
  · rw [if_neg hcolumn, if_neg hcolumn, Fields.field?_overlay_of_sorted _ hpatch, ← htext]
    cases hfield : patch.field? k with
    | some given => rfl
    | none =>
      have hpart := ((Entity.key?_isSome_iff e row).1 hcomplete).2 k hk
      rw [← htext, hfield] at hpart
      cases hpart

/-- A row under an element and a reference has the key that it has if the element has it too. -/
theorem key?_patched (hj : e.IsJoined column v rows) (hrow : row ∈ rows) {patch : Record}
    (hpatch : patch.Sorted) (hattached : looseEq (row.get column) v = true)
    (hkey : e.key? patch = e.key? row) :
    e.key? (e.columnFields ((row.overlay patch).put column v)) = e.key? row := by
  apply key?_congr_text
  intro k hk
  rw [text_patched hj.keyColumns (hj.keyed.complete row hrow) hpatch hkey hk]
  by_cases hcolumn : column = k
  · rw [if_pos hcolumn, ← hcolumn, bind_keyPart?, hj.text row hrow hattached]
  · rw [if_neg hcolumn]

/-- The row that an update of a row under an element leaves. -/
theorem touch_patched (hj : e.IsJoined column v rows) (hrow : row.Sorted) {patch : Record}
    (hpatch : patch.Sorted) (stamp : Stamp) :
    Transaction.touch e stamp row (e.columnFields ((row.overlay patch).put column v)) =
      rewritten e column v stamp row patch := by
  have hunder : ((row.overlay patch).put column v).Sorted :=
    Fields.sorted_put (Fields.sorted_overlay hrow _) _ _
  have hmerged : row.overlay (e.columnFields ((row.overlay patch).put column v)) =
      (row.overlay (e.columnFields patch)).put column v := by
    refine Fields.ext_of_sorted (Fields.sorted_overlay hrow _)
      (Fields.sorted_put (Fields.sorted_overlay hrow _) _ _) fun k => ?_
    rw [field?_overlay_columnFields hunder, Fields.field?_put, Fields.field?_put,
      field?_overlay_columnFields hpatch, Fields.field?_overlay_of_sorted _ hpatch]
    by_cases hcolumn : column = k
    · subst hcolumn
      rw [if_pos hj.hasColumn, if_pos rfl, if_pos rfl]
      rfl
    · rw [if_neg hcolumn, if_neg hcolumn]
      by_cases hk : e.hasColumn k = true
      · rw [if_pos hk, if_pos hk, Option.or_assoc, Option.or_self]
      · rw [if_neg hk, if_neg hk]
  simp only [Transaction.touch, rewritten, hmerged]

theorem get_rewritten (hj : e.IsJoined column v rows) (stamp : Stamp) :
    (rewritten e column v stamp row a).get column = v := by
  have hput : Record.get ((row.overlay (e.columnFields a)).put column v) column = v := by
    rw [Record.get_put, if_pos rfl]
  simp only [rewritten]
  by_cases htime : e.hasColumn updatedAt = true
  · rw [if_pos htime, Record.get_put, if_neg (Ne.symm hj.columnTime), hput]
  · rw [if_neg htime, hput]

/-! ## The parts of a plan -/

/-- Whether an element names none of the rows that are attached. -/
def isNewTo (e : Entity) (column : String) (v : Json) (rows : List Record) (a : Record) : Bool :=
  rows.all fun row => !(looseEq (row.get column) v && elementKey? e column v a == e.key? row)

/-- The rows that refer to a value. -/
def attachedRows (column : String) (v : Json) (rows : List Record) : List Record :=
  rows.filter fun row => looseEq (row.get column) v

theorem mem_attachedRows :
    row ∈ attachedRows column v rows ↔ row ∈ rows ∧ looseEq (row.get column) v = true :=
  List.mem_filter

theorem Entity.IsJoined.keyed_attachedRows (hj : e.IsJoined column v rows) :
    e.IsKeyed (attachedRows column v rows) :=
  hj.keyed.filter _

variable {elements : List Record} {changes : Reconciliation Record Record}

theorem mem_toUpdate_iff (hj : e.IsJoined column v rows)
    (hrec : reconcile (attachedRows column v rows)
      (elements.map (withForeignKey column (some v))) e.key? e.key? = .ok changes)
    {patch : Record} :
    (row, patch) ∈ changes.toUpdate ↔ (∃ a ∈ elements, withForeignKey column (some v) a = patch) ∧
      (row ∈ rows ∧ looseEq (row.get column) v = true) ∧ e.key? patch = e.key? row := by
  rw [Reconciliation.mem_toUpdate hrec hj.keyed_attachedRows.complete
    hj.keyed_attachedRows.distinct, List.mem_map, mem_attachedRows]

/-- What is updated is attached, and is named by its element. -/
theorem of_mem_toUpdate (hj : e.IsJoined column v rows) (helements : ∀ a ∈ elements, a.Sorted)
    (hrec : reconcile (attachedRows column v rows)
      (elements.map (withForeignKey column (some v))) e.key? e.key? = .ok changes)
    {x : Record × Record} (hx : x ∈ changes.toUpdate) :
    x.1 ∈ rows ∧ x.2.Sorted ∧ looseEq (x.1.get column) v = true ∧ e.key? x.2 = e.key? x.1 := by
  obtain ⟨⟨a, ha, hpatch⟩, ⟨hrow, hattached⟩, hkey⟩ := (mem_toUpdate_iff hj hrec).1 hx
  exact ⟨hrow, hpatch ▸ sorted_withForeignKey (helements a ha), hattached, hkey⟩

/-- What is written by the updates has different keys. -/
theorem pairwise_patched (hj : e.IsJoined column v rows) (helements : ∀ a ∈ elements, a.Sorted)
    (hrec : reconcile (attachedRows column v rows)
      (elements.map (withForeignKey column (some v))) e.key? e.key? = .ok changes) :
    (changes.toUpdate.map fun x => (x.1.overlay x.2).put column v).Pairwise fun a b =>
      e.key? (e.columnFields a) ≠ e.key? (e.columnFields b) := by
  rw [List.pairwise_map]
  refine (Reconciliation.pairwise_toUpdate hrec).imp_of_mem ?_
  intro x y hx hy hne
  obtain ⟨hrowx, hsortedx, hattachedx, hkeyx⟩ := of_mem_toUpdate hj helements hrec hx
  obtain ⟨hrowy, hsortedy, hattachedy, hkeyy⟩ := of_mem_toUpdate hj helements hrec hy
  rw [key?_patched hj hrowx hsortedx hattachedx hkeyx,
    key?_patched hj hrowy hsortedy hattachedy hkeyy]
  exact hne

theorem mem_toRemove_iff (hj : e.IsJoined column v rows)
    (hrec : reconcile (attachedRows column v rows)
      (elements.map (withForeignKey column (some v))) e.key? e.key? = .ok changes) :
    row ∈ changes.toRemove ↔ (row ∈ rows ∧ looseEq (row.get column) v = true) ∧
      ∀ a ∈ elements, elementKey? e column v a ≠ e.key? row := by
  rw [Reconciliation.toRemove_reconcile hrec hj.keyed_attachedRows.complete
    hj.keyed_attachedRows.distinct, List.mem_filter, mem_attachedRows, List.all_map,
    List.all_eq_true]
  simp only [Function.comp_apply, decide_eq_true_eq, elementKey?]

theorem toCreate_eq (hj : e.IsJoined column v rows)
    (hrec : reconcile (attachedRows column v rows)
      (elements.map (withForeignKey column (some v))) e.key? e.key? = .ok changes) :
    changes.toCreate = (elements.filter (isNewTo e column v rows)).map
      (withForeignKey column (some v)) := by
  rw [Reconciliation.toCreate_reconcile hrec, List.filter_map]
  congr 1
  apply List.filter_congr
  intro a _
  rw [Bool.eq_iff_iff, isNewTo, List.all_eq_true, Function.comp_apply, Option.isNone_iff_eq_none,
    Option.eq_none_iff_forall_ne_some]
  have hmatch (row : Record) :
      Reconciliation.match? (attachedRows column v rows) e.key? e.key?
        (withForeignKey column (some v) a) = some row ↔
      row ∈ attachedRows column v rows ∧ e.key? (withForeignKey column (some v) a) = e.key? row :=
    Reconciliation.match?_eq_some_iff hj.keyed_attachedRows.complete
      hj.keyed_attachedRows.distinct
  simp only [ne_eq, hmatch, mem_attachedRows, elementKey?, Bool.not_eq_true', Bool.and_eq_false_iff,
    beq_eq_false_iff_ne]
  constructor
  · intro h row hrow
    by_cases hattached : looseEq (row.get column) v = true
    · exact .inr fun hkey => h row ⟨⟨hrow, hattached⟩, hkey⟩
    · exact .inl (Bool.eq_false_iff.2 hattached)
  · rintro h row ⟨⟨hrow, hattached⟩, hkey⟩
    rcases h row hrow with hnot | hne
    · rw [hattached] at hnot
      cases hnot
    · exact hne hkey

/-! ## The writes of a plan -/

/-- A new row for an element: it refers to the value, and has the columns of the element other
    than keys that are made up. -/
def IsInserted (e : Entity) (column : String) (v : Json) (a new : Record) : Prop :=
  new.get column = v ∧ ∀ k, e.hasColumn k = true → k ≠ column → a.has k = true →
    e.makesUp k (a.get k) = false → new.get k = a.get k

/-- The write of a row under an element that names it. -/
def Rewrites (e : Entity) (column : String) (v : Json) (stamps : Stamps) (n : Nat)
    (x : Record × Record) (w : Write) : Prop :=
  ∃ key i, n ≤ i ∧ e.key? x.1 = some key ∧
    w = .update e.name key (rewritten e column v (stamps i) x.1 x.2)

variable {stamps : Stamps} {n : Nat} {w : Write}

theorem rewrites_of_overwrites (hj : e.IsJoined column v rows) (hrow : row ∈ rows)
    {patch : Record} (hpatch : patch.Sorted) (hattached : looseEq (row.get column) v = true)
    (hkey : e.key? patch = e.key? row)
    (h : Overwrites e stamps n rows ((row.overlay patch).put column v) w) :
    Rewrites e column v stamps n (row, patch) w := by
  obtain ⟨key, current, i, hi, hwritten, hcurrent, rfl⟩ := h
  rw [key?_patched hj hrow hpatch hattached hkey] at hwritten
  rw [hj.keyed.findRow?_eq hrow hwritten, Option.some.injEq] at hcurrent
  subst hcurrent
  refine ⟨key, i, hi, hwritten, ?_⟩
  rw [touch_patched hj (hj.sorted row hrow) hpatch]

/-- What an update leaves has the key that it is for. -/
theorem key?_rewritten (hj : e.IsJoined column v rows) (hrow : row ∈ rows) {patch : Record}
    (hpatch : patch.Sorted) (hattached : looseEq (row.get column) v = true)
    (hkey : e.key? patch = e.key? row) (stamp : Stamp) :
    e.key? (rewritten e column v stamp row patch) = e.key? row := by
  obtain ⟨key, hk⟩ := Option.isSome_iff_exists.1 (hj.keyed.complete row hrow)
  have hpatched := key?_patched hj hrow hpatch hattached hkey
  rw [← touch_patched hj (hj.sorted row hrow) hpatch, hk]
  refine Transaction.key?_touch hj.keyTime ?_ (hpatched.trans hk)
  exact Fields.sorted_restrict
    (Fields.sorted_put (Fields.sorted_overlay (hj.sorted row hrow) _) _ _) _

/-- What is to be stored of a new row for an element, before it gets its defaults. -/
def newRow (e : Entity) (column : String) (v : Json) (a : Record) : Record :=
  e.columnFields ((e.blank (withForeignKey column (some v) a)).put column v)

theorem field?_newRow_column (h : e.hasColumn column = true) :
    (newRow e column v a).field? column = some v := by
  rw [newRow, Entity.columnFields, Fields.field?_restrict, if_pos h, Fields.field?_put, if_pos rfl]

theorem field?_newRow (ha : a.Sorted) {k : String} (hk : e.hasColumn k = true) (hne : k ≠ column)
    {x : Json} (hx : a.field? k = some x) : (newRow e column v a).field? k = some x := by
  rw [newRow, Entity.columnFields, Fields.field?_restrict, if_pos hk, Fields.field?_put,
    if_neg (Ne.symm hne), Entity.blank,
    Fields.field?_overlay_of_sorted _ (sorted_withForeignKey ha),
    field?_withForeignKey (Ne.symm hne), hx, Option.some_or]

/-- The write of a new instance under a reference: it holds the reference and its own fields, other
    than a key that is made up. -/
theorem insert_of_creates {fields : Record}
    (h : Creates e stamps ((e.blank fields).put column v) w) :
    ∃ key new, w = .insert e.name key new ∧ e.key? new = some key ∧ new.Sorted ∧
      ∀ k x, e.hasColumn k = true → ((e.blank fields).put column v).field? k = some x →
        e.makesUp k x = false → new.get k = x := by
  obtain ⟨tx, i, new, key, hfill, hkey, rfl⟩ := h
  have hblank : (e.blank fields).Sorted := Fields.sorted_overlay (Fields.sorted_ofList _) _
  refine ⟨key, new, rfl, hkey, Transaction.sorted_fillDefaults hfill
    (Fields.sorted_restrict (Fields.sorted_put hblank _ _) _), fun k x hk hx hup => ?_⟩
  refine Transaction.get_fillDefaults_of_field? hfill ?_ hup
  rw [Entity.columnFields, Fields.field?_restrict, if_pos hk, hx]

theorem isInserted_of_creates (hj : e.IsJoined column v rows) (ha : a.Sorted)
    (h : Creates e stamps ((e.blank (withForeignKey column (some v) a)).put column v) w) :
    ∃ key new, w = .insert e.name key new ∧ e.key? new = some key ∧ new.Sorted ∧
      IsInserted e column v a new := by
  obtain ⟨key, new, hw, hkey, hsorted, hfields⟩ := insert_of_creates h
  refine ⟨key, new, hw, hkey, hsorted, ?_, fun k hk hne hhas hup => ?_⟩
  · refine hfields column v hj.hasColumn ?_ ?_
    · rw [Fields.field?_put, if_pos rfl]
    · rw [Entity.makesUp, hj.notNull]
      rfl
  · obtain ⟨given, hgiven⟩ := Option.isSome_iff_exists.1 hhas
    rw [Record.get_of_field? hgiven] at hup ⊢
    refine hfields k given hk ?_ hup
    rw [Fields.field?_put, if_neg (Ne.symm hne), Entity.blank,
      Fields.field?_overlay_of_sorted _ (sorted_withForeignKey ha),
      field?_withForeignKey (Ne.symm hne), hgiven, Option.some_or]

/-! ## Replacement -/

/-- What becomes of rows when elements replace those that are attached: `change` gives what becomes
    of each row, if it stays, and `inserted` are the new ones. -/
structure IsReplacement (e : Entity) (column : String) (v : Json) (stamps : Stamps) (n : Nat)
    (rows elements : List Record) (change : Record → Option Record) (inserted : List Record) :
    Prop where
  others : ∀ row ∈ rows, looseEq (row.get column) v = false → change row = some row
  matched : ∀ row ∈ rows, looseEq (row.get column) v = true → ∀ a ∈ elements,
    elementKey? e column v a = e.key? row →
      ∃ i, n ≤ i ∧ change row = some (rewritten e column v (stamps i) row a)
  unmatched : ∀ row ∈ rows, looseEq (row.get column) v = true →
    (∀ a ∈ elements, elementKey? e column v a ≠ e.key? row) → change row = none
  created : List.Forall₂ (IsInserted e column v) (elements.filter (isNewTo e column v rows))
    inserted
  fresh : ∀ new ∈ inserted, ∀ row ∈ rows, e.key? row ≠ e.key? new

theorem forall₂_rewrites (hj : e.IsJoined column v rows) (helements : ∀ a ∈ elements, a.Sorted)
    (hrec : reconcile (attachedRows column v rows)
      (elements.map (withForeignKey column (some v))) e.key? e.key? = .ok changes)
    {updates : List Write}
    (hupdates : List.Forall₂ (Overwrites e stamps n rows)
      (changes.toUpdate.map fun x => (x.1.overlay x.2).put column v) updates) :
    List.Forall₂ (Rewrites e column v stamps n) changes.toUpdate updates := by
  rw [List.forall₂_map_left_iff] at hupdates
  refine ((List.forall₂_and_left _ _).2 ⟨fun x hx => hx, hupdates⟩).imp ?_
  rintro x w ⟨hx, hw⟩
  obtain ⟨hrow, hsorted, hattached, hkey⟩ := of_mem_toUpdate hj helements hrec hx
  exact rewrites_of_overwrites hj hrow hsorted hattached hkey hw

/-- The write of a new row for an element. -/
def Inserts (e : Entity) (column : String) (v : Json) (a : Record) (w : Write) : Prop :=
  ∃ key new, w = .insert e.name key new ∧ e.key? new = some key ∧ new.Sorted ∧
    IsInserted e column v a new

theorem forall₂_inserts (hj : e.IsJoined column v rows) (helements : ∀ a ∈ elements, a.Sorted)
    (hrec : reconcile (attachedRows column v rows)
      (elements.map (withForeignKey column (some v))) e.key? e.key? = .ok changes)
    {inserts : List Write}
    (hinserts : List.Forall₂ (Creates e stamps)
      (changes.toCreate.map fun fields => (e.blank fields).put column v) inserts) :
    List.Forall₂ (Inserts e column v) (elements.filter (isNewTo e column v rows)) inserts := by
  rw [toCreate_eq hj hrec, List.map_map, List.forall₂_map_left_iff] at hinserts
  have hsorted : ∀ a ∈ elements.filter (isNewTo e column v rows), a.Sorted :=
    fun a ha => helements a (List.mem_filter.1 ha).1
  refine ((List.forall₂_and_left _ _).2 ⟨hsorted, hinserts⟩).imp ?_
  rintro a w ⟨ha, hw⟩
  exact isInserted_of_creates hj ha hw

/-- The writes of a plan, kind by kind and in step with its parts. -/
structure IsWritten (e : Entity) (column : String) (v : Json) (stamps : Stamps) (n : Nat)
    (rows elements : List Record) (changes : Reconciliation Record Record)
    (updates inserts removes : List Write) : Prop where
  updates : List.Forall₂ (Rewrites e column v stamps n) changes.toUpdate updates
  inserts : List.Forall₂ (Inserts e column v) (elements.filter (isNewTo e column v rows)) inserts
  removes : List.Forall₂ (Drops e) changes.toRemove removes

section

variable {updates inserts removes : List Write}

/-- An update is for the key of a row that is attached, and leaves a row under this key. -/
theorem of_mem_updates (hj : e.IsJoined column v rows) (helements : ∀ a ∈ elements, a.Sorted)
    (hrec : reconcile (attachedRows column v rows)
      (elements.map (withForeignKey column (some v))) e.key? e.key? = .ok changes)
    (hw : IsWritten e column v stamps n rows elements changes updates inserts removes) :
    ∀ u ∈ updates, (∃ row ∈ rows, looseEq (row.get column) v = true ∧ e.key? row = some u.key) ∧
      ∃ new, u = .update e.name u.key new ∧ e.key? new = some u.key ∧ new.Sorted := by
  intro u hu
  obtain ⟨x, hx, key, i, -, hkey, rfl⟩ := exists_of_forall₂_right hw.updates hu
  obtain ⟨hrow, hsorted, hattached, hsame⟩ := of_mem_toUpdate hj helements hrec hx
  refine ⟨⟨x.1, hrow, hattached, hkey⟩, _, rfl, ?_, ?_⟩
  · exact (key?_rewritten hj hrow hsorted hattached hsame _).trans hkey
  · rw [← touch_patched hj (hj.sorted x.1 hrow) hsorted]
    exact Transaction.sorted_touch (hj.sorted x.1 hrow)

theorem of_mem_inserts
    (hw : IsWritten e column v stamps n rows elements changes updates inserts removes) :
    ∀ u ∈ inserts, ∃ new, u = .insert e.name u.key new ∧ e.key? new = some u.key ∧
      new.Sorted := by
  intro u hu
  obtain ⟨a, -, key, new, rfl, hkey, hsorted, -⟩ := exists_of_forall₂_right hw.inserts hu
  exact ⟨new, rfl, hkey, hsorted⟩

/-- A removal is for the key of a row that is attached and that no element names. -/
theorem of_mem_removes (hj : e.IsJoined column v rows)
    (hrec : reconcile (attachedRows column v rows)
      (elements.map (withForeignKey column (some v))) e.key? e.key? = .ok changes)
    (hw : IsWritten e column v stamps n rows elements changes updates inserts removes) :
    ∀ u ∈ removes, u = .remove e.name u.key ∧ ∃ row ∈ rows, looseEq (row.get column) v = true ∧
      (∀ a ∈ elements, elementKey? e column v a ≠ e.key? row) ∧ e.key? row = some u.key := by
  intro u hu
  obtain ⟨row, hrow, key, hkey, rfl⟩ := exists_of_forall₂_right hw.removes hu
  obtain ⟨⟨hrow, hattached⟩, hnone⟩ := (mem_toRemove_iff hj hrec).1 hrow
  exact ⟨rfl, row, hrow, hattached, hnone, hkey⟩

theorem pairwise_updates
    (hrec : reconcile (attachedRows column v rows)
      (elements.map (withForeignKey column (some v))) e.key? e.key? = .ok changes)
    (hw : IsWritten e column v stamps n rows elements changes updates inserts removes) :
    updates.Pairwise fun u w => u.key ≠ w.key := by
  refine pairwise_of_forall₂ hw.updates ?_ (Reconciliation.pairwise_toUpdate hrec)
  rintro x y u w ⟨key, i, -, hx, rfl⟩ ⟨key', i', -, hy, rfl⟩ hne hsame
  exact hne (hx.trans ((congrArg some hsame).trans hy.symm))

/-- What the writes of a plan make of the rows is a replacement. -/
theorem isReplacement_of_isChanged (hj : e.IsJoined column v rows)
    (helements : ∀ a ∈ elements, a.Sorted)
    (hrec : reconcile (attachedRows column v rows)
      (elements.map (withForeignKey column (some v))) e.key? e.key? = .ok changes)
    (hw : IsWritten e column v stamps n rows elements changes updates inserts removes)
    {change : Record → Option Record} (hchange : IsChanged e rows updates removes change)
    (hfresh : ∀ new ∈ inserts.filterMap Write.row?, ∀ row ∈ rows, e.key? row ≠ e.key? new) :
    IsReplacement e column v stamps n rows elements change (inserts.filterMap Write.row?) where
  others := by
    intro row hrow hnot
    -- the writes are for the keys of attached rows, and keys tell rows apart
    have hapart {key : RowKey}
        (h : ∃ r ∈ rows, looseEq (r.get column) v = true ∧ e.key? r = some key) :
        e.key? row ≠ some key := by
      rintro hkey
      obtain ⟨r, hr, hattached, hkey'⟩ := h
      rw [hj.keyed.eq_of_key hrow hr (hkey.trans hkey'.symm), hattached] at hnot
      cases hnot
    apply hchange.kept row hrow
    · intro u hu
      exact hapart (of_mem_updates hj helements hrec hw u hu).1
    · intro u hu
      obtain ⟨-, r, hr, hattached, -, hkey⟩ := of_mem_removes hj hrec hw u hu
      exact hapart ⟨r, hr, hattached, hkey⟩
  matched := by
    intro row hrow hattached a ha hkey
    have hmem := (mem_toUpdate_iff hj hrec).2 ⟨⟨a, ha, rfl⟩, ⟨hrow, hattached⟩, hkey⟩
    obtain ⟨u, hu, key, i, hi, hrowKey, rfl⟩ := exists_of_forall₂_left hw.updates hmem
    have hstays : ∀ u ∈ removes, e.key? row ≠ some u.key := by
      intro u hu hsame
      obtain ⟨-, r, -, -, hnone, hkey'⟩ := of_mem_removes hj hrec hw u hu
      exact hnone a ha (hkey.trans (hsame.trans hkey'.symm))
    refine ⟨i, hi, ?_⟩
    rw [hchange.replaced row hrow hstays _ hu _ rfl hrowKey,
      rewritten_withForeignKey (hj.sorted row hrow) (helements a ha)]
  unmatched := by
    intro row hrow hattached hnone
    have hmem := (mem_toRemove_iff hj hrec).2 ⟨⟨hrow, hattached⟩, hnone⟩
    obtain ⟨u, hu, key, hkey, rfl⟩ := exists_of_forall₂_left hw.removes hmem
    exact hchange.removed row hrow _ hu hkey
  created := by
    refine forall₂_filterMap hw.inserts ?_
    rintro a u ⟨key, new, rfl, -, -, hnew⟩
    exact ⟨new, rfl, hnew⟩
  fresh := hfresh

theorem areBatches_of_isWritten (hj : e.IsJoined column v rows)
    (helements : ∀ a ∈ elements, a.Sorted)
    (hrec : reconcile (attachedRows column v rows)
      (elements.map (withForeignKey column (some v))) e.key? e.key? = .ok changes)
    (hw : IsWritten e column v stamps n rows elements changes updates inserts removes) :
    AreBatches e rows updates inserts removes := by
  refine ⟨fun u hu => (of_mem_updates hj helements hrec hw u hu).2, pairwise_updates hrec hw,
    of_mem_inserts hw, fun u hu => ?_⟩
  obtain ⟨hdrop, row, hrow, -, -, hkey⟩ := of_mem_removes hj hrec hw u hu
  exact ⟨hdrop, row, hrow, hkey⟩

/-- The writes of a plan, applied to the rows of its target, make a replacement, with the rows that
    are inserted as the new ones. -/
theorem isReplacement_of_isWritten (hj : e.IsJoined column v rows)
    (helements : ∀ a ∈ elements, a.Sorted)
    (hrec : reconcile (attachedRows column v rows)
      (elements.map (withForeignKey column (some v))) e.key? e.key? = .ok changes)
    (hw : IsWritten e column v stamps n rows elements changes updates inserts removes)
    {rows' : List Record}
    (happly : applyRows e rows (updates ++ (inserts ++ removes)) = .ok rows') :
    ∃ change, rows' = rows.filterMap change ++ inserts.filterMap Write.row? ∧
      IsReplacement e column v stamps n rows elements change (inserts.filterMap Write.row?) := by
  obtain ⟨change, hchange, hrows, hfresh⟩ :=
    applyRows_batches hj.keyed (areBatches_of_isWritten hj helements hrec hw) happly
  exact ⟨change, hrows, isReplacement_of_isChanged hj helements hrec hw hchange hfresh⟩

end

/-- The rows that stay attached in a replacement are those that an element names. -/
theorem length_kept_of_isReplacement (hj : e.IsJoined column v rows)
    {change : Record → Option Record} {inserted : List Record}
    (h : IsReplacement e column v stamps n rows elements change inserted) :
    ((rows.filterMap change).filter fun row => looseEq (row.get column) v).length =
      ((attachedRows column v rows).filter fun row =>
        elements.any fun a => elementKey? e column v a = e.key? row).length := by
  rw [← List.countP_eq_length_filter, ← List.countP_eq_length_filter, List.countP_filterMap,
    attachedRows, List.countP_filter]
  apply List.countP_congr
  intro row hrow
  cases hattached : looseEq (row.get column) v with
  | false =>
    rw [h.others row hrow hattached]
    simp [hattached]
  | true =>
    by_cases hnamed : ∃ a ∈ elements, elementKey? e column v a = e.key? row
    · obtain ⟨a, ha, hkey⟩ := hnamed
      obtain ⟨i, -, hchange⟩ := h.matched row hrow hattached a ha hkey
      have hany : (elements.any fun a => elementKey? e column v a = e.key? row) = true :=
        List.any_eq_true.2 ⟨a, ha, decide_eq_true hkey⟩
      rw [hchange, hany]
      simp [get_rewritten hj, hj.equal]
    · have hnone : ∀ a ∈ elements, elementKey? e column v a ≠ e.key? row :=
        fun a ha hkey => hnamed ⟨a, ha, hkey⟩
      rw [h.unmatched row hrow hattached hnone]
      simpa using hnone

/-- As many rows are attached after a replacement as there are elements. -/
theorem length_attached_of_isReplacement (hj : e.IsJoined column v rows)
    (hrec : reconcile (attachedRows column v rows)
      (elements.map (withForeignKey column (some v))) e.key? e.key? = .ok changes)
    {change : Record → Option Record} {inserted : List Record}
    (h : IsReplacement e column v stamps n rows elements change inserted) :
    ((rows.filterMap change ++ inserted).filter fun row => looseEq (row.get column) v).length =
      elements.length := by
  have hinserted : inserted.filter (fun row => looseEq (row.get column) v) = inserted := by
    rw [List.filter_eq_self]
    intro new hnew
    obtain ⟨a, -, hcolumn, -⟩ := exists_of_forall₂_right h.created hnew
    rw [hcolumn]
    exact hj.equal
  have hcreated : inserted.length = changes.toCreate.length := by
    rw [← h.created.length_eq, toCreate_eq hj hrec, List.length_map]
  have hkept := length_kept_of_isReplacement hj h
  have hupdated := Reconciliation.length_toUpdate hrec hj.keyed_attachedRows.complete
    hj.keyed_attachedRows.distinct
  simp only [List.any_map] at hupdated
  have hparts := length_toUpdate_add_length_toCreate hrec
  rw [List.length_map] at hparts
  rw [List.filter_append, List.length_append, hinserted, hcreated, hkept, ← hparts, hupdated]
  rfl

end Depot
