import Depot.Proofs.Sql.Placeholders
import Depot.Proofs.Store.Defaults
import Depot.Proofs.Store.Staging

/-!
# Two ways to update a row

The store in memory lays the columns of a record over the row of its key, and then the time of the
change over `updated_at`. The statement for a relational database assigns the columns of the record
outside the primary key; it assigns the time of the change to `updated_at` only if the record has
no value for it. So the two write the same, except where a record has another value for
`updated_at` than the time of the change, such as a record that was read before has it: the store
in memory replaces this value, and the statement keeps it.

* `Transaction.overwritten`: what the store lays over a row.
* `Sql.assigned`: what the statement assigns.

Results:
* `field?_touch_eq`: the row that is stored, by what is laid over the row before.
* `field?_overwritten`, `field?_assigned`: what is laid over and what is assigned.
* `writes_agree_iff`: when a row is updated, the two agree exactly if the record does not set the
  time of the change to anything else.
* `not_writes_agree`: they do not always agree.
-/

namespace Depot

open Statement

variable {e : Entity} {r row current : Record} {stamp : Stamp} {tx : Transaction}

/-! ## In memory -/

namespace Transaction

/-- The fields that an update lays over a row. -/
def overwritten (e : Entity) (stamp : Stamp) (r : Record) : Record :=
  touch e stamp [] (e.columnFields r)

/-- An update does not look at the row that it changes. -/
theorem field?_touch_eq (hrow : row.Sorted) (k : String) :
    (touch e stamp current row).field? k =
      ((touch e stamp [] row).field? k).or (current.field? k) := by
  rw [touch, touch]
  by_cases htime : e.hasColumn updatedAt = true
  · rw [if_pos htime, if_pos htime, Fields.field?_put, Fields.field?_put,
      Fields.field?_overlay_of_sorted _ hrow, Fields.field?_overlay_of_sorted _ hrow]
    split
    · rfl
    · rw [Fields.field?_nil, Option.or_none]
  · rw [if_neg htime, if_neg htime, Fields.field?_overlay_of_sorted _ hrow,
      Fields.field?_overlay_of_sorted _ hrow, Fields.field?_nil, Option.or_none]

theorem field?_overwritten (hr : r.Sorted) {c : Column} (hc : c ∈ e.columns) :
    (overwritten e stamp r).field? c.name =
      if c.name = updatedAt then some (.str stamp.now) else r.field? c.name := by
  have hcolumn : e.hasColumn c.name = true := hasColumn_iff.2 ⟨c, hc, rfl⟩
  have hsorted : (e.columnFields r).Sorted := Fields.sorted_restrict hr _
  by_cases hname : c.name = updatedAt
  · rw [hname] at hcolumn
    rw [if_pos hname, overwritten, touch, if_pos hcolumn, Fields.field?_put, if_pos hname.symm]
  · rw [if_neg hname, overwritten, field?_touch hsorted hname, Fields.field?_nil, Option.or_none,
      Entity.columnFields, Fields.field?_restrict, if_pos hcolumn]

end Transaction

/-! ## By a statement -/

namespace Sql

/-- What an assignment writes at a time. -/
def assignment? (now : String) : Statement → Option (String × Json)
  | [.name c, .word " = ", .value v _] => some (c, v)
  | [.name c, .word " = NOW()"] => some (c, .str now)
  | _ => none

/-- What an update assigns at a time. -/
def assigned (e : Entity) (now : String) (r : Record) : Fields Json :=
  (assignments e r).filterMap (assignment? now)

/-- Columns with values that go by their names. -/
theorem field?_map_columns (columns : List Column) (f : String → Json) (k : String) :
    Fields.field? (columns.map fun c => (c.name, f c.name)) k =
      if k ∈ columns.map (·.name) then some (f k) else none := by
  induction columns with
  | nil => rfl
  | cons c columns ih =>
    rw [List.map_cons, Fields.field?_cons, ih]
    by_cases hname : c.name = k
    · have hmem : k ∈ (c :: columns).map (·.name) := List.mem_cons.2 (.inl hname.symm)
      rw [if_pos hname, if_pos hmem, ← hname]
    · rw [if_neg hname]
      simp only [List.map_cons, List.mem_cons, Ne.symm hname, false_or]

theorem assigned_eq (e : Entity) (now : String) (r : Record) :
    assigned e now r = ((givenColumns e r).map fun c => (c.name, r.get c.name)) ++
      if e.hasColumn updatedAt && !r.has updatedAt then [(updatedAt, .str now)] else [] := by
  have hgiven : ((givenColumns e r).map fun c =>
      ([.name c.name, .word " = ", bound e c.name (r.get c.name)] : Statement)).filterMap
        (assignment? now) = (givenColumns e r).map fun c => (c.name, r.get c.name) := by
    rw [List.filterMap_map, ← List.filterMap_eq_map]
    rfl
  have htime : (timeAssignments e r).filterMap (assignment? now) =
      if e.hasColumn updatedAt && !r.has updatedAt then [(updatedAt, .str now)] else [] := by
    rw [timeAssignments]
    show (if (e.hasColumn updatedAt && !r.has updatedAt) = true then
      [[.name "updated_at", .word " = NOW()"]] else ([] : List Statement)).filterMap _ = _
    split <;> rfl
  rw [assigned, assignments_eq, List.filterMap_append, hgiven, htime]

theorem mem_givenColumns_iff {c : Column} (hc : c ∈ e.columns) (hkey : c.name ∉ e.primaryKey) :
    c.name ∈ (givenColumns e r).map (·.name) ↔ r.has c.name = true := by
  rw [List.mem_map]
  constructor
  · rintro ⟨d, hd, hname⟩
    rw [← hname]
    exact (Bool.and_eq_true_iff.1 (List.mem_filter.1 hd).2).2
  · intro hhas
    refine ⟨c, List.mem_filter.2 ⟨hc, ?_⟩, rfl⟩
    rw [hhas, Bool.and_true, Bool.not_eq_true', ← Bool.not_eq_true, List.contains_iff_mem]
    exact hkey

/-- A column outside of the primary key gets the value of the record, and `updated_at` gets the
    time if the record has none. -/
theorem field?_assigned {now : String} {c : Column} (hc : c ∈ e.columns)
    (hkey : c.name ∉ e.primaryKey) :
    (assigned e now r).field? c.name =
      (r.field? c.name).or (if c.name = updatedAt then some (.str now) else none) := by
  rw [assigned_eq, Fields.field?_append, field?_map_columns]
  cases hfield : r.field? c.name with
  | some v =>
    have hhas : r.has c.name = true := by rw [Fields.has, hfield]; rfl
    rw [if_pos ((mem_givenColumns_iff hc hkey).2 hhas), Record.get_of_field? hfield]
    rfl
  | none =>
    have hhas : r.has c.name = false := by rw [Fields.has, hfield]; rfl
    have hnot : ¬r.has c.name = true := by
      rw [hhas]
      exact Bool.false_ne_true
    rw [if_neg (mt (mem_givenColumns_iff hc hkey).1 hnot), Option.none_or, Option.none_or]
    by_cases hname : c.name = updatedAt
    · have hcolumn : e.hasColumn updatedAt = true := hasColumn_iff.2 ⟨c, hc, hname⟩
      rw [hname] at hhas
      rw [if_pos hname, hcolumn, hhas, hname]
      rfl
    · rw [if_neg hname]
      split
      · rw [Fields.field?_cons, if_neg (Ne.symm hname)]
        rfl
      · rfl

end Sql

/-! ## Both -/

/-- Whether a record sets `updated_at`, outside of the primary key, to something else than the
    time of the change. -/
def SetsTime (e : Entity) (stamp : Stamp) (r : Record) : Prop :=
  e.hasColumn updatedAt = true ∧ updatedAt ∉ e.primaryKey ∧
    ∃ v, r.field? updatedAt = some v ∧ v ≠ .str stamp.now

/-- An update of a row that is there succeeds, and its result is the row with what it overwrites.
    Outside of the primary key these are the columns that the statement assigns, with the same
    values, exactly if the record does not set the time of the change to something else. -/
theorem writes_agree_iff (hr : r.Sorted) {key : RowKey}
    (hkey : e.key? (e.columnFields r) = some key) (hcurrent : tx.current? e key = some current)
    (stamp : Stamp) :
    (∃ stored, tx.persist e r .update stamp =
        .ok (stored, tx.stage (.update e.name key stored)) ∧
      ∀ k, stored.field? k = ((Transaction.overwritten e stamp r).field? k).or (current.field? k)) ∧
    ((∀ c ∈ e.columns, c.name ∉ e.primaryKey →
        (Transaction.overwritten e stamp r).field? c.name =
          (Sql.assigned e stamp.now r).field? c.name) ↔ ¬SetsTime e stamp r) := by
  have hsorted : (e.columnFields r).Sorted := Fields.sorted_restrict hr _
  refine ⟨⟨Transaction.touch e stamp current (e.columnFields r), ?_,
    Transaction.field?_touch_eq hsorted⟩, ?_, ?_⟩
  · rw [Transaction.persist, Transaction.update]
    simp only [hkey, hcurrent]
  · rintro hagree ⟨hcolumn, hnokey, v, hv, hne⟩
    obtain ⟨c, hc, hname⟩ := hasColumn_iff.1 hcolumn
    have hc' := hagree c hc (hname ▸ hnokey)
    rw [Transaction.field?_overwritten hr hc, if_pos hname,
      Sql.field?_assigned hc (hname ▸ hnokey), hname, hv, Option.some_or, Option.some.injEq] at hc'
    exact hne hc'.symm
  · intro hnot c hc hnokey
    rw [Transaction.field?_overwritten hr hc, Sql.field?_assigned hc hnokey]
    by_cases hname : c.name = updatedAt
    · rw [if_pos hname, if_pos hname]
      cases hv : r.field? c.name with
      | none => rfl
      | some v =>
        rw [Option.some_or, Option.some.injEq]
        by_contra hne
        exact hnot ⟨hasColumn_iff.2 ⟨c, hc, hname⟩, hname ▸ hnokey, v, hname ▸ hv, Ne.symm hne⟩
    · rw [if_neg hname, if_neg hname, Option.or_none]

/-! ## Memos -/

namespace Memos

/-- Memos keep the time of their last change. -/
def entity : Entity :=
  ⟨"memo", "public", "memo", ["id"],
    [⟨"id", some .text, false, false, "text"⟩, ⟨"body", none, true, false, "text"⟩,
      ⟨"updated_at", none, true, false, "text"⟩], [], []⟩

/-- A memo that was changed before. -/
def memo : Record := [("body", .str "old"), ("id", .str "1"), ("updated_at", .str "then")]

/-- A transaction that sees the memo. -/
def transaction : Transaction := .start (Tables.empty.set "memo" [memo])

/-- The fields of a request, which does not say when the change is. -/
def patch : Record := [("body", .str "new"), ("id", .str "1")]

/-- The memo with the fields of a request, as it is written after it was read. -/
def patched : Record := [("body", .str "new"), ("id", .str "1"), ("updated_at", .str "then")]

/-- What the world supplies when the memo is changed. -/
def change : Stamp := ⟨"now", "fresh"⟩

theorem sorted_patch : patch.Sorted := by
  rw [Fields.sorted_iff_keys]
  show ["body", "id"].Pairwise (· < ·)
  decide

theorem sorted_patched : patched.Sorted := by
  rw [Fields.sorted_iff_keys]
  show ["body", "id", "updated_at"].Pairwise (· < ·)
  decide

end Memos

open Memos in
/-- The fields of a request are written by both, and both set the time of the change. -/
theorem writes_agree_memos :
    transaction.current? entity ⟨["1"]⟩ = some memo ∧
      (∀ c ∈ entity.columns, c.name ∉ entity.primaryKey →
        (Transaction.overwritten entity change patch).field? c.name =
          (Sql.assigned entity change.now patch).field? c.name) ∧
      Sql.assigned entity change.now patch =
        [("body", .str "new"), ("updated_at", .str "now")] := by
  have hcurrent : transaction.current? entity ⟨["1"]⟩ = some memo := by decide +kernel
  refine ⟨hcurrent, ?_, by decide +kernel⟩
  refine (writes_agree_iff sorted_patch (by decide +kernel) hcurrent change).2.2 ?_
  rintro ⟨-, -, v, hv, -⟩
  cases hv

/-- A memo that was read, changed and written again carries the time of its change before: the
    statement keeps it, and the store in memory does not. -/
theorem not_writes_agree :
    ¬∀ (e : Entity) (tx : Transaction) (stamp : Stamp) (r current : Record) (key : RowKey),
      (e.columns.map (·.name)).Nodup → r.Sorted → e.key? (e.columnFields r) = some key →
      tx.current? e key = some current → ∀ c ∈ e.columns, c.name ∉ e.primaryKey →
        (Transaction.overwritten e stamp r).field? c.name =
          (Sql.assigned e stamp.now r).field? c.name := by
  intro h
  have htime := h Memos.entity Memos.transaction Memos.change Memos.patched Memos.memo ⟨["1"]⟩
    (by decide +kernel) Memos.sorted_patched (by decide +kernel) (by decide +kernel)
    ⟨"updated_at", none, true, false, "text"⟩ (by decide +kernel) (by decide +kernel)
  have hstored : (Transaction.overwritten Memos.entity Memos.change Memos.patched).field?
      "updated_at" = some (.str "now") := by decide +kernel
  have hassigned : (Sql.assigned Memos.entity "now" Memos.patched).field? "updated_at" =
      some (.str "then") := by decide +kernel
  exact absurd (hstored.symm.trans (htime.trans hassigned)) (by decide)

end Depot
