import Depot.Error
import Depot.Model.Entity

/-!
# Tables

The rows of every entity, in the order of their insertion, and the writes that change them. A
write addresses a row by the key that it was given when it was staged.

* `Tables.rows`: the rows of an entity.
* `Write.apply`: the tables after a write, unless it does not fit them.
* `applyAll`: the tables after the writes of a log.
* `applyPrefix`: the tables after the writes of a log up to the first that does not fit.

Results:
* `rows_set`: what tables hold after the rows of an entity were set.
* `applyAll_append`: a log can be applied in two parts.
* `applyAll_applied`: what was applied of a log can be applied again.
-/

namespace Depot

/-- The rows of every entity, by its name. -/
@[ext] structure Tables where
  rows : String → List Record

namespace Tables

/-- Tables without rows. -/
def empty : Tables := ⟨fun _ => []⟩

/-- Tables with other rows for an entity. -/
def set (t : Tables) (entity : String) (rows : List Record) : Tables :=
  ⟨fun name => if name = entity then rows else t.rows name⟩

theorem rows_set (t : Tables) (entity name : String) (rows : List Record) :
    (t.set entity rows).rows name = if name = entity then rows else t.rows name := rfl

theorem set_rows (t : Tables) (entity : String) : t.set entity (t.rows entity) = t := by
  ext1
  funext name
  simp only [rows_set]
  split <;> simp_all

end Tables

/-! ## Rows by their key -/

/-- Whether a row has a key. -/
def Entity.hasKey (e : Entity) (key : RowKey) (row : Record) : Bool := e.key? row == some key

/-- The first row that has a key. -/
def findRow? (e : Entity) (key : RowKey) (rows : List Record) : Option Record :=
  rows.find? (e.hasKey key)

/-- The rows with `row` in place of the first that has a key, if there is one. -/
def replaceRow? (e : Entity) (key : RowKey) (row : Record) : List Record → Option (List Record)
  | [] => none
  | r :: rs => if e.hasKey key r then some (row :: rs) else (replaceRow? e key row rs).map (r :: ·)

/-- The rows without the first that has a key, if there is one. -/
def removeRow? (e : Entity) (key : RowKey) : List Record → Option (List Record)
  | [] => none
  | r :: rs => if e.hasKey key r then some rs else (removeRow? e key rs).map (r :: ·)

/-! ## Writes -/

/-- A change of one row. -/
inductive Write
  | insert (entity : String) (key : RowKey) (row : Record)
  | update (entity : String) (key : RowKey) (row : Record)
  | remove (entity : String) (key : RowKey)
  deriving DecidableEq

namespace Write

/-- The entity whose row a write changes. -/
def entity : Write → String
  | .insert e .. | .update e .. | .remove e _ => e

/-- The key of the row that a write changes. -/
def key : Write → RowKey
  | .insert _ k _ | .update _ k _ | .remove _ k => k

/-- The row that a write leaves under its key. -/
def row? : Write → Option Record
  | .insert _ _ r | .update _ _ r => some r
  | .remove .. => none

/-- Whether a write changes the row of a key. -/
def targets (w : Write) (entity : String) (key : RowKey) : Bool :=
  w.entity == entity && w.key == key

/-- How messages name the row that a write changes. -/
def rowName (w : Write) : String := w.entity ++ " " ++ w.key.text

/-- The rows of a write's entity after the write. -/
def applyToRows (e : Entity) (w : Write) (rows : List Record) : Except StoreError (List Record) :=
  match w with
  | .insert _ key row =>
    if (findRow? e key rows).isSome then .error (.conflict (w.rowName ++ " already exists"))
    else .ok (rows ++ [row])
  | .update _ key row =>
    match replaceRow? e key row rows with
    | some rows => .ok rows
    | none => .error (.missing w.rowName)
  | .remove _ key =>
    match removeRow? e key rows with
    | some rows => .ok rows
    | none => .error (.missing w.rowName)

/-- The tables after a write, unless it does not fit them. -/
def apply (m : Model) (t : Tables) (w : Write) : Except StoreError Tables :=
  match m.entity? w.entity with
  | none => .error (.unknownEntity w.entity)
  | some e => (w.applyToRows e (t.rows w.entity)).map (t.set w.entity)

end Write

/-- The tables after the writes of a log, unless one of them does not fit. -/
def applyAll (m : Model) (t : Tables) : List Write → Except StoreError Tables
  | [] => .ok t
  | w :: ws =>
    match w.apply m t with
    | .ok t => applyAll m t ws
    | .error e => .error e

/-- What became of a log: the tables, the writes that were applied, and the failure of the first
    that did not fit. -/
structure Applied where
  tables : Tables
  writes : List Write
  failure : Option StoreError

/-- Applies the writes of a log up to the first that does not fit. -/
def applyPrefix (m : Model) (t : Tables) : List Write → Applied
  | [] => ⟨t, [], none⟩
  | w :: ws =>
    match w.apply m t with
    | .ok t =>
      let rest := applyPrefix m t ws
      { rest with writes := w :: rest.writes }
    | .error e => ⟨t, [], some e⟩

theorem applyAll_cons_iff {m : Model} {t t' : Tables} {w : Write} {ws : List Write} :
    applyAll m t (w :: ws) = .ok t' ↔
      ∃ t₁, w.apply m t = .ok t₁ ∧ applyAll m t₁ ws = .ok t' := by
  rw [applyAll]
  cases w.apply m t with
  | ok t₁ => exact ⟨fun h => ⟨t₁, rfl, h⟩, fun ⟨_, h₁, h⟩ => Except.ok.inj h₁ ▸ h⟩
  | error e => exact ⟨nofun, nofun⟩

theorem applyAll_append (m : Model) (t : Tables) (ws vs : List Write) :
    applyAll m t (ws ++ vs) = (applyAll m t ws).bind (applyAll m · vs) := by
  induction ws generalizing t with
  | nil => rfl
  | cons w ws ih =>
    simp only [List.cons_append, applyAll]
    cases w.apply m t with
    | ok t => exact ih t
    | error e => rfl

theorem applyAll_applied (m : Model) (t : Tables) (ws : List Write) :
    applyAll m t (applyPrefix m t ws).writes = .ok (applyPrefix m t ws).tables := by
  induction ws generalizing t with
  | nil => rfl
  | cons w ws ih =>
    simp only [applyPrefix]
    cases h : w.apply m t with
    | ok t => simp only [applyAll, h]; exact ih t
    | error e => rfl

theorem applyPrefix_failure_none {m : Model} {t : Tables} {ws : List Write}
    (h : (applyPrefix m t ws).failure = none) : (applyPrefix m t ws).writes = ws := by
  induction ws generalizing t with
  | nil => rfl
  | cons w ws ih =>
    simp only [applyPrefix] at h ⊢
    cases hw : w.apply m t with
    | ok t =>
      simp only [hw] at h ⊢
      rw [ih h]
    | error e => simp [hw] at h

end Depot
