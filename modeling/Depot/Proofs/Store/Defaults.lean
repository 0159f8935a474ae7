import Depot.Proofs.Json.Fields
import Depot.Proofs.Model.Resolved
import Depot.Store.Transaction

/-!
# What the store adds to rows

A new row gets a key if its entity makes keys up and the row has none, and the time in columns that
it does not have. A changed row gets the time of its change. All else stays as it is.

* `Entity.makesUp`: whether a field of a row is a key that the store makes up.
* `Entity.filling?`: what the store fills a field with that a new row does not have.
* `Transaction.SameShape`: rows with the same fields, of which the same ones are null.

Results:
* `field?_fillTimes_eq`: the time is put into columns only that a row does not have.
* `get_fillDefaults`, `field?_fillDefaults_of_key`: the fields that a row has before its defaults.
* `isNull_get_fillDefaults`: a key that is made up is not null.
* `sorted_fillDefaults`, `sorted_touch`: the fields stay in order.
* `persist_error_restamp`: whether a row can be staged does not depend on the stamp.
* `key?_touch`: a change leaves a row under the key that is written.
-/

namespace Depot

/-- Whether a field of a row is its key, is null, and is made up by the store. -/
def Entity.makesUp (e : Entity) (field : String) (value : Json) : Bool :=
  value.isNull && e.generatedKey?.any fun c => c.name == field

/-- What the store fills a field with that a new row does not have. -/
def Entity.filling? (e : Entity) (stamp : Stamp) (name : String) : Option Json :=
  if e.columns.any fun c => Transaction.takesTime c && c.name == name then some (.str stamp.now)
  else none

namespace Transaction

variable {tx : Transaction} {e : Entity} {stamp : Stamp} {row out : Record} {k : String}

/-- A value that the store makes up is not null. -/
theorem isNull_generate {c : Column} {v : Json} (h : tx.generate e c stamp = .ok v) :
    v.isNull = false := by
  unfold generate at h
  split at h
  · cases h
    rfl
  · cases h
    rfl
  · cases h
    rfl
  · cases h

theorem fillKey_eq_ok (h : tx.fillKey e stamp row = .ok out) :
    out = row ∧ (∀ c, e.generatedKey? = some c → (row.get c.name).isNull = false) ∨
      ∃ c v, e.generatedKey? = some c ∧ (row.get c.name).isNull = true ∧ v.isNull = false ∧
        out = row.put c.name v := by
  rw [fillKey] at h
  cases hc : e.generatedKey? with
  | none =>
    rw [hc, Except.ok.injEq] at h
    refine .inl ⟨h.symm, ?_⟩
    intro c hc'
    cases hc'
  | some c =>
    simp only [hc] at h
    by_cases hnull : (row.get c.name).isNull = true
    · rw [if_pos hnull] at h
      obtain ⟨v, hv, rfl⟩ := map_eq_ok_iff.1 h
      exact .inr ⟨c, v, rfl, hnull, isNull_generate hv, rfl⟩
    · rw [if_neg hnull, Except.ok.injEq] at h
      refine .inl ⟨h.symm, ?_⟩
      intro c' hc'
      rw [Option.some.injEq] at hc'
      rw [← hc']
      exact Bool.eq_false_iff.2 hnull

/-- The time is put once into each of the columns that a row does not have. -/
theorem field?_fillColumns (cs : List Column) (now : Json) :
    (cs.foldl (fun row c => if row.has c.name then row else row.put c.name now) row).field? k =
      (row.field? k).or (if cs.any (·.name == k) then some now else none) := by
  induction cs generalizing row with
  | nil => simp
  | cons c cs ih =>
    rw [List.foldl_cons, ih, List.any_cons]
    by_cases hname : c.name = k
    · subst hname
      cases hfield : row.field? c.name with
      | none => simp [Fields.has, hfield, Fields.field?_put]
      | some v => simp [Fields.has, hfield]
    · have hput : (if row.has c.name then row else row.put c.name now).field? k =
          row.field? k := by
        split
        · rfl
        · rw [Fields.field?_put, if_neg hname]
      simp [hput, hname]

theorem sorted_fillColumns (cs : List Column) (now : Json) (h : row.Sorted) :
    (cs.foldl (fun row c => if row.has c.name then row else row.put c.name now) row).Sorted := by
  induction cs generalizing row with
  | nil => exact h
  | cons c cs ih =>
    rw [List.foldl_cons]
    by_cases hc : row.has c.name = true
    · rw [if_pos hc]
      exact ih h
    · rw [if_neg hc]
      exact ih (Fields.sorted_put h _ _)

theorem field?_fillTimes_eq (e : Entity) (stamp : Stamp) (row : Record) (k : String) :
    (fillTimes e stamp row).field? k = (row.field? k).or (e.filling? stamp k) := by
  rw [fillTimes, field?_fillColumns, List.any_filter, Entity.filling?]

theorem field?_fillTimes (hk : row.has k = true) :
    (fillTimes e stamp row).field? k = row.field? k := by
  obtain ⟨v, hv⟩ := Option.isSome_iff_exists.1 hk
  rw [field?_fillTimes_eq, hv, Option.some_or]

theorem fillDefaults_eq_ok (h : tx.fillDefaults e stamp row = .ok out) :
    ∃ keyed, tx.fillKey e stamp row = .ok keyed ∧ out = fillTimes e stamp keyed ∧
      nullColumn? e out = none := by
  obtain ⟨keyed, hkeyed, h⟩ := bind_eq_ok_iff.1 h
  cases hnull : nullColumn? e (fillTimes e stamp keyed) with
  | some c => simp only [hnull] at h; cases h
  | none =>
    simp only [hnull, Except.ok.injEq] at h
    subst h
    exact ⟨keyed, hkeyed, rfl, hnull⟩

/-- A field that a row has stays as it is, unless it is a key that is made up. -/
theorem get_fillDefaults (h : tx.fillDefaults e stamp row = .ok out) (hk : row.has k = true)
    (hup : e.makesUp k (row.get k) = false) : out.get k = row.get k := by
  obtain ⟨keyed, hkeyed, rfl, -⟩ := fillDefaults_eq_ok h
  rcases fillKey_eq_ok hkeyed with ⟨rfl, -⟩ | ⟨c, v, hc, hnull, -, rfl⟩
  · rw [Record.get, field?_fillTimes hk, Record.get]
  · have hne : c.name ≠ k := by
      rintro rfl
      rw [Entity.makesUp, hc, hnull] at hup
      simp at hup
    have hput : (row.put c.name v).field? k = row.field? k := by
      rw [Fields.field?_put, if_neg hne]
    have hhas : (row.put c.name v).has k = true := by
      rw [Fields.has, hput]
      exact hk
    rw [Record.get, field?_fillTimes hhas, hput, Record.get]

theorem get_fillDefaults_of_field? (h : tx.fillDefaults e stamp row = .ok out) {v : Json}
    (hk : row.field? k = some v) (hup : e.makesUp k v = false) : out.get k = v := by
  have hget := Record.get_of_field? hk
  rw [get_fillDefaults h (by rw [Fields.has, hk]; rfl) (by rw [hget, hup]), hget]

theorem isSome_bind_keyPart? (r : Record) (k : String) :
    ((r.field? k).bind keyPart?).isSome = !(r.get k).isNull := by
  rw [bind_keyPart?]
  cases r.get k <;> rfl

/-- A key is made up for a primary key of one column. -/
theorem primaryKey_of_generatedKey? {c : Column} (h : e.generatedKey? = some c) :
    e.primaryKey = [c.name] := by
  unfold Entity.generatedKey? at h
  split at h
  · rename_i name hkey
    obtain ⟨hcolumn, -⟩ := Option.filter_eq_some_iff.1 h
    have hname := List.find?_some hcolumn
    rw [beq_iff_eq] at hname
    rw [hkey, hname]
  · cases h

/-- A row with a complete key keeps every field that it has. -/
theorem field?_fillDefaults_of_key (h : tx.fillDefaults e stamp row = .ok out)
    (hkey : (e.key? row).isSome = true) (hk : row.has k = true) : out.field? k = row.field? k := by
  obtain ⟨keyed, hkeyed, rfl, -⟩ := fillDefaults_eq_ok h
  rcases fillKey_eq_ok hkeyed with ⟨rfl, -⟩ | ⟨c, v, hc, hnull, -, rfl⟩
  · exact field?_fillTimes hk
  · have hmem : c.name ∈ e.primaryKey := by
      rw [primaryKey_of_generatedKey? hc]
      exact List.mem_singleton_self _
    have hpart := ((Entity.key?_isSome_iff e row).1 hkey).2 c.name hmem
    rw [isSome_bind_keyPart?, hnull] at hpart
    cases hpart

/-- No field is lost. -/
theorem has_fillDefaults (h : tx.fillDefaults e stamp row = .ok out) (hk : row.has k = true) :
    out.has k = true := by
  obtain ⟨keyed, hkeyed, rfl, -⟩ := fillDefaults_eq_ok h
  have hhas : keyed.has k = true := by
    rcases fillKey_eq_ok hkeyed with ⟨rfl, -⟩ | ⟨c, v, -, -, -, rfl⟩
    · exact hk
    · rw [Fields.has, Fields.field?_put]
      by_cases hname : c.name = k
      · rw [if_pos hname]
        rfl
      · rw [if_neg hname]
        exact hk
  rw [Fields.has, field?_fillTimes hhas]
  exact hhas

theorem isNull_get_fillDefaults (h : tx.fillDefaults e stamp row = .ok out)
    (hup : e.makesUp k (row.get k) = true) : (out.get k).isNull = false := by
  obtain ⟨keyed, hkeyed, rfl, -⟩ := fillDefaults_eq_ok h
  rw [Entity.makesUp, Bool.and_eq_true, Option.any_eq_true] at hup
  obtain ⟨hnull, c, hc, hname⟩ := hup
  rw [beq_iff_eq] at hname
  subst hname
  rcases fillKey_eq_ok hkeyed with ⟨-, hno⟩ | ⟨c', v, hc', -, hv, rfl⟩
  · rw [hno c hc] at hnull
    cases hnull
  · rw [hc, Option.some.injEq] at hc'
    subst hc'
    have hput : (row.put c.name v).field? c.name = some v := by
      rw [Fields.field?_put, if_pos rfl]
    have hhas : (row.put c.name v).has c.name = true := by
      rw [Fields.has, hput]
      rfl
    rw [Record.get, field?_fillTimes hhas, hput]
    exact hv

theorem sorted_fillDefaults (h : tx.fillDefaults e stamp row = .ok out) (hrow : row.Sorted) :
    out.Sorted := by
  obtain ⟨keyed, hkeyed, rfl, -⟩ := fillDefaults_eq_ok h
  have hsorted : keyed.Sorted := by
    rcases fillKey_eq_ok hkeyed with ⟨rfl, -⟩ | ⟨c, v, -, -, -, rfl⟩
    · exact hrow
    · exact Fields.sorted_put hrow _ _
  exact sorted_fillColumns _ _ hsorted

theorem sorted_touch {current : Record} (h : current.Sorted) :
    (touch e stamp current row).Sorted := by
  rw [touch]
  split
  · exact Fields.sorted_put (Fields.sorted_overlay h row) _ _
  · exact Fields.sorted_overlay h row

/-! ## Failures -/

/-- Rows with the same fields, of which the same ones are null. -/
def SameShape (r s : Record) : Prop :=
  ∀ k, r.has k = s.has k ∧ (r.get k).isNull = (s.get k).isNull

theorem SameShape.put {r s : Record} (h : SameShape r s) {name : String} {v v' : Json}
    (hv : v.isNull = v'.isNull) : SameShape (r.put name v) (s.put name v') := by
  intro k
  rw [Fields.has, Fields.has, Record.get, Record.get, Fields.field?_put, Fields.field?_put]
  by_cases hk : name = k
  · rw [if_pos hk, if_pos hk]
    exact ⟨rfl, hv⟩
  · rw [if_neg hk, if_neg hk]
    exact h k

theorem sameShape_fillTimes {stamp' : Stamp} {r s : Record} (h : SameShape r s) :
    SameShape (fillTimes e stamp r) (fillTimes e stamp' s) := by
  rw [fillTimes, fillTimes]
  generalize e.columns.filter takesTime = cs
  induction cs generalizing r s with
  | nil => exact h
  | cons c cs ih =>
    rw [List.foldl_cons, List.foldl_cons, (h c.name).1]
    apply ih
    by_cases hc : s.has c.name = true
    · rw [if_pos hc, if_pos hc]
      exact h
    · rw [if_neg hc, if_neg hc]
      exact h.put rfl

theorem SameShape.nullColumn?_eq {r s : Record} (h : SameShape r s) :
    nullColumn? e r = nullColumn? e s := by
  rw [nullColumn?, nullColumn?]
  congr 1
  funext c
  rw [(h c.name).2]

theorem SameShape.isSome_key? {r s : Record} (h : SameShape r s) :
    (e.key? r).isSome = (e.key? s).isSome := by
  rw [Bool.eq_iff_iff, Entity.key?_isSome_iff, Entity.key?_isSome_iff]
  simp only [isSome_bind_keyPart?, (h _).2]

/-- Keys that are made up differ with the stamp, but whether one can be made up does not. -/
theorem fillKey_restamp (tx : Transaction) (e : Entity) (stamp stamp' : Stamp) (row : Record) :
    (∃ failure, tx.fillKey e stamp row = .error failure ∧
      tx.fillKey e stamp' row = .error failure) ∨
    ∃ out out', tx.fillKey e stamp row = .ok out ∧ tx.fillKey e stamp' row = .ok out' ∧
      SameShape out out' := by
  have hsame : SameShape row row := fun _ => ⟨rfl, rfl⟩
  rw [fillKey, fillKey]
  cases e.generatedKey? with
  | none => exact .inr ⟨row, row, rfl, rfl, hsame⟩
  | some c =>
    dsimp only
    by_cases hnull : (row.get c.name).isNull = true
    · rw [if_pos hnull, if_pos hnull, generate, generate]
      cases c.keyType with
      | none => exact .inl ⟨_, rfl, rfl⟩
      | some t =>
        cases t with
        | uuid => exact .inr ⟨_, _, rfl, rfl, hsame.put rfl⟩
        | bigInt => exact .inr ⟨_, _, rfl, rfl, hsame.put rfl⟩
        | int => exact .inr ⟨_, _, rfl, rfl, hsame.put rfl⟩
        | text => exact .inl ⟨_, rfl, rfl⟩
    · rw [if_neg hnull, if_neg hnull]
      exact .inr ⟨row, row, rfl, rfl, hsame⟩

theorem fillDefaults_restamp (tx : Transaction) (e : Entity) (stamp stamp' : Stamp)
    (row : Record) :
    (∃ failure, tx.fillDefaults e stamp row = .error failure ∧
      tx.fillDefaults e stamp' row = .error failure) ∨
    ∃ out out', tx.fillDefaults e stamp row = .ok out ∧ tx.fillDefaults e stamp' row = .ok out' ∧
      SameShape out out' := by
  simp only [fillDefaults, bind, Except.bind]
  rcases fillKey_restamp tx e stamp stamp' row with
    ⟨failure, hfail, hfail'⟩ | ⟨keyed, keyed', hfill, hfill', hshape⟩
  · rw [hfail, hfail']
    exact .inl ⟨failure, rfl, rfl⟩
  · have htimes : SameShape (fillTimes e stamp keyed) (fillTimes e stamp' keyed') :=
      sameShape_fillTimes hshape
    rw [hfill, hfill']
    dsimp only
    rw [← htimes.nullColumn?_eq (e := e)]
    cases nullColumn? e (fillTimes e stamp keyed) with
    | some c => exact .inl ⟨_, rfl, rfl⟩
    | none => exact .inr ⟨_, _, rfl, rfl, htimes⟩

/-- A row that cannot be staged cannot be staged at another time either. -/
theorem persist_error_restamp {r : Record} {mode : WriteMode} {failure : StoreError}
    (h : tx.persist e r mode stamp = .error failure) (stamp' : Stamp) :
    tx.persist e r mode stamp' = .error failure := by
  cases mode with
  | insert =>
    simp only [persist, insert, bind, Except.bind] at h ⊢
    rcases fillDefaults_restamp tx e stamp stamp' (e.columnFields r) with
      ⟨failure', hfail, hfail'⟩ | ⟨out, out', hfill, hfill', hshape⟩
    · rw [hfail] at h
      rw [hfail']
      exact h
    · rw [hfill] at h
      rw [hfill']
      dsimp only at h ⊢
      cases hkey : e.key? out with
      | some key => rw [hkey] at h; cases h
      | none =>
        have hnone : e.key? out' = none := by
          rw [← Option.not_isSome_iff_eq_none, ← hshape.isSome_key?, hkey]
          exact Bool.false_ne_true
        rw [hkey] at h
        rw [hnone]
        exact h
  | update =>
    simp only [persist, update] at h ⊢
    cases hkey : e.key? (e.columnFields r) with
    | none =>
      rw [hkey] at h
      exact h
    | some key =>
      rw [hkey] at h
      dsimp only at h ⊢
      cases hcurrent : tx.current? e key with
      | none =>
        rw [hcurrent] at h
        exact h
      | some current => rw [hcurrent] at h; cases h

/-! ## The time of a change -/

theorem field?_touch {current : Record} (hrow : row.Sorted) (hk : k ≠ updatedAt) :
    (touch e stamp current row).field? k = (row.field? k).or (current.field? k) := by
  rw [touch]
  split
  · rw [Fields.field?_put, if_neg (Ne.symm hk), Fields.field?_overlay_of_sorted _ hrow]
  · rw [Fields.field?_overlay_of_sorted _ hrow]

/-- A change loses no field that is written. -/
theorem has_touch {current : Record} (hrow : row.Sorted) (hk : row.has k = true) :
    (touch e stamp current row).has k = true := by
  have hmerged : ((current.overlay row).field? k).isSome = true := by
    rw [Fields.field?_overlay_of_sorted _ hrow, Option.isSome_or, ← Fields.has, hk, Bool.true_or]
  rw [touch, Fields.has]
  by_cases htime : e.hasColumn updatedAt = true
  · rw [if_pos htime, Fields.field?_put]
    by_cases hname : updatedAt = k
    · rw [if_pos hname]
      rfl
    · rw [if_neg hname]
      exact hmerged
  · rw [if_neg htime]
    exact hmerged

/-- A change leaves a row under the key that is written. -/
theorem key?_touch {current : Record} {key : RowKey} (he : updatedAt ∉ e.primaryKey)
    (hrow : row.Sorted) (hk : e.key? row = some key) :
    e.key? (touch e stamp current row) = some key := by
  rw [← hk]
  apply key?_congr
  intro l hl
  have hne : l ≠ updatedAt := by
    rintro rfl
    exact he hl
  have hsome := ((Entity.key?_isSome_iff e row).1 (by rw [hk]; rfl)).2 l hl
  rw [field?_touch hrow hne]
  cases hv : row.field? l with
  | none => rw [hv] at hsome; cases hsome
  | some v => rfl

end Transaction

end Depot
