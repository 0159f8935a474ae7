import Depot.Proofs.Store.NotNull
import Depot.Sql.Query
import Mathlib.Data.List.Find

/-!
# Nulls in columns with a default

A null in a column with a default asks for the default, as if the record left the column out. The
statement of an insertion takes it so in every column. The store in memory takes it so in the key
that it makes up. In all other columns it asks whether the field is there: a null stays in the
row, where a field that is left out gets the time or stays away.

* `Entity.leaveOut`: a record without nulls that ask for a default.
* `Record.NullsBecome`: rows that differ in fields that are null in the first one.

Results:
* `insert_leaveOut`: the statement does not depend on such nulls.
* `fillKey_nullsBecome`, `fillDefaults_nullsBecome`: the two rows at each step of the defaults.
* `insertions_agree_iff`: the store stages the same row exactly if every such null is in the key
  that it makes up, or the row cannot be staged.
* `not_insertions_agree`: it does not always stage the same row.
-/

namespace Depot

namespace Entity

/-- Whether the columns of a name have a default. -/
def defaults (e : Entity) (name : String) : Bool :=
  e.hasColumn name && e.columns.all fun c => c.hasDefault || c.name != name

/-- Whether a field is among the given ones and a null that asks for a default. -/
def asksDefault (e : Entity) (p : String → Bool) (r : Record) (name : String) : Bool :=
  p name && e.defaults name && r.field? name == some .null

/-- A record without the nulls among the given fields that ask for a default. -/
def leaveOut (e : Entity) (p : String → Bool) (r : Record) : Record :=
  r.restrict fun name => !e.asksDefault p r name

end Entity

/-- The second row has what is given in place of some of the fields of the first, which are null
    there, and is otherwise the same. -/
structure Record.NullsBecome (nulls : String → Bool) (instead : String → Option Json)
    (row other : Record) : Prop where
  null : ∀ k, nulls k = true → row.field? k = some .null
  field? : ∀ k, other.field? k = if nulls k then instead k else row.field? k

variable {e : Entity} {p nulls : String → Bool} {instead : String → Option Json}
  {r row other : Record} {stamp : Stamp} {k : String}

/-! ## Records -/

namespace Entity

theorem asksDefault_iff : e.asksDefault p r k = true ↔
    p k = true ∧ e.defaults k = true ∧ r.field? k = some .null := by
  simp [asksDefault, and_assoc]

theorem hasDefault_of_defaults {c : Column} (h : e.defaults c.name = true) (hc : c ∈ e.columns) :
    c.hasDefault = true := by
  simp only [defaults, Bool.and_eq_true, List.all_eq_true] at h
  simpa using h.2 c hc

theorem get_leaveOut (e : Entity) (p : String → Bool) (r : Record) (k : String) :
    Record.get (e.leaveOut p r) k = r.get k := by
  rw [Record.get, leaveOut, Fields.field?_restrict]
  cases hasks : e.asksDefault p r k with
  | false => rfl
  | true =>
    rw [Record.get_of_field? (asksDefault_iff.1 hasks).2.2]
    rfl

theorem sorted_leaveOut (h : r.Sorted) : (e.leaveOut p r).Sorted := Fields.sorted_restrict h _

end Entity

namespace Record.NullsBecome

theorem field?_of_eq_false (h : NullsBecome nulls instead row other) (hk : nulls k = false) :
    Fields.field? other k = Fields.field? row k := by
  rw [h.field?, hk]
  rfl

theorem get_of_eq_false (h : NullsBecome nulls instead row other) (hk : nulls k = false) :
    other.get k = row.get k := by
  rw [Record.get, h.field?_of_eq_false hk, Record.get]

theorem get_of_eq_none (h : NullsBecome nulls instead row other) (hk : instead k = none) :
    other.get k = row.get k := by
  cases hnull : nulls k with
  | false => exact h.get_of_eq_false hnull
  | true =>
    rw [Record.get_of_field? (h.null k hnull), Record.get, h.field?, hnull, if_pos rfl, hk]
    rfl

/-- Key fields are not null, so that a complete key stays. -/
theorem key?_eq (h : NullsBecome nulls instead row other) {key : RowKey}
    (hkey : e.key? row = some key) : e.key? other = some key := by
  rw [← hkey]
  apply key?_congr
  intro name hname
  have hpart := ((Entity.key?_isSome_iff e row).1 (by rw [hkey]; rfl)).2 name hname
  have hnot : nulls name = false := by
    apply Bool.eq_false_iff.2
    intro hnull
    rw [h.null name hnull] at hpart
    cases hpart
  rw [h.field?_of_eq_false hnot]

/-- The store fills in no nulls, so that the rows are the same only if there is nothing to fill. -/
theorem eq_iff (h : NullsBecome nulls (e.filling? stamp) row other) (hrow : row.Sorted)
    (hother : other.Sorted) : other = row ↔ ∀ k, nulls k = false := by
  constructor
  · intro heq k
    apply Bool.eq_false_iff.2
    intro hnull
    have hfield := h.field? k
    rw [heq, h.null k hnull, hnull, if_pos rfl, Entity.filling?] at hfield
    split at hfield <;> cases hfield
  · exact fun hnot => Fields.ext_of_sorted hother hrow fun k => h.field?_of_eq_false (hnot k)

end Record.NullsBecome

open Record (NullsBecome)

theorem nullsBecome_columnFields (e : Entity) (p : String → Bool) (r : Record) :
    NullsBecome (e.asksDefault p r) (fun _ => none) (e.columnFields r)
      (e.columnFields (e.leaveOut p r)) where
  null k hk := by
    obtain ⟨-, hdefaults, hnull⟩ := Entity.asksDefault_iff.1 hk
    rw [Entity.columnFields, Fields.field?_restrict, if_pos (Bool.and_eq_true_iff.1 hdefaults).1,
      hnull]
  field? k := by
    rw [Entity.columnFields, Entity.columnFields, Entity.leaveOut, Fields.field?_restrict,
      Fields.field?_restrict, Fields.field?_restrict]
    cases e.asksDefault p r k <;> simp

/-! ## The statement -/

namespace Sql

/-- The statement of an insertion depends on the values of a record, and a field that is left out
    counts as null. -/
theorem insert_congr {schema : Option String} {s : Record} (h : ∀ k, s.get k = r.get k) :
    insert schema e s = insert schema e r := by
  have hcolumns : insertedColumns e s = insertedColumns e r := by
    rw [insertedColumns, insertedColumns]
    simp only [h]
  rw [insert, insert, hcolumns]
  simp only [h]

theorem insert_leaveOut (schema : Option String) (e : Entity) (p : String → Bool) (r : Record) :
    insert schema e (e.leaveOut p r) = insert schema e r :=
  insert_congr (e.get_leaveOut p r)

end Sql

/-! ## The store in memory -/

namespace Transaction

variable {tx : Transaction}

/-- The key that is made up is the same for a null as for no field. -/
theorem fillKey_nullsBecome (h : NullsBecome nulls (fun _ => none) row other) :
    (∃ failure, tx.fillKey e stamp row = .error failure ∧
      tx.fillKey e stamp other = .error failure) ∨
    ∃ keyed keyed', tx.fillKey e stamp row = .ok keyed ∧ tx.fillKey e stamp other = .ok keyed' ∧
      NullsBecome (fun k => nulls k && !e.makesUp k .null) (fun _ => none) keyed keyed' := by
  rw [fillKey, fillKey]
  cases hkey : e.generatedKey? with
  | none =>
    refine .inr ⟨row, other, rfl, rfl, ?_⟩
    simpa [Entity.makesUp, hkey] using h
  | some c =>
    have hup : ∀ k, e.makesUp k .null = (c.name == k) := by
      intro k
      simp [Entity.makesUp, hkey, Json.isNull]
    simp only [hup, h.get_of_eq_none rfl]
    by_cases hnull : (row.get c.name).isNull = true
    · rw [if_pos hnull, if_pos hnull]
      cases tx.generate e c stamp with
      | error failure => exact .inl ⟨failure, rfl, rfl⟩
      | ok v =>
        refine .inr ⟨row.put c.name v, other.put c.name v, rfl, rfl, ?_, ?_⟩
        · intro k hk
          simp only [Bool.and_eq_true, Bool.not_eq_true', beq_eq_false_iff_ne] at hk
          rw [Fields.field?_put, if_neg hk.2, h.null k hk.1]
        · intro k
          rw [Fields.field?_put, Fields.field?_put, h.field?]
          by_cases hname : c.name = k <;> simp [hname]
    · -- the key has a value, so it is none of the nulls
      have hnot : nulls c.name = false := by
        apply Bool.eq_false_iff.2
        intro hc
        rw [Record.get_of_field? (h.null _ hc)] at hnull
        exact hnull rfl
      have hsame : (fun k => nulls k && !(c.name == k)) = nulls := by
        funext k
        by_cases hname : c.name = k
        · rw [← hname, hnot]
          rfl
        · simp [hname]
      rw [if_neg hnull, if_neg hnull, hsame]
      exact .inr ⟨row, other, rfl, rfl, h⟩

/-- A null keeps the time away that a field left out would get. -/
theorem nullsBecome_fillTimes (h : NullsBecome nulls (fun _ => none) row other) :
    NullsBecome nulls (e.filling? stamp) (fillTimes e stamp row) (fillTimes e stamp other) where
  null k hk := by
    rw [field?_fillTimes_eq, h.null k hk]
    rfl
  field? k := by
    rw [field?_fillTimes_eq, field?_fillTimes_eq, h.field?]
    split <;> rfl

theorem nullColumn?_eq_of_nullsBecome (h : NullsBecome nulls instead row other)
    (hnulls : ∀ k, nulls k = true → e.defaults k = true) :
    nullColumn? e other = nullColumn? e row := by
  rw [nullColumn?, nullColumn?]
  refine List.find?_congr fun c hc => ?_
  cases hnull : nulls c.name with
  | false => rw [h.get_of_eq_false hnull]
  | true => simp [Entity.hasDefault_of_defaults (hnulls _ hnull) hc]

theorem fillDefaults_nullsBecome (tx : Transaction) (stamp : Stamp)
    (h : NullsBecome nulls (fun _ => none) row other)
    (hnulls : ∀ k, nulls k = true → e.defaults k = true) :
    (∃ failure, tx.fillDefaults e stamp row = .error failure ∧
      tx.fillDefaults e stamp other = .error failure) ∨
    ∃ out out', tx.fillDefaults e stamp row = .ok out ∧ tx.fillDefaults e stamp other = .ok out' ∧
      NullsBecome (fun k => nulls k && !e.makesUp k .null) (e.filling? stamp) out out' := by
  simp only [fillDefaults, bind, Except.bind]
  rcases fillKey_nullsBecome h with
    ⟨failure, hfail, hfail'⟩ | ⟨keyed, keyed', hfill, hfill', hkeyed⟩
  · rw [hfail, hfail']
    exact .inl ⟨failure, rfl, rfl⟩
  · have htimes : NullsBecome _ (e.filling? stamp) (fillTimes e stamp keyed)
        (fillTimes e stamp keyed') := nullsBecome_fillTimes hkeyed
    have hcolumn : nullColumn? e (fillTimes e stamp keyed') =
        nullColumn? e (fillTimes e stamp keyed) :=
      nullColumn?_eq_of_nullsBecome htimes fun k hk => hnulls k (Bool.and_eq_true_iff.1 hk).1
    rw [hfill, hfill']
    dsimp only
    rw [hcolumn]
    cases nullColumn? e (fillTimes e stamp keyed) with
    | some c => exact .inl ⟨_, rfl, rfl⟩
    | none => exact .inr ⟨_, _, rfl, rfl, htimes⟩

/-- Stages a new row that has its defaults. -/
def stageNew (tx : Transaction) (e : Entity) (row : Record) :
    Except StoreError (Record × Transaction) :=
  match e.key? row with
  | none => .error (.backend (noKey e))
  | some key => .ok (row, tx.stage (.insert e.name key row))

theorem insert_eq (tx : Transaction) (e : Entity) (r : Record) (stamp : Stamp) :
    tx.insert e r stamp = tx.fillDefaults e stamp (e.columnFields r) >>= tx.stageNew e := rfl

theorem stageNew_of_key? {key : RowKey} (h : e.key? row = some key) :
    tx.stageNew e row = .ok (row, tx.stage (.insert e.name key row)) := by
  rw [stageNew, h]

theorem stageNew_of_none (h : e.key? row = none) :
    tx.stageNew e row = .error (.backend (noKey e)) := by
  rw [stageNew, h]

/-- The defaults fail for both records, or there are two rows, of which the one without the nulls
    has what the store fills in. -/
theorem persist_leaveOut_cases (tx : Transaction) (e : Entity) (p : String → Bool) (stamp : Stamp)
    (hr : r.Sorted) :
    (∃ failure, tx.persist e r .insert stamp = .error failure ∧
      tx.persist e (e.leaveOut p r) .insert stamp = .error failure) ∨
    ∃ row row', row.Sorted ∧ row'.Sorted ∧
      NullsBecome (fun k => e.asksDefault p r k && !e.makesUp k .null) (e.filling? stamp) row row' ∧
      tx.persist e r .insert stamp = tx.stageNew e row ∧
      tx.persist e (e.leaveOut p r) .insert stamp = tx.stageNew e row' := by
  have hsorted : (e.columnFields r).Sorted := Fields.sorted_restrict hr _
  have hsorted' : (e.columnFields (e.leaveOut p r)).Sorted :=
    Fields.sorted_restrict (Entity.sorted_leaveOut hr) _
  have hdefaults : ∀ k, e.asksDefault p r k = true → e.defaults k = true :=
    fun k hk => (Entity.asksDefault_iff.1 hk).2.1
  simp only [persist, insert_eq]
  rcases fillDefaults_nullsBecome tx stamp (nullsBecome_columnFields e p r) hdefaults with
    ⟨failure, hfail, hfail'⟩ | ⟨row, row', hfill, hfill', hrows⟩
  · rw [hfail, hfail']
    exact .inl ⟨failure, rfl, rfl⟩
  · rw [hfill, hfill']
    exact .inr ⟨row, row', sorted_fillDefaults hfill hsorted, sorted_fillDefaults hfill' hsorted',
      hrows, rfl, rfl⟩

/-- Staging tells the rows apart unless it fails. -/
theorem stageNew_eq_iff (h : NullsBecome nulls instead row other) :
    tx.stageNew e other = tx.stageNew e row ↔
      other = row ∨ ∃ failure, tx.stageNew e other = .error failure := by
  cases hkey' : e.key? other with
  | none =>
    -- a row without a complete key has none with nulls either
    have hkey : e.key? row = none := by
      cases hkey : e.key? row with
      | none => rfl
      | some key => exact nomatch hkey'.symm.trans (h.key?_eq hkey)
    rw [stageNew_of_none hkey, stageNew_of_none hkey']
    exact iff_of_true rfl (.inr ⟨_, rfl⟩)
  | some key' =>
    rw [stageNew_of_key? hkey']
    constructor
    · intro heq
      cases hkey : e.key? row with
      | none =>
        rw [stageNew_of_none hkey] at heq
        cases heq
      | some key =>
        rw [stageNew_of_key? hkey, Except.ok.injEq] at heq
        exact .inl (congrArg Prod.fst heq)
    · rintro (rfl | ⟨failure, hfail⟩)
      · exact (stageNew_of_key? hkey').symm
      · cases hfail

theorem persist_leaveOut_eq_iff (tx : Transaction) (e : Entity) (p : String → Bool)
    (stamp : Stamp) (hr : r.Sorted) :
    tx.persist e (e.leaveOut p r) .insert stamp = tx.persist e r .insert stamp ↔
      (∀ k, e.asksDefault p r k = true → e.makesUp k .null = true) ∨
        ∃ failure, tx.persist e (e.leaveOut p r) .insert stamp = .error failure := by
  rcases persist_leaveOut_cases tx e p stamp hr with
    ⟨failure, hfail, hfail'⟩ | ⟨row, row', hrow, hrow', hrows, hstage, hstage'⟩
  · rw [hfail, hfail']
    exact iff_of_true rfl (.inr ⟨failure, rfl⟩)
  · rw [hstage, hstage', stageNew_eq_iff hrows, hrows.eq_iff hrow hrow']
    refine or_congr_left (forall_congr' fun k => ?_)
    cases e.asksDefault p r k <;> simp

/-- A record that can be inserted can be inserted without the nulls, and what is stored differs in
    the place of nulls only. -/
theorem persist_leaveOut_ok {tx' : Transaction} (hr : r.Sorted)
    (h : tx.persist e r .insert stamp = .ok (row, tx')) :
    ∃ row' tx'', tx.persist e (e.leaveOut p r) .insert stamp = .ok (row', tx'') ∧
      NullsBecome (fun k => e.asksDefault p r k && !e.makesUp k .null) (e.filling? stamp)
        row row' := by
  rcases persist_leaveOut_cases tx e p stamp hr with
    ⟨failure, hfail, -⟩ | ⟨filled, row', -, -, hrows, hstage, hstage'⟩
  · rw [hfail] at h
    cases h
  · rw [hstage] at h
    cases hkey : e.key? filled with
    | none =>
      rw [stageNew_of_none hkey] at h
      cases h
    | some key =>
      rw [stageNew_of_key? hkey, Except.ok.injEq, Prod.mk.injEq] at h
      rw [hstage', stageNew_of_key? (hrows.key?_eq hkey), ← h.1]
      exact ⟨row', _, rfl, hrows⟩

end Transaction

/-- The statement is the same without the nulls that ask for a default. The store in memory stages
    the same row exactly if all of them are in the key that it makes up, or if it can stage none;
    and a row that it does stage keeps the others, where it would fill in the time or nothing. -/
theorem insertions_agree_iff (schema : Option String) (tx : Transaction) (e : Entity)
    (p : String → Bool) (stamp : Stamp) (hr : r.Sorted) :
    Sql.insert schema e (e.leaveOut p r) = Sql.insert schema e r ∧
      (tx.persist e (e.leaveOut p r) .insert stamp = tx.persist e r .insert stamp ↔
        (∀ k, e.asksDefault p r k = true → e.makesUp k .null = true) ∨
          ∃ failure, tx.persist e (e.leaveOut p r) .insert stamp = .error failure) ∧
      ∀ row tx', tx.persist e r .insert stamp = .ok (row, tx') →
        ∃ row' tx'', tx.persist e (e.leaveOut p r) .insert stamp = .ok (row', tx'') ∧
          ∀ k, if e.asksDefault p r k && !e.makesUp k .null
            then row.field? k = some .null ∧ row'.field? k = e.filling? stamp k
            else row'.field? k = row.field? k := by
  refine ⟨Sql.insert_leaveOut schema e p r, Transaction.persist_leaveOut_eq_iff tx e p stamp hr, ?_⟩
  intro row tx' hrow
  obtain ⟨row', tx'', hrow', hrows⟩ := Transaction.persist_leaveOut_ok hr hrow
  refine ⟨row', tx'', hrow', fun k => ?_⟩
  split
  · rename_i hk
    refine ⟨hrows.null k hk, ?_⟩
    rw [hrows.field?, hk, if_pos rfl]
  · rename_i hk
    exact hrows.field?_of_eq_false (Bool.eq_false_iff.2 hk)

/-! ## Visits -/

namespace Visits

/-- Visits have a key that the store makes up and the time at which they are seen. -/
def entity : Entity :=
  ⟨"visit", "public", "visit", ["id"],
    [⟨"id", some .uuid, false, true, "uuid"⟩, ⟨"seen_at", none, true, true, "timestamptz"⟩], [], []⟩

/-- A transaction that sees no visits. -/
def transaction : Transaction := .start .empty

/-- What the world supplies to an insertion. -/
def visit : Stamp := ⟨"now", "fresh"⟩

/-- A visit that was seen before and gets a key. -/
def unnamed : Record := [("id", .null), ("seen_at", .str "then")]

/-- A visit with a key and without a time. -/
def unseen : Record := [("id", .str "1"), ("seen_at", .null)]

theorem sorted_unnamed : unnamed.Sorted := by
  rw [Fields.sorted_iff_keys]
  show ["id", "seen_at"].Pairwise (· < ·)
  decide

theorem sorted_unseen : unseen.Sorted := by
  rw [Fields.sorted_iff_keys]
  show ["id", "seen_at"].Pairwise (· < ·)
  decide

end Visits

open Visits in
/-- A key is made up for a null as for no key. -/
theorem insertions_agree_visits :
    entity.leaveOut (fun _ => true) unnamed = [("seen_at", .str "then")] ∧
      Sql.insert none entity [("seen_at", .str "then")] = Sql.insert none entity unnamed ∧
      transaction.persist entity [("seen_at", .str "then")] .insert visit =
        transaction.persist entity unnamed .insert visit := by
  have hleft : entity.leaveOut (fun _ => true) unnamed = [("seen_at", .str "then")] := by
    decide +kernel
  obtain ⟨hsql, hstore, -⟩ := insertions_agree_iff none transaction entity (fun _ => true) visit
    sorted_unnamed
  rw [hleft] at hsql hstore
  refine ⟨hleft, hsql, hstore.2 (.inl ?_)⟩
  intro k hk
  obtain ⟨-, -, hnull⟩ := Entity.asksDefault_iff.1 hk
  have hmem := Fields.mem_of_field? hnull
  simp only [unnamed, List.mem_cons, Prod.mk.injEq, reduceCtorEq, and_false, and_true,
    List.not_mem_nil, or_false] at hmem
  rw [hmem]
  rfl

/-- A null keeps the time away from a visit, though the database would set it. -/
theorem not_insertions_agree :
    ¬∀ (schema : Option String) (tx : Transaction) (e : Entity) (p : String → Bool)
      (stamp : Stamp) (r : Record), r.Sorted →
        Sql.insert schema e (e.leaveOut p r) = Sql.insert schema e r ∧
          tx.persist e (e.leaveOut p r) .insert stamp = tx.persist e r .insert stamp := by
  intro h
  have hsame := (h none Visits.transaction Visits.entity (fun _ => true) Visits.visit
    Visits.unseen Visits.sorted_unseen).2
  have hrow : (Visits.transaction.persist Visits.entity Visits.unseen .insert Visits.visit).map
      Prod.fst = .ok [("id", .str "1"), ("seen_at", .null)] := by rfl
  have hrow' : (Visits.transaction.persist Visits.entity
      (Visits.entity.leaveOut (fun _ => true) Visits.unseen) .insert Visits.visit).map Prod.fst =
        .ok [("id", .str "1"), ("seen_at", .str "now")] := by rfl
  rw [hsame, hrow] at hrow'
  cases hrow'

end Depot
