import Depot.Proofs.Store.Defaults
import Depot.Proofs.Store.Reachable
import Depot.Proofs.Store.Rows

/-!
# Updates in place

A log fits the rows that it was staged for if each of its writes replaces a row that is there by
one of the same key: no such write takes away a row that a later one is for. So a transaction that
only updates rows in place can always be flushed, and committed if nobody has committed beside it.

* `Write.IsInPlace`: writes that replace a row that is there.
* `Entity.IsThere`: records that can be updated in place.
* `Transaction.IsInPlace`: transactions with such writes only.

Results:
* `flush_of_applyAll`, `commit_of_applyAll`: a log that fits is flushed and committed.
* `rows_applyAll_of_ne`: the rows of an entity that no write is of stay as they are.
* `Write.IsInPlace.exists_apply`: such a write fits, and those that are to follow still fit.
* `exists_applyAll_of_isInPlace`: such a log fits.
* `IsInPlace.exists_update`: a row that is there can be updated.
-/

namespace Depot

/-! ## Logs that fit -/

section

variable {m : Model} {t t' : Tables} {ws : List Write}

theorem applyPrefix_of_applyAll (h : applyAll m t ws = .ok t') :
    applyPrefix m t ws = ⟨t', ws, none⟩ := by
  induction ws generalizing t with
  | nil =>
    cases h
    rfl
  | cons w ws ih =>
    obtain ⟨t₁, hw, hrest⟩ := applyAll_cons_iff.1 h
    simp only [applyPrefix, hw, ih hrest]

theorem Transaction.flush_of_applyAll {tx : Transaction}
    (h : applyAll m tx.working tx.staged = .ok t) :
    tx.flush m = (⟨t, [], tx.flushed ++ tx.staged⟩, .ok ()) := by
  simp only [flush, applyPrefix_of_applyAll h]

/-- A log that was flushed is committed if it fits the committed rows. -/
theorem Database.commit_of_applyAll {db : Database} {working : Tables}
    (h : applyAll db.model db.tables ws = .ok t) :
    db.commit ⟨working, [], ws⟩ = .ok { db with tables := t } := by
  have hflush : (Transaction.mk working [] ws).flush db.model =
      (⟨working, [], ws ++ []⟩, .ok ()) := Transaction.flush_of_applyAll rfl
  rw [List.append_nil] at hflush
  simp only [commit, hflush, h]
  rfl

/-- The rows of an entity that no write is of stay as they are. -/
theorem rows_applyAll_of_ne (h : applyAll m t ws = .ok t') {name : String}
    (hws : ∀ w ∈ ws, w.entity ≠ name) : t'.rows name = t.rows name := by
  refine applyAll_induction (P := fun t' => t'.rows name = t.rows name) ?_ rfl h
  intro w hw t₁ t₂ hrows hstep
  rw [rows_apply_of_ne hstep (hws w hw), hrows]

end

/-! ## Writes in place -/

/-- A write that replaces a row that is there by one of the same key. -/
def Write.IsInPlace (m : Model) (t : Tables) (w : Write) : Prop :=
  ∃ e row, w = .update w.entity w.key row ∧ m.entity? w.entity = some e ∧
    e.key? row = some w.key ∧ ∃ q ∈ t.rows w.entity, e.key? q = some w.key

section

variable {m : Model} {t : Tables} {ws : List Write}

/-- The step lemma: the write fits, and it leaves all keys where they are. -/
theorem Write.IsInPlace.exists_apply {w : Write} (h : w.IsInPlace m t) :
    ∃ t', w.apply m t = .ok t' ∧ ∀ v : Write, v.IsInPlace m t → v.IsInPlace m t' := by
  obtain ⟨e, row, hw, he, hkey, q, hq, hqkey⟩ := h
  obtain ⟨before, p, after, hsplit, hp, hbefore⟩ : ∃ before p after,
      t.rows w.entity = before ++ p :: after ∧ e.key? p = some w.key ∧
        ∀ r ∈ before, e.key? r ≠ some w.key := by
    obtain ⟨p, hfind⟩ := Option.isSome_iff_exists.1
      (List.find?_isSome.2 ⟨q, hq, hasKey_iff.2 hqkey⟩)
    obtain ⟨hp, before, after, hsplit, hbefore⟩ := List.find?_eq_some_iff_append.1 hfind
    refine ⟨before, p, after, hsplit, hasKey_iff.1 hp, fun r hr hrkey => ?_⟩
    have hnot := hbefore r hr
    rw [hasKey_iff.2 hrkey] at hnot
    cases hnot
  have hrows : w.applyToRows e (t.rows w.entity) = .ok (before ++ row :: after) := by
    rw [hsplit, hw]
    exact Write.applyToRows_update_iff.2 (replaceRow?_of_split hbefore hp)
  refine ⟨t.set w.entity (before ++ row :: after), ?_, ?_⟩
  · rw [Write.apply, he]
    simp only [hrows]
    rfl
  · rintro v ⟨e', row', hv, he', hkey', q', hq', hqkey'⟩
    refine ⟨e', row', hv, he', hkey', ?_⟩
    rw [Tables.rows_set]
    by_cases hname : v.entity = w.entity
    · rw [if_pos hname]
      obtain rfl : e' = e := by
        rw [hname, he, Option.some.injEq] at he'
        exact he'.symm
      rw [hname, hsplit] at hq'
      rcases List.mem_append.1 hq' with hq' | hq'
      · exact ⟨q', List.mem_append_left _ hq', hqkey'⟩
      · rcases List.mem_cons.1 hq' with rfl | hq'
        · exact ⟨row, List.mem_append_right _ List.mem_cons_self,
            hkey.trans (hp.symm.trans hqkey')⟩
        · exact ⟨q', List.mem_append_right _ (List.mem_cons_of_mem _ hq'), hqkey'⟩
    · rw [if_neg hname]
      exact ⟨q', hq', hqkey'⟩

theorem exists_applyAll_of_isInPlace (h : ∀ w ∈ ws, w.IsInPlace m t) :
    ∃ t', applyAll m t ws = .ok t' := by
  induction ws generalizing t with
  | nil => exact ⟨t, rfl⟩
  | cons w ws ih =>
    obtain ⟨t₁, hstep, hkeep⟩ := (h w List.mem_cons_self).exists_apply
    obtain ⟨t', hrest⟩ := ih fun v hv => hkeep v (h v (List.mem_cons_of_mem _ hv))
    exact ⟨t', applyAll_cons_iff.2 ⟨t₁, hstep, hrest⟩⟩

end

/-! ## Transactions in place -/

/-- A record whose columns are under the key of a row that is there. -/
structure Entity.IsThere (e : Entity) (rows : List Record) (r : Record) : Prop where
  sorted : (e.columnFields r).Sorted
  key : ∃ q ∈ rows, ∃ key, e.key? q = some key ∧ e.key? (e.columnFields r) = some key

namespace Transaction

/-- A transaction that has flushed nothing, and only updates in place the rows that it works on. -/
structure IsInPlace (m : Model) (tx : Transaction) : Prop where
  flushed : tx.flushed = []
  staged : ∀ w ∈ tx.staged, w.IsInPlace m tx.working

variable {m : Model} {tx : Transaction}

theorem isInPlace_begin (m : Model) (db : Database) : db.begin.IsInPlace m where
  flushed := rfl
  staged := by
    intro w hw
    cases hw

/-- A row that is there is there still. -/
theorem IsInPlace.exists_current (h : tx.IsInPlace m) {e : Entity} {key : RowKey}
    {q : Record} (hq : q ∈ tx.working.rows e.name) (hkey : e.key? q = some key) :
    ∃ current, tx.current? e key = some current := by
  rw [current?]
  split
  · rename_i w hw
    obtain ⟨e', row, hupdate, -⟩ :=
      h.staged w (List.mem_reverse.1 (List.mem_of_find?_eq_some hw))
    rw [hupdate]
    exact ⟨row, rfl⟩
  · exact Option.isSome_iff_exists.1 (List.find?_isSome.2 ⟨q, hq, hasKey_iff.2 hkey⟩)

/-- The step lemma: a record under the key of a row that is there can be staged over it. -/
theorem IsInPlace.exists_update (h : tx.IsInPlace m) {e : Entity}
    (he : m.entity? e.name = some e) (htime : updatedAt ∉ e.primaryKey) {r : Record}
    (hr : e.IsThere (tx.working.rows e.name) r) (stamp : Stamp) :
    ∃ saved tx', tx.update e r stamp = .ok (saved, tx') ∧ tx'.IsInPlace m ∧
      tx'.working = tx.working := by
  obtain ⟨q, hq, key, hqkey, hkey⟩ := hr.key
  obtain ⟨current, hcurrent⟩ := h.exists_current hq hqkey
  have hupdate : tx.update e r stamp = .ok (touch e stamp current (e.columnFields r),
      tx.stage (.update e.name key (touch e stamp current (e.columnFields r)))) := by
    simp only [update, hkey, hcurrent]
  refine ⟨_, _, hupdate, ⟨h.flushed, forall_mem_stage h.staged ?_⟩, rfl⟩
  exact ⟨e, _, rfl, he, key?_touch htime hr.sorted hkey, q, hq, hqkey⟩

end Transaction

end Depot
