import Depot.Proofs.Store.Rows

/-!
# Batches of writes of one kind

What updates of several keys, insertions, and removals do to rows with keys, each kind on its own
and one after the other.

* `IsUpdated`, `IsChanged`: what becomes of the rows.
* `AreBatches`: writes of all three kinds.

Results:
* `applyRows_updates`: every row stays in place under its key, and is replaced if an update has it.
* `applyRows_inserts`: the new rows come after the others, under keys that no other row has.
* `applyRows_removes`: the rows are left that no removal has the key of.
* `applyRows_batches`: updates, then insertions, then removals.
-/

namespace Depot

variable {e : Entity} {rows rows' : List Record} {ws : List Write}

/-- Rows after updates of different keys: `g` says what becomes of each row. -/
structure IsUpdated (e : Entity) (rows : List Record) (ws : List Write) (g : Record → Record) :
    Prop where
  key : ∀ r ∈ rows, e.key? (g r) = e.key? r
  kept : ∀ r ∈ rows, (∀ v ∈ ws, e.key? r ≠ some v.key) → g r = r
  replaced : ∀ r ∈ rows, ∀ v ∈ ws, ∀ row, v.row? = some row → e.key? r = some v.key → g r = row

/-- An update of another key before the others: first it replaces its row. -/
theorem IsUpdated.cons {key : RowKey} {row : Record} {g : Record → Record}
    (hkey : e.key? row = some key) (hothers : ∀ u ∈ ws, u.key ≠ key)
    (h : IsUpdated e (rows.map fun r => if e.key? r = some key then row else r) ws g) :
    IsUpdated e rows (.update e.name key row :: ws)
      fun r => g (if e.key? r = some key then row else r) where
  key r hr := (h.key _ (List.mem_map_of_mem hr)).trans (Entity.IsKeyed.key?_replaced hkey r)
  kept r hr hno := by
    have hne : e.key? r ≠ some key := hno _ List.mem_cons_self
    have hkept := h.kept _ (List.mem_map_of_mem hr)
    rw [Entity.IsKeyed.key?_replaced hkey, if_neg hne] at hkept
    rw [if_neg hne]
    exact hkept fun u hu => hno u (List.mem_cons_of_mem _ hu)
  replaced r hr u hu new hnew hru := by
    rcases List.mem_cons.1 hu with rfl | hu
    · cases hnew
      have hsame : e.key? r = some key := hru
      have hkept := h.kept _ (List.mem_map_of_mem hr)
      rw [Entity.IsKeyed.key?_replaced hkey, if_pos hsame, hsame] at hkept
      rw [if_pos hsame]
      exact hkept fun u hu hukey => hothers u hu (Option.some.inj hukey).symm
    · exact h.replaced _ (List.mem_map_of_mem hr) u hu new hnew
        ((Entity.IsKeyed.key?_replaced hkey r).trans hru)

theorem applyRows_updates (hkeyed : e.IsKeyed rows)
    (hws : ∀ v ∈ ws, ∃ key row, v = .update e.name key row ∧ e.key? row = some key)
    (hdistinct : ws.Pairwise fun v u => v.key ≠ u.key) (h : applyRows e rows ws = .ok rows') :
    ∃ g, rows' = rows.map g ∧ IsUpdated e rows ws g := by
  induction ws generalizing rows with
  | nil =>
    cases h
    refine ⟨id, (List.map_id _).symm, fun _ _ => rfl, fun _ _ _ => rfl, ?_⟩
    intro r _ v hv
    cases hv
  | cons v ws ih =>
    obtain ⟨rows₁, hstep, hrest⟩ := bind_eq_ok_iff.1 h
    obtain ⟨hv, hothers⟩ := List.pairwise_cons.1 hdistinct
    obtain ⟨key, row, rfl, hkey⟩ := hws v List.mem_cons_self
    have hreplace := Write.applyToRows_update_iff.1 hstep
    obtain ⟨g, hg, hupdated⟩ := ih (hkeyed.replace hkey hreplace)
      (fun u hu => hws u (List.mem_cons_of_mem _ hu)) hothers hrest
    rw [hkeyed.replaceRow?_eq_map hreplace] at hg hupdated
    refine ⟨_, ?_, hupdated.cons hkey fun u hu hsame => hv u hu hsame.symm⟩
    rw [hg, List.map_map]
    rfl

theorem applyRows_inserts
    (hws : ∀ v ∈ ws, ∃ key row, v = .insert e.name key row ∧ e.key? row = some key)
    (h : applyRows e rows ws = .ok rows') :
    rows' = rows ++ ws.filterMap Write.row? ∧
      ∀ row ∈ ws.filterMap Write.row?, ∀ r ∈ rows, e.key? r ≠ e.key? row := by
  induction ws generalizing rows with
  | nil =>
    cases h
    refine ⟨(List.append_nil _).symm, ?_⟩
    intro row hrow
    cases hrow
  | cons v ws ih =>
    obtain ⟨rows₁, hstep, hrest⟩ := bind_eq_ok_iff.1 h
    obtain ⟨key, row, rfl, hkey⟩ := hws v List.mem_cons_self
    obtain ⟨hfind, rfl⟩ := Write.applyToRows_insert_iff.1 hstep
    obtain ⟨hrows, hfresh⟩ := ih (fun u hu => hws u (List.mem_cons_of_mem _ hu)) hrest
    rw [List.filterMap_cons_some (show (Write.insert e.name key row).row? = some row from rfl)]
    constructor
    · rw [hrows, List.append_assoc]
      rfl
    · intro new hnew r hr
      rcases List.mem_cons.1 hnew with rfl | hnew
      · rw [hkey]
        exact findRow?_eq_none.1 hfind r hr
      · exact hfresh new hnew r (List.mem_append_left _ hr)

theorem applyRows_removes (hkeyed : e.IsKeyed rows) (hws : ∀ v ∈ ws, ∃ key, v = .remove e.name key)
    (h : applyRows e rows ws = .ok rows') :
    rows' = rows.filter fun r => ws.all fun v => e.key? r ≠ some v.key := by
  induction ws generalizing rows with
  | nil =>
    cases h
    exact (List.filter_eq_self.2 fun _ _ => rfl).symm
  | cons v ws ih =>
    obtain ⟨rows₁, hstep, hrest⟩ := bind_eq_ok_iff.1 h
    obtain ⟨key, rfl⟩ := hws v List.mem_cons_self
    have hfilter := hkeyed.removeRow?_eq_filter (Write.applyToRows_remove_iff.1 hstep)
    have hkeyed' : e.IsKeyed rows₁ := by
      rw [hfilter]
      exact hkeyed.filter _
    rw [ih hkeyed' (fun u hu => hws u (List.mem_cons_of_mem _ hu)) hrest, hfilter,
      List.filter_filter]
    congr 1
    funext r
    rw [List.all_cons, Bool.and_comm]
    rfl

/-- What becomes of rows under updates and removals, of different keys: `change` gives what a row
    becomes, if it stays. -/
structure IsChanged (e : Entity) (rows : List Record) (updates removes : List Write)
    (change : Record → Option Record) : Prop where
  kept : ∀ r ∈ rows, (∀ v ∈ updates, e.key? r ≠ some v.key) →
    (∀ v ∈ removes, e.key? r ≠ some v.key) → change r = some r
  replaced : ∀ r ∈ rows, (∀ v ∈ removes, e.key? r ≠ some v.key) → ∀ v ∈ updates, ∀ row,
    v.row? = some row → e.key? r = some v.key → change r = some row
  removed : ∀ r ∈ rows, ∀ v ∈ removes, e.key? r = some v.key → change r = none

theorem IsUpdated.isChanged {updates : List Write} {g : Record → Record}
    (h : IsUpdated e rows updates g) (removes : List Write) :
    IsChanged e rows updates removes fun r =>
      if removes.all fun v => e.key? r ≠ some v.key then some (g r) else none where
  kept := by
    intro r hr hupdates hremoves
    rw [if_pos (List.all_eq_true.2 fun v hv => decide_eq_true (hremoves v hv)),
      h.kept r hr hupdates]
  replaced := by
    intro r hr hremoves v hv row hrow hkey
    rw [if_pos (List.all_eq_true.2 fun v hv => decide_eq_true (hremoves v hv)),
      h.replaced r hr v hv row hrow hkey]
  removed := by
    intro r hr v hv hkey
    refine if_neg fun hall => ?_
    exact of_decide_eq_true (List.all_eq_true.1 hall v hv) hkey

/-- Removals after updates leave what the change leaves. -/
theorem IsUpdated.filter_map_eq {updates : List Write} {g : Record → Record}
    (h : IsUpdated e rows updates g) (removes : List Write) :
    (rows.map g).filter (fun r => removes.all fun v => e.key? r ≠ some v.key) =
      rows.filterMap fun r =>
        if removes.all fun v => e.key? r ≠ some v.key then some (g r) else none := by
  rw [List.filter_map, ← List.filterMap_eq_map, List.filterMap_filter]
  apply List.filterMap_congr
  intro r hr
  simp only [Function.comp_apply, h.key r hr]

/-- Updates of different keys, insertions, and removals of rows that there are. -/
structure AreBatches (e : Entity) (rows : List Record) (updates inserts removes : List Write) :
    Prop where
  updated : ∀ v ∈ updates, ∃ row, v = .update e.name v.key row ∧ e.key? row = some v.key ∧
    row.Sorted
  distinct : updates.Pairwise fun v u => v.key ≠ u.key
  inserted : ∀ v ∈ inserts, ∃ row, v = .insert e.name v.key row ∧ e.key? row = some v.key ∧
    row.Sorted
  removed : ∀ v ∈ removes, v = .remove e.name v.key ∧ ∃ r ∈ rows, e.key? r = some v.key

section

variable {updates inserts removes : List Write}

theorem AreBatches.isProper (h : AreBatches e rows updates inserts removes) :
    ∀ v ∈ updates ++ (inserts ++ removes), v.IsProper e := by
  intro v hv row hrow
  rcases List.mem_append.1 hv with hv | hv
  · obtain ⟨new, hnew, hkey, hsorted⟩ := h.updated v hv
    rw [hnew] at hrow
    cases hrow
    exact ⟨hkey, hsorted⟩
  · rcases List.mem_append.1 hv with hv | hv
    · obtain ⟨new, hnew, hkey, hsorted⟩ := h.inserted v hv
      rw [hnew] at hrow
      cases hrow
      exact ⟨hkey, hsorted⟩
    · rw [(h.removed v hv).1] at hrow
      cases hrow

/-- Updates, then insertions, then removals: what becomes of the rows, and the new ones. -/
theorem applyRows_batches (hkeyed : e.IsKeyed rows)
    (hbatches : AreBatches e rows updates inserts removes)
    (h : applyRows e rows (updates ++ (inserts ++ removes)) = .ok rows') :
    ∃ change, IsChanged e rows updates removes change ∧
      rows' = rows.filterMap change ++ inserts.filterMap Write.row? ∧
      ∀ row ∈ inserts.filterMap Write.row?, ∀ r ∈ rows, e.key? r ≠ e.key? row := by
  have hproper := hbatches.isProper
  have hupdates : ∀ v ∈ updates, ∃ key row,
      v = .update e.name key row ∧ e.key? row = some key := by
    intro v hv
    obtain ⟨row, hrow, hkey, -⟩ := hbatches.updated v hv
    exact ⟨v.key, row, hrow, hkey⟩
  have hinserts : ∀ v ∈ inserts, ∃ key row,
      v = .insert e.name key row ∧ e.key? row = some key := by
    intro v hv
    obtain ⟨row, hrow, hkey, -⟩ := hbatches.inserted v hv
    exact ⟨v.key, row, hrow, hkey⟩
  rw [applyRows_append] at h
  obtain ⟨rows₁, hfirst, h⟩ := bind_eq_ok_iff.1 h
  rw [applyRows_append] at h
  obtain ⟨rows₂, hsecond, hthird⟩ := bind_eq_ok_iff.1 h
  obtain ⟨g, hg, hupdated⟩ := applyRows_updates hkeyed hupdates hbatches.distinct hfirst
  obtain ⟨hnew, hfresh⟩ := applyRows_inserts hinserts hsecond
  have hkeyed₁ := isKeyed_applyRows hkeyed
    (fun v hv => hproper v (List.mem_append_left _ hv)) hfirst
  have hkeyed₂ := isKeyed_applyRows hkeyed₁
    (fun v hv => hproper v (List.mem_append_right _ (List.mem_append_left _ hv))) hsecond
  have hleft := applyRows_removes hkeyed₂
    (fun v hv => ⟨v.key, (hbatches.removed v hv).1⟩) hthird
  have hfresh' : ∀ row ∈ inserts.filterMap Write.row?, ∀ r ∈ rows, e.key? r ≠ e.key? row := by
    intro row hrow r hr
    have hne := hfresh row hrow (g r) (hg ▸ List.mem_map_of_mem hr)
    rwa [hupdated.key r hr] at hne
  refine ⟨_, hupdated.isChanged removes, ?_, hfresh'⟩
  -- no removal is for a new row
  have hstay : (inserts.filterMap Write.row?).filter
      (fun r => removes.all fun v => e.key? r ≠ some v.key) = inserts.filterMap Write.row? := by
    refine List.filter_eq_self.2 fun row hrow => List.all_eq_true.2 fun v hv => ?_
    obtain ⟨-, r, hr, hkey⟩ := hbatches.removed v hv
    rw [← hkey]
    exact decide_eq_true (hfresh' row hrow r hr).symm
  rw [hleft, hnew, hg, List.filter_append, hstay, hupdated.filter_map_eq]

end

end Depot
