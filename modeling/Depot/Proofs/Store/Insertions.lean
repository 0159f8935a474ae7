import Depot.Proofs.Store.Reachable

/-!
# Insertions of one key

While there is a row of a key, no row of that key can be inserted. The row can be changed, but
stays under its key until it is removed. So among all that was applied to the committed rows of a
session, two insertions under one key have a removal of that key between them.

* `Write.inserts`: insertions under a key.
* `Entity.Holds`: rows of which one has a key.

Results:
* `holds_applyToRows`, `holds_of_inserts`: what a write makes of a key that is held.
* `removed_between_applyRows`, `removed_between_applyAll`: two insertions in one log.
* `isSound_blocks_runAll`: all that is applied to committed rows leaves rows under their keys.
* `removed_between`: two insertions in a session.
-/

namespace Depot

/-- Whether a write inserts a row under a key. -/
def Write.inserts (w : Write) (entity : String) (key : RowKey) : Bool :=
  match w with
  | .insert e k _ => e == entity && k == key
  | _ => false

theorem Write.inserts_iff {w : Write} {entity : String} {key : RowKey} :
    w.inserts entity key = true ↔ ∃ row, w = .insert entity key row := by
  cases w with
  | insert e k row =>
    rw [inserts, Bool.and_eq_true, beq_iff_eq, beq_iff_eq]
    constructor
    · rintro ⟨rfl, rfl⟩
      exact ⟨row, rfl⟩
    · rintro ⟨row', h⟩
      cases h
      exact ⟨rfl, rfl⟩
  | update e k row => simp [inserts]
  | remove e k => simp [inserts]

/-! ## Rows that hold a key -/

/-- One of the rows has a key. -/
def Entity.Holds (e : Entity) (key : RowKey) (rows : List Record) : Prop :=
  ∃ row ∈ rows, e.key? row = some key

variable {e : Entity} {name : String} {key : RowKey} {rows rows' : List Record}

/-- A write keeps a key that is held, unless it removes the row of that key: a row that is changed
    or removed has the key of the write, and a changed row still has it. -/
theorem holds_applyToRows {w : Write} (h : e.Holds key rows) (hw : w.IsProper e)
    (hkeep : w ≠ .remove w.entity key) (happly : w.applyToRows e rows = .ok rows') :
    e.Holds key rows' := by
  obtain ⟨row, hrow, hkey⟩ := h
  obtain ⟨before, old, after, rfl, rfl, hold⟩ := Write.applyToRows_eq_ok happly
  rcases List.mem_append.1 hrow with hrow | hrow
  · rcases List.mem_append.1 hrow with hrow | hrow
    · exact ⟨row, List.mem_append_left _ (List.mem_append_left _ hrow), hkey⟩
    · -- the row has the key of the write, so that it is changed and not removed
      have hsame := hold row (Option.mem_toList.1 hrow)
      rw [hkey, Option.some.injEq] at hsame
      cases hleft : w.row? with
      | none =>
        cases w with
        | remove n k => exact absurd (congrArg (Write.remove n) hsame.symm) hkeep
        | insert n k new => cases hleft
        | update n k new => cases hleft
      | some new =>
        refine ⟨new, ?_, ?_⟩
        · exact List.mem_append_left _ (List.mem_append_right _ List.mem_cons_self)
        · rw [hsame]
          exact (hw new hleft).1
  · exact ⟨row, List.mem_append_right _ hrow, hkey⟩

/-- An insertion fits rows that do not hold its key, and they hold it then. -/
theorem holds_of_inserts {w : Write} (hw : w.IsProper e) (hinserts : w.inserts name key = true)
    (happly : w.applyToRows e rows = .ok rows') : ¬e.Holds key rows ∧ e.Holds key rows' := by
  obtain ⟨row, rfl⟩ := Write.inserts_iff.1 hinserts
  obtain ⟨hfind, rfl⟩ := Write.applyToRows_insert_iff.1 happly
  constructor
  · rintro ⟨r, hr, hkey⟩
    exact findRow?_eq_none.1 hfind r hr hkey
  · exact ⟨row, List.mem_append_right _ List.mem_cons_self, (hw row rfl).1⟩

/-! ## Logs -/

theorem holds_applyRows {ws : List Write} (h : e.Holds key rows) (hws : ∀ w ∈ ws, w.IsProper e)
    (hkeep : ∀ w ∈ ws, w ≠ .remove w.entity key) (happly : applyRows e rows ws = .ok rows') :
    e.Holds key rows' :=
  applyRows_induction
    (fun w hw _ _ hheld => holds_applyToRows hheld (hws w hw) (hkeep w hw)) h happly

/-- Of two insertions under one key, the second one does not fit unless the key was removed in
    between: the first makes the rows hold it, and they do so until then. -/
theorem removed_between_applyRows {v w : Write} {between after : List Write}
    (hws : ∀ u ∈ v :: (between ++ w :: after), u.IsProper e) (hv : v.inserts name key = true)
    (hw : w.inserts name key = true)
    (happly : applyRows e rows (v :: (between ++ w :: after)) = .ok rows') :
    ∃ u ∈ between, u = .remove u.entity key := by
  obtain ⟨rows₁, hfirst, hrest⟩ := bind_eq_ok_iff.1 happly
  rw [applyRows_append] at hrest
  obtain ⟨rows₂, hbetween, hrest⟩ := bind_eq_ok_iff.1 hrest
  obtain ⟨rows₃, hsecond, -⟩ := bind_eq_ok_iff.1 hrest
  have hheld := (holds_of_inserts (hws v List.mem_cons_self) hv hfirst).2
  have hproper : w.IsProper e :=
    hws w (List.mem_cons_of_mem _ (List.mem_append_right _ List.mem_cons_self))
  by_contra hno
  refine (holds_of_inserts hproper hw hsecond).1 (holds_applyRows hheld ?_ ?_ hbetween)
  · exact fun u hu => hws u (List.mem_cons_of_mem _ (List.mem_append_left _ hu))
  · exact fun u hu hremove => hno ⟨u, hu, hremove⟩

/-- The same for writes of all entities. -/
theorem removed_between_applyAll {m : Model} {t t' : Tables} (he : m.entity? name = some e)
    {before between after : List Write} {v w : Write}
    (hws : ∀ u ∈ before ++ v :: (between ++ w :: after), u.IsSound m)
    (hv : v.inserts name key = true) (hw : w.inserts name key = true)
    (happly : applyAll m t (before ++ v :: (between ++ w :: after)) = .ok t') :
    Write.remove name key ∈ between := by
  rw [applyAll_append] at happly
  obtain ⟨t₁, -, happly⟩ := bind_eq_ok_iff.1 happly
  have hinserted {u : Write} (hu : u.inserts name key = true) : (u.entity == name) = true := by
    obtain ⟨row, rfl⟩ := Write.inserts_iff.1 hu
    exact beq_self_eq_true name
  have hrows := rows_applyAll happly he
  have hfilter : (v :: (between ++ w :: after)).filter (·.entity == name) =
      v :: (between.filter (·.entity == name) ++ w :: after.filter (·.entity == name)) := by
    simp only [List.filter_cons, List.filter_append, hinserted hv, hinserted hw, if_true]
  have hproper : ∀ u ∈ (v :: (between ++ w :: after)).filter (·.entity == name),
      u.IsProper e := by
    intro u hu
    obtain ⟨hmem, hname⟩ := List.mem_filter.1 hu
    rw [beq_iff_eq] at hname
    exact hws u (List.mem_append_right _ hmem) e (hname ▸ he)
  rw [hfilter] at hrows hproper
  obtain ⟨u, hu, hremove⟩ := removed_between_applyRows hproper hv hw hrows
  obtain ⟨hmem, hname⟩ := List.mem_filter.1 hu
  rw [beq_iff_eq] at hname
  rw [hname] at hremove
  exact hremove ▸ hmem

/-! ## Blocks of a session -/

namespace Journal

variable {m : Model} {j : Journal}

theorem isSound_blockOf (h : j.session.IsSound m) (stamps : Stamps) {step : Session.Step}
    (hstep : step.IsOn m) : ∀ b ∈ j.blockOf stamps step, ∀ w ∈ b.log, w.IsSound m := by
  have hmodel := h.model
  intro b hb
  cases step with
  | seed entity rows =>
    rw [List.mem_singleton.1 hb, ← hmodel]
    exact isSound_seeded j.session.db entity hstep
  | commit name =>
    rw [blockOf] at hb
    split at hb
    · rename_i tx _ htx _
      rw [List.mem_singleton.1 hb, hmodel]
      exact ((h.transactions name tx htx).flush).flushed
    · cases hb
  | rows entity => cases hb
  | ping => cases hb
  | begin name => cases hb
  | drop name => cases hb
  | within name c => cases hb

/-- All that is applied to the committed rows of a session leaves rows under their own keys. -/
theorem isSound_blocks_runAll (h : j.session.IsSound m)
    (hblocks : ∀ b ∈ j.blocks, ∀ w ∈ b.log, w.IsSound m)
    (htime : ∀ e ∈ m.entities, updatedAt ∉ e.primaryKey) (stamps : Stamps)
    {steps : List Session.Step} (hsteps : ∀ step ∈ steps, step.IsOn m) :
    ∀ b ∈ (j.runAll stamps steps).blocks, ∀ w ∈ b.log, w.IsSound m := by
  induction steps generalizing j with
  | nil => exact hblocks
  | cons step steps ih =>
    have hstep := hsteps step List.mem_cons_self
    have hsession : (j.run stamps step).session.IsSound m :=
      Session.isSound_run h htime stamps hstep
    refine ih hsession ?_ fun s hs => hsteps s (List.mem_cons_of_mem _ hs)
    intro b hb
    rcases List.mem_append.1 hb with hb | hb
    · exact hblocks b hb
    · exact isSound_blockOf h stamps hstep b hb

/-- Among all that was applied to the committed rows of a session, two insertions under one key
    have a removal of that key between them. -/
theorem removed_between (htime : ∀ e ∈ m.entities, updatedAt ∉ e.primaryKey) (stamps : Stamps)
    {steps : List Session.Step} (hsteps : ∀ step ∈ steps, step.IsOn m)
    (he : m.entity? name = some e) {before between after : List Write} {v w : Write}
    (hwrites : ((start (.create m)).runAll stamps steps).blocks.flatMap Block.log =
      before ++ v :: (between ++ w :: after))
    (hv : v.inserts name key = true) (hw : w.inserts name key = true) :
    Write.remove name key ∈ between := by
  have hstart : ∀ b ∈ (start (.create m)).blocks, ∀ w ∈ b.log, w.IsSound m := by
    intro b hb
    cases hb
  have hsound := isSound_blocks_runAll (Session.isSound_start m) hstart htime stamps hsteps
  have happly := (faithful_runAll stamps (faithful_start (.create m)) steps).replay
  rw [hwrites] at happly
  refine removed_between_applyAll he ?_ hv hw happly
  intro u hu
  rw [← hwrites] at hu
  obtain ⟨b, hb, hu⟩ := List.mem_flatMap.1 hu
  exact hsound b hb u hu

end Journal

end Depot
