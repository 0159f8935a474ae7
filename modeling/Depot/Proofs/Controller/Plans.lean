import Depot.Proofs.Controller.Collections
import Depot.Proofs.Controller.Creations
import Depot.Proofs.Controller.Written

/-!
# What plans leave

A plan that was made for the stored rows of its target stages one write for every row that it
returns. None of its updates meets another one, nor does any of its removals meet an update, since
all these rows hold their reference in the same text. So after the commit the rows that the plan
returned are stored under their keys.

* `rowsLeft`: the rows that the writes of an entity leave.
* `Entity.IsStored`: rows as they are stored of an entity.
* `ChildPlan.IsFor`: plans for stored rows.
* `ChildPlan.IsStaged`: the writes of a plan.

Results:
* `isFor_of_reconcile`: what is planned for stored rows is a plan for them.
* `stores_of_works_writePlan`: the rows that a plan returns are stored.
* `of_works_writePlans`: plans for different targets do so one by one.
-/

namespace Depot

/-- The rows that the writes of an entity leave, in their order. -/
def rowsLeft (name : String) (ws : List Write) : List Record :=
  (ws.filter (·.entity == name)).filterMap Write.row?

/-- Rows as they are stored of an entity: their keys tell them apart, and are made of columns other
    than that of the last change. -/
structure Entity.IsStored (e : Entity) (rows : List Record) : Prop where
  keyed : e.IsKeyed rows
  sorted : ∀ row ∈ rows, row.Sorted
  columns : ∀ k ∈ e.primaryKey, e.hasColumn k = true
  time : updatedAt ∉ e.primaryKey

/-- Rows that hold a reference in the same text have one key if the other columns of the key have
    the same texts. -/
theorem key?_eq_of_text {e : Entity} {column : String} {row row' : Record}
    (hcolumn : keyPart? (row.get column) = keyPart? (row'.get column))
    (h : ∀ k ∈ e.primaryKey, column ≠ k →
      (row.field? k).bind keyPart? = (row'.field? k).bind keyPart?) :
    e.key? row = e.key? row' := by
  apply key?_congr_text
  intro k hk
  by_cases hname : column = k
  · rw [← hname, bind_keyPart?, bind_keyPart?, hcolumn]
  · exact h k hk hname

/-! ## Plans for stored rows -/

namespace ChildPlan

variable {p : ChildPlan} {rows : List Record} {v : Json}

/-- A plan that updates stored rows, each at most once and by an element that has its key, and
    removes other ones. All these rows hold their reference in the same text. -/
structure IsFor (p : ChildPlan) (rows : List Record) : Prop where
  updated : ∀ x ∈ p.changes.toUpdate, x.1 ∈ rows ∧ x.2.Sorted ∧
    p.target.key? x.2 = p.target.key? x.1
  distinct : p.changes.toUpdate.Pairwise fun x y => p.target.key? x.1 ≠ p.target.key? y.1
  removed : ∀ row ∈ p.changes.toRemove, row ∈ rows ∧
    ∀ x ∈ p.changes.toUpdate, p.target.key? x.1 ≠ p.target.key? row
  text : ∃ text, (∀ x ∈ p.changes.toUpdate,
      keyPart? (x.1.get p.relation.remoteColumn) = text) ∧
    ∀ row ∈ p.changes.toRemove, keyPart? (row.get p.relation.remoteColumn) = text

theorem isFor_of_reconcile {relation : Relation} {target : Entity}
    {existing elements : List Record} {changes : Reconciliation Record Record}
    {text : Option String} (hkeyed : target.IsKeyed existing)
    (hexisting : ∀ row ∈ existing, row ∈ rows ∧
      keyPart? (row.get relation.remoteColumn) = text)
    (helements : ∀ a ∈ elements, a.Sorted)
    (hrec : reconcile existing elements target.key? target.key? = .ok changes) :
    IsFor ⟨relation, target, changes⟩ rows := by
  have hupdate {x : Record × Record} (hx : x ∈ changes.toUpdate) :=
    (Reconciliation.mem_toUpdate hrec hkeyed.complete hkeyed.distinct).1 hx
  have hremove {row : Record} (hrow : row ∈ changes.toRemove) : row ∈ existing ∧
      ∀ a ∈ elements, target.key? a ≠ target.key? row := by
    rw [Reconciliation.toRemove_reconcile hrec hkeyed.complete hkeyed.distinct,
      List.mem_filter, List.all_eq_true] at hrow
    exact ⟨hrow.1, fun a ha => of_decide_eq_true (hrow.2 a ha)⟩
  refine ⟨?_, Reconciliation.pairwise_toUpdate hrec, ?_, text, ?_, ?_⟩
  · intro x hx
    obtain ⟨ha, hstored, hkey⟩ := hupdate hx
    exact ⟨(hexisting _ hstored).1, helements _ ha, hkey⟩
  · intro row hrow
    obtain ⟨hstored, hunnamed⟩ := hremove hrow
    refine ⟨(hexisting _ hstored).1, fun x hx hsame => ?_⟩
    obtain ⟨ha, -, hkey⟩ := hupdate hx
    exact hunnamed _ ha (hkey.trans hsame)
  · intro x hx
    exact (hexisting _ (hupdate hx).2.1).2
  · intro row hrow
    exact (hexisting _ (hremove hrow).1).2

/-- Rows under their elements and one reference have different keys. -/
theorem IsFor.pairwise_rows (h : p.IsFor rows) (hrows : p.target.IsStored rows)
    (hcomplete : ∀ row ∈ (Controller.ChildPlan.rows p v).1,
      (p.target.key? (p.target.columnFields row)).isSome = true) :
    (Controller.ChildPlan.rows p v).1.Pairwise fun a b =>
      p.target.key? (p.target.columnFields a) ≠ p.target.key? (p.target.columnFields b) := by
  obtain ⟨text, htext, -⟩ := h.text
  refine List.pairwise_map.2 (h.distinct.imp_of_mem ?_)
  intro x y hx hy hne hsame
  obtain ⟨hrowx, hsortedx, hkeyx⟩ := h.updated x hx
  obtain ⟨hrowy, hsortedy, hkeyy⟩ := h.updated y hy
  obtain ⟨key, hkey⟩ := Option.isSome_iff_exists.1
    (hcomplete _ (List.mem_map_of_mem hx))
  have htexts := text_of_key? hkey (hsame.symm.trans hkey)
  apply hne
  refine key?_eq_of_text ((htext x hx).trans (htext y hy).symm) fun k hk hcolumn => ?_
  have hpatched := htexts k hk
  rwa [text_patched hrows.columns (hrows.keyed.complete _ hrowx) hsortedx hkeyx hk,
    text_patched hrows.columns (hrows.keyed.complete _ hrowy) hsortedy hkeyy hk, if_neg hcolumn,
    if_neg hcolumn] at hpatched

/-- A row under its element and a reference does not have the key of a row that is removed. -/
theorem IsFor.key?_ne_of_removed (h : p.IsFor rows) (hrows : p.target.IsStored rows) {row : Record}
    (hrow : row ∈ (Controller.ChildPlan.rows p v).1) {doomed : Record}
    (hdoomed : doomed ∈ p.changes.toRemove) {key : RowKey}
    (hkey : p.target.key? (p.target.columnFields row) = some key) :
    p.target.key? doomed ≠ some key := by
  intro hsame
  obtain ⟨text, htext, htext'⟩ := h.text
  obtain ⟨x, hx, rfl⟩ := List.mem_map.1 hrow
  obtain ⟨hstored, hsorted, hkeyx⟩ := h.updated x hx
  have htexts := text_of_key? hkey hsame
  apply (h.removed doomed hdoomed).2 x hx
  refine key?_eq_of_text ((htext x hx).trans (htext' doomed hdoomed).symm) fun k hk hcolumn => ?_
  have hpatched := htexts k hk
  rwa [text_patched hrows.columns (hrows.keyed.complete _ hstored) hsorted hkeyx hk,
    if_neg hcolumn] at hpatched

/-! ## The writes of a plan -/

/-- The writes of a plan under a reference, kind by kind and in step with its rows. -/
structure IsStaged (p : ChildPlan) (v : Json) (stamps : Stamps) (n : Nat) (rows : List Record)
    (updates inserts removes : List Write) : Prop where
  updates : List.Forall₂ (Overwrites p.target stamps n rows) (Controller.ChildPlan.rows p v).1
    updates
  inserts : List.Forall₂ (Creates p.target stamps) (Controller.ChildPlan.rows p v).2 inserts
  removes : List.Forall₂ (Drops p.target) p.changes.toRemove removes

variable {stamps : Stamps} {n : Nat} {updates inserts removes : List Write}

/-- An update leaves a row of the key that it is for. A row of the plan has this key, and so has a
    stored one. -/
theorem IsStaged.of_mem_updates (hw : p.IsStaged v stamps n rows updates inserts removes)
    (h : p.IsFor rows) (hrows : p.target.IsStored rows) {u : Write} (hu : u ∈ updates) :
    (∃ new, u = .update p.target.name u.key new ∧ p.target.key? new = some u.key ∧ new.Sorted) ∧
      (∃ row ∈ (Controller.ChildPlan.rows p v).1,
        p.target.key? (p.target.columnFields row) = some u.key) ∧
      ∃ current ∈ rows, p.target.key? current = some u.key := by
  obtain ⟨row, hrow, key, current, i, -, hkey, hcurrent, rfl⟩ :=
    exists_of_forall₂_right hw.updates hu
  obtain ⟨hmem, hcurrentKey⟩ := findRow?_eq_some hcurrent
  refine ⟨⟨_, rfl, ?_, Transaction.sorted_touch (hrows.sorted _ hmem)⟩, ⟨row, hrow, hkey⟩, current,
    hmem, hcurrentKey⟩
  obtain ⟨x, hx, rfl⟩ := List.mem_map.1 hrow
  exact Transaction.key?_touch hrows.time (Fields.sorted_restrict (Fields.sorted_put
    (Fields.sorted_overlay (hrows.sorted _ (h.updated x hx).1) _) _ _) _) hkey

/-- An insertion leaves a row of the key that it is for. -/
theorem IsStaged.of_mem_inserts (hw : p.IsStaged v stamps n rows updates inserts removes)
    {u : Write} (hu : u ∈ inserts) :
    ∃ new, u = .insert p.target.name u.key new ∧ p.target.key? new = some u.key ∧
      new.Sorted := by
  obtain ⟨row, hrow, tx, i, new, key, hfill, hkey, rfl⟩ := exists_of_forall₂_right hw.inserts hu
  obtain ⟨fields, -, rfl⟩ := List.mem_map.1 hrow
  exact ⟨new, rfl, hkey, Transaction.sorted_fillDefaults hfill
    (Fields.sorted_restrict (Fields.sorted_put (Controller.sorted_blank _ _) _ _) _)⟩

/-- A removal is for the key of a row that the plan removes. -/
theorem IsStaged.of_mem_removes (hw : p.IsStaged v stamps n rows updates inserts removes)
    {u : Write} (hu : u ∈ removes) :
    u = .remove p.target.name u.key ∧
      ∃ row ∈ p.changes.toRemove, p.target.key? row = some u.key := by
  obtain ⟨row, hrow, key, hkey, rfl⟩ := exists_of_forall₂_right hw.removes hu
  exact ⟨rfl, row, hrow, hkey⟩

theorem IsStaged.areBatches (hw : p.IsStaged v stamps n rows updates inserts removes)
    (h : p.IsFor rows) (hrows : p.target.IsStored rows)
    (hdistinct : (Controller.ChildPlan.rows p v).1.Pairwise fun a b =>
      p.target.key? (p.target.columnFields a) ≠ p.target.key? (p.target.columnFields b)) :
    AreBatches p.target rows updates inserts removes where
  updated u hu := (hw.of_mem_updates h hrows hu).1
  distinct := by
    refine pairwise_of_forall₂ hw.updates ?_ hdistinct
    rintro a b u w ⟨key, current, i, -, ha, -, rfl⟩ ⟨key', current', i', -, hb, -, rfl⟩ hne hsame
    exact hne (ha.trans ((congrArg some hsame).trans hb.symm))
  inserted u hu := hw.of_mem_inserts hu
  removed u hu := by
    obtain ⟨hdrop, row, hrow, hkey⟩ := hw.of_mem_removes hu
    exact ⟨hdrop, row, (h.removed row hrow).1, hkey⟩

/-- All rows that the writes of a plan leave are among the rows that come of them. -/
theorem IsStaged.stores (hw : p.IsStaged v stamps n rows updates inserts removes)
    (h : p.IsFor rows) (hrows : p.target.IsStored rows)
    (hdistinct : (Controller.ChildPlan.rows p v).1.Pairwise fun a b =>
      p.target.key? (p.target.columnFields a) ≠ p.target.key? (p.target.columnFields b))
    {rows' : List Record}
    (happly : applyRows p.target rows (updates ++ (inserts ++ removes)) = .ok rows') :
    p.target.IsKeyed rows' ∧
      ∀ row ∈ (updates ++ (inserts ++ removes)).filterMap Write.row?, row ∈ rows' := by
  have hbatches := hw.areBatches h hrows hdistinct
  obtain ⟨change, hchange, hafter, -⟩ := applyRows_batches hrows.keyed hbatches happly
  refine ⟨isKeyed_applyRows hrows.keyed hbatches.isProper happly, ?_⟩
  intro row hrow
  rw [hafter]
  obtain ⟨u, hu, hleft⟩ := List.mem_filterMap.1 hrow
  rcases List.mem_append.1 hu with hu | hu
  · -- the row of the key that the update is for is replaced, and is not removed
    obtain ⟨-, ⟨under, hunder, hwritten⟩, current, hcurrent, hkey⟩ :=
      hw.of_mem_updates h hrows hu
    refine List.mem_append_left _ (List.mem_filterMap.2 ⟨current, hcurrent, ?_⟩)
    refine hchange.replaced current hcurrent ?_ u hu row hleft hkey
    intro d hd hsame
    obtain ⟨-, doomed, hdoomed, hdkey⟩ := hw.of_mem_removes hd
    rw [hkey, Option.some.injEq] at hsame
    exact h.key?_ne_of_removed hrows hunder hdoomed hwritten (hsame ▸ hdkey)
  · rcases List.mem_append.1 hu with hu | hu
    · exact List.mem_append_right _ (List.mem_filterMap.2 ⟨u, hu, hleft⟩)
    · rw [(hw.of_mem_removes hu).1] at hleft
      cases hleft

end ChildPlan

/-- The writes of a plan for the rows that are attached to a parent's key. -/
theorem isWritten_of_isStaged {relation : Relation} {target : Entity} {v : Json}
    {rows elements : List Record} {changes : Reconciliation Record Record} {stamps : Stamps}
    {n : Nat} {updates inserts removes : List Write}
    (hj : target.IsJoined relation.remoteColumn v rows) (helements : ∀ a ∈ elements, a.Sorted)
    (hrec : reconcile (attachedRows relation.remoteColumn v rows)
      (elements.map (Controller.withForeignKey relation.remoteColumn (some v)))
      target.key? target.key? = .ok changes)
    (h : (ChildPlan.mk relation target changes).IsStaged v stamps n rows updates inserts removes) :
    IsWritten target relation.remoteColumn v stamps n rows elements changes updates inserts
      removes :=
  ⟨forall₂_rewrites hj helements hrec h.updates, forall₂_inserts hj helements hrec h.inserts,
    h.removes⟩

/-! ## The rows that are returned -/

namespace Controller

variable {c : Controller} {stamps : Stamps} {m : Model} {w w' : Transaction × Nat}

/-- Rows that are persisted are returned as the staged writes leave them. -/
theorem saved_of_works_persistAll {e : Entity} {mode : WriteMode} {rows saved : List Record}
    (h : (c.persistAll e mode rows).Works stamps m w saved w') :
    ∃ ws, w'.1 = w.1.stageAll ws ∧ ws.filterMap Write.row? = saved := by
  induction rows generalizing w saved with
  | nil =>
    obtain ⟨rfl, rfl⟩ := Program.returns_pure_iff.1 h
    exact ⟨[], (Transaction.stageAll_nil _).symm, rfl⟩
  | cons row rest ih =>
    obtain ⟨first, tx, others, hpersist, hothers, rfl⟩ := of_works_persistAll_cons h
    obtain ⟨v, -, -, hv, rfl⟩ := Transaction.persist_eq_ok hpersist
    obtain ⟨ws, hws, hsaved⟩ := ih hothers
    refine ⟨v :: ws, ?_, ?_⟩
    · rw [hws]
      exact Transaction.stageAll_stageAll _ [v] ws
    · rw [List.filterMap_cons_some hv, hsaved]

/-- Updates that succeed are of complete keys. -/
theorem isSome_key?_of_works_persistAll {e : Entity} {rows saved : List Record}
    (h : (c.persistAll e .update rows).Works stamps m w saved w') :
    ∀ row ∈ rows, (e.key? (e.columnFields row)).isSome = true := by
  induction rows generalizing w saved with
  | nil =>
    intro row hrow
    cases hrow
  | cons row rest ih =>
    obtain ⟨first, tx, others, hpersist, hothers, -⟩ := of_works_persistAll_cons h
    obtain ⟨key, current, hkey, -⟩ := Transaction.update_eq_ok hpersist
    intro row' hrow'
    rcases List.mem_cons.1 hrow' with rfl | hrow'
    · rw [hkey]
      rfl
    · exact ih hothers row' hrow'

/-- The children that a plan returns are the rows that its writes leave. -/
theorem children_of_works_writePlan {p : ChildPlan} {parentKey : Json} {children : List Record}
    (h : (c.writePlan p parentKey).Works stamps m w children w') :
    ∃ ws, w'.1 = w.1.stageAll ws ∧ ws.filterMap Write.row? = children := by
  obtain ⟨updated, w₁, created, w₂, hupdated, hcreated, hremoved, rfl⟩ := of_works_writePlan h
  obtain ⟨us, hus, rfl⟩ := saved_of_works_persistAll hupdated
  obtain ⟨is, his, rfl⟩ := saved_of_works_persistAll hcreated
  obtain ⟨rs, hrs, hdrops⟩ := of_works_removeAll hremoved
  have hnone : rs.filterMap Write.row? = [] := by
    rw [List.filterMap_eq_nil_iff]
    intro v hv
    obtain ⟨row, -, key, -, rfl⟩ := exists_of_forall₂_right hdrops hv
    rfl
  refine ⟨us ++ is ++ rs, ?_, ?_⟩
  · rw [hrs, his, hus, Transaction.stageAll_stageAll, Transaction.stageAll_stageAll,
      List.append_assoc]
  · rw [List.filterMap_append, List.filterMap_append, hnone, List.append_nil]

/-- The writes of a plan for the rows of its target leave the children that are returned, and
    these are stored by them. -/
theorem stores_of_works_writePlan {p : ChildPlan} {parentKey : Json} {children : List Record}
    (hfor : p.IsFor (w.1.working.rows p.target.name))
    (hrows : p.target.IsStored (w.1.working.rows p.target.name))
    (hfree : ∀ v ∈ w.1.staged, v.entity ≠ p.target.name)
    (h : (c.writePlan p parentKey).Works stamps m w children w') :
    ∃ ws, w'.1 = w.1.stageAll ws ∧ (∀ v ∈ ws, v.entity = p.target.name) ∧
      ws.filterMap Write.row? = children ∧
      ∀ rows', applyRows p.target (w.1.working.rows p.target.name) ws = .ok rows' →
        p.target.IsKeyed rows' ∧ ∀ child ∈ children, child ∈ rows' := by
  obtain ⟨updated, w₁, -, -, hupdated, -⟩ := of_works_writePlan h
  have hdistinct := hfor.pairwise_rows hrows (isSome_key?_of_works_persistAll hupdated)
  obtain ⟨updates, inserts, removes, hall, hupdates, hinserts, hremoves, hentity⟩ :=
    stageAll_of_works_writePlan hfree hdistinct h
  obtain ⟨ws, hws, hchildren⟩ := children_of_works_writePlan h
  obtain rfl : ws = updates ++ (inserts ++ removes) :=
    List.append_cancel_left (congrArg Transaction.staged (hws.symm.trans hall))
  refine ⟨_, hws, hentity, hchildren, fun rows' happly => ?_⟩
  rw [← hchildren]
  have hstaged : p.IsStaged parentKey stamps w.2 _ updates inserts removes :=
    ⟨hupdates, hinserts, hremoves⟩
  exact hstaged.stores hfor hrows hdistinct happly

/-! ## Plans one after the other -/

/-- Writing plans is writing those before one of them, then this one, then the others. -/
theorem of_works_writePlans_append {before after : List ChildPlan} {p : ChildPlan}
    {r out : Record} (h : (c.writePlans r (before ++ p :: after)).Works stamps m w out w') :
    ∃ r₁ w₁ children w₂, (c.writePlans r before).Works stamps m w r₁ w₁ ∧
      (c.writePlan p (r₁.get p.relation.localColumn)).Works stamps m w₁ children w₂ ∧
      (c.writePlans (r₁.put p.relation.name (.arr (children.map .obj))) after).Works stamps m w₂
        out w' := by
  induction before generalizing r w with
  | nil =>
    obtain ⟨children, w₂, hplan, hrest⟩ := Program.returns_bind_iff.1 h
    exact ⟨r, w, children, w₂, Program.returns_pure_iff.2 ⟨rfl, rfl⟩, hplan, hrest⟩
  | cons q before ih =>
    obtain ⟨first, w₀, hfirst, h⟩ := Program.returns_bind_iff.1 h
    obtain ⟨r₁, w₁, children, w₂, hbefore, hplan, hrest⟩ := ih h
    exact ⟨r₁, w₁, children, w₂, Program.returns_bind_iff.2 ⟨first, w₀, hfirst, hbefore⟩, hplan,
      hrest⟩

/-- Plans for other targets stage no writes of a target. -/
theorem stages_writePlans_of_ne {name : String} {r out : Record} {plans : List ChildPlan}
    (hplans : ∀ q ∈ plans, q.target.name ≠ name)
    (h : (c.writePlans r plans).Works stamps m w out w') :
    Transaction.Stages (fun v => v.entity ≠ name) w.1 w'.1 := by
  refine (stages_writePlans h).mono ?_
  rintro v ⟨q, hq, hentity⟩
  rw [hentity]
  exact hplans q hq

/-- A plan among plans for different targets, and for different relations: the instance shows the
    rows that the writes of its target leave, and these are stored. -/
theorem of_works_writePlans {plans : List ChildPlan} {r out : Record} {p : ChildPlan}
    (hp : p ∈ plans)
    (hapart : plans.Pairwise fun p q =>
      p.target.name ≠ q.target.name ∧ p.relation.name ≠ q.relation.name)
    (hfor : p.IsFor (w.1.working.rows p.target.name))
    (hrows : p.target.IsStored (w.1.working.rows p.target.name))
    (hfree : ∀ v ∈ w.1.log, v.entity ≠ p.target.name)
    (h : (c.writePlans r plans).Works stamps m w out w') :
    out.field? p.relation.name =
        some (.arr ((rowsLeft p.target.name w'.1.log).map .obj)) ∧
      ∀ rows', applyRows p.target (w.1.working.rows p.target.name)
          (w'.1.log.filter (·.entity == p.target.name)) = .ok rows' →
        p.target.IsKeyed rows' ∧ ∀ child ∈ rowsLeft p.target.name w'.1.log, child ∈ rows' := by
  obtain ⟨before, after, rfl⟩ := List.append_of_mem hp
  obtain ⟨-, hafter, hbefore⟩ := List.pairwise_append.1 hapart
  obtain ⟨hlater, -⟩ := List.pairwise_cons.1 hafter
  obtain ⟨r₁, w₁, children, w₂, hfirst, hplan, hrest⟩ := of_works_writePlans_append h
  obtain ⟨us, hus, husEntity⟩ :=
    stages_writePlans_of_ne (fun q hq => (hbefore q hq p List.mem_cons_self).1) hfirst
  obtain ⟨vs, hvs, hvsEntity⟩ :=
    stages_writePlans_of_ne (fun q hq => (hlater q hq).1.symm) hrest
  have hworking : w₁.1.working = w.1.working := by rw [hus]; rfl
  rw [← hworking] at hfor hrows ⊢
  have hfree₁ : ∀ v ∈ w₁.1.staged, v.entity ≠ p.target.name := by
    intro v hv
    rw [hus] at hv
    rcases List.mem_append.1 hv with hv | hv
    · exact hfree v (List.mem_append_right _ hv)
    · exact husEntity v hv
  obtain ⟨ws, hws, hwsEntity, hchildren, hstores⟩ :=
    stores_of_works_writePlan hfor hrows hfree₁ hplan
  -- of the whole log only the writes of this plan are of its target
  have hlog : w'.1.log.filter (·.entity == p.target.name) = ws := by
    rw [hvs, hws, hus, Transaction.log_stageAll, Transaction.log_stageAll,
      Transaction.log_stageAll]
    rw [List.filter_append, List.filter_append, List.filter_append, filter_entity_eq_nil hfree,
      filter_entity_eq_nil husEntity, filter_entity_eq_nil hvsEntity,
      filter_entity_eq_self hwsEntity]
    rw [List.nil_append, List.nil_append, List.append_nil]
  have hleft : rowsLeft p.target.name w'.1.log = children := by
    rw [rowsLeft, hlog, hchildren]
  rw [hlog, hleft]
  refine ⟨?_, hstores⟩
  rw [field?_writePlans (fun q hq => (hlater q hq).2.symm) hrest, Fields.field?_put, if_pos rfl]

end Controller

end Depot
