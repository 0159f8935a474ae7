import Depot.Proofs.Controller.Children
import Depot.Proofs.Controller.OwnRows
import Depot.Proofs.Controller.Reads
import Depot.Proofs.Store.InPlace

/-!
# Operations that succeed

If nobody commits beside it, a deletion succeeds as soon as it finds its row, and so does an update
whose body replaces no collection and is not rejected by the rules: what is staged fits the rows
that the transaction started from, and so it fits the committed ones.

Results:
* `works_loadOne`: the row that a request names is loaded.
* `works_updateWork_iff`: the work of an update of this row.
* `works_flush`, `returns_commit_flushed`: a log that fits is flushed and committed.
* `returns_deleteOne`: a deletion that finds its row takes it out.
* `returns_updateOne_of_write`: an update returns what it writes if the log fits.
* `returns_updateOne`: an update that finds its row writes it over.
* `exists_writePlan`: a plan that creates and removes nothing can be written.
-/

namespace Depot

/-- A write of a known entity that fits its rows. -/
theorem applyAll_of_applyToRows {m : Model} {t : Tables} {v : Write} {e : Entity}
    {rows : List Record} (he : m.entity? v.entity = some e)
    (h : v.applyToRows e (t.rows v.entity) = .ok rows) :
    applyAll m t [v] = .ok (t.set v.entity rows) := by
  simp only [applyAll, Write.apply, he, h]
  rfl

namespace Controller

variable {c : Controller} {stamps : Stamps} {client : Client} {r : Request} {row : Record}
  {names : List String} {s : Selection}

theorem works_loadOne (hload : c.options.hooks.afterLoad = []) {m : Model} {w : Transaction × Nat}
    (hs : c.keySelection r = .ok s)
    (hfound : (w.1.working.rows c.entity.name).find? s.selects = some row)
    (hknown : ∀ name ∈ names, (c.entity.relation? name).isSome = true) :
    (c.loadOne r names).Works stamps m w (w.1.populated c.entity names row) w := by
  have hfind := Transaction.findOne_of_find? (conditions_keySelection hs) hfound hknown
  refine Program.returns_bind_iff.2 ⟨s, w, Program.returns_done_iff.2 ⟨hs, rfl⟩, ?_⟩
  refine Program.returns_bind_iff.2 ⟨some (w.1.populated c.entity names row), w,
    Program.returns_askWith_iff.2 ?_, ?_⟩
  · show (w.1.findOne c.entity s names, w) = _
    rw [hfind]
  · simp only [afterLoad_quiet hload]
    exact Program.returns_bind_iff.2 ⟨[w.1.populated c.entity names row], w,
      Program.returns_pure_iff.2 ⟨rfl, rfl⟩, Program.returns_pure_iff.2 ⟨rfl, rfl⟩⟩

theorem works_flush {m : Model} {w : Transaction × Nat} {t : Tables}
    (h : applyAll m w.1.working w.1.staged = .ok t) :
    (c.perform .flush).Works stamps m w () (⟨t, [], w.1.flushed ++ w.1.staged⟩, w.2) := by
  rw [works_flush_iff, Transaction.flush_of_applyAll h]
  exact ⟨rfl, rfl⟩

/-- Work that stages writes which fit the committed rows can be flushed and committed. -/
theorem returns_commit_flushed {α : Type} {work : Program .transaction α} {a : α}
    {ws : List Write} {n : Nat} {t : Tables}
    (hwork : work.Works stamps client.db.model (client.db.begin, client.taken) a
      (client.db.begin.stageAll ws, n))
    (happly : applyAll client.db.model client.db.tables ws = .ok t) :
    (c.commit (c.flushed work)).Returns (Client.answer stamps) client a
      ⟨{ client.db with tables := t }, none, n⟩ := by
  have hflushed : (c.flushed work).Works stamps client.db.model (client.db.begin, client.taken) a
      (⟨t, [], ws⟩, n) :=
    Program.returns_bind_iff.2 ⟨_, _, hwork, Program.returns_bind_iff.2 ⟨(), _,
      works_flush happly, Program.returns_pure_iff.2 ⟨rfl, rfl⟩⟩⟩
  exact c.returns_commit_iff.2 ⟨_, _, hflushed, Database.commit_of_applyAll happly, rfl⟩

theorem stageAll_of_works_write {m : Model} {w w' : Transaction × Nat} {record out : Record}
    {mode : WriteMode} {plans : List ChildPlan}
    (h : (c.write record mode plans).Works stamps m w out w') : ∃ ws, w'.1 = w.1.stageAll ws := by
  obtain ⟨stored, tx, hpersist, hchildren⟩ := of_works_write h
  obtain ⟨ws, hws, -⟩ := ((Transaction.stages_persist hpersist).mono fun _ _ => trivial).trans
    ((stages_writePlans hchildren).mono fun _ _ => trivial)
  exact ⟨ws, hws⟩

/-! ## Deletions -/

/-- A deletion that finds its row takes it out, and nothing else changes. -/
theorem returns_deleteOne (stamps : Stamps) (hc : c.IsPlain) (hmodel : client.db.model = c.model)
    (hkeyed : c.entity.IsKeyed (client.db.rows c.entity.name)) {before after : List Record}
    (hrows : client.db.rows c.entity.name = before ++ row :: after) {key : RowKey}
    (hkey : c.entity.key? row = some key) (hs : c.keySelection r = .ok s)
    (hfound : (client.db.rows c.entity.name).find? s.selects = some row)
    (hnames : c.populateNames r c.options.populate.one = .ok names)
    (hknown : ∀ name ∈ names, (c.entity.relation? name).isSome = true) :
    ∃ client', (c.deleteOne r).Returns (Client.answer stamps) client () client' ∧
      client'.db.tables = client.db.tables.set c.entity.name (before ++ after) := by
  rw [hrows] at hkeyed
  have hbefore := (hkeyed.key?_ne_of_split hkey).1
  let loaded := client.db.begin.populated c.entity names row
  let v := Write.remove c.entity.name key
  let t := client.db.tables.set c.entity.name (before ++ after)
  have hloaded : c.entity.key? loaded = some key :=
    (hc.key?_of_isPopulated
      (Transaction.isPopulated_populated hc.isUnshadowed _ row names)).trans hkey
  have hfits : v.applyToRows c.entity (client.db.tables.rows c.entity.name) =
      .ok (before ++ after) := by
    have hrows' : client.db.tables.rows c.entity.name = before ++ row :: after := hrows
    simp only [v, Write.applyToRows, hrows', removeRow?_of_split hbefore hkey]
  have happly : applyAll client.db.model client.db.tables [v] = .ok t :=
    applyAll_of_applyToRows (v := v) (hmodel ▸ hc.known) hfits
  have hremove : client.db.begin.remove c.entity loaded = .ok (client.db.begin.stage v) := by
    rw [Transaction.remove, hloaded]
  have hremoved : (c.removeFlushed [loaded]).Works stamps client.db.model
      (client.db.begin, client.taken) () (⟨t, [], [v]⟩, client.taken) := by
    refine Program.returns_bind_iff.2 ⟨(), (client.db.begin.stage v, client.taken), ?_, ?_⟩
    · exact works_remove_iff.2 ⟨_, hremove, rfl⟩
    · exact Program.returns_bind_iff.2 ⟨(), _, works_flush happly,
        Program.returns_pure_iff.2 ⟨rfl, rfl⟩⟩
  have hwork : (c.deleteWork r names).Works stamps client.db.model
      (client.db.begin, client.taken) () (⟨t, [], [v]⟩, client.taken) := by
    unfold deleteWork
    rw [hc.hooks]
    exact Program.returns_bind_iff.2 ⟨loaded, _,
      works_loadOne (congrArg Hooks.afterLoad hc.hooks) hs hfound hknown,
      Program.returns_bind_iff.2 ⟨[loaded], _, Program.returns_pure_iff.2 ⟨rfl, rfl⟩,
        Program.returns_bind_iff.2 ⟨(), _, hremoved, Program.returns_pure_iff.2 ⟨rfl, rfl⟩⟩⟩⟩
  refine ⟨⟨{ client.db with tables := t }, none, client.taken⟩, ?_, rfl⟩
  exact Program.returns_bind_iff.2 ⟨names, client, Program.returns_done_iff.2 ⟨hnames, rfl⟩,
    c.returns_commit_iff.2 ⟨_, _, hwork, Database.commit_of_applyAll happly, rfl⟩⟩

/-! ## Updates -/

/-- A body without arrays for collections is laid over the instance. -/
theorem assignFields_of_replacedCollections {stored : Option Record} {record body : Record}
    (h : c.replacedCollections body = []) :
    c.assignFields stored record body = .ok (record.overlay body, []) := by
  have hnone : ∀ f ∈ body, ∀ elements, f.2 = .arr elements → c.toMany? f.1 = none := by
    intro f hf elements harray
    have hout := List.filter_eq_nil_iff.1 (List.map_eq_nil_iff.1 h) f hf
    rw [harray] at hout
    exact Option.not_isSome_iff_eq_none.1 fun hsome => hout (by rw [hsome]; rfl)
  clear h
  induction body generalizing record with
  | nil => rfl
  | cons f rest ih =>
    rw [assignFields, planChildren_eq_none (hnone f List.mem_cons_self)]
    show (c.assignFields stored (record.put f.1 f.2) rest >>= _) = _
    rw [ih fun g hg => hnone g (List.mem_cons_of_mem _ hg)]
    rfl

/-- An update assigns the body to the row with the populated relations, and writes what it has
    assigned. It takes no notice of a create loader. -/
theorem works_updateWork_iff {load : Option (Request → Program .transaction (Option Record))}
    (hooks : c.options.hooks = { Hooks.none with createLoader := load }) {m : Model}
    {w w' : Transaction × Nat} {body out : Record} (hs : c.keySelection r = .ok s)
    (hfound : (w.1.working.rows c.entity.name).find? s.selects = some row)
    (hknown : ∀ name ∈ names, (c.entity.relation? name).isSome = true) :
    (c.updateWork r body names).Works stamps m w out w' ↔
      ∃ record plans,
        c.assignFields none (w.1.populated c.entity names row) body = .ok (record, plans) ∧
        validatePartial c.entity.rules (c.entity.columnFields body) = .ok () ∧
        (c.write record .update plans).Works stamps m w out w' := by
  have hloaded : (c.loadOne r names).Works stamps m w (w.1.populated c.entity names row) w :=
    works_loadOne (congrArg Hooks.afterLoad hooks) hs hfound hknown
  have hsanitized : (c.sanitized r body false).Works stamps m w body w := by
    rw [sanitized, hooks]
    exact Program.returns_pure_iff.2 ⟨rfl, rfl⟩
  have hsave (record : Record) (plans : List ChildPlan) :
      c.save r record .update plans false = c.write record .update plans :=
    save_eq_write (congrArg Hooks.preSave hooks) (congrArg Hooks.postSave hooks) ..
  unfold updateWork
  refine (Program.returns_bind_iff_of_returns hloaded).trans ?_
  refine (Program.returns_bind_iff_of_returns hsanitized).trans ?_
  constructor
  · intro h
    obtain ⟨u, w₁, hdone, h⟩ := Program.returns_bind_iff.1 h
    obtain ⟨hchecked, rfl⟩ := Program.returns_done_iff.1 hdone
    obtain ⟨⟨record, plans⟩, w₂, hassigned, h⟩ := Program.returns_bind_iff.1 h
    obtain ⟨hassign, rfl⟩ := Program.returns_done_iff.1 hassigned
    exact ⟨record, plans, hassign, of_checked hchecked, hsave _ _ ▸ h⟩
  · rintro ⟨record, plans, hassign, hvalid, hwrite⟩
    refine Program.returns_bind_iff.2 ⟨(), _, Program.returns_done_iff.2 ⟨?_, rfl⟩, ?_⟩
    · rw [hvalid]
      rfl
    · rw [← hsave] at hwrite
      exact Program.returns_bind_iff.2 ⟨_, _, Program.returns_done_iff.2 ⟨hassign, rfl⟩, hwrite⟩

/-- An update returns what it writes if the log fits the committed rows. -/
theorem returns_updateOne_of_write (hooks : c.options.hooks = .none) {body : Record}
    (hbody : c.bodyObject r = .ok body)
    (hnames : c.populateNames r c.options.populate.one = .ok names)
    (hs : c.keySelection r = .ok s)
    (hfound : (client.db.rows c.entity.name).find? s.selects = some row)
    (hknown : ∀ name ∈ addNames names (c.replacedCollections body),
      (c.entity.relation? name).isSome = true)
    (hvalid : validatePartial c.entity.rules (c.entity.columnFields body) = .ok ())
    {record : Record} {plans : List ChildPlan}
    (hassign : c.assignFields none
      (client.db.begin.populated c.entity (addNames names (c.replacedCollections body)) row) body =
        .ok (record, plans)) {out : Record} {w : Transaction × Nat}
    (hwrite : (c.write record .update plans).Works stamps client.db.model
      (client.db.begin, client.taken) out w) {t : Tables}
    (happly : applyAll client.db.model client.db.tables w.1.log = .ok t) :
    (c.updateOne r).Returns (Client.answer stamps) client out
      ⟨{ client.db with tables := t }, none, w.2⟩ := by
  obtain ⟨ws, hws⟩ := stageAll_of_works_write hwrite
  have hwork : (c.updateWork r body (addNames names (c.replacedCollections body))).Works stamps
      client.db.model (client.db.begin, client.taken) out w :=
    (works_updateWork_iff hooks hs hfound hknown).2 ⟨record, plans, hassign, hvalid, hwrite⟩
  obtain ⟨tx, n⟩ := w
  subst hws
  refine Program.returns_bind_iff.2 ⟨body, client, Program.returns_done_iff.2 ⟨hbody, rfl⟩, ?_⟩
  refine Program.returns_bind_iff.2 ⟨names, client, Program.returns_done_iff.2 ⟨hnames, rfl⟩, ?_⟩
  exact returns_commit_flushed hwork happly

/-- An update that finds its row writes it over, and nothing else changes, if the body names no
    column of the key, replaces no collection and passes the rules. -/
theorem returns_updateOne (stamps : Stamps) (hc : c.IsPlain) (hmodel : client.db.model = c.model)
    (hkeyed : c.entity.IsKeyed (client.db.rows c.entity.name)) {before after : List Record}
    (hrows : client.db.rows c.entity.name = before ++ row :: after) (hsorted : row.Sorted)
    {key : RowKey} (hkey : c.entity.key? row = some key) (hs : c.keySelection r = .ok s)
    (hfound : (client.db.rows c.entity.name).find? s.selects = some row)
    (hnames : c.populateNames r c.options.populate.one = .ok names)
    (hknown : ∀ name ∈ names, (c.entity.relation? name).isSome = true) {body : Record}
    (hbody : c.bodyObject r = .ok body) (hunkeyed : ∀ k ∈ c.entity.primaryKey, body.field? k = none)
    (hflat : c.replacedCollections body = [])
    (hvalid : validatePartial c.entity.rules (c.entity.columnFields body) = .ok ()) :
    let stored := Transaction.touch c.entity (stamps client.taken) row
      (c.entity.columnFields (row.overlay body))
    ∃ out client', (c.updateOne r).Returns (Client.answer stamps) client out client' ∧
      client'.db.tables = client.db.tables.set c.entity.name (before ++ stored :: after) := by
  intro stored
  have hcurrent : findRow? c.entity key (client.db.rows c.entity.name) = some row :=
    hkeyed.findRow?_eq (by rw [hrows]; exact List.mem_append_right _ List.mem_cons_self) hkey
  rw [hrows] at hkeyed
  have hbefore := (hkeyed.key?_ne_of_split hkey).1
  let loaded := client.db.begin.populated c.entity names row
  let v := Write.update c.entity.name key stored
  let t := client.db.tables.set c.entity.name (before ++ stored :: after)
  have hassign : c.assignFields none loaded body = .ok (loaded.overlay body, []) :=
    assignFields_of_replacedCollections hflat
  have hwritten : c.entity.columnFields (loaded.overlay body) =
      c.entity.columnFields (row.overlay body) :=
    columnFields_of_isPopulated hc.isUnshadowed
      (Transaction.isPopulated_populated hc.isUnshadowed ..) hsorted hassign
  have hfits : v.applyToRows c.entity (client.db.tables.rows c.entity.name) =
      .ok (before ++ stored :: after) := by
    have hrows' : client.db.tables.rows c.entity.name = before ++ row :: after := hrows
    simp only [v, Write.applyToRows, hrows', replaceRow?_of_split hbefore hkey]
  have happly : applyAll client.db.model client.db.tables [v] = .ok t :=
    applyAll_of_applyToRows (v := v) (hmodel ▸ hc.known) hfits
  have hpersist : client.db.begin.update c.entity (loaded.overlay body) (stamps client.taken) =
      .ok (stored, client.db.begin.stage v) := by
    have hcurrent' : client.db.begin.current? c.entity key = some row := hcurrent
    simp only [Transaction.update, hwritten, key?_columnFields_overlay hc hunkeyed, hkey,
      hcurrent']
    rfl
  have hwrite : (c.write (loaded.overlay body) .update []).Works stamps client.db.model
      (client.db.begin, client.taken) ((loaded.overlay body).overlay stored)
      (client.db.begin.stage v, client.taken + 1) :=
    Program.returns_bind_iff.2 ⟨stored, _, works_persist_iff.2 ⟨_, hpersist, rfl⟩,
      Program.returns_pure_iff.2 ⟨rfl, rfl⟩⟩
  have hnone : addNames names (c.replacedCollections body) = names := by
    rw [hflat]
    rfl
  exact ⟨_, _, returns_updateOne_of_write hc.hooks hbody hnames hs hfound (hnone.symm ▸ hknown)
    hvalid (hnone.symm ▸ hassign) hwrite happly, rfl⟩

/-! ## Collections in place -/

section

variable {m : Model} {w : Transaction × Nat}

/-- The run lemma: records under the keys of rows that are there can be updated one after the
    other. -/
theorem exists_persistAll_update (stamps : Stamps) (hw : w.1.IsInPlace m) {e : Entity}
    (he : m.entity? e.name = some e) (htime : updatedAt ∉ e.primaryKey) {rows : List Record}
    (hrows : ∀ row ∈ rows, e.IsThere (w.1.working.rows e.name) row) :
    ∃ saved w', (c.persistAll e .update rows).Works stamps m w saved w' ∧ w'.1.IsInPlace m ∧
      w'.1.working = w.1.working := by
  induction rows generalizing w with
  | nil => exact ⟨[], w, Program.returns_pure_iff.2 ⟨rfl, rfl⟩, hw, rfl⟩
  | cons row rest ih =>
    obtain ⟨first, tx, hupdate, htx, hworking⟩ :=
      hw.exists_update he htime (hrows row List.mem_cons_self) (stamps w.2)
    have hrest : ∀ row ∈ rest, e.IsThere (tx.working.rows e.name) row := by
      rw [hworking]
      exact fun row hrow => hrows row (List.mem_cons_of_mem _ hrow)
    obtain ⟨others, w', hothers, hw', hworking'⟩ := ih (w := (tx, w.2 + 1)) htx hrest
    exact ⟨first :: others, w', Program.returns_bind_iff.2 ⟨first, _,
      works_persist_iff.2 ⟨tx, hupdate, rfl⟩, Program.returns_bind_iff.2 ⟨others, w', hothers,
        Program.returns_pure_iff.2 ⟨rfl, rfl⟩⟩⟩, hw', hworking'.trans hworking⟩

/-- The changes of a plan that creates and removes nothing can be made. -/
theorem exists_writePlan (stamps : Stamps) (hw : w.1.IsInPlace m) {p : ChildPlan}
    (he : m.entity? p.target.name = some p.target) (htime : updatedAt ∉ p.target.primaryKey)
    (hcreate : p.changes.toCreate = []) (hremove : p.changes.toRemove = []) {v : Json}
    (hrows : ∀ x ∈ p.changes.toUpdate, p.target.IsThere (w.1.working.rows p.target.name)
      ((x.1.overlay x.2).put p.relation.remoteColumn v)) :
    ∃ children w', (c.writePlan p v).Works stamps m w children w' ∧ w'.1.IsInPlace m ∧
      w'.1.working = w.1.working := by
  have hupdates : ∀ row ∈ (ChildPlan.rows p v).1,
      p.target.IsThere (w.1.working.rows p.target.name) row := by
    intro row hrow
    obtain ⟨x, hx, rfl⟩ := List.mem_map.1 hrow
    exact hrows x hx
  obtain ⟨saved, w', hsaved, hw', hworking⟩ :=
    exists_persistAll_update stamps hw he htime hupdates
  have hnone : (ChildPlan.rows p v).2 = [] := by
    show p.changes.toCreate.map _ = []
    rw [hcreate, List.map_nil]
  have hcreated :
      (c.persistAll p.target .insert (ChildPlan.rows p v).2).Works stamps m w' [] w' := by
    rw [hnone]
    exact Program.returns_pure_iff.2 ⟨rfl, rfl⟩
  have hremoved : (c.removeAll p.target p.changes.toRemove).Works stamps m w' () w' := by
    rw [hremove]
    exact Program.returns_pure_iff.2 ⟨rfl, rfl⟩
  exact ⟨saved ++ [], w', Program.returns_bind_iff.2 ⟨saved, w', hsaved,
    Program.returns_bind_iff.2 ⟨[], w', hcreated, Program.returns_bind_iff.2 ⟨(), w', hremoved,
      Program.returns_pure_iff.2 ⟨rfl, rfl⟩⟩⟩⟩, hw', hworking⟩

end

end Controller

end Depot
