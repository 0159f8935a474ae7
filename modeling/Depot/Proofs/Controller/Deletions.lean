import Depot.Proofs.Controller.Lookup
import Depot.Proofs.Controller.Replacement

/-!
# Deleting what is shown

A deletion looks its instance up as a request that reads it does, and then removes the row by the
key of what it has found. Rows are looked up by the values of fields and removed by the text of
their key; since no two rows have one key, both are the same row. So a deletion takes out exactly
the row that the same request shows, and fails as that request does.

Results:
* `result_deleteOne_of_error`: a deletion fails as the look-up does.
* `deleteOne_removes_shown`: what a deletion does, by what the same request shows.
-/

namespace Depot

namespace Controller

variable {c : Controller} {stamps : Stamps} {client : Client} {r : Request}

/-- A deletion begins with what a request for one instance does, and ends there if this fails. -/
theorem result_deleteOne_of_error {e : RequestError}
    (h : ((c.getOne r).run (Client.answer stamps) client).result = .error e) :
    ((c.deleteOne r).run (Client.answer stamps) client).result = .error e := by
  rw [getOne, Program.result_bind] at h
  rw [deleteOne, Program.result_bind]
  change (c.populateNames r c.options.populate.one >>= fun names =>
    ((c.begin (c.loadOne r names)).run (Client.answer stamps) client).result) = _ at h
  show (c.populateNames r c.options.populate.one >>= fun names =>
    ((c.commit (c.deleteWork r names)).run (Client.answer stamps) client).result) = _
  cases hnames : c.populateNames r c.options.populate.one with
  | error failure =>
    rw [hnames] at h
    cases h
    rfl
  | ok names =>
    rw [hnames] at h
    change ((c.begin (c.loadOne r names)).run (Client.answer stamps) client).result = _ at h
    rw [result_begin] at h
    have hwork : ((c.begin (c.deleteWork r names)).run (Client.answer stamps) client).result =
        .error e := by
      rw [result_begin]
      exact (Program.run_bind_error _ h).1
    exact (Program.run_bind_error _ hwork).1

end Controller

/-- A deletion removes exactly what the same request shows. Take a resource without hooks and a
    reachable database on which nobody commits beside it. If a request for one instance returns a
    record, then the record's key is that of one committed row, and the deletion returns and takes
    out this row: all other rows of all entities stay, in their order. If the request fails, then
    the deletion fails in the same way, and changes nothing. -/
theorem deleteOne_removes_shown {config : ModelConfig} {m : Model} {resource entity : String}
    {o : Options} {c : Controller} (hm : config.resolve = .ok m)
    (hc : Controller.build m resource entity o = .ok c) (hooks : o.hooks = .none)
    (htime : ∀ e ∈ m.entities, updatedAt ∉ e.primaryKey) (stamps : Stamps) {client : Client}
    (hreach : client.db.IsReachable m) (r : Request) :
    let shown := ((c.getOne r).run (Client.answer stamps) client).result
    let deleted := (c.deleteOne r).run (Client.answer stamps) client
    (∀ record, shown = .ok record →
      ∃ key before row after, c.entity.key? record = some key ∧ c.entity.key? row = some key ∧
        client.db.rows c.entity.name = before ++ row :: after ∧
        (∀ q ∈ before ++ after, c.entity.key? q ≠ some key) ∧ deleted.result = .ok () ∧
        deleted.state.db.tables = client.db.tables.set c.entity.name (before ++ after)) ∧
      ∀ e, shown = .error e → deleted.result = .error e ∧ deleted.state.db = client.db := by
  intro shown deleted
  have hbuilt := Controller.isPlain_of_build hm hc hooks
  have hplain := Controller.build_eq_ok hc
  obtain ⟨hmodel, hsound⟩ := isSound_of_isReachable htime hreach
  have hmodel' : client.db.model = c.model := hmodel.trans hplain.1.symm
  have hkeyed : c.entity.IsKeyed (client.db.rows c.entity.name) :=
    (hsound c.entity.name c.entity (hplain.1 ▸ hbuilt.known)).1
  constructor
  · intro record hshown
    have hread : c.shown client.db.begin r = .ok record :=
      (Controller.result_getOne hbuilt.hooks).symm.trans hshown
    obtain ⟨names, s, row, hnames, hs, hfound, hpopulate⟩ := Controller.of_shown hread
    have hrow : row ∈ client.db.rows c.entity.name := List.mem_of_find?_eq_some hfound
    obtain ⟨key, hkey⟩ := Option.isSome_iff_exists.1 (hkeyed.complete row hrow)
    obtain ⟨before, after, hsplit⟩ := List.append_of_mem hrow
    have hpopulated := Transaction.isPopulated_of_populate hbuilt.isUnshadowed hpopulate
    obtain ⟨client', ⟨hresult, hstate⟩, htables⟩ := Controller.returns_deleteOne stamps hbuilt
      hmodel' hkeyed hsplit hkey hs hfound hnames (Controller.isSome_relation?_of_build hc hnames)
    refine ⟨key, before, row, after, (hbuilt.key?_of_isPopulated hpopulated).trans hkey, hkey,
      hsplit, Controller.key?_ne_of_left hkeyed hsplit hkey, hresult, ?_⟩
    rw [show deleted.state = client' from hstate, htables]
  · intro e hshown
    have hresult : deleted.result = .error e := Controller.result_deleteOne_of_error hshown
    exact ⟨hresult, c.keepsOnFailure_deleteOne r stamps client e hresult⟩

/-! ## A cart and its items -/

namespace Carts

/-- A request for a cart with its items. -/
def withItems (id : String) : Request :=
  ⟨[("id", id)], [("populate", .single "items")], [], none⟩

/-- The first cart with its items. -/
def firstCart : Record :=
  [("id", .str "a"),
    ("items", .arr [.obj (itemRow "a" "1" "old" "then"), .obj (itemRow "a" "2" "old" "then")])]

end Carts

/-- The deletion takes out the cart that is shown and leaves its items. There is no third cart. -/
theorem deleteOne_removes_shown_carts :
    let shown id := ((Carts.controller.getOne (Carts.withItems id)).run
      (Client.answer Carts.stamps) Carts.client).result
    let deleted id := (Carts.controller.deleteOne (Carts.withItems id)).run
      (Client.answer Carts.stamps) Carts.client
    let missing := RequestError.notFound "cart" "query=\x7b\"id\":\"c\"\x7d"
    shown "a" = .ok Carts.firstCart ∧ (deleted "a").result = .ok () ∧
      (deleted "a").state.db.rows "cart" = [Carts.cartRow "b"] ∧
      (∀ name, name ≠ "cart" → (deleted "a").state.db.rows name = Carts.client.db.rows name) ∧
      shown "c" = .error missing ∧ (deleted "c").result = .error missing ∧
      (deleted "c").state.db = Carts.client.db := by
  intro shown deleted missing
  have hremoves := deleteOne_removes_shown Carts.resolve_config Carts.build_controller rfl
    Carts.updatedAt_not_mem_primaryKey Carts.stamps Carts.isReachable_client
  have hfirst : shown "a" = .ok Carts.firstCart := by decide +kernel
  have hthird : shown "c" = .error missing := by decide +kernel
  obtain ⟨key, before, row, after, -, -, -, -, hresult, htables⟩ :=
    (hremoves (Carts.withItems "a")).1 _ hfirst
  obtain ⟨hfailure, hdb⟩ := (hremoves (Carts.withItems "c")).2 _ hthird
  refine ⟨hfirst, hresult, by decide +kernel, fun name hname => ?_, hthird, hfailure, hdb⟩
  rw [Database.rows, show (deleted "a").state.db.tables = _ from htables, Tables.rows_set]
  exact if_neg hname

end Depot
