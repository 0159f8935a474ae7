import Depot.Proofs.Controller.Isolation
import Depot.Proofs.Controller.Reads
import Depot.Proofs.Store.Searches

/-!
# Reading within a scope

Both requests that read look for rows of the scope only: one lays the scope over the key of the
path, the other starts its conditions with it. Whether a condition can be tested is asked of a row
after it was found to be in the scope. So rows outside the scope have no influence on what is
returned, nor on whether a request fails, as long as no relation leads out of the scope.

Results:
* `staysWithin_keySelection`, `staysWithin_search`: what is looked for is in the scope.
* `result_reads_eq_of_inScope_eq`: in states with the same rows in the scope, requests that read
  return the same.
-/

namespace Depot

variable {scope : Record}

/-- A selection that asks for all values of a scope is about rows in the scope. -/
theorem Selection.staysWithin_inScope {s : Selection}
    (h : ∀ f v, (f, v) ∈ scope → (f, v) ∈ s.fields) : s.StaysWithin (inScope scope) := by
  intro row hrow
  rw [inScope_iff]
  intro f v hm
  -- both answers begin with the fields, and the scope is among these
  have hfields : s.fields.all (fun g => looseEq (row.get g.1) g.2) = true := by
    rcases hrow with hselects | hrefuses
    · exact (Bool.and_eq_true_iff.1 hselects).1
    · exact (Bool.and_eq_true_iff.1 hrefuses).1
  exact List.all_eq_true.1 hfields (f, v) (h f v hm)

namespace Controller

variable {c : Controller} {r : Request}

theorem staysWithin_keySelection (hscope : (c.options.scope r).Sorted) {s : Selection}
    (h : c.keySelection r = .ok s) : s.StaysWithin (inScope (c.options.scope r)) := by
  obtain ⟨fields, -, hs⟩ := bind_eq_ok_iff.1 h
  rw [Except.ok.injEq] at hs
  refine Selection.staysWithin_inScope fun f v hm => ?_
  rw [← hs]
  exact Fields.mem_overlay_of_mem fields hscope hm

/-- Searchable fields add conditions; the field equalities stay. -/
theorem fields_withSearch {fields : List String} {s s' : Selection}
    (h : c.withSearch r s fields = .ok s') : s'.fields = s.fields := by
  induction fields generalizing s with
  | nil =>
    cases h
    rfl
  | cons field fields ih =>
    obtain ⟨condition?, -, h⟩ := bind_eq_ok_iff.1 h
    rw [ih h]
    cases condition? <;> rfl

theorem staysWithin_search {s : Search} (h : c.search r = .ok s) :
    s.selection.StaysWithin (inScope (c.options.scope r)) := by
  obtain ⟨_, _, _, -, -, hselection, -⟩ := search_eq_ok h
  refine Selection.staysWithin_inScope fun f v hm => ?_
  rw [fields_withSearch hselection]
  exact hm

/-! ## Two transactions with the same rows in the scope -/

variable {tx tx' : Transaction}

theorem shown_congr (hone : c.options.populate.one = []) (hnames : r.populate? = none)
    (hscope : (c.options.scope r).Sorted)
    (h : (tx.working.rows c.entity.name).filter (inScope (c.options.scope r)) =
      (tx'.working.rows c.entity.name).filter (inScope (c.options.scope r))) :
    c.shown tx r = c.shown tx' r := by
  simp only [shown, populateNames_of_none hnames, hone]
  cases hs : c.keySelection r with
  | error e => rfl
  | ok s =>
    have hfind : tx.findOne c.entity s [] = tx'.findOne c.entity s [] :=
      Transaction.findOne_congr (staysWithin_keySelection hscope hs) h
    show ((tx.findOne c.entity s []).mapError (c.lookupFailure s) >>= _) =
      ((tx'.findOne c.entity s []).mapError (c.lookupFailure s) >>= _)
    rw [hfind]

theorem listed_congr (hmany : c.options.populate.many = []) (hnames : r.populate? = none)
    (h : (tx.working.rows c.entity.name).filter (inScope (c.options.scope r)) =
      (tx'.working.rows c.entity.name).filter (inScope (c.options.scope r))) :
    c.listed tx r = c.listed tx' r := by
  rw [listed, listed]
  cases hs : c.search r with
  | error e => rfl
  | ok s =>
    obtain ⟨_, _, names, -, -, -, -, hpopulate, hoptions⟩ := search_eq_ok hs
    have hnone : s.options.populate = [] := by
      rw [populateNames_of_none hnames, hmany, Except.ok.injEq] at hpopulate
      rw [hoptions, ← hpopulate]
    show (tx.findPage c.entity s.selection s.options).mapError c.searchFailure =
      (tx'.findPage c.entity s.selection s.options).mapError c.searchFailure
    rw [Transaction.findPage_congr (staysWithin_search hs) hnone h]

end Controller

/-- Rows outside the scope of a request have no influence on what it reads: in two states with the
    same rows in the scope, the instance that it names is the same, and so are the number, the
    contents and the order of the instances that it lists, and every failure. The resource has no
    hooks and populates no relation, and the request asks for none. -/
theorem result_reads_eq_of_inScope_eq {c : Controller} (hooks : c.options.hooks = .none)
    (hone : c.options.populate.one = []) (hmany : c.options.populate.many = []) {r : Request}
    (hnames : r.populate? = none) {scope : Record} (hr : c.options.scope r = scope)
    (hscope : scope.Sorted) (stamps stamps' : Stamps) {client client' : Client}
    (h : (client.db.rows c.entity.name).filter (inScope scope) =
      (client'.db.rows c.entity.name).filter (inScope scope)) :
    ((c.getOne r).run (Client.answer stamps) client).result =
        ((c.getOne r).run (Client.answer stamps') client').result ∧
      ((c.index r).run (Client.answer stamps) client).result =
        ((c.index r).run (Client.answer stamps') client').result := by
  subst hr
  simp only [Controller.result_getOne hooks, Controller.result_index hooks]
  exact ⟨Controller.shown_congr hone hnames hscope h, Controller.listed_congr hmany hnames h⟩

/-- Orders of which one tenant has the same as in `Orders.start`, and the other tenant others. -/
def Orders.crowded : Client :=
  client [order "0" "first" "globex", order "1" "mine" "acme", order "3" "third" "globex"]

/-- A tenant reads the same whatever the orders of another tenant are. -/
theorem reads_orders :
    ((Orders.controller.getOne (Orders.request "1" [])).run (Client.answer Orders.stamps)
        Orders.start).result = .ok (Orders.order "1" "mine" "acme") ∧
      ((Orders.controller.getOne (Orders.request "1" [])).run (Client.answer Orders.stamps)
          Orders.start).result =
        ((Orders.controller.getOne (Orders.request "1" [])).run (Client.answer Orders.stamps)
          Orders.crowded).result ∧
      ((Orders.controller.index (Orders.request "1" [])).run (Client.answer Orders.stamps)
          Orders.start).result =
        ((Orders.controller.index (Orders.request "1" [])).run (Client.answer Orders.stamps)
          Orders.crowded).result := by
  refine ⟨by decide +kernel, ?_⟩
  exact result_reads_eq_of_inScope_eq rfl rfl rfl rfl rfl Orders.sorted_scope Orders.stamps
    Orders.stamps (by decide +kernel)

end Depot
