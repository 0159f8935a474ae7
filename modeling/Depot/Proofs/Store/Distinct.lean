import Depot.Proofs.Store.Reachable
import Depot.Proofs.Store.Searches
import Mathlib.Data.List.Pairwise

/-!
# Distinct rows

A search for distinct rows leaves out the rows that are the same as data as an earlier one. In the
tables of a reachable transaction rows have keys that tell them apart, so that two of them can be
the same as data only if their keys differ in the sign of a zero. Elsewhere the rows are distinct
already.

* `Transaction.pageOf`: the page that is cut out of the rows that are found.

Results:
* `Transaction.distinctRows_eq_self_iff`: when no row is left out.
* `Transaction.findPage_distinct_eq_iff`: when a search for distinct rows finds the page that it
  finds without this.
* `Transaction.findPage_ignores_distinct`: the same in reachable transactions.
* `not_findPage_ignores_distinct`: a row whose key is a zero with a sign can be left out.
-/

namespace Depot

namespace Transaction

variable {m : Model} {tx : Transaction} {e : Entity} {s : Selection} {o : FindOptions}

/-- The page that is cut out of the rows that are found. -/
def pageOf (tx : Transaction) (e : Entity) (o : FindOptions) (rows : List Record) :
    Except StoreError Page := do
  let items ← tx.populate e (((sortRows o.sort rows).drop o.offset).take o.limit) o.populate
  .ok ⟨rows.length, items⟩

/-! ## Rows that are left out -/

theorem apart_of_distinctRows {seen rows : List Record} (h : distinctRows seen rows = rows) :
    (∀ r ∈ rows, ∀ t ∈ seen, Json.sameFields r t = false) ∧
      rows.Pairwise fun r t => Json.sameFields t r = false := by
  induction rows generalizing seen with
  | nil => exact ⟨fun r hr => absurd hr List.not_mem_nil, .nil⟩
  | cons r rows ih =>
    rw [distinctRows] at h
    split at h
    · have hlength := (distinctRows_sublist seen rows).length_le
      rw [h, List.length_cons] at hlength
      omega
    · rename_i hnew
      obtain ⟨hseen, hrows⟩ := ih (List.cons.inj h).2
      have hfirst : ∀ t ∈ seen, Json.sameFields r t = false := by
        intro t ht
        rw [List.any_eq_true, not_exists] at hnew
        exact Bool.eq_false_iff.2 fun hsame => hnew t ⟨ht, hsame⟩
      refine ⟨List.forall_mem_cons.2 ⟨hfirst, fun q hq t ht => ?_⟩,
        List.pairwise_cons.2 ⟨?_, hrows⟩⟩
      · exact hseen q hq t (List.mem_append_left _ ht)
      · exact fun q hq => hseen q hq r (List.mem_append_right _ List.mem_cons_self)

/-- No row is left out if and only if no two of the rows are the same as data. -/
theorem distinctRows_eq_self_iff {rows : List Record} :
    distinctRows [] rows = rows ↔ rows.Pairwise fun r t => Json.sameFields t r = false := by
  constructor
  · exact fun h => (apart_of_distinctRows h).2
  · exact distinctRows_eq_self_of_apart fun _ _ _ ht => absurd ht List.not_mem_nil

/-! ## Pages -/

theorem findPage_eq_bind : tx.findPage e s o = tx.found e s o.distinct >>= tx.pageOf e o := rfl

/-- Relations that an entity does not have fail a search, whatever the rows. -/
theorem populate_eq_error {names : List String} {rows rows' : List Record} {err : StoreError}
    (h : tx.populate e rows names = .error err) : tx.populate e rows' names = .error err := by
  induction names generalizing rows rows' with
  | nil => cases h
  | cons name names ih =>
    rw [populate] at h ⊢
    split at h
    · exact h
    · exact ih h

theorem pageOf_eq_error {rows rows' : List Record} {err : StoreError}
    (h : tx.pageOf e o rows = .error err) : tx.pageOf e o rows' = .error err := by
  rcases bind_eq_error_iff.1 h with h | ⟨items, -, h⟩
  · exact bind_eq_error_iff.2 (Or.inl (populate_eq_error h))
  · cases h

theorem count_of_pageOf {rows : List Record} {page : Page} (h : tx.pageOf e o rows = .ok page) :
    page.count = rows.length := by
  obtain ⟨items, -, h⟩ := bind_eq_ok_iff.1 h
  cases h
  rfl

/-- A search for distinct rows does as the same search without this if and only if no row is left
    out of a page that is found. -/
theorem findPage_distinct_eq_iff :
    tx.findPage e s { o with distinct := true } = tx.findPage e s { o with distinct := false } ↔
      ∀ page, tx.findPage e s { o with distinct := false } = .ok page →
        ((tx.working.rows e.name).filter s.selects).Pairwise fun r t =>
          Json.sameFields t r = false := by
  rw [← distinctRows_eq_self_iff]
  cases hmatching : tx.matching e s with
  | error err =>
    have hfails (distinct : Bool) : tx.findPage e s { o with distinct } = .error err := by
      rw [findPage_eq_bind, found, hmatching]
      rfl
    rw [hfails, hfails]
    refine iff_of_true rfl fun page hpage => ?_
    cases hpage
  | ok rows =>
    have hon : tx.findPage e s { o with distinct := true } =
        tx.pageOf e o (distinctRows [] rows) := by
      rw [findPage_eq_bind, found, hmatching]
      rfl
    have hoff : tx.findPage e s { o with distinct := false } = tx.pageOf e o rows := by
      rw [findPage_eq_bind, found, hmatching]
      rfl
    rw [hon, hoff, ← matching_eq_ok hmatching]
    constructor
    -- A page tells how many rows were found, and rows that are left out are missing in the count.
    · intro hsame page hpage
      have hcount := count_of_pageOf (hsame.trans hpage)
      rw [count_of_pageOf hpage] at hcount
      exact (distinctRows_sublist [] rows).eq_of_length hcount.symm
    · intro hapart
      cases hpage : tx.pageOf e o rows with
      | error err => exact pageOf_eq_error hpage
      | ok page => rw [hapart page hpage, hpage]

end Transaction

/-! ## In reachable transactions -/

/-- Among rows with keys that tell them apart no two are the same as data if and only if rows that
    are the same as data are one row. -/
theorem Entity.IsKeyed.apart_iff {e : Entity} {rows : List Record} (h : e.IsKeyed rows) :
    (rows.Pairwise fun r t => Json.sameFields t r = false) ↔
      ∀ r ∈ rows, ∀ t ∈ rows, Json.sameFields r t = true → r = t := by
  have hcomm (r t : Record) (hsame : Json.sameFields r t = true) : Json.sameFields t r = true :=
    (Json.sameFields_iff_unsigned t r).2 ((Json.sameFields_iff_unsigned r t).1 hsame).symm
  have hsymm : Std.Symm fun r t : Record => Json.sameFields t r = false :=
    ⟨fun r t hother => Bool.eq_false_iff.2 fun hsame =>
      Bool.eq_false_iff.1 hother (hcomm r t hsame)⟩
  constructor
  · intro hapart r hr t ht hsame
    by_contra hne
    exact Bool.eq_false_iff.1 (hapart.forall ht hr (Ne.symm hne)) hsame
  · intro hone
    have hnodup : rows.Nodup := h.distinct.imp fun hkey hsame => hkey (congrArg e.key? hsame)
    refine hnodup.pairwise_of_forall_ne fun r hr t ht hne => ?_
    exact Bool.eq_false_iff.2 fun hsame => hne (hone r hr t ht (hcomm t r hsame))

namespace Transaction

variable {m : Model} {tx : Transaction} {e : Entity}

/-- In a reachable transaction a search for distinct rows does as the same search without this if
    and only if, where a page is found, no two different rows that are selected are the same as
    data. They never are if no selected row has a zero with a minus sign in its key. -/
theorem findPage_ignores_distinct (htx : tx.IsReachable m)
    (htime : ∀ e ∈ m.entities, updatedAt ∉ e.primaryKey) (he : m.entity? e.name = some e)
    (s : Selection) (o : FindOptions) :
    (tx.findPage e s { o with distinct := true } = tx.findPage e s { o with distinct := false } ↔
      ∀ page, tx.findPage e s { o with distinct := false } = .ok page →
        ∀ r ∈ tx.working.rows e.name, ∀ t ∈ tx.working.rows e.name,
          s.selects r = true → s.selects t = true → Json.sameFields r t = true → r = t) ∧
    ((∀ row ∈ tx.working.rows e.name, s.selects row = true →
        ∀ k ∈ e.primaryKey, ∀ v, row.field? k = some v → v.unsigned = v) →
      tx.findPage e s { o with distinct := true } =
        tx.findPage e s { o with distinct := false }) := by
  have hkeyed : e.IsKeyed ((tx.working.rows e.name).filter s.selects) :=
    ((htx.isSound htime).working e.name e he).1.filter s.selects
  rw [findPage_distinct_eq_iff]
  constructor
  · refine forall_congr' fun page => forall_congr' fun _ => ?_
    rw [hkeyed.apart_iff]
    constructor
    · intro hone r hr t ht hselected hselected'
      exact hone r (List.mem_filter.2 ⟨hr, hselected⟩) t (List.mem_filter.2 ⟨ht, hselected'⟩)
    · intro hone r hr t ht
      obtain ⟨hr, hselected⟩ := List.mem_filter.1 hr
      obtain ⟨ht, hselected'⟩ := List.mem_filter.1 ht
      exact hone r hr t ht hselected hselected'
  · intro hzeros page _
    rw [← distinctRows_eq_self_iff]
    refine distinctRows_eq_self hkeyed fun row hrow => ?_
    obtain ⟨hrow, hselected⟩ := List.mem_filter.1 hrow
    exact hzeros row hrow hselected

end Transaction

/-! ## Probes at depths -/

namespace Probes

/-- Probes are known by their depths. -/
def entity : Entity :=
  ⟨"probe", "public", "probe", ["depth"], [⟨"depth", some .text, false, false, "float8"⟩], [], []⟩

/-- The model of probes. -/
def model : Model := ⟨[entity], []⟩

/-- The depth of the surface, from above or from below. -/
def surface (below : Bool) : Json := .num (.real ⟨.zero below, rfl⟩)

/-- A probe at a depth. -/
def probe (depth : Json) : Record := [("depth", depth)]

/-- Probes are seeded, and a transaction is begun. -/
def steps (depths : List Json) : List Session.Step :=
  [.seed "probe" (depths.map probe), .begin "t"]

/-- The session after these steps. -/
def session (depths : List Json) : Session :=
  (Session.start (.create model)).runAll (fun _ => ⟨"now", "fresh"⟩) (steps depths)

/-- The transaction after these steps. -/
def transaction (depths : List Json) : Transaction :=
  ((session depths).transactions.field? "t").getD (.start .empty)

theorem sorted_probe (depth : Json) : (probe depth).Sorted := by
  rw [Fields.sorted_iff_keys]
  show ["depth"].Pairwise (· < ·)
  decide

theorem isReachable_transaction {depths : List Json}
    (h : (session depths).transactions.field? "t" = some (transaction depths)) :
    (transaction depths).IsReachable model := by
  refine ⟨fun _ => ⟨"now", "fresh"⟩, steps depths, "t", ?_, h⟩
  have hseed : ∀ row ∈ depths.map probe, row.Sorted :=
    List.forall_mem_map.2 fun depth _ => sorted_probe depth
  exact List.forall_mem_cons.2 ⟨hseed, List.forall_mem_singleton.2 trivial⟩

end Probes

open Probes in
/-- A probe at the surface and one below it are distinct. -/
theorem findPage_ignores_distinct_probes :
    (transaction [surface false, .nat 3]).findPage entity (.ofFields [])
        ⟨20, 0, [], [], true⟩ =
      .ok ⟨2, [probe (surface false), probe (.nat 3)]⟩ := by
  have hreachable : (transaction [surface false, .nat 3]).IsReachable model :=
    isReachable_transaction rfl
  have hrows : (transaction [surface false, .nat 3]).working.rows entity.name =
      [surface false, .nat 3].map probe := by rfl
  obtain ⟨-, hsame⟩ := Transaction.findPage_ignores_distinct (e := entity) hreachable
    (by decide) rfl (.ofFields []) ⟨20, 0, [], [], true⟩
  refine (hsame ?_).trans rfl
  rw [hrows, List.forall_mem_map]
  intro depth hdepth _ k hk v hv
  have hplain : ∀ depth ∈ [surface false, .nat 3], depth.unsigned = depth := by decide +kernel
  obtain rfl := List.mem_singleton.1 hk
  cases hv
  exact hplain depth hdepth

open Probes in
/-- Distinct rows are not always all rows: two probes whose depths are zeros of either sign have
    different keys, but are the same as data. -/
theorem not_findPage_ignores_distinct :
    ((transaction [surface false, surface true]).findPage entity (.ofFields [])
          ⟨20, 0, [], [], false⟩ =
        .ok ⟨2, [probe (surface false), probe (surface true)]⟩ ∧
      (transaction [surface false, surface true]).findPage entity (.ofFields [])
          ⟨20, 0, [], [], true⟩ =
        .ok ⟨1, [probe (surface false)]⟩) ∧
      ¬∀ (m : Model) (tx : Transaction) (e : Entity) (s : Selection) (o : FindOptions),
        tx.IsReachable m → (∀ e ∈ m.entities, updatedAt ∉ e.primaryKey) →
        m.entity? e.name = some e →
        tx.findPage e s { o with distinct := true } =
          tx.findPage e s { o with distinct := false } := by
  have hoff : (transaction [surface false, surface true]).findPage entity (.ofFields [])
      ⟨20, 0, [], [], false⟩ = .ok ⟨2, [probe (surface false), probe (surface true)]⟩ := by
    decide +kernel
  have hon : (transaction [surface false, surface true]).findPage entity (.ofFields [])
      ⟨20, 0, [], [], true⟩ = .ok ⟨1, [probe (surface false)]⟩ := by
    decide +kernel
  refine ⟨⟨hoff, hon⟩, fun h => ?_⟩
  have hsame := h model (transaction [surface false, surface true]) entity (.ofFields [])
    ⟨20, 0, [], [], true⟩ (isReachable_transaction rfl) (by decide) rfl
  rw [hon, hoff] at hsame
  cases hsame

end Depot
