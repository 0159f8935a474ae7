import Depot.Proofs.Controller.Isolation
import Depot.Proofs.Controller.Reads
import Depot.Proofs.Numerals
import Depot.Proofs.Store.Searches
import Mathlib.Algebra.Group.Nat.Defs

/-!
# Pages

A request for many instances counts the rows of its scope that satisfy the conditions of the
searchable fields, and returns one page of them. Rows are sorted before a page is cut out of them,
and the same rows are sorted in the same way for every page, so that the pages of one size follow
each other without a gap, whatever the values in the sort columns are.

* `Controller.sought`: the rows that a request is for; `Controller.counted`: those that it counts.
* `Request.paged`: a request for a page of what another request is for.
* `Controller.IsTiling`: pages of one size up to the first empty one.

Results:
* `selects_search`: the rows that are selected are those that the request is for.
* `cuts_index`: what the page at an offset is.
* `index_tiles`: the number of rows is exact, and the pages hold every row once.
-/

namespace Depot

/-- A request for one page of what another request is for. -/
def Request.paged (r : Request) (offset size : Nat) : Request :=
  let query := r.query.put "offset" (.single (Nat.repr offset))
  { r with query := query.put "pagesize" (.single (Nat.repr size)) }

namespace Controller

/-! ## Rows that a request is for -/

/-- Whether a row satisfies the condition that a request sets on a field, if it sets one. -/
def meets (c : Controller) (r : Request) (row : Record) (field : String) : Bool :=
  match c.searchCondition r field with
  | .ok (some condition) => condition.holds (row.get field)
  | _ => true

/-- Whether a row is in the scope of a request and satisfies its conditions. -/
def isSought (c : Controller) (r : Request) (row : Record) : Bool :=
  inScope (c.options.scope r) row && c.options.searchable.all (c.meets r row)

/-- The rows that a request is for. -/
def sought (c : Controller) (client : Client) (r : Request) : List Record :=
  (client.db.rows c.entity.name).filter (c.isSought r)

/-- The rows that a request counts: a resource can ask for the first ones only of those that are
    the same as data. -/
def counted (c : Controller) (client : Client) (r : Request) : List Record :=
  if c.options.distinct then Transaction.distinctRows [] (c.sought client r)
  else c.sought client r

variable {c : Controller} {stamps : Stamps} {client : Client} {r : Request}

theorem selects_withSearch {fields : List String} {s s' : Selection}
    (h : c.withSearch r s fields = .ok s') (row : Record) :
    s'.selects row = (s.selects row && fields.all (c.meets r row)) := by
  induction fields generalizing s with
  | nil =>
    cases h
    exact (Bool.and_true _).symm
  | cons field fields ih =>
    obtain ⟨condition?, hcondition, h⟩ := bind_eq_ok_iff.1 h
    rw [ih h, List.all_cons, ← Bool.and_assoc]
    congr 1
    rw [meets, hcondition]
    cases condition? with
    | none => exact (Bool.and_true _).symm
    | some condition =>
      show (s.fields.all _ && (s.conditions ++ [(field, condition)]).all _) = _
      rw [List.all_append, List.all_cons, List.all_nil, Bool.and_true, ← Bool.and_assoc]
      rfl

theorem selects_search {s : Search} (h : c.search r = .ok s) :
    s.selection.selects = c.isSought r := by
  obtain ⟨_, _, _, -, -, hselection, -⟩ := search_eq_ok h
  funext row
  rw [selects_withSearch hselection]
  rfl

theorem length_counted_le (c : Controller) (client : Client) (r : Request) :
    (c.counted client r).length ≤ (client.db.rows c.entity.name).length := by
  have hsought : (c.sought client r).length ≤ (client.db.rows c.entity.name).length :=
    List.length_filter_le _ _
  rw [counted]
  split
  · exact Nat.le_trans (Transaction.distinctRows_sublist _ _).length_le hsought
  · exact hsought

/-- Rows with keys that tell them apart are all counted, unless a key holds a zero with a sign. -/
theorem counted_eq_sought (hkeyed : c.entity.IsKeyed (client.db.rows c.entity.name))
    (h : c.options.distinct = false ∨ ∀ row ∈ c.sought client r, ∀ k ∈ c.entity.primaryKey,
      ∀ v, row.field? k = some v → v.unsigned = v) :
    c.counted client r = c.sought client r := by
  rw [counted]
  split
  · rename_i hdistinct
    rcases h with h | h
    · rw [h] at hdistinct
      cases hdistinct
    · exact Transaction.distinctRows_eq_self (hkeyed.filter _) h
  · rfl

/-! ## The same request at other offsets -/

/-- The size and the offset of a page have no influence on which rows a request is for. -/
structure IsPageable (c : Controller) (r : Request) (size : Nat) : Prop where
  noOffset : "offset" ∉ c.options.searchable
  noSize : "pagesize" ∉ c.options.searchable
  scope : ∀ offset, c.options.scope (r.paged offset size) = c.options.scope r

variable {offset size : Nat}

theorem field?_paged {key : String} (hoffset : key ≠ "offset") (hsize : key ≠ "pagesize") :
    (r.paged offset size).query.field? key = r.query.field? key := by
  rw [Request.paged, Fields.field?_put, if_neg (Ne.symm hsize), Fields.field?_put,
    if_neg (Ne.symm hoffset)]

theorem single_paged {resource key : String} (hoffset : key ≠ "offset")
    (hsize : key ≠ "pagesize") :
    (r.paged offset size).single resource key = r.single resource key := by
  rw [Request.single, field?_paged hoffset hsize, Request.single]

theorem withSearch_paged {fields : List String} (hoffset : "offset" ∉ fields)
    (hsize : "pagesize" ∉ fields) (s : Selection) :
    c.withSearch (r.paged offset size) s fields = c.withSearch r s fields := by
  induction fields generalizing s with
  | nil => rfl
  | cons field fields ih =>
    rw [List.mem_cons, not_or] at hoffset hsize
    have hcondition : c.searchCondition (r.paged offset size) field =
        c.searchCondition r field := by
      rw [searchCondition, single_paged (Ne.symm hoffset.1) (Ne.symm hsize.1), searchCondition]
    simp only [withSearch, hcondition, ih hoffset.2 hsize.2]

/-- Of a request for a page only the place of the page is read again. -/
theorem search_paged_eq (h : c.IsPageable r size) {s : Search} (hs : c.search r = .ok s) :
    c.search (r.paged offset size) = (do
      let first ← (r.paged offset size).natural c.resource "offset"
      let limit ← (r.paged offset size).natural c.resource "pagesize"
      .ok ⟨s.selection, { s.options with
        limit := limit.getD defaultPageSize, offset := first.getD 0 }⟩) := by
  obtain ⟨_, _, names, -, -, hselection, hsort, hnames, hoptions⟩ := search_eq_ok hs
  have hselection' : c.withSearch (r.paged offset size)
      (.ofFields (c.options.scope (r.paged offset size))) c.options.searchable =
        .ok s.selection := by
    rw [h.scope, withSearch_paged h.noOffset h.noSize, hselection]
  have hsort' : c.requestedSort (r.paged offset size) = .ok s.options.sort := by
    rw [requestedSort, single_paged (by decide) (by decide), ← hsort, requestedSort]
  have hnames' : c.populateNames (r.paged offset size) c.options.populate.many = .ok names := by
    rw [populateNames, Request.populate?, field?_paged (by decide) (by decide), ← hnames,
      populateNames, Request.populate?]
  rw [search, hselection', hsort', hnames', hoptions]
  rfl

/-- A request for a page asks for what the other request asks for, but for the place of the page,
    which must be a number that can be read. -/
theorem search_paged_iff (h : c.IsPageable r size) {s t : Search} (hs : c.search r = .ok s) :
    c.search (r.paged offset size) = .ok t ↔
      offset ≤ Request.maxNatural ∧ size ≤ Request.maxNatural ∧
        t = ⟨s.selection, { s.options with limit := size, offset }⟩ := by
  have hoffset {k : Option Nat} : (r.paged offset size).natural c.resource "offset" = .ok k ↔
      k = some offset ∧ offset ≤ Request.maxNatural := by
    apply Request.natural_eq_ok_iff
    rw [Request.paged, Fields.field?_put, if_neg (by decide), Fields.field?_put, if_pos rfl]
  have hsize {k : Option Nat} : (r.paged offset size).natural c.resource "pagesize" = .ok k ↔
      k = some size ∧ size ≤ Request.maxNatural := by
    apply Request.natural_eq_ok_iff
    rw [Request.paged, Fields.field?_put, if_pos rfl]
  simp only [search_paged_eq h hs, bind_eq_ok_iff, hoffset, hsize]
  constructor
  · rintro ⟨_, ⟨rfl, hfirst⟩, _, ⟨rfl, hlimit⟩, ht⟩
    exact ⟨hfirst, hlimit, (Except.ok.inj ht).symm⟩
  · rintro ⟨hfirst, hlimit, rfl⟩
    exact ⟨_, ⟨rfl, hfirst⟩, _, ⟨rfl, hlimit⟩, rfl⟩

/-! ## Pages -/

/-- A search that succeeds finds the rows that are counted. -/
theorem of_result_index (hooks : c.options.hooks = .none) {page : Page}
    (hpage : ((c.index r).run (Client.answer stamps) client).result = .ok page) :
    ∃ s names, c.search r = .ok s ∧ c.populateNames r c.options.populate.many = .ok names ∧
      s.options.populate = names ∧ s.options.distinct = c.options.distinct ∧
      client.db.begin.found c.entity s.selection c.options.distinct =
        .ok (c.counted client r) ∧
      (∀ name ∈ names, (c.entity.relation? name).isSome) ∧
      page.count = (c.counted client r).length := by
  rw [result_index hooks] at hpage
  obtain ⟨s, hs, hpage⟩ := bind_eq_ok_iff.1 hpage
  obtain ⟨_, _, names, -, -, -, -, hnames, hoptions⟩ := search_eq_ok hs
  obtain ⟨rows, hfound, hknown, rfl⟩ :=
    Transaction.findPage_eq_ok_iff.1 (mapError_eq_ok_iff.1 hpage)
  have hdistinct : s.options.distinct = c.options.distinct := by rw [hoptions]
  have hpopulate : s.options.populate = names := by rw [hoptions]
  rw [hdistinct] at hfound
  have hrows : rows = c.counted client r := by
    rw [Transaction.found_eq_ok hfound, selects_search hs]
    rfl
  subst hrows
  exact ⟨s, names, hs, hnames, hpopulate, hdistinct, hfound, hpopulate ▸ hknown, rfl⟩

/-- The page at every offset counts the same rows and holds the items that stand in its place. -/
def Cuts (c : Controller) (stamps : Stamps) (client : Client) (r : Request) (size count : Nat)
    (items : List Record) : Prop :=
  ∀ (offset : Nat) (page : Page),
    ((c.index (r.paged offset size)).run (Client.answer stamps) client).result = .ok page ↔
      offset ≤ Request.maxNatural ∧ page = ⟨count, (items.drop offset).take size⟩

theorem cuts_index (hooks : c.options.hooks = .none) (h : c.IsPageable r size)
    (hmax : size ≤ Request.maxNatural) {page : Page}
    (hpage : ((c.index r).run (Client.answer stamps) client).result = .ok page) :
    ∃ (names : List String) (sorted : List Record),
      c.populateNames r c.options.populate.many = .ok names ∧
      sorted.Perm (c.counted client r) ∧
      c.Cuts stamps client r size (c.counted client r).length
        (sorted.map (client.db.begin.populated c.entity names)) := by
  obtain ⟨s, names, hs, hnames, rfl, hdistinct, hfound, hknown, -⟩ := of_result_index hooks hpage
  refine ⟨s.options.populate, sortRows s.options.sort (c.counted client r), hnames,
    perm_sortRows s.options.sort (c.counted client r), fun offset page' => ?_⟩
  have hfind : client.db.begin.findPage c.entity s.selection
        { s.options with limit := size, offset } = .ok page' ↔
      page' = ⟨(c.counted client r).length,
        (((sortRows s.options.sort (c.counted client r)).map
          (client.db.begin.populated c.entity s.options.populate)).drop offset).take size⟩ := by
    rw [Transaction.findPage_eq_ok_iff]
    dsimp only
    rw [hdistinct, hfound, ← List.map_drop, ← List.map_take]
    constructor
    · rintro ⟨rows, hrows, -, hpage'⟩
      rw [Except.ok.injEq] at hrows
      rw [hpage', ← hrows]
    · intro hpage'
      exact ⟨_, rfl, hknown, hpage'⟩
  rw [result_index hooks, listed, bind_eq_ok_iff]
  constructor
  · rintro ⟨t, ht, hpage'⟩
    obtain ⟨hoffset, -, rfl⟩ := (search_paged_iff h hs).1 ht
    exact ⟨hoffset, hfind.1 (mapError_eq_ok_iff.1 hpage')⟩
  · rintro ⟨hoffset, hpage'⟩
    exact ⟨_, (search_paged_iff h hs).2 ⟨hoffset, hmax, rfl⟩,
      mapError_eq_ok_iff.2 (hfind.2 hpage')⟩

/-! ## Page after page -/

/-- Pages of one size, from an offset on, up to the first one that is empty. -/
inductive IsTiling (c : Controller) (stamps : Stamps) (client : Client) (r : Request)
    (size : Nat) : Nat → List Page → Prop
  | last {offset : Nat} {page : Page}
      (shown : ((c.index (r.paged offset size)).run (Client.answer stamps) client).result =
        .ok page)
      (empty : page.items = []) : IsTiling c stamps client r size offset [page]
  | next {offset : Nat} {page : Page} {pages : List Page}
      (shown : ((c.index (r.paged offset size)).run (Client.answer stamps) client).result =
        .ok page)
      (more : page.items ≠ []) (rest : IsTiling c stamps client r size (offset + size) pages) :
      IsTiling c stamps client r size offset (page :: pages)

variable {count : Nat} {items : List Record}

/-- The pages from an offset on hold the items from there on. -/
theorem Cuts.items_eq (h : c.Cuts stamps client r size count items) (hsize : 1 ≤ size)
    {pages : List Page} (hpages : c.IsTiling stamps client r size offset pages) :
    (∀ page ∈ pages, page.count = count) ∧ pages.flatMap (·.items) = items.drop offset := by
  induction hpages with
  | @last offset page shown empty =>
    obtain ⟨-, rfl⟩ := (h _ _).1 shown
    refine ⟨fun page hpage => by rw [List.mem_singleton.1 hpage], ?_⟩
    rcases List.take_eq_nil_iff.1 empty with hzero | hnil
    · exact absurd hzero (Nat.ne_of_gt hsize)
    · show (items.drop offset).take size ++ [] = items.drop offset
      rw [hnil, List.take_nil]
      rfl
  | @next offset page pages shown more rest ih =>
    obtain ⟨-, rfl⟩ := (h _ _).1 shown
    refine ⟨List.forall_mem_cons.2 ⟨rfl, ih.1⟩, ?_⟩
    rw [List.flatMap_cons, ih.2, ← List.drop_drop]
    exact List.take_append_drop size (items.drop offset)

/-- Page after page there comes an empty one, at an offset that can still be read: only the offset
    of an empty page is beyond the items. -/
theorem Cuts.exists_isTiling (h : c.Cuts stamps client r size count items) (hsize : 1 ≤ size)
    (hmax : size ≤ Request.maxNatural) (hitems : items.length < 2 ^ 63)
    (hoffset : offset = 0 ∨ size ≤ offset ∧ offset ≤ Request.maxNatural) :
    ∃ pages, c.IsTiling stamps client r size offset pages := by
  induction hleft : items.length - offset using Nat.strongRecOn generalizing offset with
  | ind left ih =>
    have hread : offset ≤ Request.maxNatural := by omega
    have hshown := (h offset _).2 ⟨hread, rfl⟩
    by_cases hempty : (items.drop offset).take size = []
    · exact ⟨_, .last hshown hempty⟩
    · have hbelow : offset < items.length := by
        rw [List.take_eq_nil_iff, not_or, List.drop_eq_nil_iff] at hempty
        omega
      have hnext : offset + size ≤ Request.maxNatural := by
        simp only [Request.maxNatural] at hmax ⊢
        omega
      obtain ⟨pages, hpages⟩ := ih (items.length - (offset + size)) (by omega)
        (.inr ⟨Nat.le_add_left size offset, hnext⟩) rfl
      exact ⟨_, .next hshown hempty hpages⟩

/-- The pages of a size hold rows once each, with relations, and all of them count the rows. -/
def Tiles (c : Controller) (stamps : Stamps) (client : Client) (r : Request) (size : Nat)
    (rows : List Record) : Prop :=
  (∃ pages, c.IsTiling stamps client r size 0 pages) ∧
    ∀ pages, c.IsTiling stamps client r size 0 pages →
      (∀ page ∈ pages, page.count = rows.length) ∧
        ∃ (names : List String) (sorted : List Record),
          c.populateNames r c.options.populate.many = .ok names ∧ sorted.Perm rows ∧
          pages.flatMap (·.items) = sorted.map (client.db.begin.populated c.entity names)

end Controller

/-- The number of instances that a request lists is exact, and its pages tile: the pages of any
    size, one after the other up to the first empty one, hold every counted row exactly once, and
    all of them tell the same number. The rows that are counted are those that the request is for,
    unless the resource wants distinct rows and a key holds a zero with a sign. The pages are those
    of requests that differ in offset and size alone, which must not be searched for themselves, nor
    say what the scope is; and there are fewer rows than a list in memory can have. -/
theorem index_tiles {c : Controller} (hooks : c.options.hooks = .none) (stamps : Stamps)
    {client : Client} (hkeyed : c.entity.IsKeyed (client.db.rows c.entity.name))
    (hrows : (client.db.rows c.entity.name).length < 2 ^ 63) {r : Request} {page : Page}
    (hpage : ((c.index r).run (Client.answer stamps) client).result = .ok page) :
    page.count = (c.counted client r).length ∧
      (c.options.distinct = false ∨ (∀ row ∈ c.sought client r, ∀ k ∈ c.entity.primaryKey, ∀ v,
          row.field? k = some v → v.unsigned = v) →
        c.counted client r = c.sought client r) ∧
      ∀ size, 1 ≤ size → size ≤ Request.maxNatural → c.IsPageable r size →
        c.Tiles stamps client r size (c.counted client r) := by
  obtain ⟨_, _, -, -, -, -, -, -, hcount⟩ := Controller.of_result_index hooks hpage
  refine ⟨hcount, Controller.counted_eq_sought hkeyed, fun size hsize hmax hpageable => ?_⟩
  obtain ⟨names, sorted, hnames, hperm, hcuts⟩ :=
    Controller.cuts_index hooks hpageable hmax hpage
  have hlength : (sorted.map (client.db.begin.populated c.entity names)).length < 2 ^ 63 := by
    rw [List.length_map, hperm.length_eq]
    exact Nat.lt_of_le_of_lt (Controller.length_counted_le c client r) hrows
  refine ⟨hcuts.exists_isTiling hsize hmax hlength (.inl rfl), fun pages hpages => ?_⟩
  obtain ⟨hcounts, hitems⟩ := hcuts.items_eq hsize hpages
  exact ⟨hcounts, names, sorted, hnames, hperm, hitems⟩

/-- Orders that are listed by a note that two of them share, two on a page. -/
theorem tiles_orders :
    let client := Orders.client [Orders.order "1" "a" "acme", Orders.order "2" "b" "globex",
      Orders.order "3" "b" "acme", Orders.order "4" "a" "acme"]
    let r := Request.empty.withQuery "order" "note asc"
    Orders.controller.sought client r = [Orders.order "1" "a" "acme", Orders.order "3" "b" "acme",
        Orders.order "4" "a" "acme"] ∧
      Orders.controller.Tiles Orders.stamps client r 2 (Orders.controller.sought client r) := by
  intro client r
  have hkeyed : Orders.controller.entity.IsKeyed
      (client.db.rows Orders.controller.entity.name) := by
    refine ⟨by decide +kernel, ?_⟩
    show [Orders.order "1" "a" "acme", Orders.order "2" "b" "globex", Orders.order "3" "b" "acme",
      Orders.order "4" "a" "acme"].Pairwise _
    decide +kernel
  obtain ⟨page, hpage⟩ := exists_of_isOk (show ((Orders.controller.index r).run
    (Client.answer Orders.stamps) client).result.isOk = true by decide +kernel)
  obtain ⟨-, hsought, htiles⟩ := index_tiles rfl Orders.stamps hkeyed (by decide +kernel) hpage
  refine ⟨by decide +kernel, ?_⟩
  rw [← hsought (.inl rfl)]
  exact htiles 2 (by decide) (by decide) ⟨by decide, by decide, fun _ => rfl⟩

/-! ## Where rows are not counted, or pages do not tile -/

namespace Controller

/-- What one could expect of a request: it counts every row that it is for, and the pages of every
    size hold these rows once each. -/
def IsExact (c : Controller) (stamps : Stamps) (client : Client) (r : Request) : Prop :=
  ∀ page, ((c.index r).run (Client.answer stamps) client).result = .ok page →
    page.count = (c.sought client r).length ∧
      ∀ size, 1 ≤ size → c.Tiles stamps client r size (c.sought client r)

variable {c : Controller} {stamps : Stamps} {client : Client} {r : Request} {size : Nat}

theorem not_isExact_of_count (page : Page)
    (hpage : ((c.index r).run (Client.answer stamps) client).result = .ok page)
    (hne : page.count ≠ (c.sought client r).length) : ¬c.IsExact stamps client r :=
  fun h => hne (h page hpage).1

theorem not_isExact_of_tiling
    (hok : ((c.index r).run (Client.answer stamps) client).result.isOk = true)
    (hsize : 1 ≤ size) {pages : List Page} (hpages : c.IsTiling stamps client r size 0 pages)
    {other : Page} (hother : other ∈ pages) (hne : other.count ≠ (c.sought client r).length) :
    ¬c.IsExact stamps client r := by
  obtain ⟨page, hpage⟩ := exists_of_isOk hok
  exact fun h => hne ((((h page hpage).2 size hsize).2 pages hpages).1 other hother)

theorem not_isExact_of_error (size : Nat)
    (hok : ((c.index r).run (Client.answer stamps) client).result.isOk = true)
    (hsize : 1 ≤ size)
    (hfails : ((c.index (r.paged 0 size)).run (Client.answer stamps) client).result.isOk =
      false) :
    ¬c.IsExact stamps client r := by
  obtain ⟨page, hpage⟩ := exists_of_isOk hok
  obtain ⟨e, herror⟩ := exists_error_of_not_isOk hfails
  intro h
  obtain ⟨⟨pages, hpages⟩, -⟩ := (h page hpage).2 size hsize
  cases hpages with
  | last shown empty => rw [herror] at shown; cases shown
  | next shown more rest => rw [herror] at shown; cases shown

end Controller

namespace Readings

/-- Readings of an instrument, at offsets of a scale. -/
def entity : Entity :=
  ⟨"reading", "public", "reading", ["id"],
    [⟨"id", some .text, false, false, "float8"⟩, ⟨"offset", none, true, false, "int4"⟩], [], []⟩

/-- The resource of readings under options. -/
def controller (o : Options) : Controller :=
  ⟨⟨[entity], []⟩, entity, "reading", ⟨"/:id", "/:id", [⟨"id", "id", defaultParamPattern, none⟩]⟩,
    [⟨"id", .desc⟩], o⟩

/-- A reading. -/
def reading (id offset : Nat) : Record := [("id", .nat id), ("offset", .nat offset)]

/-- A reading whose key is a zero. -/
def zero (negative : Bool) : Record := [("id", .num (.real ⟨.zero negative, by decide +revert⟩))]

/-- A client of readings. -/
def client (rows : List Record) : Client :=
  .start ⟨⟨[entity], []⟩, Tables.empty.set "reading" rows⟩

/-- Two readings with zeros of both signs as keys. -/
def zeros : Client := client [zero false, zero true]

/-- Two readings at one offset and a third one at another. -/
def scale : Client := client [reading 1 0, reading 2 0, reading 3 1]

/-- A scope that is taken from the offset of a request. -/
def offsetScope (r : Request) : Record :=
  match r.query.field? "offset" with
  | some (.single offset) => [("offset", .str offset)]
  | _ => []

theorem isKeyed_zeros : entity.IsKeyed (zeros.db.rows "reading") := by
  refine ⟨by decide +kernel, ?_⟩
  show [zero false, zero true].Pairwise _
  decide +kernel

theorem isKeyed_scale : entity.IsKeyed (scale.db.rows "reading") := by
  refine ⟨by decide +kernel, ?_⟩
  show [reading 1 0, reading 2 0, reading 3 1].Pairwise _
  decide +kernel

/-- The first of two pages, and the second one, which counts other rows and is empty. -/
theorem isTiling_scale {o : Options}
    (hfirst : (((controller o).index (Request.empty.paged 0 1)).run
      (Client.answer Orders.stamps) scale).result = .ok ⟨2, [reading 2 0]⟩)
    (hsecond : (((controller o).index (Request.empty.paged 1 1)).run
      (Client.answer Orders.stamps) scale).result = .ok ⟨1, []⟩) :
    (controller o).IsTiling Orders.stamps scale (Request.empty.paged 0 1) 1 0
      [⟨2, [reading 2 0]⟩, ⟨1, []⟩] :=
  .next hfirst (by decide) (.last hsecond rfl)

end Readings

open Readings in
/-- Rows are not always counted, and pages do not always tile: distinct readings are those that
    differ in more than the sign of a zero; the offset of a page is a condition on the rows where
    it can be searched for, and where the scope is taken from it; and a size that is too large to be
    read fails the request. -/
theorem not_index_tiles :
    (entity.IsKeyed (zeros.db.rows "reading") ∧
        ¬(controller { Options.default with distinct := true }).IsExact Orders.stamps zeros
          .empty) ∧
      entity.IsKeyed (scale.db.rows "reading") ∧
      ¬(controller { Options.default with searchable := ["offset"] }).IsExact Orders.stamps scale
          (Request.empty.paged 0 1) ∧
      ¬(controller { Options.default with scope := offsetScope }).IsExact Orders.stamps scale
          (Request.empty.paged 0 1) ∧
      ¬(controller .default).IsExact Orders.stamps scale .empty := by
  refine ⟨⟨isKeyed_zeros, ?_⟩, isKeyed_scale, ?_, ?_, ?_⟩
  · exact Controller.not_isExact_of_count ⟨1, [zero false]⟩ (by decide +kernel)
      (by decide +kernel)
  · exact Controller.not_isExact_of_tiling (by decide +kernel) (Nat.le_refl 1)
      (isTiling_scale (by decide +kernel) (by decide +kernel))
      (List.mem_cons_of_mem _ List.mem_cons_self) (by decide +kernel)
  · exact Controller.not_isExact_of_tiling (by decide +kernel) (Nat.le_refl 1)
      (isTiling_scale (by decide +kernel) (by decide +kernel))
      (List.mem_cons_of_mem _ List.mem_cons_self) (by decide +kernel)
  · exact Controller.not_isExact_of_error (Request.maxNatural + 1) (by decide +kernel)
      (by decide) (by decide +kernel)

end Depot
