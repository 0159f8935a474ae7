import Depot.Proofs.Controller.Success
import Depot.Proofs.Controller.Written
import Depot.Proofs.Store.Reachable

/-!
# Finding a row by its key

A row is identified by the texts of its key values, but it is looked up by comparing these values
with texts, as typed columns would be: texts that read as the same number are equal, and so are a
truth value and a text that reads as it. So a request that names the key of a row finds the first
row that answers to it, which is the row itself only if this one answers to its own key and no
earlier row does.

* `Entity.answersTo`: rows that are found by the key of a row.
* `Entity.IsFirst`: a row that is found by its own key.
* `Controller.BindsKey`, `Controller.Addresses`: requests that name the key of a row.
* `Controller.TakesOut`, `Controller.WritesOver`: deletions and updates that act on a row.

Results:
* `isFirst_of_text`: rows with keys of texts that read as no numbers are found.
* `selects_keySelection`: what a request that names a key selects.
* `result_getOne_iff`, `takesOut_iff`, `writesOver_of_isFirst`: whether it acts on the row.
* `lookup_iff_isFirst`: all this in reachable states.
-/

namespace Depot

/-! ## Rows that answer to a key -/

namespace Entity

/-- Whether a row is found by the key of `row`: its key values are equal to the texts of the
    others. -/
def answersTo (e : Entity) (row q : Record) : Bool :=
  e.primaryKey.all fun k => looseEq (q.get k) (.str (row.get k).plainText)

/-- A row answers to its own key, and no row before it does. -/
def IsFirst (e : Entity) (rows : List Record) (row : Record) : Prop :=
  e.answersTo row row = true ∧
    ∃ before after, rows = before ++ row :: after ∧ ∀ q ∈ before, e.answersTo row q = false

theorem find?_answersTo_iff {e : Entity} {rows : List Record} {row : Record} :
    rows.find? (e.answersTo row) = some row ↔ e.IsFirst rows row := by
  rw [List.find?_eq_some_iff_append, IsFirst]
  simp only [Bool.not_eq_true']

end Entity

/-- A text that reads as no number is equal to what has this text, truth values apart. -/
theorem looseEq_text {v : Json} {text : String} (hnull : v.isNull = false)
    (hbool : ∀ b, v ≠ .bool b) (htext : asNumber? (.str text) = none) :
    looseEq v (.str text) = (v.plainText == text) := by
  have hplain : plainEq v (.str text) = (v.plainText == text) := by
    unfold plainEq
    rw [htext]
    cases asNumber? v <;> rfl
  cases v with
  | null => cases hnull
  | bool b => exact absurd rfl (hbool b)
  | _ => exact hplain

/-- A part of a complete key is the text of its value. -/
theorem keyPart?_of_isSome_key? {e : Entity} {row : Record} (h : (e.key? row).isSome = true)
    {k : String} (hk : k ∈ e.primaryKey) :
    (row.field? k).bind keyPart? = some (row.get k).plainText ∧ (row.get k).isNull = false := by
  have hpart := ((Entity.key?_isSome_iff e row).1 h).2 k hk
  rw [bind_keyPart?] at hpart ⊢
  cases hv : row.get k with
  | null => rw [hv] at hpart; cases hpart
  | _ => exact ⟨rfl, rfl⟩

/-- A row whose key consists of texts that read as no numbers is found by it, if no key in the
    table holds a truth value. -/
theorem isFirst_of_text {e : Entity} {rows : List Record} {row : Record} (hkeyed : e.IsKeyed rows)
    (hrow : row ∈ rows)
    (htext : ∀ k ∈ e.primaryKey, asNumber? (.str (row.get k).plainText) = none)
    (hbool : ∀ q ∈ rows, ∀ k ∈ e.primaryKey, ∀ b, q.get k ≠ .bool b) : e.IsFirst rows row := by
  have hequal {q : Record} (hq : q ∈ rows) {k : String} (hk : k ∈ e.primaryKey) :
      looseEq (q.get k) (.str (row.get k).plainText) =
        ((q.get k).plainText == (row.get k).plainText) :=
    looseEq_text (keyPart?_of_isSome_key? (hkeyed.complete q hq) hk).2 (hbool q hq k hk)
      (htext k hk)
  obtain ⟨before, after, hsplit⟩ := List.append_of_mem hrow
  refine ⟨List.all_eq_true.2 fun k hk => ?_, before, after, hsplit, fun q hq => ?_⟩
  · rw [hequal hrow hk]
    exact beq_self_eq_true _
  · have hmem : q ∈ rows := hsplit ▸ List.mem_append_left _ hq
    refine Bool.eq_false_iff.2 fun hanswers => ?_
    have hkey : e.key? q = e.key? row := by
      apply key?_congr_text
      intro k hk
      have htexts := List.all_eq_true.1 hanswers k hk
      rw [hequal hmem hk, beq_iff_eq] at htexts
      rw [(keyPart?_of_isSome_key? (hkeyed.complete q hmem) hk).1,
        (keyPart?_of_isSome_key? (hkeyed.complete row hrow) hk).1, htexts]
    rw [hsplit] at hkeyed
    obtain ⟨-, -, hdistinct⟩ := List.pairwise_append.1 hkeyed.distinct
    exact hdistinct q hq row List.mem_cons_self hkey

namespace KeyPath

/-- What entries take from path parameters that are the texts of a row's values. -/
theorem fieldsOf_eq {resource : String} {params : List (String × String)} {row sofar : Record}
    {entries : List KeyPathEntry} (hplain : ∀ entry ∈ entries, entry.matcher = none)
    (hparams : ∀ entry ∈ entries,
      param? params entry.param = some (row.get entry.column).plainText) :
    fieldsOf resource params false sofar entries =
      .ok (sofar.overlay (entries.map fun entry =>
        (entry.column, .str (row.get entry.column).plainText))) := by
  induction entries generalizing sofar with
  | nil => rfl
  | cons entry rest ih =>
    rw [fieldsOf, hparams entry List.mem_cons_self, hplain entry List.mem_cons_self]
    exact ih (fun x hx => hplain x (List.mem_cons_of_mem _ hx))
      fun x hx => hparams x (List.mem_cons_of_mem _ hx)

end KeyPath

namespace Controller

variable {c : Controller} {stamps : Stamps} {m : Model} {client client' : Client} {r : Request}
  {row : Record}

/-- The key path binds the columns of the primary key and no others, as they are: it has no
    patterns, an underscore is nothing special, and there is no scope. -/
structure BindsKey (c : Controller) : Prop where
  columns : ∀ k, k ∈ c.entity.primaryKey ↔ ∃ entry ∈ c.keyPath.entries, entry.column = k
  plain : ∀ entry ∈ c.keyPath.entries, entry.matcher = none
  literal : c.options.underscoreAsEmpty = false
  unscoped : ∀ r, c.options.scope r = []

/-- The path parameters of a request are the parts of a row's key. -/
def Addresses (c : Controller) (r : Request) (row : Record) : Prop :=
  ∀ entry ∈ c.keyPath.entries,
    KeyPath.param? r.params entry.param = (row.field? entry.column).bind keyPart?

/-- A request that names the key of a row selects the rows that answer to it. -/
theorem selects_keySelection (hbinds : c.BindsKey) (hkey : (c.entity.key? row).isSome = true)
    (haddress : c.Addresses r row) :
    ∃ s, c.keySelection r = .ok s ∧ s.selects = c.entity.answersTo row := by
  let text (k : String) : Json := .str (row.get k).plainText
  let columns : List String := c.keyPath.entries.map (·.column)
  have hparams : ∀ entry ∈ c.keyPath.entries,
      KeyPath.param? r.params entry.param = some (row.get entry.column).plainText := by
    intro entry hentry
    rw [haddress entry hentry]
    exact (keyPart?_of_isSome_key? hkey ((hbinds.columns _).2 ⟨entry, hentry, rfl⟩)).1
  have hfields : c.keyPath.fields c.resource r.params c.options.underscoreAsEmpty =
      .ok (Fields.overlay [] (columns.map fun k => (k, text k))) := by
    rw [hbinds.literal, List.map_map]
    exact KeyPath.fieldsOf_eq hbinds.plain hparams
  have hcolumns (k : String) : k ∈ columns ↔ k ∈ c.entity.primaryKey :=
    List.mem_map.trans (hbinds.columns k).symm
  refine ⟨⟨Fields.overlay [] (columns.map fun k => (k, text k)), []⟩, ?_, ?_⟩
  · rw [keySelection, hfields, hbinds.unscoped]
    rfl
  · -- each key column is among the fields, once, with the text of its value
    funext q
    rw [Selection.selects, List.all_nil, Bool.and_true, Entity.answersTo, Bool.eq_iff_iff,
      List.all_eq_true, List.all_eq_true]
    constructor
    · intro h k hk
      exact h (k, text k) (Fields.mem_overlay_map_iff.2 ⟨(hcolumns k).2 hk, rfl⟩)
    · rintro h ⟨k, v⟩ hmem
      obtain ⟨hk, rfl⟩ := Fields.mem_overlay_map_iff.1 hmem
      exact h k ((hcolumns k).1 hk)

/-- A request that names the key of a row finds it exactly if it is the first that answers to
    it. -/
theorem find?_keySelection_iff (rows : List Record) (hbinds : c.BindsKey)
    (hkey : (c.entity.key? row).isSome = true) (haddress : c.Addresses r row) :
    ∃ s, c.keySelection r = .ok s ∧
      (rows.find? s.selects = some row ↔ c.entity.IsFirst rows row) := by
  obtain ⟨s, hs, hselects⟩ := selects_keySelection hbinds hkey haddress
  refine ⟨s, hs, ?_⟩
  rw [hselects]
  exact Entity.find?_answersTo_iff

/-! ## Relations to populate -/

/-- Relations among which none is missing are there. -/
theorem isSome_relation?_of_find? {e : Entity} {names : List String}
    (h : names.find? (e.relation? · |>.isNone) = none) :
    ∀ name ∈ names, (e.relation? name).isSome = true := by
  intro name hname
  have hsome := List.find?_eq_none.1 h name hname
  rwa [Option.isNone_iff_eq_none, ← Option.not_isSome_iff_eq_none, not_not] at hsome

/-- The relations that a request populates are there, if the usual ones are. -/
theorem isSome_relation?_of_populateNames {usual names : List String}
    (husual : ∀ name ∈ usual, (c.entity.relation? name).isSome = true)
    (h : c.populateNames r usual = .ok names) :
    ∀ name ∈ names, (c.entity.relation? name).isSome = true := by
  rw [populateNames] at h
  cases hasked : r.populate? with
  | none =>
    rw [hasked, Except.ok.injEq] at h
    exact h ▸ husual
  | some asked =>
    rw [hasked] at h
    dsimp only at h
    cases hbad : asked.find? (c.entity.relation? · |>.isNone) with
    | some bad => rw [hbad] at h; cases h
    | none =>
      rw [hbad, Except.ok.injEq] at h
      exact h ▸ isSome_relation?_of_find? hbad

/-- The relations that a request for one instance populates are there. -/
theorem isSome_relation?_of_build {resource entity : String} {o : Options} {names : List String}
    (hc : build m resource entity o = .ok c)
    (hnames : c.populateNames r c.options.populate.one = .ok names) :
    ∀ name ∈ names, (c.entity.relation? name).isSome = true := by
  obtain ⟨-, -, rfl, -, -, hpopulate, -⟩ := of_build hc
  refine isSome_relation?_of_populateNames ?_ hnames
  intro name hname
  exact isSome_relation?_of_find? hpopulate name (List.mem_append_left _ hname)

/-! ## Reading -/

/-- A request that names the key of a row shows it exactly if it is the first that answers to
    it. -/
theorem result_getOne_iff (hc : c.IsPlain) (hbinds : c.BindsKey)
    (hkeyed : c.entity.IsKeyed (client.db.rows c.entity.name))
    (hrow : row ∈ client.db.rows c.entity.name) (haddress : c.Addresses r row)
    {names : List String} (hnames : c.populateNames r c.options.populate.one = .ok names)
    (hknown : ∀ name ∈ names, (c.entity.relation? name).isSome = true) :
    ((c.getOne r).run (Client.answer stamps) client).result =
        .ok (client.db.begin.populated c.entity names row) ↔
      c.entity.IsFirst (client.db.rows c.entity.name) row := by
  obtain ⟨s, hs, hiff⟩ := find?_keySelection_iff (client.db.rows c.entity.name) hbinds
    (hkeyed.complete row hrow) haddress
  rw [← hiff, result_getOne hc.hooks]
  constructor
  · intro h
    obtain ⟨names', s', p, hnames', hs', hp, hpopulate⟩ := of_shown h
    rw [hnames, Except.ok.injEq] at hnames'
    rw [hs, Except.ok.injEq] at hs'
    subst hnames' hs'
    have hpopulated := (Transaction.populate_eq_ok_iff.1 hpopulate).2
    have hkey (q : Record) :
        c.entity.key? (client.db.begin.populated c.entity names q) = c.entity.key? q :=
      hc.key?_of_isPopulated (Transaction.isPopulated_populated hc.isUnshadowed _ q names)
    have hsame : c.entity.key? row = c.entity.key? p := by
      rw [← hkey row, ← hkey p, List.singleton_inj.1 hpopulated]
    rw [hkeyed.eq_of_key hrow (List.mem_of_find?_eq_some hp) hsame]
    exact hp
  · intro hfound
    exact shown_of_find? hnames hknown hs hfound

/-! ## Deleting -/

/-- A deletion returns, and takes out a row and nothing else. -/
def TakesOut (c : Controller) (stamps : Stamps) (client : Client) (r : Request) (row : Record) :
    Prop :=
  ∃ client' before after, (c.deleteOne r).Returns (Client.answer stamps) client () client' ∧
    client.db.rows c.entity.name = before ++ row :: after ∧
    client'.db.tables = client.db.tables.set c.entity.name (before ++ after)

/-- Without a row, keyed rows hold no row of its key. -/
theorem key?_ne_of_left {e : Entity} {rows before after : List Record} {key : RowKey} {q : Record}
    (hkeyed : e.IsKeyed rows) (hsplit : rows = before ++ q :: after) (hq : e.key? q = some key) :
    ∀ p ∈ before ++ after, e.key? p ≠ some key := by
  rw [hsplit] at hkeyed
  obtain ⟨hbefore, hafter⟩ := hkeyed.key?_ne_of_split hq
  intro p hp
  rcases List.mem_append.1 hp with hp | hp
  · exact hbefore p hp
  · exact hafter p hp

/-- A deletion that takes a row out has found it. -/
theorem find?_of_takesOut (hc : c.IsPlain) (hmodel : client.db.model = c.model)
    (hkeyed : c.entity.IsKeyed (client.db.rows c.entity.name))
    (h : c.TakesOut stamps client r row) :
    ∃ s, c.keySelection r = .ok s ∧
      (client.db.rows c.entity.name).find? s.selects = some row := by
  obtain ⟨client', before, after, hreturns, hsplit, htables⟩ := h
  obtain ⟨made⟩ := of_returns_deleteOne hc.hooks hreturns
  obtain ⟨before', q, after', hsplit', hremoved, hrows⟩ := rows_deletion hc hmodel made
  have hsame : before' ++ after' = before ++ after := by
    rw [← hrows, Database.rows, htables, Tables.rows_set, if_pos rfl]
  obtain ⟨s, p, key, hs, hfound, hkey, hq⟩ := removed?_eq_some hremoved
  obtain ⟨hmem, hqkey⟩ := findRow?_eq_some hq
  have hp : p = q :=
    hkeyed.eq_of_key (List.mem_of_find?_eq_some hfound) hmem (hkey.trans hqkey.symm)
  -- the rows that are left hold no row of the key that was taken out
  have hleft := key?_ne_of_left hkeyed hsplit' hqkey
  rw [hsame] at hleft
  have hrow : q = row := by
    rw [hsplit] at hmem
    rcases List.mem_append.1 hmem with hmem | hmem
    · exact absurd hqkey (hleft q (List.mem_append_left _ hmem))
    · rcases List.mem_cons.1 hmem with hmem | hmem
      · exact hmem
      · exact absurd hqkey (hleft q (List.mem_append_right _ hmem))
  exact ⟨s, hs, hrow ▸ hp ▸ hfound⟩

/-- A request that names the key of a row takes it out exactly if it is the first that answers to
    it. -/
theorem takesOut_iff (hc : c.IsPlain) (hbinds : c.BindsKey) (hmodel : client.db.model = c.model)
    (hkeyed : c.entity.IsKeyed (client.db.rows c.entity.name))
    (hrow : row ∈ client.db.rows c.entity.name) (haddress : c.Addresses r row)
    {names : List String} (hnames : c.populateNames r c.options.populate.one = .ok names)
    (hknown : ∀ name ∈ names, (c.entity.relation? name).isSome = true) :
    c.TakesOut stamps client r row ↔ c.entity.IsFirst (client.db.rows c.entity.name) row := by
  obtain ⟨s, hs, hiff⟩ := find?_keySelection_iff (client.db.rows c.entity.name) hbinds
    (hkeyed.complete row hrow) haddress
  rw [← hiff]
  constructor
  · intro h
    obtain ⟨s', hs', hfound⟩ := find?_of_takesOut hc hmodel hkeyed h
    rw [hs, Except.ok.injEq] at hs'
    exact hs' ▸ hfound
  · intro hfound
    obtain ⟨key, hkey⟩ := Option.isSome_iff_exists.1 (hkeyed.complete row hrow)
    obtain ⟨before, after, hsplit⟩ := List.append_of_mem hrow
    obtain ⟨client', hreturns, htables⟩ := returns_deleteOne stamps hc hmodel hkeyed
      hsplit hkey hs hfound hnames hknown
    exact ⟨client', before, after, hreturns, hsplit, htables⟩

/-! ## Updating -/

/-- What an update makes of a row. -/
def updatedRow (c : Controller) (stamps : Stamps) (client : Client) (row body : Record) : Record :=
  Transaction.touch c.entity (stamps client.taken) row (c.entity.columnFields (row.overlay body))

/-- An update whose body leaves the key alone first writes over a row, if it returns, and leaves
    it under its key. It does return, and writes nothing else, if the body replaces no collection
    and passes the rules. -/
def WritesOver (c : Controller) (stamps : Stamps) (client : Client) (r : Request) (row : Record) :
    Prop :=
  ∀ body, c.bodyObject r = .ok body → (∀ k ∈ c.entity.primaryKey, body.field? k = none) →
    ∃ key, c.entity.key? row = some key ∧
      c.entity.key? (c.updatedRow stamps client row body) = some key ∧
      (∀ out client', (c.updateOne r).Returns (Client.answer stamps) client out client' →
        ∃ nested, c.written stamps client (.update r) =
          .update c.entity.name key (c.updatedRow stamps client row body) :: nested) ∧
      (c.replacedCollections body = [] →
        validatePartial c.entity.rules (c.entity.columnFields body) = .ok () →
        ∃ out client' before after,
          (c.updateOne r).Returns (Client.answer stamps) client out client' ∧
          client.db.rows c.entity.name = before ++ row :: after ∧
          client'.db.tables = client.db.tables.set c.entity.name
            (before ++ c.updatedRow stamps client row body :: after))

/-- The writes of an update that finds a row begin with the write of this row. -/
theorem written_updateOne (hc : c.IsPlain)
    (hkeyed : c.entity.IsKeyed (client.db.rows c.entity.name)) (hsorted : row.Sorted)
    {key : RowKey} (hkey : c.entity.key? row = some key) {s : Selection}
    (hs : c.keySelection r = .ok s)
    (hfound : (client.db.rows c.entity.name).find? s.selects = some row) {body : Record}
    (hbody : c.bodyObject r = .ok body) (hunkeyed : ∀ k ∈ c.entity.primaryKey, body.field? k = none)
    {out : Record} (h : (c.updateOne r).Returns (Client.answer stamps) client out client') :
    ∃ nested, c.written stamps client (.update r) =
      .update c.entity.name key (c.updatedRow stamps client row body) :: nested := by
  have hsucceeds : c.succeeds stamps client (.update r) = true := by
    rw [succeeds, h.1]
    rfl
  obtain ⟨out', made, -, hwritten⟩ := update_of_succeeds hc.hooks hsucceeds
  obtain rfl : s = made.selection := Except.ok.inj (hs.symm.trans made.selected)
  obtain rfl : row = made.row := Option.some.inj (hfound.symm.trans made.found)
  obtain rfl : body = made.body := Except.ok.inj (hbody.symm.trans made.hasBody)
  obtain ⟨key', nested, hkey', hlog, -⟩ := log_update made
  obtain ⟨key'', current, hkey'', hcurrent, hstored, -⟩ := Transaction.update_eq_ok made.persisted
  have hcolumns := columnFields_update hc made hsorted
  rw [hcolumns, key?_columnFields_overlay hc hunkeyed] at hkey' hkey''
  obtain rfl : key = key' := Option.some.inj (hkey.symm.trans hkey')
  obtain rfl : key = key'' := Option.some.inj (hkey.symm.trans hkey'')
  have hfind : findRow? c.entity key (client.db.rows c.entity.name) = some made.row :=
    hkeyed.findRow?_eq (List.mem_of_find?_eq_some made.found) hkey
  obtain rfl : made.row = current := Option.some.inj (hfind.symm.trans hcurrent)
  rw [hcolumns] at hstored
  refine ⟨nested, ?_⟩
  rw [hwritten, hlog, hstored, updatedRow]

theorem writesOver_of_isFirst (hc : c.IsPlain) (hbinds : c.BindsKey)
    (hmodel : client.db.model = c.model) (htime : updatedAt ∉ c.entity.primaryKey)
    (hkeyed : c.entity.IsKeyed (client.db.rows c.entity.name))
    (hrow : row ∈ client.db.rows c.entity.name) (hsorted : row.Sorted)
    (haddress : c.Addresses r row)
    {names : List String} (hnames : c.populateNames r c.options.populate.one = .ok names)
    (hknown : ∀ name ∈ names, (c.entity.relation? name).isSome = true)
    (hfirst : c.entity.IsFirst (client.db.rows c.entity.name) row) :
    c.WritesOver stamps client r row := by
  obtain ⟨s, hs, hiff⟩ := find?_keySelection_iff (client.db.rows c.entity.name) hbinds
    (hkeyed.complete row hrow) haddress
  have hfound := hiff.2 hfirst
  obtain ⟨key, hkey⟩ := Option.isSome_iff_exists.1 (hkeyed.complete row hrow)
  intro body hbody hunkeyed
  have hwritten : (c.entity.columnFields (row.overlay body)).Sorted :=
    Fields.sorted_restrict (Fields.sorted_overlay hsorted _) _
  refine ⟨key, hkey, Transaction.key?_touch htime hwritten
    ((key?_columnFields_overlay hc hunkeyed).trans hkey), ?_, ?_⟩
  · intro out client' hreturns
    exact written_updateOne hc hkeyed hsorted hkey hs hfound hbody hunkeyed hreturns
  · intro hflat hvalid
    obtain ⟨before, after, hsplit⟩ := List.append_of_mem hrow
    obtain ⟨out, client', hreturns, htables⟩ := returns_updateOne stamps hc hmodel
      hkeyed hsplit hsorted hkey hs hfound hnames hknown hbody hunkeyed hflat hvalid
    exact ⟨out, client', before, after, hreturns, hsplit, htables⟩

end Controller

/-- Requests find a row by its key if and only if the row answers to its own key and no earlier row
    of its entity does. Take a resource without hooks and scope whose key path binds the columns of
    the primary key, without patterns and without a meaning for underscores, a reachable database,
    and a request whose path parameters are the parts of the key of a committed row. Then the
    request for one instance returns this row, populated, exactly under this condition, and so the
    deletion returns and takes this row out; and under this condition an update whose body leaves
    the key alone writes this row over. -/
theorem lookup_iff_isFirst {config : ModelConfig} {m : Model} {resource entity : String}
    {o : Options} {c : Controller} (hm : config.resolve = .ok m)
    (hc : Controller.build m resource entity o = .ok c) (hooks : o.hooks = .none)
    (hscope : ∀ r, o.scope r = []) (hliteral : o.underscoreAsEmpty = false)
    (hplain : ∀ entry ∈ c.keyPath.entries, entry.matcher = none)
    (hcolumns : ∀ k, k ∈ c.entity.primaryKey ↔ ∃ entry ∈ c.keyPath.entries, entry.column = k)
    (htime : ∀ e ∈ m.entities, updatedAt ∉ e.primaryKey) (stamps : Stamps) {client : Client}
    (hreach : client.db.IsReachable m) {row : Record}
    (hrow : row ∈ client.db.rows c.entity.name) {r : Request} (haddress : c.Addresses r row)
    {names : List String} (hnames : c.populateNames r o.populate.one = .ok names) :
    let isFirst := c.entity.IsFirst (client.db.rows c.entity.name) row
    (((c.getOne r).run (Client.answer stamps) client).result =
        .ok (client.db.begin.populated c.entity names row) ↔ isFirst) ∧
      (c.TakesOut stamps client r row ↔ isFirst) ∧
      (isFirst → c.WritesOver stamps client r row) := by
  have hbuilt := Controller.isPlain_of_build hm hc hooks
  obtain ⟨rfl, -, rfl⟩ := Controller.build_eq_ok hc
  have hknown := Controller.isSome_relation?_of_build hc hnames
  have hbinds : c.BindsKey := ⟨hcolumns, hplain, hliteral, hscope⟩
  obtain ⟨hmodel, hsound⟩ := isSound_of_isReachable htime hreach
  obtain ⟨hkeyed, hsorted⟩ := hsound c.entity.name c.entity hbuilt.known
  exact ⟨Controller.result_getOne_iff hbuilt hbinds hkeyed hrow haddress hnames hknown,
    Controller.takesOut_iff hbuilt hbinds hmodel hkeyed hrow haddress hnames hknown,
    Controller.writesOver_of_isFirst hbuilt hbinds hmodel (htime _ hbuilt.mem) hkeyed hrow
      (hsorted row hrow) haddress hnames hknown⟩

/-! ## Labels that read as numbers -/

namespace Labels

/-- Labels are known by a text. -/
def entity : Entity :=
  ⟨"label", "public", "label", ["id"],
    [⟨"id", some .text, false, false, "text"⟩, ⟨"note", none, true, false, "text"⟩], [], []⟩

/-- The model file of labels. -/
def config : ModelConfig :=
  ⟨[⟨"label", none, "label", .single "id",
    [⟨"id", "text", false, false⟩, ⟨"note", "text", true, false⟩], [], []⟩], []⟩

/-- The model of labels. -/
def model : Model := ⟨[entity], []⟩

/-- The resource of labels. -/
def controller : Controller :=
  ⟨model, entity, "label", ⟨"/:id", "/:id", [⟨"id", "id", defaultParamPattern, none⟩]⟩,
    [⟨"id", .desc⟩], Options.default⟩

/-- A label. -/
def label (id : String) : Record := [("id", .str id)]

/-- The stamps are all the same. -/
def stamps : Stamps := fun _ => ⟨"now", "fresh"⟩

/-- A label, and another one that reads as the same number. -/
def steps : List Session.Step := [.seed "label" [label "7", label "7.0"]]

/-- A client of the labels. -/
def client : Client := .start ((Session.start (.create model)).runAll stamps steps).db

/-- A request that names a label, to note something on it if it is an update. -/
def request (id : String) : Request :=
  ⟨[("id", id)], [], [], some (.obj [("note", .str "seen")])⟩

theorem resolve_config : config.resolve = .ok model := by rfl

theorem build_controller : Controller.build model "label" "label" Options.default =
    .ok controller := by rfl

theorem isReachable_client : client.db.IsReachable model := by
  refine ⟨stamps, steps, ?_, rfl⟩
  intro step hstep
  obtain rfl := List.mem_singleton.1 hstep
  intro row hrow
  simp only [List.mem_cons, List.not_mem_nil, or_false] at hrow
  rcases hrow with rfl | rfl
  · exact List.pairwise_singleton _ _
  · exact List.pairwise_singleton _ _

theorem matcher_none : ∀ entry ∈ controller.keyPath.entries, entry.matcher = none := by
  intro entry hentry
  rw [List.mem_singleton.1 hentry]

theorem columns_iff (k : String) : k ∈ controller.entity.primaryKey ↔
    ∃ entry ∈ controller.keyPath.entries, entry.column = k := by
  simp [controller, entity, eq_comm]

theorem updatedAt_not_mem_primaryKey : ∀ e ∈ model.entities, updatedAt ∉ e.primaryKey := by decide

theorem addresses_label (id : String) : controller.Addresses (request id) (label id) := by
  intro entry hentry
  rw [List.mem_singleton.1 hentry]
  rfl

theorem isFirst_label :
    controller.entity.IsFirst (client.db.rows controller.entity.name) (label "7") := by
  refine ⟨by decide +kernel, [], [label "7.0"], by decide +kernel, ?_⟩
  intro q hq
  cases hq

end Labels

/-- The first label is found by its key: it is shown, taken out by a deletion, and written over by
    an update. -/
theorem lookup_label :
    ((Labels.controller.getOne (Labels.request "7")).run (Client.answer Labels.stamps)
        Labels.client).result = .ok (Labels.label "7") ∧
      Labels.controller.TakesOut Labels.stamps Labels.client (Labels.request "7")
        (Labels.label "7") ∧
      Labels.controller.WritesOver Labels.stamps Labels.client (Labels.request "7")
        (Labels.label "7") ∧
      ((Labels.controller.updateOne (Labels.request "7")).run (Client.answer Labels.stamps)
        Labels.client).state.db.rows "label" =
          [[("id", .str "7"), ("note", .str "seen")], Labels.label "7.0"] := by
  obtain ⟨hshown, htaken, hwritten⟩ := lookup_iff_isFirst Labels.resolve_config
    Labels.build_controller rfl (fun _ => rfl) rfl Labels.matcher_none Labels.columns_iff
    Labels.updatedAt_not_mem_primaryKey Labels.stamps Labels.isReachable_client
    (by decide +kernel) (Labels.addresses_label "7") rfl
  exact ⟨hshown.2 Labels.isFirst_label, htaken.2 Labels.isFirst_label,
    hwritten Labels.isFirst_label, by decide +kernel⟩

/-- Not every row is found by its key: a request for the second label shows the first one, which
    reads as the same number. -/
theorem not_lookup_finds :
    ¬∀ (config : ModelConfig) (m : Model) (resource entity : String) (o : Options)
      (c : Controller) (stamps : Stamps) (client : Client) (row : Record) (r : Request)
      (names : List String),
      config.resolve = .ok m → Controller.build m resource entity o = .ok c → o.hooks = .none →
      (∀ r, o.scope r = []) → o.underscoreAsEmpty = false →
      (∀ entry ∈ c.keyPath.entries, entry.matcher = none) →
      (∀ k, k ∈ c.entity.primaryKey ↔ ∃ entry ∈ c.keyPath.entries, entry.column = k) →
      client.db.IsReachable m → row ∈ client.db.rows c.entity.name → c.Addresses r row →
      c.populateNames r o.populate.one = .ok names →
      ((c.getOne r).run (Client.answer stamps) client).result =
        .ok (client.db.begin.populated c.entity names row) := by
  intro h
  have hfound := h Labels.config Labels.model "label" "label" Options.default Labels.controller
    Labels.stamps Labels.client (Labels.label "7.0") (Labels.request "7.0") []
    Labels.resolve_config Labels.build_controller rfl (fun _ => rfl) rfl Labels.matcher_none
    Labels.columns_iff Labels.isReachable_client (by decide +kernel)
    (Labels.addresses_label "7.0") rfl
  revert hfound
  decide +kernel

end Depot
