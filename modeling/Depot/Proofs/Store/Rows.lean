import Depot.Proofs.Program
import Depot.Store.Tables
import Mathlib.Data.List.Nodup

/-!
# Rows under writes

What writes do to the rows of one entity. A write of another entity leaves them as they are, and
one that fits replaces, takes out or adds one row. If the rows have keys that tell them apart, that
row is the only one with its key.

* `Entity.IsKeyed`: rows with complete keys that tell them apart.
* `applyRows`: the rows of one entity after writes of it.

Results:
* `replaceRow?_eq_some`, `removeRow?_eq_some`: the rows around the one that is replaced or removed.
* `applyToRows_insert_iff`, `applyToRows_update_iff`, `applyToRows_remove_iff`: what fits rows,
  `applyToRows_eq_ok`: the rows around the one that a write changes.
* `applyRows_induction`, `applyAll_induction`: what each write keeps is kept by a log of them.
* `rows_applyAll`: what a log does to the rows of one entity, by its writes of that entity.
* `replaceRow?_eq_map`, `removeRow?_eq_filter`: the same for rows with keys.
* `isKeyed_applyRows`: writes that leave rows under their keys keep the keys apart.
-/

namespace Depot

variable {e : Entity} {key : RowKey} {row : Record} {rows rows' : List Record}

/-! ## One row -/

theorem hasKey_iff : e.hasKey key row = true ↔ e.key? row = some key := by
  rw [Entity.hasKey, beq_iff_eq]

theorem findRow?_eq_some {q : Record} (h : findRow? e key rows = some q) :
    q ∈ rows ∧ e.key? q = some key :=
  ⟨List.mem_of_find?_eq_some h, hasKey_iff.1 (List.find?_some h)⟩

theorem findRow?_eq_none : findRow? e key rows = none ↔ ∀ r ∈ rows, e.key? r ≠ some key := by
  rw [findRow?, List.find?_eq_none]
  constructor
  · intro h r hr hk
    exact h r hr (hasKey_iff.2 hk)
  · intro h r hr hk
    exact h r hr (hasKey_iff.1 hk)

theorem replaceRow?_eq_some (h : replaceRow? e key row rows = some rows') :
    ∃ before q after, rows = before ++ q :: after ∧ findRow? e key rows = some q ∧
      rows' = before ++ row :: after := by
  induction rows generalizing rows' with
  | nil => cases h
  | cons r rows ih =>
    rw [replaceRow?] at h
    by_cases hr : e.hasKey key r = true
    · rw [if_pos hr, Option.some.injEq] at h
      exact ⟨[], r, rows, rfl, List.find?_cons_of_pos hr, h.symm⟩
    · rw [if_neg hr] at h
      obtain ⟨rest, hrest, rfl⟩ := Option.map_eq_some_iff.1 h
      obtain ⟨before, q, after, rfl, hfind, rfl⟩ := ih hrest
      refine ⟨r :: before, q, after, rfl, ?_, rfl⟩
      rw [findRow?, List.find?_cons_of_neg hr]
      exact hfind

theorem removeRow?_eq_some (h : removeRow? e key rows = some rows') :
    ∃ before q after, rows = before ++ q :: after ∧ findRow? e key rows = some q ∧
      rows' = before ++ after := by
  induction rows generalizing rows' with
  | nil => cases h
  | cons r rows ih =>
    rw [removeRow?] at h
    by_cases hr : e.hasKey key r = true
    · rw [if_pos hr, Option.some.injEq] at h
      exact ⟨[], r, rows, rfl, List.find?_cons_of_pos hr, h.symm⟩
    · rw [if_neg hr] at h
      obtain ⟨rest, hrest, rfl⟩ := Option.map_eq_some_iff.1 h
      obtain ⟨before, q, after, rfl, hfind, rfl⟩ := ih hrest
      refine ⟨r :: before, q, after, rfl, ?_, rfl⟩
      rw [findRow?, List.find?_cons_of_neg hr]
      exact hfind

/-- The first row of a key is replaced. -/
theorem replaceRow?_of_split {before after : List Record} {q : Record}
    (hbefore : ∀ r ∈ before, e.key? r ≠ some key) (hq : e.key? q = some key) :
    replaceRow? e key row (before ++ q :: after) = some (before ++ row :: after) := by
  induction before with
  | nil => exact if_pos (hasKey_iff.2 hq)
  | cons r before ih =>
    have hr : ¬e.hasKey key r = true := fun h => hbefore r List.mem_cons_self (hasKey_iff.1 h)
    rw [List.cons_append, replaceRow?, if_neg hr,
      ih fun r' hr' => hbefore r' (List.mem_cons_of_mem _ hr')]
    rfl

/-- The first row of a key is removed. -/
theorem removeRow?_of_split {before after : List Record} {q : Record}
    (hbefore : ∀ r ∈ before, e.key? r ≠ some key) (hq : e.key? q = some key) :
    removeRow? e key (before ++ q :: after) = some (before ++ after) := by
  induction before with
  | nil => exact if_pos (hasKey_iff.2 hq)
  | cons r before ih =>
    have hr : ¬e.hasKey key r = true := fun h => hbefore r List.mem_cons_self (hasKey_iff.1 h)
    rw [List.cons_append, removeRow?, if_neg hr,
      ih fun r' hr' => hbefore r' (List.mem_cons_of_mem _ hr')]
    rfl

/-! ## What fits rows -/

theorem Write.applyToRows_insert_iff {name : String} :
    (insert name key row).applyToRows e rows = .ok rows' ↔
      findRow? e key rows = none ∧ rows' = rows ++ [row] := by
  rw [applyToRows]
  cases findRow? e key rows with
  | none => exact ⟨fun h => ⟨rfl, (Except.ok.inj h).symm⟩, fun h => congrArg Except.ok h.2.symm⟩
  | some q => exact ⟨nofun, nofun⟩

theorem Write.applyToRows_update_iff {name : String} :
    (update name key row).applyToRows e rows = .ok rows' ↔
      replaceRow? e key row rows = some rows' := by
  rw [applyToRows]
  cases replaceRow? e key row rows with
  | none => exact ⟨nofun, nofun⟩
  | some rows₁ => rw [Except.ok.injEq, Option.some.injEq]

theorem Write.applyToRows_remove_iff {name : String} :
    (remove name key).applyToRows e rows = .ok rows' ↔ removeRow? e key rows = some rows' := by
  rw [applyToRows]
  cases removeRow? e key rows with
  | none => exact ⟨nofun, nofun⟩
  | some rows₁ => rw [Except.ok.injEq, Option.some.injEq]

/-- A write that fits puts the row that it leaves, if any, in the place of a row of its key, or at
    the end. -/
theorem Write.applyToRows_eq_ok {w : Write} (h : w.applyToRows e rows = .ok rows') :
    ∃ before old after, rows = before ++ Option.toList old ++ after ∧
      rows' = before ++ w.row?.toList ++ after ∧ ∀ q ∈ old, e.key? q = some w.key := by
  cases w with
  | insert n k new =>
    obtain ⟨-, rfl⟩ := applyToRows_insert_iff.1 h
    refine ⟨rows, none, [], ?_, ?_, ?_⟩
    · rw [Option.toList_none, List.append_nil, List.append_nil]
    · rw [List.append_nil]
      rfl
    · intro q hq
      cases hq
  | update n k new =>
    obtain ⟨before, q, after, rfl, hfind, rfl⟩ :=
      replaceRow?_eq_some (applyToRows_update_iff.1 h)
    refine ⟨before, some q, after, by simp, by simp [row?], ?_⟩
    rintro r ⟨⟩
    exact (findRow?_eq_some hfind).2
  | remove n k =>
    obtain ⟨before, q, after, rfl, hfind, rfl⟩ :=
      removeRow?_eq_some (applyToRows_remove_iff.1 h)
    refine ⟨before, some q, after, by simp, by simp [row?], ?_⟩
    rintro r ⟨⟩
    exact (findRow?_eq_some hfind).2

/-! ## One entity -/

/-- The rows of an entity after writes of it, unless one of them does not fit. -/
def applyRows (e : Entity) (rows : List Record) : List Write → Except StoreError (List Record)
  | [] => .ok rows
  | w :: ws => do
    let rows ← w.applyToRows e rows
    applyRows e rows ws

theorem applyRows_append (ws vs : List Write) :
    applyRows e rows (ws ++ vs) = applyRows e rows ws >>= fun rows => applyRows e rows vs := by
  induction ws generalizing rows with
  | nil => rfl
  | cons w ws ih =>
    show (w.applyToRows e rows >>= fun rows => applyRows e rows (ws ++ vs)) = _
    cases h : w.applyToRows e rows with
    | error failure => simp only [applyRows, h]; rfl
    | ok rows =>
      simp only [applyRows, h]
      exact ih

/-- What each write of a log keeps, the log keeps. -/
theorem applyRows_induction {P : List Record → Prop} {ws : List Write}
    (hstep : ∀ w ∈ ws, ∀ rows rows', P rows → w.applyToRows e rows = .ok rows' → P rows')
    (h : P rows) (happly : applyRows e rows ws = .ok rows') : P rows' := by
  induction ws generalizing rows with
  | nil =>
    cases happly
    exact h
  | cons w ws ih =>
    obtain ⟨rows₁, hw, hrest⟩ := bind_eq_ok_iff.1 happly
    exact ih (fun v hv => hstep v (List.mem_cons_of_mem _ hv))
      (hstep w List.mem_cons_self rows rows₁ h hw) hrest

variable {m : Model} {t t' : Tables}

theorem applyAll_induction {P : Tables → Prop} {ws : List Write}
    (hstep : ∀ w ∈ ws, ∀ t t', P t → w.apply m t = .ok t' → P t') (h : P t)
    (happly : applyAll m t ws = .ok t') : P t' := by
  induction ws generalizing t with
  | nil =>
    cases happly
    exact h
  | cons w ws ih =>
    obtain ⟨t₁, hw, hrest⟩ := applyAll_cons_iff.1 happly
    exact ih (fun v hv => hstep v (List.mem_cons_of_mem _ hv))
      (hstep w List.mem_cons_self t t₁ h hw) hrest

theorem Write.apply_eq_ok {w : Write} (h : w.apply m t = .ok t') :
    ∃ e rows, m.entity? w.entity = some e ∧ w.applyToRows e (t.rows w.entity) = .ok rows ∧
      t' = t.set w.entity rows := by
  rw [Write.apply] at h
  cases he : m.entity? w.entity with
  | none => rw [he] at h; cases h
  | some e =>
    rw [he] at h
    obtain ⟨rows, hrows, ht⟩ := map_eq_ok_iff.1 h
    exact ⟨e, rows, rfl, hrows, ht.symm⟩

theorem rows_apply_of_ne {w : Write} (h : w.apply m t = .ok t') {name : String}
    (hne : w.entity ≠ name) : t'.rows name = t.rows name := by
  obtain ⟨e, rows, -, -, rfl⟩ := Write.apply_eq_ok h
  rw [Tables.rows_set, if_neg (Ne.symm hne)]

theorem rows_apply_self {w : Write} (h : w.apply m t = .ok t')
    (he : m.entity? w.entity = some e) :
    w.applyToRows e (t.rows w.entity) = .ok (t'.rows w.entity) := by
  obtain ⟨e', rows, he', hrows, rfl⟩ := Write.apply_eq_ok h
  rw [he, Option.some.injEq] at he'
  subst he'
  rw [hrows, Tables.rows_set, if_pos rfl]

theorem filter_entity_eq_self {name : String} {ws : List Write} (h : ∀ v ∈ ws, v.entity = name) :
    ws.filter (·.entity == name) = ws :=
  List.filter_eq_self.2 fun v hv => beq_iff_eq.2 (h v hv)

theorem filter_entity_eq_nil {name : String} {ws : List Write} (h : ∀ v ∈ ws, v.entity ≠ name) :
    ws.filter (·.entity == name) = [] :=
  List.filter_eq_nil_iff.2 fun v hv hsame => h v hv (beq_iff_eq.1 hsame)

/-- A log changes the rows of an entity as its writes of that entity do. -/
theorem rows_applyAll {ws : List Write} (h : applyAll m t ws = .ok t') {name : String}
    (he : m.entity? name = some e) :
    applyRows e (t.rows name) (ws.filter (·.entity == name)) = .ok (t'.rows name) := by
  induction ws generalizing t with
  | nil =>
    rw [applyAll, Except.ok.injEq] at h
    subst h
    rfl
  | cons w ws ih =>
    obtain ⟨t₁, hw, hlater⟩ := applyAll_cons_iff.1 h
    have hrest := ih hlater
    by_cases hname : w.entity = name
    · have hstep : w.applyToRows e (t.rows name) = .ok (t₁.rows name) := by
        rw [← hname] at he ⊢
        exact rows_apply_self hw he
      have hfilter : (w :: ws).filter (·.entity == name) = w :: ws.filter (·.entity == name) :=
        List.filter_cons_of_pos (beq_iff_eq.2 hname)
      rw [hfilter, applyRows, hstep]
      exact hrest
    · have hfilter : (w :: ws).filter (·.entity == name) = ws.filter (·.entity == name) := by
        apply List.filter_cons_of_neg
        rwa [beq_iff_eq]
      rw [hfilter, ← rows_apply_of_ne hw hname]
      exact hrest

/-! ## Rows with keys -/

/-- Rows with complete keys, no two of them with the same one. -/
structure Entity.IsKeyed (e : Entity) (rows : List Record) : Prop where
  complete : ∀ r ∈ rows, (e.key? r).isSome
  distinct : rows.Pairwise fun a b => e.key? a ≠ e.key? b

namespace Entity.IsKeyed

theorem nil : e.IsKeyed [] := ⟨fun _ h => (List.not_mem_nil h).elim, List.Pairwise.nil⟩

/-- A key belongs to one row. -/
theorem eq_of_key (h : e.IsKeyed rows) {a b : Record} (ha : a ∈ rows) (hb : b ∈ rows)
    (hab : e.key? a = e.key? b) : a = b :=
  List.inj_on_of_nodup_map (List.pairwise_map.2 h.distinct) ha hb hab

theorem findRow?_eq (h : e.IsKeyed rows) {r : Record} (hr : r ∈ rows) (hk : e.key? r = some key) :
    findRow? e key rows = some r := by
  cases hf : findRow? e key rows with
  | none => exact absurd hk (findRow?_eq_none.1 hf r hr)
  | some q =>
    obtain ⟨hq, hqk⟩ := findRow?_eq_some hf
    rw [h.eq_of_key hq hr (hqk.trans hk.symm)]

/-- Around a row of a key there is no other row of that key. -/
theorem key?_ne_of_split {before after : List Record} {q : Record}
    (h : e.IsKeyed (before ++ q :: after)) (hq : e.key? q = some key) :
    (∀ r ∈ before, e.key? r ≠ some key) ∧ ∀ r ∈ after, e.key? r ≠ some key := by
  obtain ⟨-, hd⟩ := h
  obtain ⟨-, hafter, hbefore⟩ := List.pairwise_append.1 hd
  constructor
  · intro r hr
    rw [← hq]
    exact hbefore r hr q List.mem_cons_self
  · intro r hr
    rw [← hq]
    exact ((List.pairwise_cons.1 hafter).1 r hr).symm

theorem replaceRow?_eq_map (h : e.IsKeyed rows) (hr : replaceRow? e key row rows = some rows') :
    rows' = rows.map fun r => if e.key? r = some key then row else r := by
  obtain ⟨before, q, after, rfl, hfind, rfl⟩ := replaceRow?_eq_some hr
  have hq := (findRow?_eq_some hfind).2
  obtain ⟨hbefore, hafter⟩ := h.key?_ne_of_split hq
  have hkeep (rs : List Record) (hrs : ∀ r ∈ rs, e.key? r ≠ some key) :
      rs.map (fun r => if e.key? r = some key then row else r) = rs := by
    have hid : rs.map (fun r => if e.key? r = some key then row else r) = rs.map id :=
      List.map_congr_left fun r hr => if_neg (hrs r hr)
    rw [hid, List.map_id]
  rw [List.map_append, List.map_cons, hkeep before hbefore, hkeep after hafter, if_pos hq]

theorem removeRow?_eq_filter (h : e.IsKeyed rows) (hr : removeRow? e key rows = some rows') :
    rows' = rows.filter fun r => e.key? r ≠ some key := by
  obtain ⟨before, q, after, rfl, hfind, rfl⟩ := removeRow?_eq_some hr
  have hq := (findRow?_eq_some hfind).2
  obtain ⟨hbefore, hafter⟩ := h.key?_ne_of_split hq
  have hkeep (rs : List Record) (hrs : ∀ r ∈ rs, e.key? r ≠ some key) :
      rs.filter (fun r => e.key? r ≠ some key) = rs :=
    List.filter_eq_self.2 fun r hr => decide_eq_true (hrs r hr)
  have hdrop : (q :: after).filter (fun r => e.key? r ≠ some key) = after := by
    rw [List.filter_cons_of_neg, hkeep after hafter]
    rw [hq]
    simp
  rw [List.filter_append, hkeep before hbefore, hdrop]

theorem append (h : e.IsKeyed rows) (hk : e.key? row = some key)
    (hnone : findRow? e key rows = none) : e.IsKeyed (rows ++ [row]) where
  complete := by
    intro r hr
    rcases List.mem_append.1 hr with hr | hr
    · exact h.complete r hr
    · rw [List.mem_singleton.1 hr, hk]
      rfl
  distinct := by
    refine List.pairwise_append.2 ⟨h.distinct, List.pairwise_singleton _ _, ?_⟩
    intro a ha b hb
    rw [List.mem_singleton.1 hb, hk]
    exact findRow?_eq_none.1 hnone a ha

/-- A row that is put in the place of the row of its key keeps that key there. -/
theorem key?_replaced (hk : e.key? row = some key) (r : Record) :
    e.key? (if e.key? r = some key then row else r) = e.key? r := by
  by_cases hrk : e.key? r = some key
  · rw [if_pos hrk, hk, hrk]
  · rw [if_neg hrk]

theorem replace (h : e.IsKeyed rows) (hk : e.key? row = some key)
    (hr : replaceRow? e key row rows = some rows') : e.IsKeyed rows' := by
  have hmap := h.replaceRow?_eq_map hr
  subst hmap
  constructor
  · intro r hr
    obtain ⟨q, hq, rfl⟩ := List.mem_map.1 hr
    rw [key?_replaced hk]
    exact h.complete q hq
  · refine List.pairwise_map.2 (h.distinct.imp ?_)
    intro a b hab
    rw [key?_replaced hk, key?_replaced hk]
    exact hab

theorem filter (h : e.IsKeyed rows) (p : Record → Bool) : e.IsKeyed (rows.filter p) :=
  ⟨fun r hr => h.complete r (List.mem_filter.1 hr).1, h.distinct.filter _⟩

end Entity.IsKeyed

/-! ## Writes that leave rows under their keys -/

/-- A write whose row has the key that the write addresses, with its fields in order. -/
def Write.IsProper (e : Entity) (w : Write) : Prop :=
  ∀ row, w.row? = some row → e.key? row = some w.key ∧ row.Sorted

theorem isKeyed_applyToRows {w : Write} (h : e.IsKeyed rows) (hw : w.IsProper e)
    (happly : w.applyToRows e rows = .ok rows') : e.IsKeyed rows' := by
  cases w with
  | insert name key row =>
    obtain ⟨hfind, rfl⟩ := Write.applyToRows_insert_iff.1 happly
    exact h.append (hw row rfl).1 hfind
  | update name key row => exact h.replace (hw row rfl).1 (Write.applyToRows_update_iff.1 happly)
  | remove name key =>
    rw [h.removeRow?_eq_filter (Write.applyToRows_remove_iff.1 happly)]
    exact h.filter _

theorem isKeyed_applyRows {ws : List Write} (h : e.IsKeyed rows) (hws : ∀ w ∈ ws, w.IsProper e)
    (happly : applyRows e rows ws = .ok rows') : e.IsKeyed rows' :=
  applyRows_induction (fun w hw _ _ hkeyed => isKeyed_applyToRows hkeyed (hws w hw)) h happly

end Depot
