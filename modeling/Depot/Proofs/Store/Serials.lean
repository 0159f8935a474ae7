import Depot.Proofs.Json.Integers
import Depot.Proofs.Store.InPlace
import Depot.Proofs.Store.Insertions
import Depot.Proofs.Store.Snapshot
import Mathlib.Algebra.Group.Int.Defs

/-!
# Serials

A key of integers is made up as the number after the greatest that its column holds, among the rows
of the tables and those that wait to be inserted. The greatest is found among doubles, so that an
integer beyond 2^53 may count for less than it is, and may be made up again.

* `Transaction.seenRows`: the rows that a transaction sees of an entity.
* `Transaction.SerialIsFresh`: a serial that is a 64-bit integer and the key of no row that is seen.

Results:
* `nextSerial_le_iff`: the serial in terms of the numbers that a column holds.
* `key?_of_persist`: the key of a row for which a serial is made up.
* `not_holds_applyRows`: a key that is not held and not inserted is not held later.
* `serial_isFresh_iff`: when a serial is fresh, and that its row then fits what is flushed.
-/

namespace Depot

/-! ## Keys that nobody holds -/

section

variable {e : Entity} {name : String} {key : RowKey} {rows rows' : List Record}

/-- A write that does not insert a key gives it to no row: a row that is changed has the key that it
    had. -/
theorem not_holds_applyToRows {w : Write} (h : ¬e.Holds key rows) (hw : w.IsProper e)
    (hother : ∀ row, w ≠ .insert w.entity key row) (happly : w.applyToRows e rows = .ok rows') :
    ¬e.Holds key rows' := by
  rintro ⟨row, hrow, hkey⟩
  have hnew : w.row? = some row → False := by
    intro hleft
    have hsame := (hw row hleft).1
    rw [hkey, Option.some.injEq] at hsame
    cases w with
    | insert n k new => exact hother new (congrArg (Write.insert n · new) hsame.symm)
    | update n k new =>
      obtain ⟨-, q, -, -, hfind, -⟩ := replaceRow?_eq_some (Write.applyToRows_update_iff.1 happly)
      obtain ⟨hq, hqkey⟩ := findRow?_eq_some hfind
      exact h ⟨q, hq, hqkey.trans (congrArg some hsame.symm)⟩
    | remove n k => cases hleft
  obtain ⟨before, old, after, rfl, rfl, -⟩ := Write.applyToRows_eq_ok happly
  rcases List.mem_append.1 hrow with hrow | hrow
  · rcases List.mem_append.1 hrow with hrow | hrow
    · exact h ⟨row, List.mem_append_left _ (List.mem_append_left _ hrow), hkey⟩
    · exact hnew (Option.mem_toList.1 hrow)
  · exact h ⟨row, List.mem_append_right _ hrow, hkey⟩

/-- A key that no row holds and that no write of a log inserts is held by no row after the log. -/
theorem not_holds_applyRows {ws : List Write} (h : ¬e.Holds key rows)
    (hws : ∀ w ∈ ws, w.IsProper e) (hother : ∀ w ∈ ws, ∀ row, w ≠ .insert w.entity key row)
    (happly : applyRows e rows ws = .ok rows') : ¬e.Holds key rows' :=
  applyRows_induction
    (fun w hw _ _ hfree => not_holds_applyToRows hfree (hws w hw) (hother w hw)) h happly

end

namespace Transaction

/-! ## What a transaction sees -/

/-- The rows that a transaction sees of an entity: those of its tables and those that it is going to
    insert. -/
def seenRows (tx : Transaction) (e : Entity) : List Record :=
  tx.working.rows e.name ++ tx.staged.filterMap fun
    | .insert entity _ row => if entity = e.name then some row else none
    | _ => none

/-- A serial is fresh for a row that gets it as its key: the number after the greatest is a 64-bit
    integer, and no row that the transaction sees has the key. -/
structure SerialIsFresh (tx : Transaction) (e : Entity) (c : Column) (row : Record) : Prop where
  fits : tx.nextSerial e c.name ≤ Double.maxInt64
  apart : ∀ seen ∈ tx.seenRows e, e.key? seen ≠ e.key? row

variable {tx tx' : Transaction} {e : Entity} {c : Column} {r row : Record} {stamp : Stamp}

theorem mem_seenRows {seen : Record} : seen ∈ tx.seenRows e ↔
    seen ∈ tx.working.rows e.name ∨ ∃ key, .insert e.name key seen ∈ tx.staged := by
  rw [seenRows, List.mem_append, List.mem_filterMap]
  refine or_congr_right ⟨?_, ?_⟩
  · rintro ⟨w, hw, h⟩
    cases w with
    | insert entity key row =>
      obtain ⟨rfl, hrow⟩ := Option.ite_none_right_eq_some.1 h
      cases hrow
      exact ⟨key, hw⟩
    | update entity key row => cases h
    | remove entity key => cases h
  · rintro ⟨key, hw⟩
    exact ⟨_, hw, if_pos rfl⟩

theorem mem_columnValues {column : String} {v : Json} : v ∈ tx.columnValues e column ↔
    ∃ seen ∈ tx.seenRows e, seen.field? column = some v :=
  List.mem_filterMap

/-! ## The number after the greatest -/

theorem foldl_max_le_iff {ds : List Double} {start n : Int} :
    ds.foldl (fun n d => max n d.truncate) start ≤ n ↔
      start ≤ n ∧ ∀ d ∈ ds, d.truncate ≤ n := by
  induction ds generalizing start with
  | nil => simp
  | cons d ds ih =>
    rw [List.foldl_cons, ih, Int.max_le, List.forall_mem_cons, and_assoc]

theorem le_foldl_max {ds : List Double} {start : Int} :
    start ≤ ds.foldl (fun n d => max n d.truncate) start :=
  (foldl_max_le_iff.1 (Int.le_refl _)).1

/-- The number after the greatest is bounded if the numbers are. -/
theorem nextSerial_le_iff {column : String} {n : Int} (hn : 0 < n) :
    tx.nextSerial e column ≤ n ↔
      ∀ v ∈ tx.columnValues e column, ∀ d, asNumber? v = some d → d.truncate < n := by
  have hnumbers : (∀ d ∈ (tx.columnValues e column).filterMap asNumber?, d.truncate ≤ n - 1) ↔
      ∀ v ∈ tx.columnValues e column, ∀ d, asNumber? v = some d → d.truncate < n := by
    constructor
    · intro h v hv d hd
      have hle := h d (List.mem_filterMap.2 ⟨v, hv, hd⟩)
      omega
    · intro h d hd
      obtain ⟨v, hv, hd⟩ := List.mem_filterMap.1 hd
      have hlt := h v hv d hd
      omega
  rw [nextSerial, Int.add_one_le_iff, ← Int.le_sub_one_iff, foldl_max_le_iff,
    and_iff_right (by omega), hnumbers]

theorem nextSerial_pos (tx : Transaction) (e : Entity) (column : String) :
    0 < tx.nextSerial e column :=
  Int.lt_add_one_of_le le_foldl_max

/-! ## The key that is made up -/

/-- A row has a key of one column if it has the text of the column's value. -/
theorem key?_eq_some_iff {k text : String} (hkey : e.primaryKey = [k]) :
    e.key? row = some ⟨[text]⟩ ↔ ∃ v, row.field? k = some v ∧ keyPart? v = some text := by
  rw [Entity.key?, hkey]
  cases hfield : row.field? k with
  | none => simp [Entity.keyParts?, hfield]
  | some v => cases hpart : keyPart? v <;> simp [Entity.keyParts?, hfield, hpart]

theorem keyPart?_eq_intDigits_iff {v : Json} {n : Int} :
    keyPart? v = some (String.ofList (Text.intDigits n)) ↔ v.Denotes n := by
  rw [← Json.plainText_eq_intDigits_iff]
  cases v with
  | null => exact iff_of_false nofun (mt Json.plainText_eq_intDigits_iff.1 nofun)
  | _ => exact Option.some_inj

theorem denotes_wrap {n : Int} (hlow : 0 < n) (hfits : n ≤ Double.maxInt64) :
    (Json.num (.wrap n)).Denotes n := by
  unfold Double.maxInt64 at hfits
  have hwrap : Number.wrap n = .int ⟨n, by omega⟩ :=
    Option.some.inj ((Number.wrap_eq (by omega) (by omega)).trans (dif_pos (by omega)))
  rw [hwrap]
  exact .num rfl

section

variable (hc : e.generatedKey? = some c)
  (htype : c.keyType = some .int ∨ c.keyType = some .bigInt)
  (hnull : ((e.columnFields r).get c.name).isNull = true)
  (h : tx.persist e r .insert stamp = .ok (row, tx'))

include hc htype hnull h

/-- A row without a key gets the number after the greatest, as far as 64 bits hold it. -/
theorem field?_of_persist :
    row.field? c.name = some (.num (.wrap (tx.nextSerial e c.name))) := by
  obtain ⟨hfill, -⟩ := insert_eq_ok h
  obtain ⟨keyed, hkeyed, rfl, -⟩ := fillDefaults_eq_ok hfill
  simp only [fillKey, hc, hnull, if_true] at hkeyed
  obtain ⟨v, hv, rfl⟩ := map_eq_ok_iff.1 hkeyed
  have hserial : v = .num (.wrap (tx.nextSerial e c.name)) := by
    rw [generate] at hv
    obtain htype | htype := htype
    · rw [htype] at hv
      exact (Except.ok.inj hv).symm
    · rw [htype] at hv
      exact (Except.ok.inj hv).symm
  have hput : ((e.columnFields r).put c.name v).field? c.name = some v := by
    rw [Fields.field?_put, if_pos rfl]
  have hhas : ((e.columnFields r).put c.name v).has c.name = true := by
    rw [Fields.has, hput]
    rfl
  rw [field?_fillTimes hhas, hput, hserial]

/-- The key that a row gets is the text of the number after the greatest, if it fits. -/
theorem key?_of_persist (hfits : tx.nextSerial e c.name ≤ Double.maxInt64) :
    e.key? row = some ⟨[String.ofList (Text.intDigits (tx.nextSerial e c.name))]⟩ := by
  rw [key?_eq_some_iff (primaryKey_of_generatedKey? hc)]
  refine ⟨_, field?_of_persist hc htype hnull h, keyPart?_eq_intDigits_iff.2 ?_⟩
  exact denotes_wrap (tx.nextSerial_pos e c.name) hfits

/-- A serial is fresh if and only if it is a 64-bit integer and the column holds neither it nor its
    text. -/
theorem serialIsFresh_iff_denotes : tx.SerialIsFresh e c row ↔
    tx.nextSerial e c.name ≤ Double.maxInt64 ∧
      ∀ v ∈ tx.columnValues e c.name, ¬v.Denotes (tx.nextSerial e c.name) := by
  have hsame (hfits : tx.nextSerial e c.name ≤ Double.maxInt64) {seen : Record} :
      e.key? seen = e.key? row ↔
        ∃ v, seen.field? c.name = some v ∧ v.Denotes (tx.nextSerial e c.name) := by
    rw [key?_of_persist hc htype hnull h hfits, key?_eq_some_iff (primaryKey_of_generatedKey? hc)]
    simp only [keyPart?_eq_intDigits_iff]
  constructor
  · rintro ⟨hfits, hapart⟩
    refine ⟨hfits, fun v hv hdenotes => ?_⟩
    obtain ⟨seen, hseen, hfield⟩ := mem_columnValues.1 hv
    exact hapart seen hseen ((hsame hfits).2 ⟨v, hfield, hdenotes⟩)
  · rintro ⟨hfits, hnone⟩
    refine ⟨hfits, fun seen hseen heq => ?_⟩
    obtain ⟨v, hfield, hdenotes⟩ := (hsame hfits).1 heq
    exact hnone v (mem_columnValues.2 ⟨seen, hseen, hfield⟩) hdenotes

/-- A serial is fresh if the column holds no number beyond those that doubles hold one by one. -/
theorem serialIsFresh_of_lt (hsmall : ∀ v ∈ tx.columnValues e c.name, ∀ d,
    asNumber? v = some d → d.truncate < 2 ^ 53) : tx.SerialIsFresh e c row := by
  have hle : tx.nextSerial e c.name ≤ 2 ^ 53 := (nextSerial_le_iff (by decide)).2 hsmall
  have hpos := tx.nextSerial_pos e c.name
  rw [serialIsFresh_iff_denotes hc htype hnull h]
  refine ⟨Int.le_trans hle (by decide), fun v hv hdenotes => ?_⟩
  obtain ⟨n, hn⟩ := Int.eq_ofNat_of_zero_le (Int.le_of_lt hpos)
  rw [hn] at hdenotes hle
  have hread := Json.asNumber?_of_denotes hdenotes
  have hexact : (Double.ofInt n).truncate = n := Double.truncate_ofInt (by exact_mod_cast hle)
  -- The number after the greatest is not among those of which it is the greatest.
  have hlt := (nextSerial_le_iff hpos).1 (Int.le_refl _) v hv _ hread
  omega

end

/-! ## Flushes -/

variable {m : Model}

/-- A key that no row has which a sound transaction sees is held by no row once all is flushed. -/
theorem not_holds_applyAll {key : RowKey} {t : Tables} (hsound : tx.IsSound m)
    (he : m.entity? e.name = some e) (hapart : ∀ seen ∈ tx.seenRows e, e.key? seen ≠ some key)
    (happly : applyAll m tx.working tx.staged = .ok t) : ¬e.Holds key (t.rows e.name) := by
  have hproper {w : Write} (hw : w ∈ tx.staged) (hentity : w.entity = e.name) : w.IsProper e :=
    hsound.staged w hw e (hentity ▸ he)
  refine not_holds_applyRows ?_ ?_ ?_ (rows_applyAll happly he)
  · rintro ⟨row, hrow, hkey⟩
    exact hapart row (mem_seenRows.2 (Or.inl hrow)) hkey
  · intro w hw
    obtain ⟨hw, hentity⟩ := List.mem_filter.1 hw
    exact hproper hw (beq_iff_eq.1 hentity)
  · rintro w hw row hinsert
    obtain ⟨hw, hentity⟩ := List.mem_filter.1 hw
    have hname := beq_iff_eq.1 hentity
    rw [hname] at hinsert
    have hkey := (hproper hw hname row (by rw [hinsert]; rfl)).1
    rw [hinsert] at hkey hw
    exact hapart row (mem_seenRows.2 (Or.inr ⟨key, hw⟩)) hkey

/-- A row with a fresh serial changes nothing about whether a flush succeeds. -/
theorem flush_of_serialIsFresh (hsound : tx.IsSound m) (he : m.entity? e.name = some e)
    (h : tx.persist e r .insert stamp = .ok (row, tx')) (hfresh : tx.SerialIsFresh e c row) :
    (tx'.flush m).2 = (tx.flush m).2 := by
  obtain ⟨-, key, hkey, rfl⟩ := insert_eq_ok h
  have hapart := hfresh.apart
  rw [hkey] at hapart
  cases hflush : (tx.flush m).2 with
  | ok u =>
    obtain ⟨t, happly, -⟩ := flush_eq_ok hflush
    have hfree := not_holds_applyAll hsound he hapart happly
    have hnone : findRow? e key (t.rows e.name) = none :=
      findRow?_eq_none.2 fun r hr hk => hfree ⟨r, hr, hk⟩
    have hrows : (Write.insert e.name key row).applyToRows e (t.rows e.name) =
        .ok (t.rows e.name ++ [row]) := Write.applyToRows_insert_iff.2 ⟨hnone, rfl⟩
    have hwrite : (Write.insert e.name key row).apply m t =
        .ok (t.set e.name (t.rows e.name ++ [row])) := by
      simp only [Write.apply, Write.entity, he, hrows]
      rfl
    have hall : applyAll m tx.working (tx.staged ++ [.insert e.name key row]) =
        .ok (t.set e.name (t.rows e.name ++ [row])) := by
      rw [applyAll_append, happly]
      show applyAll m t [.insert e.name key row] = _
      rw [applyAll, hwrite]
      rfl
    rw [flush_of_applyAll hall]
  | error failure =>
    obtain ⟨before, w, rest, t, hsplit, hbefore, hw, -⟩ :=
      flush_eq_error_iff.1 (Prod.ext rfl hflush)
    have hstaged : (tx.stage (.insert e.name key row)).staged =
        before ++ w :: (rest ++ [.insert e.name key row]) := by
      rw [stage, hsplit, List.append_assoc, List.cons_append]
    rw [flush_eq_error_iff.2 ⟨before, w, _, t, hstaged, hbefore, hw, rfl⟩]

/-- A serial of a reachable transaction is fresh if and only if the column reads as no number from
    the greatest 64-bit integer on, and neither the number after the greatest nor its text is in the
    column. It is fresh if all numbers of the column are below 2^53, where doubles hold the integers
    one by one. A row with a fresh serial conflicts with no row in a flush. -/
theorem serial_isFresh_iff (htx : tx.IsReachable m) (he : m.entity? e.name = some e)
    (hc : e.generatedKey? = some c) (htype : c.keyType = some .int ∨ c.keyType = some .bigInt)
    (hnull : ((e.columnFields r).get c.name).isNull = true)
    (h : tx.persist e r .insert stamp = .ok (row, tx')) :
    (tx.SerialIsFresh e c row ↔
      (∀ v ∈ tx.columnValues e c.name, ∀ d, asNumber? v = some d →
        d.truncate < Double.maxInt64) ∧
      ∀ v ∈ tx.columnValues e c.name, ¬v.Denotes (tx.nextSerial e c.name)) ∧
    ((∀ v ∈ tx.columnValues e c.name, ∀ d, asNumber? v = some d → d.truncate < 2 ^ 53) →
      tx.SerialIsFresh e c row) ∧
    ((∀ e ∈ m.entities, updatedAt ∉ e.primaryKey) → tx.SerialIsFresh e c row →
      (tx'.flush m).2 = (tx.flush m).2) := by
  refine ⟨?_, serialIsFresh_of_lt hc htype hnull h, ?_⟩
  · rw [serialIsFresh_iff_denotes hc htype hnull h, nextSerial_le_iff (by decide)]
  · exact fun htime => flush_of_serialIsFresh (htx.isSound htime) he h

end Transaction

/-! ## Tickets with numbers -/

namespace Tickets

/-- The numbers of tickets are made up. -/
def number : Column := ⟨"id", some .bigInt, false, true, "bigint"⟩

/-- Tickets have a number and nothing else. -/
def entity : Entity := ⟨"ticket", "public", "ticket", ["id"], [number], [], []⟩

/-- The model of tickets. -/
def model : Model := ⟨[entity], []⟩

/-- The ticket of a number. -/
def ticket (id : Json) : Record := [("id", id)]

/-- The world supplies the same stamp at all times. -/
def stamp : Stamp := ⟨"now", "fresh"⟩

/-- A ticket is seeded, and a transaction is begun. -/
def opened (id : Json) : List Session.Step := [.seed "ticket" [ticket id], .begin "t"]

/-- A ticket is seeded, and a transaction is begun that adds tickets. -/
def steps (id : Json) (added : Nat) : List Session.Step :=
  opened id ++ List.replicate added (.within "t" (.persist entity [] .insert))

/-- The session after these steps. -/
def session (id : Json) (added : Nat) : Session :=
  (Session.start (.create model)).runAll (fun _ => stamp) (steps id added)

/-- The transaction after these steps. -/
def transaction (id : Json) (added : Nat) : Transaction :=
  ((session id added).transactions.field? "t").getD (.start .empty)

theorem sorted_ticket (id : Json) : (ticket id).Sorted := by
  rw [Fields.sorted_iff_keys]
  show ["id"].Pairwise (· < ·)
  decide

theorem isOn_steps (id : Json) (added : Nat) : ∀ step ∈ steps id added, step.IsOn model := by
  have hopened : ∀ step ∈ opened id, step.IsOn model := by
    simp [opened, Session.Step.IsOn, sorted_ticket]
  intro step hstep
  rcases List.mem_append.1 hstep with hstep | hstep
  · exact hopened step hstep
  · rw [List.eq_of_mem_replicate hstep]
    exact ⟨rfl, Fields.sorted_iff_keys.2 .nil⟩

theorem isReachable_transaction {id : Json} {added : Nat}
    (h : (session id added).transactions.field? "t" = some (transaction id added)) :
    (transaction id added).IsReachable model :=
  ⟨fun _ => stamp, steps id added, "t", isOn_steps id added, h⟩

end Tickets

/-- Behind a ticket with the text of 41 and another one that was added, the next ticket is 43. -/
theorem serial_isFresh_tickets :
    ∃ tx', (Tickets.transaction (.str "41") 1).persist Tickets.entity [] .insert Tickets.stamp =
        .ok (Tickets.ticket (.nat 43), tx') ∧
      (Tickets.transaction (.str "41") 1).SerialIsFresh Tickets.entity Tickets.number
        (Tickets.ticket (.nat 43)) ∧
      (tx'.flush Tickets.model).2 = .ok () := by
  have hpersist : (Tickets.transaction (.str "41") 1).persist Tickets.entity [] .insert
      Tickets.stamp = .ok (Tickets.ticket (.nat 43), (Tickets.transaction (.str "41") 1).stage
        (.insert "ticket" ⟨["43"]⟩ (Tickets.ticket (.nat 43)))) := by rfl
  have hvalues : (Tickets.transaction (.str "41") 1).columnValues Tickets.entity "id" =
      [.str "41", .nat 42] := by rfl
  have hflush : ((Tickets.transaction (.str "41") 1).flush Tickets.model).2 = .ok () := by rfl
  obtain ⟨-, hsmall, hfits⟩ := Transaction.serial_isFresh_iff
    (Tickets.isReachable_transaction rfl) rfl rfl (Or.inr rfl) rfl hpersist
  have hread : ∀ v ∈ [Json.str "41", .nat 42], ∀ d ∈ asNumber? v, d.truncate < 2 ^ 53 := by
    decide +kernel
  have hfresh := hsmall fun v hv d hd => hread v (hvalues ▸ hv) d hd
  exact ⟨_, hpersist, hfresh, (hfits (by decide) hfresh).trans hflush⟩

/-- Serials are not always fresh: as a double the ticket 2^53 + 1 counts for 2^53, so that its
    number is made up again, and a flush refuses the new ticket. -/
theorem not_serial_isFresh :
    ¬∀ (m : Model) (tx tx' : Transaction) (e : Entity) (c : Column) (r row : Record)
      (stamp : Stamp), tx.IsReachable m → m.entity? e.name = some e →
      e.generatedKey? = some c → c.keyType = some .int ∨ c.keyType = some .bigInt →
      ((e.columnFields r).get c.name).isNull = true →
      tx.persist e r .insert stamp = .ok (row, tx') →
      (∀ e ∈ m.entities, updatedAt ∉ e.primaryKey) →
      tx.SerialIsFresh e c row ∧ ((tx.flush m).2 = .ok () → (tx'.flush m).2 = .ok ()) := by
  intro h
  have hpersist : (Tickets.transaction (.nat 9007199254740993) 0).persist Tickets.entity [] .insert
      Tickets.stamp = .ok (Tickets.ticket (.nat 9007199254740993),
        (Tickets.transaction (.nat 9007199254740993) 0).stage (.insert "ticket"
          ⟨["9007199254740993"]⟩ (Tickets.ticket (.nat 9007199254740993)))) := by rfl
  obtain ⟨hfresh, -⟩ := h Tickets.model _ _ Tickets.entity Tickets.number [] _ Tickets.stamp
    (Tickets.isReachable_transaction rfl) rfl rfl (Or.inr rfl) rfl hpersist (by decide)
  have hseen : Tickets.ticket (.nat 9007199254740993) ∈
      (Tickets.transaction (.nat 9007199254740993) 0).seenRows Tickets.entity :=
    List.mem_singleton_self _
  exact hfresh.apart _ hseen rfl

end Depot
