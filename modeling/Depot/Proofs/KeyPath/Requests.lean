import Depot.Proofs.Json.Fields
import Depot.Proofs.KeyPath.Routes
import Mathlib.Data.List.Nodup

/-!
# What key paths take from requests

The fields that identify the instance of a request are those of the entries of a key path, set one
after the other: each sets its column to the value of its parameter. The names of the parameters are
different, but two entries may have one column, and then the later one takes the place of the
earlier one.

* `KeyPathEntry.value?`: the value that an entry takes from a request.
* `KeyPath.Token.IsMatched`: whether a parameter has a value that its group matches as a whole.
* `KeyPath.AgreeOnColumns`: whether entries of one column take the same value.

Results:
* `fieldsOf_eq_ok_iff`: when all entries find their values, and the fields they set.
* `ofList_holds_iff`: a record has all fields that it was made of exactly if those of one key are
  the same.
* `agreeOnColumns_of_nodup`: entries with different columns.
* `fields_keep_params_iff`: which requests identify an instance, and when every parameter counts.
* `not_fields_keep_params`: a parameter may be ignored.
-/

namespace Depot

/-! ## Records made of fields -/

namespace Fields

variable {α : Type} {fs : List (String × α)} {key : String} {v : α}

theorem field?_ofList (fs : List (String × α)) (key : String) :
    (ofList fs).field? key = field? fs.reverse key := by
  rw [ofList, field?_overlay]
  simp

theorem mem_of_field?_ofList (h : (ofList fs).field? key = some v) : (key, v) ∈ fs := by
  rw [field?_ofList] at h
  exact List.mem_reverse.1 (mem_of_field? h)

theorem isSome_field?_ofList (h : (key, v) ∈ fs) : ((ofList fs).field? key).isSome = true := by
  rw [field?_ofList, Option.isSome_iff_ne_none]
  intro hnone
  exact field?_eq_none_iff.1 hnone _ (List.mem_reverse.2 h) rfl

/-- A record has all fields that it was made of exactly if those of one key are the same. -/
theorem ofList_holds_iff : (∀ f ∈ fs, (ofList fs).field? f.1 = some f.2) ↔
    ∀ f ∈ fs, ∀ g ∈ fs, f.1 = g.1 → f.2 = g.2 := by
  constructor
  · intro h f hf g hg hkey
    have hfield := h f hf
    rw [hkey, h g hg] at hfield
    exact (Option.some.inj hfield).symm
  · intro h f hf
    obtain ⟨v, hv⟩ := Option.isSome_iff_exists.1 (isSome_field?_ofList hf)
    rw [hv, h f hf _ (mem_of_field?_ofList hv) rfl]

end Fields

/-! ## Entries -/

/-- A value as it is looked up: a lone underscore may stand for the empty text. -/
def KeyPath.shown (underscoreAsEmpty : Bool) (value : String) : String :=
  if underscoreAsEmpty && value == "_" then "" else value

namespace KeyPathEntry

variable {params : List (String × String)} {underscore : Bool} {e : KeyPathEntry}

/-- The value that an entry takes from a request. -/
def value? (params : List (String × String)) (underscore : Bool) (e : KeyPathEntry) : Option Json :=
  (KeyPath.param? params e.param).map fun value => .str (KeyPath.shown underscore value)

/-- Whether a request has a value for an entry, which its pattern matches if it has one. -/
def Admits (params : List (String × String)) (e : KeyPathEntry) : Prop :=
  ∃ value, KeyPath.param? params e.param = some value ∧
    ∀ m, e.matcher = some m → m.isMatch value = true

/-- The field that an entry sets; without a value it would be null. -/
def field (params : List (String × String)) (underscore : Bool) (e : KeyPathEntry) :
    String × Json := (e.column, (e.value? params underscore).getD .null)

theorem Admits.value?_eq (h : e.Admits params) :
    e.value? params underscore = some (e.field params underscore).2 := by
  obtain ⟨value, hvalue, -⟩ := h
  simp [field, value?, hvalue]

end KeyPathEntry

namespace KeyPath

variable {resource : String} {params : List (String × String)} {underscore : Bool}
variable {entries : List KeyPathEntry} {sofar r : Record}

/-- Entries have fields if a request has values for all of them, and the fields are theirs. -/
theorem fieldsOf_eq_ok_iff :
    fieldsOf resource params underscore sofar entries = .ok r ↔
      (∀ e ∈ entries, e.Admits params) ∧
        r = sofar.overlay (entries.map (·.field params underscore)) := by
  induction entries generalizing sofar with
  | nil => simp [fieldsOf, Fields.overlay, eq_comm]
  | cons e entries ih =>
    rw [fieldsOf, List.forall_mem_cons]
    cases hvalue : param? params e.param with
    | none => simp [KeyPathEntry.Admits, hvalue]
    | some value =>
      have hadmits : e.Admits params ↔ (e.matcher.map (·.isMatch value)).getD true = true := by
        simp only [KeyPathEntry.Admits, hvalue, Option.some.injEq, exists_eq_left']
        cases e.matcher <;> simp
      have hfield : e.field params underscore = (e.column, .str (shown underscore value)) := by
        simp [KeyPathEntry.field, KeyPathEntry.value?, hvalue]
      dsimp only
      by_cases hmatch : (e.matcher.map (·.isMatch value)).getD true = true
      · rw [if_pos hmatch, ih, hadmits, List.map_cons, hfield]
        simp [hmatch, Fields.overlay, shown]
      · rw [if_neg hmatch]
        exact iff_of_false nofun fun h => hmatch (hadmits.1 h.1.1)

/-! ## Groups -/

/-- Whether a request has a value for a token, and the group of the token, if it has one, matches
    this value from its start to its end. -/
def Token.IsMatched (params : List (String × String)) (t : Token) : Prop :=
  ∃ value, param? params (String.ofList t.name) = some value ∧
    ∀ g, t.group = some g →
      ∃ m, Pattern.parse? ("^(?:".toList ++ g ++ ")$".toList) = some m ∧ m.isMatch value = true

/-- An entry admits what its token matches. -/
theorem Token.Yields.admits_iff {t : Token} {e : KeyPathEntry} (h : t.Yields e)
    (ht : t.Compiles) : e.Admits params ↔ t.IsMatched params := by
  rw [KeyPathEntry.Admits, Token.IsMatched, h.param, h.matcher]
  apply exists_congr
  intro value
  apply and_congr_right
  intro _
  cases hgroup : t.group with
  | none => simp
  | some g =>
    obtain ⟨m, hm⟩ := Option.isSome_iff_exists.1 (ht g hgroup)
    have hparse : Pattern.parse? ("^(?:".toList ++ g ++ ")$".toList) = some m := hm
    simp only [Option.bind_some, hm, Option.some.injEq, forall_eq', hparse, exists_eq_left']

theorem forall_admits_iff {ts : List Token} (h : List.Forall₂ Token.Yields ts entries)
    (hts : ∀ t ∈ ts, t.Compiles) :
    (∀ e ∈ entries, e.Admits params) ↔ ∀ t ∈ ts, t.IsMatched params := by
  induction h with
  | nil => simp
  | @cons t e ts entries hyields h ih =>
    obtain ⟨ht, hts⟩ := List.forall_mem_cons.1 hts
    rw [List.forall_mem_cons, List.forall_mem_cons, hyields.admits_iff ht, ih hts]

/-! ## Columns -/

/-- Whether entries of one column take the same value from a request. -/
def AgreeOnColumns (params : List (String × String)) (underscore : Bool)
    (entries : List KeyPathEntry) : Prop :=
  ∀ e ∈ entries, ∀ e' ∈ entries, e.column = e'.column →
    e.value? params underscore = e'.value? params underscore

theorem agreeOnColumns_of_nodup (h : (entries.map (·.column)).Nodup) :
    AgreeOnColumns params underscore entries := by
  intro e he e' he' hcolumn
  rw [List.inj_on_of_nodup_map h he he' hcolumn]

/-- All entries find their values in the fields exactly if those of one column agree. -/
theorem fields_hold_iff (h : ∀ e ∈ entries, e.Admits params) :
    (∀ e ∈ entries, (Fields.ofList (entries.map (·.field params underscore))).field? e.column =
        e.value? params underscore) ↔ AgreeOnColumns params underscore entries := by
  have hholds := @Fields.ofList_holds_iff _ (entries.map (·.field params underscore))
  simp only [List.forall_mem_map] at hholds
  have hvalue : ∀ e ∈ entries,
      e.value? params underscore = some (e.field params underscore).2 :=
    fun e he => (h e he).value?_eq
  constructor
  · intro hfields e he e' he' hcolumn
    rw [hvalue e he, hvalue e' he']
    exact congrArg some (hholds.1 (fun e he => (hfields e he).trans (hvalue e he)) e he e' he'
      hcolumn)
  · intro hagree e he
    rw [hvalue e he]
    refine hholds.2 (fun e he e' he' hcolumn => ?_) e he
    have hsame := hagree e he e' he' hcolumn
    rw [hvalue e he, hvalue e' he'] at hsame
    exact Option.some.inj hsame

/-! ## Requests -/

/-- A request identifies an instance exactly if it has a value for each parameter of the key path,
    which the group of the parameter matches as a whole if it has one. Every field is then that of
    an entry, and every entry finds its value in the field of its column if and only if entries of
    one column take the same value. -/
theorem fields_keep_params_iff {path : String} {k : KeyPath} (h : parse path = .ok k)
    (resource : String) (params : List (String × String)) (underscore : Bool) :
    ((∃ r, k.fields resource params underscore = .ok r) ↔
      ∀ t ∈ tokens (segments k.raw.toList), t.IsMatched params) ∧
    List.Forall₂ Token.Yields (tokens (segments k.raw.toList)) k.entries ∧
    ∀ r, k.fields resource params underscore = .ok r →
      (∀ column value, r.field? column = some value →
        ∃ e ∈ k.entries, e.column = column ∧ e.value? params underscore = some value) ∧
      ((∀ e ∈ k.entries, r.field? e.column = e.value? params underscore) ↔
        AgreeOnColumns params underscore k.entries) := by
  obtain ⟨-, -, hcompiles, hyields⟩ := resolve_eq_ok_iff.1 (of_parse h).1
  have hok (r : Record) : k.fields resource params underscore = .ok r ↔
      (∀ e ∈ k.entries, e.Admits params) ∧
        r = Fields.ofList (k.entries.map (·.field params underscore)) := fieldsOf_eq_ok_iff
  refine ⟨?_, hyields, fun r hr => ?_⟩
  · rw [← forall_admits_iff hyields hcompiles]
    simp [hok]
  · obtain ⟨hadmits, rfl⟩ := (hok r).1 hr
    refine ⟨fun column value hvalue => ?_, fields_hold_iff hadmits⟩
    obtain ⟨e, he, hfield⟩ := List.mem_map.1 (Fields.mem_of_field?_ofList hvalue)
    refine ⟨e, he, congrArg Prod.fst hfield, ?_⟩
    rw [(hadmits e he).value?_eq, hfield]

end KeyPath

/-! ## Documents -/

/-! Documents of an organisation, whose names consist of small letters. -/
namespace Documents

open KeyPath

def path : String := ":org<org_id>/:slug([a-z]+)<name>"

def request : List (String × String) := [("org", "_"), ("slug", "readme")]

/-- The tokens of the path and the columns of its entries. -/
theorem tokens_path : (parse path).toOption.map (fun k =>
    (tokens (segments k.raw.toList), k.entries.map (·.column))) =
    some ([⟨"org".toList, none, some "org_id".toList⟩,
      ⟨"slug".toList, some "([a-z]+)".toList, some "name".toList⟩], ["org_id", "name"]) := by
  decide +kernel

/-- The group of the names matches the name that is asked for. -/
theorem isMatch_group : (Pattern.parse? ("^(?:".toList ++ "([a-z]+)".toList ++ ")$".toList)).any
    (·.isMatch "readme") = true := by
  simp only [Pattern.isMatch_eq]
  decide +kernel

theorem isMatched_request : ∀ t ∈ [(⟨"org".toList, none, some "org_id".toList⟩ : KeyPath.Token),
    ⟨"slug".toList, some "([a-z]+)".toList, some "name".toList⟩], t.IsMatched request := by
  rw [List.forall_mem_cons, List.forall_mem_singleton]
  refine ⟨⟨"_", rfl, nofun⟩, "readme", rfl, ?_⟩
  rintro g ⟨⟩
  exact (Option.any_eq_true _ _).1 isMatch_group

end Documents

open KeyPath Documents in
/-- A request for a document identifies it, and both of its parameters count. -/
theorem fields_keep_params_documents : ∃ k r, parse path = .ok k ∧
    k.fields "document" request true = .ok r ∧
    ∀ e ∈ k.entries, r.field? e.column = e.value? request true := by
  have htokens := tokens_path
  obtain ⟨k, hk⟩ : ∃ k, parse path = .ok k := by
    cases hk : parse path with
    | error failure => simp [hk, Except.toOption] at htokens
    | ok k => exact ⟨k, rfl⟩
  simp only [hk, Except.toOption, Option.map_some, Option.some.injEq, Prod.mk.injEq] at htokens
  obtain ⟨hok, -, hkeep⟩ := fields_keep_params_iff hk "document" request true
  rw [htokens.1] at hok
  obtain ⟨r, hr⟩ := hok.2 isMatched_request
  refine ⟨k, r, hk, hr, (hkeep r hr).2.2 (agreeOnColumns_of_nodup ?_)⟩
  rw [htokens.2]
  decide

/-! ## Notes -/

/-! Notes of an owner: both parameters stand for the column of the second one. -/
namespace Notes

open KeyPath

def path : String := ":owner<id>/:id"

def request : List (String × String) := [("owner", "ann"), ("id", "7")]

/-- The fields of the request, and what the entries take from it. -/
theorem fields_path : (parse path).toOption.map (fun k =>
    ((k.fields "note" request false).toOption,
      k.entries.map fun e => (e.column, e.value? request false))) =
    some (some [("id", .str "7")], [("id", some (.str "ann")), ("id", some (.str "7"))]) := by
  rfl

end Notes

open KeyPath Notes in
/-- A request may identify an instance although one of its parameters is ignored. -/
theorem not_fields_keep_params : ¬∀ (path resource : String) (k : KeyPath)
    (params : List (String × String)) (underscore : Bool) (r : Record), parse path = .ok k →
      k.fields resource params underscore = .ok r →
      ∀ e ∈ k.entries, r.field? e.column = e.value? params underscore := by
  intro h
  have hfields := fields_path
  obtain ⟨k, hk⟩ : ∃ k, parse Notes.path = .ok k := by
    cases hk : parse Notes.path with
    | error failure => simp [hk, Except.toOption] at hfields
    | ok k => exact ⟨k, rfl⟩
  simp only [hk, Except.toOption, Option.map_some, Option.some.injEq, Prod.mk.injEq] at hfields
  obtain ⟨hfields, hentries⟩ := hfields
  cases hr : k.fields "note" request false with
  | error failure => simp [hr] at hfields
  | ok r =>
    simp only [hr, Option.some.injEq] at hfields
    have howner : (("id", some (.str "ann")) : String × Option Json) ∈
        k.entries.map fun e => (e.column, e.value? request false) := by
      rw [hentries]
      exact List.mem_cons_self
    obtain ⟨e, he, hsame⟩ := List.mem_map.1 howner
    have hfield := h Notes.path "note" k request false r hk hr e he
    rw [(Prod.mk.inj hsame).1, (Prod.mk.inj hsame).2, hfields] at hfield
    exact absurd hfield (by decide)

end Depot
