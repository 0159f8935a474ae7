import Depot.Proofs.Controller.Lookup
import Depot.Proofs.Controller.Noninterference
import Depot.Proofs.Controller.Replacement
import Depot.Proofs.Store.References

/-!
# Requests without dangling references

A model is checked when it is resolved, the options of a resource when its controller is built, and
the relations and the order that a request names before its transaction begins. Between them they
cover every name that an operation uses, so that no operation fails because one is missing.

* `Controller.IsGrounded`: a controller whose names are there.
* `Hooks.AreGrounded`: hooks that do not use other names.

Results:
* `isGrounded_of_build`: the controllers that can be built on a resolved model.
* `IsGrounded.of_planChildren`: collections are replaced along sound relations.
* `isGrounded_getOne`, `isGrounded_index`, `isGrounded_createOne`, `isGrounded_updateOne`,
  `isGrounded_deleteOne`: the calls of the operations.
* `requests_runGrounded`: no operation refers to what is not there.
-/

namespace Depot

/-- Programs on the transaction of a request that use names that are there. -/
abbrev Program.IsGroundedIn {α : Type} (m : Model) (scope : Record) (p : Program .transaction α) :
    Prop :=
  p.IsGrounded (TransactionCall.IsGrounded m scope)

/-- Hooks that use names that are there, and that do not fail because of others. -/
structure Hooks.AreGrounded (m : Model) (scope : Request → Record) (h : Hooks) : Prop where
  sanitize : ∀ f, h.sanitize = some f → ∀ r body creating,
    (f r body creating).IsGroundedIn m (scope r)
  createLoader : ∀ f, h.createLoader = some f → ∀ r, (f r).IsGroundedIn m (scope r)
  afterLoad : ∀ f ∈ h.afterLoad, ∀ r records, (f r records).IsGrounded fun _ => True
  preSave : ∀ f ∈ h.preSave, ∀ r record creating, (f r record creating).IsGroundedIn m (scope r)
  postSave : ∀ f ∈ h.postSave, ∀ r record creating, (f r record creating).IsGroundedIn m (scope r)
  preDelete : ∀ f ∈ h.preDelete, ∀ r records, (f r records).IsGroundedIn m (scope r)
  postDelete : ∀ f ∈ h.postDelete, ∀ r records, (f r records).IsGroundedIn m (scope r)

theorem Hooks.areGrounded_none (m : Model) (scope : Request → Record) :
    Hooks.none.AreGrounded m scope :=
  ⟨nofun, nofun, nofun, nofun, nofun, nofun, nofun⟩

/-! ## Failures before a transaction -/

theorem isGrounded_fieldsOf {resource : String} {params : List (String × String)}
    {underscore : Bool} {sofar : Record} {entries : List KeyPathEntry} {e : RequestError}
    (h : KeyPath.fieldsOf resource params underscore sofar entries = .error e) : e.IsGrounded := by
  induction entries generalizing sofar with
  | nil => cases h
  | cons entry rest ih =>
    rw [KeyPath.fieldsOf] at h
    split at h
    · cases h
      trivial
    · split at h
      · exact ih h
      · cases h
        trivial

theorem isGrounded_single {r : Request} {resource key : String} {e : RequestError}
    (h : r.single resource key = .error e) : e.IsGrounded := by
  rw [Request.single] at h
  split at h
  · cases h
  · cases h
  · cases h
    trivial

theorem isGrounded_natural {r : Request} {resource key : String} {e : RequestError}
    (h : r.natural resource key = .error e) : e.IsGrounded := by
  rcases bind_eq_error_iff.1 h with h | ⟨text, -, h⟩
  · exact isGrounded_single h
  · dsimp only at h
    split at h
    · cases h
    · cases h
    · split at h
      · cases h
      · cases h
        trivial

namespace Controller

variable {c : Controller} {r : Request}

theorem isGrounded_bodyObject {e : RequestError} (h : c.bodyObject r = .error e) :
    e.IsGrounded := by
  rw [bodyObject] at h
  split at h
  · cases h
    trivial
  · cases h
    trivial
  · cases h
  · cases h
    trivial

theorem isGrounded_populateNames {usual : List String} {e : RequestError}
    (h : c.populateNames r usual = .error e) : e.IsGrounded := by
  rw [populateNames] at h
  split at h
  · cases h
  · split at h
    · cases h
    · cases h
      trivial

theorem isGrounded_keySelection {e : RequestError} (h : c.keySelection r = .error e) :
    e.IsGrounded := by
  rcases bind_eq_error_iff.1 h with h | ⟨fields, -, h⟩
  · exact isGrounded_fieldsOf h
  · cases h

theorem isGrounded_searchCondition {field : String} {e : RequestError}
    (h : c.searchCondition r field = .error e) : e.IsGrounded := by
  rcases bind_eq_error_iff.1 h with h | ⟨raw, -, h⟩
  · exact isGrounded_single h
  · cases raw with
    | none => cases h
    | some raw =>
      dsimp only at h
      split at h
      · cases h
      · cases h
        trivial

theorem isGrounded_withSearch {fields : List String} {s : Selection} {e : RequestError}
    (h : c.withSearch r s fields = .error e) : e.IsGrounded := by
  induction fields generalizing s with
  | nil => cases h
  | cons field fields ih =>
    rcases bind_eq_error_iff.1 h with h | ⟨condition, -, h⟩
    · exact isGrounded_searchCondition h
    · exact ih h

theorem isGrounded_requestedSort {e : RequestError} (h : c.requestedSort r = .error e) :
    e.IsGrounded := by
  rcases bind_eq_error_iff.1 h with h | ⟨raw, -, h⟩
  · exact isGrounded_single h
  · cases raw with
    | none => cases h
    | some raw =>
      dsimp only at h
      split at h
      · cases h
        trivial
      · split at h
        · cases h
        · cases h
          trivial

theorem isGrounded_search {e : RequestError} (h : c.search r = .error e) : e.IsGrounded := by
  rcases bind_eq_error_iff.1 h with h | ⟨offset, -, h⟩
  · exact isGrounded_natural h
  rcases bind_eq_error_iff.1 h with h | ⟨limit, -, h⟩
  · exact isGrounded_natural h
  rcases bind_eq_error_iff.1 h with h | ⟨selection, -, h⟩
  · exact isGrounded_withSearch h
  rcases bind_eq_error_iff.1 h with h | ⟨sort, -, h⟩
  · exact isGrounded_requestedSort h
  rcases bind_eq_error_iff.1 h with h | ⟨names, -, h⟩
  · exact isGrounded_populateNames h
  · cases h

theorem isGrounded_childRows {field : String} {elements : List Json} {e : RequestError}
    (h : c.childRows field elements = .error e) : e.IsGrounded := by
  induction elements with
  | nil => cases h
  | cons v rest ih =>
    cases v with
    | obj row =>
      rcases bind_eq_error_iff.1 h with h | ⟨rows, -, h⟩
      · exact ih h
      · cases h
    | _ =>
      cases h
      trivial

theorem isGrounded_planChildren {current : Record} {field : String} {payload : Json}
    {e : RequestError} (h : c.planChildren current field payload = .error e) : e.IsGrounded := by
  unfold planChildren at h
  split at h
  · split at h
    · split at h
      · cases h
      · rcases bind_eq_error_iff.1 h with h | ⟨rows, -, h⟩
        · exact isGrounded_childRows h
        · dsimp only at h
          split at h
          · cases h
          · cases h
            trivial
    · cases h
  · cases h

theorem isGrounded_assignFields {stored : Option Record} {record body : Record} {e : RequestError}
    (h : c.assignFields stored record body = .error e) : e.IsGrounded := by
  induction body generalizing record with
  | nil => cases h
  | cons f rest ih =>
    rcases bind_eq_error_iff.1 h with h | ⟨plan, -, h⟩
    · exact isGrounded_planChildren h
    rcases bind_eq_error_iff.1 h with h | ⟨assigned, -, h⟩
    · exact ih h
    · cases h

theorem isGrounded_checked {result : Except Violation Unit} {e : RequestError}
    (h : c.checked result = .error e) : e.IsGrounded := by
  cases result with
  | ok u => cases h
  | error v =>
    cases h
    trivial

/-! ## What controllers refer to -/

/-- What a controller refers to is there: its entity, the columns of its key path, of its search
and of its order, and the relations that it populates. -/
structure IsGrounded (c : Controller) : Prop where
  consistent : c.model.IsConsistent
  known : c.model.entity? c.entity.name = some c.entity
  keyPath : ∀ entry ∈ c.keyPath.entries, c.entity.hasColumn entry.column = true
  searchable : ∀ field ∈ c.options.searchable, c.entity.hasColumn field = true
  defaultSort : ∀ k ∈ c.defaultSort, c.entity.hasColumn k.field = true
  one : ∀ name ∈ c.options.populate.one, (c.entity.relation? name).isSome = true
  many : ∀ name ∈ c.options.populate.many, (c.entity.relation? name).isSome = true

/-- Columns among which none is missing are there. -/
theorem hasColumn_of_find? {e : Entity} {names : List String}
    (h : names.find? (!e.hasColumn ·) = none) : ∀ name ∈ names, e.hasColumn name = true := by
  intro name hname
  have hmissing := List.find?_eq_none.1 h name hname
  rwa [Bool.not_eq_true', Bool.not_eq_false] at hmissing

theorem of_checkedKeyPath {resource path : String} {e : Entity} {k : KeyPath}
    (h : checkedKeyPath resource e path = .ok k) :
    ∀ entry ∈ k.entries, e.hasColumn entry.column = true := by
  rw [checkedKeyPath] at h
  split at h
  · cases h
  · obtain ⟨u₁, -, h⟩ := bind_eq_ok_iff.1 h
    obtain ⟨u₂, hcolumns, h⟩ := bind_eq_ok_iff.1 h
    cases h
    intro entry hentry
    exact hasColumn_of_find? (refuse_eq_ok hcolumns) _ (List.mem_map_of_mem hentry)

theorem isGrounded_of_build {config : ModelConfig} {m : Model} {resource entity : String}
    {o : Options} (hm : config.resolve = .ok m) (hc : build m resource entity o = .ok c) :
    c.IsGrounded := by
  obtain ⟨rfl, hentity, rfl, hpath, hsearchable, hpopulate, hsort⟩ := of_build hc
  have hrelations := isSome_relation?_of_find? hpopulate
  exact {
    consistent := isConsistent_of_resolve hm
    known := entity?_name hentity
    keyPath := of_checkedKeyPath hpath
    searchable := hasColumn_of_find? hsearchable
    defaultSort := fun k hk => hasColumn_of_find? hsort _ (List.mem_map_of_mem hk)
    one := fun name hname => hrelations name (List.mem_append_left _ hname)
    many := fun name hname => hrelations name (List.mem_append_right _ hname) }

theorem IsGrounded.isSound (hc : c.IsGrounded) {relation : Relation}
    (h : relation ∈ c.entity.relations) : c.model.IsSound c.entity relation :=
  hc.consistent.relation c.entity (entity?_mem hc.known) relation h

theorem IsGrounded.populates (hc : c.IsGrounded) {names : List String}
    (h : ∀ name ∈ names, (c.entity.relation? name).isSome = true) :
    c.model.Populates c.entity names := by
  intro name hname
  obtain ⟨relation, hrelation⟩ := Option.isSome_iff_exists.1 (h name hname)
  exact ⟨relation, hrelation, hc.isSound (relation?_mem hrelation).1⟩

/-- A collection is replaced along a sound relation, and its elements are of the target of this
    relation. -/
theorem IsGrounded.of_planChildren (hc : c.IsGrounded) {current : Record} {field : String}
    {payload : Json} {p : ChildPlan} (h : c.planChildren current field payload = .ok (some p)) :
    c.model.IsSound c.entity p.relation ∧ c.model.entity? p.relation.target = some p.target := by
  obtain ⟨_, _, _, -, hmany, htarget, -⟩ := planChildren_eq_some h
  exact ⟨hc.isSound (relation?_mem (toMany?_eq_some hmany).1).1, htarget⟩

/-! ## What requests refer to -/

theorem isGrounded_selection (hc : c.IsGrounded) {s : Selection} (h : c.keySelection r = .ok s) :
    s.IsGrounded c.entity (c.options.scope r) where
  fields := by
    intro f hf
    rcases mem_keySelection h f hf with hscope | ⟨entry, hentry, hcolumn⟩
    · exact .inr hscope
    · exact .inl (hcolumn ▸ hc.keyPath entry hentry)
  conditions := by
    rw [conditions_keySelection h]
    exact nofun

theorem mem_conditions_withSearch {fields : List String} {s s' : Selection}
    (h : c.withSearch r s fields = .ok s') :
    ∀ f ∈ s'.conditions, f ∈ s.conditions ∨ f.1 ∈ fields := by
  induction fields generalizing s with
  | nil =>
    cases h
    exact fun f hf => .inl hf
  | cons field fields ih =>
    obtain ⟨condition?, -, h⟩ := bind_eq_ok_iff.1 h
    intro f hf
    rcases ih h f hf with hf | hf
    · cases condition? with
      | none => exact .inl hf
      | some condition =>
        rcases List.mem_append.1 hf with hf | hf
        · exact .inl hf
        · rw [List.mem_singleton.1 hf]
          exact .inr List.mem_cons_self
    · exact .inr (List.mem_cons_of_mem _ hf)

theorem hasColumn_of_requestedSort (hc : c.IsGrounded) {keys : List SortKey}
    (h : c.requestedSort r = .ok keys) : ∀ k ∈ keys, c.entity.hasColumn k.field = true := by
  obtain ⟨raw, -, h⟩ := bind_eq_ok_iff.1 h
  cases raw with
  | none =>
    cases h
    exact hc.defaultSort
  | some raw =>
    dsimp only at h
    split at h
    · cases h
    · split at h
      · rename_i hfields
        cases h
        intro k hk
        exact hasColumn_of_find? hfields _ (List.mem_map_of_mem hk)
      · cases h

/-- A search refers to columns, to fields of the scope, and to relations of the entity. -/
theorem isGrounded_findPage_search (hc : c.IsGrounded) {s : Search} (h : c.search r = .ok s) :
    (TransactionCall.findPage c.entity s.selection s.options).IsGrounded c.model
      (c.options.scope r) := by
  obtain ⟨_, _, names, -, -, hselection, hsort, hnames, hoptions⟩ := search_eq_ok h
  refine ⟨hc.known, ⟨?_, ?_⟩, ?_, hasColumn_of_requestedSort hc hsort⟩
  · rw [fields_withSearch hselection]
    exact fun f hf => .inr hf
  · intro f hf
    rcases mem_conditions_withSearch hselection f hf with hf | hf
    · cases hf
    · exact hc.searchable f.1 hf
  · rw [hoptions]
    exact hc.populates (isSome_relation?_of_populateNames hc.many hnames)

theorem mem_keyFields {e : Entity} {record : Record} {f : String × Json}
    (h : f ∈ e.keyFields record) : f.1 ∈ e.primaryKey := by
  rcases Fields.mem_overlay h with h | h
  · obtain ⟨k, hk, hfield⟩ := List.mem_filterMap.1 h
    obtain ⟨v, -, rfl⟩ := Option.map_eq_some_iff.1 hfield
    exact hk
  · cases h

/-- The targets of the plans of a body are entities that the model knows. -/
theorem known_of_assignFields {stored : Option Record} {record body out : Record}
    {plans : List ChildPlan} (h : c.assignFields stored record body = .ok (out, plans)) :
    ∀ p ∈ plans, c.model.entity? p.target.name = some p.target := by
  intro p hp
  obtain ⟨-, -, htarget⟩ := of_mem_plans h p hp
  exact entity?_name htarget

/-! ## Programs -/

theorem isGrounded_perform (c : Controller) {scope : Record} (call : TransactionCall)
    (h : call.IsGrounded c.model scope) : (c.perform call).IsGroundedIn c.model scope :=
  Program.isGrounded_ask c.resource h

theorem isGrounded_chain {I : Interface} {grounded : I.Call → Prop} {α : Type}
    {fs : List (α → Program I α)} (hfs : ∀ f ∈ fs, ∀ a, (f a).IsGrounded grounded) (a : α) :
    (chain a fs).IsGrounded grounded := by
  induction fs generalizing a with
  | nil => exact Program.isGrounded_pure a
  | cons f fs ih =>
    exact (hfs f List.mem_cons_self a).bind (ih fun g hg => hfs g (List.mem_cons_of_mem _ hg))

theorem isGrounded_persistAll {scope : Record} {e : Entity}
    (he : c.model.entity? e.name = some e) (mode : WriteMode) (rows : List Record) :
    (c.persistAll e mode rows).IsGroundedIn c.model scope := by
  induction rows with
  | nil => exact Program.isGrounded_pure []
  | cons row rows ih =>
    exact (isGrounded_perform c (.persist e row mode) he).bind fun saved =>
      ih.bind fun others => Program.isGrounded_pure _

theorem isGrounded_removeAll {scope : Record} {e : Entity}
    (he : c.model.entity? e.name = some e) (rows : List Record) :
    (c.removeAll e rows).IsGroundedIn c.model scope := by
  induction rows with
  | nil => exact Program.isGrounded_pure ()
  | cons row rows ih => exact (isGrounded_perform c (.remove e row) he).bind fun _ => ih

theorem isGrounded_writePlans {scope : Record} {plans : List ChildPlan}
    (hplans : ∀ p ∈ plans, c.model.entity? p.target.name = some p.target) (out : Record) :
    (c.writePlans out plans).IsGroundedIn c.model scope := by
  induction plans generalizing out with
  | nil => exact Program.isGrounded_pure out
  | cons p plans ih =>
    have hp := hplans p List.mem_cons_self
    have hplan (key : Json) : (c.writePlan p key).IsGroundedIn c.model scope :=
      (isGrounded_persistAll hp .update _).bind fun updated =>
        (isGrounded_persistAll hp .insert _).bind fun created =>
          (isGrounded_removeAll hp _).bind fun _ => Program.isGrounded_pure _
    exact (hplan _).bind fun children => ih (fun q hq => hplans q (List.mem_cons_of_mem _ hq)) _

/-! ## Hooks -/

section

variable (hhooks : c.options.hooks.AreGrounded c.model c.options.scope)

include hhooks

theorem isGrounded_afterLoad {I : Interface} {grounded : I.Call → Prop} (records : List Record) :
    ((c.afterLoad r records).quiet : Program I (List Record)).IsGrounded grounded := by
  have hchain : (c.afterLoad r records).IsGrounded fun _ => True := by
    refine isGrounded_chain ?_ records
    intro f hf
    obtain ⟨hook, hhook, rfl⟩ := List.mem_map.1 hf
    exact hhooks.afterLoad hook hhook r
  exact hchain.embed nofun

theorem isGrounded_sanitized (body : Record) (creating : Bool) :
    (c.sanitized r body creating).IsGroundedIn c.model (c.options.scope r) := by
  rw [sanitized]
  cases hsanitize : c.options.hooks.sanitize with
  | none => exact Program.isGrounded_pure body
  | some sanitize => exact hhooks.sanitize sanitize hsanitize r body creating

theorem isGrounded_preloaded : (c.preloaded r).IsGroundedIn c.model (c.options.scope r) := by
  rw [preloaded]
  cases hload : c.options.hooks.createLoader with
  | none => exact Program.isGrounded_pure none
  | some load => exact hhooks.createLoader load hload r

theorem isGrounded_afterDelete (removed : List Record) :
    (afterDelete r removed c.options.hooks.postDelete).IsGroundedIn c.model
      (c.options.scope r) := by
  have hpost := hhooks.postDelete
  generalize c.options.hooks.postDelete = hooks at hpost
  induction hooks with
  | nil => exact Program.isGrounded_pure ()
  | cons hook hooks ih =>
    exact (hpost hook List.mem_cons_self r removed).bind fun _ =>
      ih fun other hother => hpost other (List.mem_cons_of_mem _ hother)

end

/-! ## Work within a transaction -/

section

variable (hc : c.IsGrounded)

include hc

/-- The stored collections of an instance that is created onto are looked up by its key. -/
theorem isGrounded_withCollections {scope : Record} (record body : Record) :
    (c.withCollections record body).IsGroundedIn c.model scope := by
  rw [withCollections]
  split
  · exact Program.isGrounded_pure record
  · refine Program.IsGrounded.bind (isGrounded_perform c (.findOne ..)
      ⟨hc.known, ⟨?_, nofun⟩, ?_⟩) fun stored => Program.isGrounded_pure _
    · intro f hf
      exact .inl (hc.consistent.key c.entity (entity?_mem hc.known) f.1 (mem_keyFields hf))
    · refine hc.populates fun name hname => ?_
      exact isSome_relation?_of_mem_replacedCollections body name (List.mem_filter.1 hname).1

theorem isGrounded_removeFlushed {scope : Record} (records : List Record) :
    (c.removeFlushed records).IsGroundedIn c.model scope := by
  induction records with
  | nil => exact Program.isGrounded_pure ()
  | cons record records ih =>
    exact (isGrounded_perform c (.remove c.entity record) hc.known).bind fun _ =>
      (isGrounded_perform c .flush trivial).bind fun _ => ih

variable (hhooks : c.options.hooks.AreGrounded c.model c.options.scope)

include hhooks

theorem isGrounded_loadOne {names : List String} (hnames : c.model.Populates c.entity names) :
    (c.loadOne r names).IsGroundedIn c.model (c.options.scope r) := by
  refine Program.isGrounded_done_bind (fun _ => isGrounded_keySelection) ?_
  intro s hs
  refine Program.IsGrounded.bind (Program.isGrounded_askWith
    ⟨hc.known, isGrounded_selection hc hs, hnames⟩ ?_) ?_
  · intro e he
    cases e with
    | invalidValue detail => trivial
    | _ => exact isGrounded_ofStore c.resource he
  · intro found
    cases found with
    | none =>
      rintro e ⟨⟩
      trivial
    | some record =>
      refine (isGrounded_afterLoad hhooks [record]).bind ?_
      intro records
      split
      · exact Program.isGrounded_pure _
      · rintro e ⟨⟩
        trivial

theorem isGrounded_save (record : Record) (mode : WriteMode) {plans : List ChildPlan}
    (hplans : ∀ p ∈ plans, c.model.entity? p.target.name = some p.target) (creating : Bool) :
    (c.save r record mode plans creating).IsGroundedIn c.model (c.options.scope r) := by
  refine Program.IsGrounded.bind (isGrounded_chain ?_ record) fun record => ?_
  · intro f hf
    obtain ⟨hook, hhook, rfl⟩ := List.mem_map.1 hf
    exact fun record => hhooks.preSave hook hhook r record creating
  refine Program.IsGrounded.bind ?_ fun saved => isGrounded_chain ?_ saved
  · exact (isGrounded_perform c (.persist c.entity record mode) hc.known).bind fun stored =>
      isGrounded_writePlans hplans _
  · intro f hf
    obtain ⟨hook, hhook, rfl⟩ := List.mem_map.1 hf
    exact fun record => hhooks.postSave hook hhook r record creating

theorem isGrounded_createWork (body : Record) :
    (c.createWork r body (c.options.scope r)).IsGroundedIn c.model (c.options.scope r) := by
  refine Program.IsGrounded.bind (isGrounded_preloaded hhooks) fun existing => ?_
  refine Program.IsGrounded.bind (isGrounded_sanitized hhooks body true) fun body => ?_
  have hrest (stored blank : Record) (mode : WriteMode) :
      Program.IsGroundedIn c.model (c.options.scope r)
        (.done (c.assignFields (some stored) blank body) >>= fun assigned => do
          let record := assigned.1.overlay (c.options.scope r)
          .done (c.checked (validate (c.entity.columnFields record) c.entity.rules))
          c.save r record mode assigned.2 true) := by
    refine Program.isGrounded_done_bind (fun _ => isGrounded_assignFields) ?_
    rintro ⟨record, plans⟩ hassigned
    refine Program.isGrounded_done_bind (fun _ => isGrounded_checked) fun _ _ => ?_
    exact isGrounded_save hc hhooks _ mode (known_of_assignFields hassigned) true
  cases existing with
  | none => exact hrest [] (c.entity.blank []) .insert
  | some existing =>
    exact (isGrounded_withCollections hc existing body).bind fun current =>
      hrest current current .update

theorem isGrounded_updateWork (body : Record) {names : List String}
    (hnames : c.model.Populates c.entity names) :
    (c.updateWork r body names).IsGroundedIn c.model (c.options.scope r) := by
  refine Program.IsGrounded.bind (isGrounded_loadOne hc hhooks hnames) fun record => ?_
  refine Program.IsGrounded.bind (isGrounded_sanitized hhooks body false) fun body => ?_
  refine Program.isGrounded_done_bind (fun _ => isGrounded_checked) fun _ _ => ?_
  refine Program.isGrounded_done_bind (fun _ => isGrounded_assignFields) ?_
  rintro ⟨record, plans⟩ hassigned
  exact isGrounded_save hc hhooks _ .update (known_of_assignFields hassigned) false

theorem isGrounded_deleteWork {names : List String}
    (hnames : c.model.Populates c.entity names) :
    (c.deleteWork r names).IsGroundedIn c.model (c.options.scope r) := by
  refine Program.IsGrounded.bind (isGrounded_loadOne hc hhooks hnames) fun target => ?_
  refine Program.IsGrounded.bind (isGrounded_chain ?_ [target]) fun doomed => ?_
  · intro f hf
    obtain ⟨hook, hhook, rfl⟩ := List.mem_map.1 hf
    exact fun records => hhooks.preDelete hook hhook r records
  · exact (isGrounded_removeFlushed hc doomed).bind fun _ => isGrounded_afterDelete hhooks doomed

end

/-! ## Operations -/

theorem isGrounded_begin {α : Type} {scope : Record} {work : Program .transaction α}
    (h : work.IsGroundedIn c.model scope) :
    (c.begin work).IsGrounded (StoreCall.IsGrounded c.model scope) :=
  (Program.isGrounded_ask c.resource trivial).bind fun _ => h.embed fun _ hcall => hcall

theorem isGrounded_commit {α : Type} {scope : Record} {work : Program .transaction α}
    (h : work.IsGroundedIn c.model scope) :
    (c.commit work).IsGrounded (StoreCall.IsGrounded c.model scope) :=
  (isGrounded_begin h).bind fun _ => (Program.isGrounded_ask c.resource trivial).bind fun _ =>
    Program.isGrounded_pure _

theorem isGrounded_flushed {α : Type} {scope : Record} {work : Program .transaction α}
    (h : work.IsGroundedIn c.model scope) : (c.flushed work).IsGroundedIn c.model scope :=
  h.bind fun _ => (isGrounded_perform c .flush trivial).bind fun _ => Program.isGrounded_pure _

section

variable (hc : c.IsGrounded) (hhooks : c.options.hooks.AreGrounded c.model c.options.scope)
  (r : Request)

include hc hhooks

theorem isGrounded_getOne :
    (c.getOne r).IsGrounded (StoreCall.IsGrounded c.model (c.options.scope r)) :=
  Program.isGrounded_done_bind (fun _ => isGrounded_populateNames) fun _ hnames =>
    isGrounded_begin (isGrounded_loadOne hc hhooks
      (hc.populates (isSome_relation?_of_populateNames hc.one hnames)))

theorem isGrounded_index :
    (c.index r).IsGrounded (StoreCall.IsGrounded c.model (c.options.scope r)) := by
  refine Program.isGrounded_done_bind (fun _ => isGrounded_search) fun s hs => ?_
  refine Program.IsGrounded.bind (isGrounded_begin (Program.isGrounded_askWith
    (isGrounded_findPage_search hc hs) ?_)) fun page => ?_
  · intro e he
    cases e with
    | invalidValue detail => trivial
    | _ => exact isGrounded_ofStore c.resource he
  · exact (isGrounded_afterLoad hhooks page.items).bind fun items => Program.isGrounded_pure _

theorem isGrounded_createOne :
    (c.createOne r).IsGrounded (StoreCall.IsGrounded c.model (c.options.scope r)) :=
  Program.isGrounded_done_bind (fun _ => isGrounded_bodyObject) fun body _ =>
    isGrounded_commit (isGrounded_flushed (isGrounded_createWork hc hhooks body))

/-- An update populates the collections that it replaces beside what it is asked to. -/
theorem isGrounded_updateOne :
    (c.updateOne r).IsGrounded (StoreCall.IsGrounded c.model (c.options.scope r)) := by
  refine Program.isGrounded_done_bind (fun _ => isGrounded_bodyObject) fun body _ => ?_
  refine Program.isGrounded_done_bind (fun _ => isGrounded_populateNames) fun names hnames => ?_
  refine isGrounded_commit (isGrounded_flushed (isGrounded_updateWork hc hhooks body ?_))
  refine hc.populates fun name hname => ?_
  rcases mem_addNames.1 hname with hname | hname
  · exact isSome_relation?_of_populateNames hc.one hnames name hname
  · exact isSome_relation?_of_mem_replacedCollections body name hname

theorem isGrounded_deleteOne :
    (c.deleteOne r).IsGrounded (StoreCall.IsGrounded c.model (c.options.scope r)) :=
  Program.isGrounded_done_bind (fun _ => isGrounded_populateNames) fun _ hnames =>
    isGrounded_commit (isGrounded_deleteWork hc hhooks
      (hc.populates (isSome_relation?_of_populateNames hc.one hnames)))

end

end Controller

/-- No operation of a controller on an accepted model refers to what is not there, whatever the
    database holds: the columns that it looks up, searches and sorts by are columns of its entity,
    the relations that it populates and those along which it replaces collections have a target and
    join columns, and no failure comes of a missing entity or relation. The hooks, if there are
    any, must not do so either. -/
theorem requests_runGrounded {config : ModelConfig} {m : Model} {resource entity : String}
    {o : Options} {c : Controller} (hm : config.resolve = .ok m)
    (hc : Controller.build m resource entity o = .ok c) (hhooks : o.hooks.AreGrounded m o.scope)
    {db : Database} (hdb : db.model = m) (stamps : Stamps) (taken : Nat) (r : Request) :
    c.IsGrounded ∧
      (∀ current field payload p, c.planChildren current field payload = .ok (some p) →
        m.IsSound c.entity p.relation ∧ m.entity? p.relation.target = some p.target) ∧
      (c.getOne r).RunsGrounded stamps m (o.scope r) ⟨db, none, taken⟩ ∧
      (c.index r).RunsGrounded stamps m (o.scope r) ⟨db, none, taken⟩ ∧
      (c.createOne r).RunsGrounded stamps m (o.scope r) ⟨db, none, taken⟩ ∧
      (c.updateOne r).RunsGrounded stamps m (o.scope r) ⟨db, none, taken⟩ ∧
      (c.deleteOne r).RunsGrounded stamps m (o.scope r) ⟨db, none, taken⟩ := by
  have hgrounded := Controller.isGrounded_of_build hm hc
  obtain ⟨rfl, -, rfl, -⟩ := Controller.of_build hc
  have hclient : Client.IsGrounded c.model ⟨db, none, taken⟩ :=
    hdb ▸ Client.isGrounded_of_db db taken
  refine ⟨hgrounded, fun current field payload p => hgrounded.of_planChildren, ?_, ?_, ?_, ?_, ?_⟩
  · exact Program.runsGrounded (Controller.isGrounded_getOne hgrounded hhooks r) hclient stamps
  · exact Program.runsGrounded (Controller.isGrounded_index hgrounded hhooks r) hclient stamps
  · exact Program.runsGrounded (Controller.isGrounded_createOne hgrounded hhooks r) hclient stamps
  · exact Program.runsGrounded (Controller.isGrounded_updateOne hgrounded hhooks r) hclient stamps
  · exact Program.runsGrounded (Controller.isGrounded_deleteOne hgrounded hhooks r) hclient stamps

/-- The update of a cart populates its items, which are then replaced. -/
theorem runGrounded_carts :
    .within (.findOne Carts.cart (.ofFields [("id", .str "a")]) ["items"]) ∈
        (Carts.controller.updateOne Carts.request).calls (Client.answer Carts.stamps) Carts.client ∧
      (Carts.controller.updateOne Carts.request).RunsGrounded Carts.stamps Carts.model []
        Carts.client := by
  refine ⟨?_, ?_⟩
  · exact .tail _ (.head _)
  · exact (requests_runGrounded Carts.resolve_config Carts.build_controller
      (Hooks.areGrounded_none Carts.model _) rfl Carts.stamps 0 Carts.request).2.2.2.2.2.1

end Depot
