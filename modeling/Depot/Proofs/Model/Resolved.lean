import Depot.Model.Resolve
import Depot.Proofs.Program
import Mathlib.Data.List.Nodup

/-!
# Resolved models

What the checks of a model file promise of the entities that it becomes.

* `Model.IsConsistent`: keys and relations refer to columns and entities that exist, and no
  relation has the name of a column.

Results:
* `isConsistent_of_resolve`: resolved models are consistent.
* `entity?_of_resolve`: entities of a resolved model are found by their names.
* `entity?_name`: an entity that a model finds is found under its own name.
* `key?_congr`: a key depends on the fields of the key alone.
* `text_of_key?`: records of one key have the same texts in the fields of the key.
-/

namespace Depot

/-- A relation of an entity of a model: its target exists, it joins columns that exist, and its
    name is not that of a column. -/
structure Model.IsSound (m : Model) (e : Entity) (r : Relation) : Prop where
  hasTarget : ∃ target, m.entity? r.target = some target ∧ target.hasColumn r.remoteColumn = true
  localColumn : e.hasColumn r.localColumn = true
  name : e.hasColumn r.name = false

/-- Keys are made of columns, and relations are sound. -/
structure Model.IsConsistent (m : Model) : Prop where
  key : ∀ e ∈ m.entities, ∀ c ∈ e.primaryKey, e.hasColumn c = true
  relation : ∀ e ∈ m.entities, ∀ r ∈ e.relations, m.IsSound e r

/-! ## What is found by name -/

theorem entity?_mem {m : Model} {name : String} {e : Entity} (h : m.entity? name = some e) :
    e ∈ m.entities :=
  List.mem_of_find?_eq_some h

theorem name_of_entity? {m : Model} {name : String} {e : Entity} (h : m.entity? name = some e) :
    e.name = name := by
  have hname := List.find?_some h
  exact beq_iff_eq.1 hname

theorem entity?_name {m : Model} {name : String} {e : Entity} (h : m.entity? name = some e) :
    m.entity? e.name = some e := by
  rw [name_of_entity? h]
  exact h

theorem relation?_mem {e : Entity} {name : String} {r : Relation}
    (h : e.relation? name = some r) : r ∈ e.relations ∧ r.name = name := by
  have hname := List.find?_some h
  exact ⟨List.mem_of_find?_eq_some h, beq_iff_eq.1 hname⟩

theorem hasColumn_iff {e : Entity} {name : String} :
    e.hasColumn name = true ↔ ∃ c ∈ e.columns, c.name = name := by
  rw [Entity.hasColumn, Entity.column?, List.find?_isSome]
  simp only [beq_iff_eq]

theorem mem_columnNames {e : EntityConfig} {name : String} :
    e.columnNames.contains name = true ↔ ∃ c ∈ e.columns, c.name = name := by
  rw [List.contains_iff_mem, EntityConfig.columnNames, List.mem_map]

theorem hasColumn_resolve (e : EntityConfig) (name : String) :
    e.resolve.hasColumn name = e.columnNames.contains name := by
  rw [Bool.eq_iff_iff, hasColumn_iff, mem_columnNames]
  constructor
  · rintro ⟨c, hc, rfl⟩
    obtain ⟨d, hd, rfl⟩ := List.mem_map.1 hc
    exact ⟨d, hd, rfl⟩
  · rintro ⟨d, hd, rfl⟩
    exact ⟨d.resolve e.primaryKey.columns, List.mem_map_of_mem hd, rfl⟩

theorem entity?_resolve (config : ModelConfig) (resources : List ResourceConfig) (name : String) :
    (Model.mk (config.entities.map (·.resolve)) resources).entity? name =
      (config.entity? name).map (·.resolve) := by
  rw [Model.entity?, ModelConfig.entity?, List.find?_map]
  rfl

/-! ## Keys -/

theorem keyParts?_congr {r s : Record} {cs : List String}
    (h : ∀ k ∈ cs, (r.field? k).bind keyPart? = (s.field? k).bind keyPart?) :
    Entity.keyParts? r cs = Entity.keyParts? s cs := by
  induction cs with
  | nil => rfl
  | cons k cs ih =>
    rw [Entity.keyParts?, Entity.keyParts?, h k List.mem_cons_self,
      ih fun l hl => h l (List.mem_cons_of_mem _ hl)]

theorem keyPart?_of_keyParts? {r : Record} {cs parts : List String}
    (h : Entity.keyParts? r cs = some parts) :
    cs.map (fun k => (r.field? k).bind keyPart?) = parts.map some := by
  induction cs generalizing parts with
  | nil =>
    cases h
    rfl
  | cons k cs ih =>
    obtain ⟨part, hpart, h⟩ := Option.bind_eq_some_iff.1 h
    obtain ⟨others, hothers, h⟩ := Option.bind_eq_some_iff.1 h
    cases h
    rw [List.map_cons, List.map_cons, hpart, ih hothers]

/-- A field that is absent has no text in a key, as little as one that is null. -/
theorem bind_keyPart? (r : Record) (k : String) :
    (r.field? k).bind keyPart? = keyPart? (r.get k) := by
  rw [Record.get]
  cases r.field? k with
  | none => rfl
  | some v => rfl

/-- A key depends on the texts of the fields of the key alone. -/
theorem key?_congr_text {e : Entity} {r s : Record}
    (h : ∀ k ∈ e.primaryKey, (r.field? k).bind keyPart? = (s.field? k).bind keyPart?) :
    e.key? r = e.key? s := by
  rw [Entity.key?, Entity.key?, keyParts?_congr h]

/-- A key depends on the fields of the key alone. -/
theorem key?_congr {e : Entity} {r s : Record}
    (h : ∀ k ∈ e.primaryKey, r.field? k = s.field? k) : e.key? r = e.key? s := by
  apply key?_congr_text
  intro k hk
  rw [h k hk]

/-- Records of one key have the same texts in the fields of the key. -/
theorem text_of_key? {e : Entity} {r s : Record} {key : RowKey} (hr : e.key? r = some key)
    (hs : e.key? s = some key) :
    ∀ k ∈ e.primaryKey, (r.field? k).bind keyPart? = (s.field? k).bind keyPart? := by
  have hparts {t : Record} (ht : e.key? t = some key) :
      e.primaryKey.map (fun k => (t.field? k).bind keyPart?) = key.parts.map some := by
    rw [Entity.key?] at ht
    by_cases hempty : e.primaryKey.isEmpty = true
    · rw [if_pos hempty] at ht
      cases ht
    · rw [if_neg hempty] at ht
      obtain ⟨parts, hparts, rfl⟩ := Option.map_eq_some_iff.1 ht
      exact keyPart?_of_keyParts? hparts
  exact List.map_inj_left.1 ((hparts hr).trans (hparts hs).symm)

/-! ## What the checks promise -/

namespace ModelConfig

variable {config : ModelConfig} {e : EntityConfig}

theorem notMem_of_checkNames {seen : List String} {es : List EntityConfig}
    (h : checkNames seen es = .ok ()) : (∀ e ∈ es, e.name ∉ seen) ∧ (es.map (·.name)).Nodup := by
  induction es generalizing seen with
  | nil =>
    refine ⟨?_, List.nodup_nil⟩
    intro e he
    cases he
  | cons e es ih =>
    rw [checkNames] at h
    by_cases hseen : seen.contains e.name = true
    · rw [if_pos hseen] at h
      cases h
    · rw [if_neg hseen] at h
      obtain ⟨hnew, hnodup⟩ := ih h
      constructor
      · intro f hf
        rcases List.mem_cons.1 hf with rfl | hf
        · rwa [List.contains_iff_mem] at hseen
        · exact fun hmem => hnew f hf (List.mem_cons_of_mem _ hmem)
      · refine List.nodup_cons.2 ⟨?_, hnodup⟩
        intro hmem
        obtain ⟨f, hf, hname⟩ := List.mem_map.1 hmem
        exact hnew f hf (hname ▸ List.mem_cons_self)

theorem mem_of_checkKey {cs : List String} (h : checkKey e cs = .ok ()) :
    ∀ c ∈ cs, e.columnNames.contains c = true := by
  induction cs with
  | nil =>
    intro c hc
    cases hc
  | cons d cs ih =>
    rw [checkKey] at h
    by_cases hd : e.columnNames.contains d = true
    · rw [if_pos hd] at h
      intro c hc
      rcases List.mem_cons.1 hc with rfl | hc
      · exact hd
      · exact ih h c hc
    · rw [if_neg hd] at h
      cases h

theorem of_checkRelations {rs : List Relation} (h : checkRelations config e rs = .ok ()) :
    ∀ r ∈ rs, checkRelation config e r = .ok () := by
  induction rs with
  | nil =>
    intro r hr
    cases hr
  | cons s rs ih =>
    obtain ⟨u, hs, hrs⟩ := bind_eq_ok_iff.1 h
    intro r hr
    rcases List.mem_cons.1 hr with rfl | hr
    · exact hs
    · exact ih hrs r hr

theorem of_checkEntities {es : List EntityConfig} (h : checkEntities config es = .ok ()) :
    ∀ e ∈ es, checkKey e e.primaryKey.columns = .ok () ∧
      checkRelations config e e.relations = .ok () := by
  induction es with
  | nil =>
    intro e he
    cases he
  | cons f es ih =>
    obtain ⟨u, hkey, h⟩ := bind_eq_ok_iff.1 h
    obtain ⟨u, hrelations, hes⟩ := bind_eq_ok_iff.1 h
    intro e he
    rcases List.mem_cons.1 he with rfl | he
    · exact ⟨hkey, hrelations⟩
    · exact ih hes e he

theorem isSound_of_checkRelation {r : Relation} {resources : List ResourceConfig}
    (h : checkRelation config e r = .ok ()) :
    Model.IsSound ⟨config.entities.map (·.resolve), resources⟩ e.resolve r := by
  rw [checkRelation] at h
  cases ht : config.entity? r.target with
  | none => rw [ht] at h; cases h
  | some target =>
    rw [ht] at h
    by_cases hlocal : e.columnNames.contains r.localColumn = true
    · by_cases hremote : target.columnNames.contains r.remoteColumn = true
      · by_cases hname : e.columnNames.contains r.name = true
        · simp only [hlocal, hremote, hname] at h
          cases h
        · refine ⟨⟨target.resolve, ?_, ?_⟩, ?_, ?_⟩
          · rw [entity?_resolve, ht]
            rfl
          · rw [hasColumn_resolve, hremote]
          · rw [hasColumn_resolve, hlocal]
          · rw [hasColumn_resolve]
            exact Bool.eq_false_iff.2 hname
      · simp only [hlocal, Bool.eq_false_iff.2 hremote] at h
        cases h
    · simp only [Bool.eq_false_iff.2 hlocal] at h
      cases h

end ModelConfig

theorem isConsistent_of_resolve {config : ModelConfig} {m : Model}
    (h : config.resolve = .ok m) : m.IsConsistent := by
  obtain ⟨u, hcheck, hm⟩ := bind_eq_ok_iff.1 h
  rw [Except.ok.injEq] at hm
  subst hm
  obtain ⟨u, -, hcheck⟩ := bind_eq_ok_iff.1 hcheck
  obtain ⟨u, hentities, -⟩ := bind_eq_ok_iff.1 hcheck
  have hall := ModelConfig.of_checkEntities hentities
  constructor
  · intro e he c hc
    obtain ⟨d, hd, rfl⟩ := List.mem_map.1 he
    rw [hasColumn_resolve]
    exact ModelConfig.mem_of_checkKey (hall d hd).1 c hc
  · intro e he r hr
    obtain ⟨d, hd, rfl⟩ := List.mem_map.1 he
    exact ModelConfig.isSound_of_checkRelation (ModelConfig.of_checkRelations (hall d hd).2 r hr)

/-- An entity of a resolved model is found by its name, since names are used once. -/
theorem entity?_of_resolve {config : ModelConfig} {m : Model} (h : config.resolve = .ok m)
    {e : Entity} (he : e ∈ m.entities) : m.entity? e.name = some e := by
  obtain ⟨u, hcheck, hm⟩ := bind_eq_ok_iff.1 h
  rw [Except.ok.injEq] at hm
  subst hm
  obtain ⟨u, hnames, -⟩ := bind_eq_ok_iff.1 hcheck
  have hnodup := (ModelConfig.notMem_of_checkNames hnames).2
  have hresolved : ((config.entities.map (·.resolve)).map (·.name)).Nodup := by
    rw [List.map_map]
    exact hnodup
  cases hfound : Model.entity? ⟨config.entities.map (·.resolve), config.resources⟩ e.name with
  | none =>
    rw [Model.entity?, List.find?_eq_none] at hfound
    exact absurd (beq_self_eq_true e.name) (hfound e he)
  | some f =>
    have hsame := List.inj_on_of_nodup_map hresolved (entity?_mem hfound) he
      (name_of_entity? hfound)
    rw [hsame]

end Depot
