import Mathlib.Data.List.Forall2
import Mathlib.Data.List.Induction
import Mathlib.Data.List.Nodup

/-!
# Lists in step and without repetitions

Two lists run in step if a relation holds between their elements, one by one. A list loses its
repetitions by keeping the first of each.

Results:
* `exists_of_forall₂_left`, `exists_of_forall₂_right`: the partner of an element.
* `pairwise_of_forall₂`, `forall₂_filterMap`: what is known of one list holds of the other.
* `eraseDups_concat`: a further element at the end of a list.
* `nodup_eraseDups`, `eraseDups_eq_self`: what has no repetitions.
-/

namespace Depot

/-! ## Lists in step -/

section

variable {α β : Type} {R : α → β → Prop} {l : List α} {u : List β}

theorem exists_of_forall₂_right (h : List.Forall₂ R l u) {b : β} (hb : b ∈ u) :
    ∃ a ∈ l, R a b := by
  induction h with
  | nil => cases hb
  | cons hab _ ih =>
    rcases List.mem_cons.1 hb with rfl | hb
    · exact ⟨_, List.mem_cons_self, hab⟩
    · obtain ⟨a, ha, hR⟩ := ih hb
      exact ⟨a, List.mem_cons_of_mem _ ha, hR⟩

theorem exists_of_forall₂_left (h : List.Forall₂ R l u) {a : α} (ha : a ∈ l) : ∃ b ∈ u, R a b :=
  exists_of_forall₂_right (R := fun b a => R a b) h.flip ha

theorem pairwise_of_forall₂ {S : α → α → Prop} {T : β → β → Prop} (h : List.Forall₂ R l u)
    (hST : ∀ a b x y, R a x → R b y → S a b → T x y) (hl : l.Pairwise S) : u.Pairwise T := by
  induction h with
  | nil => exact .nil
  | cons hab htail ih =>
    obtain ⟨hfirst, hrest⟩ := List.pairwise_cons.1 hl
    refine List.pairwise_cons.2 ⟨?_, ih hrest⟩
    intro y hy
    obtain ⟨b, hb, hR⟩ := exists_of_forall₂_right htail hy
    exact hST _ b _ y hab hR (hfirst b hb)

theorem forall₂_filterMap {γ : Type} {f : β → Option γ} {T : α → γ → Prop}
    (h : List.Forall₂ R l u) (hRT : ∀ a b, R a b → ∃ c, f b = some c ∧ T a c) :
    List.Forall₂ T l (u.filterMap f) := by
  induction h with
  | nil => exact .nil
  | cons hab _ ih =>
    obtain ⟨c, hc, hT⟩ := hRT _ _ hab
    rw [List.filterMap_cons_some hc]
    exact .cons hT ih

end

/-! ## Repetitions -/

theorem eraseDups_concat {α : Type} [DecidableEq α] (l : List α) (a : α) :
    (l ++ [a]).eraseDups = if a ∈ l then l.eraseDups else l.eraseDups ++ [a] := by
  by_cases ha : a ∈ l
  · simp [List.eraseDups_append, List.removeAll, ha]
  · simp [List.eraseDups_append, List.removeAll, ha, List.eraseDups_cons]

theorem nodup_eraseDups {α : Type} [DecidableEq α] (l : List α) : l.eraseDups.Nodup := by
  induction l using List.reverseRecOn with
  | nil => exact List.nodup_nil
  | append_singleton l a ih =>
    rw [eraseDups_concat]
    split
    · exact ih
    · rename_i ha
      rw [List.nodup_append]
      refine ⟨ih, List.nodup_singleton a, fun b hb c hc => ?_⟩
      rw [List.mem_singleton.1 hc]
      rintro rfl
      exact ha (List.mem_eraseDups.1 hb)

theorem eraseDups_eq_self {α : Type} [DecidableEq α] {l : List α} (h : l.Nodup) :
    l.eraseDups = l := by
  induction l using List.reverseRecOn with
  | nil => rfl
  | append_singleton l a ih =>
    obtain ⟨hl, -, hne⟩ := List.nodup_append.1 h
    have ha : a ∉ l := fun hmem => hne a hmem a (List.mem_singleton_self a) rfl
    rw [eraseDups_concat, if_neg ha, ih hl]

end Depot
