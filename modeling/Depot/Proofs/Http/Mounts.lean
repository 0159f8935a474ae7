import Depot.Http.Route
import Depot.Model.Check
import Depot.Proofs.Program
import Depot.Proofs.Text.Cuts
import Mathlib.Data.List.Basic

/-!
# The mounts of a model

The check of a model compares mounts without the slashes behind them; a resource is served under
its mount without the slashes on either side. Mounts that differ in the slashes in front of them
are thus accepted, and lead to one path.

* `Http.slashed`: a text between slashes.
* `Http.DiffersInFront`: one name behind different numbers of slashes.

Results:
* `ModelConfig.pairwise_mountKey_of_check`: accepted mounts differ without the slashes behind them.
* `Http.mountPath_eq_iff`: mounts of one path have one text between their slashes.
* `Http.mountPaths_of_check`: two accepted mounts have one path if and only if they differ in the
  slashes in front of them.
-/

namespace Depot

namespace ModelConfig

theorem pairwise_mountKey_of_checkResources {m : ModelConfig} {seen : List (List Char)}
    {rs : List ResourceConfig} (h : checkResources m seen rs = .ok ()) :
    rs.Pairwise (fun a b => mountKey a.mount ≠ mountKey b.mount) ∧
      ∀ r ∈ rs, mountKey r.mount ∉ seen := by
  induction rs generalizing seen with
  | nil => exact ⟨.nil, nofun⟩
  | cons r rs ih =>
    rw [checkResources] at h
    cases hentity : m.entity? r.entity with
    | none =>
      rw [hentity] at h
      cases h
    | some e =>
      rw [hentity] at h
      dsimp only at h
      by_cases hseen : seen.contains (mountKey r.mount) = true
      · rw [if_pos hseen] at h
        cases h
      · rw [if_neg hseen] at h
        obtain ⟨-, -, hrest⟩ := bind_eq_ok_iff.1 h
        obtain ⟨hpairwise, hfresh⟩ := ih hrest
        refine ⟨List.pairwise_cons.2 ⟨?_, hpairwise⟩, List.forall_mem_cons.2 ⟨?_, ?_⟩⟩
        · intro b hb hsame
          exact hfresh b hb (hsame ▸ List.mem_cons_self)
        · intro hmem
          exact hseen (List.contains_iff_mem.2 hmem)
        · intro b hb hmem
          exact hfresh b hb (List.mem_cons_of_mem _ hmem)

/-- Accepted mounts are different without the slashes behind them. -/
theorem pairwise_mountKey_of_check {m : ModelConfig} (h : m.check = .ok ()) :
    m.resources.Pairwise fun a b => mountKey a.mount ≠ mountKey b.mount := by
  obtain ⟨-, -, h⟩ := bind_eq_ok_iff.1 h
  obtain ⟨-, -, h⟩ := bind_eq_ok_iff.1 h
  exact (pairwise_mountKey_of_checkResources h).1

end ModelConfig

namespace Http

open ModelConfig (mountKey)

/-! ## Texts between slashes -/

/-- A text with slashes before and behind it. -/
def slashed (m : Nat) (name : List Char) (n : Nat) : List Char :=
  List.replicate m '/' ++ (name ++ List.replicate n '/')

/-- No slash stands at an end of a text. -/
structure IsBare (name : List Char) : Prop where
  head : name.head? ≠ some '/'
  last : name.getLast? ≠ some '/'

theorem IsBare.reverse {name : List Char} (h : IsBare name) : IsBare name.reverse where
  head := by
    rw [List.head?_reverse]
    exact h.last
  last := by
    rw [List.getLast?_reverse]
    exact h.head

theorem reverse_slashed (m : Nat) (name : List Char) (n : Nat) :
    (slashed m name n).reverse = slashed n name.reverse m := by
  rw [slashed, slashed, List.reverse_append, List.reverse_append, List.reverse_replicate,
    List.reverse_replicate, List.append_assoc]

theorem dropWhile_slashes {cs : List Char} (h : cs.head? ≠ some '/') (m : Nat) :
    (List.replicate m '/' ++ cs).dropWhile (· == '/') = cs := by
  apply Text.dropWhile_eq_of_stops
  · intro c hc
    rw [List.eq_of_mem_replicate hc, beq_self_eq_true]
  · rintro c hc
    rw [beq_eq_false_iff_ne]
    rintro rfl
    exact h hc

/-- The slashes before a text that is not empty are dropped up to the text. -/
theorem dropWhile_slashed {name : List Char} (hne : name ≠ []) (h : IsBare name) (m n : Nat) :
    (slashed m name n).dropWhile (· == '/') = name ++ List.replicate n '/' := by
  refine dropWhile_slashes ?_ m
  rw [List.head?_append_of_ne_nil _ hne]
  exact h.head

theorem dropWhile_slashed_nil (m n : Nat) : (slashed m [] n).dropWhile (· == '/') = [] := by
  rw [slashed, List.nil_append, List.replicate_append_replicate]
  have h : (List.replicate (m + n) '/' ++ []).dropWhile (· == '/') = [] :=
    dropWhile_slashes (fun h => by cases h) (m + n)
  rwa [List.append_nil] at h

theorem dropEnds_slashed {name : List Char} (h : IsBare name) (m n : Nat) :
    Text.dropEnds (· == '/') (slashed m name n) = name := by
  rw [Text.dropEnds]
  by_cases hne : name = []
  · rw [hne, dropWhile_slashed_nil]
    rfl
  · rw [dropWhile_slashed hne h, List.reverse_append, List.reverse_replicate,
      dropWhile_slashes h.reverse.head, List.reverse_reverse]

theorem exists_slashes_append (cs : List Char) :
    ∃ m rest, cs = List.replicate m '/' ++ rest ∧ rest.head? ≠ some '/' := by
  induction cs with
  | nil => exact ⟨0, [], rfl, fun h => by cases h⟩
  | cons c cs ih =>
    by_cases hc : c = '/'
    · obtain ⟨m, rest, hcs, hhead⟩ := ih
      refine ⟨m + 1, rest, ?_, hhead⟩
      rw [hc, hcs]
      rfl
    · refine ⟨0, c :: cs, rfl, ?_⟩
      rw [List.head?_cons, ne_eq, Option.some.injEq]
      exact hc

/-- Every text is one without slashes at its ends, between slashes. -/
theorem exists_slashed (cs : List Char) : ∃ m name n, IsBare name ∧ cs = slashed m name n := by
  obtain ⟨m, rest, hcs, hhead⟩ := exists_slashes_append cs
  obtain ⟨n, back, hrest, hlast⟩ := exists_slashes_append rest.reverse
  have hrest : rest = back.reverse ++ List.replicate n '/' := by
    rw [← List.reverse_reverse rest, hrest, List.reverse_append, List.reverse_replicate]
  refine ⟨m, back.reverse, n, ⟨?_, ?_⟩, by rw [hcs, hrest, slashed]⟩
  · intro hback
    rw [hrest, List.head?_append, hback] at hhead
    exact hhead rfl
  · rwa [List.getLast?_reverse]

/-! ## Mounts -/

/-- One name behind different numbers of slashes. -/
def DiffersInFront (a b : String) : Prop :=
  ∃ name m n k l, name ≠ [] ∧ IsBare name ∧ m ≠ k ∧
    a.toList = slashed m name n ∧ b.toList = slashed k name l

/-- Mounts of one path have one text between their slashes. -/
theorem mountPath_eq_iff {a b : String} :
    mountPath a = mountPath b ↔
      Text.dropEnds (· == '/') a.toList = Text.dropEnds (· == '/') b.toList := by
  constructor
  · intro h
    have hchars := congrArg String.toList h
    simpa only [mountPath, String.toList_append, String.toList_ofList, List.append_right_inj]
      using hchars
  · intro h
    rw [mountPath, mountPath, h]

theorem mountKey_of_slashed {mount : String} {name : List Char} {m n : Nat}
    (h : mount.toList = slashed m name n) (hne : name ≠ []) (hbare : IsBare name) :
    mountKey mount = List.replicate m '/' ++ name := by
  have hne' : name.reverse ≠ [] := by rwa [ne_eq, List.reverse_eq_nil_iff]
  rw [mountKey, h, reverse_slashed, dropWhile_slashed hne' hbare.reverse, List.reverse_append,
    List.reverse_replicate, List.reverse_reverse]

theorem mountKey_of_slashes {mount : String} {m n : Nat} (h : mount.toList = slashed m [] n) :
    mountKey mount = [] := by
  rw [mountKey, h, reverse_slashed, List.reverse_nil, dropWhile_slashed_nil, List.reverse_nil]

/-- Two accepted mounts have one path if and only if they differ in the slashes in front of
    them. -/
theorem mountPaths_of_check {m : ModelConfig} (h : m.check = .ok ()) :
    m.resources.Pairwise fun a b =>
      mountPath a.mount = mountPath b.mount ↔ DiffersInFront a.mount b.mount := by
  refine (ModelConfig.pairwise_mountKey_of_check h).imp ?_
  intro a b hkeys
  rw [mountPath_eq_iff]
  constructor
  · intro hends
    obtain ⟨m, name, n, hbare, ha⟩ := exists_slashed a.mount.toList
    obtain ⟨k, name', l, hbare', hb⟩ := exists_slashed b.mount.toList
    rw [ha, hb, dropEnds_slashed hbare, dropEnds_slashed hbare'] at hends
    subst hends
    by_cases hne : name = []
    · subst hne
      exact absurd ((mountKey_of_slashes ha).trans (mountKey_of_slashes hb).symm) hkeys
    · refine ⟨name, m, n, k, l, hne, hbare, ?_, ha, hb⟩
      rintro rfl
      exact hkeys ((mountKey_of_slashed ha hne hbare).trans (mountKey_of_slashed hb hne hbare).symm)
  · rintro ⟨name, m, n, k, l, -, hbare, -, ha, hb⟩
    rw [ha, hb, dropEnds_slashed hbare, dropEnds_slashed hbare]

/-! Orders are served twice, under mounts that differ in a slash in front of them. -/
namespace Orders

def config : ModelConfig where
  entities := [
    { name := "order", schema := none, table := "order", primaryKey := .single "id",
      columns := [⟨"id", "text", false, false⟩], relations := [], validation := [] }]
  resources := [resource "orders" "/orders", resource "current_orders" "orders"]
where
  resource (name mount : String) : ResourceConfig :=
    { name, entity := "order", mount, keyPath := none, searchable := [], orderBy := none,
      populate := ⟨[], []⟩, distinct := false, underscoreAsEmpty := false, scopeHeaders := [] }

end Orders

theorem mountPaths_of_check_orders :
    Orders.config.check = .ok () ∧ Orders.config.resources.Pairwise fun a b =>
      mountPath a.mount = mountPath b.mount ↔ DiffersInFront a.mount b.mount :=
  ⟨by decide +kernel, mountPaths_of_check (by decide +kernel)⟩

/-- Accepted mounts may have one path. -/
theorem not_mountPaths_distinct :
    ¬∀ m : ModelConfig, m.check = .ok () →
      m.resources.Pairwise fun a b => mountPath a.mount ≠ mountPath b.mount := by
  intro h
  have hdistinct := h Orders.config (by decide +kernel)
  revert hdistinct
  decide +kernel

end Http

end Depot
