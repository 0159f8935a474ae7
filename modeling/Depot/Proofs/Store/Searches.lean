import Depot.Proofs.Json.Zeros
import Depot.Proofs.Program
import Depot.Proofs.Store.Populate
import Depot.Proofs.Store.Rows

/-!
# What a search finds

A search looks at rows one after the other, and fails if it cannot tell of one of them whether it
is selected. Rows that a selection neither selects nor refuses leave no trace in a search: it finds
the same without them. The rows that are found are sorted, and a page is cut out of them.

* `Selection.StaysWithin`: a selection that is only about rows with some property.

Results:
* `findOne_congr`, `findPage_congr`: a search depends on the rows that its selection is about.
* `findPage_eq_ok_iff`: what a page holds.
* `perm_sortRows`: sorting neither loses nor repeats a row.
* `distinctRows_eq_self`: rows no two of which are the same stay as they are.
-/

namespace Depot

/-! ## The rows that a selection is about -/

/-- A selection that neither selects nor refuses a row without a property. -/
def Selection.StaysWithin (s : Selection) (p : Record → Bool) : Prop :=
  ∀ row, s.selects row = true ∨ s.refuses row = true → p row = true

namespace Transaction

variable {tx tx' : Transaction} {e : Entity} {s : Selection} {p : Record → Bool}
  {o : FindOptions}

/-- A search looks at the rows that its selection is about only. -/
theorem matching_eq_of_staysWithin (hs : s.StaysWithin p) :
    tx.matching e s =
      if !s.isSound && ((tx.working.rows e.name).filter p).any s.refuses then
        .error (.backend "like pattern")
      else .ok (((tx.working.rows e.name).filter p).filter s.selects) := by
  have hrefuses : ((tx.working.rows e.name).filter p).any s.refuses =
      (tx.working.rows e.name).any s.refuses := by
    rw [List.any_filter]
    congr 1
    funext row
    cases hr : s.refuses row with
    | false => exact Bool.and_false _
    | true => rw [hs row (.inr hr), Bool.and_true]
  have hselects : ((tx.working.rows e.name).filter p).filter s.selects =
      (tx.working.rows e.name).filter s.selects := by
    rw [List.filter_filter]
    congr 1
    funext row
    cases hr : s.selects row with
    | false => exact Bool.false_and _
    | true => rw [hs row (.inl hr), Bool.and_true]
  rw [hrefuses, hselects, matching]

theorem matching_congr (hs : s.StaysWithin p)
    (h : (tx.working.rows e.name).filter p = (tx'.working.rows e.name).filter p) :
    tx.matching e s = tx'.matching e s := by
  rw [matching_eq_of_staysWithin hs, matching_eq_of_staysWithin hs, h]

/-- Without relations, a search for one row depends on the rows that its selection is about. -/
theorem findOne_congr (hs : s.StaysWithin p)
    (h : (tx.working.rows e.name).filter p = (tx'.working.rows e.name).filter p) :
    tx.findOne e s [] = tx'.findOne e s [] := by
  rw [findOne, matching_congr hs h]
  rfl

/-- Without relations, a page depends on the rows that its selection is about. -/
theorem findPage_congr (hs : s.StaysWithin p) (ho : o.populate = [])
    (h : (tx.working.rows e.name).filter p = (tx'.working.rows e.name).filter p) :
    tx.findPage e s o = tx'.findPage e s o := by
  simp only [findPage, found, matching_congr hs h, ho]
  rfl

/-! ## What a page holds -/

theorem matching_eq_ok {rows : List Record} (h : tx.matching e s = .ok rows) :
    rows = (tx.working.rows e.name).filter s.selects := by
  simp only [matching] at h
  split at h
  · cases h
  · rw [Except.ok.injEq] at h
    exact h.symm

theorem found_eq_ok {rows : List Record} {distinct : Bool}
    (h : tx.found e s distinct = .ok rows) :
    rows = if distinct then distinctRows [] ((tx.working.rows e.name).filter s.selects)
      else (tx.working.rows e.name).filter s.selects := by
  obtain ⟨matched, hmatched, rfl⟩ := map_eq_ok_iff.1 h
  rw [matching_eq_ok hmatched]

/-- A page counts all rows that are found, and holds those that stand in its place among the sorted
    ones, with relations that the entity has. -/
theorem findPage_eq_ok_iff {page : Page} :
    tx.findPage e s o = .ok page ↔
      ∃ rows, tx.found e s o.distinct = .ok rows ∧
        (∀ name ∈ o.populate, (e.relation? name).isSome) ∧
        page = ⟨rows.length, (((sortRows o.sort rows).drop o.offset).take o.limit).map
          (tx.populated e o.populate)⟩ := by
  rw [findPage, bind_eq_ok_iff]
  constructor
  · rintro ⟨rows, hrows, hpage⟩
    obtain ⟨items, hitems, hpage⟩ := bind_eq_ok_iff.1 hpage
    obtain ⟨hnames, rfl⟩ := populate_eq_ok_iff.1 hitems
    rw [Except.ok.injEq] at hpage
    exact ⟨rows, hrows, hnames, hpage.symm⟩
  · rintro ⟨rows, hrows, hnames, rfl⟩
    refine ⟨rows, hrows, bind_eq_ok_iff.2 ⟨_, populate_eq_ok_iff.2 ⟨hnames, rfl⟩, rfl⟩⟩

end Transaction

/-! ## Sorting -/

theorem perm_insertRow (keys : List SortKey) (row : Record) (rows : List Record) :
    (insertRow keys row rows).Perm (row :: rows) := by
  induction rows with
  | nil => exact .refl _
  | cons r rows ih =>
    rw [insertRow]
    split
    · exact (ih.cons r).trans (.swap row r rows)
    · exact .refl _

/-- Sorting neither loses nor repeats a row, whatever the values in the sort columns. -/
theorem perm_sortRows (keys : List SortKey) (rows : List Record) :
    (sortRows keys rows).Perm rows := by
  have hfold (sorted : List Record) :
      (rows.foldl (fun sorted row => insertRow keys row sorted) sorted).Perm
        (rows ++ sorted) := by
    induction rows generalizing sorted with
    | nil => exact .refl _
    | cons row rows ih =>
      refine (ih (insertRow keys row sorted)).trans ?_
      exact ((perm_insertRow keys row sorted).append_left rows).trans List.perm_middle
  have hall := hfold []
  rw [List.append_nil] at hall
  exact (List.reverse_perm _).trans hall

/-! ## Rows that are the same -/

namespace Transaction

theorem distinctRows_sublist (seen rows : List Record) :
    (distinctRows seen rows).Sublist rows := by
  induction rows generalizing seen with
  | nil => exact .refl _
  | cons r rows ih =>
    rw [distinctRows]
    split
    · exact (ih seen).cons r
    · exact (ih (seen ++ [r])).cons_cons r

theorem distinctRows_eq_self_of_apart {seen rows : List Record}
    (hseen : ∀ r ∈ rows, ∀ s ∈ seen, Json.sameFields r s = false)
    (hrows : rows.Pairwise fun r s => Json.sameFields s r = false) :
    distinctRows seen rows = rows := by
  induction rows generalizing seen with
  | nil => rfl
  | cons r rows ih =>
    obtain ⟨hfirst, hrest⟩ := List.pairwise_cons.1 hrows
    have hnew : ¬seen.any (Json.sameFields r) = true := by
      rw [List.any_eq_true]
      rintro ⟨s, hs, hsame⟩
      rw [hseen r List.mem_cons_self s hs] at hsame
      cases hsame
    rw [distinctRows, if_neg hnew, ih ?_ hrest]
    intro q hq s hs
    rcases List.mem_append.1 hs with hs | hs
    · exact hseen q (List.mem_cons_of_mem _ hq) s hs
    · rw [List.mem_singleton.1 hs]
      exact hfirst q hq

/-- Rows with keys that tell them apart are all distinct, unless a key holds a zero with a sign. -/
theorem distinctRows_eq_self {e : Entity} {rows : List Record} (hkeyed : e.IsKeyed rows)
    (hzeros : ∀ row ∈ rows, ∀ k ∈ e.primaryKey, ∀ v, row.field? k = some v → v.unsigned = v) :
    distinctRows [] rows = rows := by
  refine distinctRows_eq_self_of_apart (fun _ _ _ hs => (List.not_mem_nil hs).elim) ?_
  refine hkeyed.distinct.imp_of_mem fun {r s} hr hs hne => ?_
  rw [Bool.eq_false_iff]
  intro hsame
  apply hne
  apply key?_congr
  intro k hk
  have hfields := Json.unsigned_field?_of_sameFields hsame k
  have hvalue {q : Record} (hq : q ∈ rows) : (q.field? k).map Json.unsigned = q.field? k := by
    cases hv : q.field? k with
    | none => rfl
    | some v => exact congrArg some (hzeros q hq k hk v hv)
  rw [hvalue hr, hvalue hs] at hfields
  exact hfields.symm

end Transaction

end Depot
