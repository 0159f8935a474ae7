import Depot.Proofs.Query.Comparisons
import Depot.Proofs.Store.Searches

/-!
# Sorting rows

Two rows are in the order in which two values of the first column that tells them apart are. Two
values that both read as numbers go by these, and others by their texts; so a text may stand between
the texts of two numbers that are in the other order, and then there is no order of all three. A
column without such values can be sorted, and so can rows by several such columns.

* `IsPreorderOn`: a comparison that orders some elements, of which several may be in one place.
* `IsSortable`: the values of a column in which there is one order.

Results:
* `IsPreorderOn.map_iff`, `IsPreorderOn.reversed`, `IsPreorderOn.andThen`: comparisons made of
  others.
* `isSortable_iff`: values can be sorted exactly if their comparison orders them.
* `pairwise_sortRows`: where the comparison orders rows, sorting puts them in order.
* `isPreorderOn_compareRows`: sort keys order rows exactly if all columns can be sorted, and then
  pages are cut out of sorted rows.
* `not_isLE_compareRows_trans`: not all values can be sorted.
-/

namespace Depot

/-! ## Comparisons that order elements -/

/-- A comparison is a total preorder of some elements: the other way round its answer is reversed,
    and what is not behind something is not behind anything that this is not behind. -/
structure IsPreorderOn {α : Type} (cmp : α → α → Ordering) (l : List α) : Prop where
  swap : ∀ a ∈ l, ∀ b ∈ l, cmp b a = (cmp a b).swap
  trans : ∀ a ∈ l, ∀ b ∈ l, ∀ c ∈ l,
    (cmp a b).isLE = true → (cmp b c).isLE = true → (cmp a c).isLE = true

namespace IsPreorderOn

variable {α β : Type} {cmp cmp' : α → α → Ordering} {l : List α}

theorem map_iff {f : β → α} {l : List β} :
    IsPreorderOn cmp (l.map f) ↔ IsPreorderOn (fun a b => cmp (f a) (f b)) l := by
  constructor
  · intro h
    exact ⟨fun a ha b hb => h.swap _ (List.mem_map_of_mem ha) _ (List.mem_map_of_mem hb),
      fun a ha b hb c hc => h.trans _ (List.mem_map_of_mem ha) _ (List.mem_map_of_mem hb) _
        (List.mem_map_of_mem hc)⟩
  · rintro ⟨hswap, htrans⟩
    constructor
    · simpa only [List.forall_mem_map] using hswap
    · simpa only [List.forall_mem_map] using htrans

theorem reversed (h : IsPreorderOn cmp l) : IsPreorderOn (fun a b => (cmp a b).swap) l where
  swap a ha b hb := congrArg Ordering.swap (h.swap a ha b hb)
  trans a ha b hb c hc := by
    rw [← h.swap a ha b hb, ← h.swap b hb c hc, ← h.swap a ha c hc]
    exact fun hba hcb => h.trans c hc b hb a ha hcb hba

/-- What is behind nothing of each other is in one place. -/
theorem eq_of_isLE (h : IsPreorderOn cmp l) {a b : α} (ha : a ∈ l) (hb : b ∈ l)
    (hab : (cmp a b).isLE = true) (hba : (cmp b a).isLE = true) : cmp a b = .eq := by
  rw [h.swap a ha b hb] at hba
  cases hcmp : cmp a b with
  | eq => rfl
  | lt =>
    rw [hcmp] at hba
    cases hba
  | gt =>
    rw [hcmp] at hab
    cases hab

/-- Where the first comparison finds no difference, a second one may decide. -/
theorem andThen (h : IsPreorderOn cmp l) (h' : IsPreorderOn cmp' l) :
    IsPreorderOn (fun a b => (cmp a b).then (cmp' a b)) l where
  swap a ha b hb := by rw [h.swap a ha b hb, h'.swap a ha b hb, Ordering.swap_then]
  trans a ha b hb c hc hab hbc := by
    have hfirst {o o' : Ordering} (ho : (o.then o').isLE = true) : o.isLE = true := by
      cases o <;> first | rfl | exact ho
    have hac := h.trans a ha b hb c hc (hfirst hab) (hfirst hbc)
    cases hcmp : cmp a c with
    | lt => rfl
    | gt =>
      rw [hcmp] at hac
      cases hac
    | eq =>
      -- All three are in one place for the first comparison, so the second one decides.
      have hca : (cmp c a).isLE = true := by
        rw [h.swap a ha c hc, hcmp]
        rfl
      have hab' := h.eq_of_isLE ha hb (hfirst hab) (h.trans b hb c hc a ha (hfirst hbc) hca)
      have hbc' := h.eq_of_isLE hb hc (hfirst hbc) (h.trans c hc a ha b hb hca (hfirst hab))
      simp only [hab', hbc', Ordering.eq_then] at hab hbc ⊢
      exact h'.trans a ha b hb c hc hab hbc

end IsPreorderOn

/-! ## The values of a column -/

/-- Values that read as numbers, the first one below the second. -/
def IsBelow (p q : Json) : Prop :=
  ∃ x y, asNumber? p = some x ∧ asNumber? q = some y ∧ x.lt y = true

/-- A value that is not null and reads as no number. -/
def IsWord (v : Json) : Prop := v.isNull = false ∧ asNumber? v = none

/-- The values of a column can be put in order: no two numbers are apart if there is something that
    is not a number, and numbers between whose texts there is that of another value are in the order
    of their texts. -/
structure IsSortable (cells : List Json) : Prop where
  numbers : ∀ n ∈ cells, ∀ d, asNumber? n = some d → d.isNan = true →
    ∀ p ∈ cells, ∀ q ∈ cells, ¬IsBelow p q
  texts : ∀ p ∈ cells, ∀ q ∈ cells, (asNumber? p).isSome = true → (asNumber? q).isSome = true →
    ∀ t ∈ cells, IsWord t → p.plainText < t.plainText → t.plainText < q.plainText → IsBelow p q

section Cells

variable {a b c : Json}

theorem Double.lt_iff {x y : Double} :
    x.lt y = true ↔ x.isNan = false ∧ y.isNan = false ∧ x.position < y.position := by
  rw [Double.lt, Double.order?, ← Int.compare_eq_lt]
  cases x.isNan <;> cases y.isNan <;> simp

theorem isBelow_iff {x y : Double} (hx : asNumber? a = some x) (hy : asNumber? b = some y) :
    IsBelow a b ↔ x.lt y = true := by
  constructor
  · rintro ⟨x', y', hx', hy', h⟩
    obtain rfl := Option.some.inj (hx.symm.trans hx')
    obtain rfl := Option.some.inj (hy.symm.trans hy')
    exact h
  · exact fun h => ⟨x, y, hx, hy, h⟩

theorem IsBelow.asymm (h : IsBelow a b) : ¬IsBelow b a := by
  obtain ⟨x, y, hx, hy, hlt⟩ := h
  rw [isBelow_iff hy hx]
  rw [Double.lt_iff] at hlt ⊢
  omega

/-- A value that is no number does not have the text of one. -/
theorem IsWord.plainText_ne (hb : IsWord b) {x : Double} (hx : asNumber? a = some x) :
    a.plainText ≠ b.plainText := by
  intro h
  have hread := isSome_asNumber?_eq a
  rw [h, ← isSome_asNumber?_eq, hx, hb.2] at hread
  cases hread

theorem exists_number_or_isWord (ha : a.isNull = false) :
    (∃ x, asNumber? a = some x) ∨ IsWord a := by
  cases hread : asNumber? a with
  | none => exact .inr ⟨ha, hread⟩
  | some x => exact .inl ⟨x, rfl⟩

theorem order?_swap (a b : Json) : order? b a = (order? a b).map Ordering.swap := by
  rw [order?, order?, Bool.or_comm]
  split
  · rfl
  · cases asNumber? a with
    | none => cases asNumber? b <;> exact congrArg some Std.OrientedOrd.eq_swap
    | some x =>
      cases asNumber? b with
      | none => exact congrArg some Std.OrientedOrd.eq_swap
      | some y => exact Double.order?_swap x y

theorem compareCells_swap (a b : Json) : compareCells b a = (compareCells a b).swap := by
  rw [compareCells, compareCells, order?_swap a b]
  cases a.isNull <;> cases b.isNull <;> cases order? a b <;> rfl

/-! ### Which of two values comes first -/

theorem isLE_compareCells_of_isNull (h : b.isNull = true) : (compareCells a b).isLE = true := by
  rw [compareCells, h]
  cases a.isNull <;> rfl

/-- Nothing but null comes after null. -/
theorem isNull_eq_false_of_isLE (h : (compareCells a b).isLE = true) (hb : b.isNull = false) :
    a.isNull = false := by
  cases ha : a.isNull with
  | false => rfl
  | true =>
    rw [compareCells, ha, hb] at h
    cases h

theorem isLE_compareCells_of_numbers {x y : Double} (hx : asNumber? a = some x)
    (hy : asNumber? b = some y) : (compareCells a b).isLE = true ↔ ¬IsBelow b a := by
  rw [isBelow_iff hy hx, compareCells, isNull_eq_false_of_number hx, isNull_eq_false_of_number hy,
    order?_of_numbers hx hy, Double.lt, Double.order?_swap x y]
  cases x.order? y with
  | none => decide
  | some o => cases o <;> decide

theorem isLE_compareCells_of_texts (ha : a.isNull = false) (hb : b.isNull = false)
    (h : asNumber? a = none ∨ asNumber? b = none) :
    (compareCells a b).isLE = true ↔ a.plainText ≤ b.plainText := by
  rw [compareCells, ha, hb, order?_of_texts ha hb h, ← String.not_lt, ← compare_eq_gt_iff]
  exact Ordering.isLE_iff_ne_gt

end Cells

namespace IsSortable

variable {cells : List Json} {a b c : Json}

/-- Among numbers, only what is not a number could be behind nothing and in front of nothing. -/
theorem trans_numbers (h : IsSortable cells) {x y z : Double} (ha : a ∈ cells) (hb : b ∈ cells)
    (hc : c ∈ cells) (hx : asNumber? a = some x) (hy : asNumber? b = some y)
    (hz : asNumber? c = some z) (hab : ¬IsBelow b a) (hbc : ¬IsBelow c b) : ¬IsBelow c a := by
  cases hnan : y.isNan with
  | true => exact h.numbers b hb y hy hnan c hc a ha
  | false =>
    rw [isBelow_iff hy hx, Double.lt_iff] at hab
    rw [isBelow_iff hz hy, Double.lt_iff] at hbc
    rw [isBelow_iff hz hx, Double.lt_iff]
    rintro ⟨hznan, hxnan, hlt⟩
    have hle : ¬y.position < x.position := fun hlt => hab ⟨hnan, hxnan, hlt⟩
    have hle' : ¬z.position < y.position := fun hlt => hbc ⟨hznan, hnan, hlt⟩
    omega

/-- The numbers on both sides of another text are in the order of their texts. -/
theorem isBelow_of_le (h : IsSortable cells) {x z : Double} (ha : a ∈ cells) (hb : b ∈ cells)
    (hc : c ∈ cells) (hx : asNumber? a = some x) (hword : IsWord b) (hz : asNumber? c = some z)
    (hab : a.plainText ≤ b.plainText) (hbc : b.plainText ≤ c.plainText) : IsBelow a c := by
  refine h.texts a ha c hc (Option.isSome_of_eq_some hx) (Option.isSome_of_eq_some hz) b hb hword
    ?_ ?_
  · rw [← String.not_le]
    exact fun hba => hword.plainText_ne hx (String.le_antisymm hab hba)
  · rw [← String.not_le]
    exact fun hcb => hword.plainText_ne hz (String.le_antisymm hcb hbc)

/-- The order of values that can be sorted is transitive. The cases are which of the three values
    are numbers: two numbers are compared as such and all other pairs by their texts. -/
theorem trans (h : IsSortable cells) (ha : a ∈ cells) (hb : b ∈ cells) (hc : c ∈ cells)
    (hab : (compareCells a b).isLE = true) (hbc : (compareCells b c).isLE = true) :
    (compareCells a c).isLE = true := by
  cases hcnull : c.isNull with
  | true => exact isLE_compareCells_of_isNull hcnull
  | false =>
    have hbnull := isNull_eq_false_of_isLE hbc hcnull
    have hanull := isNull_eq_false_of_isLE hab hbnull
    rcases exists_number_or_isWord hanull with ⟨x, hx⟩ | haword
    · rcases exists_number_or_isWord hbnull with ⟨y, hy⟩ | hbword
      · rw [isLE_compareCells_of_numbers hx hy] at hab
        rcases exists_number_or_isWord hcnull with ⟨z, hz⟩ | hcword
        · rw [isLE_compareCells_of_numbers hy hz] at hbc
          rw [isLE_compareCells_of_numbers hx hz]
          exact h.trans_numbers ha hb hc hx hy hz hab hbc
        · rw [isLE_compareCells_of_texts hbnull hcnull (.inr hcword.2)] at hbc
          rw [isLE_compareCells_of_texts hanull hcnull (.inr hcword.2), ← String.not_lt]
          intro hca
          exact hab (h.isBelow_of_le hb hc ha hy hcword hx hbc (Std.le_of_lt hca))
      · rw [isLE_compareCells_of_texts hanull hbnull (.inr hbword.2)] at hab
        rw [isLE_compareCells_of_texts hbnull hcnull (.inl hbword.2)] at hbc
        rcases exists_number_or_isWord hcnull with ⟨z, hz⟩ | hcword
        · rw [isLE_compareCells_of_numbers hx hz]
          exact (h.isBelow_of_le ha hb hc hx hbword hz hab hbc).asymm
        · rw [isLE_compareCells_of_texts hanull hcnull (.inr hcword.2)]
          exact String.le_trans hab hbc
    · rw [isLE_compareCells_of_texts hanull hbnull (.inl haword.2)] at hab
      rw [isLE_compareCells_of_texts hanull hcnull (.inl haword.2)]
      by_cases hnumbers : asNumber? b = none ∨ asNumber? c = none
      · rw [isLE_compareCells_of_texts hbnull hcnull hnumbers] at hbc
        exact String.le_trans hab hbc
      · obtain ⟨hb', hc'⟩ := not_or.1 hnumbers
        obtain ⟨y, hy⟩ := Option.ne_none_iff_exists'.1 hb'
        obtain ⟨z, hz⟩ := Option.ne_none_iff_exists'.1 hc'
        rw [isLE_compareCells_of_numbers hy hz] at hbc
        rw [← String.not_lt]
        intro hca
        exact hbc (h.isBelow_of_le hc ha hb hz haword hy (Std.le_of_lt hca) hab)

end IsSortable

/-- Values can be sorted exactly if their comparison is a total preorder of them. -/
theorem isSortable_iff {cells : List Json} :
    IsSortable cells ↔ IsPreorderOn compareCells cells := by
  constructor
  · exact fun h => ⟨fun a _ b _ => compareCells_swap a b,
      fun a ha b hb c hc => h.trans ha hb hc⟩
  · refine fun h => ⟨?_, ?_⟩
    · -- What is not a number would be in one place with both numbers.
      rintro n hn d hd hnan p hp q hq ⟨x, y, hx, hy, hlt⟩
      have hqn : (compareCells q n).isLE = true := by
        rw [isLE_compareCells_of_numbers hy hd, isBelow_iff hd hy, Double.lt_iff, hnan]
        simp
      have hnp : (compareCells n p).isLE = true := by
        rw [isLE_compareCells_of_numbers hd hx, isBelow_iff hx hd, Double.lt_iff, hnan]
        simp
      have hqp := h.trans q hq n hn p hp hqn hnp
      rw [isLE_compareCells_of_numbers hy hx] at hqp
      exact hqp ⟨x, y, hx, hy, hlt⟩
    · -- If the second number came first, then so would the text that is in front of its text.
      intro p hp q hq hpnumber hqnumber t ht hword hpt htq
      obtain ⟨x, hx⟩ := Option.isSome_iff_exists.1 hpnumber
      obtain ⟨y, hy⟩ := Option.isSome_iff_exists.1 hqnumber
      by_contra hbelow
      have hqp : (compareCells q p).isLE = true :=
        (isLE_compareCells_of_numbers hy hx).2 hbelow
      have hpt' : (compareCells p t).isLE = true :=
        (isLE_compareCells_of_texts (isNull_eq_false_of_number hx) hword.1 (.inr hword.2)).2
          (Std.le_of_lt hpt)
      have hqt := h.trans q hq p hp t ht hqp hpt'
      rw [isLE_compareCells_of_texts (isNull_eq_false_of_number hy) hword.1 (.inr hword.2),
        ← String.not_lt] at hqt
      exact hqt htq

/-- A column of numbers can be sorted. -/
theorem isSortable_of_numbers {cells : List Json}
    (h : ∀ v ∈ cells, v.isNull = true ∨ (asNumber? v).any (!·.isNan) = true) :
    IsSortable cells := by
  have hread {v : Json} (hv : v ∈ cells) (hnull : v.isNull = false) :
      ∃ x, asNumber? v = some x ∧ x.isNan = false := by
    have hany := (h v hv).resolve_left (ne_true_of_eq_false hnull)
    cases hx : asNumber? v with
    | none => simp [hx] at hany
    | some x => exact ⟨x, rfl, by simpa [hx] using hany⟩
  refine ⟨?_, ?_⟩
  · intro n hn d hd hnan
    obtain ⟨x, hx, hx'⟩ := hread hn (isNull_eq_false_of_number hd)
    rw [hx, Option.some.injEq] at hd
    rw [hd, hnan] at hx'
    cases hx'
  · intro p hp q hq hpnumber hqnumber t ht hword
    obtain ⟨x, hx, -⟩ := hread ht hword.1
    rw [hword.2] at hx
    cases hx

/-! ## Rows -/

theorem compareRows_cons (a b : Record) (k : SortKey) (keys : List SortKey) :
    compareRows a b (k :: keys) =
      (compareDirected k.direction (a.get k.field) (b.get k.field)).then
        (compareRows a b keys) := by
  rw [compareRows]
  cases compareDirected k.direction (a.get k.field) (b.get k.field) <;> rfl

theorem isPreorderOn_compareDirected {cells : List Json} (h : IsPreorderOn compareCells cells)
    (d : Direction) : IsPreorderOn (compareDirected d) cells := by
  cases d with
  | asc => exact h
  | desc => exact h.reversed

/-- Sort keys order rows if each column can be sorted. -/
theorem isPreorderOn_of_isSortable {keys : List SortKey} {rows : List Record}
    (h : ∀ k ∈ keys, IsSortable (rows.map (·.get k.field))) :
    IsPreorderOn (fun a b => compareRows a b keys) rows := by
  induction keys with
  | nil => exact ⟨fun _ _ _ _ => rfl, fun _ _ _ _ _ _ _ _ => rfl⟩
  | cons k keys ih =>
    obtain ⟨hfirst, hrest⟩ := List.forall_mem_cons.1 h
    simp only [compareRows_cons]
    have hcells := isPreorderOn_compareDirected (isSortable_iff.1 hfirst) k.direction
    exact IsPreorderOn.andThen (IsPreorderOn.map_iff.1 hcells) (ih hrest)

theorem compareRows_swap (a b : Record) (keys : List SortKey) :
    compareRows b a keys = (compareRows a b keys).swap := by
  induction keys with
  | nil => rfl
  | cons k keys ih =>
    rw [compareRows_cons, compareRows_cons, ih, Ordering.swap_then]
    congr 1
    cases k.direction with
    | asc => exact compareCells_swap _ _
    | desc => exact congrArg Ordering.swap (compareCells_swap _ _)

/-- A row is put among sorted rows, the last one first. -/
theorem pairwise_insertRow {keys : List SortKey} {all rows : List Record} {row : Record}
    (h : IsPreorderOn (fun a b => compareRows a b keys) all) (hrow : row ∈ all) (hrows : rows ⊆ all)
    (hsorted : rows.Pairwise fun a b => (compareRows b a keys).isLE = true) :
    (insertRow keys row rows).Pairwise fun a b => (compareRows b a keys).isLE = true := by
  induction rows with
  | nil => exact List.pairwise_singleton _ _
  | cons r rest ih =>
    obtain ⟨hr, hrest⟩ := List.cons_subset.1 hrows
    obtain ⟨hfirst, htail⟩ := List.pairwise_cons.1 hsorted
    rw [insertRow]
    split
    · rename_i hlt
      refine List.pairwise_cons.2 ⟨fun s hs => ?_, ih hrest htail⟩
      rcases List.mem_cons.1 ((perm_insertRow keys row rest).subset hs) with rfl | hs
      · rw [hlt]
        rfl
      · exact hfirst s hs
    · rename_i hlt
      have hle : (compareRows r row keys).isLE = true := by
        rw [compareRows_swap row r]
        cases hcmp : compareRows row r keys with
        | lt => exact absurd hcmp hlt
        | _ => rfl
      refine List.pairwise_cons.2 ⟨fun s hs => ?_, hsorted⟩
      rcases List.mem_cons.1 hs with rfl | hs
      · exact hle
      · exact h.trans s (hrest hs) r hr row hrow (hfirst s hs) hle

/-- Where sort keys order rows, sorting puts these in order. -/
theorem pairwise_sortRows {keys : List SortKey} {rows : List Record}
    (h : IsPreorderOn (fun a b => compareRows a b keys) rows) :
    (sortRows keys rows).Pairwise fun a b => (compareRows a b keys).isLE = true := by
  have hfold {left sorted : List Record} (hleft : left ⊆ rows) (hsub : sorted ⊆ rows)
      (hsorted : sorted.Pairwise fun a b => (compareRows b a keys).isLE = true) :
      (left.foldl (fun sorted row => insertRow keys row sorted) sorted).Pairwise
        fun a b => (compareRows b a keys).isLE = true := by
    induction left generalizing sorted with
    | nil => exact hsorted
    | cons row left ih =>
      obtain ⟨hrow, hleft⟩ := List.cons_subset.1 hleft
      refine ih hleft ?_ (pairwise_insertRow h hrow hsub hsorted)
      exact fun s hs => (List.mem_cons.1 ((perm_insertRow keys row sorted).subset hs)).elim
        (fun heq => heq ▸ hrow) (fun hs => hsub hs)
  exact List.pairwise_reverse.2 (hfold (List.Subset.refl rows) (List.nil_subset _) .nil)

/-- The order of two rows is always the reverse of the order of the two the other way round. The
    order of rows is transitive for all sort keys over some fields exactly if each of these columns
    can be sorted. All pages of a search are cut out of one list, and none of its rows comes before
    an earlier one if the columns of the sort keys can be sorted. -/
theorem isPreorderOn_compareRows (fields : List String) (rows : List Record) :
    (∀ (keys : List SortKey) (a b : Record),
      compareRows b a keys = (compareRows a b keys).swap) ∧
    ((∀ keys : List SortKey, (∀ k ∈ keys, k.field ∈ fields) →
        IsPreorderOn (fun a b => compareRows a b keys) rows) ↔
      ∀ f ∈ fields, IsSortable (rows.map (·.get f))) ∧
    ∀ (tx : Transaction) (e : Entity) (s : Selection) (o : FindOptions) (page : Page),
      tx.findPage e s o = .ok page →
      ∃ found, tx.found e s o.distinct = .ok found ∧
        page.items = (((sortRows o.sort found).drop o.offset).take o.limit).map
          (tx.populated e o.populate) ∧
        ((∀ k ∈ o.sort, IsSortable (found.map (·.get k.field))) →
          (sortRows o.sort found).Pairwise fun a b => (compareRows a b o.sort).isLE = true) := by
  refine ⟨fun keys a b => compareRows_swap a b keys, ⟨?_, ?_⟩, ?_⟩
  · intro h f hf
    have hsingle := h [⟨f, .asc⟩] (List.forall_mem_singleton.2 hf)
    have hcells (a b : Record) :
        compareRows a b [⟨f, .asc⟩] = compareCells (a.get f) (b.get f) := by
      rw [compareRows_cons, compareRows, Ordering.then_eq]
      rfl
    simp only [hcells] at hsingle
    rw [isSortable_iff, IsPreorderOn.map_iff]
    exact hsingle
  · exact fun h keys hkeys => isPreorderOn_of_isSortable fun k hk => h _ (hkeys k hk)
  · intro tx e s o page hpage
    obtain ⟨found, hfound, -, rfl⟩ := Transaction.findPage_eq_ok_iff.1 hpage
    exact ⟨found, hfound, rfl, fun h => pairwise_sortRows (isPreorderOn_of_isSortable h)⟩

namespace Houses

/-- A house by its number. -/
def house (number : String) : Record := [("number", .str number)]

/-- By the numbers of houses, upwards. -/
def byNumber : List SortKey := [⟨"number", .asc⟩]

end Houses

/-- Houses without letters in their numbers can be sorted. -/
theorem isPreorderOn_houses :
    let rows := [Houses.house "10", Houses.house "9", []]
    (∀ f ∈ ["number"], IsSortable (rows.map (·.get f))) ∧
      IsPreorderOn (fun a b => compareRows a b Houses.byNumber) rows ∧
      sortRows Houses.byNumber rows = [Houses.house "9", Houses.house "10", []] := by
  intro rows
  have hsortable : ∀ f ∈ ["number"], IsSortable (rows.map (·.get f)) := by
    refine List.forall_mem_singleton.2 (isSortable_of_numbers ?_)
    decide +kernel
  refine ⟨hsortable, ?_, by decide +kernel⟩
  exact (isPreorderOn_compareRows ["number"] rows).2.1.2 hsortable Houses.byNumber (by decide)

/-- The order of rows is not always transitive: 9 is less than 10, and as texts `10` comes before
    `1a` and that before `9`. -/
theorem not_isLE_compareRows_trans :
    ¬∀ (keys : List SortKey) (a b c : Record), (compareRows a b keys).isLE = true →
      (compareRows b c keys).isLE = true → (compareRows a c keys).isLE = true := by
  intro h
  have hac := h Houses.byNumber (Houses.house "9") (Houses.house "10") (Houses.house "1a")
    (by decide +kernel) (by decide +kernel)
  exact absurd hac (by decide +kernel)

end Depot
