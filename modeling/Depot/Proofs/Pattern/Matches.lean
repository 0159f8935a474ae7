import Depot.Pattern.Build

/-!
# Where patterns match

Patterns are searched by sets of places: from the places where matches may start to those where
they may end. Here a match is a way from one place to another, and the sets are shown to hold the
ends of such ways and nothing else.

* `Motion.Leads`: whether a motion leads from a place to another.
* `Motion.IsFront`: how far a repetition has got.
* `Pattern.Matches`: whether a pattern matches a text from a place to another.
* `Pattern.MatchesAll`: whether patterns match one after the other.

Results:
* `stepUpTo_iff`: steps from new places only reach whatever can be reached.
* `testBit_image`: a motion leads from the places of a set to where it leads from one of them.
* `isMatch_iff`: a text matches if some part of it does.
* `matches_concat`: a sequence in its plain form matches as its patterns do, one after the other.
* `matches_textStart`, `matches_textEnd`: the conditions that hold at one place only.
-/

namespace Depot

namespace Motion

/-! ## Ways -/

/-- A number of steps. -/
def Steps (R : Nat → Nat → Prop) : (n : Nat) → Nat → Nat → Prop
  | 0, i, j => i = j
  | n + 1, i, j => ∃ k, R i k ∧ Steps R n k j

/-- Whether characters are crossed, each from a place of a set. -/
def Crosses : (ways : List PlaceSet) → Nat → Nat → Prop
  | [], i, j => i = j
  | way :: ways, i, j => way.testBit i = true ∧ Crosses ways (i + 1) j

/-- Whether a motion leads from a place to another. -/
def Leads : Motion → Nat → Nat → Prop
  | .hold here, i, j => here.testBit i = true ∧ i = j
  | .cross ways, i, j => Crosses ways i j
  | .seq x y, i, j => ∃ k, x.Leads i k ∧ y.Leads k j
  | .alt x y, i, j => x.Leads i j ∨ y.Leads i j
  | .rep x least more, i, j => ∃ n, least ≤ n ∧ n ≤ least + more ∧ Steps x.Leads n i j

/-- A function leads from the places of a set to where a relation leads from one of them. -/
def Tracks (f : PlaceSet → PlaceSet) (R : Nat → Nat → Prop) : Prop :=
  ∀ (set : PlaceSet) (j : Nat), (f set).testBit j = true ↔ ∃ i, set.testBit i = true ∧ R i j

variable {R : Nat → Nat → Prop} {f : PlaceSet → PlaceSet}

theorem steps_add (a b i j : Nat) : Steps R (a + b) i j ↔ ∃ k, Steps R a i k ∧ Steps R b k j := by
  induction a generalizing i with
  | zero => simp [Steps]
  | succ a ih =>
    rw [Nat.succ_add]
    simp only [Steps, ih]
    constructor
    · rintro ⟨l, hl, k, hk, hj⟩
      exact ⟨k, ⟨l, hl, hk⟩, hj⟩
    · rintro ⟨k, ⟨l, hl, hk⟩, hj⟩
      exact ⟨l, hl, k, hk, hj⟩

/-! ## Repetition -/

theorem tracks_stepTimes (h : Tracks f R) (n : Nat) : Tracks (stepTimes f n) (Steps R n) := by
  induction n with
  | zero => simp [Tracks, stepTimes, Steps]
  | succ n ih =>
    intro set j
    rw [stepTimes, ih]
    constructor
    · rintro ⟨k, hk, hj⟩
      obtain ⟨i, hi, hik⟩ := (h set k).1 hk
      exact ⟨i, hi, k, hik, hj⟩
    · rintro ⟨i, hi, k, hik, hj⟩
      exact ⟨k, (h set k).2 ⟨i, hi, hik⟩, hj⟩

/-- How far a repetition has got: the places of `front` are seen, and from all others that are seen
    each step leads to a place that is seen. -/
structure IsFront (R : Nat → Nat → Prop) (seen front : PlaceSet) : Prop where
  mem_seen : ∀ i, front.testBit i = true → seen.testBit i = true
  closed : ∀ i j, seen.testBit i = true → front.testBit i = false → R i j → seen.testBit j = true

namespace IsFront

theorem refl (set : PlaceSet) : IsFront R set set where
  mem_seen := fun _ hi => hi
  closed := by
    intro i j hi hfront
    rw [hi] at hfront
    cases hfront

variable {seen front : PlaceSet}

/-- Steps that leave the places that are seen leave them from the front. -/
theorem seen_or_front (h : IsFront R seen front) {m i j : Nat} (hi : seen.testBit i = true)
    (hj : Steps R m i j) :
    seen.testBit j = true ∨ ∃ n ≤ m, ∃ k, front.testBit k = true ∧ Steps R n k j := by
  induction m generalizing i with
  | zero =>
    obtain rfl : i = j := hj
    exact .inl hi
  | succ m ih =>
    obtain ⟨k, hik, hkj⟩ := hj
    cases hfront : front.testBit i with
    | true => exact .inr ⟨m + 1, Nat.le_refl _, i, hfront, k, hik, hkj⟩
    | false =>
      rcases ih (h.closed i k hi hfront hik) hkj with hseen | ⟨n, hn, hsteps⟩
      · exact .inl hseen
      · exact .inr ⟨n, Nat.le_succ_of_le hn, hsteps⟩

/-- One step from the front, for each place that is seen: the others stay among the seen anyway. -/
theorem step_mem (h : IsFront R seen front) (hf : Tracks f R) {i j : Nat}
    (hi : seen.testBit i = true) (hij : R i j) :
    (seen ||| (f front).minus seen).testBit j = true := by
  rw [Nat.testBit_or, PlaceSet.testBit_minus]
  cases hfront : front.testBit i with
  | true =>
    have hj : (f front).testBit j = true := (hf front j).2 ⟨i, hfront, hij⟩
    cases hseen : seen.testBit j <;> simp [hj]
  | false => rw [h.closed i j hi hfront hij, Bool.true_or]

/-- The places that are new after one step from the front are the next front. -/
theorem next (h : IsFront R seen front) (hf : Tracks f R) :
    IsFront R (seen ||| (f front).minus seen) ((f front).minus seen) where
  mem_seen := by
    intro i hi
    rw [Nat.testBit_or, hi, Bool.or_true]
  closed := by
    intro i j hi hfresh hij
    rw [Nat.testBit_or, hfresh, Bool.or_false] at hi
    exact h.step_mem hf hi hij

/-- What is reached in at most `n + 1` steps is what is reached in at most `n` from the next
    front. -/
theorem reached_succ_iff (h : IsFront R seen front) (hf : Tracks f R) (n j : Nat) :
    ((seen ||| (f front).minus seen).testBit j = true ∨
        ∃ m ≤ n, ∃ i, ((f front).minus seen).testBit i = true ∧ Steps R m i j) ↔
      seen.testBit j = true ∨ ∃ m ≤ n + 1, ∃ i, front.testBit i = true ∧ Steps R m i j := by
  have hfresh : ∀ {k}, ((f front).minus seen).testBit k = true →
      ∃ i, front.testBit i = true ∧ R i k := by
    intro k hk
    rw [PlaceSet.testBit_minus, Bool.and_eq_true] at hk
    exact (hf front k).1 hk.1
  constructor
  · rintro (hj | ⟨m, hm, k, hk, hkj⟩)
    · rw [Nat.testBit_or, Bool.or_eq_true] at hj
      rcases hj with hj | hj
      · exact .inl hj
      · obtain ⟨i, hi, hij⟩ := hfresh hj
        exact .inr ⟨1, Nat.le_add_left 1 n, i, hi, j, hij, rfl⟩
    · obtain ⟨i, hi, hik⟩ := hfresh hk
      exact .inr ⟨m + 1, Nat.succ_le_succ hm, i, hi, k, hik, hkj⟩
  · rintro (hj | ⟨m, hm, i, hi, hij⟩)
    · left
      rw [Nat.testBit_or, hj, Bool.true_or]
    · cases m with
      | zero =>
        obtain rfl : i = j := hij
        left
        rw [Nat.testBit_or, h.mem_seen i hi, Bool.true_or]
      | succ m =>
        obtain ⟨k, hik, hkj⟩ := hij
        have hk := h.step_mem hf (h.mem_seen i hi) hik
        rcases (h.next hf).seen_or_front hk hkj with hj | ⟨m', hm', hsteps⟩
        · exact .inl hj
        · exact .inr ⟨m', by omega, hsteps⟩

end IsFront

/-- It is enough to go on from the places that were not seen before: the others that are seen lead
    to places that are seen. -/
theorem stepUpTo_iff (hf : Tracks f R) (n : Nat) {seen front : PlaceSet}
    (h : IsFront R seen front) (j : Nat) :
    (stepUpTo f n seen front).testBit j = true ↔
      seen.testBit j = true ∨ ∃ m ≤ n, ∃ i, front.testBit i = true ∧ Steps R m i j := by
  induction n generalizing seen front with
  | zero =>
    rw [stepUpTo]
    refine ⟨.inl, ?_⟩
    rintro (hj | ⟨m, hm, i, hi, hsteps⟩)
    · exact hj
    · obtain rfl := Nat.le_zero.1 hm
      obtain rfl : i = j := hsteps
      exact h.mem_seen i hi
  | succ n ih =>
    rw [stepUpTo, ← h.reached_succ_iff hf]
    by_cases hnone : (f front).minus seen = 0
    · -- nothing new is reached, so nothing else ever is
      simp [hnone]
    · rw [if_neg hnone, ih (h.next hf)]

/-! ## All motions -/

theorem tracks_cross (ways : List PlaceSet) :
    Tracks (Motion.cross ways).image (Motion.cross ways).Leads := by
  induction ways with
  | nil => simp [Tracks, image, Leads, Crosses]
  | cons way ways ih =>
    intro set j
    have hcross := ih (set &&& way).shift j
    simp only [image, Leads, List.foldl_cons, Crosses] at hcross ⊢
    rw [hcross]
    constructor
    · rintro ⟨k, hk, hkj⟩
      cases k with
      | zero =>
        rw [PlaceSet.shift, Nat.testBit_shiftLeft] at hk
        simp at hk
      | succ i =>
        rw [PlaceSet.testBit_shift, Nat.testBit_and, Bool.and_eq_true] at hk
        exact ⟨i, hk.1, hk.2, hkj⟩
    · rintro ⟨i, hi, hway, hij⟩
      refine ⟨i + 1, ?_, hij⟩
      rw [PlaceSet.testBit_shift, Nat.testBit_and, hi, hway, Bool.and_self]

theorem tracks_rep {x : Motion} (h : Tracks x.image x.Leads) (least more : Nat) :
    Tracks (Motion.rep x least more).image (Motion.rep x least more).Leads := by
  intro set j
  have hbase := tracks_stepTimes h least set
  rw [image, stepUpTo_iff h more (IsFront.refl _), hbase]
  constructor
  · rintro (⟨i, hi, hij⟩ | ⟨m, hm, k, hk, hkj⟩)
    · exact ⟨i, hi, least, Nat.le_refl _, Nat.le_add_right _ _, hij⟩
    · obtain ⟨i, hi, hik⟩ := (hbase k).1 hk
      refine ⟨i, hi, least + m, Nat.le_add_right _ _, Nat.add_le_add_left hm _, ?_⟩
      exact (steps_add least m i j).2 ⟨k, hik, hkj⟩
  · rintro ⟨i, hi, n, hleast, hmore, hij⟩
    obtain ⟨m, rfl⟩ := Nat.exists_eq_add_of_le hleast
    obtain ⟨k, hik, hkj⟩ := (steps_add least m i j).1 hij
    exact .inr ⟨m, by omega, k, (hbase k).2 ⟨i, hi, hik⟩, hkj⟩

theorem tracks_image (x : Motion) : Tracks x.image x.Leads := by
  induction x with
  | hold here =>
    intro set j
    rw [image, Nat.testBit_and, Bool.and_eq_true]
    constructor
    · rintro ⟨hset, hhere⟩
      exact ⟨j, hset, hhere, rfl⟩
    · rintro ⟨i, hset, hhere, rfl⟩
      exact ⟨hset, hhere⟩
  | cross ways => exact tracks_cross ways
  | seq x y hx hy =>
    intro set j
    rw [image, hy]
    constructor
    · rintro ⟨k, hk, hkj⟩
      obtain ⟨i, hi, hik⟩ := (hx set k).1 hk
      exact ⟨i, hi, k, hik, hkj⟩
    · rintro ⟨i, hi, k, hik, hkj⟩
      exact ⟨k, (hx set k).2 ⟨i, hi, hik⟩, hkj⟩
  | alt x y hx hy =>
    intro set j
    rw [image, Nat.testBit_or, Bool.or_eq_true, hx, hy, ← exists_or]
    simp only [Leads, and_or_left]
  | rep x least more hx => exact tracks_rep hx least more

theorem testBit_image (x : Motion) (set : PlaceSet) (j : Nat) :
    (x.image set).testBit j = true ↔ ∃ i, set.testBit i = true ∧ x.Leads i j :=
  tracks_image x set j

end Motion

namespace Pattern

/-! ## Patterns -/

/-- Whether a pattern matches a text from a place to another. -/
def Matches (cs : List Char) (p : Pattern) (i j : Nat) : Prop := (p.motion (.ofText cs)).Leads i j

/-- Whether patterns match a text one after the other. -/
def MatchesAll (cs : List Char) : (ps : List Pattern) → Nat → Nat → Prop
  | [], i, j => i = j
  | p :: ps, i, j => ∃ k, p.Matches cs i k ∧ MatchesAll cs ps k j

variable {cs : List Char} {p q : Pattern} {ps qs : List Pattern} {i j : Nat}

theorem getElem?_placesFrom (before : Option Char) (cs : List Char) (i : Nat) :
    (placesFrom before cs)[i]? =
      if i ≤ cs.length then some ⟨if i = 0 then before else cs[i - 1]?, cs[i]?⟩ else none := by
  induction cs generalizing before i with
  | nil => cases i <;> simp [placesFrom]
  | cons c cs ih =>
    cases i with
    | zero => simp [placesFrom]
    | succ i =>
      have hbefore : (if i = 0 then some c else cs[i - 1]?) = (c :: cs)[i]? := by
        cases i <;> simp
      simp [placesFrom, ih, hbefore]

theorem getElem?_places (cs : List Char) (i : Nat) : (Layout.ofText cs).places[i]? =
    if i ≤ cs.length then some ⟨if i = 0 then none else cs[i - 1]?, cs[i]?⟩ else none :=
  getElem?_placesFrom none cs i

theorem testBit_everywhere (cs : List Char) (i : Nat) :
    (Layout.ofText cs).everywhere.testBit i = decide (i ≤ cs.length) := by
  rw [Layout.everywhere, PlaceSet.testBit_select, getElem?_places]
  split <;> simp_all

theorem isMatch_iff (p : Pattern) (s : String) :
    p.isMatch s = true ↔ ∃ i j, i ≤ s.toList.length ∧ p.Matches s.toList i j := by
  have himage : ∀ j, (p.image (.ofText s.toList) (Layout.ofText s.toList).everywhere).testBit j =
      true ↔ ∃ i, i ≤ s.toList.length ∧ p.Matches s.toList i j := by
    intro j
    rw [image, Motion.testBit_image]
    simp only [testBit_everywhere, decide_eq_true_iff, Matches]
  rw [isMatch_eq, bne_iff_ne]
  constructor
  · intro hne
    obtain ⟨j, hj⟩ := Nat.exists_testBit_of_ne_zero hne
    obtain ⟨i, hi, hij⟩ := (himage j).1 hj
    exact ⟨i, j, hi, hij⟩
  · rintro ⟨i, j, hi, hij⟩ hzero
    have hbit := (himage j).2 ⟨i, hi, hij⟩
    rw [hzero, Nat.zero_testBit] at hbit
    cases hbit

/-! ## Sequences -/

theorem matchesAll_append :
    MatchesAll cs (ps ++ qs) i j ↔ ∃ k, MatchesAll cs ps i k ∧ MatchesAll cs qs k j := by
  induction ps generalizing i with
  | nil => simp [MatchesAll]
  | cons p ps ih =>
    simp only [List.cons_append, MatchesAll, ih]
    constructor
    · rintro ⟨l, hl, k, hk, hj⟩
      exact ⟨k, ⟨l, hl, hk⟩, hj⟩
    · rintro ⟨k, ⟨l, hl, hk⟩, hj⟩
      exact ⟨l, hl, k, hk, hj⟩

theorem matchesAll_singleton : MatchesAll cs [p] i j ↔ p.Matches cs i j := by
  simp [MatchesAll]

theorem matches_ofParts : (ofParts ps).Matches cs i j ↔ MatchesAll cs ps i j := by
  induction ps generalizing i with
  | nil => rfl
  | cons p ps ih =>
    cases ps with
    | nil => exact matchesAll_singleton.symm
    | cons q qs =>
      show (∃ k, p.Matches cs i k ∧ (ofParts (q :: qs)).Matches cs k j) ↔ _
      simp only [ih, MatchesAll]

theorem matchesAll_parts : MatchesAll cs p.parts i j ↔ p.Matches cs i j := by
  induction p generalizing i with
  | empty => rfl
  | seq p q hp hq =>
    show (∃ k, p.Matches cs i k ∧ MatchesAll cs q.parts k j) ↔ _
    simp only [hq]
    rfl
  | _ => exact matchesAll_singleton

theorem matchesAll_flatMap_parts :
    MatchesAll cs (ps.flatMap parts) i j ↔ MatchesAll cs ps i j := by
  induction ps generalizing i with
  | nil => rfl
  | cons p ps ih =>
    simp only [List.flatMap_cons, matchesAll_append, matchesAll_parts, ih, MatchesAll]

theorem crosses_append {ways more : List PlaceSet} :
    Motion.Crosses (ways ++ more) i j ↔ ∃ k, Motion.Crosses ways i k ∧ Motion.Crosses more k j := by
  induction ways generalizing i with
  | nil => simp [Motion.Crosses]
  | cons way ways ih => simp only [List.cons_append, Motion.Crosses, ih, and_assoc, exists_and_left]

/-- A text that is put in front of another one is matched before it. -/
theorem matchesAll_prepend : MatchesAll cs (prepend p ps) i j ↔ MatchesAll cs (p :: ps) i j := by
  unfold prepend
  split
  · rename_i a b ps
    have happend : (literal (a ++ b)).Matches cs i = fun k =>
        ∃ l, (literal a).Matches cs i l ∧ (literal b).Matches cs l k := by
      funext k
      simp only [Matches, motion, Motion.Leads, List.map_append, crosses_append]
    simp only [MatchesAll, happend]
    constructor
    · rintro ⟨k, ⟨l, hl, hk⟩, hj⟩
      exact ⟨l, hl, k, hk, hj⟩
    · rintro ⟨l, hl, k, hk, hj⟩
      exact ⟨k, ⟨l, hl, hk⟩, hj⟩
  · rfl

theorem matchesAll_foldr_prepend :
    MatchesAll cs (ps.foldr prepend []) i j ↔ MatchesAll cs ps i j := by
  induction ps generalizing i with
  | nil => rfl
  | cons p ps ih =>
    rw [List.foldr_cons, matchesAll_prepend]
    simp only [MatchesAll, ih]

theorem matches_concat : (concat ps).Matches cs i j ↔ MatchesAll cs ps i j := by
  rw [concat, matches_ofParts, matchesAll_foldr_prepend, matchesAll_flatMap_parts]

/-! ## Parts -/

theorem matches_textStart : (anchor .textStart).Matches cs i j ↔ i = 0 ∧ j = 0 := by
  have hhere : ((Layout.ofText cs).holding .textStart).testBit i = decide (i = 0) := by
    rw [Layout.holding, PlaceSet.testBit_select, getElem?_places]
    by_cases hi : i ≤ cs.length
    · cases i with
      | zero => simp [Place.satisfies]
      | succ i =>
        have hlt : i < cs.length := hi
        simp [Place.satisfies, hi, hlt]
    · have hne : i ≠ 0 := by omega
      simp [hi, hne]
  show (_ ∧ _) ↔ _
  rw [hhere, decide_eq_true_iff]
  omega

theorem matches_textEnd :
    (anchor .textEnd).Matches cs i j ↔ i = cs.length ∧ j = cs.length := by
  have hhere : ((Layout.ofText cs).holding .textEnd).testBit i = decide (i = cs.length) := by
    rw [Layout.holding, PlaceSet.testBit_select, getElem?_places]
    rcases Nat.lt_trichotomy i cs.length with hi | rfl | hi
    · simp [Place.satisfies, Nat.le_of_lt hi, hi, Nat.ne_of_lt hi]
    · simp [Place.satisfies]
    · simp [Nat.not_le_of_lt hi, Nat.ne_of_gt hi]
  show (_ ∧ _) ↔ _
  rw [hhere, decide_eq_true_iff]
  omega

/-- A character is matched where it comes next. -/
theorem matches_character {c : Char} {a b : List Char} :
    (literal [c]).Matches (a ++ b) a.length j ↔ ∃ rest, b = c :: rest ∧ j = a.length + 1 := by
  show (((Layout.ofText (a ++ b)).letter c).testBit a.length = true ∧ a.length + 1 = j) ↔ _
  rw [Layout.testBit_letter, List.getElem?_append_right (Nat.le_refl _), Nat.sub_self]
  cases b with
  | nil => simp
  | cons d b => simp [@eq_comm _ j]

/-- A set is matched where one of its characters comes next. -/
theorem matches_oneOf {s : CharSet} {a b : List Char} : (oneOf s).Matches (a ++ b) a.length j ↔
    ∃ c rest, b = c :: rest ∧ s.mem c = true ∧ j = a.length + 1 := by
  show (((Layout.ofText (a ++ b)).letters s).testBit a.length = true ∧ a.length + 1 = j) ↔ _
  rw [Layout.testBit_letters, List.getElem?_append_right (Nat.le_refl _), Nat.sub_self]
  cases b with
  | nil => simp
  | cons d b => simp [@eq_comm _ j]

theorem steps_oneOf {s : CharSet} {n : Nat} {a b : List Char} :
    Motion.Steps ((oneOf s).Matches (a ++ b)) n a.length j ↔
      ∃ x y, b = x ++ y ∧ x.length = n ∧ (∀ c ∈ x, s.mem c = true) ∧ j = a.length + n := by
  induction n generalizing a b with
  | zero =>
    constructor
    · intro h
      exact ⟨[], b, rfl, rfl, by simp, h.symm⟩
    · rintro ⟨x, y, -, -, -, hj⟩
      exact hj.symm
  | succ n ih =>
    simp only [Motion.Steps, matches_oneOf]
    constructor
    · rintro ⟨k, ⟨c, rest, rfl, hc, rfl⟩, hsteps⟩
      have hshift : a ++ c :: rest = (a ++ [c]) ++ rest := by simp
      have hlength : a.length + 1 = (a ++ [c]).length := by simp
      rw [hshift, hlength, ih] at hsteps
      obtain ⟨x, y, rfl, rfl, hx, rfl⟩ := hsteps
      refine ⟨c :: x, y, rfl, rfl, ?_, by simp; omega⟩
      simpa [hc] using hx
    · rintro ⟨x, y, rfl, hlength, hx, rfl⟩
      cases x with
      | nil => cases hlength
      | cons c x =>
        obtain ⟨hc, hx⟩ := List.forall_mem_cons.1 hx
        refine ⟨a.length + 1, ⟨c, x ++ y, rfl, hc, rfl⟩, ?_⟩
        have hshift : a ++ (c :: x ++ y) = (a ++ [c]) ++ (x ++ y) := by simp
        have hlength' : a.length + 1 = (a ++ [c]).length := by simp
        rw [hshift, hlength', ih]
        exact ⟨x, y, rfl, by simpa using hlength, hx, by simp; omega⟩

/-- The repetition of a set matches as many of its characters as come next. -/
theorem matches_rep_oneOf {s : CharSet} {greedy : Bool} {a b : List Char} :
    (rep (oneOf s) 0 none greedy).Matches (a ++ b) a.length j ↔
      ∃ x y, b = x ++ y ∧ (∀ c ∈ x, s.mem c = true) ∧ j = a.length + x.length := by
  have hplaces : (Layout.ofText (a ++ b)).places.length = (a ++ b).length + 1 :=
    length_placesFrom none (a ++ b)
  show (∃ n, min 0 _ ≤ n ∧ n ≤ min 0 _ + _ ∧
    Motion.Steps ((oneOf s).Matches (a ++ b)) n a.length j) ↔ _
  simp only [steps_oneOf, hplaces]
  constructor
  · rintro ⟨n, -, -, x, y, hb, rfl, hx, hj⟩
    exact ⟨x, y, hb, hx, hj⟩
  · rintro ⟨x, y, rfl, hx, hj⟩
    refine ⟨x.length, by omega, ?_, x, y, rfl, rfl, hx, hj⟩
    simp only [List.length_append]
    omega

end Pattern

end Depot
