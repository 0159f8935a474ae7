import Depot.Pattern.Automaton
import Mathlib.Algebra.GroupWithZero.Nat

/-!
# How large automata get

Whether the automata of a pattern are small enough is found by adding their states one by one. Here
it is found from the pattern. What a part takes is added up over the parts that follow each other,
and a part that is repeated without end takes little more than itself. States that are shared only
make an automaton smaller.

* `Sketch.weight`: how many bytes a sketch takes at most.
* `Sketch.IsStraight`: sketches without choices and without repetitions that are written out.
* `Grows`: what is added to a draft takes no more than a number of bytes.
* `totalWeight`: how many bytes patterns take at most, one after the other.

Results:
* `size_carryOut_le`: the states of a plan take no more than the weight of the plan.
* `grows_build`: a straight sketch takes no more than its weight.
* `fits_of_weight`: the automata of a straight pattern are small enough if its weight is.
* `weight_concat_le`, `isStraight_concat`: sequences in their plain form.
-/

namespace Depot.Pattern

/-- How many bytes the states of a plan take if none of them is shared. -/
def Plan.weight (plan : Plan) : Nat := (plan.toList.map fun steps => 32 + 8 * steps.length).sum

namespace Sketch

/-- How many bytes a sketch takes at most. -/
def weight : Sketch → Nat
  | .states count extra plan => 32 * count + extra + plan.weight
  | .seq p q | .fork p q => p.weight + q.weight
  | .rep p _ _ _ => p.weight + 112
  | .framed p => p.weight + 64

/-- Whether a sketch has no choice and repeats parts only without end. -/
def IsStraight : Sketch → Prop
  | .states _ _ _ => True
  | .seq p q => p.IsStraight ∧ q.IsStraight
  | .fork _ _ => False
  | .rep p _ least most => least = 0 ∧ most = none ∧ p.IsStraight
  | .framed p => p.IsStraight

end Sketch

/-- What is added to a draft takes no more than `n` bytes, with those that it takes to lead on from
    it, as long as these are within the limit. -/
def Grows (one : Draft → Option Built) (n : Nat) : Prop :=
  ∀ d, d.size + n ≤ maxSize → ∃ b, one d = some b ∧ b.draft.size + b.link ≤ d.size + n

variable {d : Draft} {states extra : Nat} {one other : Draft → Option Built} {m n : Nat}
  {backward : Bool}

/-! ## States -/

theorem add_eq_some (h : d.size + (32 * states + extra) ≤ maxSize) :
    d.add states extra = some (d.plus states extra) := by
  rw [Draft.add, if_pos]
  rw [Draft.size_add]
  omega

/-- A planned state takes its own bytes, or none if it is shared. -/
theorem size_step_le (backward : Bool) (x : Execution) (steps : List ByteStep) :
    (x.step backward steps).draft.size ≤ x.draft.size + (32 + 8 * steps.length) := by
  obtain ⟨draft, memory, numbers⟩ := x
  dsimp only [Execution.step]
  split
  · exact Nat.le_add_right _ _
  · rw [Draft.size_add, List.length_map]
    split <;> omega

theorem size_carryOut_le (backward : Bool) (plan : Plan) (d : Draft) :
    (plan.carryOut backward d).size ≤ d.size + plan.weight := by
  have hfold : ∀ (plan : List (List ByteStep)) (x : Execution),
      (plan.foldl (Execution.step backward) x).draft.size ≤
        x.draft.size + (plan.map fun steps => 32 + 8 * steps.length).sum := by
    intro plan
    induction plan with
    | nil => exact fun x => Nat.le_refl _
    | cons steps plan ih =>
      intro x
      have hrest := ih (x.step backward steps)
      have hfirst := size_step_le backward x steps
      rw [List.foldl_cons, List.map_cons, List.sum_cons]
      omega
  rw [Plan.carryOut, Plan.weight, ← Array.foldl_toList]
  exact hfold _ _

/-! ## Sketches -/

/-- Leading on to what is added next. -/
theorem Grows.after_link (hone : Grows one n) {b : Built}
    (hb : b.draft.size + b.link + n ≤ maxSize) :
    ∃ b', (b.draft.add 0 b.link).bind one = some b' ∧
      b'.draft.size + b'.link ≤ b.draft.size + b.link + n := by
  have hlink : b.draft.size + (32 * 0 + b.link) ≤ maxSize := by omega
  obtain ⟨b', hb', hsize⟩ := hone (b.draft.plus 0 b.link) (by rw [Draft.size_add]; omega)
  rw [Draft.size_add] at hsize
  refine ⟨b', ?_, by omega⟩
  rw [add_eq_some hlink, Option.bind_some, hb']

/-- A repetition without end takes a fork, or three states if it has to start anew. -/
theorem Grows.endless (hone : Grows one n) (neverEmpty : Bool) :
    Grows (addEndless one neverEmpty 0) (n + 112) := by
  intro d hd
  cases neverEmpty with
  | true =>
    have hstate : d.size + (32 * 1 + 0) ≤ maxSize := by omega
    obtain ⟨b, hb, hsize⟩ := hone (d.plus 1 0) (by rw [Draft.size_add]; omega)
    rw [Draft.size_add] at hsize
    have hlink : b.draft.size + (32 * 0 + (4 + b.link)) ≤ maxSize := by omega
    refine ⟨⟨b.draft.plus 0 (4 + b.link), true⟩, ?_, ?_⟩
    · simp [addEndless, add_eq_some hstate, hb, add_eq_some hlink]
    · show (b.draft.plus 0 (4 + b.link)).size + 4 ≤ _
      rw [Draft.size_add]
      omega
  | false =>
    obtain ⟨b, hb, hsize⟩ := hone d (by omega)
    have hstates : b.draft.size + (32 * 3 + (16 + b.link)) ≤ maxSize := by omega
    refine ⟨⟨b.draft.plus 3 (16 + b.link), false⟩, ?_, ?_⟩
    · simp [addEndless, hb, add_eq_some hstates]
    · show (b.draft.plus 3 (16 + b.link)).size + 0 ≤ _
      rw [Draft.size_add]
      omega

theorem grows_states (backward : Bool) (count extra : Nat) (plan : Plan) :
    Grows (build backward (.states count extra plan) .only) (32 * count + extra + plan.weight) := by
  intro d hd
  have hplan := size_carryOut_le backward plan (d.plus count extra)
  rw [Draft.size_add] at hplan
  have hnone : (plan.carryOut backward (d.plus count extra)).size + (32 * 0 + 0) ≤ maxSize := by
    omega
  refine ⟨⟨(plan.carryOut backward (d.plus count extra)).plus 0 0, false⟩, ?_, ?_⟩
  · rw [build, add_eq_some hnone]
    rfl
  · show ((plan.carryOut backward (d.plus count extra)).plus 0 0).size + 0 ≤ _
    rw [Draft.size_add]
    omega

/-- A frame takes a state before its part and one behind it. -/
theorem Grows.framed {p : Sketch} (hp : Grows (build backward p .only) n) :
    Grows (build backward (.framed p) .only) (n + 64) := by
  intro d hd
  have hopen : d.size + (32 * 1 + 0) ≤ maxSize := by omega
  obtain ⟨b, hb, hsize⟩ := hp (d.plus 1 0) (by rw [Draft.size_add]; omega)
  rw [Draft.size_add] at hsize
  have hclose : b.draft.size + (32 * 1 + b.link) ≤ maxSize := by omega
  refine ⟨⟨b.draft.plus 1 b.link, false⟩, ?_, ?_⟩
  · rw [build]
    simp [add_eq_some hopen, hb, add_eq_some hclose, Branch.finish]
  · show (b.draft.plus 1 b.link).size + 0 ≤ _
    rw [Draft.size_add]
    omega

theorem grows_build (backward : Bool) (s : Sketch) (h : s.IsStraight) :
    Grows (build backward s .only) s.weight := by
  induction s with
  | states count extra plan => exact grows_states backward count extra plan
  | seq p q hp hq =>
    intro d hd
    obtain ⟨b, hb, hsize⟩ := hp h.1 d (by rw [Sketch.weight] at hd; omega)
    obtain ⟨b', hb', hsize'⟩ := (hq h.2).after_link (b := b) (by rw [Sketch.weight] at hd; omega)
    refine ⟨b', ?_, by rw [Sketch.weight]; omega⟩
    rw [build]
    simp [hb, hb', Branch.finish]
  | fork p q => exact h.elim
  | rep p neverEmpty least most hp =>
    obtain ⟨rfl, rfl, hstraight⟩ := h
    intro d hd
    obtain ⟨b, hb, hsize⟩ := (hp hstraight).endless neverEmpty d hd
    refine ⟨b, ?_, hsize⟩
    rw [build, addRepetition, hb]
    rfl
  | framed p hp => exact (hp h).framed

/-- What an automaton begins with takes 112 bytes at most, and its end 32 bytes and a link. -/
theorem isSome_build_end (s : Sketch) (hs : s.IsStraight) (hweight : s.weight + 144 ≤ maxSize)
    (hd : d.size ≤ 112) :
    ((build backward s .only d).bind fun b => b.draft.add 1 b.link).isSome = true := by
  obtain ⟨b, hb, hsize⟩ := grows_build backward s hs d (by omega)
  have hend : b.draft.size + (32 * 1 + b.link) ≤ maxSize := by omega
  rw [hb, Option.bind_some, add_eq_some hend]
  rfl

/-- Both automata are within the limit if the sketches from which they are built are light. -/
theorem fits_of_weight {p : Pattern} (hstraight : ∀ backward, (sketch backward false p).IsStraight)
    (hweight : ∀ backward, (sketch backward false p).weight + 208 ≤ maxSize) : p.fits = true := by
  have hautomaton : ∀ backward, (automaton backward p).isSome = true := by
    intro backward
    have hbound := hweight backward
    generalize hs : (if backward then sketch backward false p else
      .framed (sketch backward false p)) = s
    have hsketch : s.IsStraight ∧ s.weight + 144 ≤ maxSize := by
      rw [← hs]
      split
      · exact ⟨hstraight backward, by omega⟩
      · exact ⟨hstraight backward, by rw [Sketch.weight]; omega⟩
    rw [automaton]
    dsimp only
    rw [hs]
    generalize (if backward then p.endsAnchored else p.startsAnchored) = anchored
    cases anchored with
    | true => exact isSome_build_end (d := ⟨1, 0⟩) s hsketch.1 hsketch.2 (by decide)
    | false => exact isSome_build_end (d := ⟨3, 16⟩) s hsketch.1 hsketch.2 (by decide)
  rw [fits, hautomaton, hautomaton, Bool.and_self]

/-! ## Sequences -/

/-- How many bytes patterns take at most, one after the other. -/
def totalWeight (backward : Bool) (ps : List Pattern) : Nat :=
  (ps.map fun p => (sketch backward false p).weight).sum

variable {p : Pattern} {ps : List Pattern}

@[simp] theorem totalWeight_nil : totalWeight backward [] = 0 := rfl

@[simp] theorem totalWeight_cons (p : Pattern) (ps : List Pattern) :
    totalWeight backward (p :: ps) =
      (sketch backward false p).weight + totalWeight backward ps := rfl

@[simp] theorem totalWeight_append (ps qs : List Pattern) : totalWeight backward (ps ++ qs) =
    totalWeight backward ps + totalWeight backward qs := by
  rw [totalWeight, List.map_append, List.sum_append]
  rfl

theorem isStraight_seq {p q : Pattern} : (sketch backward false (.seq p q)).IsStraight ↔
    (sketch backward false p).IsStraight ∧ (sketch backward false q).IsStraight := by
  cases backward with
  | true => exact and_comm
  | false => rfl

theorem weight_seq (p q : Pattern) : (sketch backward false (.seq p q)).weight =
    (sketch backward false p).weight + (sketch backward false q).weight := by
  cases backward with
  | true => exact Nat.add_comm _ _
  | false => rfl

theorem isStraight_ofParts (h : ∀ p ∈ ps, (sketch backward false p).IsStraight) :
    (sketch backward false (ofParts ps)).IsStraight := by
  induction ps with
  | nil => trivial
  | cons p ps ih =>
    obtain ⟨hp, hps⟩ := List.forall_mem_cons.1 h
    cases ps with
    | nil => exact hp
    | cons q qs => exact isStraight_seq.2 ⟨hp, ih hps⟩

theorem weight_ofParts_le (backward : Bool) (ps : List Pattern) :
    (sketch backward false (ofParts ps)).weight ≤ totalWeight backward ps + 32 := by
  induction ps with
  | nil => exact Nat.le_refl 32
  | cons p ps ih =>
    cases ps with
    | nil => exact Nat.le_add_right _ 32
    | cons q qs =>
      show (sketch backward false (.seq p (ofParts (q :: qs)))).weight ≤ _
      rw [weight_seq, totalWeight_cons]
      omega

theorem isStraight_parts (h : (sketch backward false p).IsStraight) :
    ∀ q ∈ p.parts, (sketch backward false q).IsStraight := by
  induction p with
  | empty => simp [parts]
  | seq p q hp hq =>
    obtain ⟨hstraight, hstraight'⟩ := isStraight_seq.1 h
    exact List.forall_mem_cons.2 ⟨hstraight, hq hstraight'⟩
  | _ => exact List.forall_mem_singleton.2 h

theorem totalWeight_parts_le (backward : Bool) (p : Pattern) :
    totalWeight backward p.parts ≤ (sketch backward false p).weight := by
  induction p with
  | empty => exact Nat.zero_le _
  | seq p q hp hq =>
    rw [weight_seq, parts, totalWeight_cons]
    omega
  | _ => exact Nat.le_refl _

theorem weight_literal_append (a b : List Char) :
    (sketch backward false (.literal (a ++ b))).weight =
      (sketch backward false (.literal a)).weight +
        (sketch backward false (.literal b)).weight := by
  have hlength : (codeOf backward (a ++ b)).length =
      (codeOf backward a).length + (codeOf backward b).length := by
    unfold codeOf
    cases backward <;> simp [Nat.add_comm]
  simp [sketch, Sketch.plain, Sketch.weight, Plan.weight, hlength, Nat.mul_add]

theorem isStraight_prepend (hp : (sketch backward false p).IsStraight)
    (hps : ∀ q ∈ ps, (sketch backward false q).IsStraight) :
    ∀ q ∈ prepend p ps, (sketch backward false q).IsStraight := by
  unfold prepend
  split
  · exact List.forall_mem_cons.2 ⟨trivial, (List.forall_mem_cons.1 hps).2⟩
  · exact List.forall_mem_cons.2 ⟨hp, hps⟩

theorem totalWeight_prepend (p : Pattern) (ps : List Pattern) :
    totalWeight backward (prepend p ps) =
      (sketch backward false p).weight + totalWeight backward ps := by
  unfold prepend
  split
  · rw [totalWeight_cons, totalWeight_cons, weight_literal_append, Nat.add_assoc]
  · rfl

theorem isStraight_concat (h : ∀ p ∈ ps, (sketch backward false p).IsStraight) :
    (sketch backward false (concat ps)).IsStraight := by
  have hparts : ∀ q ∈ ps.flatMap parts, (sketch backward false q).IsStraight := by
    intro q hq
    obtain ⟨p, hp, hq⟩ := List.mem_flatMap.1 hq
    exact isStraight_parts (h p hp) q hq
  rw [concat]
  apply isStraight_ofParts
  generalize ps.flatMap parts = qs at hparts
  induction qs with
  | nil => simp
  | cons q qs ih =>
    obtain ⟨hq, hqs⟩ := List.forall_mem_cons.1 hparts
    exact isStraight_prepend hq (ih hqs)

theorem weight_concat_le (backward : Bool) (ps : List Pattern) :
    (sketch backward false (concat ps)).weight ≤ totalWeight backward ps + 32 := by
  have hprepend : ∀ qs : List Pattern, totalWeight backward (qs.foldr prepend []) =
      totalWeight backward qs := by
    intro qs
    induction qs with
    | nil => rfl
    | cons q qs ih =>
      rw [List.foldr_cons, totalWeight_prepend, ih, totalWeight_cons]
  have hparts : totalWeight backward (ps.flatMap parts) ≤ totalWeight backward ps := by
    induction ps with
    | nil => exact Nat.le_refl _
    | cons p ps ih =>
      have hp := totalWeight_parts_le backward p
      rw [List.flatMap_cons, totalWeight_append, totalWeight_cons]
      omega
  have hweight := weight_ofParts_le backward ((ps.flatMap parts).foldr prepend [])
  rw [hprepend] at hweight
  rw [concat]
  omega

end Depot.Pattern
