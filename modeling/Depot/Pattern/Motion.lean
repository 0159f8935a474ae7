import Depot.Pattern.Place
import Std.Data.TreeMap

/-!
# Motions between places

A motion leads from places of a text to places of that text. Where it leads to from a set of places
is found for the whole set at once.

A repetition takes its steps more than once, and where repetitions are nested, the inner ones are
asked again and again about the same sets. So a motion can be followed with a memory, which keeps
the answers of every repetition.

* `Motion`: staying, crossing characters, sequence, choice and repetition.
* `Motion.image`: the places that a motion leads to.
* `Motion.follow`: the same with a memory.

Results:
* `follow_eq_image`: with a memory that is sound, a motion leads to the same places, and the memory
  stays sound.
* `sound_empty`: the empty memory is sound.
-/

namespace Depot

/-- A way through a text: it stays, if it is at a place of a set; it crosses characters, each from
    a place of a set; or it is made of other motions. A repetition takes at least `least` steps and
    at most `more` further ones. -/
inductive Motion
  | hold (here : PlaceSet)
  | cross (ways : List PlaceSet)
  | seq (x y : Motion)
  | alt (x y : Motion)
  | rep (x : Motion) (least more : Nat)

namespace Motion

/-! ## Where a motion leads to -/

/-- The places reached in exactly `n` steps. -/
def stepTimes (f : PlaceSet → PlaceSet) : (n : Nat) → PlaceSet → PlaceSet
  | 0, set => set
  | n + 1, set => stepTimes f n (f set)

/-- The places of `seen` and those reached from `front` in at most `n` steps. -/
def stepUpTo (f : PlaceSet → PlaceSet) : (n : Nat) → (seen front : PlaceSet) → PlaceSet
  | 0, seen, _ => seen
  | n + 1, seen, front =>
    let fresh := (f front).minus seen
    if fresh = 0 then seen else stepUpTo f n (seen ||| fresh) fresh

/-- The places that a motion leads to from those of a set. -/
def image : Motion → PlaceSet → PlaceSet
  | .hold here, set => set &&& here
  | .cross ways, set => ways.foldl (fun set way => (set &&& way).shift) set
  | .seq x y, set => y.image (x.image set)
  | .alt x y, set => x.image set ||| y.image set
  | .rep x least more, set =>
    let base := stepTimes x.image least set
    stepUpTo x.image more base base

/-! ## Following a motion with a memory -/

/-- What is remembered of a motion and its parts: where a repetition leads to from some sets. -/
inductive Memory
  | empty
  | pair (first second : Memory)
  | loop (known : Std.TreeMap PlaceSet PlaceSet) (inner : Memory)

namespace Memory

/-- What is remembered of the first part. -/
def first : Memory → Memory
  | .pair a _ => a
  | _ => .empty

/-- What is remembered of the second part. -/
def second : Memory → Memory
  | .pair _ b => b
  | _ => .empty

/-- What is remembered of the part that is repeated. -/
def inner : Memory → Memory
  | .loop _ m => m
  | _ => .empty

/-- The sets from which it is known where a repetition leads to, with these places. -/
def known : Memory → Std.TreeMap PlaceSet PlaceSet
  | .loop k _ => k
  | _ => {}

end Memory

/-- A motion that is followed with a memory: the places, and the memory after it. -/
abbrev Walk := Memory → PlaceSet → PlaceSet × Memory

/-- The places reached in exactly `n` steps. -/
def walkTimes (f : Walk) : (n : Nat) → Walk
  | 0, m, set => (set, m)
  | n + 1, m, set =>
    let (set, m) := f m set
    walkTimes f n m set

/-- The places of `seen` and those reached from `front` in at most `n` steps. -/
def walkUpTo (f : Walk) : (n : Nat) → Memory → (seen front : PlaceSet) → PlaceSet × Memory
  | 0, m, seen, _ => (seen, m)
  | n + 1, m, seen, front =>
    let (next, m) := f m front
    let fresh := next.minus seen
    if fresh = 0 then (seen, m) else walkUpTo f n m (seen ||| fresh) fresh

/-- The places that a motion leads to from those of a set, with a memory. -/
def follow : Motion → Walk
  | .hold here, m, set => (set &&& here, m)
  | .cross ways, m, set => (ways.foldl (fun set way => (set &&& way).shift) set, m)
  | .seq x y, m, set =>
    let (set, a) := x.follow m.first set
    let (set, b) := y.follow m.second set
    (set, .pair a b)
  | .alt x y, m, set =>
    let (left, a) := x.follow m.first set
    let (right, b) := y.follow m.second set
    (left ||| right, .pair a b)
  | .rep x least more, m, set =>
    match m.known[set]? with
    | some places => (places, m)
    | none =>
      let (base, inner) := walkTimes x.follow least m.inner set
      let (places, inner) := walkUpTo x.follow more inner base base
      (places, .loop (m.known.insert set places) inner)

/-- Whether what is remembered is so. -/
def Sound : Motion → Memory → Prop
  | .hold _, _ | .cross _, _ => True
  | .seq x y, m | .alt x y, m => Sound x m.first ∧ Sound y m.second
  | .rep x least more, m =>
    (∀ set places, m.known[set]? = some places → places = (Motion.rep x least more).image set) ∧
      Sound x m.inner

theorem sound_empty (x : Motion) : x.Sound .empty := by
  induction x with
  | hold | cross => trivial
  | seq x y hx hy | alt x y hx hy => exact ⟨hx, hy⟩
  | rep x least more hx => exact ⟨fun set places h => by simp [Memory.known] at h, hx⟩

/-- A walk leads where a function does, as long as its memory is sound. -/
def Keeps (sound : Memory → Prop) (f : Walk) (g : PlaceSet → PlaceSet) : Prop :=
  ∀ m set, sound m → (f m set).1 = g set ∧ sound (f m set).2

theorem walkTimes_keeps {sound : Memory → Prop} {f : Walk} {g : PlaceSet → PlaceSet}
    (h : Keeps sound f g) (n : Nat) : Keeps sound (walkTimes f n) (stepTimes g n) := by
  induction n with
  | zero => exact fun m set hm => ⟨rfl, hm⟩
  | succ n ih =>
    intro m set hm
    obtain ⟨hset, hm'⟩ := h m set hm
    rw [walkTimes, stepTimes, ← hset]
    exact ih _ _ hm'

theorem walkUpTo_eq {sound : Memory → Prop} {f : Walk} {g : PlaceSet → PlaceSet}
    (h : Keeps sound f g) (n : Nat) (m : Memory) (seen front : PlaceSet) (hm : sound m) :
    (walkUpTo f n m seen front).1 = stepUpTo g n seen front ∧
      sound (walkUpTo f n m seen front).2 := by
  induction n generalizing m seen front with
  | zero => exact ⟨rfl, hm⟩
  | succ n ih =>
    obtain ⟨hnext, hm'⟩ := h m front hm
    simp only [walkUpTo, stepUpTo, ← hnext]
    split
    · exact ⟨rfl, hm'⟩
    · exact ih _ _ _ hm'

theorem follow_eq_image (x : Motion) : Keeps x.Sound x.follow x.image := by
  induction x with
  | hold | cross => exact fun m set _ => ⟨rfl, trivial⟩
  | seq x y hx hy =>
    intro m set ⟨ha, hb⟩
    obtain ⟨hset, ha'⟩ := hx _ set ha
    obtain ⟨hset', hb'⟩ := hy _ (x.follow m.first set).1 hb
    exact ⟨by rw [image, ← hset, ← hset', follow], ha', hb'⟩
  | alt x y hx hy =>
    intro m set ⟨ha, hb⟩
    obtain ⟨hleft, ha'⟩ := hx _ set ha
    obtain ⟨hright, hb'⟩ := hy _ set hb
    exact ⟨by rw [image, ← hleft, ← hright, follow], ha', hb'⟩
  | rep x least more hx =>
    intro m set ⟨hknown, hinner⟩
    rw [follow]
    split
    next places hp => exact ⟨hknown set places hp, hknown, hinner⟩
    next hp =>
      obtain ⟨hbase, hi⟩ := walkTimes_keeps hx least m.inner set hinner
      obtain ⟨hplaces, hi'⟩ := walkUpTo_eq hx more _ (walkTimes x.follow least m.inner set).1
        (walkTimes x.follow least m.inner set).1 hi
      have heq : (walkUpTo x.follow more (walkTimes x.follow least m.inner set).2
          (walkTimes x.follow least m.inner set).1 (walkTimes x.follow least m.inner set).1).1 =
          (Motion.rep x least more).image set := by
        rw [hplaces, hbase, image]
      refine ⟨heq, fun s places hs => ?_, hi'⟩
      simp only [Memory.known, Std.TreeMap.getElem?_insert] at hs
      split at hs
      next hc => rw [← Std.LawfulEqCmp.eq_of_compare hc, ← heq, Option.some.inj hs]
      next => exact hknown s places hs

end Motion

end Depot
