import Depot.Proofs.Query.Lists
import Depot.Proofs.Text.Cuts
import Depot.Text.Case

/-!
# The grammar of filter expressions

A filter expression begins with the name of an operator, which ends at a word boundary, or it is one
of the two expressions without arguments, or it is a literal. An operator takes one list of
arguments between parentheses, with nothing behind it.

* `Operator.Opens`: what stands behind the name of an operator.
* `Operator.Accepts`: the arguments that an operator takes.
* `Operator.Means`: the expression of an operator and its arguments.
* `Expresses`: the expression that a text is, if it is no literal.

Results:
* `Operator.Opens.unique`: a text begins with the name of one operator only.
* `Operator.accepts_iff`: arguments have a meaning if and only if the operator takes them.
* `Operator.Means.unique`, `Expresses.unique`: there is one meaning at most.
-/

namespace Depot

/-! ## The grammar -/

/-- A text is a word, letter case ignored. -/
def Spells (word : String) (cs : List Char) : Prop := cs.map Text.lowerAscii = word.toList

/-- Arguments between parentheses. -/
def enclosed (args : List Char) : List Char := '(' :: (args ++ [')'])

/-- A text begins with the name of an operator, which ends at a word boundary, and goes on with
    `rest`. An instant is an operand and not an expression. -/
def Operator.Opens (op : Operator) (v rest : List Char) : Prop :=
  op ≠ .instant ∧ (∃ name, v = name ++ rest ∧ Spells op.name name) ∧
    ∀ c, rest.head? = some c → Text.isWord c = false

/-- A text that is not empty and has no line break. -/
def IsLine (cs : List Char) : Prop := cs ≠ [] ∧ '\n' ∉ cs

/-- A text is the decimal form of a number within the 64-bit integers; it may have zeros in
    front. -/
def IsInteger (n : Nat) (cs : List Char) : Prop :=
  cs ≠ [] ∧ (∀ c ∈ cs, Text.isAsciiDigit c = true) ∧ Nat.ofDigitChars 10 cs 0 = n ∧ n ≤ maxInteger

/-- The words for a truth value. -/
def truthTexts : Bool → List String
  | true => ["true", "1", "yes"]
  | false => ["false", "no", "0"]

/-- The arguments that an operator takes. -/
def Operator.Accepts : Operator → List Char → Prop
  | .between, args => ∃ x y, args = x ++ ',' :: y ∧ x ≠ [] ∧ ',' ∉ x ∧ IsLine y
  | .like, args => ')' ∉ args
  | .oneOf, args => '\n' ∉ args ∧ Balanced args
  | .gt, args => IsLine args
  | .lt, args => IsLine args
  | .bool, args => ∃ truth, ∃ word ∈ truthTexts truth, Spells word args
  | .instant, _ => False

/-- The expression of an operator and its arguments. -/
inductive Operator.Means : Operator → List Char → Filter → Prop
  | numericBetween {x y : List Char} {low high : Nat} (hx : IsInteger low x)
      (hy : IsInteger high y) : Means .between (x ++ ',' :: y) (.numericBetween low high)
  | between {x y : List Char} (hx : x ≠ []) (hcomma : ',' ∉ x) (hy : IsLine y)
      (hother : ¬((∃ low, IsInteger low x) ∧ ∃ high, IsInteger high y)) :
      Means .between (x ++ ',' :: y)
        (.between (String.ofList (Text.trim x)) (String.ofList (Text.trim y)))
  | like {args : List Char} (h : ')' ∉ args) : Means .like args (.like (String.ofList args))
  | oneOf {args : List Char} {items : List (List Char)} (hline : '\n' ∉ args)
      (hitems : Splits args items) : Means .oneOf args (.oneOf (items.map String.ofList))
  | gt {args : List Char} (h : IsLine args) :
      Means .gt args (.gt (String.ofList (Text.trim args)))
  | lt {args : List Char} (h : IsLine args) :
      Means .lt args (.lt (String.ofList (Text.trim args)))
  | bool {truth : Bool} {word : String} {args : List Char} (hword : word ∈ truthTexts truth)
      (h : Spells word args) : Means .bool args (.bool truth)

/-! ## Names -/

theorem name_isPrefix_unique {op op' : Operator} (h : op.name.toList <+: op'.name.toList) :
    op = op' := by
  revert h
  cases op <;> cases op' <;> decide

/-- The two expressions without arguments are no names of operators, nor the beginnings of some. -/
theorem null_ne_name {w : String} (hw : w = "$null" ∨ w = "$nenull") (op : Operator) :
    ¬op.name.toList <+: w.toList ∧ ¬w.toList <+: op.name.toList := by
  obtain rfl | rfl := hw <;> cases op <;> decide

/-- Of two words at the start of one text one is the beginning of the other. -/
theorem Spells.prefix_or {a b : String} {name name' rest rest' : List Char}
    (h : Spells a name) (h' : Spells b name') (heq : name ++ rest = name' ++ rest') :
    a.toList <+: b.toList ∨ b.toList <+: a.toList := by
  rw [← h, ← h']
  obtain hle | hle := List.prefix_or_prefix_of_prefix ⟨rest, heq⟩ (List.prefix_append name' rest')
  · exact Or.inl (hle.map Text.lowerAscii)
  · exact Or.inr (hle.map Text.lowerAscii)

/-- A text begins with the name of one operator only. -/
theorem Operator.Opens.unique {op op' : Operator} {v rest rest' : List Char}
    (h : op.Opens v rest) (h' : op'.Opens v rest') : op = op' ∧ rest = rest' := by
  obtain ⟨-, ⟨name, rfl, hname⟩, -⟩ := h
  obtain ⟨-, ⟨name', heq, hname'⟩, -⟩ := h'
  have hop : op = op' := by
    obtain hle | hle := hname.prefix_or hname' heq
    · exact name_isPrefix_unique hle
    · exact (name_isPrefix_unique hle).symm
  have hlength : name.length = name'.length := by
    rw [← List.length_map Text.lowerAscii, hname, hop, ← hname', List.length_map]
  exact ⟨hop, (List.append_inj heq hlength).2⟩

/-! ## Meanings -/

theorem IsInteger.comma_notMem {n : Nat} {cs : List Char} (h : IsInteger n cs) : ',' ∉ cs :=
  fun hmem => absurd (h.2.1 ',' hmem) (by decide)

theorem IsInteger.isLine {n : Nat} {cs : List Char} (h : IsInteger n cs) : IsLine cs :=
  ⟨h.1, fun hmem => absurd (h.2.1 '\n' hmem) (by decide)⟩

/-- Arguments have a meaning if and only if the operator takes them. -/
theorem Operator.accepts_iff {op : Operator} {args : List Char} :
    op.Accepts args ↔ ∃ f, op.Means args f := by
  constructor
  · intro h
    cases op with
    | between =>
      obtain ⟨x, y, rfl, hx, hcomma, hy⟩ := h
      by_cases hnumeric : (∃ low, IsInteger low x) ∧ ∃ high, IsInteger high y
      · obtain ⟨⟨low, hlow⟩, high, hhigh⟩ := hnumeric
        exact ⟨_, .numericBetween hlow hhigh⟩
      · exact ⟨_, .between hx hcomma hy hnumeric⟩
    | like => exact ⟨_, .like h⟩
    | oneOf =>
      obtain ⟨items, hitems⟩ := exists_splitTopLevel_iff.2 h.2
      exact ⟨_, .oneOf h.1 (splitTopLevel_eq_some_iff.1 hitems)⟩
    | gt => exact ⟨_, .gt h⟩
    | lt => exact ⟨_, .lt h⟩
    | bool =>
      obtain ⟨truth, word, hword, h⟩ := h
      exact ⟨_, .bool hword h⟩
    | instant => exact h.elim
  · rintro ⟨f, h⟩
    cases h with
    | numericBetween hx hy => exact ⟨_, _, rfl, hx.1, hx.comma_notMem, hy.isLine⟩
    | between hx hcomma hy hother => exact ⟨_, _, rfl, hx, hcomma, hy⟩
    | like h => exact h
    | oneOf hline hitems =>
      exact ⟨hline, exists_splitTopLevel_iff.1 ⟨_, splitTopLevel_eq_some_iff.2 hitems⟩⟩
    | gt h => exact h
    | lt h => exact h
    | bool hword h => exact ⟨_, _, hword, h⟩

theorem IsInteger.unique {n n' : Nat} {cs : List Char} (h : IsInteger n cs)
    (h' : IsInteger n' cs) : n = n' := h.2.2.1.symm.trans h'.2.2.1

/-- The first comma ends the lower bound of a range. -/
theorem bounds_unique {x y x' y' : List Char} (h : x ++ ',' :: y = x' ++ ',' :: y')
    (hx : ',' ∉ x) (hx' : ',' ∉ x') : x = x' ∧ y = y' := by
  have hcut := (Text.cutAt_eq_some_iff.2 ⟨h, hx'⟩).symm.trans (Text.cutAt_eq_some_iff.2 ⟨rfl, hx⟩)
  cases hcut
  exact ⟨rfl, rfl⟩

theorem truthTexts_unique {truth truth' : Bool} {word word' : String} {args : List Char}
    (hword : word ∈ truthTexts truth) (hword' : word' ∈ truthTexts truth')
    (h : Spells word args) (h' : Spells word' args) : truth = truth' := by
  have hsame : word = word' := String.toList_inj.1 (h.symm.trans h')
  have hdistinct : ∀ w ∈ truthTexts true, w ∉ truthTexts false := by decide
  cases truth <;> cases truth'
  · rfl
  · exact absurd (hsame ▸ hword) (hdistinct word' hword')
  · exact absurd (hsame.symm ▸ hword') (hdistinct word hword)
  · rfl

/-- Arguments have one meaning at most. -/
theorem Operator.Means.unique {op : Operator} {args : List Char} {f f' : Filter}
    (h : op.Means args f) (h' : op.Means args f') : f = f' := by
  cases h with
  | numericBetween hx hy =>
    generalize hargs : _ ++ ',' :: _ = args at h'
    cases h' with
    | numericBetween hx' hy' =>
      obtain ⟨rfl, rfl⟩ := bounds_unique hargs hx.comma_notMem hx'.comma_notMem
      rw [hx.unique hx', hy.unique hy']
    | between _ hcomma' _ hother' =>
      obtain ⟨rfl, rfl⟩ := bounds_unique hargs hx.comma_notMem hcomma'
      exact absurd ⟨⟨_, hx⟩, _, hy⟩ hother'
  | between _ hcomma _ hother =>
    generalize hargs : _ ++ ',' :: _ = args at h'
    cases h' with
    | numericBetween hx' hy' =>
      obtain ⟨rfl, rfl⟩ := bounds_unique hargs hcomma hx'.comma_notMem
      exact absurd ⟨⟨_, hx'⟩, _, hy'⟩ hother
    | between _ hcomma' _ _ =>
      obtain ⟨rfl, rfl⟩ := bounds_unique hargs hcomma hcomma'
      rfl
  | like =>
    cases h'
    rfl
  | oneOf _ hitems =>
    cases h' with
    | oneOf _ hitems' =>
      have hsame := (splitTopLevel_eq_some_iff.2 hitems).symm.trans
        (splitTopLevel_eq_some_iff.2 hitems')
      rw [Option.some.inj hsame]
  | gt =>
    cases h'
    rfl
  | lt =>
    cases h'
    rfl
  | bool hword h =>
    cases h' with
    | bool hword' h' => rw [truthTexts_unique hword hword' h h']

/-! ## Expressions -/

/-- A text is an expression that is no literal. -/
inductive Expresses (v : List Char) : Filter → Prop
  | applied {op : Operator} {args : List Char} {f : Filter} (hopens : op.Opens v (enclosed args))
      (h : op.Means args f) : Expresses v f
  | isNull (h : Spells "$null" v) : Expresses v .isNull
  | isNotNull (h : Spells "$nenull" v) : Expresses v .isNotNull

/-- Arguments begin with no word character, so that a name ends before them. -/
theorem not_isWord_enclosed {args : List Char} :
    ∀ c, (enclosed args).head? = some c → Text.isWord c = false := by
  rintro c ⟨⟩
  decide

theorem enclosed_inj {a b : List Char} (h : enclosed a = enclosed b) : a = b :=
  List.append_cancel_right (List.cons.inj h).2

theorem Spells.not_opens {w : String} {v rest : List Char} {op : Operator}
    (hw : w = "$null" ∨ w = "$nenull") (h : Spells w v) : ¬op.Opens v rest := by
  rintro ⟨-, ⟨name, hv, hname⟩, -⟩
  obtain ⟨hlonger, hshorter⟩ := null_ne_name hw op
  have heq : name ++ rest = v ++ [] := by rw [← hv, List.append_nil]
  obtain hle | hle := hname.prefix_or h heq
  · exact hlonger hle
  · exact hshorter hle

/-- A text is one expression at most. -/
theorem Expresses.unique {v : List Char} {f f' : Filter} (h : Expresses v f)
    (h' : Expresses v f') : f = f' := by
  cases h with
  | applied hopens h =>
    cases h' with
    | applied hopens' h' =>
      obtain ⟨rfl, hargs⟩ := hopens.unique hopens'
      obtain rfl := enclosed_inj hargs
      exact h.unique h'
    | isNull h' => exact absurd hopens (h'.not_opens (Or.inl rfl))
    | isNotNull h' => exact absurd hopens (h'.not_opens (Or.inr rfl))
  | isNull h =>
    cases h' with
    | applied hopens' h' => exact absurd hopens' (h.not_opens (Or.inl rfl))
    | isNull h' => rfl
    | isNotNull h' => exact absurd (h.symm.trans h') (by decide)
  | isNotNull h =>
    cases h' with
    | applied hopens' h' => exact absurd hopens' (h.not_opens (Or.inr rfl))
    | isNull h' => exact absurd (h.symm.trans h') (by decide)
    | isNotNull h' => rfl

/-- Behind the name of an operator an expression goes on with arguments that the operator gives a
    meaning. -/
theorem Operator.Opens.expresses_iff {op : Operator} {v rest : List Char} (h : op.Opens v rest)
    {f : Filter} : Expresses v f ↔ ∃ args, rest = enclosed args ∧ op.Means args f := by
  constructor
  · rintro (⟨hopens, hmeans⟩ | hnull | hnull)
    · obtain ⟨rfl, rfl⟩ := h.unique hopens
      exact ⟨_, rfl, hmeans⟩
    · exact absurd h (hnull.not_opens (Or.inl rfl))
    · exact absurd h (hnull.not_opens (Or.inr rfl))
  · rintro ⟨args, rfl, hmeans⟩
    exact .applied h hmeans

end Depot
