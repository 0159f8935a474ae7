import Depot.Proofs.Numerals
import Depot.Proofs.Query.Operators
import Depot.Proofs.Text.Words

/-!
# The reading of filter expressions

The readings of a raw value are tried one after the other. For a raw value of ASCII characters each
of them succeeds on the texts of one operator. Only the two readings of a range overlap, so that
their order is the only one that matters: a range of integers is read before a range of texts.

* `Filter.reading?`: the first reading that there is.

Results:
* `Filter.arguments?_eq_some_iff`, `Filter.operator?_eq_some_iff`: the arguments and the operator
  that are found in a text.
* `Filter.reading?_eq_some_iff`: the first reading is the expression that a text is.
* `Filter.parse_grammar`: which expression a raw value is, or which operator is malformed in it.
-/

namespace Depot

/-! ## Arguments -/

/-- The name of an operator without the dollar sign. -/
def Operator.word : Operator → List Char
  | .between => ['b', 'e', 't', 'w', 'e', 'e', 'n']
  | .like => ['l', 'i', 'k', 'e']
  | .oneOf => ['i', 'n']
  | .gt => ['g', 't']
  | .lt => ['l', 't']
  | .bool => ['b', 'o', 'o', 'l']
  | .instant => ['d', 't']

theorem Operator.toList_name (op : Operator) : op.name.toList = '$' :: op.word := by
  cases op <;> rfl

theorem Operator.isSmall_word (op : Operator) : Text.IsSmall op.word := by
  cases op <;> decide

/-- What stands behind a dollar sign and a word in any letter case. -/
theorem exists_afterWord_iff {w : String} {word v rest : List Char} (hw : w.toList = '$' :: word)
    (hword : Text.IsSmall word) (hv : Text.IsAscii v) :
    (∃ r, v = ['$'] ++ r ∧ Text.afterWord word r = some rest) ↔
      ∃ name, v = name ++ rest ∧ Spells w name := by
  constructor
  · rintro ⟨r, rfl, hrest⟩
    obtain ⟨front, rfl, hfront⟩ :=
      (Text.afterWord_eq_some_iff hword (Text.IsAscii.append.1 hv).2).1 hrest
    refine ⟨'$' :: front, rfl, ?_⟩
    rw [Spells, List.map_cons, hfront, hw]
    rfl
  · rintro ⟨name, rfl, hname⟩
    rw [Spells, hw] at hname
    cases name with
    | nil => cases hname
    | cons c name =>
      obtain ⟨hc, htail⟩ := List.cons.inj hname
      obtain rfl := Text.eq_of_lowerAscii_eq (Or.inl (by decide)) hc
      refine ⟨name ++ rest, rfl, ?_⟩
      have hascii : Text.IsAscii (name ++ rest) := fun c hc => hv c (List.mem_cons_of_mem _ hc)
      exact (Text.afterWord_eq_some_iff hword hascii).2 ⟨name, rfl, htail⟩

namespace Filter

theorem mem_operatorNames_iff {word : List Char} {op : Operator} :
    (word, op) ∈ operatorNames ↔ op ≠ .instant ∧ word = op.word := by
  cases op <;> simp [operatorNames, Operator.word]

theorem atBoundary_iff {rest : List Char} :
    atBoundary rest = true ↔ ∀ c, rest.head? = some c → Text.isWord c = false := by
  cases rest with
  | nil => exact iff_of_true rfl nofun
  | cons c rest =>
    rw [atBoundary, Bool.not_eq_true', List.head?_cons]
    constructor
    · rintro h c' ⟨⟩
      exact h
    · exact fun h => h c rfl

section

variable {v : List Char} (hv : Text.IsAscii v)

include hv

theorem arguments?_eq_some_iff (op : Operator) {args : List Char} (hop : op ≠ .instant) :
    arguments? op.word v = some args ↔ op.Opens v (enclosed args) := by
  rw [Operator.Opens, ← exists_afterWord_iff op.toList_name op.isSmall_word hv, arguments?]
  simp only [Option.bind_eq_bind, Option.bind_eq_some_iff, Text.after?_eq_some_iff,
    Text.before?_eq_some_iff]
  constructor
  · rintro ⟨r, hr, rest, hrest, inner, rfl, rfl⟩
    exact ⟨hop, ⟨r, hr, hrest⟩, not_isWord_enclosed⟩
  · rintro ⟨-, ⟨r, hr, hrest⟩, -⟩
    exact ⟨r, hr, enclosed args, hrest, args ++ [')'], rfl, rfl⟩

theorem isBare_iff {w : String} {word : List Char} (hw : w.toList = '$' :: word)
    (hword : Text.IsSmall word) : isBare word v = true ↔ Spells w v := by
  have hspells : Spells w v ↔ ∃ name, v = name ++ [] ∧ Spells w name := by
    constructor
    · exact fun h => ⟨v, (List.append_nil v).symm, h⟩
    · rintro ⟨name, rfl, h⟩
      rwa [List.append_nil]
  rw [hspells, ← exists_afterWord_iff hw hword hv, isBare]
  constructor
  · intro h
    split at h
    · rename_i hbind
      obtain ⟨r, hr, hrest⟩ := Option.bind_eq_some_iff.1 hbind
      exact ⟨r, Text.after?_eq_some_iff.1 hr, hrest⟩
    · cases h
  · rintro ⟨r, hr, hrest⟩
    rw [Option.bind_eq_some_iff.2 ⟨r, Text.after?_eq_some_iff.2 hr, hrest⟩]

end

/-! ## Operands -/

theorem isLine_iff {cs : List Char} : isLine cs = true ↔ IsLine cs := by
  rw [isLine, Bool.and_eq_true, Bool.not_eq_true', Bool.not_eq_true',
    List.isEmpty_eq_false_iff, List.contains_eq_mem, decide_eq_false_iff_not, IsLine]

theorem integer?_eq_some_iff {cs : List Char} {n : Nat} :
    integer? cs = some n ↔ IsInteger n cs := by
  rw [integer?, IsInteger]
  by_cases hdigits : cs.all Text.isAsciiDigit = true
  · have hall : ∀ c ∈ cs, Text.isAsciiDigit c = true := List.all_eq_true.1 hdigits
    rw [if_pos hdigits]
    cases cs with
    | nil =>
      refine iff_of_false (fun h => ?_) fun h => h.1 rfl
      cases h
    | cons c cs =>
      have hplus : c ≠ '+' := by
        rintro rfl
        exact absurd (hall '+' List.mem_cons_self) (by decide)
      rw [Text.Natural.parse, if_neg hplus, and_iff_right (List.cons_ne_nil c cs),
        and_iff_right hall, ← Text.Natural.parseDigits_eq_ok_iff (Nat.zero_le _) hall]
      cases Text.Natural.parseDigits maxInteger 0 (c :: cs) with
      | error e => simp [Except.toOption]
      | ok m => rw [Except.toOption, Option.some.injEq, Except.ok.injEq]
  · rw [if_neg hdigits]
    refine iff_of_false (fun h => ?_) fun h => hdigits (List.all_eq_true.2 h.2.1)
    cases h

theorem mem_truthWords_iff {word : List Char} {truth : Bool} :
    (word, truth) ∈ truthWords ↔ ∃ w ∈ truthTexts truth, w.toList = word := by
  cases truth <;> simp [truthWords, truthTexts, eq_comm, or_comm]

/-! ## Readings of one operator -/

/-- The only element of a list that fits is found. -/
theorem find?_eq_some_of_unique {α : Type} {p : α → Bool} {l : List α} {a : α} (ha : a ∈ l)
    (hp : p a = true) (honly : ∀ b ∈ l, p b = true → b = a) : l.find? p = some a := by
  cases hfind : l.find? p with
  | none => exact absurd hp (List.find?_eq_none.1 hfind a ha)
  | some b => rw [honly b (List.mem_of_find?_eq_some hfind) (List.find?_some hfind)]

/-- The operator that is found: that of the first name behind the dollar sign. -/
theorem operator?_eq (v : List Char) :
    operator? v = (Text.after? ['$'] v).bind fun r =>
      (operatorNames.find? fun n => (Text.afterWord n.1 r).any atBoundary).bind fun n =>
        some (if (r.take n.1.length).map Text.lowerAscii == n.1 then n.2 else .bool) := by
  simp only [operator?, Option.bind_eq_bind]
  congr 1
  funext r
  congr 2
  funext n
  cases Text.afterWord n.1 r <;> rfl

section

variable {v : List Char} (hv : Text.IsAscii v)

include hv

theorem numericBounds?_eq_some_iff {low high : Nat} :
    numericBounds? v = some (low, high) ↔
      ∃ x y, Operator.between.Opens v (enclosed (x ++ ',' :: y)) ∧ IsInteger low x ∧
        IsInteger high y := by
  have harguments (args : List Char) :
      arguments? ['b', 'e', 't', 'w', 'e', 'e', 'n'] v = some args ↔
        Operator.between.Opens v (enclosed args) := arguments?_eq_some_iff hv .between nofun
  simp only [numericBounds?, Option.bind_eq_bind, Option.bind_eq_some_iff, harguments,
    Text.cutAt_eq_some_iff, integer?_eq_some_iff, Prod.exists, Option.some.injEq, Prod.mk.injEq]
  constructor
  · rintro ⟨args, hopens, x, y, ⟨rfl, -⟩, low', hlow, high', hhigh, rfl, rfl⟩
    exact ⟨x, y, hopens, hlow, hhigh⟩
  · rintro ⟨x, y, hopens, hlow, hhigh⟩
    exact ⟨_, hopens, x, y, ⟨rfl, hlow.comma_notMem⟩, low, hlow, high, hhigh, rfl, rfl⟩

theorem bounds?_eq_some_iff {low high : List Char} :
    bounds? v = some (low, high) ↔
      ∃ x y, Operator.between.Opens v (enclosed (x ++ ',' :: y)) ∧ x ≠ [] ∧ ',' ∉ x ∧ IsLine y ∧
        low = Text.trim x ∧ high = Text.trim y := by
  have harguments (args : List Char) :
      arguments? ['b', 'e', 't', 'w', 'e', 'e', 'n'] v = some args ↔
        Operator.between.Opens v (enclosed args) := arguments?_eq_some_iff hv .between nofun
  have hfits {x y : List Char} : (x.isEmpty || !isLine y) = false ↔ x ≠ [] ∧ IsLine y := by
    rw [Bool.or_eq_false_iff, Bool.not_eq_false', isLine_iff, List.isEmpty_eq_false_iff]
  simp only [bounds?, Option.bind_eq_bind, Option.bind_eq_some_iff, harguments,
    Text.cutAt_eq_some_iff, Prod.exists]
  constructor
  · rintro ⟨args, hopens, x, y, ⟨rfl, hcomma⟩, h⟩
    by_cases hxy : x ≠ [] ∧ IsLine y
    · rw [if_neg (ne_true_of_eq_false (hfits.2 hxy))] at h
      cases h
      exact ⟨x, y, hopens, hxy.1, hcomma, hxy.2, rfl, rfl⟩
    · rw [if_pos (eq_true_of_ne_false (mt hfits.1 hxy))] at h
      cases h
  · rintro ⟨x, y, hopens, hx, hcomma, hy, rfl, rfl⟩
    exact ⟨_, hopens, x, y, ⟨rfl, hcomma⟩, if_neg (ne_true_of_eq_false (hfits.2 ⟨hx, hy⟩))⟩

theorem pattern?_eq_some_iff {p : List Char} :
    pattern? v = some p ↔ Operator.like.Opens v (enclosed p) ∧ ')' ∉ p := by
  have harguments (args : List Char) :
      arguments? ['l', 'i', 'k', 'e'] v = some args ↔
        Operator.like.Opens v (enclosed args) := arguments?_eq_some_iff hv .like nofun
  simp only [pattern?, Option.bind_eq_bind, Option.bind_eq_some_iff, harguments,
    List.contains_eq_mem, decide_eq_true_eq]
  constructor
  · rintro ⟨args, hopens, h⟩
    by_cases hmem : ')' ∈ args
    · rw [if_pos hmem] at h
      cases h
    · rw [if_neg hmem] at h
      cases h
      exact ⟨hopens, hmem⟩
  · rintro ⟨hopens, hmem⟩
    exact ⟨p, hopens, if_neg hmem⟩

theorem items?_eq_some_iff {items : List (List Char)} :
    items? v = some items ↔
      ∃ args, Operator.oneOf.Opens v (enclosed args) ∧ '\n' ∉ args ∧ Splits args items := by
  have harguments (args : List Char) :
      arguments? ['i', 'n'] v = some args ↔
        Operator.oneOf.Opens v (enclosed args) := arguments?_eq_some_iff hv .oneOf nofun
  simp only [items?, Option.bind_eq_bind, Option.bind_eq_some_iff, harguments,
    List.contains_eq_mem, decide_eq_true_eq]
  refine exists_congr fun args => and_congr_right fun _ => ?_
  by_cases hmem : '\n' ∈ args
  · rw [if_pos hmem]
    exact iff_of_false nofun fun h => h.1 hmem
  · rw [if_neg hmem, splitTopLevel_eq_some_iff, and_iff_right hmem]

theorem operand?_eq_some_iff (op : Operator) {x : List Char} (hop : op ≠ .instant) :
    operand? op.word v = some x ↔
      ∃ args, op.Opens v (enclosed args) ∧ IsLine args ∧ x = Text.trim args := by
  simp only [operand?, Option.bind_eq_bind, Option.bind_eq_some_iff,
    arguments?_eq_some_iff hv op hop]
  refine exists_congr fun args => and_congr_right fun _ => ?_
  by_cases hline : IsLine args
  · rw [if_pos (isLine_iff.2 hline), Option.some.injEq, and_iff_right hline, eq_comm]
  · rw [if_neg (mt isLine_iff.1 hline)]
    exact iff_of_false nofun fun h => hline h.1

theorem truth?_eq_some_iff {truth : Bool} :
    truth? v = some truth ↔
      ∃ args, Operator.bool.Opens v (enclosed args) ∧ ∃ w ∈ truthTexts truth, Spells w args := by
  have harguments (args : List Char) :
      arguments? ['b', 'o', 'o', 'l'] v = some args ↔
        Operator.bool.Opens v (enclosed args) := arguments?_eq_some_iff hv .bool nofun
  simp only [truth?, Option.bind_eq_bind, Option.bind_eq_some_iff, harguments]
  refine exists_congr fun args => and_congr_right fun hopens => ?_
  have hargs : Text.IsAscii args := by
    obtain ⟨-, ⟨name, rfl, -⟩, -⟩ := hopens
    have henclosed := (Text.IsAscii.append.1 hv).2
    exact fun c hc => henclosed c (List.mem_cons_of_mem _ (List.mem_append_left _ hc))
  have hword {w : List Char × Bool} (hw : w ∈ truthWords) :
      (Text.afterWord w.1 args == some []) = true ↔ args.map Text.lowerAscii = w.1 := by
    have hsmall : ∀ w ∈ truthWords, Text.IsSmall w.1 := by decide
    rw [beq_iff_eq, Text.afterWord_eq_some_iff (hsmall w hw) hargs]
    constructor
    · rintro ⟨front, rfl, hfront⟩
      rwa [List.append_nil]
    · exact fun h => ⟨args, (List.append_nil args).symm, h⟩
  constructor
  · rintro ⟨⟨word, b⟩, hfind, h⟩
    have hmem := List.mem_of_find?_eq_some hfind
    have hfit := List.find?_some hfind
    have hspells := (hword hmem).1 hfit
    rw [Option.some.injEq, beq_iff_eq.2 hspells, Bool.and_true] at h
    subst h
    obtain ⟨w, hw, rfl⟩ := mem_truthWords_iff.1 hmem
    exact ⟨w, hw, hspells⟩
  · rintro ⟨w, hw, hspells⟩
    have hmem : (w.toList, truth) ∈ truthWords := mem_truthWords_iff.2 ⟨w, hw, rfl⟩
    have hdistinct : ∀ n ∈ truthWords, ∀ n' ∈ truthWords, n.1 = n'.1 → n = n' := by decide
    have honly : ∀ n ∈ truthWords, (Text.afterWord n.1 args == some []) = true →
        n = (w.toList, truth) :=
      fun n hn hfit => hdistinct n hn _ hmem (((hword hn).1 hfit).symm.trans hspells)
    refine ⟨_, find?_eq_some_of_unique hmem ((hword hmem).2 hspells) honly, ?_⟩
    rw [Option.some.injEq, beq_iff_eq.2 hspells, Bool.and_true]

/-- Behind the dollar sign a text begins with the name of an operator if it opens with it. -/
theorem opens_iff {r rest : List Char} {op : Operator} (hr : v = ['$'] ++ r)
    (hop : op ≠ .instant) :
    op.Opens v rest ↔ Text.afterWord op.word r = some rest ∧ atBoundary rest = true := by
  rw [Operator.Opens, and_iff_right hop, atBoundary_iff,
    ← exists_afterWord_iff op.toList_name op.isSmall_word hv]
  refine and_congr_left fun _ => ⟨?_, fun h => ⟨r, hr, h⟩⟩
  rintro ⟨r', hr', h⟩
  rwa [List.append_cancel_left (hr.symm.trans hr')]

/-- A name that a text opens with is written in ASCII characters, so that its operator counts. -/
theorem take_word_of_opens {r rest : List Char} {op : Operator} (hr : v = ['$'] ++ r)
    (h : op.Opens v rest) :
    ((r.take op.word.length).map Text.lowerAscii == op.word) = true := by
  have hrest := ((opens_iff hv hr h.1).1 h).1
  have hascii : Text.IsAscii r := by
    rw [hr] at hv
    exact (Text.IsAscii.append.1 hv).2
  obtain ⟨front, rfl, hfront⟩ := (Text.afterWord_eq_some_iff op.isSmall_word hascii).1 hrest
  have hlength : front.length = op.word.length := by rw [← hfront, List.length_map]
  rw [List.take_left' hlength, hfront, beq_self_eq_true]

/-- The operator whose name is found is the one that a text opens with. -/
theorem operator?_eq_some_iff {op : Operator} :
    operator? v = some op ↔ ∃ rest, op.Opens v rest := by
  rw [operator?_eq, Option.bind_eq_some_iff]
  simp only [Option.bind_eq_some_iff, Text.after?_eq_some_iff]
  have hfits {r : List Char} (hr : v = ['$'] ++ r) {n : List Char × Operator}
      (hn : n ∈ operatorNames) :
      (Text.afterWord n.1 r).any atBoundary = true ↔ ∃ rest, n.2.Opens v rest := by
    obtain ⟨word, found⟩ := n
    obtain ⟨hop, rfl⟩ := mem_operatorNames_iff.1 hn
    simp only [opens_iff hv hr hop, Option.any_eq_true]
  constructor
  · rintro ⟨r, hr, ⟨word, found⟩, hfind, h⟩
    have hmem := List.mem_of_find?_eq_some hfind
    have hfit := List.find?_some hfind
    obtain ⟨rest, hopens⟩ := (hfits hr hmem).1 hfit
    obtain ⟨-, rfl⟩ := mem_operatorNames_iff.1 hmem
    rw [if_pos (take_word_of_opens hv hr hopens), Option.some.injEq] at h
    exact ⟨rest, h ▸ hopens⟩
  · rintro ⟨rest, h⟩
    obtain ⟨r, hr, -⟩ := (exists_afterWord_iff op.toList_name op.isSmall_word hv).2 h.2.1
    have hmem : (op.word, op) ∈ operatorNames := mem_operatorNames_iff.2 ⟨h.1, rfl⟩
    have honly : ∀ n ∈ operatorNames, (Text.afterWord n.1 r).any atBoundary = true →
        n = (op.word, op) := by
      rintro ⟨word, found⟩ hn hfit
      obtain ⟨rest', hrest'⟩ := (hfits hr hn).1 hfit
      obtain ⟨-, rfl⟩ := mem_operatorNames_iff.1 hn
      obtain ⟨rfl, -⟩ := hrest'.unique h
      rfl
    refine ⟨r, hr, _, find?_eq_some_of_unique hmem ((hfits hr hmem).2 ⟨rest, h⟩) honly, ?_⟩
    rw [if_pos (take_word_of_opens hv hr h)]

end

/-! ## The first reading -/

/-- The expression that a text is by one of the operators: the first reading that there is. -/
def reading? (v : List Char) : Option Filter :=
  ((numericBounds? v).map fun (low, high) => .numericBetween low high).or <|
  ((pattern? v).map fun p => .like (String.ofList p)).or <|
  ((bounds? v).map fun (low, high) => .between (String.ofList low) (String.ofList high)).or <|
  ((items? v).map fun items => .oneOf (items.map String.ofList)).or <|
  ((operand? ['g', 't'] v).map fun x => .gt (String.ofList x)).or <|
  ((operand? ['l', 't'] v).map fun x => .lt (String.ofList x)).or <|
  (if isBare ['n', 'u', 'l', 'l'] v then some .isNull else none).or <|
  (if isBare ['n', 'e', 'n', 'u', 'l', 'l'] v then some .isNotNull else none).or <|
  (truth? v).map .bool

theorem parse_eq (raw : String) :
    parse raw =
      match reading? (Text.trim raw.toList) with
      | some f => .ok f
      | none =>
        match operator? (Text.trim raw.toList) with
        | some op => .error (.arguments op raw)
        | none => .ok (.literal raw) := by
  rw [parse, reading?]
  dsimp only
  generalize Text.trim raw.toList = v
  cases numericBounds? v with
  | some bounds => rfl
  | none =>
  cases pattern? v with
  | some p => rfl
  | none =>
  cases bounds? v with
  | some bounds => rfl
  | none =>
  cases items? v with
  | some items => rfl
  | none =>
  cases operand? ['g', 't'] v with
  | some x => rfl
  | none =>
  cases operand? ['l', 't'] v with
  | some x => rfl
  | none =>
  cases isBare ['n', 'u', 'l', 'l'] v with
  | true => rfl
  | false =>
  cases isBare ['n', 'e', 'n', 'u', 'l', 'l'] v with
  | true => rfl
  | false =>
  cases truth? v with
  | some truth => rfl
  | none => cases operator? v <;> rfl

section

variable {v : List Char} (hv : Text.IsAscii v)

include hv

theorem isNull_iff : isBare ['n', 'u', 'l', 'l'] v = true ↔ Spells "$null" v :=
  isBare_iff hv rfl (by decide)

theorem isNotNull_iff : isBare ['n', 'e', 'n', 'u', 'l', 'l'] v = true ↔ Spells "$nenull" v :=
  isBare_iff hv rfl (by decide)

theorem expresses_of_reading? {f : Filter} (h : reading? v = some f) : Expresses v f := by
  simp only [reading?, Option.or_eq_some_iff, Option.map_eq_some_iff,
    Option.ite_none_right_eq_some, Option.some.injEq] at h
  obtain ⟨⟨low, high⟩, h, rfl⟩ | ⟨hnumeric, h⟩ := h
  · obtain ⟨x, y, hopens, hx, hy⟩ := (numericBounds?_eq_some_iff hv).1 h
    exact .applied hopens (.numericBetween hx hy)
  obtain ⟨p, h, rfl⟩ | ⟨-, h⟩ := h
  · obtain ⟨hopens, hp⟩ := (pattern?_eq_some_iff hv).1 h
    exact .applied hopens (.like hp)
  obtain ⟨⟨low, high⟩, h, rfl⟩ | ⟨-, h⟩ := h
  · obtain ⟨x, y, hopens, hx, hcomma, hy, rfl, rfl⟩ := (bounds?_eq_some_iff hv).1 h
    refine .applied hopens (.between hx hcomma hy ?_)
    rintro ⟨⟨low, hlow⟩, high, hhigh⟩
    rw [(numericBounds?_eq_some_iff hv).2 ⟨x, y, hopens, hlow, hhigh⟩] at hnumeric
    cases hnumeric
  obtain ⟨items, h, rfl⟩ | ⟨-, h⟩ := h
  · obtain ⟨args, hopens, hline, hsplits⟩ := (items?_eq_some_iff hv).1 h
    exact .applied hopens (.oneOf hline hsplits)
  obtain ⟨x, h, rfl⟩ | ⟨-, h⟩ := h
  · obtain ⟨args, hopens, hline, rfl⟩ := (operand?_eq_some_iff hv .gt nofun).1 h
    exact .applied hopens (.gt hline)
  obtain ⟨x, h, rfl⟩ | ⟨-, h⟩ := h
  · obtain ⟨args, hopens, hline, rfl⟩ := (operand?_eq_some_iff hv .lt nofun).1 h
    exact .applied hopens (.lt hline)
  obtain ⟨h, rfl⟩ | ⟨-, h⟩ := h
  · exact .isNull ((isNull_iff hv).1 h)
  obtain ⟨h, rfl⟩ | ⟨-, truth, h, rfl⟩ := h
  · exact .isNotNull ((isNotNull_iff hv).1 h)
  obtain ⟨args, hopens, word, hword, hspells⟩ := (truth?_eq_some_iff hv).1 h
  exact .applied hopens (.bool hword hspells)

theorem exists_reading?_of_expresses {f : Filter} (h : Expresses v f) :
    ∃ g, reading? v = some g := by
  refine Option.ne_none_iff_exists'.1 fun hnone => ?_
  simp only [reading?, Option.or_eq_none_iff, Option.map_eq_none_iff, ite_eq_right_iff,
    reduceCtorEq, imp_false] at hnone
  obtain ⟨hnumeric, hlike, hbetween, hitems, hgt, hlt, hnull, hnotNull, htruth⟩ := hnone
  cases h with
  | applied hopens h =>
    cases h with
    | numericBetween hx hy =>
      exact nomatch hnumeric.symm.trans ((numericBounds?_eq_some_iff hv).2 ⟨_, _, hopens, hx, hy⟩)
    | between hx hcomma hy _ =>
      exact nomatch hbetween.symm.trans
        ((bounds?_eq_some_iff hv).2 ⟨_, _, hopens, hx, hcomma, hy, rfl, rfl⟩)
    | like hp => exact nomatch hlike.symm.trans ((pattern?_eq_some_iff hv).2 ⟨hopens, hp⟩)
    | oneOf hline hsplits =>
      exact nomatch hitems.symm.trans ((items?_eq_some_iff hv).2 ⟨_, hopens, hline, hsplits⟩)
    | gt hline =>
      exact nomatch hgt.symm.trans ((operand?_eq_some_iff hv .gt nofun).2 ⟨_, hopens, hline, rfl⟩)
    | lt hline =>
      exact nomatch hlt.symm.trans ((operand?_eq_some_iff hv .lt nofun).2 ⟨_, hopens, hline, rfl⟩)
    | bool hword hspells =>
      exact nomatch htruth.symm.trans ((truth?_eq_some_iff hv).2 ⟨_, hopens, _, hword, hspells⟩)
  | isNull h => exact hnull ((isNull_iff hv).2 h)
  | isNotNull h => exact hnotNull ((isNotNull_iff hv).2 h)

/-- The first reading that there is is the expression that the text is. -/
theorem reading?_eq_some_iff {f : Filter} : reading? v = some f ↔ Expresses v f := by
  constructor
  · exact expresses_of_reading? hv
  · intro h
    obtain ⟨g, hg⟩ := exists_reading?_of_expresses hv h
    rw [hg, h.unique (expresses_of_reading? hv hg)]

theorem reading?_eq_none_iff : reading? v = none ↔ ∀ f, ¬Expresses v f := by
  simp only [← reading?_eq_some_iff hv]
  exact Option.eq_none_iff_forall_ne_some

theorem operator?_eq_none_iff :
    operator? v = none ↔ ∀ op rest, ¬Operator.Opens op v rest := by
  rw [Option.eq_none_iff_forall_ne_some]
  refine forall_congr' fun op => ?_
  rw [Ne, operator?_eq_some_iff hv, not_exists]

end

/-! ## Expressions without arguments -/

theorem expresses_isNull_iff {v : List Char} : Expresses v .isNull ↔ Spells "$null" v := by
  refine ⟨fun h => ?_, .isNull⟩
  cases h with
  | applied _ h => cases h
  | isNull h => exact h

theorem expresses_isNotNull_iff {v : List Char} :
    Expresses v .isNotNull ↔ Spells "$nenull" v := by
  refine ⟨fun h => ?_, .isNotNull⟩
  cases h with
  | applied _ h => cases h
  | isNotNull h => exact h

theorem not_expresses_literal {v : List Char} {raw : String} : ¬Expresses v (.literal raw) := by
  intro h
  cases h with
  | applied _ h => cases h

/-! ## The expression of a raw value -/

section

variable {raw : String} {v : List Char} (hraw : Text.IsAscii raw.toList)
  (hv : Text.trim raw.toList = v)

include hraw hv

/-- A raw value is read as the expression that it is, and as a literal if it is none and begins with
    no operator. -/
theorem parse_eq_ok_iff {f : Filter} :
    parse raw = .ok f ↔ Expresses v f ∨
      f = .literal raw ∧ (∀ g, ¬Expresses v g) ∧ ∀ op rest, ¬Operator.Opens op v rest := by
  have hascii : Text.IsAscii v := hv ▸ hraw.trim
  rw [parse_eq, hv, ← reading?_eq_some_iff hascii, ← reading?_eq_none_iff hascii,
    ← operator?_eq_none_iff hascii]
  cases reading? v with
  | some g => simp
  | none =>
    cases operator? v with
    | some op => simp
    | none => simp [eq_comm]

/-- A raw value is refused if it is no expression but begins with an operator, which is named. -/
theorem parse_eq_error_iff {e : MalformedOperator} :
    parse raw = .error e ↔
      (∀ g, ¬Expresses v g) ∧ ∃ op rest, op.Opens v rest ∧ e = .arguments op raw := by
  have hascii : Text.IsAscii v := hv ▸ hraw.trim
  rw [parse_eq, hv, ← reading?_eq_none_iff hascii]
  simp only [exists_and_right, ← operator?_eq_some_iff hascii]
  cases reading? v with
  | some g => simp
  | none =>
    cases operator? v with
    | some op => simp [eq_comm]
    | none => simp

/-- A raw value of ASCII characters is a literal if and only if, without the blanks at its ends, it
    is neither of the two expressions without arguments and begins with no operator. If it begins
    with an operator, then it is the one expression of that operator and of the arguments between
    parentheses behind the name; if nothing of the kind that the operator takes is there, then it
    is refused and that operator is named. -/
theorem parse_grammar :
    (parse raw = .ok (.literal raw) ↔
      ¬Spells "$null" v ∧ ¬Spells "$nenull" v ∧ ∀ op rest, ¬Operator.Opens op v rest) ∧
    (parse raw = .ok .isNull ↔ Spells "$null" v) ∧
    (parse raw = .ok .isNotNull ↔ Spells "$nenull" v) ∧
    ∀ op rest, op.Opens v rest →
      (∀ args, rest = enclosed args → op.Accepts args →
        ∃ f, parse raw = .ok f ∧ ∀ g, op.Means args g ↔ g = f) ∧
      (parse raw = .error (.arguments op raw) ↔
        ¬∃ args, rest = enclosed args ∧ op.Accepts args) := by
  refine ⟨?_, ?_, ?_, fun op rest hopens => ⟨?_, ?_⟩⟩
  · rw [parse_eq_ok_iff hraw hv, or_iff_right not_expresses_literal, and_iff_right rfl]
    constructor
    · rintro ⟨hnone, hopens⟩
      exact ⟨fun h => hnone _ (.isNull h), fun h => hnone _ (.isNotNull h), hopens⟩
    · rintro ⟨hnull, hnotNull, hopens⟩
      refine ⟨?_, hopens⟩
      rintro g (⟨h, -⟩ | h | h)
      · exact hopens _ _ h
      · exact hnull h
      · exact hnotNull h
  · rw [parse_eq_ok_iff hraw hv, expresses_isNull_iff]
    exact or_iff_left fun h => nomatch h.1
  · rw [parse_eq_ok_iff hraw hv, expresses_isNotNull_iff]
    exact or_iff_left fun h => nomatch h.1
  · rintro args rfl haccepts
    obtain ⟨f, hf⟩ := Operator.accepts_iff.1 haccepts
    refine ⟨f, (parse_eq_ok_iff hraw hv).2 (Or.inl (.applied hopens hf)), fun g => ?_⟩
    constructor
    · exact fun hg => hg.unique hf
    · rintro rfl
      exact hf
  · rw [parse_eq_error_iff hraw hv]
    constructor
    · rintro ⟨hnone, -⟩ ⟨args, rfl, haccepts⟩
      obtain ⟨f, hf⟩ := Operator.accepts_iff.1 haccepts
      exact hnone f (.applied hopens hf)
    · intro hrefused
      refine ⟨fun g hg => hrefused ?_, op, rest, hopens, rfl⟩
      obtain ⟨args, hrest, hmeans⟩ := hopens.expresses_iff.1 hg
      exact ⟨args, hrest, Operator.accepts_iff.2 ⟨g, hmeans⟩⟩

end

/-- A range with a bound that is no 64-bit integer is a range of texts. -/
theorem parse_grammar_beyond_integers :
    Text.IsAscii " $Between(1,9223372036854775808)".toList ∧
      parse " $Between(1,9223372036854775808)" =
        .ok (.between "1" "9223372036854775808") := by
  have hraw : Text.IsAscii " $Between(1,9223372036854775808)".toList := by decide
  have hopens : Operator.between.Opens "$Between(1,9223372036854775808)".toList
      (enclosed ("1".toList ++ ',' :: "9223372036854775808".toList)) :=
    ⟨nofun, ⟨"$Between".toList, rfl, rfl⟩, not_isWord_enclosed⟩
  have hline : IsLine "9223372036854775808".toList := by
    unfold IsLine
    decide
  obtain ⟨f, hparse, hf⟩ := ((parse_grammar hraw rfl).2.2.2 .between _ hopens).1 _ rfl
    ⟨"1".toList, "9223372036854775808".toList, rfl, by decide, by decide, hline⟩
  have hbeyond : ¬∃ high, IsInteger high "9223372036854775808".toList := by
    rintro ⟨high, -, -, hvalue, hle⟩
    rw [← hvalue] at hle
    exact absurd hle (by decide)
  have hmeans := Operator.Means.between (List.cons_ne_nil '1' []) (by decide) hline
    fun h => hbeyond h.2
  refine ⟨hraw, ?_⟩
  rw [hparse, ← (hf _).1 hmeans]
  rfl

end Filter

end Depot
