import Depot.Proofs.Sql.Scan
import Mathlib.Data.List.Forall2

/-!
# Names in quotes and references to tables

A text is split into the names that stand in quotes and the characters outside of them: a quote
opens a name, two quotes in a name stand for one, and a single one closes the name. A text that ends
inside a name cannot be split.

A name directly behind one of the words `FROM`, `INTO` and `UPDATE` refers to a table. With a dot
and another name behind it, it is the schema of the table, which then has the other name.

* `Statement.lexemes?`: what a text is split into.
* `Statement.identifiers?`: the names in a text, `Statement.references?`: its references to tables.
* `Statement.names`: the names in a statement.
* `Statement.Refers`: a part of a statement in which some tables are referred to.

Results:
* `lexemes?_charsFrom`: the text of a statement is split into the names and the other characters
  that it is made of.
* `Refers.append`, `Refers.joined`: the references in parts are those in the whole.
* `Refers.shows`: the names in a text, and its references to tables.
-/

namespace Depot.Statement

/-! ## Splitting a text -/

/-- A name in quotes, or a character outside of names. -/
inductive Lexeme
  | name (s : String)
  | symbol (c : Char)
  deriving DecidableEq

/-- The name in quotes. -/
def Lexeme.name? : Lexeme → Option String
  | .name s => some s
  | .symbol _ => none

/-- Where a text was split so far: outside of names, in a name, or behind a quote in a name. -/
inductive Position
  | outside
  | inside (read : List Char)
  | quote (read : List Char)

/-- What the rest of a text is split into, unless the text ends inside a name. -/
def lexemesFrom? : Position → List Char → Option (List Lexeme)
  | .outside, [] => some []
  | .inside _, [] => none
  | .quote read, [] => some [.name (String.ofList read)]
  | .outside, c :: cs =>
    if c = '"' then lexemesFrom? (.inside []) cs else (lexemesFrom? .outside cs).map (.symbol c :: ·)
  | .inside read, c :: cs =>
    if c = '"' then lexemesFrom? (.quote read) cs else lexemesFrom? (.inside (read ++ [c])) cs
  | .quote read, c :: cs =>
    if c = '"' then lexemesFrom? (.inside (read ++ [c])) cs
    else (lexemesFrom? .outside cs).map fun ts => .name (String.ofList read) :: .symbol c :: ts

/-- What a text is split into. -/
def lexemes? (text : String) : Option (List Lexeme) := lexemesFrom? .outside text.toList

/-- The names in a text. -/
def identifiers? (text : String) : Option (List String) :=
  (lexemes? text).map (·.filterMap Lexeme.name?)

theorem lexemesFrom?_plain {cs : List Char} (h : '"' ∉ cs) (rest : List Char) :
    lexemesFrom? .outside (cs ++ rest) =
      (lexemesFrom? .outside rest).map (cs.map .symbol ++ ·) := by
  induction cs with
  | nil => simp
  | cons c cs ih =>
    rw [List.mem_cons, not_or] at h
    rw [List.cons_append, lexemesFrom?, if_neg (Ne.symm h.1), ih h.2, Option.map_map]
    rfl

theorem lexemesFrom?_quote {rest : List Char} (h : rest.head? ≠ some '"') (read : List Char) :
    lexemesFrom? (.quote read) rest =
      (lexemesFrom? .outside rest).map (.name (String.ofList read) :: ·) := by
  cases rest with
  | nil => rfl
  | cons c rest =>
    have hc : c ≠ '"' := by simpa using h
    rw [lexemesFrom?, lexemesFrom?, if_neg hc, if_neg hc, Option.map_map]
    rfl

/-- The rest of a name is read as it was before its quotes were doubled. -/
theorem lexemesFrom?_doubleQuotes (cs : List Char) {rest : List Char}
    (h : rest.head? ≠ some '"') (read : List Char) :
    lexemesFrom? (.inside read) (doubleQuotes cs ++ '"' :: rest) =
      (lexemesFrom? .outside rest).map (.name (String.ofList (read ++ cs)) :: ·) := by
  induction cs generalizing read with
  | nil =>
    rw [doubleQuotes, List.nil_append, lexemesFrom?, if_pos rfl, lexemesFrom?_quote h,
      List.append_nil]
  | cons c cs ih =>
    have happend : read ++ c :: cs = (read ++ [c]) ++ cs := by simp
    rw [doubleQuotes, happend, ← ih]
    by_cases hc : c = '"'
    · simp [hc, lexemesFrom?]
    · simp [hc, lexemesFrom?]

theorem lexemesFrom?_quoted (name : String) {rest : List Char} (h : rest.head? ≠ some '"') :
    lexemesFrom? .outside (quoted name ++ rest) =
      (lexemesFrom? .outside rest).map (.name name :: ·) := by
  have hquoted : quoted name ++ rest = '"' :: (doubleQuotes name.toList ++ '"' :: rest) := by
    simp [quoted]
  rw [hquoted, lexemesFrom?, if_pos rfl, lexemesFrom?_doubleQuotes _ h, List.nil_append,
    String.ofList_toList]

/-! ## Splitting the text of a statement -/

/-- Whether a statement has no quotes outside of its names, and a word behind each of them. -/
def Quotable : Statement → Prop
  | [] => True
  | .word w :: rest => w ≠ "" ∧ '"' ∉ w.toList ∧ Quotable rest
  | .name _ :: rest => Separated rest ∧ Quotable rest
  | .value _ cast :: rest => '"' ∉ cast.toList ∧ Quotable rest

/-- The names and the other characters of a statement, the first value as the placeholder
    `next`. -/
def lexemesFrom (next : Nat) : Statement → List Lexeme
  | [] => []
  | .word w :: rest => w.toList.map .symbol ++ lexemesFrom next rest
  | .name n :: rest => .name n :: lexemesFrom next rest
  | .value _ cast :: rest => (placeholder next cast).map .symbol ++ lexemesFrom (next + 1) rest

/-- The names in a statement. -/
def names (s : Statement) : List String :=
  s.filterMap fun
    | .name n => some n
    | _ => none

variable {s t : Statement}

theorem separated_of_append (h : Separated (s ++ t)) : Separated s := by
  cases s with
  | nil => trivial
  | cons p s => cases p <;> exact h

theorem quotable_append (hs : Quotable s) (ht : Quotable t) (h : Separated t) :
    Quotable (s ++ t) := by
  induction s with
  | nil => exact ht
  | cons p s ih =>
    cases p with
    | word w => exact ⟨hs.1, hs.2.1, ih hs.2.2⟩
    | name n => exact ⟨separated_append hs.1 h, ih hs.2⟩
    | value v cast => exact ⟨hs.1, ih hs.2⟩

theorem lexemesFrom_append (n : Nat) (s t : Statement) :
    lexemesFrom n (s ++ t) = lexemesFrom n s ++ lexemesFrom (n + s.params.length) t := by
  induction s generalizing n with
  | nil => simp [lexemesFrom, params]
  | cons p s ih => cases p <;> simp [lexemesFrom, params, ih, Nat.add_assoc, Nat.add_comm 1]

theorem head?_charsFrom (n : Nat) (hs : Quotable s) (h : Separated s) :
    (charsFrom n s).head? ≠ some '"' := by
  cases s with
  | nil => simp [charsFrom]
  | cons p s =>
    cases p with
    | word w =>
      obtain ⟨hne, hplain, -⟩ := hs
      cases hw : w.toList with
      | nil => exact absurd (String.toList_eq_nil_iff.1 hw) hne
      | cons c cs =>
        rw [hw, List.mem_cons, not_or] at hplain
        simpa [charsFrom, hw] using Ne.symm hplain.1
    | name m => exact h.elim
    | value v cast => exact h.elim

theorem quote_notMem_placeholder (n : Nat) {cast : String} (h : '"' ∉ cast.toList) :
    '"' ∉ placeholder n cast := by
  have hdigits : '"' ∉ Nat.toDigits 10 n := by
    intro hmem
    have hdigit := Nat.isDigit_of_mem_toDigits (by decide) (by decide) hmem
    exact absurd hdigit (by decide)
  rw [placeholder]
  split <;> simp [hdigits, h]

/-- The text of a statement is split into the names and the other characters that it is made of. -/
theorem lexemes?_charsFrom (n : Nat) (h : Quotable s) :
    lexemesFrom? .outside (charsFrom n s) = some (lexemesFrom n s) := by
  induction s generalizing n with
  | nil => rfl
  | cons p s ih =>
    cases p with
    | word w =>
      obtain ⟨-, hplain, hs⟩ := h
      rw [charsFrom, lexemesFrom?_plain hplain, ih n hs]
      rfl
    | name m =>
      obtain ⟨hseparated, hs⟩ := h
      rw [charsFrom, lexemesFrom?_quoted m (head?_charsFrom n hs hseparated), ih n hs]
      rfl
    | value v cast =>
      obtain ⟨hcast, hs⟩ := h
      rw [charsFrom, lexemesFrom?_plain (quote_notMem_placeholder n hcast), ih (n + 1) hs]
      rfl

@[simp] theorem filterMap_name?_map_symbol (cs : List Char) :
    (cs.map Lexeme.symbol).filterMap Lexeme.name? = [] := by
  rw [List.filterMap_map]
  exact List.filterMap_eq_nil_iff.2 fun _ _ => rfl

theorem filterMap_name?_lexemesFrom (n : Nat) (s : Statement) :
    (lexemesFrom n s).filterMap Lexeme.name? = s.names := by
  induction s generalizing n with
  | nil => rfl
  | cons p s ih =>
    cases p with
    | word w => rw [lexemesFrom, List.filterMap_append, filterMap_name?_map_symbol, ih]; rfl
    | name m => exact congrArg (m :: ·) (ih n)
    | value v cast => rw [lexemesFrom, List.filterMap_append, filterMap_name?_map_symbol, ih]; rfl

@[simp] theorem names_nil : names [] = [] := rfl

@[simp] theorem names_word (w : String) (s : Statement) : names (.word w :: s) = names s := rfl

@[simp] theorem names_name (n : String) (s : Statement) : names (.name n :: s) = n :: names s := rfl

@[simp] theorem names_value (v : Json) (cast : String) (s : Statement) :
    names (.value v cast :: s) = names s := rfl

@[simp] theorem names_append (s t : Statement) : names (s ++ t) = names s ++ names t :=
  List.filterMap_append

@[simp] theorem names_joined (between : String) (ss : List Statement) :
    names (joined between ss) = ss.flatMap names := by
  induction ss with
  | nil => rfl
  | cons s ss ih =>
    cases ss with
    | nil => simp [joined]
    | cons t ss =>
      show names (s ++ .word between :: joined between (t :: ss)) =
        names s ++ (t :: ss).flatMap names
      rw [names_append, names_word, ih]

/-! ## References to tables -/

/-- A table as it is referred to, with its schema if that is given. -/
structure Reference where
  schema : Option String
  table : String
  deriving DecidableEq

/-- The words behind which a table is named. -/
def tableWords : List String := ["FROM ", "INTO ", "UPDATE "]

/-- Whether a table is named behind characters, of which the last one comes first. -/
def opensTable (before : List Char) : Bool :=
  tableWords.any fun w => w.toList.reverse.isPrefixOf before

/-- The references to tables, where `before` are the characters behind the last name, the last one
    first. -/
def referencesFrom (before : List Char) : List Lexeme → List Reference
  | [] => []
  | .symbol c :: ts => referencesFrom (c :: before) ts
  | .name schema :: .symbol '.' :: .name table :: ts =>
    if opensTable before then ⟨some schema, table⟩ :: referencesFrom [] ts
    else referencesFrom [] (.symbol '.' :: .name table :: ts)
  | .name table :: ts =>
    if opensTable before then ⟨none, table⟩ :: referencesFrom [] ts else referencesFrom [] ts

/-- The references to tables in a text. -/
def references? (text : String) : Option (List Reference) :=
  (lexemes? text).map (referencesFrom [])

theorem referencesFrom_symbols (before cs : List Char) (ts : List Lexeme) :
    referencesFrom before (cs.map .symbol ++ ts) = referencesFrom (cs.reverse ++ before) ts := by
  induction cs generalizing before with
  | nil => rfl
  | cons c cs ih => simp [referencesFrom, ih]

/-- A name that refers to no table. -/
theorem referencesFrom_name {before : List Char} (h : opensTable before = false) (n : String)
    (ts : List Lexeme) : referencesFrom before (.name n :: ts) = referencesFrom [] ts := by
  rw [referencesFrom.eq_def]
  split <;> simp_all

/-- A word behind which no table is named, whatever stands before it. -/
abbrev Settles (w : String) : Prop :=
  w ≠ "" ∧ '"' ∉ w.toList ∧
    ∀ k ∈ tableWords, ¬k.toList <:+ w.toList ∧ ¬w.toList <:+ k.toList

theorem opensTable_of_settles {w : String} (h : Settles w) (before : List Char) :
    opensTable (w.toList.reverse ++ before) = false := by
  rw [opensTable, List.any_eq_false]
  intro k hk hprefix
  obtain ⟨hlonger, hshorter⟩ := h.2.2 k hk
  rw [List.isPrefixOf_iff_prefix] at hprefix
  rcases List.prefix_or_prefix_of_prefix hprefix (List.prefix_append _ before) with h | h
  · exact hlonger (List.reverse_prefix.1 h)
  · exact hshorter (List.reverse_prefix.1 h)

/-- A part of a statement whose text can be split, and in which some tables are referred to. A part
    that begins with a word may stand anywhere, any other not behind a word for a table. -/
structure Refers (s : Statement) (refs : List Reference) : Prop where
  quotable : Quotable s
  reads : ∀ (before : List Char) (n : Nat), Separated s ∨ opensTable before = false →
    ∃ after : List Char, ∀ ts : List Lexeme,
      referencesFrom before (lexemesFrom n s ++ ts) = refs ++ referencesFrom after ts

namespace Refers

variable {as bs : List Reference}

theorem nil : Refers [] [] := ⟨trivial, fun before _ _ => ⟨before, fun _ => rfl⟩⟩

theorem word {w : String} (hw : Settles w) (h : Refers s as) : Refers (.word w :: s) as where
  quotable := ⟨hw.1, hw.2.1, h.quotable⟩
  reads := fun before n _ => by
    obtain ⟨after, hafter⟩ := h.reads (w.toList.reverse ++ before) n
      (.inr (opensTable_of_settles hw before))
    refine ⟨after, fun ts => ?_⟩
    rw [lexemesFrom, List.append_assoc, referencesFrom_symbols, hafter]

/-- Before another word it does not matter whether a word settles what stands before it. -/
theorem words {w : String} (hne : w ≠ "") (hplain : '"' ∉ w.toList) (hs : Separated s)
    (h : Refers s as) : Refers (.word w :: s) as where
  quotable := ⟨hne, hplain, h.quotable⟩
  reads := fun before n _ => by
    obtain ⟨after, hafter⟩ := h.reads (w.toList.reverse ++ before) n (.inl hs)
    refine ⟨after, fun ts => ?_⟩
    rw [lexemesFrom, List.append_assoc, referencesFrom_symbols, hafter]

theorem name {m : String} (hs : Separated s) (h : Refers s as) : Refers (.name m :: s) as where
  quotable := ⟨hs, h.quotable⟩
  reads := fun before n hbefore => by
    obtain ⟨after, hafter⟩ := h.reads [] n (.inl hs)
    refine ⟨after, fun ts => ?_⟩
    rw [lexemesFrom, List.cons_append, referencesFrom_name (hbefore.resolve_left id), hafter]

theorem value {v : Json} {cast : String} (hcast : '"' ∉ cast.toList) (hs : Separated s)
    (h : Refers s as) : Refers (.value v cast :: s) as where
  quotable := ⟨hcast, h.quotable⟩
  reads := fun before n _ => by
    obtain ⟨after, hafter⟩ := h.reads ((placeholder n cast).reverse ++ before) (n + 1) (.inl hs)
    refine ⟨after, fun ts => ?_⟩
    rw [lexemesFrom, List.append_assoc, referencesFrom_symbols, hafter]

/-- The table behind a word for tables. -/
theorem table {w : String} (hne : w ≠ "") (hplain : '"' ∉ w.toList)
    (hw : ∀ before, opensTable (w.toList.reverse ++ before) = true) (schema table : String) :
    Refers [.word w, .name schema, .word ".", .name table] [⟨some schema, table⟩] where
  quotable := ⟨hne, hplain, trivial, by decide, by decide, trivial, trivial⟩
  reads := fun before n _ => by
    refine ⟨[], fun ts => ?_⟩
    have hlexemes : lexemesFrom n [.word w, .name schema, .word ".", .name table] ++ ts =
        w.toList.map .symbol ++ .name schema :: .symbol '.' :: .name table :: ts := by
      simp [lexemesFrom]
    rw [hlexemes, referencesFrom_symbols, referencesFrom, if_pos (hw before)]
    rfl

theorem append (hs : Refers s as) (ht : Refers t bs) (h : Separated t) :
    Refers (s ++ t) (as ++ bs) where
  quotable := quotable_append hs.quotable ht.quotable h
  reads := fun before n hbefore => by
    obtain ⟨between, hbetween⟩ := hs.reads before n (hbefore.imp_left separated_of_append)
    obtain ⟨after, hafter⟩ := ht.reads between (n + s.params.length) (.inl h)
    refine ⟨after, fun ts => ?_⟩
    rw [lexemesFrom_append, List.append_assoc, hbetween, hafter, List.append_assoc]

/-- Parts with a word between them. -/
theorem joined {between : String} (hbetween : Settles between) {ss : List Statement}
    {rss : List (List Reference)} (h : List.Forall₂ Refers ss rss) :
    Refers (Statement.joined between ss) rss.flatten := by
  induction h with
  | nil => exact nil
  | @cons s rs ss rss hs hss ih =>
    cases hss with
    | nil => simpa [Statement.joined] using hs
    | cons _ _ => exact hs.append (ih.word hbetween) trivial

/-- Parts without references, with a word between them. -/
theorem joined_nil {between : String} (hbetween : Settles between) {ss : List Statement}
    (h : ∀ s ∈ ss, Refers s []) : Refers (Statement.joined between ss) [] := by
  have hparts : List.Forall₂ Refers ss (ss.map fun _ => []) :=
    List.forall₂_map_right_iff.2 (List.forall₂_same.2 h)
  simpa using joined hbetween hparts

end Refers

/-- What is to be known of the text of a statement: it can be split, and has these names, in this
    order, and these references to tables. -/
structure Shows (s : Statement) (identifiers : List String) (refs : List Reference) : Prop where
  identifiers : identifiers? s.text = some identifiers
  references : references? s.text = some refs

theorem Refers.shows {refs : List Reference} (h : Refers s refs) : Shows s s.names refs := by
  have hlexemes : lexemes? s.text = some (lexemesFrom 1 s) := by
    rw [lexemes?, text, String.toList_ofList, lexemes?_charsFrom 1 h.quotable]
  obtain ⟨after, hafter⟩ := h.reads [] 1 (.inr rfl)
  have hreferences := hafter []
  rw [List.append_nil, referencesFrom, List.append_nil] at hreferences
  constructor
  · rw [identifiers?, hlexemes, Option.map_some, filterMap_name?_lexemesFrom]
  · rw [references?, hlexemes, Option.map_some, hreferences]

end Depot.Statement
