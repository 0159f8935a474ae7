import Depot.KeyPath
import Depot.Proofs.Program
import Depot.Proofs.Text.Cuts
import Mathlib.Data.List.Forall2

/-!
# The grammar of key paths

A key path consists of literal characters, none of which is a colon or a bracket, and of tokens: a
colon and a name, which may be followed by a group between parentheses and by a column between
angle brackets. The name of a token ends where no word character follows.

* `KeyPath.IsReading`: parts of which a path may consist.
* `KeyPath.written`: the path that consists of parts.
* `KeyPath.Token.Yields`: what the entry of a token says.

Results:
* `written_segments`: the parts that are found in a path are the whole path.
* `segments_written`: a path consists of the parts that it is written from, and of no others.
* `entriesOf_eq_ok_iff`: when parts have entries, and which.
* `resolve_eq_ok_iff`: a path has entries exactly if it has a reading whose names are different and
  whose groups compile.
* `resolve_reads`: the same for all paths, together with the entries.
-/

namespace Depot.KeyPath

/-! ## Parts of a path -/

/-- A run of word characters that is not empty. -/
def IsName (cs : List Char) : Prop := cs ≠ [] ∧ ∀ c ∈ cs, Text.isWord c = true

/-- A text between parentheses without a closing parenthesis in it. -/
def IsGroup (cs : List Char) : Prop := ∃ inner, cs = '(' :: (inner ++ [')']) ∧ ')' ∉ inner

/-- A character that may stand outside the tokens. -/
def IsLiteral (c : Char) : Prop := c ≠ ':' ∧ c ≠ '(' ∧ c ≠ ')' ∧ c ≠ '<' ∧ c ≠ '>'

namespace Token

/-- The column of a token as it is written. -/
def columnChars (t : Token) : List Char :=
  match t.column with
  | none => []
  | some c => '<' :: (c ++ ['>'])

/-- What is written behind the name of a token. -/
def suffix (t : Token) : List Char := t.group.getD [] ++ t.columnChars

/-- A token as it is written. -/
def chars (t : Token) : List Char := ':' :: (t.name ++ t.suffix)

/-- A token whose name and column are words and whose group is one. -/
structure IsProper (t : Token) : Prop where
  name : IsName t.name
  group : ∀ g, t.group = some g → IsGroup g
  column : ∀ c, t.column = some c → IsName c

/-- What the entry of a token says: its name, its column or else the name, and its group or else the
    default pattern, which is not enforced. -/
structure Yields (t : Token) (e : KeyPathEntry) : Prop where
  param : e.param = String.ofList t.name
  column : e.column = String.ofList (t.column.getD t.name)
  pattern : e.pattern = (t.group.map String.ofList).getD defaultParamPattern
  matcher : e.matcher = t.group.bind compileGroup?

/-- Whether the group of a token, if it has one, compiles. -/
def Compiles (t : Token) : Prop := ∀ g, t.group = some g → (compileGroup? g).isSome = true

end Token

/-- A part as it is written. -/
def Segment.chars : Segment → List Char
  | .literal c => [c]
  | .token t => t.chars
  | .stray _ => [':']

/-- The path that consists of parts. -/
def written (parts : List Segment) : List Char := parts.flatMap Segment.chars

/-- The tokens among parts. -/
def tokens (parts : List Segment) : List Token :=
  parts.filterMap fun
    | .token t => some t
    | _ => none

/-- Parts as a path is read from left to right: literal characters, and tokens whose name goes as
    far as there are word characters. -/
inductive IsReading : List Segment → Prop
  | nil : IsReading []
  | literal {c : Char} {parts : List Segment} (hc : IsLiteral c) (h : IsReading parts) :
      IsReading (.literal c :: parts)
  | token {t : Token} {parts : List Segment} (ht : t.IsProper)
      (hend : ∀ c, (t.suffix ++ written parts).head? = some c → Text.isWord c = false)
      (h : IsReading parts) : IsReading (.token t :: parts)

/-! ## Tokens -/

/-- A name goes as far as there are word characters. -/
theorem wordSpan_append {name rest : List Char} (hname : IsName name)
    (hend : ∀ c, rest.head? = some c → Text.isWord c = false) : wordSpan (name ++ rest) = name :=
  Text.takeWhile_eq_of_stops hname.2 hend

/-- A text is the longest name at its start, and what follows that. -/
theorem exists_wordSpan_append (cs : List Char) :
    ∃ rest, cs = wordSpan cs ++ rest ∧ ∀ c, rest.head? = some c → Text.isWord c = false :=
  Text.exists_takeWhile_append Text.isWord cs

theorem isName_wordSpan {cs : List Char} (h : wordSpan cs ≠ []) : IsName (wordSpan cs) :=
  ⟨h, fun c hc => List.all_eq_true.1 List.all_takeWhile c hc⟩

theorem groupSpan?_eq_some_iff {cs g : List Char} :
    groupSpan? cs = some g ↔ IsGroup g ∧ ∃ rest, cs = g ++ rest := by
  constructor
  · intro h
    unfold groupSpan? at h
    split at h
    · rename_i inner
      obtain ⟨⟨a, b⟩, hcut, rfl⟩ := Option.map_eq_some_iff.1 h
      obtain ⟨rfl, hmem⟩ := Text.cutAt_eq_some_iff.1 hcut
      exact ⟨⟨a, rfl, hmem⟩, b, by simp⟩
    · cases h
  · rintro ⟨⟨inner, rfl, hmem⟩, rest, rfl⟩
    have hcut : Text.cutAt ')' (inner ++ ')' :: rest) = some (inner, rest) :=
      Text.cutAt_eq_some_iff.2 ⟨rfl, hmem⟩
    simp [groupSpan?, hcut]

theorem groupSpan?_eq_none {cs : List Char} (h : cs.head? ≠ some '(') : groupSpan? cs = none := by
  rw [Option.eq_none_iff_forall_ne_some]
  intro g hg
  obtain ⟨⟨inner, rfl, -⟩, rest, rfl⟩ := groupSpan?_eq_some_iff.1 hg
  exact h rfl

/-- A text is the group at its start, if there is one, and what follows that. -/
theorem exists_groupSpan_append (cs : List Char) :
    ∃ rest, cs = (groupSpan? cs).getD [] ++ rest := by
  cases h : groupSpan? cs with
  | none => exact ⟨cs, rfl⟩
  | some g => exact (groupSpan?_eq_some_iff.1 h).2

theorem columnSpan?_eq_some_iff {cs w : List Char} :
    columnSpan? cs = some w ↔ IsName w ∧ ∃ rest, cs = '<' :: (w ++ '>' :: rest) := by
  constructor
  · intro h
    unfold columnSpan? at h
    split at h
    · rename_i cs
      dsimp only at h
      split at h
      · rename_i hword
        rw [Option.some.injEq] at h
        subst h
        rw [Bool.and_eq_true, decide_eq_true_eq, Bool.not_eq_true', List.isEmpty_eq_false_iff]
          at hword
        obtain ⟨rest, hcs, -⟩ := exists_wordSpan_append cs
        rw [Text.drop_length_of_append hcs] at hword
        obtain ⟨rest', rfl⟩ := List.head?_eq_some_iff.1 hword.2
        exact ⟨isName_wordSpan hword.1, rest', congrArg _ hcs⟩
      · cases h
    · cases h
  · rintro ⟨hname, rest, rfl⟩
    have hspan : wordSpan (w ++ '>' :: rest) = w := by
      refine wordSpan_append hname ?_
      rintro c ⟨⟩
      decide
    simp [columnSpan?, hspan, hname.1]

theorem columnSpan?_eq_none {cs : List Char} (h : cs.head? ≠ some '<') : columnSpan? cs = none := by
  rw [Option.eq_none_iff_forall_ne_some]
  intro w hw
  obtain ⟨-, rest, rfl⟩ := columnSpan?_eq_some_iff.1 hw
  exact h rfl

namespace Token

theorem length_eq (t : Token) : t.length = (t.name ++ t.suffix).length := by
  rw [length, suffix, columnChars]
  cases t.column with
  | none => simp
  | some c => simp [Nat.add_assoc]

end Token

/-- The token at the start of a text is proper, and the text goes on behind it. -/
theorem of_token? {cs : List Char} {t : Token} (h : token? cs = some t) :
    t.IsProper ∧ ∃ rest, cs = (t.name ++ t.suffix) ++ rest ∧
      ∀ c, (t.suffix ++ rest).head? = some c → Text.isWord c = false := by
  rw [token?] at h
  dsimp only at h
  split at h
  · cases h
  · rename_i hname
    obtain ⟨rest, hcs, hend⟩ := exists_wordSpan_append cs
    obtain ⟨after, hrest⟩ := exists_groupSpan_append rest
    rw [Text.drop_length_of_append hcs, Text.drop_length_of_append hrest, Option.some.injEq] at h
    subst h
    rw [List.isEmpty_iff] at hname
    have hcolumn : ∃ last, after =
        Token.columnChars ⟨wordSpan cs, groupSpan? rest, columnSpan? after⟩ ++ last := by
      rw [Token.columnChars]
      cases hspan : columnSpan? after with
      | none => exact ⟨after, rfl⟩
      | some c =>
        obtain ⟨-, last, rfl⟩ := columnSpan?_eq_some_iff.1 hspan
        exact ⟨last, by simp⟩
    obtain ⟨last, hlast⟩ := hcolumn
    have hsuffix : rest =
        Token.suffix ⟨wordSpan cs, groupSpan? rest, columnSpan? after⟩ ++ last := by
      rw [Token.suffix, List.append_assoc, ← hlast]
      exact hrest
    refine ⟨⟨isName_wordSpan hname, ?_, ?_⟩, last, ?_, hsuffix ▸ hend⟩
    · intro g hg
      exact (groupSpan?_eq_some_iff.1 hg).1
    · intro c hc
      exact (columnSpan?_eq_some_iff.1 hc).1
    · rw [List.append_assoc, ← hsuffix]
      exact hcs

/-- A token that is written before something else than a word character or an opening bracket is
    read as it is written. -/
theorem token?_of_isProper {t : Token} (ht : t.IsProper) {rest : List Char}
    (hend : ∀ c, (t.suffix ++ rest).head? = some c → Text.isWord c = false)
    (hgroup : rest.head? ≠ some '(') (hcolumn : rest.head? ≠ some '<') :
    token? (t.name ++ t.suffix ++ rest) = some t := by
  obtain ⟨name, group, column⟩ := t
  have hname : wordSpan (name ++ (Token.suffix ⟨name, group, column⟩ ++ rest)) = name :=
    wordSpan_append ht.name hend
  have hgroupSpan : groupSpan? (Token.suffix ⟨name, group, column⟩ ++ rest) = group := by
    cases group with
    | none =>
      refine groupSpan?_eq_none ?_
      cases column with
      | none => exact hgroup
      | some c => exact fun h => absurd (Option.some.inj h) (by decide)
    | some g =>
      exact groupSpan?_eq_some_iff.2 ⟨ht.group g rfl, _, List.append_assoc _ _ _⟩
  have hcolumnSpan :
      columnSpan? (Token.columnChars ⟨name, group, column⟩ ++ rest) = column := by
    cases column with
    | none => exact columnSpan?_eq_none hcolumn
    | some c => exact columnSpan?_eq_some_iff.2 ⟨ht.column c rfl, rest, by simp [Token.columnChars]⟩
  have hdrop : (Token.suffix ⟨name, group, column⟩ ++ rest).drop (group.getD []).length =
      Token.columnChars ⟨name, group, column⟩ ++ rest :=
    Text.drop_length_of_append (List.append_assoc _ _ _)
  rw [token?, List.append_assoc]
  dsimp only
  rw [hname, if_neg (by simpa using ht.name.1), List.drop_left, hgroupSpan, hdrop, hcolumnSpan]

/-! ## Parts -/

theorem written_cons (part : Segment) (parts : List Segment) :
    written (part :: parts) = part.chars ++ written parts := List.flatMap_cons

/-- The characters of a token are passed over. -/
theorem exists_segmentsFrom_append (front cs : List Char) (offset : Nat) :
    ∃ offset', segmentsFrom front.length offset (front ++ cs) = segmentsFrom 0 offset' cs := by
  induction front generalizing offset with
  | nil => exact ⟨offset, rfl⟩
  | cons c front ih =>
    rw [List.length_cons, List.cons_append, segmentsFrom]
    exact ih _

/-- The parts that are found in a text are the whole text. -/
theorem written_segmentsFrom (skip offset : Nat) (cs : List Char) :
    written (segmentsFrom skip offset cs) = cs.drop skip := by
  fun_induction segmentsFrom skip offset cs with
  | case1 skip offset => simp [written]
  | case2 offset c cs skip ih => exact ih
  | case3 offset cs t ht ih =>
    obtain ⟨-, rest, hcs, -⟩ := of_token? ht
    rw [written_cons, ih, Token.length_eq, Text.drop_length_of_append hcs, hcs]
    rfl
  | case4 offset cs hnone ih => rw [written_cons, ih]; rfl
  | case5 offset c cs hc ih => rw [written_cons, ih]; rfl

/-- The parts that are found in a path are the whole path. -/
theorem written_segments (path : List Char) : written (segments path) = path :=
  written_segmentsFrom 0 0 path

/-- A part that a path may have: no stray colon and no bracket outside the tokens. -/
def Segment.IsSound : Segment → Prop
  | .literal c => c ≠ '(' ∧ c ≠ ')' ∧ c ≠ '<' ∧ c ≠ '>'
  | .token _ => True
  | .stray _ => False

/-- The parts that are found in a text are a reading of it, if all of them are sound. -/
theorem isReading_segmentsFrom {skip offset : Nat} {cs : List Char}
    (h : ∀ part ∈ segmentsFrom skip offset cs, part.IsSound) :
    IsReading (segmentsFrom skip offset cs) := by
  fun_induction segmentsFrom skip offset cs with
  | case1 skip offset => exact .nil
  | case2 offset c cs skip ih => exact ih h
  | case3 offset cs t ht ih =>
    obtain ⟨hproper, rest, hcs, hend⟩ := of_token? ht
    refine .token hproper ?_ (ih fun part hpart => h part (List.mem_cons_of_mem _ hpart))
    rw [written_segmentsFrom, Token.length_eq, Text.drop_length_of_append hcs]
    exact hend
  | case4 offset cs hnone ih => exact (h (.stray offset) List.mem_cons_self).elim
  | case5 offset c cs hc ih =>
    exact .literal ⟨hc, h (.literal c) List.mem_cons_self⟩
      (ih fun part hpart => h part (List.mem_cons_of_mem _ hpart))

theorem IsReading.isSound {parts : List Segment} (h : IsReading parts) :
    ∀ part ∈ parts, part.IsSound := by
  induction h with
  | nil => exact nofun
  | literal hc h ih => exact List.forall_mem_cons.2 ⟨hc.2, ih⟩
  | token ht hend h ih => exact List.forall_mem_cons.2 ⟨trivial, ih⟩

/-- No bracket is at the start of a path without stray brackets. -/
theorem head?_written {parts : List Segment} (h : ∀ part ∈ parts, part.IsSound) :
    (written parts).head? ≠ some '(' ∧ (written parts).head? ≠ some '<' := by
  cases parts with
  | nil => exact ⟨nofun, nofun⟩
  | cons part parts =>
    have hpart := h part List.mem_cons_self
    cases part with
    | literal c =>
      exact ⟨fun he => hpart.1 (Option.some.inj he), fun he => hpart.2.2.1 (Option.some.inj he)⟩
    | token t =>
      exact ⟨fun he => absurd (Option.some.inj he) (by decide),
        fun he => absurd (Option.some.inj he) (by decide)⟩
    | stray offset => exact hpart.elim

theorem segmentsFrom_written {parts : List Segment} (h : IsReading parts) (offset : Nat) :
    segmentsFrom 0 offset (written parts) = parts := by
  induction h generalizing offset with
  | nil => rfl
  | @literal c parts hc h ih =>
    rw [written_cons, Segment.chars, List.singleton_append, segmentsFrom, if_neg hc.1, ih]
  | @token t parts ht hend h ih =>
    have htoken : token? (t.name ++ t.suffix ++ written parts) = some t :=
      token?_of_isProper ht hend (head?_written h.isSound).1 (head?_written h.isSound).2
    rw [written_cons, Segment.chars, Token.chars, List.cons_append, segmentsFrom, if_pos rfl,
      htoken]
    dsimp only
    rw [Token.length_eq]
    obtain ⟨offset', hskip⟩ := exists_segmentsFrom_append (t.name ++ t.suffix) (written parts)
      (offset + Char.utf8Size ':')
    rw [hskip, ih]

/-- A path consists of the parts that it is written from, and of no others. -/
theorem segments_written {parts : List Segment} (h : IsReading parts) :
    segments (written parts) = parts := segmentsFrom_written h 0

/-! ## Entries -/

/-- A token has an entry if its group compiles. -/
theorem Token.entry_eq_ok_iff {t : Token} {e : KeyPathEntry} :
    t.entry = .ok e ↔ t.Compiles ∧ t.Yields e := by
  obtain ⟨name, group, column⟩ := t
  obtain ⟨param, column', pattern, matcher⟩ := e
  cases group with
  | none =>
    rw [entry, Except.ok.injEq, KeyPathEntry.mk.injEq]
    constructor
    · rintro ⟨rfl, rfl, rfl, rfl⟩
      exact ⟨nofun, ⟨rfl, rfl, rfl, rfl⟩⟩
    · rintro ⟨-, ⟨rfl, rfl, rfl, rfl⟩⟩
      exact ⟨rfl, rfl, rfl, rfl⟩
  | some g =>
    cases hcompile : compileGroup? g with
    | none =>
      refine iff_of_false (fun h => ?_) fun h => ?_
      · simp only [entry, hcompile] at h
        cases h
      · have hsome := h.1 g rfl
        rw [hcompile] at hsome
        cases hsome
    | some m =>
      simp only [entry, hcompile, Except.ok.injEq, KeyPathEntry.mk.injEq]
      constructor
      · rintro ⟨rfl, rfl, rfl, rfl⟩
        refine ⟨?_, ⟨rfl, rfl, rfl, hcompile.symm⟩⟩
        rintro g' ⟨⟩
        exact hcompile ▸ rfl
      · rintro ⟨-, ⟨rfl, rfl, rfl, hmatcher⟩⟩
        exact ⟨rfl, rfl, rfl, (hmatcher.trans hcompile).symm⟩

/-- A token has an entry before those of the rest, and its name is given away. -/
theorem entriesOf_token_eq_ok_iff {seen : List (List Char)} {t : Token} {parts : List Segment}
    {entries : List KeyPathEntry} :
    entriesOf seen (.token t :: parts) = .ok entries ↔
      t.name ∉ seen ∧ ∃ entry rest, t.entry = .ok entry ∧
        entriesOf (t.name :: seen) parts = .ok rest ∧ entries = entry :: rest := by
  rw [entriesOf, bind_eq_ok_iff]
  constructor
  · rintro ⟨entry, hentry, h⟩
    by_cases hseen : seen.contains t.name = true
    · rw [if_pos hseen] at h
      cases h
    · rw [if_neg hseen] at h
      obtain ⟨rest, hrest, h⟩ := bind_eq_ok_iff.1 h
      exact ⟨fun hmem => hseen (List.contains_iff_mem.2 hmem), entry, rest, hentry, hrest,
        (Except.ok.inj h).symm⟩
  · rintro ⟨hfresh, entry, rest, hentry, hrest, rfl⟩
    refine ⟨entry, hentry, ?_⟩
    rw [if_neg fun hseen => hfresh (List.contains_iff_mem.1 hseen)]
    exact bind_eq_ok_iff.2 ⟨rest, hrest, rfl⟩

/-- Names are free behind a token if they are free before it and none of them is its name. -/
theorem forall_name_notMem_cons_iff {name : List Char} {seen : List (List Char)}
    {ts : List Token} :
    (∀ t ∈ ts, t.name ∉ name :: seen) ↔ name ∉ ts.map Token.name ∧ ∀ t ∈ ts, t.name ∉ seen := by
  simp only [List.mem_cons, not_or, forall_and, List.mem_map, not_exists, not_and]

/-- Parts have entries if none of them is stray, the names are different from each other and from
    those before, and each token has an entry. -/
theorem entriesOf_eq_ok_iff {seen : List (List Char)} {parts : List Segment}
    {entries : List KeyPathEntry} :
    entriesOf seen parts = .ok entries ↔
      (∀ offset, .stray offset ∉ parts) ∧ ((tokens parts).map Token.name).Nodup ∧
        (∀ t ∈ tokens parts, t.name ∉ seen) ∧
        List.Forall₂ (fun t e => t.entry = .ok e) (tokens parts) entries := by
  induction parts generalizing seen entries with
  | nil =>
    rw [entriesOf, Except.ok.injEq]
    constructor
    · rintro rfl
      exact ⟨fun _ => List.not_mem_nil, List.nodup_nil, nofun, .nil⟩
    · rintro ⟨-, -, -, hentries⟩
      cases hentries
      rfl
  | cons part parts ih =>
    cases part with
    | literal c =>
      have hstray (offset : Nat) : .stray offset ∉ Segment.literal c :: parts ↔
          .stray offset ∉ parts := by simp
      rw [entriesOf, ih]
      simp only [hstray]
      rfl
    | stray offset =>
      exact iff_of_false nofun fun h => h.1 offset List.mem_cons_self
    | token t =>
      have hstray (offset : Nat) : .stray offset ∉ Segment.token t :: parts ↔
          .stray offset ∉ parts := by simp
      have htokens : tokens (.token t :: parts) = t :: tokens parts := rfl
      rw [entriesOf_token_eq_ok_iff, htokens]
      simp only [hstray, ih, forall_name_notMem_cons_iff, List.map_cons, List.nodup_cons,
        List.forall_mem_cons]
      constructor
      · rintro ⟨hfirst, entry, rest, hentry, ⟨hstrays, hnames, ⟨hname, hfresh⟩, hrest⟩, rfl⟩
        exact ⟨hstrays, ⟨hname, hnames⟩, ⟨hfirst, hfresh⟩, .cons hentry hrest⟩
      · rintro ⟨hstrays, ⟨hname, hnames⟩, ⟨hfirst, hfresh⟩, hentries⟩
        cases hentries with
        | @cons _ entry _ rest hentry hrest =>
          exact ⟨hfirst, entry, rest, hentry, ⟨hstrays, hnames, ⟨hname, hfresh⟩, hrest⟩, rfl⟩

theorem strayBracket?_eq_none_iff {parts : List Segment} :
    strayBracket? parts = none ↔
      ∀ c, .literal c ∈ parts → c ≠ '(' ∧ c ≠ ')' ∧ c ≠ '<' ∧ c ≠ '>' := by
  rw [strayBracket?, List.findSome?_eq_none_iff]
  constructor
  · intro h c hc
    have hnone := h (.literal c) hc
    simpa using hnone
  · intro h part hpart
    cases part with
    | literal c => simpa using h c hpart
    | token t => rfl
    | stray offset => rfl

/-- All parts are sound if there is no stray colon and no stray bracket among them. -/
theorem forall_isSound_iff {parts : List Segment} :
    (∀ part ∈ parts, part.IsSound) ↔
      (∀ offset, .stray offset ∉ parts) ∧ strayBracket? parts = none := by
  rw [strayBracket?_eq_none_iff]
  constructor
  · exact fun h => ⟨fun offset hmem => h (.stray offset) hmem, fun c hc => h (.literal c) hc⟩
  · rintro ⟨hstray, hbracket⟩ part hpart
    cases part with
    | literal c => exact hbracket c hpart
    | token t => trivial
    | stray offset => exact hstray offset hpart

/-- A path has entries if it can be read, the names of its tokens are different, and their groups
    compile. -/
theorem resolve_eq_ok_iff {path : String} {entries : List KeyPathEntry} :
    resolve path = .ok entries ↔
      IsReading (segments path.toList) ∧
        ((tokens (segments path.toList)).map Token.name).Nodup ∧
        (∀ t ∈ tokens (segments path.toList), t.Compiles) ∧
        List.Forall₂ Token.Yields (tokens (segments path.toList)) entries := by
  have hresolve : resolve path = .ok entries ↔
      entriesOf [] (segments path.toList) = .ok entries ∧
        strayBracket? (segments path.toList) = none := by
    rw [resolve, bind_eq_ok_iff]
    constructor
    · rintro ⟨found, hfound, h⟩
      split at h
      · cases h
      · rename_i hnone
        obtain rfl : found = entries := Except.ok.inj h
        exact ⟨hfound, hnone⟩
    · rintro ⟨hfound, hnone⟩
      exact ⟨entries, hfound, by rw [hnone]⟩
  have hreading : IsReading (segments path.toList) ↔
      ∀ part ∈ segments path.toList, part.IsSound :=
    ⟨IsReading.isSound, isReading_segmentsFrom⟩
  rw [hresolve, entriesOf_eq_ok_iff, hreading, forall_isSound_iff]
  simp only [Token.entry_eq_ok_iff, List.forall₂_and_left]
  constructor
  · rintro ⟨⟨hstray, hnames, -, hcompiles, hentries⟩, hbracket⟩
    exact ⟨⟨hstray, hbracket⟩, hnames, hcompiles, hentries⟩
  · rintro ⟨⟨hstray, hbracket⟩, hnames, hcompiles, hentries⟩
    exact ⟨⟨hstray, hnames, fun _ _ => List.not_mem_nil, hcompiles, hentries⟩, hbracket⟩

/-! ## Readings of a path -/

/-- Parts that a path can be read as. -/
def Reads (path : String) (parts : List Segment) : Prop :=
  IsReading parts ∧ written parts = path.toList

/-- A path can be read in one way only. -/
theorem Reads.segments_eq {path : String} {parts : List Segment} (h : Reads path parts) :
    segments path.toList = parts := by
  rw [← h.2]
  exact segments_written h.1

theorem exists_yields (ts : List Token) : ∃ entries, List.Forall₂ Token.Yields ts entries := by
  induction ts with
  | nil => exact ⟨[], .nil⟩
  | cons t ts ih =>
    obtain ⟨entries, hentries⟩ := ih
    let e : KeyPathEntry := ⟨String.ofList t.name, String.ofList (t.column.getD t.name),
      (t.group.map String.ofList).getD defaultParamPattern, t.group.bind compileGroup?⟩
    exact ⟨e :: entries, .cons ⟨rfl, rfl, rfl, rfl⟩ hentries⟩

/-- A path has entries exactly if it can be read as literal characters and tokens such that the
    names of the tokens are different and their groups compile. The entries are those of the
    tokens, in order. There is one reading only, so that nothing inside a group is ever taken for
    a token. -/
theorem resolve_reads (path : String) :
    ((∃ entries, resolve path = .ok entries) ↔
      ∃ parts, Reads path parts ∧ ((tokens parts).map Token.name).Nodup ∧
        ∀ t ∈ tokens parts, t.Compiles) ∧
    (∀ parts entries, Reads path parts → resolve path = .ok entries →
      List.Forall₂ Token.Yields (tokens parts) entries) ∧
    ∀ parts parts', Reads path parts → Reads path parts' → parts = parts' := by
  refine ⟨⟨?_, ?_⟩, ?_, ?_⟩
  · rintro ⟨entries, h⟩
    obtain ⟨hreading, hnames, hcompiles, -⟩ := resolve_eq_ok_iff.1 h
    exact ⟨segments path.toList, ⟨hreading, written_segments path.toList⟩, hnames, hcompiles⟩
  · rintro ⟨parts, hreads, hnames, hcompiles⟩
    obtain ⟨entries, hentries⟩ := exists_yields (tokens parts)
    refine ⟨entries, resolve_eq_ok_iff.2 ?_⟩
    rw [hreads.segments_eq]
    exact ⟨hreads.1, hnames, hcompiles, hentries⟩
  · intro parts entries hreads h
    rw [← hreads.segments_eq]
    exact (resolve_eq_ok_iff.1 h).2.2.2
  · intro parts parts' h h'
    rw [← h.segments_eq, h'.segments_eq]

/-- The colon inside the group starts no token. -/
example : tokens (segments "/:at([:0-9]+)<time>/:id".toList) =
    [⟨"at".toList, some "([:0-9]+)".toList, some "time".toList⟩, ⟨"id".toList, none, none⟩] := by
  decide +kernel

end Depot.KeyPath
