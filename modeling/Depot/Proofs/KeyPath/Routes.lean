import Depot.Proofs.KeyPath.Grammar

/-!
# The routes of key paths

A key path is registered under a route without its columns and groups. What is left of a token is
its name, so that a word character behind a column or a group comes to stand behind the name, and
then belongs to it.

* `KeyPath.Segment.bare`: what is left of a part in the route.
* `KeyPath.NamesEnd`: parts in which no word character stands directly behind a token.

Results:
* `dropColumns_written`, `dropGroups_written`: the two steps from a key path to its route.
* `namesEnd_of_names_eq`: if the route has the names of the key path, then they end where they end
  in the key path.
* `route_names_iff`: the route names the parameters of its key path, if and only if no word
  character stands directly behind a token.
-/

namespace Depot.KeyPath

/-! ## Without columns -/

theorem dropColumns_cons {c : Char} {cs : List Char} (hc : c ≠ '<') :
    dropColumns 0 (c :: cs) = c :: dropColumns 0 cs := by
  have hnone : columnSpan? (c :: cs) = none :=
    columnSpan?_eq_none fun h => hc (Option.some.inj h)
  rw [dropColumns, hnone]

theorem dropColumns_append {front : List Char} (h : '<' ∉ front) (cs : List Char) :
    dropColumns 0 (front ++ cs) = front ++ dropColumns 0 cs := by
  induction front with
  | nil => rfl
  | cons c front ih =>
    rw [List.mem_cons, not_or] at h
    rw [List.cons_append, dropColumns_cons (Ne.symm h.1), ih h.2]
    rfl

theorem dropColumns_skip (front cs : List Char) :
    dropColumns front.length (front ++ cs) = dropColumns 0 cs := by
  induction front with
  | nil => rfl
  | cons c front ih => exact ih

/-- A column is dropped. -/
theorem dropColumns_columnChars {t : Token} (ht : t.IsProper) (cs : List Char) :
    dropColumns 0 (t.columnChars ++ cs) = dropColumns 0 cs := by
  rw [Token.columnChars]
  cases hcolumn : t.column with
  | none => rfl
  | some w =>
    have hspan : columnSpan? ('<' :: (w ++ ['>'] ++ cs)) = some w :=
      columnSpan?_eq_some_iff.2 ⟨ht.column w hcolumn, cs, by simp⟩
    have hlength : w.length + 1 = (w ++ ['>']).length := by simp
    rw [List.cons_append, dropColumns, hspan]
    dsimp only
    rw [hlength]
    exact dropColumns_skip _ _

/-- What looks like a column ends before a closing parenthesis. -/
theorem columnSpan?_append (cs rest : List Char) :
    columnSpan? (cs ++ ')' :: rest) = columnSpan? cs := by
  ext w
  rw [columnSpan?_eq_some_iff, columnSpan?_eq_some_iff]
  refine and_congr_right fun hname => ⟨?_, ?_⟩
  · rintro ⟨after, h⟩
    have hafter : '<' :: (w ++ '>' :: after) = '<' :: (w ++ ['>']) ++ after := by simp
    rw [hafter] at h
    rcases List.append_eq_append_iff.1 h with ⟨a, ha, hrest⟩ | ⟨c, hc, -⟩
    · cases a with
      | nil => exact ⟨[], by simpa using ha.symm⟩
      | cons x a =>
        obtain ⟨rfl, -⟩ := List.cons.inj hrest
        have hmem : ')' ∈ '<' :: (w ++ ['>']) := ha ▸ List.mem_append_right _ List.mem_cons_self
        simp only [List.mem_cons, List.mem_append, List.not_mem_nil, or_false] at hmem
        rcases hmem with h | h | h
        · exact absurd h (by decide)
        · exact absurd (hname.2 _ h) (by decide)
        · exact absurd h (by decide)
    · exact ⟨c, by rw [hc]; simp⟩
  · rintro ⟨after, rfl⟩
    exact ⟨after ++ ')' :: rest, by simp⟩

theorem dropColumns_append_paren {skip : Nat} {cs : List Char} (hskip : skip ≤ cs.length)
    (rest : List Char) :
    dropColumns skip (cs ++ ')' :: rest) = dropColumns skip cs ++ ')' :: dropColumns 0 rest := by
  fun_induction dropColumns skip cs with
  | case1 skip =>
    obtain rfl : skip = 0 := Nat.le_zero.1 hskip
    exact dropColumns_cons (by decide)
  | case2 c cs skip ih =>
    rw [List.cons_append, dropColumns]
    exact ih (Nat.le_of_succ_le_succ hskip)
  | case3 c cs word hword ih =>
    have hspan : columnSpan? (c :: (cs ++ ')' :: rest)) = some word :=
      (columnSpan?_append (c :: cs) rest).trans hword
    rw [List.cons_append, dropColumns, hspan]
    refine ih ?_
    obtain ⟨-, after, h⟩ := columnSpan?_eq_some_iff.1 hword
    rw [(List.cons.inj h).2]
    simp
  | case4 c cs hnone ih =>
    have hspan : columnSpan? (c :: (cs ++ ')' :: rest)) = none :=
      (columnSpan?_append (c :: cs) rest).trans hnone
    rw [List.cons_append, dropColumns, hspan]
    dsimp only
    rw [ih (Nat.zero_le _)]
    rfl

theorem mem_of_mem_dropColumns {skip : Nat} {cs : List Char} {c : Char}
    (h : c ∈ dropColumns skip cs) : c ∈ cs := by
  fun_induction dropColumns skip cs with
  | case1 skip => cases h
  | case2 d cs skip ih => exact List.mem_cons_of_mem _ (ih h)
  | case3 d cs word hword ih => exact List.mem_cons_of_mem _ (ih h)
  | case4 d cs hnone ih =>
    rcases List.mem_cons.1 h with rfl | h
    · exact List.mem_cons_self
    · exact List.mem_cons_of_mem _ (ih h)

/-- A group without what looks like columns in it is a group, and what follows it is on its own. -/
theorem dropColumns_group {g : List Char} (hg : IsGroup g) :
    IsGroup (dropColumns 0 g) ∧
      ∀ cs, dropColumns 0 (g ++ cs) = dropColumns 0 g ++ dropColumns 0 cs := by
  obtain ⟨inner, rfl, hmem⟩ := hg
  have hgroup (cs : List Char) : dropColumns 0 ('(' :: (inner ++ [')']) ++ cs) =
      '(' :: (dropColumns 0 inner ++ ')' :: dropColumns 0 cs) := by
    rw [List.cons_append, List.append_assoc, dropColumns_cons (by decide), List.singleton_append,
      dropColumns_append_paren (Nat.zero_le _)]
  have hself := hgroup []
  rw [List.append_nil, dropColumns] at hself
  refine ⟨⟨dropColumns 0 inner, hself, fun h => hmem (mem_of_mem_dropColumns h)⟩, fun cs => ?_⟩
  rw [hgroup, hself]
  simp

/-- What a path without columns has for a part. -/
def Segment.template : Segment → Segment
  | .token t => .token ⟨t.name, t.group.map (dropColumns 0), none⟩
  | part => part

theorem IsName.notMem {cs : List Char} (h : IsName cs) {c : Char} (hc : Text.isWord c = false) :
    c ∉ cs := by
  intro hmem
  rw [h.2 c hmem] at hc
  cases hc

/-- The path without its columns. -/
theorem dropColumns_written {parts : List Segment} (h : IsReading parts) :
    dropColumns 0 (written parts) = written (parts.map Segment.template) := by
  induction h with
  | nil => rfl
  | @literal c parts hc h ih =>
    rw [List.map_cons, written_cons, written_cons, ← ih]
    exact dropColumns_cons hc.2.2.2.1
  | @token t parts ht hend h ih =>
    obtain ⟨name, group, column⟩ := t
    have hname : '<' ∉ ':' :: name :=
      List.not_mem_cons_of_ne_of_not_mem (by decide) (ht.name.notMem (by decide))
    have hgroup (cs : List Char) : dropColumns 0 (group.getD [] ++ cs) =
        (group.map (dropColumns 0)).getD [] ++ dropColumns 0 cs := by
      cases group with
      | none => rfl
      | some g => exact (dropColumns_group (ht.group g rfl)).2 cs
    have hchars : (Segment.token ⟨name, group, column⟩).chars =
        (':' :: name) ++ (group.getD [] ++ Token.columnChars ⟨name, group, column⟩) := rfl
    rw [List.map_cons, written_cons, written_cons, hchars, List.append_assoc, List.append_assoc,
      dropColumns_append hname, hgroup, dropColumns_columnChars ht, ih]
    simp [Segment.template, Segment.chars, Token.chars, Token.suffix, Token.columnChars]

/-! ## Without groups -/

/-- What is left of a token in the route: its name. -/
def Token.bare (t : Token) : Token := ⟨t.name, none, none⟩

/-- What is left of a part in the route. -/
def Segment.bare : Segment → Segment
  | .token t => .token t.bare
  | part => part

theorem Token.suffix_bare (t : Token) : t.bare.suffix = [] := rfl

/-- Of a token its name is left, behind the colon. -/
theorem written_bare_token (t : Token) (parts : List Segment) :
    written ((Segment.token t :: parts).map Segment.bare) =
      ':' :: (t.name ++ written (parts.map Segment.bare)) := by
  have hchars : t.bare.chars = ':' :: t.name := by
    rw [Token.chars, Token.suffix_bare, List.append_nil, Token.bare]
  rw [List.map_cons, written_cons]
  exact congrArg (· ++ written (parts.map Segment.bare)) hchars

theorem Token.IsProper.bare {t : Token} (h : t.IsProper) : t.bare.IsProper :=
  ⟨h.name, nofun, nofun⟩

theorem dropGroups_cons {c : Char} {cs : List Char} (hc : c ≠ ':') :
    dropGroups 0 0 (c :: cs) = c :: dropGroups 0 0 cs := by
  rw [dropGroups, if_neg fun h => hc h.1]

theorem dropGroups_append {front : List Char} (h : ':' ∉ front) (cs : List Char) :
    dropGroups 0 0 (front ++ cs) = front ++ dropGroups 0 0 cs := by
  induction front with
  | nil => rfl
  | cons c front ih =>
    rw [List.mem_cons, not_or] at h
    rw [List.cons_append, dropGroups_cons (Ne.symm h.1), ih h.2]
    rfl

/-- A name that is still to come is kept, and the group behind it is dropped. -/
theorem dropGroups_keep (name group cs : List Char) :
    dropGroups name.length group.length (name ++ (group ++ cs)) = name ++ dropGroups 0 0 cs := by
  induction name with
  | nil =>
    induction group with
    | nil => rfl
    | cons c group ih => exact ih
  | cons c name ih =>
    rw [List.length_cons, List.cons_append, dropGroups, ih]
    rfl

theorem wordSpan_cons_of_not {c : Char} {cs : List Char} (hc : Text.isWord c = false) :
    wordSpan (c :: cs) = [] :=
  List.takeWhile_cons_of_neg fun h => Bool.false_ne_true (hc.symm.trans h)

/-- Behind the word characters at the start of a path without stray brackets stands no opening
    parenthesis. -/
theorem head?_drop_wordSpan {parts : List Segment} (h : ∀ part ∈ parts, part.IsSound) :
    ((written parts).drop (wordSpan (written parts)).length).head? ≠ some '(' := by
  induction parts with
  | nil => exact nofun
  | cons part parts ih =>
    obtain ⟨hpart, hparts⟩ := List.forall_mem_cons.1 h
    rw [written_cons]
    cases part with
    | literal c =>
      rw [Segment.chars, List.singleton_append]
      cases hc : Text.isWord c with
      | true =>
        have hspan : wordSpan (c :: written parts) = c :: wordSpan (written parts) :=
          List.takeWhile_cons_of_pos hc
        rw [hspan]
        exact ih hparts
      | false =>
        rw [wordSpan_cons_of_not hc]
        exact fun h => hpart.1 (Option.some.inj h)
    | token t =>
      rw [Segment.chars, Token.chars, List.cons_append, wordSpan_cons_of_not (by decide)]
      exact fun h => absurd (Option.some.inj h) (by decide)
    | stray offset => exact hpart.elim

theorem Segment.IsSound.template {part : Segment} (h : part.IsSound) :
    part.template.IsSound := by
  cases part with
  | literal c => exact h
  | token t => trivial
  | stray offset => exact h

theorem Segment.IsSound.bare {part : Segment} (h : part.IsSound) : part.bare.IsSound := by
  cases part with
  | literal c => exact h
  | token t => trivial
  | stray offset => exact h

/-- A token without column loses its group. -/
theorem dropGroups_token {name cs : List Char} (hname : IsName name) {group : Option (List Char)}
    (hgroup : ∀ g, group = some g → IsGroup g)
    (hend : (cs.drop (wordSpan cs).length).head? ≠ some '(') :
    dropGroups 0 0 (':' :: (name ++ (group.getD [] ++ cs))) =
      ':' :: (name ++ dropGroups 0 0 cs) := by
  cases group with
  | none =>
    have hspan : wordSpan (name ++ cs) = name ++ wordSpan cs :=
      List.takeWhile_append_of_pos hname.2
    have hdrop : (name ++ cs).drop (name ++ wordSpan cs).length =
        cs.drop (wordSpan cs).length := by
      rw [List.length_append, ← List.drop_drop, List.drop_left]
    rw [Option.getD_none, List.nil_append, dropGroups, hspan, hdrop, groupSpan?_eq_none hend]
    dsimp only
    rw [ite_self, dropGroups_append (hname.notMem (by decide))]
  | some g =>
    obtain ⟨inner, hg, hmem⟩ := hgroup g rfl
    have hspan : wordSpan (name ++ (g ++ cs)) = name := by
      refine wordSpan_append hname ?_
      rw [hg]
      rintro c ⟨⟩
      decide
    have hgroupSpan : groupSpan? (g ++ cs) = some g :=
      groupSpan?_eq_some_iff.2 ⟨⟨inner, hg, hmem⟩, cs, rfl⟩
    have hcond : ':' = ':' ∧ (!name.isEmpty) = true := by simpa using hname.1
    rw [Option.getD_some, dropGroups, hspan, List.drop_left, hgroupSpan, if_pos hcond]
    dsimp only
    rw [dropGroups_keep]

/-- The path without its columns and groups. -/
theorem dropGroups_written {parts : List Segment} (h : IsReading parts) :
    dropGroups 0 0 (written (parts.map Segment.template)) =
      written (parts.map Segment.bare) := by
  induction h with
  | nil => rfl
  | @literal c parts hc h ih =>
    rw [List.map_cons, List.map_cons, written_cons, written_cons, ← ih]
    exact dropGroups_cons hc.1
  | @token t parts ht hend h ih =>
    have hgroup : ∀ g, t.group.map (dropColumns 0) = some g → IsGroup g := by
      intro g hg
      obtain ⟨g', hg', rfl⟩ := Option.map_eq_some_iff.1 hg
      exact (dropColumns_group (ht.group g' hg')).1
    have hsound : ∀ part ∈ parts.map Segment.template, part.IsSound :=
      List.forall_mem_map.2 fun part hpart => (h.isSound part hpart).template
    have htoken := dropGroups_token ht.name hgroup (head?_drop_wordSpan hsound)
    rw [ih] at htoken
    rw [written_bare_token, ← htoken, List.map_cons, written_cons]
    simp [Segment.template, Segment.chars, Token.chars, Token.suffix, Token.columnChars]

/-! ## Names -/

/-- Whether two parts can be told apart where the first ends: a word character behind a token
    would belong to its name, had the token neither a group nor a column. -/
def Segment.Borders : Segment → Segment → Prop
  | .token _, .literal c => Text.isWord c = false
  | _, _ => True

/-- Parts in which no word character stands directly behind a token. -/
def NamesEnd (parts : List Segment) : Prop := parts.IsChain Segment.Borders

theorem namesEnd_cons {part : Segment} {parts : List Segment} :
    NamesEnd (part :: parts) ↔
      (∀ next, parts.head? = some next → part.Borders next) ∧ NamesEnd parts := by
  cases parts with
  | nil => exact iff_of_true (.singleton part) ⟨nofun, .nil⟩
  | cons next parts =>
    rw [NamesEnd, List.isChain_cons_cons]
    refine and_congr_left' ⟨?_, fun h => h next rfl⟩
    rintro h next' ⟨⟩
    exact h

/-- Whether a token borders on the next part can be seen in the route too. -/
theorem borders_iff {t : Token} {parts : List Segment} (h : IsReading parts) :
    (∀ next, parts.head? = some next → (Segment.token t).Borders next) ↔
      ∀ c, (written (parts.map Segment.bare)).head? = some c → Text.isWord c = false := by
  cases h with
  | nil => exact iff_of_true nofun nofun
  | @literal c parts hc h =>
    constructor
    · rintro hborders c' ⟨⟩
      exact hborders _ rfl
    · rintro hend next ⟨⟩
      exact hend c rfl
  | token ht hend h =>
    refine iff_of_true ?_ ?_
    · rintro next ⟨⟩
      trivial
    · rintro c ⟨⟩
      decide

/-- What is left of a key path is read part by part if no word character stands behind a token. -/
theorem isReading_map_bare {parts : List Segment} (h : IsReading parts) (hends : NamesEnd parts) :
    IsReading (parts.map Segment.bare) := by
  induction h with
  | nil => exact .nil
  | literal hc h ih => exact .literal hc (ih (namesEnd_cons.1 hends).2)
  | token ht hend h ih =>
    obtain ⟨hborders, hrest⟩ := namesEnd_cons.1 hends
    exact .token ht.bare ((borders_iff h).1 hborders) (ih hrest)

theorem tokens_map_bare (parts : List Segment) :
    tokens (parts.map Segment.bare) = (tokens parts).map Token.bare := by
  induction parts with
  | nil => rfl
  | cons part parts ih =>
    cases part with
    | literal c => exact ih
    | token t => exact congrArg (t.bare :: ·) ih
    | stray offset => exact ih

theorem token?_bare {t : Token} (ht : t.IsProper) {parts : List Segment}
    (h : ∀ part ∈ parts, part.IsSound)
    (hend : ∀ c, (written parts).head? = some c → Text.isWord c = false) :
    token? (t.name ++ written parts) = some t.bare := by
  have htoken := token?_of_isProper ht.bare hend (head?_written h).1 (head?_written h).2
  rwa [Token.suffix_bare, List.append_nil] at htoken

theorem exists_token? {cs : List Char} (h : wordSpan cs ≠ []) :
    ∃ t, token? cs = some t ∧ t.name = wordSpan cs :=
  ⟨_, if_neg (by simpa using h), rfl⟩

/-- If the route has the names of the key path, then they end where they end in the key path: the
    name of a token in the route goes on over the word characters that come to stand behind it. -/
theorem namesEnd_of_names_eq {parts : List Segment} (h : IsReading parts) {offset : Nat}
    (hnames : (tokens (segmentsFrom 0 offset (written (parts.map Segment.bare)))).map Token.name =
      (tokens parts).map Token.name) : NamesEnd parts := by
  induction h generalizing offset with
  | nil => exact .nil
  | @literal c parts hc h ih =>
    have hstep : segmentsFrom 0 offset (written ((Segment.literal c :: parts).map Segment.bare)) =
        .literal c :: segmentsFrom 0 (offset + c.utf8Size) (written (parts.map Segment.bare)) := by
      rw [List.map_cons, written_cons]
      exact if_neg hc.1
    rw [hstep] at hnames
    exact namesEnd_cons.2 ⟨fun _ _ => trivial, ih hnames⟩
  | @token t parts ht hend h ih =>
    have hspan : wordSpan (t.name ++ written (parts.map Segment.bare)) =
        t.name ++ wordSpan (written (parts.map Segment.bare)) :=
      List.takeWhile_append_of_pos ht.name.2
    have hne : wordSpan (t.name ++ written (parts.map Segment.bare)) ≠ [] := by
      rw [hspan]
      exact List.append_ne_nil_of_left_ne_nil ht.name.1 _
    obtain ⟨t', ht', hname⟩ := exists_token? hne
    rw [written_bare_token, segmentsFrom, if_pos rfl, ht'] at hnames
    obtain ⟨hfirst, hrest⟩ := List.cons.inj hnames
    -- the name in the route is the whole name, so that no word character follows
    rw [hname, hspan, List.append_right_eq_self] at hfirst
    have hafter : ∀ c, (written (parts.map Segment.bare)).head? = some c →
        Text.isWord c = false := by
      intro c hc
      obtain ⟨rest, hcs, hstop⟩ := exists_wordSpan_append (written (parts.map Segment.bare))
      rw [hfirst, List.nil_append] at hcs
      exact hstop c (hcs ▸ hc)
    have hsound : ∀ part ∈ parts.map Segment.bare, part.IsSound :=
      List.forall_mem_map.2 fun part hpart => (h.isSound part hpart).bare
    obtain rfl : t.bare = t' :=
      Option.some.inj ((token?_bare ht hsound hafter).symm.trans ht')
    have hlength : t.bare.length = t.name.length := rfl
    obtain ⟨offset', hskip⟩ := exists_segmentsFrom_append t.name
      (written (parts.map Segment.bare)) (offset + Char.utf8Size ':')
    rw [hlength, hskip] at hrest
    exact namesEnd_cons.2 ⟨(borders_iff h).2 hafter, ih hrest⟩

/-! ## Routes -/

theorem of_parse {path : String} {k : KeyPath} (h : parse path = .ok k) :
    resolve k.raw = .ok k.entries ∧ k.template = String.ofList (dropColumns 0 k.raw.toList) := by
  simp only [parse] at h
  split at h
  · rename_i entries hentries
    cases h
    exact ⟨hentries, rfl⟩
  · cases h

/-- The route of a key path is the key path without the groups and columns of its tokens. -/
theorem toList_route {path : String} {k : KeyPath} (h : parse path = .ok k) :
    k.route.toList = written ((segments k.raw.toList).map Segment.bare) := by
  obtain ⟨hresolve, htemplate⟩ := of_parse h
  have hreading := (resolve_eq_ok_iff.1 hresolve).1
  have hdrop := dropColumns_written hreading
  rw [written_segments] at hdrop
  rw [route, htemplate, String.toList_ofList, String.toList_ofList, hdrop,
    dropGroups_written hreading]

theorem params_of_yields {ts : List Token} {entries : List KeyPathEntry}
    (h : List.Forall₂ Token.Yields ts entries) :
    entries.map KeyPathEntry.param = (ts.map Token.name).map String.ofList := by
  induction h with
  | nil => rfl
  | cons hyields h ih =>
    rw [List.map_cons, List.map_cons, List.map_cons, hyields.param, ih]

theorem not_bracket_of_isWord {c : Char} (h : Text.isWord c = true) :
    c ≠ '(' ∧ c ≠ ')' ∧ c ≠ '<' ∧ c ≠ '>' := by
  refine ⟨?_, ?_, ?_, ?_⟩
  all_goals
    rintro rfl
    revert h
    decide

/-- No bracket is left of a path without its groups and columns. -/
theorem not_bracket_of_mem_written {parts : List Segment} (h : IsReading parts) {c : Char}
    (hc : c ∈ written (parts.map Segment.bare)) : c ≠ '(' ∧ c ≠ ')' ∧ c ≠ '<' ∧ c ≠ '>' := by
  induction h with
  | nil => cases hc
  | literal hliteral h ih =>
    rw [List.map_cons, written_cons] at hc
    rcases List.mem_append.1 hc with hc | hc
    · rw [List.mem_singleton.1 hc]
      exact hliteral.2
    · exact ih hc
  | @token t parts ht hend h ih =>
    rw [written_bare_token] at hc
    rcases List.mem_cons.1 hc with rfl | hc
    · decide
    · rcases List.mem_append.1 hc with hc | hc
      · exact not_bracket_of_isWord (ht.name.2 c hc)
      · exact ih hc

/-- The route of a key path has no brackets. It names the parameters of the key path, in order, if
    and only if no word character stands directly behind a token of the key path. -/
theorem route_names_iff {path : String} {k : KeyPath} (h : parse path = .ok k) :
    (∀ c ∈ k.route.toList, c ≠ '(' ∧ c ≠ ')' ∧ c ≠ '<' ∧ c ≠ '>') ∧
    ((∃ entries, resolve k.route = .ok entries ∧
        entries.map KeyPathEntry.param = k.entries.map KeyPathEntry.param) ↔
      NamesEnd (segments k.raw.toList)) := by
  obtain ⟨hreading, hnodup, -, hyields⟩ := resolve_eq_ok_iff.1 (of_parse h).1
  have hroute := toList_route h
  refine ⟨fun c hc => not_bracket_of_mem_written hreading (hroute ▸ hc), ?_, ?_⟩
  · rintro ⟨entries, hentries, hparams⟩
    obtain ⟨-, -, -, hyields'⟩ := resolve_eq_ok_iff.1 hentries
    rw [params_of_yields hyields, params_of_yields hyields'] at hparams
    have hnames := List.map_injective_iff.2 (fun _ _ => String.ofList_injective) hparams
    rw [hroute] at hnames
    exact namesEnd_of_names_eq hreading hnames
  · intro hends
    have hsegments : segments k.route.toList = (segments k.raw.toList).map Segment.bare := by
      rw [hroute]
      exact segments_written (isReading_map_bare hreading hends)
    have htokens : tokens (segments k.route.toList) =
        (tokens (segments k.raw.toList)).map Token.bare := by
      rw [hsegments, tokens_map_bare]
    have hnames : (tokens (segments k.route.toList)).map Token.name =
        (tokens (segments k.raw.toList)).map Token.name := by
      rw [htokens, List.map_map]
      rfl
    obtain ⟨entries, hentries⟩ := exists_yields (tokens (segments k.route.toList))
    refine ⟨entries, resolve_eq_ok_iff.2 ⟨?_, ?_, ?_, hentries⟩, ?_⟩
    · rw [hsegments]
      exact isReading_map_bare hreading hends
    · rwa [hnames]
    · rw [htokens]
      exact List.forall_mem_map.2 fun t _ => nofun
    · rw [params_of_yields hentries, params_of_yields hyields, hnames]

/-! Weeks of a year: the letter between year and week belongs to the first name in the route. -/
namespace Weeks

def path : String := ":year([0-9]+)w:week<no>"

/-- The route of the path, the names in it, and the names in the path. -/
theorem route_path : (parse path).toOption.map (fun k =>
    (k.route, (resolve k.route).toOption.map fun entries => entries.map KeyPathEntry.param,
      k.entries.map KeyPathEntry.param)) =
    some ("/:yearw:week", some ["yearw", "week"], ["year", "week"]) := by decide +kernel

theorem exists_parse : ∃ k, parse path = .ok k :=
  exists_of_isOk (by decide +kernel)

end Weeks

theorem route_names_iff_weeks : ∃ k, parse Weeks.path = .ok k ∧
    (∀ c ∈ k.route.toList, c ≠ '(' ∧ c ≠ ')' ∧ c ≠ '<' ∧ c ≠ '>') ∧
    ((∃ entries, resolve k.route = .ok entries ∧
        entries.map KeyPathEntry.param = k.entries.map KeyPathEntry.param) ↔
      NamesEnd (segments k.raw.toList)) := by
  obtain ⟨k, hk⟩ := Weeks.exists_parse
  exact ⟨k, hk, route_names_iff hk⟩

/-- The route of a key path may have other names than the key path. -/
theorem not_route_names : ¬∀ (path : String) (k : KeyPath), parse path = .ok k →
    ∃ entries, resolve k.route = .ok entries ∧
      entries.map KeyPathEntry.param = k.entries.map KeyPathEntry.param := by
  intro h
  obtain ⟨k, hk⟩ := Weeks.exists_parse
  obtain ⟨entries, hentries, hparams⟩ := h Weeks.path k hk
  have hroute := Weeks.route_path
  rw [hk] at hroute
  simp only [Except.toOption, Option.map_some, Option.some.injEq, Prod.mk.injEq, hentries] at hroute
  rw [← hparams, hroute.2.1] at hroute
  exact absurd hroute.2.2 (by decide)

end Depot.KeyPath
