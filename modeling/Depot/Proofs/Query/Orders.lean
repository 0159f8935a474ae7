import Depot.Proofs.List
import Depot.Proofs.Query.Operators
import Depot.Proofs.Text.Words
import Depot.Query.Sort
import Mathlib.Data.List.TakeWhile

/-!
# The reading of orders

An order is a list of tokens between commas. A token is a field, and behind blanks it may have a
direction. A field that is repeated stays where it was first and takes the direction that it has
last, so that what is read is in a normal form, which is read again as it is.

* `SortKey.Reads`: the sort key that a token is.
* `SortKey.SumsUp`: what becomes of the sort keys that are read one after the other.
* `SortKey.IsNormal`: the normal form.
* `SortKey.printList`: an order in the normal form as a text.

Results:
* `SortKey.ofToken?_eq_some_iff`: a token is read as the sort key that it is.
* `SortKey.SumsUp.add`: one more sort key is summed up.
* `SortKey.parseList_eq_ok_iff`, `SortKey.parseList_eq_error_iff`: both outcomes of a reading.
* `SortKey.parseList_printList`: an order in the normal form is read as it was printed.
* `SortKey.parseList_normalizes`: what is read is in the normal form, and what is refused is the
  first token that is no sort key.
-/

namespace Depot

/-- A text is a word in some letter case, where letters are compared by case folding. -/
def Resembles (word : String) (cs : List Char) : Prop := cs.map Text.fold = word.toList

namespace SortKey

/-! ## Tokens -/

/-- The name of a field: it is not empty and has no blanks. -/
structure IsField (cs : List Char) : Prop where
  ne_nil : cs ≠ []
  not_isBlank : ∀ c ∈ cs, Text.isBlank c = false

/-- The direction that a word stands for. Only `asc` in the ASCII letters stands for the upward one;
    further forms of its letters stand for the downward one. -/
inductive Directs : List Char → Direction → Prop
  | asc {word : List Char} : Spells "asc" word → Directs word .asc
  | desc {word : List Char} : ¬Spells "asc" word → Resembles "asc" word ∨ Resembles "desc" word →
      Directs word .desc

/-- The sort key that a token is: a field without a direction is sorted downwards. -/
inductive Reads : List Char → SortKey → Prop
  | field {field : List Char} : IsField field → Reads field ⟨String.ofList field, .desc⟩
  | directed {field gap word : List Char} {direction : Direction} : IsField field → gap ≠ [] →
      (∀ c ∈ gap, Text.isBlank c = true) → Directs word direction →
      Reads (field ++ gap ++ word) ⟨String.ofList field, direction⟩

/-- The tokens of an order: what stands between its commas, without the blanks at the ends. -/
def tokens (raw : String) : List (List Char) := (raw.toList.splitOn ',').map Text.trim

/-! ## The normal form -/

/-- The sort keys `keys` sum up those that were read one after the other: each field stands in the
    place where it was read first, with the direction that it was read with last. -/
structure SumsUp (readings keys : List SortKey) : Prop where
  fields_eq : keys.map (·.field) = (readings.map (·.field)).eraseDups
  last : ∀ key ∈ keys, (readings.filter (·.field = key.field)).getLast? = some key

/-- The normal form of an order: there are fields, they differ from each other, and each can stand
    in a token. -/
structure IsNormal (keys : List SortKey) : Prop where
  ne_nil : keys ≠ []
  nodup : (keys.map (·.field)).Nodup
  isField : ∀ key ∈ keys, IsField key.field.toList
  comma_notMem : ∀ key ∈ keys, ',' ∉ key.field.toList

/-- A sort key as a token, with its direction. -/
def print (key : SortKey) : String := key.field ++ " " ++ key.direction.name

/-- Sort keys as an order. -/
def printList (keys : List SortKey) : String := ",".intercalate (keys.map print)

/-! ## Reading a token -/

theorem resembles_of_spells {word : String} {cs : List Char} (hword : Text.IsAscii word.toList)
    (h : Spells word cs) : Resembles word cs := by
  unfold Spells at h
  unfold Resembles
  rw [Text.map_fold_of_isAscii, h]
  apply Text.isAscii_of_map_lowerAscii
  rwa [h]

theorem Directs.resembles {word : List Char} {direction : Direction} (h : Directs word direction) :
    Resembles "asc" word ∨ Resembles "desc" word := by
  cases h with
  | asc hasc => exact Or.inl (resembles_of_spells (by decide) hasc)
  | desc _ hnamed => exact hnamed

theorem direction?_eq_some_iff {word : List Char} {direction : Direction} :
    direction? word = some direction ↔ Directs word direction := by
  have hasc : Text.afterWord ['a', 's', 'c'] word = some [] ↔ Resembles "asc" word :=
    Text.afterWord_eq_nil_iff (by decide)
  have hdesc : Text.afterWord ['d', 'e', 's', 'c'] word = some [] ↔ Resembles "desc" word :=
    Text.afterWord_eq_nil_iff (by decide)
  unfold direction?
  rw [Option.ite_none_right_eq_some, hasc, hdesc, Option.some.injEq]
  constructor
  · rintro ⟨hnamed, rfl⟩
    split
    · rename_i h
      exact .asc h
    · rename_i h
      exact .desc h hnamed
  · intro h
    refine ⟨h.resembles, ?_⟩
    cases h with
    | asc hasc => exact if_pos hasc
    | desc hnot => exact if_neg hnot

/-- A word that stands for a direction does not begin with a blank. -/
theorem Directs.not_isBlank {word : List Char} {direction : Direction}
    (h : Directs word direction) : ∀ c, word.head? = some c → Text.isBlank c = false := by
  intro c hc
  have hstart {l : Char} {letters : List Char} (hl : 0x61 ≤ l.toNat ∧ l.toNat ≤ 0x7A)
      (hword : word.map Text.fold = l :: letters) : Text.isBlank c = false := by
    obtain ⟨d, rest, rfl, hd, -⟩ := List.map_eq_cons_iff.1 hword
    cases hc
    exact Text.isBlank_of_isFormOf hl ((Text.isFormOf_iff_fold hl).2 hd)
  obtain h | h := h.resembles
  · exact hstart (l := 'a') (by decide) h
  · exact hstart (l := 'd') (by decide) h

/-- A token that begins with a field is read as that field with the direction behind it. -/
theorem ofToken?_append {field rest : List Char} (hfield : IsField field)
    (hrest : ∀ c, rest.head? = some c → Text.isBlank c = true) :
    ofToken? (field ++ rest) =
      if rest.isEmpty then some ⟨String.ofList field, .desc⟩
      else (direction? (rest.dropWhile Text.isBlank)).map fun d => ⟨String.ofList field, d⟩ := by
  have hfront : ∀ c ∈ field, (!Text.isBlank c) = true := fun c hc => by
    simp [hfield.not_isBlank c hc]
  have hback : ∀ c, rest.head? = some c → (!Text.isBlank c) = false := fun c hc => by
    simp [hrest c hc]
  unfold ofToken?
  rw [Text.takeWhile_eq_of_stops hfront hback, Text.dropWhile_eq_of_stops hfront hback]
  dsimp only
  rw [if_neg (by simp [hfield.ne_nil])]

theorem reads_of_ofToken? {token : List Char} {key : SortKey} (h : ofToken? token = some key) :
    Reads token key := by
  obtain ⟨rest, htoken, hrest⟩ := Text.exists_takeWhile_append (!Text.isBlank ·) token
  have hbare : ∀ c ∈ token.takeWhile (!Text.isBlank ·), Text.isBlank c = false := fun c hc => by
    simpa using List.mem_takeWhile_imp hc
  have hne : token.takeWhile (!Text.isBlank ·) ≠ [] := by
    intro hnil
    simp [ofToken?, hnil] at h
  have hfield : IsField (token.takeWhile (!Text.isBlank ·)) := ⟨hne, hbare⟩
  generalize token.takeWhile (!Text.isBlank ·) = field at hfield htoken
  subst htoken
  rw [ofToken?_append hfield fun c hc => by simpa using hrest c hc] at h
  cases rest with
  | nil =>
    cases h
    rw [List.append_nil]
    exact .field hfield
  | cons c rest =>
    obtain ⟨direction, hdirection, rfl⟩ := Option.map_eq_some_iff.1 h
    have hgap : (c :: rest).takeWhile Text.isBlank ≠ [] := by
      rw [List.takeWhile_cons_of_pos (by simpa using hrest c rfl)]
      exact List.cons_ne_nil _ _
    have hreads := Reads.directed hfield hgap (fun d hd => List.mem_takeWhile_imp hd)
      (direction?_eq_some_iff.1 hdirection)
    rwa [List.append_assoc, List.takeWhile_append_dropWhile] at hreads

theorem Reads.ofToken?_eq_some {token : List Char} {key : SortKey} (h : Reads token key) :
    ofToken? token = some key := by
  cases h with
  | field hfield =>
    have hread : ofToken? (token ++ []) = some ⟨String.ofList token, .desc⟩ :=
      ofToken?_append hfield nofun
    rwa [List.append_nil] at hread
  | @directed field gap word direction hfield hne hgap hword =>
    have hdrop : (gap ++ word).dropWhile Text.isBlank = word :=
      Text.dropWhile_eq_of_stops hgap hword.not_isBlank
    obtain ⟨b, blanks, rfl⟩ := List.exists_cons_of_ne_nil hne
    have hstart : ∀ c, ((b :: blanks) ++ word).head? = some c → Text.isBlank c = true := by
      rintro c ⟨⟩
      exact hgap b List.mem_cons_self
    rw [List.append_assoc, ofToken?_append hfield hstart, if_neg (by simp), hdrop,
      direction?_eq_some_iff.2 hword]
    rfl

/-- A token is read as the sort key that it is. -/
theorem ofToken?_eq_some_iff {token : List Char} {key : SortKey} :
    ofToken? token = some key ↔ Reads token key :=
  ⟨reads_of_ofToken?, Reads.ofToken?_eq_some⟩

-- The long s is a form of the letter, but the word is not `asc` in ASCII letters.
example : ofToken? "name aſc".toList = some ⟨"name", .desc⟩ := rfl

theorem exists_reads_iff {token : List Char} :
    (∃ key, Reads token key) ↔ ofToken? token ≠ none := by
  rw [Option.ne_none_iff_exists']
  exact exists_congr fun _ => ofToken?_eq_some_iff.symm

/-! ## Reading the tokens -/

theorem addTokens_eq_ok_iff {keys out : List SortKey} {pieces : List (List Char)} :
    addTokens keys pieces = .ok out ↔
      ∃ readings, List.Forall₂ Reads (pieces.map Text.trim) readings ∧
        readings.foldl add keys = out := by
  induction pieces generalizing keys with
  | nil =>
    rw [addTokens, Except.ok.injEq, List.map_nil]
    simp only [List.forall₂_nil_left_iff, exists_eq_left, List.foldl_nil]
  | cons piece pieces ih =>
    rw [addTokens, List.map_cons]
    cases hkey : ofToken? (Text.trim piece) with
    | none =>
      refine iff_of_false nofun ?_
      rintro ⟨readings, hread, -⟩
      obtain ⟨key, _, hfirst, -⟩ := List.forall₂_cons_left_iff.1 hread
      exact exists_reads_iff.1 ⟨key, hfirst⟩ hkey
    | some key =>
      dsimp only
      rw [ih]
      constructor
      · rintro ⟨readings, hread, hout⟩
        exact ⟨key :: readings, .cons (ofToken?_eq_some_iff.1 hkey) hread, hout⟩
      · rintro ⟨readings, hread, hout⟩
        obtain ⟨key', rest, hfirst, hrest, rfl⟩ := List.forall₂_cons_left_iff.1 hread
        rw [← ofToken?_eq_some_iff, hkey, Option.some.injEq] at hfirst
        subst hfirst
        exact ⟨rest, hrest, hout⟩

/-- The reading ends at the first token that is no sort key. -/
theorem addTokens_eq_error_iff {keys : List SortKey} {pieces : List (List Char)} {e : String} :
    addTokens keys pieces = .error e ↔
      ∃ before token after, pieces.map Text.trim = before ++ token :: after ∧
        (∀ t ∈ before, ∃ key, Reads t key) ∧ (¬∃ key, Reads token key) ∧
        e = String.ofList token := by
  induction pieces generalizing keys with
  | nil =>
    refine iff_of_false nofun ?_
    rintro ⟨before, token, after, h, -⟩
    exact List.append_ne_nil_of_right_ne_nil before (List.cons_ne_nil token after) h.symm
  | cons piece pieces ih =>
    rw [addTokens, List.map_cons]
    cases hkey : ofToken? (Text.trim piece) with
    | none =>
      have hnot : ¬∃ key, Reads (Text.trim piece) key := fun h => exists_reads_iff.1 h hkey
      constructor
      · rintro ⟨⟩
        exact ⟨[], _, _, rfl, nofun, hnot, rfl⟩
      · rintro ⟨before, token, after, htokens, hbefore, -, rfl⟩
        cases before with
        | nil => rw [(List.cons.inj htokens).1]
        | cons t before =>
          rw [(List.cons.inj htokens).1] at hnot
          exact absurd (hbefore t List.mem_cons_self) hnot
    | some key =>
      have hfirst : ∃ key, Reads (Text.trim piece) key := ⟨key, ofToken?_eq_some_iff.1 hkey⟩
      dsimp only
      rw [ih]
      constructor
      · rintro ⟨before, token, after, htokens, hbefore, hnot, he⟩
        exact ⟨_ :: before, token, after, by rw [htokens, List.cons_append],
          List.forall_mem_cons.2 ⟨hfirst, hbefore⟩, hnot, he⟩
      · rintro ⟨before, token, after, htokens, hbefore, hnot, he⟩
        cases before with
        | nil =>
          rw [(List.cons.inj htokens).1] at hfirst
          exact absurd hfirst hnot
        | cons t before =>
          exact ⟨before, token, after, (List.cons.inj htokens).2,
            (List.forall_mem_cons.1 hbefore).2, hnot, he⟩

/-! ## Fields that are repeated -/

theorem fields_add (keys : List SortKey) (key : SortKey) :
    (add keys key).map (·.field) =
      if key.field ∈ keys.map (·.field) then keys.map (·.field)
      else keys.map (·.field) ++ [key.field] := by
  induction keys with
  | nil => rfl
  | cons k keys ih =>
    rw [add]
    by_cases hk : k.field = key.field
    · simp [hk]
    · have hk' : key.field ≠ k.field := Ne.symm hk
      rw [if_neg hk, List.map_cons, ih]
      by_cases hmem : key.field ∈ keys.map (·.field)
      · rw [if_pos hmem, if_pos (by simp [hmem]), List.map_cons]
      · rw [if_neg hmem, if_neg (by simp [hk', hmem]), List.map_cons, List.cons_append]

/-- Of the sort keys that there were, those of other fields stay. -/
theorem of_mem_add {keys : List SortKey} {key k : SortKey}
    (hnodup : (keys.map (·.field)).Nodup) (h : k ∈ add keys key) :
    k = key ∨ (k ∈ keys ∧ k.field ≠ key.field) := by
  induction keys with
  | nil => exact Or.inl (List.mem_singleton.1 h)
  | cons k' keys ih =>
    rw [List.map_cons, List.nodup_cons] at hnodup
    obtain ⟨hnot, hnodup⟩ := hnodup
    rw [add] at h
    split at h
    · rename_i hfield
      obtain rfl | h := List.mem_cons.1 h
      · exact Or.inl rfl
      · refine Or.inr ⟨List.mem_cons_of_mem _ h, fun hsame => hnot ?_⟩
        rw [hfield, ← hsame]
        exact List.mem_map_of_mem h
    · rename_i hfield
      obtain rfl | h := List.mem_cons.1 h
      · exact Or.inr ⟨List.mem_cons_self, hfield⟩
      · obtain rfl | ⟨hmem, hne⟩ := ih hnodup h
        · exact Or.inl rfl
        · exact Or.inr ⟨List.mem_cons_of_mem _ hmem, hne⟩

/-! ## Summing up -/

namespace SumsUp

variable {readings keys : List SortKey}

theorem nil : SumsUp [] [] := ⟨rfl, nofun⟩

theorem nodup (h : SumsUp readings keys) : (keys.map (·.field)).Nodup := by
  rw [h.fields_eq]
  exact nodup_eraseDups _

theorem mem (h : SumsUp readings keys) {key : SortKey} (hkey : key ∈ keys) : key ∈ readings :=
  (List.mem_filter.1 (List.mem_of_getLast? (h.last key hkey))).1

theorem field_mem_iff (h : SumsUp readings keys) {field : String} :
    field ∈ keys.map (·.field) ↔ field ∈ readings.map (·.field) := by
  rw [h.fields_eq, List.mem_eraseDups]

/-- One more sort key is summed up. -/
theorem add (h : SumsUp readings keys) (key : SortKey) :
    SumsUp (readings ++ [key]) (SortKey.add keys key) where
  fields_eq := by
    rw [fields_add, List.map_append, List.map_singleton, eraseDups_concat, ← h.fields_eq]
    simp only [h.field_mem_iff]
  last k hk := by
    rw [List.filter_append]
    obtain rfl | ⟨hmem, hne⟩ := of_mem_add h.nodup hk
    · simp
    · have hother : [key].filter (·.field = k.field) = [] := by simp [Ne.symm hne]
      rw [hother, List.append_nil]
      exact h.last k hmem

/-- The sort keys are determined by those that were read. -/
theorem eq_filterMap (h : SumsUp readings keys) :
    keys = (readings.map (·.field)).eraseDups.filterMap fun field =>
      (readings.filter (·.field = field)).getLast? := by
  rw [← h.fields_eq, List.filterMap_map]
  calc keys
      = keys.filterMap some := List.filterMap_some.symm
    _ = keys.filterMap fun key => (readings.filter (·.field = key.field)).getLast? :=
      List.filterMap_congr fun key hkey => (h.last key hkey).symm

theorem unique {keys' : List SortKey} (h : SumsUp readings keys) (h' : SumsUp readings keys') :
    keys = keys' :=
  h.eq_filterMap.trans h'.eq_filterMap.symm

end SumsUp

theorem sumsUp_foldl (readings : List SortKey) : SumsUp readings (readings.foldl add []) := by
  induction readings using List.reverseRecOn with
  | nil => exact .nil
  | append_singleton readings key ih =>
    rw [List.foldl_append]
    exact ih.add key

/-- Sort keys of different fields sum up themselves. -/
theorem sumsUp_self {keys : List SortKey} (h : (keys.map (·.field)).Nodup) : SumsUp keys keys where
  fields_eq := (eraseDups_eq_self h).symm
  last key hkey := by
    cases hlast : (keys.filter (·.field = key.field)).getLast? with
    | none =>
      have hmem : key ∈ keys.filter (·.field = key.field) := List.mem_filter.2 ⟨hkey, by simp⟩
      rw [List.getLast?_eq_none_iff.1 hlast] at hmem
      cases hmem
    | some k =>
      obtain ⟨hk, hfield⟩ := List.mem_filter.1 (List.mem_of_getLast? hlast)
      rw [List.inj_on_of_nodup_map h hk hkey (by simpa using hfield)]

/-! ## Both outcomes -/

theorem map_trim_splitOn (raw : String) :
    (Text.splitOn ',' raw.toList).map Text.trim = tokens raw := by
  rw [Text.splitOn_eq, tokens]

/-- An order is read if each of its tokens is a sort key, and what is read sums these up. -/
theorem parseList_eq_ok_iff {raw : String} {keys : List SortKey} :
    parseList raw = .ok keys ↔
      ∃ readings, List.Forall₂ Reads (tokens raw) readings ∧ SumsUp readings keys := by
  rw [parseList, addTokens_eq_ok_iff, map_trim_splitOn]
  constructor
  · rintro ⟨readings, hread, rfl⟩
    exact ⟨readings, hread, sumsUp_foldl readings⟩
  · rintro ⟨readings, hread, hsums⟩
    exact ⟨readings, hread, (sumsUp_foldl readings).unique hsums⟩

/-- An order is refused with the first of its tokens that is no sort key. -/
theorem parseList_eq_error_iff {raw e : String} :
    parseList raw = .error e ↔
      ∃ before token after, tokens raw = before ++ token :: after ∧
        (∀ t ∈ before, ∃ key, Reads t key) ∧ (¬∃ key, Reads token key) ∧
        e = String.ofList token := by
  rw [parseList, addTokens_eq_error_iff, map_trim_splitOn]

/-! ## The normal form -/

theorem comma_notMem_of_mem_tokens {raw : String} {token : List Char} (h : token ∈ tokens raw) :
    ',' ∉ token := by
  rw [← map_trim_splitOn] at h
  obtain ⟨piece, hpiece, rfl⟩ := List.mem_map.1 h
  intro hmem
  exact Text.sep_notMem_of_mem_splitOn hpiece (Text.mem_of_mem_dropEnds hmem)

/-- A field is a part of its token. -/
theorem Reads.isField {token : List Char} {key : SortKey} (h : Reads token key) :
    IsField key.field.toList ∧ key.field.toList ⊆ token := by
  cases h with
  | field hfield =>
    rw [String.toList_ofList]
    exact ⟨hfield, List.Subset.refl _⟩
  | directed hfield =>
    rw [String.toList_ofList, List.append_assoc]
    exact ⟨hfield, List.subset_append_left _ _⟩

/-- What is read is in the normal form. -/
theorem isNormal_of_parseList {raw : String} {keys : List SortKey}
    (h : parseList raw = .ok keys) : IsNormal keys := by
  obtain ⟨readings, hread, hsums⟩ := parseList_eq_ok_iff.1 h
  have hkeys : ∀ key ∈ keys, ∃ token ∈ tokens raw, Reads token key := fun key hkey =>
    exists_of_forall₂_right hread (hsums.mem hkey)
  refine ⟨?_, hsums.nodup, fun key hkey => ?_, fun key hkey hcomma => ?_⟩
  · -- There is a token, so that some field was read, and that one is still there.
    have hne : tokens raw ≠ [] := by simp [tokens]
    obtain ⟨token, htoken⟩ := List.exists_mem_of_ne_nil _ hne
    obtain ⟨key, hkey, -⟩ := exists_of_forall₂_left hread htoken
    rintro rfl
    exact List.not_mem_nil (hsums.field_mem_iff.2 (List.mem_map_of_mem hkey))
  · obtain ⟨token, -, htoken⟩ := hkeys key hkey
    exact htoken.isField.1
  · obtain ⟨token, hmem, htoken⟩ := hkeys key hkey
    exact comma_notMem_of_mem_tokens hmem (htoken.isField.2 hcomma)

/-! ## Printing -/

theorem toList_print (key : SortKey) :
    key.print.toList = key.field.toList ++ [' '] ++ key.direction.name.toList := by
  rw [print, String.toList_append, String.toList_append]
  rfl

theorem directs_name (direction : Direction) : Directs direction.name.toList direction := by
  cases direction with
  | asc => exact .asc rfl
  | desc =>
    have hnot : ¬Spells "asc" Direction.desc.name.toList := by
      unfold Spells
      decide
    have hspells : Spells "desc" Direction.desc.name.toList := rfl
    exact .desc hnot (Or.inr (resembles_of_spells (by decide) hspells))

theorem name_ne_nil (direction : Direction) : direction.name.toList ≠ [] := by
  cases direction <;> decide

theorem of_mem_name {direction : Direction} {c : Char} (h : c ∈ direction.name.toList) :
    Text.isBlank c = false ∧ c ≠ ',' := by
  have hall : direction.name.toList.all (fun c => !Text.isBlank c && c != ',') = true := by
    cases direction <;> rfl
  simpa using List.all_eq_true.1 hall c h

theorem reads_print {key : SortKey} (h : IsField key.field.toList) :
    Reads key.print.toList key := by
  have hgap : ∀ c ∈ [' '], Text.isBlank c = true := List.forall_mem_singleton.2 rfl
  have hread := Reads.directed h (List.cons_ne_nil ' ' []) hgap (directs_name key.direction)
  rwa [String.ofList_toList, ← toList_print] at hread

/-- A token that is printed begins with a field and ends with the name of a direction. -/
theorem trim_print {key : SortKey} (h : IsField key.field.toList) :
    Text.trim key.print.toList = key.print.toList := by
  rw [toList_print]
  apply Text.dropEnds_eq_self_of_ends
  · intro c hc
    rw [List.append_assoc, List.head?_append_of_ne_nil _ h.ne_nil] at hc
    exact h.not_isBlank c (List.mem_of_head? hc)
  · intro c hc
    rw [List.getLast?_append_of_ne_nil _ (name_ne_nil key.direction)] at hc
    exact (of_mem_name (List.mem_of_getLast? hc)).1

theorem tokens_printList {keys : List SortKey} (h : IsNormal keys) :
    tokens (printList keys) = keys.map (·.print.toList) := by
  have hcomma : ∀ token ∈ keys.map (·.print.toList), ',' ∉ token := by
    rintro _ htoken hmem
    obtain ⟨key, hkey, rfl⟩ := List.mem_map.1 htoken
    rw [toList_print, List.mem_append, List.mem_append] at hmem
    obtain (hmem | hmem) | hmem := hmem
    · exact h.comma_notMem key hkey hmem
    · exact absurd hmem (by decide)
    · exact (of_mem_name hmem).2 rfl
  have hne : keys.map (·.print.toList) ≠ [] := fun hnil => h.ne_nil (List.map_eq_nil_iff.1 hnil)
  have hsplit : (printList keys).toList.splitOn ',' = keys.map (·.print.toList) := by
    rw [printList, String.toList_intercalate, List.map_map]
    exact List.splitOn_intercalate ',' hcomma hne
  rw [tokens, hsplit, List.map_map]
  exact List.map_congr_left fun key hkey => trim_print (h.isField key hkey)

/-- An order in the normal form is read as it was printed. -/
theorem parseList_printList {keys : List SortKey} (h : IsNormal keys) :
    parseList (printList keys) = .ok keys := by
  refine parseList_eq_ok_iff.2 ⟨keys, ?_, sumsUp_self h.nodup⟩
  rw [tokens_printList h, List.forall₂_map_left_iff]
  exact List.forall₂_same.2 fun key hkey => reads_print (h.isField key hkey)

/-- Reading an order brings it into a normal form: if each of its tokens is a sort key then what is
    read sums these up, its fields can stand in tokens and differ from each other, and it is read
    again as it is when it is printed. An order is refused only with the first of its tokens that is
    no sort key. -/
theorem parseList_normalizes (raw : String) :
    (∀ keys, parseList raw = .ok keys ↔
      ∃ readings, List.Forall₂ Reads (tokens raw) readings ∧ SumsUp readings keys) ∧
    (∀ keys, parseList raw = .ok keys →
      IsNormal keys ∧ parseList (printList keys) = .ok keys) ∧
    ∀ e, parseList raw = .error e ↔
      ∃ before token after, tokens raw = before ++ token :: after ∧
        (∀ t ∈ before, ∃ key, Reads t key) ∧ (¬∃ key, Reads token key) ∧
        e = String.ofList token := by
  refine ⟨fun keys => parseList_eq_ok_iff, fun keys h => ?_, fun e => parseList_eq_error_iff⟩
  have hnormal := isNormal_of_parseList h
  exact ⟨hnormal, parseList_printList hnormal⟩

theorem parseList_normalizes_names :
    (parseList " name asc,id,name DESC" = .ok [⟨"name", .desc⟩, ⟨"id", .desc⟩] ∧
      parseList (printList [⟨"name", .desc⟩, ⟨"id", .desc⟩]) =
        .ok [⟨"name", .desc⟩, ⟨"id", .desc⟩]) ∧
    parseList "id,name sideways," = .error "name sideways" ∧
      ¬∃ key, Reads "name sideways".toList key := by
  have hread : parseList " name asc,id,name DESC" = .ok [⟨"name", .desc⟩, ⟨"id", .desc⟩] := rfl
  have hrefused : parseList "id,name sideways," = .error "name sideways" := rfl
  obtain ⟨_, token, _, -, -, hnot, htoken⟩ :=
    ((parseList_normalizes "id,name sideways,").2.2 _).1 hrefused
  refine ⟨⟨hread, ((parseList_normalizes _).2.1 _ hread).2⟩, hrefused, ?_⟩
  rwa [htoken, String.toList_ofList]

end SortKey

end Depot
