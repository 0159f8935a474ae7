import Depot.Pattern.Automaton
import Depot.Pattern.Bracket

/-!
# Written patterns

The usual notation for regular expressions: `.`, `[..]`, `(..)`, `(?:..)`, `(?i)`, `|`, `*`, `+`,
`?`, `{n,m}`, `^`, `$`, `\b`, `\d`, `\w`, `\s`, `\p{..}`, character classes with nesting and set
operations. There are no references back to groups and no conditions that look ahead or behind: a
pattern with one of these is refused, as is one that nests too deeply or whose automata would be
too large.

* `Pattern.parse?`: the pattern of a text.

Results:
* `fits_of_parse?`: the automata of a pattern that is accepted are within their limit.
-/

namespace Depot.Pattern

/-- What has been read of a pattern: the pattern, and how deeply it nests. -/
structure Node where
  pattern : Pattern
  height : Nat

/-- What is known while reading: the switches, the names given to groups, and how many groups there
    are. -/
structure Scope where
  flags : Flags
  names : List (List Char)
  groups : Nat

/-- The greatest depth of nesting. -/
def maxHeight : Nat := 250

/-! ## Repetition -/

/-- Reads the bounds of a repetition after the opening brace. -/
def bounds? (f : Flags) (cs : List Char) : Option ((Nat × Option Nat) × List Char) := do
  let (least, rest) ← decimal? f (skipBlank f cs)
  match rest with
  | '\x7d' :: rest => some ((least, some least), rest)
  | ',' :: rest =>
    match skipBlank f rest with
    | '\x7d' :: rest => some ((least, none), rest)
    | rest =>
      let (most, rest) ← decimal? f rest
      match rest with
      | '\x7d' :: rest => if least ≤ most then some ((least, some most), rest) else none
      | _ => none
  | _ => none

/-- Reads the sign that asks for the shorter match; whether the longer one is asked for. -/
def greed (f : Flags) : List Char → Bool × List Char
  | '?' :: rest => (f.swapGreed, rest)
  | rest => (!f.swapGreed, rest)

/-- How often something is repeated, and whether as often as possible. -/
structure Repetition where
  least : Nat
  most : Option Nat
  greedy : Bool

/-- Reads the rest of a sign that repeats without a number. -/
def signed (f : Flags) (least : Nat) (most : Option Nat) (cs : List Char) :
    Repetition × List Char :=
  let (greedy, rest) := greed f cs
  (⟨least, most, greedy⟩, rest)

/-- Reads the repetition that a text starts with, if it starts with one. Blanks may stand between
    numbers in braces and the sign that asks for the shorter match, but not between two signs. -/
def repetition? (f : Flags) : List Char → Option (Option (Repetition × List Char))
  | '?' :: cs => some (some (signed f 0 (some 1) cs))
  | '*' :: cs => some (some (signed f 0 none cs))
  | '+' :: cs => some (some (signed f 1 none cs))
  | '\x7b' :: cs => do
    let ((least, most), rest) ← bounds? f cs
    some (some (signed f least most (skipBlank f rest)))
  | _ => some none

/-! ## Groups -/

/-- Sets or clears the switch of a letter. -/
def Flags.set? (f : Flags) (c : Char) (on : Bool) : Option Flags :=
  match c with
  | 'i' => some { f with ignoreCase := on }
  | 'm' => some { f with multiLine := on }
  | 's' => some { f with dotAll := on }
  | 'u' => some { f with unicode := on }
  | 'x' => some { f with ignoreBlank := on }
  | 'R' => some { f with crlf := on }
  | 'U' => some { f with swapGreed := on }
  | _ => none

/-- Reads letters of switches up to a colon or a closing parenthesis; those after a hyphen are
    cleared. No letter and no hyphen comes twice, and a hyphen is not the last of them. -/
def flags? (f : Flags) (on : Bool) (seen : List Char) : List Char → Option (Flags × List Char)
  | [] => none
  | c :: cs =>
    if c = ':' ∨ c = ')' then
      if seen.head? = some '-' then none else some (f, c :: cs)
    else if seen.contains c then none
    else if c = '-' then flags? f false (c :: seen) cs
    else do
      let f ← f.set? c on
      flags? f on (c :: seen) cs

/-- Whether a character may stand in the name of a group. -/
def isNameChar (first : Bool) (c : Char) : Bool :=
  c == '_' || (if first then Text.isLetter c
    else Text.isLetterOrNumber c || c == '.' || c == '[' || c == ']')

/-- Reads the name of a group up to its closing angle bracket. -/
def groupName? (cs : List Char) : Option (List Char × List Char) := do
  let (name, rest) ← Text.cutAt '>' cs
  match name with
  | [] => none
  | c :: more => if isNameChar true c && more.all (isNameChar false) then some (name, rest) else none

/-- How a group starts. -/
inductive Opening
  | lookAround
  | capture (scope : Scope) (rest : List Char)
  | inner (flags : Flags) (rest : List Char)
  | switch (flags : Flags) (rest : List Char)

/-- Enters a group with a number. -/
def Scope.enter (s : Scope) : Scope := { s with groups := s.groups + 1 }

/-- Reads the start of a group after its parenthesis. -/
def opening? (s : Scope) (cs : List Char) : Option Opening :=
  let named := fun rest => do
    let (name, rest) ← groupName? rest
    if s.names.contains name then none
    else some (Opening.capture { s.enter with names := name :: s.names } rest)
  match skipBlank s.flags cs with
  | '?' :: '=' :: _ | '?' :: '!' :: _ | '?' :: '<' :: '=' :: _ | '?' :: '<' :: '!' :: _ =>
    some .lookAround
  | '?' :: 'P' :: '<' :: rest => named rest
  | '?' :: '<' :: rest => named rest
  | '?' :: rest => do
    let (f, after) ← flags? s.flags true [] rest
    match after with
    | ':' :: after => some (.inner f after)
    | ')' :: after => if rest.head? = some ')' then none else some (.switch f after)
    | _ => none
  | rest => some (.capture s.enter rest)

/-! ## Expressions -/

/-- The greatest depth of some nodes. -/
def greatestHeight (nodes : List Node) : Nat := nodes.foldl (fun h n => max h n.height) 0

/-- Puts the pieces of a sequence together, the last one first. Pieces without a pattern only set
    switches, but they count as pieces. -/
def joinPieces (pieces : List (Option Node)) : Node :=
  let nodes := (pieces.filterMap id).reverse
  let height := greatestHeight nodes
  ⟨concat (nodes.map (·.pattern)), if pieces.length < 2 then height else height + 1⟩

/-- Puts the branches of a choice together. -/
def joinBranches : List Node → Node
  | [n] => n
  | nodes => ⟨choice (nodes.map (·.pattern)), greatestHeight nodes + 1⟩

/-- The pattern of a character that stands for itself. -/
def character (f : Flags) (c : Char) : Pattern :=
  if f.ignoreCase then ofSet (f.foldSet (.single c)) else .literal [c]

/-- The set of a dot under the switches. -/
def dot? (f : Flags) : Option CharSet :=
  if !f.unicode then none
  else if f.dotAll then some .all
  else if f.crlf then some (CharSet.ofRanges [(0x0A, 0x0A), (0x0D, 0x0D)]).compl
  else some (CharSet.single '\n').compl

/-- The pattern of a character that is not the start of anything longer. -/
def sign? (f : Flags) : Char → Option Pattern
  | '.' => (dot? f).map ofSet
  | '^' => some (.anchor (if f.multiLine then .lineStart f.crlf else .textStart))
  | '$' => some (.anchor (if f.multiLine then .lineEnd f.crlf else .textEnd))
  | c => some (character f c)

/-- The pattern of what a backslash and what follows it stand for. -/
def Escape.pattern (f : Flags) : Escape → Pattern
  | .char c => character f c
  | .set s => ofSet s
  | .anchor a => .anchor a

mutual

/-- Reads the branches of a choice up to a closing parenthesis or the end. -/
def branches? : (fuel : Nat) → Scope → List Char → Option (List Node × Scope × List Char)
  | 0, _, _ => none
  | fuel + 1, s, cs => do
    let (node, s, rest) ← pieces? fuel s [] cs
    match rest with
    | '|' :: rest =>
      let (nodes, s, rest) ← branches? fuel s rest
      some (node :: nodes, s, rest)
    | rest => some ([node], s, rest)

/-- Reads the pieces of a sequence up to a bar, a closing parenthesis or the end. -/
def pieces? : (fuel : Nat) → Scope → List (Option Node) → List Char →
    Option (Node × Scope × List Char)
  | 0, _, _, _ => none
  | fuel + 1, s, pieces, cs =>
    match skipBlank s.flags cs with
    | [] => some (joinPieces pieces, s, [])
    | ')' :: rest => some (joinPieces pieces, s, ')' :: rest)
    | '|' :: rest => some (joinPieces pieces, s, '|' :: rest)
    | '(' :: rest => do
      match ← opening? s rest with
      | .lookAround => none
      | .switch f rest => pieces? fuel { s with flags := f } (none :: pieces) rest
      | .capture inner rest =>
        let (node, after, rest) ← group? fuel inner rest
        let node : Node := ⟨.group inner.groups node.pattern, node.height + 1⟩
        pieces? fuel { after with flags := s.flags } (some node :: pieces) rest
      | .inner f rest =>
        let (node, after, rest) ← group? fuel { s with flags := f } rest
        let node : Node := ⟨node.pattern, node.height + 1⟩
        pieces? fuel { after with flags := s.flags } (some node :: pieces) rest
    | '[' :: rest => do
      let (b, rest) ← bracket? s.flags fuel rest
      pieces? fuel s (some ⟨ofSet b.set, b.height⟩ :: pieces) rest
    | '\\' :: rest => do
      let (e, rest) ← escape? s.flags rest
      pieces? fuel s (some ⟨e.pattern s.flags, 0⟩ :: pieces) rest
    | c :: rest => do
      match ← repetition? s.flags (c :: rest) with
      | some (r, rest) =>
        match pieces with
        | some node :: earlier =>
          let node : Node := ⟨repeated node.pattern r.least r.most r.greedy, node.height + 1⟩
          pieces? fuel s (some node :: earlier) rest
        | _ => none
      | none =>
        let p ← sign? s.flags c
        pieces? fuel s (some ⟨p, 0⟩ :: pieces) rest

/-- Reads the inside of a group and its closing parenthesis; what is known of the groups inside
    stays known. -/
def group? : (fuel : Nat) → Scope → List Char → Option (Node × Scope × List Char)
  | 0, _, _ => none
  | fuel + 1, s, cs => do
    let (nodes, after, rest) ← branches? fuel s cs
    match rest with
    | ')' :: rest => some (joinBranches nodes, after, rest)
    | _ => none

end

/-- Whether a node nests no deeper than it may and its automata fit. -/
def Node.isAccepted (n : Node) : Bool := n.height ≤ maxHeight && n.pattern.fits

/-- The pattern of a text, if the text is well formed and the pattern is within its bounds. -/
def parse? (cs : List Char) : Option Pattern := do
  let (nodes, _, rest) ← branches? (3 * cs.length + 3) ⟨{}, [], 0⟩ cs
  let node := joinBranches nodes
  if rest.isEmpty && node.isAccepted then some node.pattern else none

theorem fits_of_parse? {cs : List Char} {p : Pattern} (h : parse? cs = some p) :
    p.fits = true := by
  obtain ⟨⟨nodes, s, rest⟩, -, h⟩ := Option.bind_eq_some_iff.1 h
  simp only at h
  split at h
  · rename_i hn
    rw [← Option.some.inj h]
    simp only [Node.isAccepted, Bool.and_eq_true] at hn
    exact hn.2.2
  · exact absurd h (by simp)

end Depot.Pattern
