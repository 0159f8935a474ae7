import Depot.Error
import Depot.Pattern.Parser

/-!
# Key paths

A key path says which path parameters identify an instance and which columns they stand for. It
is a path with tokens `:name(pattern)<column>`, of which the pattern and the column may be left
out: a parameter without column stands for the column of its own name, and one without pattern
admits every value.

* `KeyPath.resolve`: the entries of a path, or why it is not a key path.
* `KeyPath.parse`: a key path, with the route that it is registered under.
* `KeyPath.fields`: the field values that identify the instance of a request.
-/

namespace Depot

/-- The key path of resources that declare none. -/
def defaultKeyPath : String := ":id"

/-- The pattern shown for parameters that declare none. It is not enforced. -/
def defaultParamPattern : String := "([A-Za-z0-9_]\x7b0,\x7d)"

/-- A path parameter and the column it stands for. -/
structure KeyPathEntry where
  param : String
  column : String
  pattern : String
  matcher : Option Pattern

/-- Why a path is not a key path. -/
inductive KeyPathFault
  | invalidToken (offset : Nat)
  | uncompilable (pattern param : String)
  | declaredTwice (param : String)
  | unexpected (c : Char)
  deriving DecidableEq, Repr

/-- The wording of a fault in a path. -/
def KeyPathFault.message (path : String) (fault : KeyPathFault) : String :=
  let start := "failed to parse key path '" ++ path ++ "': "
  let finish := ". Check the resource key path pattern."
  match fault with
  | .invalidToken offset => start ++ "invalid token at offset " ++ Nat.repr offset ++ finish
  | .uncompilable pattern param =>
    start ++ "pattern " ++ pattern ++ " for :" ++ param ++ " does not compile"
  | .declaredTwice param => start ++ "parameter :" ++ param ++ " declared twice" ++ finish
  | .unexpected c => start ++ "unexpected '" ++ String.singleton c ++ "' outside a token" ++ finish

/-- A key path as written, its form without columns, and its entries. -/
structure KeyPath where
  raw : String
  template : String
  entries : List KeyPathEntry

namespace KeyPath

/-! ## Tokens -/

/-- A token of a key path: the group is kept with its parentheses. -/
structure Token where
  name : List Char
  group : Option (List Char)
  column : Option (List Char)
  deriving DecidableEq

/-- The word characters at the start of a text. -/
def wordSpan (cs : List Char) : List Char := cs.takeWhile Text.isWord

/-- The group at the start of a text, with its parentheses. -/
def groupSpan? : List Char → Option (List Char)
  | '(' :: cs => (Text.cutAt ')' cs).map fun (inner, _) => '(' :: inner ++ [')']
  | _ => none

/-- The word between angle brackets at the start of a text. -/
def columnSpan? : List Char → Option (List Char)
  | '<' :: cs =>
    let word := wordSpan cs
    if !word.isEmpty && (cs.drop word.length).head? = some '>' then some word else none
  | _ => none

/-- The token after a colon. -/
def token? (cs : List Char) : Option Token :=
  let name := wordSpan cs
  if name.isEmpty then none
  else
    let rest := cs.drop name.length
    let group := groupSpan? rest
    let rest := rest.drop (group.getD []).length
    some ⟨name, group, columnSpan? rest⟩

/-- The number of characters of a token after its colon. -/
def Token.length (t : Token) : Nat :=
  t.name.length + (t.group.getD []).length +
    match t.column with
    | some c => c.length + 2
    | none => 0

/-- A part of a path: a literal character, a token, or a colon that starts no token. -/
inductive Segment
  | literal (c : Char)
  | token (t : Token)
  | stray (offset : Nat)
  deriving DecidableEq

/-- The parts of a path from a byte offset on; `skip` characters belong to the last token. -/
def segmentsFrom : (skip offset : Nat) → List Char → List Segment
  | _, _, [] => []
  | skip + 1, offset, c :: cs => segmentsFrom skip (offset + c.utf8Size) cs
  | 0, offset, c :: cs =>
    if c = ':' then
      match token? cs with
      | some t => .token t :: segmentsFrom t.length (offset + c.utf8Size) cs
      | none => .stray offset :: segmentsFrom 0 (offset + c.utf8Size) cs
    else .literal c :: segmentsFrom 0 (offset + c.utf8Size) cs

/-- The parts of a path. -/
def segments (path : List Char) : List Segment := segmentsFrom 0 0 path

/-! ## Entries -/

/-- The pattern that a value must match as a whole. -/
def compileGroup? (group : List Char) : Option Pattern :=
  Pattern.parse? ("^(?:".toList ++ group ++ ")$".toList)

/-- The entry of a token. -/
def Token.entry (t : Token) : Except KeyPathFault KeyPathEntry :=
  let param := String.ofList t.name
  let column := String.ofList (t.column.getD t.name)
  match t.group with
  | none => .ok ⟨param, column, defaultParamPattern, none⟩
  | some group =>
    match compileGroup? group with
    | some m => .ok ⟨param, column, String.ofList group, some m⟩
    | none => .error (.uncompilable (String.ofList group) param)

/-- The entries of the tokens among parts of a path; `seen` are the names given before. -/
def entriesOf (seen : List (List Char)) : List Segment → Except KeyPathFault (List KeyPathEntry)
  | [] => .ok []
  | .literal _ :: rest => entriesOf seen rest
  | .stray offset :: _ => .error (.invalidToken offset)
  | .token t :: rest => do
    let entry ← t.entry
    if seen.contains t.name then .error (.declaredTwice (String.ofList t.name))
    else
      let entries ← entriesOf (t.name :: seen) rest
      .ok (entry :: entries)

/-- The first bracket that stands outside the tokens. -/
def strayBracket? (parts : List Segment) : Option Char :=
  parts.findSome? fun
    | .literal c => if c = '(' ∨ c = ')' ∨ c = '<' ∨ c = '>' then some c else none
    | _ => none

/-- The entries of a path. -/
def resolve (path : String) : Except KeyPathFault (List KeyPathEntry) := do
  let parts := segments path.toList
  let entries ← entriesOf [] parts
  match strayBracket? parts with
  | some c => .error (.unexpected c)
  | none => .ok entries

/-! ## Routes -/

/-- A text without the words in angle brackets; `skip` characters belong to the last of them. -/
def dropColumns : (skip : Nat) → List Char → List Char
  | _, [] => []
  | skip + 1, _ :: cs => dropColumns skip cs
  | 0, c :: cs =>
    match columnSpan? (c :: cs) with
    | some word => dropColumns (word.length + 1) cs
    | none => c :: dropColumns 0 cs

/-- A text without the groups that follow the names of tokens: `keep` characters of the last name
    are still to come, and after them `skip` characters of its group. -/
def dropGroups : (keep skip : Nat) → List Char → List Char
  | _, _, [] => []
  | keep + 1, skip, c :: cs => c :: dropGroups keep skip cs
  | 0, skip + 1, _ :: cs => dropGroups 0 skip cs
  | 0, 0, c :: cs =>
    let name := wordSpan cs
    if c = ':' ∧ !name.isEmpty then
      match groupSpan? (cs.drop name.length) with
      | some group => c :: dropGroups name.length group.length cs
      | none => c :: dropGroups 0 0 cs
    else c :: dropGroups 0 0 cs

/-- A key path, with a slash in front. -/
def parse (path : String) : Except (String × KeyPathFault) KeyPath :=
  let raw := String.ofList ('/' :: path.toList.dropWhile (· == '/'))
  match resolve raw with
  | .ok entries => .ok ⟨raw, String.ofList (dropColumns 0 raw.toList), entries⟩
  | .error fault => .error (raw, fault)

/-- The route of a key path: its patterns are left out, and checked on the request instead. -/
def route (k : KeyPath) : String := String.ofList (dropGroups 0 0 k.template.toList)

/-! ## Requests -/

/-- The value of a path parameter. -/
def param? (params : List (String × String)) (name : String) : Option String :=
  (params.find? fun p => p.1 == name).map (·.2)

/-- The field values that entries take from path parameters, set one after the other. -/
def fieldsOf (resource : String) (params : List (String × String)) (underscoreAsEmpty : Bool)
    (sofar : Record) : List KeyPathEntry → Except RequestError Record
  | [] => .ok sofar
  | e :: rest =>
    match param? params e.param with
    | none => .error (.badConfiguration resource
        ("path parameter '" ++ e.param ++ "' was not supplied by the router"))
    | some value =>
      if (e.matcher.map (·.isMatch value)).getD true then
        let value := if underscoreAsEmpty && value == "_" then "" else value
        fieldsOf resource params underscoreAsEmpty (sofar.put e.column (.str value)) rest
      else .error (.notFound resource (e.param ++ "=" ++ value ++ " does not match " ++ e.pattern))

/-- The field values that identify the instance of a request. -/
def fields (k : KeyPath) (resource : String) (params : List (String × String))
    (underscoreAsEmpty : Bool) : Except RequestError Record :=
  fieldsOf resource params underscoreAsEmpty [] k.entries

end KeyPath

end Depot
