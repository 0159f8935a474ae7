import Depot.Http.Target
import Depot.Json.Record

/-!
# Routes

A route is a path in which `:name` stands for the rest of a segment, and `*name` for all that is
left of the path. Routes share their beginnings: at a fork one goes on with the character that
comes next in the path, and only if that leads to no route with the parameter that also starts
there. Where the path is a slash too long or too short for a route that ends, the search is over,
and the parameter is not tried any more.

* `Route.parse`: the pieces of a route and the names of its parameters.
* `Fork`: the routes that share a beginning, `Fork.straight`: how far they go on together.
* `Fork.follow`: where a path leads from a fork.
* `find?`: the route that is taken for a path, with the values of its parameters.
* `mounted`: a route below a prefix.

Results:
* `straight_of_ended`: where a route ends the routes do not go on together.
-/

namespace Depot.Http

/-- A piece of a route: a character, the rest of a segment, or the rest of the path. -/
inductive RoutePiece
  | char (c : Char)
  | param
  | rest
  deriving DecidableEq, Repr

/-- A route: its pieces, and the names of its parameters in their order. -/
structure Route where
  pieces : List RoutePiece
  names : List String
  deriving DecidableEq, Repr

namespace Route

/-- Puts a character before a route. -/
def char (c : Char) (r : Route) : Route := { r with pieces := .char c :: r.pieces }

/-- Puts a parameter before a route. -/
def param (piece : RoutePiece) (name : List Char) (r : Route) : Route :=
  ⟨piece :: r.pieces, String.ofList name :: r.names⟩

/-- Reads a route. The name of a parameter extends to the end of its segment; `name` is what has
    been read of it, with the piece that it names. -/
def parseFrom : (name : Option (RoutePiece × List Char)) → List Char → Route
  | none, [] => ⟨[], []⟩
  | some (piece, name), [] => param piece name ⟨[], []⟩
  | none, c :: cs =>
    if c = ':' then parseFrom (some (.param, [])) cs
    else if c = '*' then parseFrom (some (.rest, [])) cs
    else char c (parseFrom none cs)
  | some (piece, name), c :: cs =>
    if c = '/' then param piece name (char c (parseFrom none cs))
    else parseFrom (some (piece, name ++ [c])) cs

/-- Reads a route. -/
def parse (s : String) : Route := parseFrom none s.toList

end Route

/-! ## Forks -/

/-- The routes that share a beginning: what is left of the pieces of each, and what is attached to
    it. -/
abbrev Fork (α : Type) := List (List RoutePiece × α)

/-- Where a path leads: to a route with the values of its parameters; to none, so that another way
    may be tried; or to none for good. -/
inductive Outcome (α : Type)
  | found (a : α) (values : List (List Char))
  | stuck
  | lost
  deriving DecidableEq, Repr

namespace Fork

variable {α : Type}

/-- What is attached to the route that ends at a fork. -/
def ended? (b : Fork α) : Option α := (b.find? (·.1.isEmpty)).map (·.2)

/-- The routes of a fork that go on with a piece. -/
def startingWith (p : RoutePiece) (b : Fork α) : Fork α := b.filter fun r => r.1.head? == some p

/-- The routes of a fork that go on. -/
def ongoing (b : Fork α) : Fork α := b.filter fun r => !r.1.isEmpty

/-- The routes of a fork behind their first piece. -/
def tails (b : Fork α) : Fork α := b.map fun (pieces, a) => (pieces.tail, a)

/-- The character with which all routes of a fork go on, if there is one. -/
def common? (b : Fork α) : Option Char :=
  match b.head?.bind (·.1.head?) with
  | some (.char c) => if b.all (·.1.head? == some (.char c)) then some c else none
  | _ => none

/-- The text that all routes of a fork go on with, and the fork behind it; `fuel` bounds its
    length. -/
def straightUpTo : (fuel : Nat) → Fork α → List Char × Fork α
  | 0, b => ([], b)
  | fuel + 1, b =>
    match b.common? with
    | some c =>
      let (text, b) := straightUpTo fuel b.tails
      (c :: text, b)
    | none => ([], b)

/-- The text that all routes of a fork go on with, and the fork behind it. -/
def straight (b : Fork α) : List Char × Fork α :=
  straightUpTo ((b.head?.map (·.1.length)).getD 0) b

/-- Whether a fork goes on with a single slash. -/
def isSlash (b : Fork α) : Bool := b.straight.1 == ['/']

/-- Whether a fork goes on with a single slash, where a route ends. -/
def endsInSlash (b : Fork α) : Bool := b.isSlash && b.straight.2.ended?.isSome

/-- What comes of a path that a fork does not go on with: nothing else is tried for a slash. -/
def noWay (path : List Char) : Outcome α := if path == ['/'] then .lost else .stuck

/-- Where a path leads that goes on with the value of a parameter; `b` is the fork behind the
    parameter, and `go` follows what comes after the value. -/
def throughParam (go : Fork α → List (List Char) → List Char → Outcome α) (b : Fork α)
    (values : List (List Char)) (path : List Char) : Outcome α :=
  let value := upTo '/' path
  let next := b.ongoing
  match path.drop value.length, b.ended? with
  | [], some a => .found a (value :: values).reverse
  | [], none => if next.endsInSlash then .lost else .stuck
  | left, ended =>
    if next.isEmpty then noWay left
    else if left == ['/'] && ended.isSome && !next.isSlash then .lost
    else go next (value :: values) left

/-- Where a path leads from a fork. `values` are those of the parameters before it, the last one
    first; `fuel` bounds the length of the path. -/
def follow : (fuel : Nat) → Fork α → (values : List (List Char)) → (path : List Char) → Outcome α
  | 0, _, _, _ => .lost
  | fuel + 1, b, values, path =>
    let (text, fork) := b.straight
    match Text.after? text path with
    | none => if text == path ++ ['/'] && fork.ended?.isSome then .lost else noWay path
    | some [] =>
      match fork.ended? with
      | some a => .found a values.reverse
      | none => noWay path
    | some (c :: cs) =>
      let left := c :: cs
      let static := fork.startingWith (.char c)
      let param := (fork.startingWith .param).tails
      let otherwise := fun (dead : Outcome α) =>
        if param.isEmpty then
          match (fork.startingWith .rest).tails.ended? with
          | some a => .found a (left :: values).reverse
          | none => dead
        else throughParam (follow fuel) param values left
      if static.isEmpty then otherwise (noWay left)
      else if left == ['/'] && fork.ended?.isSome && !static.isSlash then .lost
      else match follow fuel static values left with
        | .stuck => otherwise .stuck
        | outcome => outcome

theorem common?_of_ended {b : Fork α} {a : α} (h : b.ended? = some a) : b.common? = none := by
  obtain ⟨r, hr, -⟩ := Option.map_eq_some_iff.1 h
  have hmem := List.mem_of_find?_eq_some hr
  have hempty : r.1.isEmpty = true := by simpa using List.find?_some hr
  unfold common?
  split
  · rename_i c _
    rw [if_neg]
    intro hall
    have := List.all_eq_true.1 hall r hmem
    simp [List.isEmpty_iff.1 hempty] at this
  · rfl

theorem straight_of_ended {b : Fork α} {a : α} (h : b.ended? = some a) : b.straight = ([], b) := by
  unfold straight
  cases (b.head?.map (·.1.length)).getD 0 with
  | zero => rfl
  | succ fuel => simp [straightUpTo, common?_of_ended h]

end Fork

/-- The route that is taken for a path among routes with something attached, and the values of its
    parameters. -/
def find? {α : Type} (path : List Char) (routes : List (Route × α)) :
    Option (α × List (String × List Char)) :=
  let fork : Fork (List String × α) := routes.map fun (r, a) => (r.pieces, r.names, a)
  match fork.follow (path.length + 1) [] path with
  | .found (names, a) values => some (a, names.zip values)
  | _ => none

/-- The values of parameters as texts; if one of them is no text there are none. -/
def paramTexts (params : List (String × List Char)) : Fields String :=
  let texts := params.map fun (name, value) => (paramText? value).map fun v => (name, v)
  if texts.all (·.isSome) then Fields.ofList (texts.filterMap id) else []

/-- The text of a route below a mount, which is the root or has no slash at its end. -/
def mounted (mount route : String) : String :=
  if mount == "/" then route
  else if route == "/" then mount
  else mount ++ route

/-- The path of a mount: one slash, and what stands between the slashes at its ends. -/
def mountPath (mount : String) : String :=
  "/" ++ String.ofList (Text.dropEnds (· == '/') mount.toList)

end Depot.Http
