import Depot.Error
import Depot.Json.Document
import Depot.Text.Blank
import Depot.Text.Case
import Depot.Text.Integer
import Depot.Text.Utf8

/-!
# Requests

What an operation on a resource is given: the parameters of the path, those of the query, the
headers, and the body. A query parameter may be given more than once; operations that need one
value refuse it then.

* `Request.withQuery`, `Request.withHeader`: requests with one more parameter or header.
* `Request.header?`, `Request.single`, `Request.natural`, `Request.populate?`: what they hold.
* `Request.bodyOf`: the body that bytes stand for.
-/

namespace Depot

/-- The value of a query parameter: one text, or the texts of a repeated parameter. -/
inductive QueryValue
  | single (value : String)
  | multiple (values : List String)
  deriving DecidableEq, Repr

/-- The texts of a query parameter. -/
def QueryValue.values : QueryValue → List String
  | .single v => [v]
  | .multiple vs => vs

/-- A request on a resource. The names of headers are in lower case; of several headers with one
    name the first counts. -/
structure Request where
  params : Fields String
  query : Fields QueryValue
  headers : List (String × String)
  body : Option Json
  deriving DecidableEq

namespace Request

/-- A request with nothing in it. -/
def empty : Request := ⟨[], [], [], none⟩

/-! ## Building requests -/

/-- Adds an occurrence of a query parameter. -/
def addQuery (query : Fields QueryValue) (key value : String) : Fields QueryValue :=
  match query.field? key with
  | none => query.put key (.single value)
  | some v => query.put key (.multiple (v.values ++ [value]))

/-- The query parameters that pairs give, in their order. -/
def queryOf (pairs : List (String × String)) : Fields QueryValue :=
  pairs.foldl (fun query (key, value) => addQuery query key value) []

/-- A request with one more query parameter. -/
def withQuery (r : Request) (key value : String) : Request :=
  { r with query := addQuery r.query key value }

/-- Whether a text can be the value of a header: it has no control characters but tabs. -/
def isHeaderText (value : String) : Bool :=
  value.toList.all fun c => c == '\t' || (0x20 ≤ c.toNat && c.toNat != 0x7F)

/-- A request with a header in place of those of its name; a text that cannot be a header's value
    is ignored. -/
def withHeader (r : Request) (name value : String) : Request :=
  if isHeaderText value then
    { r with headers := (name, value) :: r.headers.filter fun h => h.1 != name }
  else r

/-- The body that bytes stand for: blanks are no body, and what is not JSON is a string. -/
def bodyOf (bytes : List UInt8) : Option Json :=
  if bytes.all Text.isAsciiBlank then none
  else some (((Text.Utf8.decode? bytes).bind Json.parse?).getD
    (.str (Text.Utf8.decodeLossy bytes)))

/-! ## Reading requests -/

/-- Whether a character is a printable ASCII character or a tab. -/
def isPlain (c : Char) : Bool := c == '\t' || (0x20 ≤ c.toNat && c.toNat ≤ 0x7E)

/-- The trimmed value of a header, if it is ASCII and not blank. -/
def header? (r : Request) (name : String) : Option String := do
  let (_, value) ← r.headers.find? fun h => h.1 == Text.lowercaseAscii name
  let trimmed := Text.trimmed value
  if value.toList.all isPlain && !trimmed.isEmpty then some trimmed else none

/-- The value of a query parameter that may be given once. -/
def single (r : Request) (resource key : String) : Except RequestError (Option String) :=
  match r.query.field? key with
  | none => .ok none
  | some (.single v) => .ok (some v)
  | some (.multiple _) => .error (.queryMalformed resource
      ("'" ++ key ++ "' was given more than once; cannot evaluate a list value"))

/-- The greatest number that a query parameter may hold. -/
def maxNatural : Nat := 0xFFFFFFFFFFFFFFFF

/-- The number that a query parameter holds; a blank one holds none. -/
def natural (r : Request) (resource key : String) : Except RequestError (Option Nat) := do
  let text := (← r.single resource key).map fun v => Text.trim v.toList
  match text with
  | none | some [] => .ok none
  | some cs =>
    match Text.Natural.parse maxNatural cs with
    | .ok n => .ok (some n)
    | .error _ => .error (.queryMalformed resource
        (key ++ " must be a non-negative integer, got '" ++ String.ofList cs ++ "'"))

/-- The names in a list of names between commas. -/
def namesOf (value : String) : List String :=
  (((Text.splitOn ',' value.toList).map Text.trim).filter (!·.isEmpty)).map String.ofList

/-- The relations that a request asks for, unless it names none. -/
def populate? (r : Request) : Option (List String) := do
  let v ← r.query.field? "populate"
  match v.values.flatMap namesOf with
  | [] => none
  | names => some names

end Request

end Depot
