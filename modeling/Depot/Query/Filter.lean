import Depot.Query.Condition
import Depot.Query.Instant
import Depot.Text.Blank
import Depot.Text.Case

/-!
# Filter expressions

The value of a query parameter is either a literal or an operator with arguments:

* `$between(a,b)`, `$like(p)`, `$in(a,b,c)`, `$gt(v)`, `$lt(v)`, `$null`, `$nenull` and
  `$bool(true|1|yes|false|no|0)`, with the name in any letter case;
* an operand may be `$dt(n)`, an instant in milliseconds.

A value that begins with the name of an operator but does not fit its arguments is malformed.

* `Filter.parse`: the expression of a raw value.
* `Filter.condition?`: the condition that an expression puts on its field, if any.
* `interpret`: both in one step.
-/

namespace Depot

/-- The operators that take arguments. -/
inductive Operator
  | between | like | oneOf | gt | lt | bool | instant
  deriving DecidableEq, Repr

/-- The name of an operator. -/
def Operator.name : Operator → String
  | .between => "$between"
  | .like => "$like"
  | .oneOf => "$in"
  | .gt => "$gt"
  | .lt => "$lt"
  | .bool => "$bool"
  | .instant => "$dt"

/-- Why an operator cannot be evaluated. -/
inductive MalformedOperator
  | arguments (operator : Operator) (raw : String)
  | notAnInstant (digits : String)
  | outOfRange (millis : Nat)
  deriving DecidableEq, Repr

namespace MalformedOperator

/-- The operator at fault. -/
def operator : MalformedOperator → Operator
  | .arguments op _ => op
  | .notAnInstant _ => .instant
  | .outOfRange _ => .instant

/-- What is wrong with it. -/
def reason : MalformedOperator → String
  | .arguments _ raw => "cannot read arguments of '" ++ raw ++ "'"
  | .notAnInstant digits => "'" ++ digits ++ "' is not an epoch"
  | .outOfRange millis => Nat.repr millis ++ " is out of range"

/-- The wording of the fault. -/
def message (e : MalformedOperator) : String :=
  "failed to evaluate " ++ e.operator.name ++ ": " ++ e.reason

end MalformedOperator

/-! ## Operands -/

/-- The greatest 64-bit integer, as a bound for numbers without a sign. -/
def maxInteger : Nat := 0x7FFFFFFFFFFFFFFF

/-- Numbers of milliseconds below this one are not taken for instants. -/
def instantFloor : Nat := 10000000000

/-- The digits, of any script, between the parentheses of `$dt(n)`. -/
def instantDigits? (cs : List Char) : Option (List Char) := do
  let rest ← Text.after? ['$', 'd', 't', '('] (Text.trim cs)
  let digits ← Text.before? ')' rest
  if digits.isEmpty || !digits.all Text.isDigit then none else some digits

/-- An operand as a value: the text of an instant for `$dt(n)`, otherwise the operand as it is. -/
def normalize (v : String) : Except MalformedOperator Json :=
  match instantDigits? v.toList with
  | none => .ok (.str v)
  | some digits =>
    match Text.Natural.parse maxInteger digits with
    | .error _ => .error (.notAnInstant (String.ofList digits))
    | .ok millis =>
      if millis < instantFloor then .ok (.str v)
      else match Instant.text? millis with
        | some t => .ok (.str t)
        | none => .error (.outOfRange millis)

/-- The operands of a list, as values. -/
def normalizeAll : List String → Except MalformedOperator (List Json)
  | [] => .ok []
  | v :: vs => do
    let j ← normalize v
    let js ← normalizeAll vs
    .ok (j :: js)

/-- Cuts a text at the commas outside parentheses, where `depth` parentheses are open; there are
    no pieces if the parentheses do not balance. -/
def cutTopLevel (depth : Nat) : List Char → Option (List (List Char))
  | [] => if depth = 0 then some [[]] else none
  | c :: cs =>
    if c = ',' ∧ depth = 0 then (cutTopLevel 0 cs).map ([] :: ·)
    else
      let inner :=
        if c = '(' then cutTopLevel (depth + 1) cs
        else if c = ')' then (if depth = 0 then none else cutTopLevel (depth - 1) cs)
        else cutTopLevel depth cs
      inner.map fun
        | [] => [[c]]
        | piece :: pieces => (c :: piece) :: pieces

/-- The items of a list argument: the pieces between commas outside parentheses, trimmed, without
    the empty ones. -/
def splitTopLevel (args : List Char) : Option (List (List Char)) :=
  (cutTopLevel 0 args).map fun pieces => (pieces.map Text.trim).filter (!·.isEmpty)

/-! ## Expressions -/

/-- A filter expression. -/
inductive Filter
  | numericBetween (low high : Nat)
  | like (pattern : String)
  | between (low high : String)
  | oneOf (items : List String)
  | gt (operand : String)
  | lt (operand : String)
  | isNull
  | isNotNull
  | bool (truth : Bool)
  | literal (raw : String)
  deriving DecidableEq, Repr

namespace Filter

/-- What stands between the parentheses after an operator's name, if the text is nothing else. -/
def arguments? (name : List Char) (v : List Char) : Option (List Char) := do
  let rest ← Text.after? ['$'] v
  let rest ← Text.afterWord name rest
  let rest ← Text.after? ['('] rest
  Text.before? ')' rest

/-- Whether a text is an operator's name and nothing else. -/
def isBare (name : List Char) (v : List Char) : Bool :=
  match (Text.after? ['$'] v).bind (Text.afterWord name) with
  | some [] => true
  | _ => false

/-- A non-empty text without a line break. -/
def isLine (cs : List Char) : Bool := !cs.isEmpty && !cs.contains '\n'

/-- A non-empty string of ASCII digits within the 64-bit integers. -/
def integer? (cs : List Char) : Option Nat :=
  if cs.all Text.isAsciiDigit then (Text.Natural.parse maxInteger cs).toOption else none

/-- The two bounds of a range of integers. -/
def numericBounds? (v : List Char) : Option (Nat × Nat) := do
  let args ← arguments? ['b', 'e', 't', 'w', 'e', 'e', 'n'] v
  let (low, high) ← Text.cutAt ',' args
  some (← integer? low, ← integer? high)

/-- The two bounds of a range: the first comma ends the lower one. -/
def bounds? (v : List Char) : Option (List Char × List Char) := do
  let args ← arguments? ['b', 'e', 't', 'w', 'e', 'e', 'n'] v
  let (low, high) ← Text.cutAt ',' args
  if low.isEmpty || !isLine high then none else some (Text.trim low, Text.trim high)

/-- The pattern of a text comparison. -/
def pattern? (v : List Char) : Option (List Char) := do
  let args ← arguments? ['l', 'i', 'k', 'e'] v
  if args.contains ')' then none else some args

/-- The items of a list of values. -/
def items? (v : List Char) : Option (List (List Char)) := do
  let args ← arguments? ['i', 'n'] v
  if args.contains '\n' then none else splitTopLevel args

/-- The operand of a comparison. -/
def operand? (name : List Char) (v : List Char) : Option (List Char) := do
  let args ← arguments? name v
  if isLine args then some (Text.trim args) else none

/-- The words for a truth value, in small letters. -/
def truthWords : List (List Char × Bool) :=
  [(['t', 'r', 'u', 'e'], true), (['1'], true), (['y', 'e', 's'], true),
    (['f', 'a', 'l', 's', 'e'], false), (['n', 'o'], false), (['0'], false)]

/-- The truth value of a word. A word that is true only through a letter beyond ASCII is not
    taken for true. -/
def truth? (v : List Char) : Option Bool := do
  let args ← arguments? ['b', 'o', 'o', 'l'] v
  let (word, truth) ← truthWords.find? fun w => Text.afterWord w.1 args == some []
  some (truth && args.map Text.lowerAscii == word)

/-- The names of the operators that take arguments. -/
def operatorNames : List (List Char × Operator) :=
  [(['b', 'e', 't', 'w', 'e', 'e', 'n'], .between), (['l', 'i', 'k', 'e'], .like),
    (['i', 'n'], .oneOf), (['g', 't'], .gt), (['l', 't'], .lt), (['b', 'o', 'o', 'l'], .bool)]

/-- Whether a name ends where a text goes on: at the end, or at no word character. -/
def atBoundary : List Char → Bool
  | [] => true
  | c :: _ => !Text.isWord c

/-- The operator whose name a text begins with. A name written with a letter beyond ASCII counts
    as `$bool`. -/
def operator? (v : List Char) : Option Operator := do
  let rest ← Text.after? ['$'] v
  let (name, op) ← operatorNames.find? fun n =>
    match Text.afterWord n.1 rest with
    | some rest => atBoundary rest
    | none => false
  some (if (rest.take name.length).map Text.lowerAscii == name then op else .bool)

/-- The expression of a raw value. -/
def parse (raw : String) : Except MalformedOperator Filter :=
  let v := Text.trim raw.toList
  if let some (low, high) := numericBounds? v then .ok (.numericBetween low high)
  else if let some p := pattern? v then .ok (.like (String.ofList p))
  else if let some (low, high) := bounds? v then
    .ok (.between (String.ofList low) (String.ofList high))
  else if let some items := items? v then .ok (.oneOf (items.map String.ofList))
  else if let some x := operand? ['g', 't'] v then .ok (.gt (String.ofList x))
  else if let some x := operand? ['l', 't'] v then .ok (.lt (String.ofList x))
  else if isBare ['n', 'u', 'l', 'l'] v then .ok .isNull
  else if isBare ['n', 'e', 'n', 'u', 'l', 'l'] v then .ok .isNotNull
  else if let some truth := truth? v then .ok (.bool truth)
  else if let some op := operator? v then .error (.arguments op raw)
  else .ok (.literal raw)

/-- The condition of an expression; an empty list of values puts no condition. -/
def condition? : Filter → Except MalformedOperator (Option Condition)
  | .numericBetween low high => .ok (some (.range (.nat low) (.nat high)))
  | .like p => .ok (some (.like p))
  | .between low high => do
    let low ← normalize low
    let high ← normalize high
    .ok (some (.range low high))
  | .oneOf items => do
    if items.isEmpty then .ok none
    else
      let values ← normalizeAll items
      .ok (some (.oneOf values))
  | .gt x => do
    let x ← normalize x
    .ok (some (.gt x))
  | .lt x => do
    let x ← normalize x
    .ok (some (.lt x))
  | .isNull => .ok (some (.eq .null))
  | .isNotNull => .ok (some (.ne .null))
  | .bool truth => .ok (some (.eq (.nat (if truth then 1 else 0))))
  | .literal raw => do
    let x ← normalize raw
    .ok (some (.eq x))

end Filter

/-- The condition of a raw value, if it puts one. -/
def interpret (raw : String) : Except MalformedOperator (Option Condition) := do
  let f ← Filter.parse raw
  f.condition?

end Depot
