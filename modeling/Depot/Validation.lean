import Depot.Json.Inspect
import Depot.Model.Config
import Depot.Pattern.Parser

/-!
# Validation

The rules of an entity ask that columns be present and that their values have a form, a length, a
pattern, a place among given values, or a place in a range. A whole record is checked against
every rule; for an update only the fields that are present are checked.

* `validate`: the first rule that a whole record breaks.
* `validatePartial`: the first rule that the fields of an update break.

Results:
* `validate_cons`: a record passes rules exactly if it passes each of them.
-/

namespace Depot

/-- How a record breaks a rule. -/
inductive Violation
  | required (column : String)
  | email (column : String)
  | uuid (column : String)
  | tooLong (column : String) (limit : Nat)
  | tooShort (column : String) (limit : Nat)
  | invalidPattern (column : String)
  | noMatch (column : String)
  | notAllowed (column : String) (allowed : List Json)
  | tooSmall (column : String) (limit : Double)
  | tooLarge (column : String) (limit : Double)
  deriving DecidableEq

/-- How many of the allowed values a message shows. -/
def shownValues : Nat := 5

/-- The text of a bound in a message. -/
def boundText (d : Double) : String := String.ofList (Double.Layout.plain.render d)

/-- The wording of a violation. -/
def Violation.message : Violation → String
  | .required c => c ++ " is required"
  | .email c => c ++ " must be a valid email"
  | .uuid c => c ++ " must be a valid UUID"
  | .tooLong c n => c ++ " must be at most " ++ Nat.repr n ++ " characters"
  | .tooShort c n => c ++ " must be at least " ++ Nat.repr n ++ " characters"
  | .invalidPattern c => "invalid pattern for " ++ c
  | .noMatch c => c ++ " does not match required pattern"
  | .notAllowed c vs =>
    let shown := Json.commaSeparated ((vs.take shownValues).map Json.inspect)
    c ++ " must be one of: [" ++ String.ofList shown ++ "]"
  | .tooSmall c d => c ++ " must be at least " ++ boundText d
  | .tooLarge c d => c ++ " must be at most " ++ boundText d

namespace Validation

/-! ## Forms -/

/-- Whether all characters are hexadecimal digits. -/
def isHex (cs : List Char) : Bool := cs.all fun c => (Text.hexValue? c).isSome

/-- Hexadecimal digits in groups of the given lengths, between hyphens. -/
def isHexGroups : List Nat → List Char → Bool
  | [], cs => cs.isEmpty
  | [n], cs => cs.length == n && isHex cs
  | n :: ns, cs =>
    (cs.take n).length == n && isHex (cs.take n) &&
      match cs.drop n with
      | '-' :: rest => isHexGroups ns rest
      | _ => false

/-- A universally unique identifier: 32 digits, or 36 characters with hyphens, which may stand in
    braces or after `urn:uuid:` in any letter case. -/
def isUuid (cs : List Char) : Bool :=
  let hyphenated := isHexGroups [8, 4, 4, 4, 12]
  isHexGroups [32] cs || hyphenated cs ||
    (match cs with
      | '\x7b' :: rest => ((Text.before? '\x7d' rest).map hyphenated).getD false
      | _ => false) ||
    ((cs.take 9).map Text.lowerAscii == "urn:uuid:".toList && hyphenated (cs.drop 9))

/-- Checks a string against a named form; other names ask for nothing. -/
def checkFormat (column format s : String) : Except Violation Unit :=
  match Text.lowercase format with
  | "email" =>
    if s.toList.contains '@' && 3 ≤ s.utf8ByteSize then .ok () else .error (.email column)
  | "uuid" => if isUuid s.toList then .ok () else .error (.uuid column)
  | _ => .ok ()

/-! ## Values -/

/-- Equality with an allowed value: numbers are compared by value. -/
def sameValue : Json → Json → Bool
  | .num a, .num b => a.toDouble.eq b.toDouble
  | a, b => a.same b

/-- Fails with a violation unless a condition holds. -/
def ensure (ok : Bool) (v : Violation) : Except Violation Unit := if ok then .ok () else .error v

/-- A check that is made only if the rule asks for it. -/
def whenSome {α : Type} (a : Option α) (f : α → Except Violation Unit) : Except Violation Unit :=
  match a with
  | none => .ok ()
  | some a => f a

/-- Checks a string against a pattern. -/
def checkPattern (column s pattern : String) : Except Violation Unit :=
  match Pattern.parse? pattern.toList with
  | none => .error (.invalidPattern column)
  | some p => ensure (p.isMatch s) (.noMatch column)

/-- Checks what a rule says about strings. -/
def checkString (column : String) (rule : Rule) (s : String) : Except Violation Unit := do
  whenSome rule.maxLength fun n => ensure (s.length ≤ n) (.tooLong column n)
  whenSome rule.minLength fun n => ensure (n ≤ s.length) (.tooShort column n)
  whenSome rule.pattern fun p => checkPattern column s p

/-- Checks what a rule says about numbers. -/
def checkNumber (column : String) (rule : Rule) (d : Double) : Except Violation Unit := do
  whenSome rule.minimum fun m => ensure (!d.lt m) (.tooSmall column m)
  whenSome rule.maximum fun m => ensure (!m.lt d) (.tooLarge column m)

/-- Checks what a rule says about values of any kind. -/
def checkAllowed (column : String) (rule : Rule) (v : Json) : Except Violation Unit :=
  whenSome rule.allowed fun vs => ensure (vs.any (sameValue v)) (.notAllowed column vs)

/-- Checks a value that is there against a rule; null passes. -/
def checkValue (column : String) (rule : Rule) : Json → Except Violation Unit
  | .null => .ok ()
  | .str s => do
    whenSome rule.format fun f => checkFormat column f s
    checkString column rule s
    checkAllowed column rule (.str s)
  | .num n => do
    checkAllowed column rule (.num n)
    checkNumber column rule n.toDouble
  | v => checkAllowed column rule v

/-- Checks a column of a whole record against its rule. -/
def checkColumn (r : Record) (column : String) (rule : Rule) : Except Violation Unit :=
  match r.field? column with
  | none => ensure (rule.required != some true) (.required column)
  | some v => do
    ensure (!(rule.required == some true && v.isNull)) (.required column)
    checkValue column rule v

end Validation

open Validation in
/-- Checks a whole record against rules, in their order. -/
def validate (r : Record) : Fields Rule → Except Violation Unit
  | [] => .ok ()
  | (column, rule) :: rest => do
    checkColumn r column rule
    validate r rest

open Validation in
/-- Checks the fields of an update against the rules of their columns, in the order of the
    fields. -/
def validatePartial (rules : Fields Rule) : Record → Except Violation Unit
  | [] => .ok ()
  | (column, v) :: rest => do
    whenSome (rules.field? column) fun rule => do
      ensure (!(rule.required == some true && v.isNull)) (.required column)
      checkValue column rule v
    validatePartial rules rest

theorem validate_cons (r : Record) (column : String) (rule : Rule) (rest : Fields Rule) :
    validate r ((column, rule) :: rest) = .ok () ↔
      Validation.checkColumn r column rule = .ok () ∧ validate r rest = .ok () := by
  simp only [validate, bind, Except.bind]
  cases Validation.checkColumn r column rule <;> simp

end Depot
