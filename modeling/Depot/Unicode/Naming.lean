import Depot.Text.Case
import Depot.Unicode.Age
import Depot.Unicode.Boundary

/-!
# Names of properties

A property, a category, a script or a kind of break is asked for by a name. Names are compared
loosely: letter case, blanks, hyphens, low lines and a leading `is` do not count.

* `looseForm`: what counts of a name.
* `named?`: the set of a name that stands alone.
* `valued?`: the set of a name and a value.

Results:
* `looseForm_of_plain`: a name of which everything counts is its own loose form.
-/

namespace Depot.Unicode

/-- Whether a character of a name counts. -/
def counts (c : Char) : Bool := c.toNat < 0x80 && c != ' ' && c != '_' && c != '-'

/-- What is left of a name without a leading `is`, and whether there was one. -/
def withoutIs : List Char → List Char × Bool
  | i :: s :: rest =>
    if Text.lowerAscii i = 'i' ∧ Text.lowerAscii s = 's' then (rest, true)
    else (i :: s :: rest, false)
  | name => (name, false)

/-- What counts of a name. The name `isc` means a property of its own, and not `c`. -/
def looseForm (name : List Char) : List Char :=
  let (rest, cut) := withoutIs name
  let form := (rest.filter counts).map Text.lowerAscii
  if cut && form == ['c'] then ['i', 's', 'c'] else form

/-- Whether a name of the tables has a loose form. -/
def hasForm (form : List Char) (name : String) : Bool := looseForm name.toList == form

/-- The set in a table whose names have a loose form. -/
def lookup? (form : List Char) (table : List (List String × CharSet)) : Option CharSet :=
  (table.find? fun e => e.1.any (hasForm form)).map (·.2)

/-- The set of a category or of a group of categories. -/
def category? (form : List Char) : Option CharSet :=
  if form == "any".toList then some .all
  else if form == "assigned".toList then some (Category.set .sixteenth .unassigned).compl
  else if form == "ascii".toList then some (.range 0 0x7F)
  else match (Category.unassigned :: Category.assigned).find? (·.names.any (hasForm form)) with
    | some c => some (c.set .sixteenth)
    | none => (Category.groups.find? fun g => g.1.any (hasForm form)).map fun g =>
        Category.sets .sixteenth g.2

/-- The set of a script. -/
def script? (form : List Char) : Option CharSet :=
  (Script.named? (hasForm form)).map Script.set

/-- The forms that are short both for a category and for a property without a set. -/
def shortCategories : List (List Char) := ["cf".toList, "sc".toList, "lc".toList]

/-- The set of a name that stands alone: of a property, a category or a script. -/
def named? (name : List Char) : Option CharSet :=
  let form := looseForm name
  let property := if shortCategories.contains form then none else lookup? form properties
  property.or ((category? form).or (script? form))

/-- The set of a property that has values, for one of them. -/
def valued? (name value : List Char) : Option CharSet :=
  let is := fun (names : List String) => names.any (hasForm (looseForm name))
  let form := looseForm value
  if is ["General_Category", "gc"] then category? form
  else if is ["Script", "sc"] then script? form
  else if is ["Script_Extensions", "scx"] then
    (Script.named? (hasForm form)).map Script.extendedSet
  else if is ["Age"] then age? (hasForm form)
  else if is ["Grapheme_Cluster_Break", "GCB"] then lookup? form clusterBreaks
  else if is ["Word_Break", "WB"] then lookup? form wordBreaks
  else if is ["Sentence_Break", "SB"] then lookup? form sentenceBreaks
  else none

theorem looseForm_of_plain {name : List Char} (hcut : withoutIs name = (name, false))
    (h : ∀ c ∈ name, counts c = true ∧ Text.lowerAscii c = c) : looseForm name = name := by
  have hfilter : name.filter counts = name := List.filter_eq_self.2 fun c hc => (h c hc).1
  have hmap : name.map Text.lowerAscii = name := by
    rw [List.map_congr_left fun c hc => (h c hc).2, List.map_id']
  simp [looseForm, hcut, hfilter, hmap]

end Depot.Unicode
