import ExpenseLedger.Json.Decimal
import ExpenseLedger.Json.Text

/-!
# Fields of objects

A structure is written as an object with one member per field. It is read from an object whose
members come in any order, each field at most once and others ignored, or from a list that gives the
fields in their order.
-/

namespace ExpenseLedger.Json

/-- The values that members give to a name, in their order. -/
def valuesOf (name : String) (members : List (Option String × Json)) : List Json :=
  members.filterMap fun m => if m.1 = some name then some m.2 else none

/-- The value that members give to a name, if they give one. Two are too many. -/
def field? (name : String) (members : List (Option String × Json)) : Option (Option Json) :=
  match valuesOf name members with
  | [] => some none
  | [v] => some (some v)
  | _ => none

/-- The values of named fields, where they have one. All names of an object must have text. -/
def fieldsOfObject? (names : List String) (members : List (Option String × Json)) :
    Option (List (Option Json)) :=
  if members.all fun m => m.1.isSome then names.mapM fun n => field? n members else none

/-- The values of named fields in an object, or in a list that has one item for each. -/
def fields? (names : List String) : Json → Option (List (Option Json))
  | list items => if items.length = names.length then some (items.map some) else none
  | object members => fieldsOfObject? names members
  | _ => none

/-- The values of named fields of which none may be missing. -/
def allFields? (names : List String) (j : Json) : Option (List Json) := do
  (← fields? names j).mapM id

/-- The integer between two bounds that a number is. -/
def intBetween? (lowest highest : Int) (j : Json) : Option Int := do
  let a ← j.toInt?
  if lowest ≤ a ∧ a ≤ highest then some a else none

/-- The items of a list. -/
def toList? : Json → Option (List Json)
  | list items => some items
  | _ => none

/-- The value has a binary64 value, or is a text, word, list or object of such values, nested no
deeper than `depth`. -/
def isSound (depth : Nat) (j : Json) : Bool := isPlain (fun n => n.toFloat?.isSome) depth j

end ExpenseLedger.Json
