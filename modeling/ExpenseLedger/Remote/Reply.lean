import ExpenseLedger.Cache.Fields

/-!
# Replies of a remote store

A reply that holds an error, however deep, tells nothing but that error. Any other reply is read
as what the request asked for, and cannot be read if it is of another form.
-/

namespace ExpenseLedger.Remote

/-- The replies. -/
inductive Reply where
  /-- There is nothing. -/
  | nothing
  /-- A number. -/
  | integer (value : Int)
  /-- A stored text. -/
  | text (value : String)
  /-- A word about what happened. -/
  | status (word : String)
  /-- A complaint, which opens with a word for its kind. -/
  | error (complaint : String)
  /-- Several replies. -/
  | list (items : List Reply)

namespace Reply

mutual

/-- The first complaint in a reply. -/
def complaint? : Reply → Option String
  | error complaint => some complaint
  | list items => firstComplaint? items
  | _ => none

/-- The first complaint in several replies. -/
def firstComplaint? : List Reply → Option String
  | [] => none
  | r :: rs =>
    match complaint? r with
    | some complaint => some complaint
    | none => firstComplaint? rs

end

/-- The store complains that it does not know the script. -/
def isScriptMissing (r : Reply) : Bool :=
  match r.complaint? with
  | none => false
  | some complaint => complaint.toList.takeWhile (· ≠ ' ') = "NOSCRIPT".toList

/-! ## Readings -/

/-- A reply as a text. -/
def text? : Reply → Option String
  | text value => some value
  | status word => some word
  | _ => none

/-- A reply as yes or no. -/
def flag? : Reply → Option Bool
  | nothing => some false
  | integer value => some (value ≠ 0)
  | text "1" => some true
  | text "0" => some false
  | status "1" => some true
  | status "0" => some false
  | status "OK" => some true
  | _ => none

/-- A reply as a number. -/
def integer? : Reply → Option Int
  | integer value => some value
  | text value => (Amount.ofText value).toOption
  | status word => (Amount.ofText word).toOption
  | _ => none

/-- Replies by twos as fields with their values. -/
def pairs? : List Reply → Option (List (String × String))
  | [] => some []
  | [_] => none
  | field :: value :: rest => do
    let field ← field.text?
    let value ← value.text?
    return (field, value) :: (← pairs? rest)

/-- A reply as the fields of a hash. -/
def fields? : Reply → Option Cache.Fields
  | nothing => some Table.empty
  | list items => (pairs? items).map Table.ofList
  | _ => none

/-- A reply as a marker and the fields of a hash. -/
def entry? : Reply → Option (Bool × Cache.Fields)
  | list [marked, fields] => do
    let marked ← marked.flag?
    let fields ← fields.fields?
    return (marked, fields)
  | _ => none

/-- What a request asked for, as a reply tells it. -/
def read {α : Type} (reading? : Reply → Option α) (r : Reply) : Except Error α :=
  match r.complaint? with
  | some complaint => .error (.reported .cache complaint)
  | none =>
    match reading? r with
    | some a => .ok a
    | none => .error (.reported .cache "unexpected reply")

end Reply

end ExpenseLedger.Remote
