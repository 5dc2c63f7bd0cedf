import ExpenseLedger.Wire

/-!
# Messages of the service

What clients send and what they get back. A message that a client sends obeys rules of its own,
which are checked before the engine sees it.
-/

namespace ExpenseLedger.Web

/-! ## Rules of requests -/

/-- The rules that a field can break. -/
inductive Rule where
  /-- A text or list is too short or too long. -/
  | length
  /-- A number is too small or too large. -/
  | range
deriving DecidableEq

/-- The code of a rule. -/
def Rule.code : Rule → String
  | length => "length"
  | range => "range"

/-- A field of a request that breaks a rule. -/
structure Breach where
  /-- The name of the field. -/
  field : String
  /-- The rule. -/
  rule : Rule
deriving DecidableEq

/-- What a client is told about a breach. -/
def Breach.message (b : Breach) : String := b.field ++ ": Validation error: " ++ b.rule.code

/-! ## Requests -/

/-- A request for a new group. -/
structure CreateGroup where
  /-- The name of the group. -/
  name : String
deriving DecidableEq

/-- A request for new members. -/
structure AddMembers where
  /-- The users. -/
  users : List UserId
deriving DecidableEq

/-- A request to share an expense. -/
structure ShareExpense where
  /-- The amount paid. -/
  amount : Int
deriving DecidableEq

/-- The name of a group has an allowed length, blanks around it included. -/
def CreateGroup.breach? (r : CreateGroup) : Option Breach :=
  let n := r.name.length
  if Engine.leastNameLength ≤ n ∧ n ≤ Engine.greatestNameLength then none
  else some ⟨"name", .length⟩

/-- Somebody is named. -/
def AddMembers.breach? (r : AddMembers) : Option Breach :=
  if r.users.isEmpty then some ⟨"ids", .length⟩ else none

/-- The amount is positive and not too large. -/
def ShareExpense.breach? (r : ShareExpense) : Option Breach :=
  if 1 ≤ r.amount ∧ r.amount ≤ Amount.limit then none else some ⟨"amount", .range⟩

/-- The name of the group. -/
instance : Wire CreateGroup where
  toJson r := Json.record [("name", toJson r.name)]
  ofJson? j := do
    match ← j.allFields? ["name"] with
    | [name] => return ⟨← ofJson? name⟩
    | _ => none

/-- The users. -/
instance : Wire AddMembers where
  toJson r := Json.record [("ids", toJson r.users)]
  ofJson? j := do
    match ← j.allFields? ["ids"] with
    | [users] => return ⟨← ofJson? users⟩
    | _ => none

/-- The amount. -/
instance : Wire ShareExpense where
  toJson r := Json.record [("amount", toJson r.amount)]
  ofJson? j := do
    match ← j.allFields? ["amount"] with
    | [amount] => return ⟨← ofJson? amount⟩
    | _ => none

/-! ## Answers -/

/-- The answer to a request for a balance. -/
structure BalanceAnswer where
  /-- The user whose balance it is. -/
  user : UserId
  /-- The lines of the balance. -/
  lines : List BalanceEntry
deriving DecidableEq

/-- The answer to a request for groups. -/
structure GroupsAnswer where
  /-- The groups. -/
  groups : List Group
deriving DecidableEq

/-- The answer to a request for members. -/
structure MembersAnswer where
  /-- The members. -/
  members : List UserId
deriving DecidableEq

/-- The user and the lines of the balance. -/
instance : Wire BalanceAnswer where
  toJson a := Json.record [("user_id", toJson a.user), ("balance", toJson a.lines)]
  ofJson? j := do
    match ← j.allFields? ["user_id", "balance"] with
    | [user, lines] => return ⟨← ofJson? user, ← ofJson? lines⟩
    | _ => none

/-- The groups. -/
instance : Wire GroupsAnswer where
  toJson a := Json.record [("groups", toJson a.groups)]
  ofJson? j := do
    match ← j.allFields? ["groups"] with
    | [groups] => return ⟨← ofJson? groups⟩
    | _ => none

/-- The members. -/
instance : Wire MembersAnswer where
  toJson a := Json.record [("members", toJson a.members)]
  ofJson? j := do
    match ← j.allFields? ["members"] with
    | [members] => return ⟨← ofJson? members⟩
    | _ => none

end ExpenseLedger.Web
