import ExpenseLedger.Engine.Expenses
import ExpenseLedger.Json.Fields
import ExpenseLedger.Timestamp.Text

/-!
# Wire forms

How the values that clients see are written as JSON and read back.
-/

namespace ExpenseLedger

/-- Values with a JSON form. -/
class Wire (α : Type) where
  /-- The JSON form of a value. -/
  toJson : α → Json
  /-- Reads a value from its JSON form. -/
  ofJson? : Json → Option α

export Wire (toJson ofJson?)

/-! ## Single values -/

/-- An identifier is its text. -/
instance : Wire Id where
  toJson a := Json.text a.text
  ofJson? j := j.toText?.bind Id.ofText?

/-- A user is the text of the identifier. -/
instance : Wire UserId where
  toJson u := Json.text u.text
  ofJson? j := j.toText?.bind UserId.ofText?

/-- A group identifier is its text. -/
instance : Wire GroupId where
  toJson g := Json.text g.text
  ofJson? j := j.toText?.bind GroupId.ofText?

/-- A text is a string. -/
instance : Wire String where
  toJson s := Json.text s
  ofJson? j := j.toText?

/-- An amount is a number without point and power. -/
instance : Wire Int where
  toJson a := Json.int a
  ofJson? j := j.intBetween? Amount.lowest Amount.highest

/-- An instant is its text. -/
instance : Wire Timestamp where
  toJson t := Json.text t.text
  ofJson? j := j.toText?.bind Timestamp.ofText?

/-- A list is a list. -/
instance {α : Type} [Wire α] : Wire (List α) where
  toJson l := Json.list (l.map toJson)
  ofJson? j := j.toList?.bind fun items => items.mapM ofJson?

/-! ## Loans -/

/-- The fields of a loan. -/
instance : Wire Loan where
  toJson l := Json.record
    [("lender", toJson l.lender), ("debtor", toJson l.debtor), ("amount", toJson l.amount)]
  ofJson? j := do
    match ← j.allFields? ["lender", "debtor", "amount"] with
    | [lender, debtor, amount] =>
      return ⟨← ofJson? lender, ← ofJson? debtor, ← ofJson? amount⟩
    | _ => none

/-- The fields of a loan record. -/
instance : Wire LoanRecord where
  toJson r := Json.record
    [("id", toJson r.id), ("lender", toJson r.lender), ("debtor", toJson r.debtor),
      ("amount", toJson r.amount), ("created_at", toJson r.createdAt)]
  ofJson? j := do
    match ← j.allFields? ["id", "lender", "debtor", "amount", "created_at"] with
    | [id, lender, debtor, amount, createdAt] =>
      return ⟨⟨← ofJson? lender, ← ofJson? debtor, ← ofJson? amount⟩, ← ofJson? id,
        ← ofJson? createdAt⟩
    | _ => none

/-- The fields of a line of a balance list. -/
instance : Wire BalanceEntry where
  toJson e := Json.record [("user_id", toJson e.counterparty), ("balance", toJson e.amount)]
  ofJson? j := do
    match ← j.allFields? ["user_id", "balance"] with
    | [counterparty, amount] => return ⟨← ofJson? counterparty, ← ofJson? amount⟩
    | _ => none

/-! ## Groups and expenses -/

/-- The members that write a group. -/
def Group.members (g : Group) : List (String × Json) :=
  [("id", toJson g.id), ("name", toJson g.name), ("owner_id", toJson g.owner),
    ("created_at", toJson g.createdAt)]

/-- The names of the fields of a group. -/
def Group.fieldNames : List String := ["id", "name", "owner_id", "created_at"]

/-- Reads a group from the values of its fields. -/
def Group.ofFields? : List Json → Option Group
  | [id, name, owner, createdAt] => do
    return ⟨← ofJson? id, ← ofJson? name, ← ofJson? owner, ← ofJson? createdAt⟩
  | _ => none

/-- The fields of a group. -/
instance : Wire Group where
  toJson g := Json.record g.members
  ofJson? j := do Group.ofFields? (← j.allFields? Group.fieldNames)

/-- How deeply the values that stand beside the members of a group may be nested. -/
def GroupInfo.greatestDepth : Nat := 126

/-- The fields of a group, and its members beside them. It is read from an object alone, and what
stands beside the members must be sound even where it is ignored. -/
instance : Wire GroupInfo where
  toJson i := Json.record (i.group.members ++ [("members", toJson i.members)])
  ofJson? j := do
    match j with
    | .object members =>
      let beside := members.filter fun m => m.1 ≠ some "members"
      if beside.all fun m => m.2.isSound GroupInfo.greatestDepth then
        let users ← (← Json.fieldsOfObject? ["members"] members).mapM id
        let group ← Group.ofFields? (← j.allFields? Group.fieldNames)
        match users with
        | [users] => return ⟨group, ← ofJson? users⟩
        | _ => none
      else none
    | _ => none

/-- The fields of a shared expense. -/
instance : Wire Expense where
  toJson e := Json.record
    [("group_id", toJson e.group), ("payer_id", toJson e.payer), ("total_amount", toJson e.total),
      ("share", toJson e.share), ("debtors", toJson e.debtors), ("loans", toJson e.loans)]
  ofJson? j := do
    match ← j.allFields? ["group_id", "payer_id", "total_amount", "share", "debtors", "loans"] with
    | [group, payer, total, share, debtors, loans] =>
      return ⟨← ofJson? group, ← ofJson? payer, ← ofJson? total, ← ofJson? share,
        ← ofJson? debtors, ← ofJson? loans⟩
    | _ => none

end ExpenseLedger
