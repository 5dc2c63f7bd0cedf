import ExpenseLedger.Engine.Balances
import ExpenseLedger.Engine.Groups
import ExpenseLedger.Share

/-!
# Sharing expenses

Every member of a group, the payer included, bears an equal share of an expense. Each of the others
then owes the payer one share.
-/

namespace ExpenseLedger

/-- An expense and what became of it. -/
structure Expense where
  /-- The group that shares it. -/
  group : GroupId
  /-- The member who paid. -/
  payer : UserId
  /-- The amount paid. -/
  total : Int
  /-- The share of each member. -/
  share : Int
  /-- The members who owe the payer a share. -/
  debtors : List UserId
  /-- The loans recorded. -/
  loans : List LoanRecord
deriving DecidableEq

namespace Engine

variable {σ : Type} (b : Backends σ) (settings : EngineSettings)

/-- Refuses the amount of an expense. -/
def checkExpense (total : Int) : Except Error Unit :=
  if total ≤ 0 then .error (.expenseNotPositive total)
  else if Amount.limit < total then .error (.expenseTooLarge total)
  else .ok ()

/-- The debtors of an expense of a group, and the share of each. -/
def split (payer : UserId) (total : Int) (members : List UserId) :
    Except Error (List UserId × Int) :=
  let debtors := members.filter fun m => m ≠ payer
  if members.length < 2 then .error .groupTooSmall
  else if debtors.length = members.length then .error .payerNotMember
  else if share total members.length ≤ 0 then .error (.shareVanishes total members.length)
  else .ok (debtors, share total members.length)

/-- Shares an expense between the members of a group. -/
def shareExpense (payer : UserId) (total : Int) (group : GroupId) :
    Task (Engine σ) (Except Error Expense) := do
  match checkExpense total with
  | .error e => return .error e
  | .ok _ =>
    match ← onStore (resolveMembers b group) with
    | .error e => return .error e
    | .ok members =>
      match split payer total members with
      | .error e => return .error e
      | .ok (debtors, share) =>
        match ← addLoans b settings payer share debtors with
        | .error e => return .error e
        | .ok loans => return .ok ⟨group, payer, total, share, debtors, loans⟩

end Engine

end ExpenseLedger
