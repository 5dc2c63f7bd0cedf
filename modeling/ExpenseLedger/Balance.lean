import ExpenseLedger.Error
import ExpenseLedger.Table

/-!
# Balances

A balance holds a user's net amount toward each counterparty. A positive amount is owed to the user.
A counterparty with whom all is settled keeps its entry, with the amount zero.
-/

namespace ExpenseLedger

/-- The net amounts of one user toward the counterparties. -/
abbrev Balance : Type := Table UserId Int

/-- One line of a balance list. -/
structure BalanceEntry where
  /-- The counterparty. -/
  counterparty : UserId
  /-- The net amount. -/
  amount : Int
deriving DecidableEq

/-- The lines of a balance, in ascending order of the counterparties. -/
def Balance.lines (b : Balance) : List BalanceEntry :=
  b.entries.map fun e => ⟨e.1, e.2⟩

end ExpenseLedger
