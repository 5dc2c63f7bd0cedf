import ExpenseLedger.Amount

/-!
# Shares of an expense

An expense is split evenly between the members of a group, the payer among them. The share is the
quotient rounded to the nearest amount, a half going away from zero.
-/

namespace ExpenseLedger

/-- The share of each of `members` in a total. -/
def share (total : Int) (members : Nat) : Int :=
  if 0 ≤ total then Int.tdiv (total + (members / 2 : Nat)) members
  else Int.tdiv (total - (members / 2 : Nat)) members

/-- The share of each of `members` in a total, of whom there must be some. -/
def share? (total : Int) (members : Nat) : Option Int :=
  if members = 0 then none else some (share total members)

end ExpenseLedger
