import ExpenseLedger.Table
import ExpenseLedger.Text.Digest

/-!
# The tally of requests

Counts of answered requests by route and status, of shared expenses and of the loans recorded for
them. A route and a status are told from others by the digest of their joined texts, and are shown
as they were when they were counted first.
-/

namespace ExpenseLedger.Web

/-- How many requests on a route were answered with a status. -/
structure RequestCount where
  /-- The name of the route. -/
  route : String
  /-- The text of the status. -/
  status : String
  /-- The number of requests. -/
  count : Nat
deriving DecidableEq

namespace RequestCount

/-- Counts are shown in ascending order of their routes, then of their statuses. -/
def isBefore (a b : RequestCount) : Bool :=
  a.route < b.route || (a.route = b.route && !decide (b.status < a.status))

/-- One more request. -/
def next (c : RequestCount) : RequestCount := { c with count := c.count + 1 }

end RequestCount

/-- What has been counted. -/
structure Tally where
  /-- Requests by the digest of their route and status. -/
  requests : Table UInt64 RequestCount
  /-- Shared expenses. -/
  expenses : Nat
  /-- Loans recorded for shared expenses. -/
  loans : Nat
deriving DecidableEq

namespace Tally

/-- Nothing has been counted. -/
def zero : Tally := ⟨Table.empty, 0, 0⟩

/-- The digest that a route and a status are told from others by. -/
def requestKey (route : String) (status : Nat) : UInt64 :=
  Text.digest (route.toList ++ (toString status).toList)

/-- Counts a request. -/
def countRequest (t : Tally) (route : String) (status : Nat) : Tally :=
  let key := requestKey route status
  let seen := t.requests.getD key ⟨route, toString status, 0⟩
  { t with requests := t.requests.insert key seen.next }

/-- The requests by route and status, in ascending order of both texts. -/
def requestCounts (t : Tally) : List RequestCount :=
  t.requests.values.mergeSort RequestCount.isBefore

/-- Counts a shared expense and its loans. -/
def countExpense (t : Tally) (loans : Nat) : Tally :=
  { t with expenses := t.expenses + 1, loans := t.loans + loans }

end Tally

end ExpenseLedger.Web
