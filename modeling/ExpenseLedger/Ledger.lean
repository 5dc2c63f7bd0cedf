import ExpenseLedger.Balance
import ExpenseLedger.Loan

/-!
# The ledger of loans

An append-only list of loan records, the only source of truth. A batch of loans is recorded as a
whole or not at all, and a user's balance is the sum of the contributions of all records.
-/

namespace ExpenseLedger

/-- The recorded loans. -/
structure Ledger where
  /-- The records, in the order in which they were appended. -/
  records : List LoanRecord
  /-- How often balances have been computed. -/
  scans : Nat
  /-- The ledger is out of service. -/
  failing : Bool
deriving DecidableEq

namespace Ledger

/-- The ledger without records. -/
def empty : Ledger := ⟨[], 0, false⟩

/-! ## Appending -/

/-- The records of a batch of one time. Their identifiers have consecutive numbers from `first`
on. -/
def recordAll (first : Nat) (now : Timestamp) : List Loan → List LoanRecord
  | [] => []
  | l :: ls =>
    { toLoan := l, id := Id.ofNat first, createdAt := now } :: recordAll (first + 1) now ls

/-- Records a batch of loans if each of them is valid, and gives the records. -/
def append (loans : List Loan) (first : Nat) (now : Timestamp) (l : Ledger) :
    Except Error (List LoanRecord) × Ledger :=
  if l.failing then (.error .ledgerUnavailable, l)
  else
    match Loan.checkAll loans with
    | .error e => (.error e, l)
    | .ok () =>
      let batch := recordAll first now loans
      (.ok batch, { l with records := l.records ++ batch })

/-! ## Balances -/

/-- Adds a contribution to a user's balance, unless the net leaves the storable range. -/
def addContribution (user : UserId) (b : Balance) (c : UserId × Int) : Except Error Balance :=
  match Amount.add? (b.getD c.1 0) c.2 with
  | some net => .ok (b.insert c.1 net)
  | none => .error (.balanceOverflow user c.1)

/-- Adds the contributions of some records to a user's balance, from the first to the last. -/
def addRecords (user : UserId) (b : Balance) : List LoanRecord → Except Error Balance
  | [] => .ok b
  | r :: rs =>
    match r.contribution user with
    | none => addRecords user b rs
    | some c =>
      match addContribution user b c with
      | .error e => .error e
      | .ok b' => addRecords user b' rs

/-- The balance of a user after some records. -/
def aggregate (user : UserId) (records : List LoanRecord) : Except Error Balance :=
  addRecords user Table.empty records

/-- Computes the balance of a user. -/
def computeBalance (user : UserId) (l : Ledger) : Except Error Balance × Ledger :=
  if l.failing then (.error .ledgerUnavailable, l)
  else (aggregate user l.records, { l with scans := l.scans + 1 })

end Ledger

end ExpenseLedger
