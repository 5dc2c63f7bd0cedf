import ExpenseLedger.Engine.Basic

/-!
# Balances behind a cache

A balance is read from the cache, and from the ledger if the cache has none, and is then put into
the cache. Loans go to the ledger first. Only then the entries of the users concerned are brought up
to date, side by side. Whatever goes wrong with an entry, the entry is dropped and nobody is told.
-/

namespace ExpenseLedger.Engine

variable {σ : Type} (b : Backends σ) (settings : EngineSettings)

/-! ## Reading -/

/-- Tries to drop the entry of a user. -/
def dropEntry (user : UserId) : Task (Engine σ) Unit := do
  let _ ← withDeadline settings.cacheUpdateTimeout (onStore (b.clear user))
  return ()

/-- Fills the entry of a user, and drops it if that fails. -/
def fillEntry (user : UserId) (balance : Balance) : Task (Engine σ) Unit := do
  match ← withDeadline settings.populateTimeout (onStore (b.populate user balance)) with
  | .ok _ => count .populate
  | .error _ =>
    count .populateFailure
    dropEntry b settings user

/-- The balance of a user after a miss: computed from the ledger and put into the cache. -/
def balanceFromLedger (user : UserId) : Task (Engine σ) (Except Error Balance) := do
  count .miss
  match ← onStore (b.computeBalance user) with
  | .error e => return .error e
  | .ok balance =>
    count .ledgerScan
    fillEntry b settings user balance
    return .ok balance

/-- The balance of a user. -/
def balanceOf (user : UserId) : Task (Engine σ) (Except Error Balance) := do
  match ← onStore (b.lookup user) with
  | .ok (.hit balance) =>
    count .hit
    return .ok balance
  | _ => balanceFromLedger b settings user

/-- The lines of a user's balance. -/
def balanceLinesOf (user : UserId) : Task (Engine σ) (Except Error (List BalanceEntry)) := do
  match ← balanceOf b settings user with
  | .error e => return .error e
  | .ok balance => return .ok balance.lines

/-! ## Recording loans -/

/-- Adds amounts to the entry of a user if there is one. -/
def tryUpdate (user : UserId) (deltas : List (UserId × Int)) :
    Task σ (Except Error Cache.DeltaOutcome) := do
  match ← b.hasEntry user with
  | .error e => return .error e
  | .ok false => return .ok .skipped
  | .ok true => b.applyDeltas user deltas

/-- Brings the entry of a user up to date, and drops it if that fails. -/
def updateEntry (user : UserId) (deltas : List (UserId × Int)) : Task (Engine σ) Unit := do
  match ← withDeadline settings.cacheUpdateTimeout (onStore (tryUpdate b user deltas)) with
  | .ok .applied => count .deltaUpdate
  | .ok .skipped => count .skippedUpdate
  | .error _ =>
    count .updateFailure
    dropEntry b settings user

/-- The users whose balances a batch of loans changes, and how: the lender's toward each debtor, and
each debtor's toward the lender. -/
def changes (lender : UserId) (amount : Int) (debtors : List UserId) :
    List (UserId × List (UserId × Int)) :=
  (lender, debtors.map fun d => (d, amount)) :: debtors.map fun d => (d, [(lender, -amount)])

/-- Brings the entries of all users up to date whose balances a batch of loans changes. -/
def updateEntries (lender : UserId) (amount : Int) (debtors : List UserId) :
    Task (Engine σ) Unit :=
  Task.all ((changes lender amount debtors).map fun c => updateEntry b settings c.1 c.2)

/-- The loans of one amount from a lender to each of some debtors. -/
def loansTo (lender : UserId) (amount : Int) (debtors : List UserId) : List Loan :=
  debtors.map fun d => ⟨lender, d, amount⟩

/-- Refuses a batch of loans that must not be recorded. -/
def checkBatch (lender : UserId) (amount : Int) (debtors : List UserId) : Except Error Unit :=
  if debtors.isEmpty then .error .noDebtors
  else if debtors.Nodup then Loan.checkAll (loansTo lender amount debtors)
  else .error .repeatedDebtors

/-- Records a loan of one amount to each of some debtors. -/
def addLoans (lender : UserId) (amount : Int) (debtors : List UserId) :
    Task (Engine σ) (Except Error (List LoanRecord)) := do
  match checkBatch lender amount debtors with
  | .error e => return .error e
  | .ok _ =>
    match ← onStore (b.append (loansTo lender amount debtors)) with
    | .error e => return .error e
    | .ok records =>
      updateEntries b settings lender amount debtors
      return .ok records

end ExpenseLedger.Engine
