import ExpenseLedger.Error
import ExpenseLedger.Timestamp

/-!
# Loans

A loan says that a debtor owes a lender an amount. Once recorded it has an identifier and a creation
time. To the balance of either party it contributes the amount, counted positive for the lender.
-/

namespace ExpenseLedger

/-- A loan that is not recorded yet. -/
structure Loan where
  /-- The user who lent. -/
  lender : UserId
  /-- The user who owes. -/
  debtor : UserId
  /-- The amount lent. -/
  amount : Int
deriving DecidableEq

/-- A recorded loan. -/
structure LoanRecord extends Loan where
  /-- The identifier of the record. -/
  id : Id
  /-- When it was recorded. -/
  createdAt : Timestamp
deriving DecidableEq

namespace Loan

/-- The rules that every recorded loan obeys. -/
def Valid (l : Loan) : Prop := 0 < l.amount ∧ l.amount ≤ Amount.limit ∧ l.lender ≠ l.debtor

instance (l : Loan) : Decidable l.Valid := inferInstanceAs (Decidable (_ ∧ _))

/-- Refuses a loan that breaks a rule, for the first rule that it breaks. -/
def check (l : Loan) : Except Error Unit :=
  if l.amount ≤ 0 then .error (.loanNotPositive l.amount)
  else if Amount.limit < l.amount then .error (.loanTooLarge l.amount)
  else if l.lender = l.debtor then .error (.loanToSelf l.lender)
  else .ok ()

/-- A loan passes the check exactly when it is valid. -/
theorem check_eq_ok_iff (l : Loan) : l.check = .ok () ↔ l.Valid := by
  unfold check Valid
  split
  · rename_i h
    simp only [reduceCtorEq, false_iff]
    omega
  · split
    · rename_i h
      simp only [reduceCtorEq, false_iff]
      omega
    · split
      · rename_i h
        simp [h]
      · rename_i h
        simp only [ne_eq, h, not_false_eq_true, and_true, true_iff]
        omega

/-- Checks loans from the first to the last. -/
def checkAll : List Loan → Except Error Unit
  | [] => .ok ()
  | l :: ls =>
    match l.check with
    | .error e => .error e
    | .ok () => checkAll ls

/-- A list passes exactly when each of its loans is valid. -/
theorem checkAll_eq_ok_iff (ls : List Loan) : checkAll ls = .ok () ↔ ∀ l ∈ ls, l.Valid := by
  induction ls with
  | nil => simp [checkAll]
  | cons l ls ih =>
    unfold checkAll
    cases h : l.check with
    | error e =>
      simp only [reduceCtorEq, List.mem_cons, forall_eq_or_imp, false_iff, not_and]
      intro hv
      rw [(check_eq_ok_iff l).2 hv] at h
      cases h
    | ok u =>
      simp [ih, (check_eq_ok_iff l).1 h]

/-- What the loan adds to a user's balance, and toward whom. -/
def contribution (l : Loan) (owner : UserId) : Option (UserId × Int) :=
  if l.lender = owner then some (l.debtor, l.amount)
  else if l.debtor = owner then some (l.lender, -l.amount)
  else none

end Loan

end ExpenseLedger
