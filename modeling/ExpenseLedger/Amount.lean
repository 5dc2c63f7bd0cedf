import ExpenseLedger.Text.Integer

/-!
# Amounts of money

An amount is an integer number of minor units. Stored and added amounts lie within signed 64-bit
words; one loan or expense is at most `Amount.limit`, far below that, so that sums of loans have
room to grow.
-/

namespace ExpenseLedger.Amount

/-- The least amount that can be stored. -/
def lowest : Int := -9223372036854775808

/-- The greatest amount that can be stored. -/
def highest : Int := 9223372036854775807

/-- The greatest amount of a single loan or expense. -/
def limit : Int := 1000000000000

/-- The amount can be stored. -/
def Storable (a : Int) : Prop := lowest ≤ a ∧ a ≤ highest

instance (a : Int) : Decidable (Storable a) := inferInstanceAs (Decidable (_ ∧ _))

/-- The sum of two amounts, if it can be stored. -/
def add? (a b : Int) : Option Int := if Storable (a + b) then some (a + b) else none

/-- The decimal text of an amount. -/
def text (a : Int) : String := String.ofList (Text.integerChars a)

/-- Reads the decimal text of an amount that can be stored. -/
def ofText (s : String) : Except Text.IntegerFlaw Int :=
  Text.readInteger lowest highest s.toList

/-- A sum is stored exactly when it lies within the bounds. -/
theorem add?_eq_some_iff (a b c : Int) : add? a b = some c ↔ Storable (a + b) ∧ a + b = c := by
  unfold add?
  split <;> simp_all

/-- A sum is refused exactly when it leaves the bounds. -/
theorem add?_eq_none_iff (a b : Int) : add? a b = none ↔ ¬ Storable (a + b) := by
  unfold add?
  split <;> simp_all

end ExpenseLedger.Amount
