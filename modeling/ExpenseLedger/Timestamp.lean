/-!
# Instants

An instant counts seconds from the beginning of 1970 in universal time, and nanoseconds within the
second. A nanosecond count of a whole second or more belongs to a leap second.
-/

namespace ExpenseLedger

/-- An instant. -/
structure Timestamp where
  /-- Whole seconds since the beginning of 1970, without leap seconds. -/
  second : Int
  /-- Nanoseconds since that second began. -/
  nano : Nat
deriving DecidableEq

namespace Timestamp

/-- The first instant is no later than the second. -/
def le (a b : Timestamp) : Bool :=
  a.second < b.second || (a.second = b.second && a.nano ≤ b.nano)

/-- The instant one nanosecond later. -/
def tick (t : Timestamp) : Timestamp :=
  if t.nano + 1 < 1000000000 then ⟨t.second, t.nano + 1⟩ else ⟨t.second + 1, 0⟩

/-- Any two instants can be compared. -/
theorem le_total (a b : Timestamp) : (a.le b || b.le a) = true := by
  simp only [le, Bool.or_eq_true, Bool.and_eq_true, decide_eq_true_eq]
  omega

/-- Later than later is later. -/
theorem le_trans (a b c : Timestamp) (hab : a.le b = true) (hbc : b.le c = true) :
    a.le c = true := by
  simp only [le, Bool.or_eq_true, Bool.and_eq_true, decide_eq_true_eq] at *
  omega

end Timestamp

end ExpenseLedger
