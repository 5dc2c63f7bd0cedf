/-!
# Decimal integers within bounds

Reads an optional sign and ASCII digits as an integer between two bounds. The digits are taken from
left to right, so the first character at which the reading cannot go on decides what is wrong.
Written integers have no leading zeros and no plus sign.
-/

namespace ExpenseLedger.Text

/-- Why a text is no integer within the bounds. -/
inductive IntegerFlaw where
  /-- There is no character at all. -/
  | empty
  /-- A character is no digit, or a sign stands alone. -/
  | invalidDigit
  /-- The value lies above the upper bound. -/
  | tooLarge
  /-- The value lies below the lower bound. -/
  | tooSmall
deriving DecidableEq

/-- What a person is told about the flaw. -/
def IntegerFlaw.message : IntegerFlaw → String
  | .empty => "cannot parse integer from empty string"
  | .invalidDigit => "invalid digit found in string"
  | .tooLarge => "number too large to fit in target type"
  | .tooSmall => "number too small to fit in target type"

/-! ## Writing -/

/-- The decimal digits of a natural number. -/
def naturalChars (n : Nat) : List Char := Nat.toDigits 10 n

/-- The decimal digits of an integer, after a minus sign if it is negative. -/
def integerChars (a : Int) : List Char :=
  if a < 0 then '-' :: naturalChars a.natAbs else naturalChars a.natAbs

/-! ## Reading -/

/-- The value of an ASCII decimal digit. -/
def digit? (c : Char) : Option Nat :=
  if '0' ≤ c ∧ c ≤ '9' then some (c.toNat - 48) else none

/-- Goes on reading digits after `acc`, upwards to at most `hi`. -/
def readUpwards (hi : Int) (acc : Int) : List Char → Except IntegerFlaw Int
  | [] => .ok acc
  | c :: cs =>
    match digit? c with
    | none => .error .invalidDigit
    | some d => if acc * 10 + d ≤ hi then readUpwards hi (acc * 10 + d) cs else .error .tooLarge

/-- Goes on reading digits after `acc`, downwards to at least `lo`. -/
def readDownwards (lo : Int) (acc : Int) : List Char → Except IntegerFlaw Int
  | [] => .ok acc
  | c :: cs =>
    match digit? c with
    | none => .error .invalidDigit
    | some d => if lo ≤ acc * 10 - d then readDownwards lo (acc * 10 - d) cs else .error .tooSmall

/-- Reads an integer between `lo` and `hi`. A minus sign is a sign only if `lo` is negative. -/
def readInteger (lo hi : Int) : List Char → Except IntegerFlaw Int
  | [] => .error .empty
  | ['+'] => .error .invalidDigit
  | ['-'] => .error .invalidDigit
  | '+' :: cs => readUpwards hi 0 cs
  | '-' :: cs => if lo < 0 then readDownwards lo 0 cs else .error .invalidDigit
  | cs => readUpwards hi 0 cs

end ExpenseLedger.Text
