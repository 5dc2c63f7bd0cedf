import ExpenseLedger.Json.Basic

/-!
# The binary64 value of a number

The value is that of the leading digits that fit into 64 bits, scaled by a power of ten in binary64
arithmetic. A value beyond the greatest binary64 number is none.
-/

namespace ExpenseLedger.JsonNumber

/-- The digits of a number as they are read: the number of those kept, the power of ten that
stands for those dropped, and whether digits are being dropped. -/
structure Leading where
  /-- The number of the digits kept. -/
  significand : Nat
  /-- The power of ten. -/
  exponent : Int
  /-- Digits are being dropped. -/
  full : Bool

/-- The number with one more digit fits into 64 bits. -/
def hasRoom (significand digit : Nat) : Bool := significand * 10 + digit < 18446744073709551616

/-- Reads a digit before the point. -/
def Leading.addWhole (l : Leading) (digit : Nat) : Leading :=
  if !l.full && hasRoom l.significand digit then
    { l with significand := l.significand * 10 + digit }
  else { l with exponent := l.exponent + 1, full := true }

/-- Reads a digit after the point. -/
def Leading.addFraction (l : Leading) (digit : Nat) : Leading :=
  if !l.full && hasRoom l.significand digit then
    { l with significand := l.significand * 10 + digit, exponent := l.exponent - 1 }
  else { l with full := true }

/-- The decimal digits of a natural number. -/
def wholeDigits (n : Nat) : List Nat := (Nat.toDigits 10 n).map fun c => c.toNat - 48

/-- The leading digits of a number, scaled by its power of ten. -/
def leading (n : JsonNumber) : Leading :=
  let whole := (wholeDigits n.whole).foldl Leading.addWhole ⟨0, 0, false⟩
  let digits := (n.fraction.getD []).map (·.val)
  let all := digits.foldl Leading.addFraction { whole with full := false }
  { all with exponent := all.exponent + n.exponent.getD 0 }

/-- The binary64 number nearest to a power of ten. -/
def tenTo (n : Nat) : Float := Float.ofScientific 1 false n

/-- Scales by a power of ten in steps of at most 308, of which three bring everything to zero. -/
def scale? : Nat → Float → Int → Option Float
  | 0, x, _ => some x
  | steps + 1, x, exponent =>
    if exponent.natAbs ≤ 308 then
      if 0 ≤ exponent then
        let y := x * tenTo exponent.natAbs
        if y.isInf then none else some y
      else some (x / tenTo exponent.natAbs)
    else if x == 0.0 then some x
    else if 0 ≤ exponent then none
    else scale? steps (x / tenTo 308) (exponent + 308)

/-- The binary64 value of a number, unless it is too large. -/
def toFloat? (n : JsonNumber) : Option Float :=
  let l := n.leading
  (scale? 4 (UInt64.ofNat l.significand).toFloat l.exponent).map fun x =>
    if n.negative then -x else x

end ExpenseLedger.JsonNumber
