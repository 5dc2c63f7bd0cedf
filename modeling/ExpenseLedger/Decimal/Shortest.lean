/-!
# Shortest decimals

Every binary64 number stands for an interval of reals: those that round to it. Its shortest decimal
is the one with the fewest digits within that interval, and of those the nearest to the number, a
tie going up. The search is exact arithmetic on naturals: on each decimal grid, from the coarsest to
the finest, it tests the two neighbours of the number.
-/

namespace ExpenseLedger.Decimal

/-- A finite number without sign, as a significand times a power of two. -/
structure Binary where
  /-- The significand. -/
  significand : Nat
  /-- The power of two. -/
  exponent : Int
  /-- The next number below is half as far away as the next above. -/
  narrowBelow : Bool

/-- The number that the bits of a finite binary64 number encode, without its sign. -/
def Binary.ofBits (bits : UInt64) : Binary :=
  let exponent := ((bits >>> 52) &&& 0x7ff).toNat
  let fraction := (bits &&& 0xfffffffffffff).toNat
  if exponent = 0 then ⟨fraction, -1074, false⟩
  else ⟨Nat.pow 2 52 + fraction, exponent - 1075, fraction = 0 && 1 < exponent⟩

/-- The number `digits * 10 ^ exponent`. -/
structure Digits where
  /-- The digits. -/
  digits : Nat
  /-- The power of ten. -/
  exponent : Int
deriving DecidableEq

/-- A quarter of the number's unit in the last place, in units of the grid `10 ^ exponent`, as a
numerator and a denominator. -/
def Binary.quarter (x : Binary) (exponent : Int) : Nat × Nat :=
  let q := x.exponent - 2
  (Nat.pow 2 q.toNat * Nat.pow 10 (-exponent).toNat,
    Nat.pow 2 (-q).toNat * Nat.pow 10 exponent.toNat)

/-- The multiple of the grid lies among the reals that round to the number. -/
def Binary.readsBack (x : Binary) (exponent : Int) (multiple : Nat) : Bool :=
  let (numerator, denominator) := x.quarter exponent
  let least := (if x.narrowBelow then 4 * x.significand - 1 else 4 * x.significand - 2) * numerator
  let greatest := (4 * x.significand + 2) * numerator
  let value := multiple * denominator
  if x.significand % 2 = 0 then least ≤ value && value ≤ greatest
  else least < value && value < greatest

/-- The multiple of the grid nearest to the number of those that read back. -/
def Binary.onGrid? (x : Binary) (exponent : Int) : Option Nat :=
  let (numerator, denominator) := x.quarter exponent
  let value := 4 * x.significand * numerator
  let below := value / denominator
  let nearerBelow := 2 * value < (2 * below + 1) * denominator
  match 0 < below && x.readsBack exponent below, x.readsBack exponent (below + 1) with
  | true, true => some (if nearerBelow then below else below + 1)
  | true, false => some below
  | false, true => some (below + 1)
  | false, false => none

/-- Searches grid after grid, from `10 ^ exponent` to finer ones. -/
def Binary.search (x : Binary) : Nat → Int → Digits
  | 0, exponent => ⟨0, exponent⟩
  | steps + 1, exponent =>
    match x.onGrid? exponent with
    | some multiple => ⟨multiple, exponent⟩
    | none => x.search steps (exponent - 1)

/-- The shortest decimal of a number: all of them lie between `10 ^ 309` and `10 ^ (-324)`. -/
def Binary.shortest (x : Binary) : Digits :=
  if x.significand = 0 then ⟨0, 0⟩ else x.search 640 309

/-- The characters of a decimal, without a power of ten. -/
def Digits.chars (d : Digits) : List Char :=
  let ds := Nat.toDigits 10 d.digits
  if 0 ≤ d.exponent then
    if d.digits = 0 then ['0'] else ds ++ List.replicate d.exponent.toNat '0'
  else
    let places := (-d.exponent).toNat
    let padded := List.replicate (places + 1 - ds.length) '0' ++ ds
    padded.take (padded.length - places) ++ '.' :: padded.drop (padded.length - places)

/-- The shortest decimal text of a finite number, without a power of ten. -/
def text (x : Float) : String :=
  let digits := (Binary.ofBits x.toBits).shortest.chars
  String.ofList (if x.toBits >>> 63 = 1 then '-' :: digits else digits)

end ExpenseLedger.Decimal
