import ExpenseLedger.Text.Blank
import ExpenseLedger.Text.Integer
import ExpenseLedger.Timestamp.Calendar

/-!
# Instants as text

An instant is written as date and time of day in universal time, with as many decimals of the second
as are needed in groups of three, and the letter `Z`. Reading is more lenient: any offset from
universal time, blanks between the parts, months and days of one digit, any number of decimals.
-/

namespace ExpenseLedger.Timestamp

/-! ## Writing -/

/-- The decimal digits of a number, with zeros in front up to a width. -/
def padded (width n : Nat) : List Char :=
  let ds := Text.naturalChars n
  List.replicate (width - ds.length) '0' ++ ds

/-- The digits of a year. A year that has not four digits gets a sign. -/
def yearChars (year : Int) : List Char :=
  if 0 ≤ year ∧ year ≤ 9999 then padded 4 year.natAbs
  else (if year < 0 then '-' else '+') :: padded 4 year.natAbs

/-- The decimals of a second: none, or three, six or nine of them. -/
def fractionChars (nano : Nat) : List Char :=
  if nano = 0 then []
  else if nano % 1000000 = 0 then '.' :: padded 3 (nano / 1000000)
  else if nano % 1000 = 0 then '.' :: padded 6 (nano / 1000)
  else '.' :: padded 9 nano

/-- The characters of an instant. -/
def chars (t : Timestamp) : List Char :=
  let date := Date.ofDays (t.second / 86400)
  let ofDay := (t.second % 86400).toNat
  let leap := t.nano / 1000000000
  yearChars date.year ++ '-' :: padded 2 date.month ++ '-' :: padded 2 date.day ++
    'T' :: padded 2 (ofDay / 3600) ++ ':' :: padded 2 (ofDay / 60 % 60) ++
    ':' :: padded 2 (ofDay % 60 + leap) ++ fractionChars (t.nano % 1000000000) ++ ['Z']

/-- The text of an instant. -/
def text (t : Timestamp) : String := String.ofList t.chars

/-! ## Reading the parts -/

/-- The character is an ASCII digit. -/
def isDigit (c : Char) : Bool := (Text.digit? c).isSome

/-- The natural number that some digits spell. -/
def digitsValue (ds : List Char) : Nat :=
  ds.foldl (fun n c => n * 10 + (Text.digit? c).getD 0) 0

/-- Reads the digits in front, at least one and at most so many. -/
def number? (most : Nat) (cs : List Char) : Option (Nat × List Char) :=
  let ds := (cs.takeWhile isDigit).take most
  if ds.isEmpty then none else some (digitsValue ds, cs.drop ds.length)

/-- Passes over one character. -/
def mark? (c : Char) : List Char → Option (List Char)
  | [] => none
  | d :: cs => if d = c then some cs else none

/-- Reads a number of one or two digits after blanks. -/
def two? (cs : List Char) : Option (Nat × List Char) := number? 2 (Text.dropBlanks cs)

/-- Reads a year: up to four digits, or any number of them after a sign. -/
def year? (cs : List Char) : Option (Int × List Char) :=
  match Text.dropBlanks cs with
  | '-' :: rest => (number? rest.length rest).map fun r => (-(r.1 : Int), r.2)
  | '+' :: rest => (number? rest.length rest).map fun r => ((r.1 : Int), r.2)
  | rest => (number? 4 rest).map fun r => ((r.1 : Int), r.2)

/-- Reads a date. -/
def date? (cs : List Char) : Option (Date × List Char) := do
  let (year, cs) ← year? cs
  let cs ← mark? '-' (Text.dropBlanks cs)
  let (month, cs) ← two? cs
  let cs ← mark? '-' (Text.dropBlanks cs)
  let (day, cs) ← two? cs
  return (⟨year, month, day⟩, cs)

/-- Passes over what stands between date and time. -/
def separator? : List Char → Option (List Char)
  | 'T' :: cs => some cs
  | 't' :: cs => some cs
  | ' ' :: cs => some cs
  | _ => none

/-- The nanoseconds that the decimals of a second spell. -/
def fractionValue (ds : List Char) : Nat :=
  digitsValue (ds.take 9) * Nat.pow 10 (9 - (ds.take 9).length)

/-- Reads the decimals of a second, if there are any. -/
def fraction? : List Char → Option (Nat × List Char)
  | '.' :: cs =>
    let ds := cs.takeWhile isDigit
    if ds.isEmpty then none else some (fractionValue ds, cs.drop ds.length)
  | cs => some (0, cs)

/-- A time of day. -/
structure Clock where
  /-- The hour. -/
  hour : Nat
  /-- The minute. -/
  minute : Nat
  /-- The second, which is 60 in a leap second. -/
  second : Nat
  /-- The nanosecond. -/
  nano : Nat
deriving DecidableEq

/-- The time of day exists. -/
def Clock.isValid (c : Clock) : Bool := c.hour ≤ 23 && c.minute ≤ 59 && c.second ≤ 60

/-- Reads a time of day. -/
def clock? (cs : List Char) : Option (Clock × List Char) := do
  let (hour, cs) ← two? cs
  let cs ← mark? ':' (Text.dropBlanks cs)
  let (minute, cs) ← two? cs
  let cs ← mark? ':' (Text.dropBlanks cs)
  let (second, cs) ← two? cs
  let (nano, cs) ← fraction? cs
  return (⟨hour, minute, second, nano⟩, cs)

/-- Passes over colons and blanks. -/
def dropColons (cs : List Char) : List Char := cs.dropWhile fun c => c = ':' || Text.isBlank c

/-- Reads hours and minutes, each of two digits, as seconds. -/
def hoursAndMinutes? : List Char → Option (Int × List Char)
  | h :: h' :: cs => do
    let hours := digitsValue [h, h']
    let (m, m', rest) ← match dropColons cs with
      | m :: m' :: rest => some (m, m', rest)
      | _ => none
    let minutes := digitsValue [m, m']
    if isDigit h && isDigit h' && isDigit m && isDigit m' && minutes ≤ 59 && hours ≤ 23 then
      return (((hours * 60 + minutes) * 60 : Nat), rest)
    else none
  | _ => none

/-- Reads an offset from universal time in seconds: `UTC` or `Z`, or a sign with hours and minutes,
where the sign may be the minus of mathematics. -/
def offset? (cs : List Char) : Option (Int × List Char) :=
  if (cs.take 3).map Char.toUpper = ['U', 'T', 'C'] then some (0, cs.drop 3)
  else
    match cs with
    | 'Z' :: rest => some (0, rest)
    | 'z' :: rest => some (0, rest)
    | '+' :: rest => hoursAndMinutes? rest
    | '-' :: rest => (hoursAndMinutes? rest).map fun r => (-r.1, r.2)
    | '−' :: rest => (hoursAndMinutes? rest).map fun r => (-r.1, r.2)
    | _ => none

/-! ## Reading instants -/

/-- The instant of a date and a time of day at an offset. A leap second belongs to the second before
it. -/
def ofParts (date : Date) (clock : Clock) (offset : Int) : Timestamp :=
  let ofDay : Nat := clock.hour * 3600 + clock.minute * 60 + min clock.second 59
  let leap := if clock.second = 60 then 1000000000 else 0
  ⟨date.toDays * 86400 + ofDay - offset, clock.nano + leap⟩

/-- The year of the instant can be told. -/
def inRange (t : Timestamp) : Bool :=
  let days := t.second / 86400
  Date.toDays ⟨Date.firstYear, 1, 1⟩ ≤ days && days ≤ Date.toDays ⟨Date.lastYear, 12, 31⟩

/-- Reads an instant. -/
def ofChars? (cs : List Char) : Option Timestamp := do
  let (date, cs) ← date? cs
  let cs ← separator? cs
  let (clock, cs) ← clock? cs
  let (offset, cs) ← offset? (Text.dropBlanks cs)
  let t := ofParts date clock offset
  if (Text.dropBlanks cs).isEmpty && date.isValid && clock.isValid && t.inRange then return t
  else none

/-- Reads an instant. -/
def ofText? (s : String) : Option Timestamp := ofChars? s.toList

end ExpenseLedger.Timestamp
