import ExpenseLedger.Decimal.Shortest
import ExpenseLedger.Settings.Source

/-!
# Values that convert

In a layer of settings a value may be of another type than the setting it is for. Numbers are read
from text, words of consent and fractions, truth values from words and numbers, and texts from every
single value.
-/

namespace ExpenseLedger

/-- A value in a layer of settings. -/
inductive SettingValue where
  /-- No value. -/
  | nil
  /-- A truth value. -/
  | bool (b : Bool)
  /-- An integer that can be stored. -/
  | int (a : Int)
  /-- Any other number. -/
  | float (x : Float)
  /-- A text. -/
  | text (s : String)
  /-- A list of values. -/
  | list (items : List SettingValue)
  /-- Values by name, each name once. -/
  | table (entries : List (String × SettingValue))

namespace SettingValue

instance : Inhabited SettingValue := ⟨nil⟩

/-! ## Tables -/

/-- The value that entries give to a name. -/
def find (name : String) : List (String × SettingValue) → Option SettingValue
  | [] => none
  | (k, v) :: rest => if k = name then some v else find name rest

/-- Gives a name a value, in place of the one it may have. -/
def put (name : String) (value : SettingValue) :
    List (String × SettingValue) → List (String × SettingValue)
  | [] => [(name, value)]
  | (k, v) :: rest => if k = name then (name, value) :: rest else (k, v) :: put name value rest

/-- The entries of a table; anything else has none. -/
def entries : SettingValue → List (String × SettingValue)
  | table es => es
  | _ => []

/-- The items of a list; anything else has none. -/
def items : SettingValue → List SettingValue
  | list vs => vs
  | _ => []

/-! ## Conversions -/

/-- The word as a truth value: consent or refusal, in any case of letters. -/
def wordOf? (s : String) : Option Bool :=
  let word := String.ofList (s.toList.map Char.toLower)
  if word = "true" || word = "on" || word = "yes" then some true
  else if word = "false" || word = "off" || word = "no" then some false
  else none

/-- The natural number nearest to a number, within a word of 64 bits. -/
def nearestNatural (x : Float) : Nat := x.round.toUInt64.toNat

/-- The natural number of 64 bits that a value is read as. -/
def word64? : SettingValue → Option Nat
  | bool b => some b.toNat
  | int a => if 0 ≤ a then some a.toNat else none
  | float x => some (nearestNatural x)
  | text s =>
    match wordOf? s with
    | some b => some b.toNat
    | none =>
      match Text.readInteger 0 18446744073709551615 s.toList with
      | .ok a => some a.toNat
      | .error _ => none
  | _ => none

/-- The natural number of so many bits that a value is read as. Higher bits are lost. -/
def natural? (bits : Nat) (v : SettingValue) : Option Nat := v.word64?.map (· % Nat.pow 2 bits)

/-- The natural number that a value is read as, where no value is none. -/
def optionalNatural? : SettingValue → Option (Option Nat)
  | nil => some none
  | v => v.word64?.map some

/-- The truth value that a value is read as. -/
def truth? : SettingValue → Option Bool
  | bool b => some b
  | int a => some (a ≠ 0)
  | float x => some (!(x == 0.0))
  | text s => if s = "1" then some true else if s = "0" then some false else wordOf? s
  | _ => none

/-- The text that a value is read as. -/
def text? : SettingValue → Option String
  | bool b => some (if b then "true" else "false")
  | int a => some (String.ofList (Text.integerChars a))
  | float x => some (Decimal.text x)
  | text s => some s
  | _ => none

/-- The values of named fields in a table, or in a list that gives at least so many of them. -/
def fields? (least : Nat) (names : List String) : SettingValue → Option (List (Option SettingValue))
  | table es => some (names.map fun n => find n es)
  | list vs =>
    if least ≤ vs.length then
      some ((vs.take names.length).map some ++ List.replicate (names.length - vs.length) none)
    else none
  | _ => none

/-- Settings are read from layered values with conversions. -/
def settings : SettingsSource SettingValue where
  fields := fields?
  text := text?
  natural := natural?
  optionalNatural := optionalNatural?
  truth := truth?

/-! ## From JSON -/

/-- The value of a number: an integer if it can be stored. -/
def ofNumber (n : JsonNumber) : SettingValue :=
  match n.toInt? with
  | some a => if Amount.Storable a then int a else float (n.toFloat?.getD 0.0)
  | none => float (n.toFloat?.getD 0.0)

mutual

/-- The value of a JSON value. -/
def ofJson : Json → SettingValue
  | .null => nil
  | .bool b => bool b
  | .number n => ofNumber n
  | .string s => text (s.getD "")
  | .list vs => list (ofItems vs)
  | .object ms => table (ofMembers [] ms)

/-- The values of the items of a list. -/
def ofItems : List Json → List SettingValue
  | [] => []
  | v :: vs => ofJson v :: ofItems vs

/-- The entries of the members of an object, of which a later one replaces an earlier one. -/
def ofMembers (es : List (String × SettingValue)) :
    List (Option String × Json) → List (String × SettingValue)
  | [] => es
  | (k, v) :: ms => ofMembers (put (k.getD "") (ofJson v) es) ms

end

end SettingValue

end ExpenseLedger
