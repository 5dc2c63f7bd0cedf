import ExpenseLedger.Table

/-!
# Identifiers

An identifier is 128 bits wide and is held as its thirty-two hexadecimal digits. It is shown in one
way, in lowercase groups of 8, 4, 4, 4 and 12 digits joined by hyphens, and read in four: so
grouped, without hyphens, grouped in braces, and grouped after `urn:uuid:`. Users and groups have
identifiers of their own types.
-/

namespace ExpenseLedger

/-! ## Hexadecimal digits -/

/-- A hexadecimal digit. -/
abbrev HexDigit : Type := Fin 16

namespace HexDigit

/-- The lowercase character of a digit. -/
def char (d : HexDigit) : Char :=
  if d.val < 10 then Char.ofNat (48 + d.val) else Char.ofNat (87 + d.val)

/-- The digit that a character stands for, in either case. -/
def ofChar? (c : Char) : Option HexDigit :=
  let n := c.toNat
  if h : 48 ≤ n ∧ n ≤ 57 then some ⟨n - 48, by omega⟩
  else if h : 97 ≤ n ∧ n ≤ 102 then some ⟨n - 87, by omega⟩
  else if h : 65 ≤ n ∧ n ≤ 70 then some ⟨n - 55, by omega⟩
  else none

/-- The character of a digit stands for that digit. -/
theorem ofChar?_char (d : HexDigit) : ofChar? d.char = some d := by
  revert d
  decide

end HexDigit

/-! ## Identifiers -/

/-- A 128-bit identifier. -/
structure Id where
  /-- Its hexadecimal digits, the highest first. -/
  digits : List HexDigit
  /-- There are thirty-two of them. -/
  length_digits : digits.length = 32
deriving DecidableEq

namespace Id

/-- Identifiers with the same digits are equal. -/
theorem eq_of_digits {a b : Id} (h : a.digits = b.digits) : a = b := by
  cases a
  cases b
  simpa using h

instance : LT Id := ⟨fun a b => a.digits < b.digits⟩

instance (a b : Id) : Decidable (a < b) := inferInstanceAs (Decidable (a.digits < b.digits))

/-- Identifiers are ordered by their digits, which is the order of their texts. -/
instance : OrderedKey Id where
  decidableLT := inferInstance
  decidableEq := inferInstance
  irrefl a := List.lt_irrefl a.digits
  trans := fun {a b c} hab hbc =>
    show a.digits < c.digits from List.lt_trans (show a.digits < b.digits from hab) hbc
  total a b := by
    by_cases hab : a.digits < b.digits
    · exact .inl hab
    · by_cases hba : b.digits < a.digits
      · exact .inr (.inr hba)
      · exact .inr (.inl (eq_of_digits (List.le_antisymm (List.not_lt.1 hba) (List.not_lt.1 hab))))

/-- The identifier with the digits of a number below 2^128. -/
def ofNat (n : Nat) : Id where
  digits := (List.range 32).map fun i => ⟨n / Nat.pow 16 (31 - i) % 16, Nat.mod_lt _ (by decide)⟩
  length_digits := by simp

/-! ## Writing -/

/-- The characters of some digits. -/
def digitChars (ds : List HexDigit) : List Char := ds.map HexDigit.char

/-- The grouped characters of some digits: 8, 4, 4 and 4 of them, then the rest. -/
def groupedChars (ds : List HexDigit) : List Char :=
  digitChars (ds.take 8) ++ '-' :: digitChars ((ds.drop 8).take 4) ++
    '-' :: digitChars ((ds.drop 12).take 4) ++ '-' :: digitChars ((ds.drop 16).take 4) ++
    '-' :: digitChars (ds.drop 20)

/-- The text of an identifier. -/
def text (a : Id) : String := String.ofList (groupedChars a.digits)

instance : ToString Id := ⟨text⟩

/-! ## Reading -/

/-- Reads `n` digits and gives them with the characters after them. -/
def takeDigits : Nat → List Char → Option (List HexDigit × List Char)
  | 0, cs => some ([], cs)
  | _ + 1, [] => none
  | n + 1, c :: cs => do
    let d ← HexDigit.ofChar? c
    let (ds, rest) ← takeDigits n cs
    return (d :: ds, rest)

/-- Reads groups of digits of the given sizes, with a hyphen between two groups. -/
def takeGroups : List Nat → List Char → Option (List HexDigit × List Char)
  | [], cs => some ([], cs)
  | [n], cs => takeDigits n cs
  | n :: ns, cs => do
    let (ds, rest) ← takeDigits n cs
    match rest with
    | '-' :: rest =>
      let (es, rest) ← takeGroups ns rest
      return (ds ++ es, rest)
    | _ => none

/-- The identifier that all of the characters spell in groups of the given sizes. -/
def ofGroups? (sizes : List Nat) (cs : List Char) : Option Id :=
  match takeGroups sizes cs with
  | some (ds, []) => if h : ds.length = 32 then some ⟨ds, h⟩ else none
  | _ => none

/-- Reads the grouped form. -/
def ofGrouped? (cs : List Char) : Option Id := ofGroups? [8, 4, 4, 4, 12] cs

/-- Reads the form without hyphens. -/
def ofPlain? (cs : List Char) : Option Id := ofGroups? [32] cs

/-- The characters between an opening and a closing brace that enclose all of them. -/
def unbrace? : List Char → Option (List Char)
  | '\x7b' :: cs => if cs.getLast? = some '\x7d' then some cs.dropLast else none
  | _ => none

/-- The characters after the name space of the identifiers, written in either case. -/
def unurn? (cs : List Char) : Option (List Char) :=
  if (cs.take 9).map Char.toLower = ['u', 'r', 'n', ':', 'u', 'u', 'i', 'd', ':'] then
    some (cs.drop 9)
  else none

/-- Reads an identifier in any of its four forms. -/
def ofChars? (cs : List Char) : Option Id :=
  match unbrace? cs, unurn? cs with
  | some inner, _ => ofGrouped? inner
  | none, some inner => ofGrouped? inner
  | none, none => (ofGrouped? cs).orElse fun _ => ofPlain? cs

/-- Reads an identifier in any of its four forms. -/
def ofText? (s : String) : Option Id := ofChars? s.toList

end Id

/-! ## Users and groups -/

/-- The identifier of a user. -/
structure UserId where
  /-- The identifier. -/
  id : Id
deriving DecidableEq

/-- The identifier of a group. -/
structure GroupId where
  /-- The identifier. -/
  id : Id
deriving DecidableEq

namespace UserId

instance : LT UserId := ⟨fun a b => a.id < b.id⟩

instance (a b : UserId) : Decidable (a < b) := inferInstanceAs (Decidable (a.id < b.id))

/-- Users are ordered by their identifiers. -/
instance : OrderedKey UserId where
  decidableLT := inferInstance
  decidableEq := inferInstance
  irrefl a := OrderedKey.irrefl a.id
  trans := fun {a b c} hab hbc => OrderedKey.trans (a := a.id) (b := b.id) (c := c.id) hab hbc
  total a b := (OrderedKey.total a.id b.id).imp_right (Or.imp_left fun h => by
    cases a
    cases b
    simpa using h)

/-- The text of a user identifier. -/
def text (u : UserId) : String := u.id.text

instance : ToString UserId := ⟨text⟩

/-- Reads a user identifier. -/
def ofText? (s : String) : Option UserId := (Id.ofText? s).map UserId.mk

end UserId

namespace GroupId

instance : LT GroupId := ⟨fun a b => a.id < b.id⟩

instance (a b : GroupId) : Decidable (a < b) := inferInstanceAs (Decidable (a.id < b.id))

/-- Groups are ordered by their identifiers. -/
instance : OrderedKey GroupId where
  decidableLT := inferInstance
  decidableEq := inferInstance
  irrefl a := OrderedKey.irrefl a.id
  trans := fun {a b c} hab hbc => OrderedKey.trans (a := a.id) (b := b.id) (c := c.id) hab hbc
  total a b := (OrderedKey.total a.id b.id).imp_right (Or.imp_left fun h => by
    cases a
    cases b
    simpa using h)

/-- The text of a group identifier. -/
def text (g : GroupId) : String := g.id.text

instance : ToString GroupId := ⟨text⟩

/-- Reads a group identifier. -/
def ofText? (s : String) : Option GroupId := (Id.ofText? s).map GroupId.mk

end GroupId

end ExpenseLedger
