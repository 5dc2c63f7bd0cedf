/-!
# JSON trees

A tree keeps what is written and no more than that: a number keeps its digits, so that whole numbers
and decimal fractions stay apart, an object keeps its members in order and may repeat a name, and a
string whose escapes name half a surrogate pair is kept as a string without text.
-/

namespace ExpenseLedger

/-- A number as it is written. -/
structure JsonNumber where
  /-- It has a minus sign. -/
  negative : Bool
  /-- The digits before the point, which have no needless zero. -/
  whole : Nat
  /-- The digits after the point, if there is one. -/
  fraction : Option (List (Fin 10))
  /-- The power of ten, if one is written. -/
  exponent : Option Int
deriving DecidableEq

namespace JsonNumber

/-- The number that is written as an integer. -/
def ofInt (a : Int) : JsonNumber := ⟨a < 0, a.natAbs, none, none⟩

/-- The integer that is written. Zero with a sign is none, and neither is a number with a point or a
power, even where its value is whole. -/
def toInt? (n : JsonNumber) : Option Int :=
  match n.fraction, n.exponent with
  | none, none =>
    if n.negative then (if n.whole = 0 then none else some (-n.whole)) else some n.whole
  | _, _ => none

/-- An integer is read back from its number. -/
theorem toInt?_ofInt (a : Int) : (ofInt a).toInt? = some a := by
  unfold toInt? ofInt
  by_cases h : a < 0
  · have h0 : a.natAbs ≠ 0 := by omega
    simp only [h, decide_true, if_true, h0, if_false, Option.some.injEq]
    omega
  · simp only [h, decide_false, Bool.false_eq_true, if_false, Option.some.injEq]
    omega

end JsonNumber

/-- A JSON value. -/
inductive Json where
  /-- The value `null`. -/
  | null
  /-- A truth value. -/
  | bool (b : Bool)
  /-- A number. -/
  | number (n : JsonNumber)
  /-- A string, without text if it holds half a surrogate pair. -/
  | string (text : Option String)
  /-- A list of values. -/
  | list (items : List Json)
  /-- Named members in their order. -/
  | object (members : List (Option String × Json))

namespace Json

instance : Inhabited Json := ⟨null⟩

/-- The value of a text. -/
def text (s : String) : Json := string (some s)

/-- The value of an integer. -/
def int (a : Int) : Json := number (JsonNumber.ofInt a)

/-- The value of a natural number. -/
def nat (n : Nat) : Json := int n

/-- The object with the given members. -/
def record (members : List (String × Json)) : Json :=
  object (members.map fun m => (some m.1, m.2))

/-- The text of a string. -/
def toText? : Json → Option String
  | string (some s) => some s
  | _ => none

/-- The integer that a number is. -/
def toInt? : Json → Option Int
  | number n => n.toInt?
  | _ => none

end Json

end ExpenseLedger
