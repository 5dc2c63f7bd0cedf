import ExpenseLedger.Settings.Value

/-!
# Layers of settings

A layer assigns values to keys, and is laid over the layers below it. A key is a path of names and
positions. What is assigned replaces what is there, except that a table is merged into a table entry
by entry; what lies on a path and is no table gives way to one.
-/

namespace ExpenseLedger

/-! ## Paths -/

/-- One step of a path. -/
inductive PathStep where
  /-- To the entry of a name. -/
  | name (name : String)
  /-- To the item at a position, counted from the end if it is negative. -/
  | position (index : Int)
deriving DecidableEq

namespace PathStep

/-- The character can stand in a name of a path. -/
def isNameChar (c : Char) : Bool := c.isAlphanum || c = '_' || c = '-' || c = ' '

/-- Reads a name. -/
def name? (cs : List Char) : Option (PathStep × List Char) :=
  let chars := cs.takeWhile isNameChar
  if chars.isEmpty then none
  else some (name (String.ofList chars), cs.drop chars.length)

/-- Removes spaces and tabs at both ends. -/
def trimSpaces (cs : List Char) : List Char :=
  let isSpace (c : Char) : Bool := c = ' ' || c = '\t'
  (((cs.dropWhile isSpace).reverse).dropWhile isSpace).reverse

/-- Reads a position after an opening bracket. -/
def position? (cs : List Char) : Option (PathStep × List Char) :=
  match cs.dropWhile (· ≠ ']') with
  | ']' :: rest =>
    match trimSpaces (cs.takeWhile (· ≠ ']')) with
    | '+' :: _ => none
    | chars =>
      match Text.readInteger Amount.lowest Amount.highest chars with
      | .ok index => some (position index, rest)
      | .error _ => none
  | _ => none

/-- Reads the steps after the first, of which there are no more than characters. -/
def more? : Nat → List Char → Option (List PathStep)
  | _, [] => some []
  | 0, _ :: _ => none
  | n + 1, '.' :: cs => do
    let (s, rest) ← name? cs
    return s :: (← more? n rest)
  | n + 1, '[' :: cs => do
    let (s, rest) ← position? cs
    return s :: (← more? n rest)
  | _ + 1, _ => none

/-- Reads a path. -/
def path? (cs : List Char) : Option (List PathStep) := do
  let (s, rest) ← name? cs
  return s :: (← more? rest.length rest)

/-- The path that a key means. A key that is no path is one name. -/
def ofKey (key : String) : List PathStep := (path? key.toList).getD [name key]

end PathStep

/-! ## Assignments -/

namespace SettingValue

mutual

/-- Lays a value over the one that is there, if there is one. -/
def overlay (old : Option SettingValue) : SettingValue → SettingValue
  | table es => overlayEntries (old.getD (table [])) es
  | v => v

/-- Lays entries over a value, one by one. -/
def overlayEntries (old : SettingValue) : List (String × SettingValue) → SettingValue
  | [] => old
  | (k, v) :: es =>
    overlayEntries (table (put k (overlay (find k old.entries) v) old.entries)) es

end

/-- The item at a position, with items without value before it as far as needed. -/
def positionIn (vs : List SettingValue) (index : Int) : Nat × List SettingValue :=
  let i := (if 0 ≤ index then index else vs.length + index).toNat
  (i, vs ++ List.replicate (i + 1 - vs.length) nil)

/-- Assigns a value to a path. -/
def assign (value : SettingValue) : List PathStep → SettingValue → SettingValue
  | [], root => root
  | [.name k], root => overlayEntries root [(k, value)]
  | .name k :: path, root =>
    table (put k (assign value path ((find k root.entries).getD nil)) root.entries)
  | [.position index], root =>
    let (i, vs) := positionIn root.items index
    list (vs.set i value)
  | .position index :: path, root =>
    let (i, vs) := positionIn root.items index
    list (vs.set i (assign value path (vs.getD i nil)))

end SettingValue

/-- A layer: values and the keys to which they are assigned. -/
abbrev Layer : Type := List (String × SettingValue)

/-- Lays a layer over a value. -/
def Layer.over (root : SettingValue) (layer : Layer) : SettingValue :=
  layer.foldl (fun r a => SettingValue.assign a.2 (PathStep.ofKey a.1) r) root

/-- Lays layers one over the other, the first at the bottom. -/
def Layer.stack (layers : List Layer) : SettingValue :=
  layers.foldl Layer.over (.table [])

end ExpenseLedger
