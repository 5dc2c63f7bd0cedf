import ExpenseLedger.Json.Token

/-!
# JSON text

Trees are written as their tokens without blanks. Reading goes through the tokens once, with a stack
of the lists and objects that are open, so it is not bounded by their depth.
-/

namespace ExpenseLedger.Json

/-! ## Writing -/

mutual

/-- The tokens of a value. -/
def tokens : Json → List Token
  | null => [.null]
  | bool b => [.bool b]
  | number n => [.number n]
  | string t => [.string t]
  | list items => .openList :: itemTokens items
  | object members => .openObject :: memberTokens members

/-- The tokens of the items of a list, up to the closing bracket. -/
def itemTokens : List Json → List Token
  | [] => [.closeList]
  | [v] => tokens v ++ [.closeList]
  | v :: vs => tokens v ++ .comma :: itemTokens vs

/-- The tokens of the members of an object, up to the closing brace. -/
def memberTokens : List (Option String × Json) → List Token
  | [] => [.closeObject]
  | [(k, v)] => .string k :: .colon :: tokens v ++ [.closeObject]
  | (k, v) :: ms => .string k :: .colon :: tokens v ++ .comma :: memberTokens ms

end

/-- The text of a value, on one line and without blanks between tokens. -/
def write (v : Json) : String := String.ofList (v.tokens.flatMap Token.chars)

/-! ## Reading -/

/-- A list or object that is open. -/
inductive Frame where
  /-- A list, with its items so far, the last first. -/
  | list (items : List Json)
  /-- An object, with its members so far, the last first, and the name of the next. -/
  | object (members : List (Option String × Json)) (name : Option String)

/-- What has been read, and what may follow. The innermost open frame comes first. -/
inductive Progress where
  /-- A value must follow. -/
  | value (outer : List Frame)
  /-- A list has been opened: a value or its end must follow. -/
  | listStart (outer : List Frame)
  /-- An object has been opened: a name or its end must follow. -/
  | objectStart (outer : List Frame)
  /-- A name must follow. -/
  | name (members : List (Option String × Json)) (outer : List Frame)
  /-- A colon must follow the name. -/
  | colon (members : List (Option String × Json)) (name : Option String) (outer : List Frame)
  /-- A value is complete. -/
  | done (v : Json) (outer : List Frame)

namespace Progress

/-- Reads the first token of a value. -/
def startValue (outer : List Frame) : Token → Option Progress
  | .null => some (done Json.null outer)
  | .bool b => some (done (Json.bool b) outer)
  | .number n => some (done (Json.number n) outer)
  | .string t => some (done (Json.string t) outer)
  | .openList => some (listStart outer)
  | .openObject => some (objectStart outer)
  | _ => none

/-- Reads one more token. -/
def step (p : Progress) (t : Token) : Option Progress :=
  match p with
  | value outer => startValue outer t
  | listStart outer =>
    match t with
    | .closeList => some (done (Json.list []) outer)
    | t => startValue (.list [] :: outer) t
  | objectStart outer =>
    match t with
    | .closeObject => some (done (Json.object []) outer)
    | .string k => some (colon [] k outer)
    | _ => none
  | name members outer =>
    match t with
    | .string k => some (colon members k outer)
    | _ => none
  | colon members k outer =>
    match t with
    | .colon => some (value (.object members k :: outer))
    | _ => none
  | done v (.list items :: outer) =>
    match t with
    | .comma => some (value (.list (v :: items) :: outer))
    | .closeList => some (done (Json.list (v :: items).reverse) outer)
    | _ => none
  | done v (.object members k :: outer) =>
    match t with
    | .comma => some (name ((k, v) :: members) outer)
    | .closeObject => some (done (Json.object ((k, v) :: members).reverse) outer)
    | _ => none
  | done _ [] => none

/-- The value that is complete, if nothing is open. -/
def finish : Progress → Option Json
  | done v [] => some v
  | _ => none

end Progress

/-- The value that some tokens make up. -/
def ofTokens? (ts : List Token) : Option Json :=
  (ts.foldlM Progress.step (.value [])).bind Progress.finish

/-- Reads a text that holds one value. -/
def read? (s : String) : Option Json := (tokenize s.toList).bind ofTokens?

/-! ## Depth and soundness -/

mutual

/-- Lists and objects are nested no deeper than `n`, strings have text and numbers a binary64
value within range, as `finite` tells. -/
def isPlain (finite : JsonNumber → Bool) (n : Nat) : Json → Bool
  | null => true
  | bool _ => true
  | number a => finite a
  | string t => t.isSome
  | list items =>
    match n with
    | 0 => false
    | n + 1 => arePlain finite n items
  | object members =>
    match n with
    | 0 => false
    | n + 1 => arePlainMembers finite n members

/-- All values of a list are plain. -/
def arePlain (finite : JsonNumber → Bool) (n : Nat) : List Json → Bool
  | [] => true
  | v :: vs => isPlain finite n v && arePlain finite n vs

/-- All members have names with text and plain values. -/
def arePlainMembers (finite : JsonNumber → Bool) (n : Nat) : List (Option String × Json) → Bool
  | [] => true
  | (k, v) :: ms => k.isSome && isPlain finite n v && arePlainMembers finite n ms

end

end ExpenseLedger.Json
