/-!
# Media types

The value of a content-type header: a type and a subtype, each of token characters, then parameters
after semicolons. A plus in the subtype sets off a suffix. Main use: `isJson`, which accepts the
subtype `json` of any type and the suffix `json` of any subtype, in any case of letters.
-/

namespace ExpenseLedger.Web.MediaType

/-! ## Characters -/

/-- The character can stand in a name. -/
def isToken (c : Char) : Bool :=
  c.isAlphanum || "!#$%&\'*+-.^_\x60|~".toList.contains c

/-- The character can stand between quotes. -/
def isQuotable (c : Char) : Bool := 31 < c.toNat && c.toNat ≠ 127

/-! ## Parameters -/

/-- What is being read. Names and unquoted values tell whether they are still empty. -/
inductive State where
  /-- The name of a parameter, or spaces before it. -/
  | name (isEmpty : Bool)
  /-- The value of a parameter, or the quote before it. -/
  | value (isEmpty : Bool)
  /-- A value between quotes. -/
  | quoted (isEmpty : Bool)
  /-- Spaces after a value between quotes. -/
  | afterQuoted
deriving DecidableEq

/-- Reads one more character of the parameters. -/
def State.step (s : State) (c : Char) : Option State :=
  match s with
  | name isEmpty =>
    if c = ' ' && isEmpty then some (name true)
    else if isToken c then some (name false)
    else if c = '=' && !isEmpty then some (value true)
    else none
  | value isEmpty =>
    if c = '"' && isEmpty then some (quoted true)
    else if isToken c then some (value false)
    else if c = ';' && !isEmpty then some (name true)
    else none
  | quoted isEmpty =>
    if c = '"' && !isEmpty then some afterQuoted
    else if isQuotable c then some (quoted false)
    else none
  | afterQuoted =>
    if c = ';' then some (name true)
    else if c = ' ' then some afterQuoted
    else none

/-- The parameters may end here. -/
def State.isFinal : State → Bool
  | name isEmpty => isEmpty
  | value _ => true
  | quoted _ => false
  | afterQuoted => true

/-- The characters after the first semicolon are parameters. -/
def areParameters (cs : List Char) : Bool :=
  match cs.foldlM State.step (.name true) with
  | some s => s.isFinal
  | none => false

/-! ## Types -/

/-- The subtype and the suffix of a media type. -/
structure Parts where
  /-- The subtype, up to the suffix. -/
  subtype : List Char
  /-- The suffix, if there is one. -/
  suffix : Option (List Char)

/-- Splits a subtype at its last plus, unless nothing stands before that plus. -/
def splitSuffix (cs : List Char) : Parts :=
  let reversed := cs.reverse
  let suffix := (reversed.takeWhile (· ≠ '+')).reverse
  let before := (reversed.dropWhile (· ≠ '+')).drop 1
  if before.isEmpty then ⟨cs, none⟩ else ⟨before.reverse, some suffix⟩

/-- Reads a media type. -/
def parts? (cs : List Char) : Option Parts :=
  let type := cs.takeWhile isToken
  match cs.dropWhile isToken with
  | '/' :: rest =>
    let subtype := rest.takeWhile isToken
    if type.isEmpty then none
    else
      match rest.dropWhile isToken with
      | [] => some (splitSuffix subtype)
      | ';' :: parameters =>
        if subtype.isEmpty then none
        else if areParameters parameters then some (splitSuffix subtype)
        else none
      | _ => none
  | _ => none

/-- The media type is one of JSON. -/
def isJson (value : String) : Bool :=
  match parts? value.toList with
  | none => false
  | some p =>
    let isName (cs : List Char) : Bool := cs.map Char.toLower = ['j', 's', 'o', 'n']
    isName p.subtype || p.suffix.any isName

end ExpenseLedger.Web.MediaType
