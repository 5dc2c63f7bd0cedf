/-!
# Targets

A request names what it is about by a target: a path with a query, or an address with a scheme and
an authority before them, or an authority alone, or an asterisk. Main use: `path?`, the path that a
target leads to. An address without path leads to the root, and an authority alone to no path at
all.
-/

namespace ExpenseLedger.Web.Target

/-! ## Characters -/

/-- The character ends a path or an authority. -/
def isEnd (c : Char) : Bool := c = '?' || c = '#'

/-- The character can stand in a path. -/
def isOfPath (c : Char) : Bool :=
  33 ≤ c.toNat && c.toNat < 127 && !"#<>?\x60".toList.contains c

/-- The character can stand in a query. -/
def isOfQuery (c : Char) : Bool :=
  33 ≤ c.toNat && c.toNat < 127 && !"\"#<>".toList.contains c

/-- The character can stand in the name of a scheme. -/
def isOfScheme (c : Char) : Bool := c.isAlphanum || "+-.".toList.contains c

/-- The character can stand in an authority. -/
def isOfAuthority (c : Char) : Bool := c.isAlphanum || "!$%&'()*+,-.:;=@[]_~".toList.contains c

/-! ## Paths -/

/-- The path in front of a query and a fragment, if both path and query can be read. A fragment is
not looked at. -/
def pathBefore? (cs : List Char) : Option (List Char) :=
  let path := cs.takeWhile fun c => !isEnd c
  let query := match cs.dropWhile fun c => !isEnd c with
    | '?' :: rest => rest.takeWhile (· ≠ '#')
    | _ => []
  if path.all isOfPath && query.all isOfQuery then some path else none

/-! ## Authorities -/

/-- What has been seen of an authority. -/
structure Seen where
  /-- The colons since the last bracket or at sign. -/
  colons : Nat
  /-- There is a percent sign since the last closing bracket or at sign. -/
  percent : Bool
  /-- The first opening bracket was seen. -/
  opened : Bool
  /-- The first closing bracket was seen. -/
  closed : Bool
  /-- The last character was an at sign. -/
  atSign : Bool

/-- Reads one more character of an authority. -/
def Seen.step (s : Seen) (c : Char) : Option Seen :=
  if !isOfAuthority c then none
  else if c = ':' then
    if s.colons < 8 then some { s with colons := s.colons + 1, atSign := false } else none
  else if c = '[' then
    if s.percent || s.opened then none else some { s with opened := true, atSign := false }
  else if c = ']' then
    if !s.opened || s.closed then none
    else some { s with closed := true, colons := 0, percent := false, atSign := false }
  else if c = '@' then some { s with colons := 0, percent := false, atSign := true }
  else some { s with percent := s.percent || c = '%', atSign := false }

/-- An authority may end here. -/
def Seen.isFinal (s : Seen) : Bool :=
  s.opened == s.closed && s.colons ≤ 1 && !s.atSign && !s.percent

/-- The characters are an authority: names before an at sign, a host that may stand in brackets, and
a port after a colon. -/
def isAuthority (cs : List Char) : Bool :=
  (cs.foldlM Seen.step ⟨0, false, false, false, false⟩).any Seen.isFinal

/-! ## Addresses -/

/-- The greatest number of characters of a scheme. -/
def greatestScheme : Nat := 64

/-- What follows the scheme of an address. -/
def afterScheme? (cs : List Char) : Option (List Char) :=
  match cs.dropWhile isOfScheme with
  | ':' :: '/' :: '/' :: rest => some rest
  | _ => none

/-- The character ends the authority of an address. -/
def endsAuthority (c : Char) : Bool := c = '/' || isEnd c

/-- The path that the rest of an address leads to. -/
def addressPath? (cs : List Char) : Option (List Char) :=
  let authority := cs.takeWhile fun c => !endsAuthority c
  if authority.isEmpty || !isAuthority authority then none
  else
    (pathBefore? (cs.dropWhile fun c => !endsAuthority c)).map fun path =>
      if path.isEmpty then ['/'] else path

/-! ## Targets -/

/-- The greatest number of bytes of a target. -/
def greatestSize : Nat := 65534

/-- The path that the characters of a target lead to, if they are a target. -/
def pathOf? (cs : List Char) : Option (List Char) :=
  match cs with
  | ['*'] => some cs
  | '/' :: _ => pathBefore? cs
  | _ =>
    match afterScheme? cs with
    | some rest =>
      if (cs.takeWhile isOfScheme).length ≤ greatestScheme then addressPath? rest else none
    | none => if cs.isEmpty || !isAuthority cs then none else some []

/-- The path that a target leads to, if it is one. -/
def path? (target : String) : Option (List Char) :=
  if target.utf8ByteSize ≤ greatestSize then pathOf? target.toList else none

end ExpenseLedger.Web.Target
