import ExpenseLedger.Id
import ExpenseLedger.Text.Blank
import ExpenseLedger.Text.Integer
import ExpenseLedger.Web.MediaType
import ExpenseLedger.Web.Target

/-!
# Requests

A request has a method, a target, headers and a body. Who calls is told by a header that the gateway
sets. How long the body is and in which coding it is may be told by headers too.
-/

namespace ExpenseLedger.Web

/-- A request. -/
structure Request where
  /-- The method. -/
  method : String
  /-- The target: a path, and what may follow it. -/
  target : String
  /-- The names and values of the headers. -/
  headers : List (String × String)
  /-- The body. -/
  body : String

namespace Request

/-- The letters of a text in lowercase. -/
def lowercase (s : String) : List Char := s.toList.map Char.toLower

/-- The value of the first header of a name, whatever the case of its letters. -/
def header? (r : Request) (name : String) : Option String :=
  (r.headers.find? fun h => lowercase h.1 = lowercase name).map (·.2)

/-- The character can be seen or is a tab. -/
def isVisible (c : Char) : Bool := (32 ≤ c.toNat && c.toNat < 127) || c = '\t'

/-- The value of the first header of a name, if all of its characters can be seen. -/
def visibleHeader? (r : Request) (name : String) : Option String :=
  (r.header? name).filter fun v => v.toList.all isVisible

/-- The user who calls. -/
def actor? (r : Request) : Option UserId :=
  (r.visibleHeader? "X-User-Id").bind fun v => UserId.ofText? (Text.trim v)

/-! ## The body -/

/-- The greatest number of bytes that a header can tell. -/
def greatestLength : Nat := 18446744073709551615

/-- The length of the body that a header tells. -/
def statedLength? (r : Request) : Option Nat := do
  let value ← r.visibleHeader? "Content-Length"
  match Text.readInteger 0 greatestLength value.toList with
  | .ok n => some n.toNat
  | .error _ => none

/-- The names of the codings that bodies may have. -/
def codings : List String := ["br", "gzip", "deflate", "zstd"]

/-- A header says that the body is in a coding. -/
def isCoded (r : Request) : Bool :=
  (r.visibleHeader? "Content-Encoding").any fun v =>
    codings.any fun name => lowercase (Text.trim v) = name.toList

/-! ## Well-formed requests -/

/-- The text is a name of token characters. -/
def isName (s : String) : Bool := !s.isEmpty && s.toList.all MediaType.isToken

/-- The character can stand in a header: no control character but the tab can. -/
def canBeSent (c : Char) : Bool := (32 ≤ c.toNat && c.toNat ≠ 127) || c = '\t'

/-- The request can be sent: its method and headers have names, its target is one, and its headers
have no control characters. -/
def isWellFormed (r : Request) : Bool :=
  isName r.method && (Target.path? r.target).isSome &&
    r.headers.all fun h => isName h.1 && h.2.toList.all canBeSent

end Request

end ExpenseLedger.Web
