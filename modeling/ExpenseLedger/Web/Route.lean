import ExpenseLedger.Id
import ExpenseLedger.Web.Target

/-!
# Routes

A path is cut at its slashes after its escapes have been resolved, and is compared segment by
segment. Escapes of the slash, the percent sign and the plus sign are left as they are, so that they
never act as what they stand for. The identifiers that are taken from a path have all the escapes
resolved that they then still have.

A path is compared as it stands: a slash at its end starts one more, empty segment, and so does each
slash of several in a row. The server trims and merges such slashes before it asks for a route. That
is left out, so the paths here are those that it has already been through.
-/

namespace ExpenseLedger.Web

/-! ## Escapes -/

/-- The ASCII character that two hexadecimal digits stand for, unless its escape is kept. -/
def resolve? (keeps : Char → Bool) (high low : Char) : Option Char := do
  let n := (← HexDigit.ofChar? high).val * 16 + (← HexDigit.ofChar? low).val
  let c := Char.ofNat n
  if n < 128 && !keeps c then some c else none

/-- Resolves the escapes in a text, apart from those that are kept. -/
def unescape (keeps : Char → Bool) : List Char → List Char
  | '%' :: high :: low :: cs =>
    match resolve? keeps high low with
    | some c => c :: unescape keeps cs
    | none => '%' :: unescape keeps (high :: low :: cs)
  | c :: cs => c :: unescape keeps cs
  | [] => []

/-- The character would act on its own in a path. -/
def actsInPath (c : Char) : Bool := c = '/' || c = '%' || c = '+'

/-- The text of an identifier that is written as a segment of a path. -/
def identifierText (segment : String) : String :=
  String.ofList (unescape (fun _ => false) segment.toList)

/-! ## Segments -/

/-- The segments of a path, between its slashes. -/
def segments (cs : List Char) : List String :=
  (cs.splitOn '/').map String.ofList

/-! ## Endpoints -/

/-- What the service offers to callers. -/
inductive Endpoint where
  /-- The caller's balance. -/
  | getBalance
  /-- The caller's groups. -/
  | listGroups
  /-- A new group of the caller. -/
  | createGroup
  /-- A group with its members. -/
  | getGroup
  /-- The end of a group. -/
  | deleteGroup
  /-- The members of a group. -/
  | listMembers
  /-- New members of a group. -/
  | addMembers
  /-- The end of a membership. -/
  | removeMember
  /-- An expense that a group shares. -/
  | shareExpense
deriving DecidableEq

/-- The name under which requests are counted. -/
def Endpoint.name : Endpoint → String
  | getBalance => "get_balance"
  | listGroups => "list_groups"
  | createGroup => "create_group"
  | getGroup => "get_group"
  | deleteGroup => "delete_group"
  | listMembers => "list_members"
  | addMembers => "add_members"
  | removeMember => "remove_member"
  | shareExpense => "share_expense"

/-- Where a request goes, with the identifiers in its path as they are written. -/
inductive Route where
  /-- The state of health. -/
  | health
  /-- The exposition of counters. -/
  | metrics
  /-- An endpoint. -/
  | endpoint (e : Endpoint) (ids : List String)
deriving DecidableEq

namespace Route

/-- The endpoint of a method and the segments after the name and version of the interface. -/
def ofSegments? (method : String) : List String → Option Route
  | ["balance"] => if method = "GET" then some (endpoint .getBalance []) else none
  | ["groups"] =>
    if method = "GET" then some (endpoint .listGroups [])
    else if method = "POST" then some (endpoint .createGroup [])
    else none
  | ["groups", group] =>
    if group.isEmpty then none
    else if method = "GET" then some (endpoint .getGroup [group])
    else if method = "DELETE" then some (endpoint .deleteGroup [group])
    else none
  | ["groups", group, "members"] =>
    if group.isEmpty then none
    else if method = "GET" then some (endpoint .listMembers [group])
    else if method = "POST" then some (endpoint .addMembers [group])
    else none
  | ["groups", group, "members", user] =>
    if group.isEmpty || user.isEmpty then none
    else if method = "DELETE" then some (endpoint .removeMember [group, user])
    else none
  | ["groups", group, "expenses"] =>
    if group.isEmpty then none
    else if method = "POST" then some (endpoint .shareExpense [group])
    else none
  | _ => none

/-- The route of a method and the segments of a path. -/
def ofPath? (method : String) : List String → Option Route
  | ["", "health"] => if method = "GET" then some health else none
  | ["", "metrics"] => if method = "GET" then some metrics else none
  | "" :: "api" :: "v1" :: rest => ofSegments? method rest
  | _ => none

/-- The route of a method and a target. -/
def find? (method target : String) : Option Route := do
  ofPath? method (segments (unescape actsInPath (← Target.path? target)))

end Route

end ExpenseLedger.Web
