import ExpenseLedger.Web.Exposition
import ExpenseLedger.Web.Failure
import ExpenseLedger.Web.MediaType
import ExpenseLedger.Web.Messages
import ExpenseLedger.Web.Request
import ExpenseLedger.Web.Route

/-!
# The service on the web

A request is looked at in a fixed order: its route, who calls, the identifiers in its path, its
body, the rules of its message. Then the engine is called, under the deadline of the request, and
what it gives is answered. Every request that reaches this last stage is counted with its status.

A request that leads nowhere, or whose path or body cannot be read, is turned away before anything
of the service sees it. The text that such a response may carry is the framework's. It may tell
where the body was misread, what stood in its place or how long it was, and so depend on how the
request was written. It is left out, and of these responses only the status is kept.
-/

namespace ExpenseLedger.Web

/-! ## Responses -/

/-- What a response carries. -/
inductive Content where
  /-- Nothing. -/
  | none
  /-- A JSON value. -/
  | json (j : Json)
  /-- The exposition of counters. -/
  | exposition (text : String)

/-- A response. -/
structure Response where
  /-- The status. -/
  status : Nat
  /-- What it carries. -/
  content : Content

/-- The media type of a content. -/
def Content.mediaType? : Content → Option String
  | none => Option.none
  | json _ => some "application/json"
  | exposition _ => some "text/plain; version=0.0.4"

/-- The response to a request that fails. -/
def Failure.response (f : Failure) : Response := ⟨f.status, .json f.body⟩

/-! ## Calls -/

/-- A call of the engine that a request asks for. -/
inductive Call where
  /-- The caller's balance. -/
  | getBalance
  /-- The caller's groups. -/
  | listGroups
  /-- A new group. -/
  | createGroup (message : CreateGroup)
  /-- A group with its members. -/
  | getGroup (group : GroupId)
  /-- The end of a group. -/
  | deleteGroup (group : GroupId)
  /-- The members of a group. -/
  | listMembers (group : GroupId)
  /-- New members of a group. -/
  | addMembers (group : GroupId) (message : AddMembers)
  /-- The end of a membership. -/
  | removeMember (group : GroupId) (user : UserId)
  /-- An expense that a group shares. -/
  | shareExpense (group : GroupId) (message : ShareExpense)
deriving DecidableEq

/-- The endpoint of a call. -/
def Call.endpoint : Call → Endpoint
  | getBalance => .getBalance
  | listGroups => .listGroups
  | createGroup _ => .createGroup
  | getGroup _ => .getGroup
  | deleteGroup _ => .deleteGroup
  | listMembers _ => .listMembers
  | addMembers _ _ => .addMembers
  | removeMember _ _ => .removeMember
  | shareExpense _ _ => .shareExpense

/-- Why a request asks for no call. What the framework says about it is left out. -/
inductive Reject where
  /-- There is nothing at its path. -/
  | absent
  /-- Its body cannot be read. -/
  | malformed
  /-- Its body is too long. -/
  | tooLong
deriving DecidableEq

/-- The status of a response to a rejected request. -/
def Reject.status : Reject → Nat
  | absent => 404
  | malformed => 400
  | tooLong => 413

/-- The response to a rejected request, of which only the status is kept: its text is no text of
the service. -/
def Reject.response (r : Reject) : Response := ⟨r.status, .none⟩

/-- The greatest number of bytes of a body. -/
def greatestBody : Nat := 2097152

/-- Reads the message in the body of a request. Bodies in a coding are not read. -/
def readMessage (α : Type) [Wire α] (r : Request) : Except Reject α :=
  if !(r.visibleHeader? "Content-Type").any MediaType.isJson then .error .malformed
  else if r.statedLength?.any (greatestBody < ·) then .error .tooLong
  else if r.isCoded then .error .malformed
  else if greatestBody < r.body.utf8ByteSize then .error .tooLong
  else
    match (Json.read? r.body).bind ofJson? with
    | some message => .ok message
    | none => .error .malformed

/-- Reads the identifier of a group in a path. -/
def readGroup (text : String) : Except Reject GroupId :=
  match GroupId.ofText? (identifierText text) with
  | some group => .ok group
  | none => .error .absent

/-- Reads the identifier of a user in a path. -/
def readUser (text : String) : Except Reject UserId :=
  match UserId.ofText? (identifierText text) with
  | some user => .ok user
  | none => .error .absent

/-- The call that a request to an endpoint asks for. The path is read before the body. -/
def readCall (e : Endpoint) (ids : List String) (r : Request) : Except Reject Call :=
  match e, ids with
  | .getBalance, _ => .ok .getBalance
  | .listGroups, _ => .ok .listGroups
  | .createGroup, _ => do return .createGroup (← readMessage CreateGroup r)
  | .getGroup, [group] => do return .getGroup (← readGroup group)
  | .deleteGroup, [group] => do return .deleteGroup (← readGroup group)
  | .listMembers, [group] => do return .listMembers (← readGroup group)
  | .addMembers, [group] => do
    let group ← readGroup group
    return .addMembers group (← readMessage AddMembers r)
  | .removeMember, [group, user] => do return .removeMember (← readGroup group) (← readUser user)
  | .shareExpense, [group] => do
    let group ← readGroup group
    return .shareExpense group (← readMessage ShareExpense r)
  | _, _ => .error .absent

/-! ## Answering calls -/

/-- The state of the engine, and the tally of requests. -/
structure Site (σ : Type) where
  /-- The state of the engine. -/
  engine : Engine σ
  /-- The tally of requests. -/
  tally : Tally
deriving DecidableEq

namespace Site

variable {σ α : Type}

/-- Runs a task of the engine. -/
def onEngine (t : Task (Engine σ) α) : Task (Site σ) α :=
  Task.focus Site.engine (fun s e => { s with engine := e }) t

/-- Runs a task of the backends. -/
def onStore (t : Task σ α) : Task (Site σ) α := onEngine (Engine.onStore t)

/-- Changes the tally. -/
def count (f : Tally → Tally) : Task (Site σ) Unit :=
  Task.modify fun s => { s with tally := f s.tally }

/-- The response with a status to a result. -/
def respond (status : Nat) (content : α → Content) : Except Error α → Response
  | .ok a => ⟨status, content a⟩
  | .error e => (Failure.ofError e).response

/-- The content of a value with a JSON form. -/
def asJson [Wire α] (a : α) : Content := .json (toJson a)

/-- No content. -/
def nothing (_ : α) : Content := .none

/-- Goes on unless the message breaks a rule. -/
def unlessBroken (breach : Option Breach) (t : Task (Site σ) Response) : Task (Site σ) Response :=
  match breach with
  | some b => pure (Failure.validation b.message).response
  | none => t

variable (b : Backends σ) (settings : EngineSettings)

/-- Shares an expense and counts it. -/
def shareExpense (actor : UserId) (group : GroupId) (amount : Int) : Task (Site σ) Response := do
  match ← onEngine (Engine.shareExpense b settings actor amount group) with
  | .error e => return (Failure.ofError e).response
  | .ok expense =>
    count fun t => t.countExpense expense.loans.length
    return ⟨200, asJson expense⟩

/-- Calls the engine for an actor and gives the response. -/
def perform (actor : UserId) : Call → Task (Site σ) Response
  | .getBalance => do
    let r ← onEngine (Engine.balanceLinesOf b settings actor)
    return respond 200 (fun lines => asJson (BalanceAnswer.mk actor lines)) r
  | .listGroups => do
    let r ← onStore (b.groupsOf actor)
    return respond 200 (fun groups => asJson (GroupsAnswer.mk groups)) r
  | .createGroup message =>
    unlessBroken message.breach? do
      let r ← onStore (Engine.createGroup b message.name actor)
      return respond 201 asJson r
  | .getGroup group => do
    let r ← onStore (Engine.groupInfo b group)
    return respond 200 asJson r
  | .deleteGroup group => do
    let r ← onStore (Engine.deleteGroup b actor group)
    return respond 204 nothing r
  | .listMembers group => do
    let r ← onStore (Engine.membersOf b group)
    return respond 200 (fun members => asJson (MembersAnswer.mk members)) r
  | .addMembers group message =>
    unlessBroken message.breach? do
      let r ← onStore (Engine.addMembers b actor group message.users)
      return respond 204 nothing r
  | .removeMember group user => do
    let r ← onStore (Engine.removeMember b actor group user)
    return respond 204 nothing r
  | .shareExpense group message =>
    unlessBroken message.breach? (shareExpense b settings actor group message.amount)

/-- Performs a call under the deadline of requests, and counts the request. -/
def answer (timeout : Nat) (actor : UserId) (call : Call) : Task (Site σ) Response := do
  let r ← Task.within timeout (perform b settings actor call)
  let response := r.getD Failure.timeout.response
  count fun t => t.countRequest call.endpoint.name response.status
  return response

/-! ## Answering requests -/

/-- What the service says about its health. -/
def health : Json :=
  Json.record [("status", Json.text "healthy"), ("service", Json.text "balance-engine"),
    ("version", Json.text "0.1.0")]

/-- Answers a request. -/
def handle (timeout : Nat) (r : Request) : Task (Site σ) Response :=
  match Route.find? r.method r.target with
  | none => pure Reject.absent.response
  | some .health => pure ⟨200, .json health⟩
  | some .metrics =>
    Task.act fun s => (⟨200, .exposition (Exposition.text s.engine.counters s.tally)⟩, s)
  | some (.endpoint e ids) =>
    match r.actor? with
    | none => pure Failure.unauthorized.response
    | some actor =>
      match readCall e ids r with
      | .error reject => pure reject.response
      | .ok call => answer b settings timeout actor call

end Site

end ExpenseLedger.Web
