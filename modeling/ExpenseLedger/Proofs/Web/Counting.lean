import ExpenseLedger.Proofs.Web.Duration
import ExpenseLedger.Proofs.Web.Tally
/-!
# What a request counts

A request counts itself under its route and the status of its answer, if it asks for a call at all.
An expense that is answered with 200 counts itself and its loans besides, and these are the loans
that have been added to the records and that the answer lists. Where the deadline drops the call, the
loans may have been recorded without being counted. Main statements:

* `Site.triple_perform_booked`: what a call counts;
* `Site.exchanged_handle`: what a request counts.
-/

open ExpenseLedger.Task

namespace ExpenseLedger.Web

variable {σ α β : Type}

/-! ## Answers -/

/-- The number of loans that an answer lists. -/
def Content.listedLoans : Content → Nat
  | json j =>
    match j.allFields? ["loans"] with
    | some [Json.list items] => items.length
    | _ => 0
  | _ => 0

/-- The answer to an expense lists its loans. -/
theorem Content.listedLoans_asJson (expense : Expense) :
    (Site.asJson expense).listedLoans = expense.loans.length := by
  have hfields : (toJson expense).allFields? ["loans"] = some [toJson expense.loans] := by
    rfl
  change (match (toJson expense).allFields? ["loans"] with
    | some [Json.list items] => items.length
    | _ => 0) = _
  rw [hfields]
  exact List.length_map _

/-- A request and its answer. -/
structure Exchange where
  /-- The request. -/
  request : Request
  /-- The answer. -/
  response : Response
  /-- The call of the request has been dropped at the deadline of requests. -/
  late : Bool

namespace Exchange

/-- The request is for an expense and has been answered with 200. -/
def shares (q : Exchange) : Bool :=
  q.request.endpoint? = some .shareExpense && q.response.status = 200

/-- The number of loans that are listed in the answer if an expense has been shared. -/
def loans (q : Exchange) : Nat := if q.shares then q.response.content.listedLoans else 0

/-- The route and the status under which the request is counted. A request that asks for no call is
not counted. -/
def counted? (q : Exchange) : Option (Endpoint × Nat) :=
  q.request.call?.map fun c => (c.2.endpoint, q.response.status)

end Exchange

namespace Site

/-! ## Tasks that count nothing -/

/-- The task counts no requests, expenses or loans, and what it gives meets a condition. -/
def Quiet (Q : α → Prop) (t : Task (Site σ) α) : Prop :=
  ∀ budget x, (t budget x).state.tally = x.tally ∧
    ∀ a spent, (t budget x).outcome = .done a spent → Q a

/-- Giving a value. -/
theorem Quiet.pure {Q : α → Prop} {a : α} (h : Q a) :
    Quiet Q (Pure.pure a : Task (Site σ) α) := by
  intro budget x
  refine ⟨rfl, ?_⟩
  rintro a' spent ⟨⟩
  exact h

/-- The engine has no access to the tally. -/
theorem quiet_onEngine (t : Task (Engine σ) α) : Quiet (fun _ => True) (onEngine t) :=
  fun _ _ => ⟨rfl, fun _ _ _ => trivial⟩

/-- Tasks one after the other. -/
theorem Quiet.bind {Q : α → Prop} {Q' : β → Prop} {t : Task (Site σ) α}
    {f : α → Task (Site σ) β} (ht : Quiet Q t) (hf : ∀ a, Q a → Quiet Q' (f a)) :
    Quiet Q' (t >>= f) := by
  intro budget x
  obtain ⟨htally, hvalue⟩ := ht budget x
  rcases hr : t budget x with ⟨y, _ | _⟩
  · rename_i a spent
    rw [hr] at htally hvalue
    obtain ⟨htally', hvalue'⟩ := hf a (hvalue a spent rfl) (budget.map (· - spent)) y
    rw [bind_of_done hr]
    refine ⟨htally'.trans htally, fun b more hb => ?_⟩
    cases hout : (f a (budget.map (· - spent)) y).outcome with
    | done b' more' =>
      rw [hout] at hb
      cases hb
      exact hvalue' _ _ hout
    | dropped =>
      rw [hout] at hb
      contradiction
  · rw [hr] at htally
    rw [bind_of_dropped hr]
    exact ⟨htally, fun b more hb => by contradiction⟩

/-- The response to a result has a status of the service. -/
theorem status_respond_mem {status : Nat} (h : status ∈ Call.statuses) (content : α → Content)
    (r : Except Error α) : (respond status content r).status ∈ Call.statuses := by
  cases r with
  | error e => exact Failure.status_ofError_mem e
  | ok a => exact h

/-- A call that is answered with what a task gives. -/
theorem quiet_respond {status : Nat} (h : status ∈ Call.statuses)
    (t : Task (Engine σ) (Except Error α)) (content : α → Content) :
    Quiet (fun r : Response => r.status ∈ Call.statuses)
      (do let r ← onEngine t; return respond status content r) :=
  (quiet_onEngine t).bind fun r _ => .pure (status_respond_mem h content r)

/-- A message is checked before anything else happens. -/
theorem quiet_unlessBroken {t : Task (Site σ) Response}
    (h : Quiet (fun r : Response => r.status ∈ Call.statuses) t) (breach : Option Breach) :
    Quiet (fun r : Response => r.status ∈ Call.statuses) (unlessBroken breach t) := by
  cases breach with
  | none => exact h
  | some b => exact .pure (by decide : 400 ∈ Call.statuses)

/-- A call for anything but an expense counts nothing by itself. -/
theorem quiet_perform (b : Backends σ) (settings : EngineSettings) (actor : UserId) (call : Call)
    (h : call.endpoint ≠ .shareExpense) :
    Quiet (fun r : Response => r.status ∈ Call.statuses) (perform b settings actor call) := by
  cases call with
  | getBalance => exact quiet_respond (by decide) _ _
  | listGroups => exact quiet_respond (by decide) _ _
  | createGroup message => exact quiet_unlessBroken (quiet_respond (by decide) _ _) _
  | getGroup group => exact quiet_respond (by decide) _ _
  | deleteGroup group => exact quiet_respond (by decide) _ _
  | listMembers group => exact quiet_respond (by decide) _ _
  | addMembers group message => exact quiet_unlessBroken (quiet_respond (by decide) _ _) _
  | removeMember group user => exact quiet_respond (by decide) _ _
  | shareExpense group message => exact absurd rfl h

/-! ## Calls -/

/-- What a call has counted and recorded when it gives a response. -/
inductive Booked (e : Endpoint) (x x' : Site Store) : Response → Prop where
  /-- An expense has been shared. -/
  | shared (expense : Expense) (he : e = .shareExpense)
      (htally : x'.tally = x.tally.countExpense expense.loans.length)
      (hrecords : x'.engine.store.ledger.records =
        x.engine.store.ledger.records ++ expense.loans) :
      Booked e x x' ⟨200, asJson expense⟩
  /-- Anything else. -/
  | other (response : Response) (hstatus : response.status ∈ Call.statuses)
      (he : e = .shareExpense → response.status ≠ 200) (htally : x'.tally = x.tally)
      (hrecords : x'.engine.store.ledger.records = x.engine.store.ledger.records) :
      Booked e x x' response

/-- What a call has counted and recorded when it is dropped: nothing is counted, but for an expense
loans may have been recorded. -/
structure Abandoned (e : Endpoint) (x x' : Site Store) : Prop where
  /-- Nothing has been counted. -/
  tally : x'.tally = x.tally
  /-- Loans may have been added to the records. -/
  records : ∃ batch, x'.engine.store.ledger.records = x.engine.store.ledger.records ++ batch ∧
    (e ≠ .shareExpense → batch = [])

section Calls

variable {b : Backends Store} (hb : b.Realizes) (settings : EngineSettings)
include hb

/-- What sharing an expense counts. -/
theorem triple_shareExpense_booked (payer : UserId) (group : GroupId) (amount : Int)
    (x : Site Store) :
    Triple (fun x' => x' = x) (shareExpense b settings payer group amount)
      (fun response x' => Booked .shareExpense x x' response) (Abandoned .shareExpense x) := by
  obtain ⟨-, hcases⟩ := Store.share_isBatch payer amount group x.engine.store
  have hshare := Engine.triple_shareExpense_share hb settings payer amount group x.engine.store
  -- The tally is carried along, since the engine leaves it alone.
  have hengine : Triple (fun x' => x' = x)
      (onEngine (Engine.shareExpense b settings payer amount group))
      (fun r x' => (r = (x.engine.store.share payer amount group).1 ∧
        (x.engine.store.share payer amount group).2.SameButCache x'.engine.store) ∧
        x'.tally = x.tally) (Abandoned .shareExpense x) := by
    rintro budget x' rfl
    have hleaves := (triple_onEngine_counters hshare) budget x' rfl
    have htally := (quiet_onEngine (Engine.shareExpense b settings payer amount group)
      budget x').1
    refine ⟨fun r spent hr => ⟨hleaves.done r spent hr, htally⟩, fun hr => ?_⟩
    obtain ⟨hbudget, hstate⟩ := hleaves.dropped hr
    refine ⟨hbudget, htally, ?_⟩
    rcases hstate with hsame | hsame
    · exact ⟨[], by rw [hsame, List.append_nil], fun _ => rfl⟩
    · rcases hcases with ⟨-, hledger⟩ | ⟨expense, -, -, -, -, -, hledger⟩
      · exact ⟨[], by rw [hsame.ledger, hledger, List.append_nil], fun _ => rfl⟩
      · exact ⟨expense.loans, by rw [hsame.ledger, hledger], fun h => absurd rfl h⟩
  refine hengine.bind_except (fun e => .pure ?_) fun expense => ?_
  · rintro x' ⟨⟨hvalue, hsame⟩, htally⟩
    refine .other _ (Failure.status_ofError_mem e) (fun _ hstatus => ?_) htally ?_
    · have hle := Failure.le_status_ofError e
      have hok : (Failure.ofError e).status = 200 := hstatus
      omega
    · rcases hcases with ⟨-, hledger⟩ | ⟨expense, -, -, hok, -⟩
      · rw [hsame.ledger, hledger]
      · rw [← hvalue] at hok
        contradiction
  · refine (Triple.act ?_).bind fun _ => .pure fun _ h => h
    rintro x' ⟨⟨hvalue, hsame⟩, htally⟩
    refine .shared expense rfl (congrArg (Tally.countExpense · expense.loans.length) htally) ?_
    rcases hcases with ⟨⟨e, herror⟩, -⟩ | ⟨expense', -, -, hok, -, -, hledger⟩
    · rw [← hvalue] at herror
      contradiction
    · rw [← hvalue] at hok
      cases hok
      exact (congrArg Ledger.records hsame.ledger).trans (congrArg Ledger.records hledger)

/-- **What a call counts.** -/
theorem triple_perform_booked (actor : UserId) (call : Call) (x : Site Store) :
    Triple (fun x' => x' = x) (perform b settings actor call)
      (fun response x' => Booked call.endpoint x x' response) (Abandoned call.endpoint x) := by
  by_cases hcall : call.endpoint = .shareExpense
  · cases call with
    | shareExpense group message =>
      change Triple _ (unlessBroken message.breach?
        (shareExpense b settings actor group message.amount)) _ _
      cases message.breach? with
      | none => exact triple_shareExpense_booked hb settings actor group message.amount x
      | some breach =>
        refine .pure ?_
        rintro x' rfl
        exact .other _ (by decide : 400 ∈ Call.statuses) (fun _ => (by decide : 400 ≠ 200)) rfl rfl
    | _ => contradiction
  · rintro budget x' rfl
    have heffect := triple_perform_effect hb settings actor call x' budget x' rfl
    obtain ⟨htally, hstatus⟩ := quiet_perform b settings actor call hcall budget x'
    have hsame {status? : Option Nat} {y : Site Store}
        (h : Effect (some call.endpoint) (some (actor, call)) x' y status?) :
        y.engine.store.ledger.records = x'.engine.store.ledger.records := by
      rcases h.records with hrecords | ⟨payer, group, message, -, -, -, hshare, -⟩
      · exact hrecords
      · cases hshare
        exact absurd rfl hcall
    refine ⟨fun response spent hr => ?_, fun hr => ?_⟩
    · exact .other response (hstatus response spent hr) (fun h => absurd h hcall) htally
        (hsame (heffect.done response spent hr))
    · obtain ⟨hbudget, hdropped⟩ := heffect.dropped hr
      exact ⟨hbudget, htally, [], by rw [hsame hdropped, List.append_nil], fun _ => rfl⟩

end Calls

/-! ## Requests -/

/-- A call under the deadline of a request, which itself has no deadline: the request is counted with
the status of the response, or with 504 when the call is dropped. -/
theorem answer_eq (b : Backends σ) (settings : EngineSettings) (timeout : Nat) (actor : UserId)
    (call : Call) (x : Site σ) :
    answer b settings timeout actor call none x =
      match perform b settings actor call (some timeout) x with
      | ⟨y, .done response spent⟩ =>
        ⟨{ y with tally := y.tally.countRequest call.endpoint.name response.status },
          .done response spent⟩
      | ⟨y, .dropped⟩ =>
        ⟨{ y with tally := y.tally.countRequest call.endpoint.name 504 },
          .done Failure.timeout.response timeout⟩ := by
  unfold answer
  rcases hrun : perform b settings actor call (some timeout) x with ⟨y, ⟨response, spent⟩ | _⟩
  · have hwithin : Task.within timeout (perform b settings actor call) none x =
        ⟨y, .done (some response) spent⟩ := by
      simp only [Task.within, Task.fits, if_true, hrun]
    rw [bind_of_done hwithin]
    rfl
  · have hwithin : Task.within timeout (perform b settings actor call) none x =
        ⟨y, .done none timeout⟩ := by
      simp only [Task.within, Task.fits, if_true, hrun]
    rw [bind_of_done hwithin]
    rfl

/-- How a request is answered that asks for no call. -/
inductive AnsweredAtOnce (r : Request) : Response → Prop where
  /-- There is nothing at its path. -/
  | noRoute (h : Route.find? r.method r.target = none) : AnsweredAtOnce r Reject.absent.response
  /-- It asks for the state of health. -/
  | health (h : Route.find? r.method r.target = some .health) :
      AnsweredAtOnce r ⟨200, .json Site.health⟩
  /-- It asks for the counters. -/
  | metrics (h : Route.find? r.method r.target = some .metrics) (text : String) :
      AnsweredAtOnce r ⟨200, .exposition text⟩
  /-- It does not tell who calls. -/
  | unknownCaller (e : Endpoint) (ids : List String)
      (h : Route.find? r.method r.target = some (.endpoint e ids)) (hactor : r.actor? = none) :
      AnsweredAtOnce r Failure.unauthorized.response
  /-- Its path or its body cannot be read. -/
  | unread (e : Endpoint) (ids : List String) (reject : Reject)
      (h : Route.find? r.method r.target = some (.endpoint e ids))
      (hread : readCall e ids r = .error reject) : AnsweredAtOnce r reject.response

/-- A request that asks for no call is answered at once and changes nothing. -/
theorem handle_of_call?_eq_none (b : Backends σ) (settings : EngineSettings) (timeout : Nat)
    {r : Request} (h : r.call? = none) (budget : Option Nat) (x : Site σ) :
    ∃ response, AnsweredAtOnce r response ∧
      handle b settings timeout r budget x = ⟨x, .done response 0⟩ := by
  unfold Request.call? at h
  unfold handle
  cases hroute : Route.find? r.method r.target with
  | none => exact ⟨_, .noRoute hroute, rfl⟩
  | some route =>
    rw [hroute] at h
    cases route with
    | health => exact ⟨_, .health hroute, rfl⟩
    | metrics => exact ⟨_, .metrics hroute _, rfl⟩
    | endpoint e ids =>
      dsimp only at h ⊢
      cases hactor : r.actor? with
      | none => exact ⟨_, .unknownCaller e ids hroute hactor, rfl⟩
      | some actor =>
        cases hcall : readCall e ids r with
        | error reject => exact ⟨_, .unread e ids reject hroute hcall, rfl⟩
        | ok call =>
          rw [hactor, hcall] at h
          contradiction

/-- At an endpoint, what is answered at once is no success. -/
theorem AnsweredAtOnce.status_ne {r : Request} {response : Response}
    (h : AnsweredAtOnce r response) (hendpoint : r.endpoint?.isSome = true) :
    response.status ≠ 200 := by
  cases h with
  | noRoute h => exact (by decide : 404 ≠ 200)
  | health h =>
    unfold Request.endpoint? at hendpoint
    rw [h] at hendpoint
    contradiction
  | metrics h text =>
    unfold Request.endpoint? at hendpoint
    rw [h] at hendpoint
    contradiction
  | unknownCaller e ids h hactor => exact (by decide : 401 ≠ 200)
  | unread e ids reject h hread => exact reject.status_ne

/-- The call of a request is dropped at the deadline of requests. -/
def isLate (b : Backends σ) (settings : EngineSettings) (timeout : Nat) (r : Request)
    (x : Site σ) : Bool :=
  match r.call? with
  | some (actor, call) =>
    match (perform b settings actor call (some timeout) x).outcome with
    | .done _ _ => false
    | .dropped => true
  | none => false

/-- What has been counted and recorded when a request has been answered. -/
structure Exchanged (x x' : Site Store) (q : Exchange) : Prop where
  /-- An expense is counted if it has been answered with 200. -/
  expenses : x'.tally.expenses = x.tally.expenses + if q.shares then 1 else 0
  /-- So are its loans, which the answer lists. -/
  loans : x'.tally.loans = x.tally.loans + q.loans
  /-- These loans have been recorded, and others only if an expense has been dropped. -/
  records : ∃ batch, x'.engine.store.ledger.records = x.engine.store.ledger.records ++ batch ∧
    q.loans ≤ batch.length ∧
    ((q.request.endpoint? = some .shareExpense → q.late = false) → batch.length = q.loans)
  /-- A request that asks for a call is counted with its status, and no other request is. -/
  requests : match q.counted? with
    | none => x'.tally.requests = x.tally.requests
    | some (e, status) => status ∈ Call.statuses ∧
      x'.tally.requests = (x.tally.countRequest e.name status).requests
  /-- A call that is dropped is answered with 504. -/
  late : q.late = true → q.response.status = 504

/-- No expense has been shared. -/
theorem exchanged_of_not_shares {x x' : Site Store} {q : Exchange} (hshares : q.shares = false)
    (hexpenses : x'.tally.expenses = x.tally.expenses) (hloans : x'.tally.loans = x.tally.loans)
    (hrecords : ∃ batch, x'.engine.store.ledger.records =
        x.engine.store.ledger.records ++ batch ∧
      ((q.request.endpoint? = some .shareExpense → q.late = false) → batch = []))
    (hrequests : match q.counted? with
      | none => x'.tally.requests = x.tally.requests
      | some (e, status) => status ∈ Call.statuses ∧
        x'.tally.requests = (x.tally.countRequest e.name status).requests)
    (hlate : q.late = true → q.response.status = 504) : Exchanged x x' q := by
  have hzero : q.loans = 0 := by
    unfold Exchange.loans
    rw [hshares]
    rfl
  obtain ⟨batch, hbatch, hempty⟩ := hrecords
  refine ⟨?_, ?_, ⟨batch, hbatch, ?_, fun h => ?_⟩, hrequests, hlate⟩
  · rw [hexpenses, hshares]
    rfl
  · rw [hloans, hzero]
    rfl
  · rw [hzero]
    exact Nat.zero_le _
  · rw [hempty h, hzero]
    rfl

/-- A request that asks for no call. -/
theorem exchanged_of_call?_eq_none {r : Request} {response : Response} (x : Site Store)
    (hcall : r.call? = none)
    (hstatus : r.endpoint? = some .shareExpense → response.status ≠ 200) :
    Exchanged x x ⟨r, response, false⟩ := by
  have hcounted : (⟨r, response, false⟩ : Exchange).counted? = none := by
    simp [Exchange.counted?, hcall]
  refine exchanged_of_not_shares ?_ rfl rfl ⟨[], (List.append_nil _).symm, fun _ => rfl⟩ ?_ ?_
  · simpa [Exchange.shares] using hstatus
  · rw [hcounted]
  · intro h
    contradiction

section Asked

variable {r : Request} {actor : UserId} {call : Call} (hcall : r.call? = some (actor, call))
include hcall

/-- A request that asks for a call is counted under its endpoint. -/
theorem counted?_of_call? (response : Response) (late : Bool) :
    Exchange.counted? ⟨r, response, late⟩ = some (call.endpoint, response.status) := by
  unfold Exchange.counted?
  rw [hcall]
  rfl

/-- It shares an expense if it asks for one and is answered with 200. -/
theorem shares_of_call? (response : Response) (late : Bool) :
    Exchange.shares ⟨r, response, late⟩ =
      (call.endpoint = .shareExpense && response.status = 200) := by
  unfold Exchange.shares
  rw [r.endpoint?_of_call? actor call hcall]
  simp

/-- A call that has given a response is counted with its status. -/
theorem exchanged_of_booked {x y : Site Store} {response : Response}
    (h : Booked call.endpoint x y response) :
    Exchanged x { y with tally := y.tally.countRequest call.endpoint.name response.status }
      ⟨r, response, false⟩ := by
  cases h with
  | shared expense he htally hrecords =>
    have hshares : Exchange.shares ⟨r, ⟨200, asJson expense⟩, false⟩ = true := by
      rw [shares_of_call? hcall, he]
      rfl
    have hlisted : Exchange.loans ⟨r, ⟨200, asJson expense⟩, false⟩ = expense.loans.length := by
      unfold Exchange.loans
      rw [hshares]
      exact Content.listedLoans_asJson expense
    refine ⟨?_, ?_, ⟨expense.loans, hrecords, Nat.le_of_eq hlisted, fun _ => hlisted.symm⟩, ?_,
      fun hlate => by contradiction⟩
    · rw [hshares]
      exact congrArg Tally.expenses htally
    · rw [hlisted]
      exact congrArg Tally.loans htally
    · rw [counted?_of_call? hcall]
      -- The expense has been counted already, and this has left the samples alone.
      have hrequests : y.tally.requests = x.tally.requests := by
        rw [htally]
        rfl
      exact ⟨(by decide : 200 ∈ Call.statuses), Tally.requests_countRequest hrequests _ _⟩
  | other _ hstatus hne htally hrecords =>
    have hexpenses : y.tally.expenses = x.tally.expenses := congrArg Tally.expenses htally
    have hloans : y.tally.loans = x.tally.loans := congrArg Tally.loans htally
    have hrequests : y.tally.requests = x.tally.requests := congrArg Tally.requests htally
    refine exchanged_of_not_shares ?_ hexpenses hloans ⟨[], ?_, fun _ => rfl⟩ ?_
      fun hlate => by contradiction
    · rw [shares_of_call? hcall]
      simpa using hne
    · rw [List.append_nil]
      exact hrecords
    · rw [counted?_of_call? hcall]
      exact ⟨hstatus, Tally.requests_countRequest hrequests _ _⟩

/-- A call that has been dropped is counted with 504. -/
theorem exchanged_of_abandoned {x y : Site Store} (h : Abandoned call.endpoint x y) :
    Exchanged x { y with tally := y.tally.countRequest call.endpoint.name 504 }
      ⟨r, Failure.timeout.response, true⟩ := by
  obtain ⟨batch, hrecords, hbatch⟩ := h.records
  have hexpenses : y.tally.expenses = x.tally.expenses := congrArg Tally.expenses h.tally
  have hloans : y.tally.loans = x.tally.loans := congrArg Tally.loans h.tally
  have hrequests : y.tally.requests = x.tally.requests := congrArg Tally.requests h.tally
  refine exchanged_of_not_shares ?_ hexpenses hloans
    ⟨batch, hrecords, fun hlate => hbatch fun he => ?_⟩ ?_ fun _ => rfl
  · rw [shares_of_call? hcall]
    exact Bool.and_false _
  · -- A request for an expense has not been dropped, but this one has.
    have hnot := hlate (by rw [r.endpoint?_of_call? actor call hcall, he])
    contradiction
  · rw [counted?_of_call? hcall]
    exact ⟨(by decide : 504 ∈ Call.statuses), Tally.requests_countRequest hrequests _ _⟩

/-- A request that asks for a call. -/
theorem exchanged_of_call? {b : Backends Store} (hb : b.Realizes) (settings : EngineSettings)
    (timeout : Nat) (x : Site Store) :
    ∃ response spent, (answer b settings timeout actor call none x).outcome =
      .done response spent ∧
      Exchanged x (answer b settings timeout actor call none x).state
        ⟨r, response, isLate b settings timeout r x⟩ := by
  have hbooked := triple_perform_booked hb settings actor call x (some timeout) x rfl
  rw [answer_eq]
  unfold isLate
  rw [hcall]
  dsimp only
  -- The status is counted outside the deadline, so that a call that is dropped is counted too.
  rcases hrun : perform b settings actor call (some timeout) x with ⟨y, _ | _⟩
  · rename_i response spent
    rw [hrun] at hbooked
    exact ⟨response, spent, rfl, exchanged_of_booked hcall (hbooked.done response spent rfl)⟩
  · rw [hrun] at hbooked
    exact ⟨_, timeout, rfl, exchanged_of_abandoned hcall (hbooked.dropped rfl).2⟩

end Asked

/-- **What a request counts.** It is answered, whatever the state of the store and however long it
waits. -/
theorem exchanged_handle {b : Backends Store} (hb : b.Realizes) (settings : EngineSettings)
    (timeout : Nat) (r : Request) (x : Site Store) :
    ∃ response spent, (handle b settings timeout r none x).outcome = .done response spent ∧
      Exchanged x (handle b settings timeout r none x).state
        ⟨r, response, isLate b settings timeout r x⟩ := by
  cases hcall : r.call? with
  | some c =>
    obtain ⟨actor, call⟩ := c
    rw [handle_of_call? b settings timeout r actor call hcall]
    exact exchanged_of_call? hcall hb settings timeout x
  | none =>
    have hlate : isLate b settings timeout r x = false := by
      unfold isLate
      rw [hcall]
    rw [hlate]
    obtain ⟨response, hresponse, hrun⟩ := handle_of_call?_eq_none b settings timeout hcall none x
    rw [hrun]
    refine ⟨response, 0, rfl, exchanged_of_call?_eq_none x hcall fun he => ?_⟩
    exact hresponse.status_ne (by rw [he]; rfl)

end Site

end ExpenseLedger.Web
