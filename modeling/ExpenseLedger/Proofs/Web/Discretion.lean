import ExpenseLedger.Proofs.Run.Staleness
import ExpenseLedger.Proofs.Web.Akin
import ExpenseLedger.Proofs.Web.Counting
import ExpenseLedger.Proofs.Web.Validation
/-!
# What clients are not told

The causes that are no client's business are told apart by their kinds and by their details, and
clients see neither: all of them are answered with one of two fixed bodies. So backends that behave
alike, but for the details of such causes, are the same to a client. Main statements:

* `Site.akin_perform_serve`: the response to a call is made of what the service call gives;
* `Site.exists_answered`: how requests are answered;
* `Site.told_of_answered`: which answers have a status between 400 and 499, and which a greater one;
* `Site.handle_hides_details`: two sets of backends that differ in the details of such causes.
-/

open ExpenseLedger.Task

namespace ExpenseLedger

variable {σ τ α β : Type}

/-! ## Causes in other words -/

/-- Both causes are the same, or both are of one kind that is not told to clients. -/
def Error.Reworded (e e' : Error) : Prop :=
  e = e' ∨ e.kind = e'.kind ∧ e.isClientError = false

/-- A cause is not reworded where it is left alone. -/
theorem Error.Reworded.refl (e : Error) : e.Reworded e := .inl rfl

namespace Web

/-- The answer to what goes wrong behind the service. -/
def Response.internal : Response :=
  ⟨500, .json (Json.record [("error", Json.record
    [("code", Json.nat 500), ("message", Json.text "Internal server error"),
      ("type", Json.text "internal_error")])])⟩

/-- The answer where time has run out. -/
def Response.timedOut : Response :=
  ⟨504, .json (Json.record [("error", Json.record
    [("code", Json.nat 504), ("message", Json.text "Request timed out"),
      ("type", Json.text "timeout")])])⟩

/-- What is told to clients is answered with a status between 400 and 499. -/
theorem Failure.status_of_isClientError {e : Error} (h : e.isClientError = true) :
    400 ≤ (ofError e).response.status ∧ (ofError e).response.status < 500 := by
  change 400 ≤ (ofError e).status ∧ (ofError e).status < 500
  unfold Error.isClientError at h
  unfold ofError
  cases hkind : e.kind with
  | notFound => exact (by decide : 400 ≤ 404 ∧ 404 < 500)
  | forbidden => exact (by decide : 400 ≤ 403 ∧ 403 < 500)
  | badRequest => exact (by decide : 400 ≤ 400 ∧ 400 < 500)
  | storage => rw [hkind] at h; contradiction
  | cache => rw [hkind] at h; contradiction
  | corrupted => rw [hkind] at h; contradiction
  | timeout => rw [hkind] at h; contradiction

/-- **What is not told to clients is answered by its kind alone.** -/
theorem Failure.response_of_not_isClientError {e : Error} (h : e.isClientError = false) :
    (ofError e).response = if e.kind = .timeout then Response.timedOut else Response.internal := by
  unfold Error.isClientError at h
  unfold ofError
  cases hkind : e.kind with
  | notFound => rw [hkind] at h; contradiction
  | forbidden => rw [hkind] at h; contradiction
  | badRequest => rw [hkind] at h; contradiction
  | storage => rfl
  | cache => rfl
  | corrupted => rfl
  | timeout => rfl

/-- Causes in other words get the same answer. -/
theorem Failure.response_of_reworded {e e' : Error} (h : e.Reworded e') :
    (ofError e).response = (ofError e').response := by
  rcases h with rfl | ⟨hkind, hclient⟩
  · rfl
  · have hclient' : e'.isClientError = false := by
      unfold Error.isClientError at hclient ⊢
      rw [← hkind, hclient]
    rw [response_of_not_isClientError hclient, response_of_not_isClientError hclient', hkind]

namespace Site

/-! ## Calls -/

/-- The engine of the site is the engine. -/
def RunsOn (x : Site σ) (e : Engine σ) : Prop := x.engine = e

/-- Tasks of the engine. -/
theorem akin_onEngine_runsOn {V : α → β → Prop} {t : Task (Engine σ) α} {u : Task (Engine σ) β}
    (h : Akin Eq V t u) : Akin RunsOn V (onEngine t) u := by
  rintro budget x e rfl
  exact h budget x.engine x.engine rfl

/-- Counting is nothing to the engine. -/
theorem akin_count_runsOn (f : Tally → Tally) (a : α) :
    Akin RunsOn (fun _ (a' : α) => a' = a) (count f) (Pure.pure a : Task (Engine σ) α) := by
  intro budget x e hx
  refine ⟨?_, hx⟩
  refine .done ?_ 0
  rfl

/-- The lines of a balance are made of the balance. -/
theorem akin_balanceLinesOf_balanceOf (b : Backends σ) (settings : EngineSettings)
    (user : UserId) :
    Akin Eq (fun lines r => lines = r.map Balance.lines)
      (Engine.balanceLinesOf b settings user) (Engine.balanceOf b settings user) := by
  have hlines : Engine.balanceLinesOf b settings user =
      (Engine.balanceOf b settings user >>= fun r => Pure.pure (r.map Balance.lines)) := by
    refine congrArg _ (funext fun r => ?_)
    cases r <;> rfl
  rw [hlines]
  exact (Akin.refl _).map_left fun r r' hr => by rw [hr]

/-- A response that is made of what a task gives. -/
theorem akin_replying (t : Task (Engine σ) (Except Error α)) (reply : α → Reply) (status : Nat)
    (actor : UserId) :
    Akin RunsOn (fun (response : Response) r => response = respond status (Reply.content actor) r)
      (do let r ← onEngine t; return respond status (fun a => (reply a).content actor) r)
      (replying t reply) := by
  refine (akin_onEngine_runsOn (.refl t)).bind fun r r' hr => .pure ?_
  subst hr
  cases r <;> rfl

/-- **The response to a call is made of what the service call gives**, on any backends. -/
theorem akin_perform_serve (b : Backends σ) (settings : EngineSettings) (actor : UserId)
    (call : Call) (hvalid : call.breach? = none) :
    Akin RunsOn
      (fun (response : Response) r => response = respond call.success (Reply.content actor) r)
      (perform b settings actor call) (call.serve b settings actor) := by
  cases call with
  | getBalance =>
    refine (akin_onEngine_runsOn (akin_balanceLinesOf_balanceOf b settings actor)).bind fun lines r hlines => .pure ?_
    subst hlines
    cases r <;> rfl
  | listGroups => exact akin_replying _ .groups 200 actor
  | createGroup message =>
    change message.breach? = none at hvalid
    unfold perform unlessBroken
    dsimp only
    rw [hvalid]
    exact akin_replying _ .group 201 actor
  | getGroup group => exact akin_replying _ .info 200 actor
  | deleteGroup group => exact akin_replying _ (fun _ => .done) 204 actor
  | listMembers group => exact akin_replying _ .members 200 actor
  | addMembers group message =>
    change message.breach? = none at hvalid
    unfold perform unlessBroken
    dsimp only
    rw [hvalid]
    exact akin_replying _ (fun _ => .done) 204 actor
  | removeMember group user => exact akin_replying _ (fun _ => .done) 204 actor
  | shareExpense group message =>
    change message.breach? = none at hvalid
    unfold perform unlessBroken
    dsimp only
    rw [hvalid]
    refine (akin_onEngine_runsOn (.refl _)).bind fun r r' hr => ?_
    subst hr
    cases r with
    | error e => exact .pure rfl
    | ok expense =>
      -- The expense is counted before it is answered, which takes no time.
      refine (akin_count_runsOn _ _).map_left fun _ r hr => ?_
      rw [hr]
      rfl

/-- How a request is answered. -/
inductive Answered (b : Backends σ) (settings : EngineSettings) (timeout : Nat) (x : Site σ)
    (r : Request) : Response → Prop where
  /-- It asks for no call. -/
  | atOnce {response : Response} (h : AnsweredAtOnce r response) :
    Answered b settings timeout x r response
  /-- Its message breaks a rule. -/
  | invalid {actor : UserId} {call : Call} {breach : Breach} (h : r.call? = some (actor, call))
    (hbreach : call.breach? = some breach) :
    Answered b settings timeout x r (Failure.validation breach.message).response
  /-- The service call gives a result in time. -/
  | served {actor : UserId} {call : Call} {result : Except Error Reply} {spent : Nat}
    (h : r.call? = some (actor, call)) (hvalid : call.breach? = none)
    (hserve : (call.serve b settings actor (some timeout) x.engine).outcome = .done result spent) :
    Answered b settings timeout x r (respond call.success (Reply.content actor) result)
  /-- The service call is dropped at the deadline. -/
  | late {actor : UserId} {call : Call} (h : r.call? = some (actor, call))
    (hvalid : call.breach? = none)
    (hserve : (call.serve b settings actor (some timeout) x.engine).outcome = .dropped) :
    Answered b settings timeout x r .timedOut

/-- **Every request is answered**, on any backends. -/
theorem exists_answered (b : Backends σ) (settings : EngineSettings) (timeout : Nat) (r : Request)
    (x : Site σ) :
    ∃ response spent, (handle b settings timeout r none x).outcome = .done response spent ∧
      Answered b settings timeout x r response := by
  cases hcall : r.call? with
  | none =>
    obtain ⟨response, hresponse, hrun⟩ := handle_of_call?_eq_none b settings timeout hcall none x
    rw [hrun]
    exact ⟨response, 0, rfl, .atOnce hresponse⟩
  | some c =>
    obtain ⟨actor, call⟩ := c
    rw [handle_of_call? b settings timeout r actor call hcall, answer_eq]
    cases hbreach : call.breach? with
    | some breach =>
      obtain ⟨t, ht⟩ := exists_perform_eq b settings actor call
      rw [ht, hbreach]
      exact ⟨_, 0, rfl, .invalid hcall hbreach⟩
    | none =>
      -- The call ends when the service call ends, and is dropped when that is dropped.
      rcases (akin_perform_serve b settings actor call hbreach).cases (some timeout)
        (rfl : RunsOn x x.engine) with ⟨y, e, response, result, spent, hperform, hserve, rfl, -⟩ |
        ⟨y, e, hperform, hserve, -⟩
      · rw [hperform]
        exact ⟨_, spent, rfl, .served hcall hbreach (by rw [hserve])⟩
      · rw [hperform]
        exact ⟨_, timeout, rfl, .late hcall hbreach (by rw [hserve])⟩

/-! ## Refused requests -/

/-- Why a request is refused with a status between 400 and 499. -/
inductive Refused (b : Backends σ) (settings : EngineSettings) (timeout : Nat) (x : Site σ)
    (r : Request) : Prop where
  /-- There is nothing at its path for its method. -/
  | noRoute (h : Route.find? r.method r.target = none)
  /-- It does not tell who calls. -/
  | unknownCaller (e : Endpoint) (ids : List String)
      (h : Route.find? r.method r.target = some (.endpoint e ids)) (hactor : r.actor? = none)
  /-- An identifier in its path or its body cannot be read. -/
  | unread (e : Endpoint) (ids : List String) (reject : Reject)
      (h : Route.find? r.method r.target = some (.endpoint e ids))
      (hread : readCall e ids r = .error reject)
  /-- Its message breaks a rule. -/
  | invalid (actor : UserId) (call : Call) (h : r.call? = some (actor, call))
      (hbreach : call.breach? ≠ none)
  /-- The service call gives, before the deadline, an error that is told to clients. -/
  | error (actor : UserId) (call : Call) (e : Error) (spent : Nat)
      (h : r.call? = some (actor, call))
      (hserve : (call.serve b settings actor (some timeout) x.engine).outcome =
        .done (.error e) spent)
      (hclient : e.isClientError = true)

section Refusals

variable (b : Backends σ) (settings : EngineSettings) (timeout : Nat) (x : Site σ) {r : Request}
  {actor : UserId} {call : Call}

/-- A request that asks for a valid call is refused because of an error of the service call. -/
theorem refused_iff_of_call? (hcall : r.call? = some (actor, call))
    (hvalid : call.breach? = none) :
    Refused b settings timeout x r ↔ ∃ e spent,
      (call.serve b settings actor (some timeout) x.engine).outcome = .done (.error e) spent ∧
        e.isClientError = true := by
  constructor
  · intro h
    -- In all other cases there is no call, or the message breaks a rule.
    cases h with
    | noRoute h => simp [Request.call?, h] at hcall
    | unknownCaller e ids h hactor => simp [Request.call?, h, hactor] at hcall
    | unread e ids reject h hread => simp [Request.call?, h, hread] at hcall
    | invalid actor' call' h hbreach =>
      rw [hcall] at h
      cases h
      exact absurd hvalid hbreach
    | error actor' call' e spent h hserve hclient =>
      rw [hcall] at h
      cases h
      exact ⟨e, spent, hserve, hclient⟩
  · rintro ⟨e, spent, hserve, hclient⟩
    exact .error actor call e spent hcall hserve hclient

omit actor call in
/-- What asks for the state of health or for the counters is not refused. -/
theorem not_refused_of_unguarded {route : Route} (hfind : Route.find? r.method r.target = some route)
    (hroute : route = .health ∨ route = .metrics) : ¬ Refused b settings timeout x r := by
  have hcall : r.call? = none := by
    unfold Request.call?
    rw [hfind]
    rcases hroute with rfl | rfl
    · rfl
    · rfl
  have hendpoint (e : Endpoint) (ids : List String) :
      Route.find? r.method r.target ≠ some (.endpoint e ids) := by
    rw [hfind]
    rcases hroute with rfl | rfl
    · simp
    · simp
  intro h
  cases h with
  | noRoute h =>
    rw [hfind] at h
    contradiction
  | unknownCaller e ids h hactor => exact hendpoint e ids h
  | unread e ids reject h hread => exact hendpoint e ids h
  | invalid actor call h hbreach =>
    rw [hcall] at h
    contradiction
  | error actor call e spent h hserve hclient =>
    rw [hcall] at h
    contradiction

/-- The status of an answer tells a refusal, and an answer behind it is one of the two fixed ones. -/
structure Told (refused : Prop) (response : Response) : Prop where
  /-- A status between 400 and 499 tells that the request has been refused. -/
  refusal : 400 ≤ response.status ∧ response.status < 500 ↔ refused
  /-- Any status above these comes with one of two fixed answers. -/
  failure : 500 ≤ response.status → response = .internal ∨ response = .timedOut

omit actor call in
/-- What is answered to whoever asks for the state of health or for the counters. -/
theorem told_of_unguarded {route : Route} (hfind : Route.find? r.method r.target = some route)
    (hroute : route = .health ∨ route = .metrics) {response : Response}
    (hstatus : response.status = 200) : Told (Refused b settings timeout x r) response := by
  have hnot := not_refused_of_unguarded b settings timeout x hfind hroute
  refine ⟨⟨fun hrange => ?_, fun hrefused => absurd hrefused hnot⟩, fun hrange => ?_⟩
  · omega
  · omega

/-- What is answered to a request that asks for no call. -/
theorem told_of_answeredAtOnce {response : Response} (h : AnsweredAtOnce r response) :
    Told (Refused b settings timeout x r) response := by
  cases h with
  | noRoute h =>
    exact ⟨⟨fun _ => .noRoute h, fun _ => (by decide : 400 ≤ 404 ∧ 404 < 500)⟩,
      fun hstatus => absurd hstatus (by decide : ¬ 500 ≤ 404)⟩
  | health h =>
    exact told_of_unguarded b settings timeout x h (.inl rfl) rfl
  | metrics h text =>
    exact told_of_unguarded b settings timeout x h (.inr rfl) rfl
  | unknownCaller e ids h hactor =>
    exact ⟨⟨fun _ => .unknownCaller e ids h hactor,
      fun _ => (by decide : 400 ≤ 401 ∧ 401 < 500)⟩,
      fun hstatus => absurd hstatus (by decide : ¬ 500 ≤ 401)⟩
  | unread e ids reject h hread =>
    have hrange : 400 ≤ reject.response.status ∧ reject.response.status < 500 := by
      cases reject <;> decide
    exact ⟨⟨fun _ => .unread e ids reject h hread, fun _ => hrange⟩, fun hstatus => by omega⟩

/-- What is answered to a service call. -/
theorem told_respond (actor : UserId) (call : Call) (result : Except Error Reply) :
    Told (∃ e, result = .error e ∧ e.isClientError = true)
      (respond call.success (Reply.content actor) result) := by
  cases result with
  | ok reply =>
    have hsuccess : call.success < 400 := by
      unfold Call.success
      split <;> decide
    refine ⟨⟨fun hrange => ?_, fun ⟨e, he, _⟩ => by contradiction⟩, fun hrange => ?_⟩
    · exact absurd hrange.1 (Nat.not_le.2 hsuccess)
    · exact absurd hrange (Nat.not_le.2 (Nat.lt_trans hsuccess (by decide)))
  | error e =>
    change Told _ (Failure.ofError e).response
    cases hclient : e.isClientError with
    | true =>
      have hrange := Failure.status_of_isClientError hclient
      exact ⟨⟨fun _ => ⟨e, rfl, hclient⟩, fun _ => hrange⟩, fun hstatus => by omega⟩
    | false =>
      have hnot : ¬ ∃ e', (.error e : Except Error Reply) = .error e' ∧
          e'.isClientError = true := by
        rintro ⟨e', he, hclient'⟩
        cases he
        rw [hclient] at hclient'
        contradiction
      rw [Failure.response_of_not_isClientError hclient]
      split
      · exact ⟨⟨fun hrange => absurd hrange (by decide), fun h => absurd h hnot⟩,
          fun _ => .inr rfl⟩
      · exact ⟨⟨fun hrange => absurd hrange (by decide), fun h => absurd h hnot⟩,
          fun _ => .inl rfl⟩

/-- **What answers tell**, on any backends: a status between 400 and 499 exactly if the request is
refused, and a greater one with a fixed answer. -/
theorem told_of_answered {response : Response} (h : Answered b settings timeout x r response) :
    Told (Refused b settings timeout x r) response := by
  cases h with
  | atOnce h => exact told_of_answeredAtOnce b settings timeout x h
  | @invalid actor call breach hcall hbreach =>
    refine ⟨⟨fun _ => .invalid actor call hcall (by simp [hbreach]), fun _ => ?_⟩,
      fun hstatus => ?_⟩
    · exact (by decide : 400 ≤ 400 ∧ 400 < 500)
    · exact absurd hstatus (by decide : ¬ 500 ≤ 400)
  | @served actor call result spent hcall hvalid hserve =>
    have hrefused := refused_iff_of_call? b settings timeout x hcall hvalid
    rw [hserve] at hrefused
    have htold := told_respond actor call result
    refine ⟨htold.refusal.trans (.trans ?_ hrefused.symm), htold.failure⟩
    constructor
    · rintro ⟨e, rfl, hclient⟩
      exact ⟨e, spent, rfl, hclient⟩
    · rintro ⟨e, spent', he, hclient⟩
      cases he
      exact ⟨e, rfl, hclient⟩
  | late hcall hvalid hserve =>
    have hrefused := refused_iff_of_call? b settings timeout x hcall hvalid
    rw [hserve] at hrefused
    refine ⟨⟨fun hrange => ?_, fun h => ?_⟩, fun _ => .inr rfl⟩
    · exact absurd hrange (by decide : ¬ (400 ≤ 504 ∧ 504 < 500))
    · obtain ⟨e, spent, he, -⟩ := hrefused.1 h
      contradiction

end Refusals

/-! ## Backends that differ in details -/

/-- **Details of the backends never reach clients.** Two sets of backends behave alike, but where
the causes are not told to clients they may describe them in other words. Every request gets the
same answer after the same time on both, and leaves them such that this holds of the next request
too. The request is answered, whatever the backends do: with a status between 400 and 499 exactly if
there is no route for it, it does not tell who calls, something in it cannot be read, its message
breaks a rule, or the service gives an error that is told to clients; and with a greater status only
by one of two fixed answers. -/
theorem handle_hides_details {R : τ → σ → Prop} {b : Backends τ} {c : Backends σ}
    (h : b.Akin R Error.Reworded c) (settings : EngineSettings) (timeout : Nat) (r : Request) :
    (∀ budget x y, AkinTo R x y →
      (handle b settings timeout r budget x).outcome =
          (handle c settings timeout r budget y).outcome ∧
        AkinTo R (handle b settings timeout r budget x).state
          (handle c settings timeout r budget y).state) ∧
    ∀ x, ∃ response spent, (handle b settings timeout r none x).outcome = .done response spent ∧
      (400 ≤ response.status ∧ response.status < 500 ↔ Refused b settings timeout x r) ∧
      (500 ≤ response.status → response = .internal ∨ response = .timedOut) := by
  refine ⟨fun budget x y hxy => ?_, fun x => ?_⟩
  · obtain ⟨houtcome, hstate⟩ := akin_handle (fun _ _ _ => trivial) (fun e _ => .refl e)
      (fun _ _ => Failure.response_of_reworded) h settings timeout r budget x y hxy
    exact ⟨houtcome.eq, hstate⟩
  · obtain ⟨response, spent, hrun, hanswered⟩ := exists_answered b settings timeout r x
    have htold := told_of_answered b settings timeout x hanswered
    exact ⟨response, spent, hrun, htold.refusal, htold.failure⟩

end Site

end Web

/-! ## Backends in other words -/

/-- The backends with their errors in other words. -/
def Backends.reword (f : Error → Error) (b : Backends σ) : Backends σ where
  append loans := do return (← b.append loans).mapError f
  computeBalance user := do return (← b.computeBalance user).mapError f
  hasEntry user := do return (← b.hasEntry user).mapError f
  lookup user := do return (← b.lookup user).mapError f
  populate user balance := do return (← b.populate user balance).mapError f
  applyDeltas user deltas := do return (← b.applyDeltas user deltas).mapError f
  clear user := do return (← b.clear user).mapError f
  createGroup name owner := do return (← b.createGroup name owner).mapError f
  findGroup group := do return (← b.findGroup group).mapError f
  deleteGroup group := do return (← b.deleteGroup group).mapError f
  addMembers group users := do return (← b.addMembers group users).mapError f
  removeMember group user := do return (← b.removeMember group user).mapError f
  members group := do return (← b.members group).mapError f
  groupsOf user := do return (← b.groupsOf user).mapError f

/-- An operation with its errors in other words. -/
theorem Task.akin_mapError {E : Error → Error → Prop} {f : Error → Error} (hf : ∀ e, E (f e) e)
    (t : Task σ (Except Error α)) :
    Akin Eq (ResultAkin E) (do return (← t).mapError f) t := by
  refine (Akin.refl t).map_left fun r r' hr => ?_
  subst hr
  cases r with
  | error e => exact .error (hf e)
  | ok a => exact .ok a

/-- Backends in other words behave alike. -/
theorem Backends.akin_reword {E : Error → Error → Prop} {f : Error → Error}
    (hf : ∀ e, E (f e) e) (b : Backends σ) : (b.reword f).Akin Eq E b where
  append _ _ := Task.akin_mapError hf _
  computeBalance _ := Task.akin_mapError hf _
  hasEntry _ := Task.akin_mapError hf _
  lookup _ := Task.akin_mapError hf _
  populate _ _ := Task.akin_mapError hf _
  applyDeltas _ _ := Task.akin_mapError hf _
  clear _ := Task.akin_mapError hf _
  createGroup _ _ := Task.akin_mapError hf _
  findGroup _ := Task.akin_mapError hf _
  deleteGroup _ := Task.akin_mapError hf _
  addMembers _ _ := Task.akin_mapError hf _
  removeMember _ _ := Task.akin_mapError hf _
  members _ := Task.akin_mapError hf _
  groupsOf _ := Task.akin_mapError hf _

namespace Sample

/-- All causes that are not told to clients are described in the same words. -/
def terse (e : Error) : Error :=
  if e.isClientError then e else .reported e.kind "connection reset by 10.0.0.7"

/-- Nothing but the words changes. -/
theorem reworded_terse (e : Error) : (terse e).Reworded e := by
  unfold terse
  split
  · exact .refl e
  · rename_i hclient
    exact .inr ⟨rfl, Bool.eq_false_iff.2 hclient⟩

/-- The ledger is out of service. -/
def unrecorded : Web.Site Store :=
  .fresh { Store.empty supply with ledger := { Ledger.empty with failing := true } }

end Sample

open Sample Web

/-- The general statement about a balance that cannot be computed, for one of two reasons. -/
theorem handle_hides_details_balance :
    (Site.handle ((Store.backends Store.Waits.none).reword terse) EngineSettings.standard 5000
      ⟨"GET", "/api/v1/balance", [("X-User-Id", alice.text)], ""⟩ none unrecorded).outcome =
        .done Response.internal 0 := by
  have hakin := Backends.akin_reword reworded_terse (Store.backends Store.Waits.none)
  have hsame := (Site.handle_hides_details hakin EngineSettings.standard 5000
    ⟨"GET", "/api/v1/balance", [("X-User-Id", alice.text)], ""⟩).1 none unrecorded unrecorded
    ⟨⟨rfl, rfl⟩, rfl⟩
  rw [hsame.1]
  rfl

end ExpenseLedger
