import ExpenseLedger.Proofs.Web.Duration
import ExpenseLedger.Proofs.Web.Reading
import ExpenseLedger.Proofs.Wire.Store
/-!
# The web as a front of the services

A request that asks for a call does to the engine what the service call does, with the same actor,
identifiers and arguments, and in the same time. Its response tells what the service call gives: a
success with a JSON form of the value, or the failure that the error becomes. Main statements:

* `Site.takes_serve_perform`: the response is made of what the service call gives;
* `Site.handle_fronts`: what a request does and tells, from any state of the store.
-/

open ExpenseLedger.Task ExpenseLedger.LawfulWire

namespace ExpenseLedger.Web

variable {σ α : Type}

/-! ## Service calls -/

/-- What a service call gives. -/
inductive Reply where
  /-- A balance. -/
  | balance (balance : Balance)
  /-- Groups. -/
  | groups (groups : List Group)
  /-- A group. -/
  | group (group : Group)
  /-- A group with its members. -/
  | info (info : GroupInfo)
  /-- Members. -/
  | members (members : List UserId)
  /-- An expense. -/
  | expense (expense : Expense)
  /-- It is done. -/
  | done
deriving DecidableEq

/-- A service call, with what it gives as a reply. -/
def replying (t : Task (Engine σ) (Except Error α)) (reply : α → Reply) :
    Task (Engine σ) (Except Error Reply) := do
  return (← t).map reply

/-- The service call that an actor asks for. -/
def Call.serve (b : Backends σ) (settings : EngineSettings) (actor : UserId) :
    Call → Task (Engine σ) (Except Error Reply)
  | getBalance => replying (Engine.balanceOf b settings actor) .balance
  | listGroups => replying (Engine.onStore (b.groupsOf actor)) .groups
  | createGroup message =>
    replying (Engine.onStore (Engine.createGroup b message.name actor)) .group
  | getGroup group => replying (Engine.onStore (Engine.groupInfo b group)) .info
  | deleteGroup group =>
    replying (Engine.onStore (Engine.deleteGroup b actor group)) fun _ => .done
  | listMembers group => replying (Engine.onStore (Engine.membersOf b group)) .members
  | addMembers group message =>
    replying (Engine.onStore (Engine.addMembers b actor group message.users)) fun _ => .done
  | removeMember group user =>
    replying (Engine.onStore (Engine.removeMember b actor group user)) fun _ => .done
  | shareExpense group message =>
    replying (Engine.shareExpense b settings actor message.amount group) .expense

/-- The status of the response to a call that succeeds. -/
def Call.success : Call → Nat
  | getBalance | listGroups | getGroup _ | listMembers _ | shareExpense _ _ => 200
  | createGroup _ => 201
  | deleteGroup _ | addMembers _ _ | removeMember _ _ => 204

/-! ## Responses -/

/-- The content of the response to an actor. -/
def Reply.content (actor : UserId) : Reply → Content
  | balance m => Site.asJson (BalanceAnswer.mk actor m.lines)
  | groups gs => Site.asJson (GroupsAnswer.mk gs)
  | group g => Site.asJson g
  | info i => Site.asJson i
  | members us => Site.asJson (MembersAnswer.mk us)
  | expense e => Site.asJson e
  | done => .none

/-- The text of the content is one of the value. -/
def Content.Tells [Wire α] (a : α) : Content → Prop
  | json j => decode? α j.write = some a
  | _ => False

/-- The content tells an actor what a service call gives. A balance is told as the list of its
lines, in strictly ascending order of the counterparties. -/
def Reply.IsToldBy (actor : UserId) (content : Content) : Reply → Prop
  | balance m => ∃ lines : List BalanceEntry, content.Tells (BalanceAnswer.mk actor lines) ∧
      lines.Pairwise (fun l l' => l.counterparty < l'.counterparty) ∧
      ∀ user amount, ⟨user, amount⟩ ∈ lines ↔ m.get? user = some amount
  | groups gs => content.Tells (GroupsAnswer.mk gs)
  | group g => content.Tells g
  | info i => content.Tells i
  | members us => content.Tells (MembersAnswer.mk us)
  | expense e => content.Tells e
  | done => content = .none

/-- The reply can be told. -/
def Reply.CanBeTold : Reply → Prop
  | balance m => m.AllStorable
  | groups gs => Told gs
  | group g => Told g
  | info i => Told i
  | members us => Told us
  | expense e => Told e
  | done => True

/-- The JSON form of a value that can be told tells it. -/
theorem Site.tells_asJson [Wire α] [LawfulWire α] (a : α) (h : Told a) :
    (asJson a).Tells a := decode?_encode a h

/-- **The content that is made of a reply tells it.** -/
theorem Reply.isToldBy_content (actor : UserId) (reply : Reply) (h : reply.CanBeTold) :
    reply.IsToldBy actor (reply.content actor) := by
  cases reply with
  | balance m =>
    exact ⟨m.lines, Site.tells_asJson _ (m.told_lines h), m.ascending_lines,
      fun user amount => m.mem_lines_iff ⟨user, amount⟩⟩
  | groups gs => exact Site.tells_asJson (GroupsAnswer.mk gs) h
  | group g => exact Site.tells_asJson g h
  | info i => exact Site.tells_asJson i h
  | members us => exact Site.tells_asJson (MembersAnswer.mk us) h
  | expense e => exact Site.tells_asJson e h
  | done => rfl

namespace Site

/-! ## Calls -/

section Calls

variable {b : Backends σ} (hb : b.Punctual) (settings : EngineSettings)

/-- A response that is made of what a service call gives comes with it. -/
theorem takes_replying {t : Task (Engine σ) (Except Error α)} (ht : EndsWithin ⊤ t)
    (reply : α → Reply) (status : Nat) (actor : UserId) (x : Site σ) :
    ∃ d result e', Takes (replying t reply) x.engine d result e' ∧
      Takes (do
          let r ← onEngine t
          return respond status (fun a => (reply a).content actor) r) x d
        (respond status (Reply.content actor) result) { x with engine := e' } := by
  obtain ⟨d, r, e', hrun, -⟩ := ht x.engine
  refine ⟨d, r.map reply, e', hrun.bind_instant (.pure _ _), ?_⟩
  have hresponse : respond status (Reply.content actor) (r.map reply) =
      respond status (fun a => (reply a).content actor) r := by
    cases r <;> rfl
  rw [hresponse]
  exact (takes_onEngine hrun).bind_instant (.pure _ _)

/-- The lines of a balance come when the balance does. -/
theorem takes_balanceLinesOf_of_balanceOf {user : UserId} {e e' : Engine σ} {d : Nat}
    {r : Except Error Balance} (h : Takes (Engine.balanceOf b settings user) e d r e') :
    Takes (Engine.balanceLinesOf b settings user) e d (r.map Balance.lines) e' := by
  cases r with
  | error err => exact h.bind_instant (.pure _ e')
  | ok m => exact h.bind_instant (.pure _ e')

include hb

/-- **The response to a call is made of what the service call gives, in the same time and with the
same engine after it.** -/
theorem takes_serve_perform (actor : UserId) (call : Call) (hvalid : call.breach? = none)
    (x : Site σ) :
    ∃ d result e' tally, Takes (call.serve b settings actor) x.engine d result e' ∧
      Takes (perform b settings actor call) x d
        (respond call.success (Reply.content actor) result) ⟨e', tally⟩ := by
  -- All calls but two are answered by what one task gives, and no messages are checked any more.
  have hplain {α : Type} {t : Task σ (Except Error α)} (ht : EndsWithin ⊤ t) (reply : α → Reply)
      (status : Nat) : ∃ d result e' tally,
        Takes (replying (Engine.onStore t) reply) x.engine d result e' ∧
        Takes (do
          let r ← onStore t
          return respond status (fun a => (reply a).content actor) r) x d
          (respond status (Reply.content actor) result) ⟨e', tally⟩ := by
    obtain ⟨d, result, e', hserve, hperform⟩ :=
      takes_replying (Engine.endsWithin_onStore ht) reply status actor x
    exact ⟨d, result, e', x.tally, hserve, hperform⟩
  cases call with
  | getBalance =>
    obtain ⟨d, r, e', hrun, -⟩ := Engine.endsWithin_balanceOf hb settings actor x.engine
    refine ⟨d, r.map .balance, e', x.tally, hrun.bind_instant (.pure _ _), ?_⟩
    have hlines := takes_onEngine (x := x) (takes_balanceLinesOf_of_balanceOf settings hrun)
    have hresponse : respond 200 (Reply.content actor) (r.map .balance) =
        respond 200 (fun lines => asJson (BalanceAnswer.mk actor lines)) (r.map Balance.lines) := by
      cases r <;> rfl
    change Takes _ x d (respond 200 _ _) _
    rw [hresponse]
    exact hlines.bind_instant (.pure _ _)
  | listGroups => exact hplain (hb.groupsOf actor) .groups 200
  | createGroup message =>
    unfold perform unlessBroken
    dsimp only
    rw [show message.breach? = none from hvalid]
    exact hplain (Engine.endsWithin_createGroup hb.createGroup message.name actor) .group 201
  | getGroup group => exact hplain (Engine.endsWithin_groupInfo hb group) .info 200
  | deleteGroup group =>
    exact hplain (Engine.endsWithin_deleteGroup hb actor group) (fun _ => .done) 204
  | listMembers group => exact hplain (Engine.endsWithin_membersOf hb group) .members 200
  | addMembers group message =>
    unfold perform unlessBroken
    dsimp only
    rw [show message.breach? = none from hvalid]
    have hadd := Engine.endsWithin_addMembers actor group message.users (hb.findGroup group)
      (hb.addMembers group message.users)
    exact hplain hadd (fun _ => .done) 204
  | removeMember group user =>
    exact hplain (Engine.endsWithin_removeMember hb actor group user) (fun _ => .done) 204
  | shareExpense group message =>
    unfold perform unlessBroken
    dsimp only
    rw [show message.breach? = none from hvalid]
    obtain ⟨d, r, e', hrun, -⟩ := Engine.endsWithin_shareExpense hb settings group
      (hb.findGroup group) (hb.members group) hb.append actor message.amount x.engine
    have hserve : Takes (replying (Engine.shareExpense b settings actor message.amount group)
        .expense) x.engine d (r.map .expense) e' := hrun.bind_instant (.pure _ _)
    have hon := takes_onEngine (x := x) hrun
    cases r with
    | error e => exact ⟨d, _, e', x.tally, hserve, hon.bind_instant (.pure _ _)⟩
    | ok expense =>
      exact ⟨d, _, e', _, hserve, hon.bind_instant ((Takes.act _ _).instant_bind (.pure _ _))⟩

end Calls

/-! ## What is told -/

section Told

variable {b : Backends Store}

/-- A reply can be told if it is made of values that can. -/
theorem triple_replying {t : Task (Engine Store) (Except Error α)} {P : Engine Store → Prop}
    {Q : Except Error α → Engine Store → Prop} {R : Engine Store → Prop} (ht : Triple P t Q R)
    (reply : α → Reply) (hreply : ∀ a e, Q (.ok a) e → (reply a).CanBeTold) :
    Triple P (replying t reply) (fun r _ => ∀ value, r = .ok value → value.CanBeTold)
      fun _ => True := by
  refine (ht.mono_dropped fun _ _ => trivial).bind_except
    (fun e => .pure fun _ _ value h => ?_) fun a => .pure fun e ha value h => ?_
  · contradiction
  · cases h
    exact hreply a e ha

/-- **What a service call gives can be told.** -/
theorem triple_serve_told (hb : b.Realizes) (settings : EngineSettings) (actor : UserId)
    (call : Call) (s : Store) (hs : s.Dated) :
    Triple (fun e => e.store = s) (call.serve b settings actor)
      (fun r _ => ∀ value, r = .ok value → value.CanBeTold) fun _ => True := by
  cases call with
  | getBalance =>
    refine triple_replying (Engine.triple_balanceOf_served hb settings actor s) _ fun m e h => ?_
    exact s.allStorable_served actor m h.1.symm
  | listGroups =>
    exact triple_replying (Engine.triple_onStore (Engine.triple_groupsOf_told hb s hs actor)) _
      fun gs _ h => h gs rfl
  | createGroup message =>
    exact triple_replying
      (Engine.triple_onStore (Engine.triple_createGroup_told hb s hs message.name actor)) _
      fun g _ h => h g rfl
  | getGroup group =>
    exact triple_replying (Engine.triple_onStore (Engine.triple_groupInfo_told hb s hs group)) _
      fun i _ h => h i rfl
  | deleteGroup group =>
    exact triple_replying
      (Engine.triple_onStore (Engine.administers_deleteGroup hb actor group s)) _
      fun _ _ _ => trivial
  | listMembers group =>
    exact triple_replying (Engine.triple_onStore ((Engine.asks_membersOf hb group).triple s)) _
      fun _ _ _ _ _ => trivial
  | addMembers group message =>
    exact triple_replying
      (Engine.triple_onStore (Engine.administers_addMembers hb actor group message.users s)) _
      fun _ _ _ => trivial
  | removeMember group user =>
    exact triple_replying
      (Engine.triple_onStore (Engine.administers_removeMember hb actor group user s)) _
      fun _ _ _ => trivial
  | shareExpense group message =>
    refine triple_replying (Engine.triple_shareExpense_share hb settings actor message.amount group
      s) _ fun expense e h => ?_
    exact s.told_share actor message.amount group hs expense h.1.symm

end Told

/-! ## Requests -/

/-- **The web is a faithful front of the services.** Whatever the state of the store, whatever is
wrong with it and however long it waits, also if somebody else is always the first to delete a
group: the service call that a request asks for ends, and if it ends before the deadline of the
request, so does the request, and the engine is the same after both. A value is told with the
success of the call, an error as the failure that it becomes. The content of a success is a JSON
form of the value if all instants of the store can be told (`Store.Dated`), as answers tell them. -/
theorem handle_fronts (w : Store.Waits) (b : Backends Store)
    (hb : b = Store.backends w ∨ b = (Store.backends w).outrun) (settings : EngineSettings)
    (timeout : Nat) (r : Request) (actor : UserId) (call : Call) (hasks : r.Asks actor call)
    (x : Site Store) :
    ∃ d result e', Takes (call.serve b settings actor) x.engine d result e' ∧
      (d ≤ timeout → ∃ response x', Takes (handle b settings timeout r) x d response x' ∧
        x'.engine = e' ∧
        (∀ reply, result = .ok reply → response.status = call.success ∧
          (x.engine.store.Dated → reply.IsToldBy actor response.content)) ∧
        ∀ error, result = .error error → response = (Failure.ofError error).response) := by
  have hrealizes : b.Realizes := Store.realizes_of_inMemory hb
  have hpunctual : b.Punctual := by
    rcases hb with rfl | rfl
    · exact Store.punctual_backends w
    · exact (Store.punctual_backends w).outrun
  obtain ⟨d, result, e', tally, hserve, hperform⟩ :=
    takes_serve_perform hpunctual settings actor call hasks.valid x
  refine ⟨d, result, e', hserve, fun hle => ?_⟩
  refine ⟨_, _, takes_handle (Request.call?_of_asks hasks) hperform hle, rfl, ?_, ?_⟩
  · rintro reply rfl
    refine ⟨rfl, fun hdated => reply.isToldBy_content actor ?_⟩
    exact hserve.of_triple (triple_serve_told hrealizes settings actor call x.engine.store hdated)
      rfl reply rfl
  · rintro error rfl
    rfl

end Site

end ExpenseLedger.Web

namespace ExpenseLedger

open Web

/-! ## The end of a membership -/

namespace Sample

/-- Alice takes Bob out of the flat. -/
def dismissal : Request :=
  ⟨"DELETE", "/api/v1/groups/" ++ flat.id.text ++ "/members/" ++ bob.text,
    [("X-User-Id", alice.text)], ""⟩

/-- The flat is Alice's, and Bob is a member. -/
def home : Site Store :=
  let entry : Directory.Entry := ⟨⟨flat, "flat", alice, supply.now⟩, KeySet.add Table.empty bob⟩
  .fresh { Store.empty supply with directory := ⟨Table.empty.insert flat entry, false⟩ }

end Sample

open Sample

/-- The general statement about the end of a membership. -/
theorem handle_fronts_dismissal :
    dismissal.Asks alice (.removeMember flat bob) ∧
      ∃ response x', Takes (Site.handle (Store.backends Store.Waits.none) EngineSettings.standard
          5000 dismissal) home 0 response x' ∧
        (response.status, response.content) = (204, .none) := by
  have hasks : dismissal.Asks alice (.removeMember flat bob) := by
    refine ⟨by decide +kernel, ?_, rfl⟩
    refine .removeMember (g := flat.id.text) (u := bob.text) rfl
      ⟨dismissal.target.toList, ?_, ?_⟩ ?_ ?_
    · decide +kernel
    · decide +kernel
    · unfold WritesGroup
      decide +kernel
    · unfold WritesUser
      decide +kernel
  refine ⟨hasks, ?_⟩
  obtain ⟨d, result, e', hserve, hhandle⟩ := Site.handle_fronts Store.Waits.none _ (.inl rfl)
    EngineSettings.standard 5000 dismissal alice _ hasks home
  have hrun : (Call.serve (Store.backends Store.Waits.none) EngineSettings.standard alice
      (.removeMember flat bob) none home.engine).outcome = .done (.ok .done) 0 := by
    decide +kernel
  rw [hserve.run] at hrun
  cases hrun
  obtain ⟨response, x', htakes, -, hok, -⟩ := hhandle (by decide)
  obtain ⟨hstatus, htold⟩ := hok .done rfl
  have hnow : supply.now.IsTold := ⟨by decide +kernel, by decide, by decide⟩
  have hdated : home.engine.store.Dated := by
    refine ⟨hnow, fun id e he => ?_⟩
    change (Table.empty.insert flat _).get? id = some e at he
    rw [Table.get?_insert] at he
    split at he
    · cases he
      exact hnow
    · exact (Store.dated_empty supply hnow).groups id e he
  refine ⟨response, x', htakes, ?_⟩
  rw [hstatus, show response.content = .none from htold hdated]
  rfl

end ExpenseLedger
