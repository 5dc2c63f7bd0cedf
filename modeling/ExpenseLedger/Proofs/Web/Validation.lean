import ExpenseLedger.Proofs.Engine.Instant
import ExpenseLedger.Proofs.Web.Front
/-!
# The rules of messages

The rules for the messages of requests are the limits of the services, checked once more before the
services see anything. A rule that a message breaks is a limit that the service refuses too, with
the same status, but for one: the length of a name is checked with the blanks around it, which the
service takes away before it counts. So a name can be refused that the service takes. Main
statements:

* `Call.takes_serve_of_breach`: what the service makes of a message that breaks a rule;
* `Site.handle_succeeds_iff`: when a request with a message is answered with a success.
-/

open ExpenseLedger.Task

namespace ExpenseLedger.Web

variable {σ : Type}

/-! ## Limits -/

/-- The name that is asked for is too long with the blanks around it. -/
def Call.Overlong : Call → Prop
  | createGroup message => Engine.greatestNameLength < message.name.length
  | _ => False

/-- A name that is too short or too long with the blanks around it, but not too long, is too short
without them. -/
theorem CreateGroup.groupName?_of_breach {message : CreateGroup} {breach : Breach}
    (h : message.breach? = some breach)
    (hlength : message.name.length ≤ Engine.greatestNameLength) :
    Engine.groupName? message.name = none := by
  have hshort : message.name.length < Engine.leastNameLength := by
    by_contra hle
    have hnone : message.breach? = none := if_pos ⟨Nat.not_lt.1 hle, hlength⟩
    rw [hnone] at h
    contradiction
  have htrim := Text.length_trim_le message.name
  exact if_neg fun hallowed => by omega

/-- An amount that breaks the rule is refused. -/
theorem ShareExpense.checkExpense_of_breach {message : ShareExpense} {breach : Breach}
    (h : message.breach? = some breach) :
    ∃ error : Error, Engine.checkExpense message.amount = .error error ∧
      (Failure.ofError error).status = 400 := by
  unfold Engine.checkExpense
  split
  · exact ⟨_, rfl, rfl⟩
  · rename_i hpositive
    split
    · exact ⟨_, rfl, rfl⟩
    · rename_i hlimit
      have hnone : message.breach? = none := if_pos ⟨by omega, Int.not_lt.1 hlimit⟩
      rw [hnone] at h
      contradiction

/-- A list that breaks the rule is empty. -/
theorem AddMembers.isEmpty_of_breach {message : AddMembers} {breach : Breach}
    (h : message.breach? = some breach) : message.users.isEmpty = true := by
  by_contra hempty
  have hnone : message.breach? = none := if_neg hempty
  rw [hnone] at h
  contradiction

/-- A name that is too long breaks the rule of its length. -/
theorem Call.breach?_of_overlong {call : Call} (h : call.Overlong) :
    call.breach? = some ⟨"name", .length⟩ := by
  cases call with
  | createGroup message => exact if_neg fun hallowed => Nat.not_lt.2 hallowed.2 h
  | _ => exact h.elim

/-! ## Calls -/

section Calls

variable (b : Backends σ) (settings : EngineSettings) (actor : UserId) {call : Call}
  {breach : Breach}

/-- **A message that breaks a rule is refused by the service too, at once and with the same status,
unless it is a name that is too long with the blanks around it.** -/
theorem Call.takes_serve_of_breach (h : call.breach? = some breach) (hlength : ¬ call.Overlong)
    (e : Engine σ) :
    ∃ error : Error, (Failure.ofError error).status = 400 ∧
      Takes (call.serve b settings actor) e 0 (.error error) e := by
  cases call with
  | createGroup message =>
    have hname := message.groupName?_of_breach h (Nat.not_lt.1 hlength)
    have hcreate : Takes (Engine.createGroup b message.name actor) e.store 0
        (.error (.groupNameLength Engine.leastNameLength Engine.greatestNameLength)) e.store := by
      unfold Engine.createGroup
      rw [hname]
      exact .pure _ _
    exact ⟨_, rfl, hcreate.focus.bind_instant (.pure _ e)⟩
  | addMembers group message =>
    have hadd : Takes (Engine.addMembers b actor group message.users) e.store 0
        (.error .noMembersNamed) e.store := by
      unfold Engine.addMembers
      rw [if_pos (AddMembers.isEmpty_of_breach h)]
      exact .pure _ _
    exact ⟨_, rfl, hadd.focus.bind_instant (.pure _ e)⟩
  | shareExpense group message =>
    obtain ⟨error, hcheck, hstatus⟩ := ShareExpense.checkExpense_of_breach h
    have hshare : Takes (Engine.shareExpense b settings actor message.amount group) e 0
        (.error error) e := by
      unfold Engine.shareExpense
      rw [hcheck]
      exact .pure _ _
    exact ⟨error, hstatus, hshare.bind_instant (.pure _ e)⟩
  | _ => contradiction

/-- Every call checks its message before anything else. -/
theorem Site.exists_perform_eq (call : Call) :
    ∃ t, perform b settings actor call = unlessBroken call.breach? t := by
  cases call <;> exact ⟨_, rfl⟩

/-- A message that breaks a rule is refused at once, with the breach. -/
theorem Site.takes_perform_of_breach (h : call.breach? = some breach) (x : Site σ) :
    Takes (perform b settings actor call) x 0 (Failure.validation breach.message).response x := by
  obtain ⟨t, ht⟩ := exists_perform_eq b settings actor call
  rw [ht, h]
  exact .pure _ x

/-- What the service makes of a message takes no time if nothing waits. -/
theorem Call.instant_serve {b : Backends σ} (hb : b.Instant)
    (h : call.endpoint ∈ [.createGroup, .addMembers, .shareExpense]) :
    EndsWithin 0 (call.serve b settings actor) := by
  cases call with
  | createGroup message =>
    have hcreate := Engine.endsWithin_createGroup hb.createGroup message.name actor
    exact (Engine.endsWithin_onStore hcreate).bind_instant fun _ => .pure _
  | addMembers group message =>
    have hadd := Engine.instant_addMembers hb actor group message.users
    exact (Engine.endsWithin_onStore hadd).bind_instant fun _ => .pure _
  | shareExpense group message =>
    have hshare := Engine.instant_shareExpense hb settings actor message.amount group
    exact hshare.bind_instant fun _ => .pure _
  | _ => simp [Call.endpoint] at h

end Calls

/-! ## Requests -/

/-- A success is told exactly of what succeeds. -/
theorem succeeds_respond_iff (actor : UserId) (call : Call) (result : Except Error Reply) :
    Succeeds (Site.respond call.success (Reply.content actor) result).status ↔
      ∃ reply, result = .ok reply := by
  cases result with
  | ok reply =>
    refine iff_of_true ?_ ⟨reply, rfl⟩
    change Succeeds call.success
    cases call <;> simp [Call.success, Succeeds]
  | error error =>
    refine iff_of_false (fun hsucceeds => ?_) fun ⟨_, h⟩ => by contradiction
    exact absurd hsucceeds.2 (Nat.not_lt.2
      ((by decide : 300 ≤ 400).trans (Failure.le_status_ofError error)))

namespace Site

variable (settings : EngineSettings)

/-- **A request with a message is answered with a success exactly if the service call succeeds on
the values of the message, and no name is too long with the blanks around it.** Nothing waits here,
so both end at once, whatever the state of the store, whatever is wrong with it and whatever the
deadlines are. Unless a name is too long with its blanks, the status is the one for the result of
the service call, and the engine is the same after both. Otherwise the request is refused, and
leaves the engine alone. -/
theorem handle_succeeds_iff (timeout : Nat) (r : Request) (actor : UserId) (call : Call)
    (hactor : r.actor? = some actor) (haddresses : r.Addresses call)
    (hmessage : call.endpoint ∈ [.createGroup, .addMembers, .shareExpense]) (x : Site Store) :
    ∃ result e' response x',
      Takes (call.serve (Store.backends Store.Waits.none) settings actor) x.engine 0 result e' ∧
      Takes (handle (Store.backends Store.Waits.none) settings timeout r) x 0 response x' ∧
      (Succeeds response.status ↔ (∃ reply, result = .ok reply) ∧ ¬ call.Overlong) ∧
      (¬ call.Overlong →
        response.status = (respond call.success (Reply.content actor) result).status ∧
          x'.engine = e') ∧
      (call.Overlong →
        response = (Failure.validation "name: Validation error: length").response ∧
          x'.engine = x.engine) := by
  have hcall := Request.call?_of_addresses hactor haddresses
  obtain ⟨d, result, e', hserve, hd⟩ :=
    Call.instant_serve settings actor Store.instant_backends hmessage x.engine
  obtain rfl : d = 0 := Nat.cast_eq_zero.1 (nonpos_iff_eq_zero.1 hd)
  cases hbreach : call.breach? with
  | none =>
    have hlength : ¬ call.Overlong := fun h => by
      rw [Call.breach?_of_overlong h] at hbreach
      contradiction
    -- The service call is what answers, and it takes no time.
    obtain ⟨d, result', e'', tally, hserve', hperform⟩ := takes_serve_perform
      (Store.punctual_backends Store.Waits.none) settings actor call hbreach x
    obtain ⟨rfl, rfl, rfl⟩ := hserve.unique hserve'
    refine ⟨result, e', _, _, hserve, takes_handle hcall hperform (Nat.zero_le _), ?_,
      fun _ => ⟨rfl, rfl⟩, fun h => absurd h hlength⟩
    rw [succeeds_respond_iff]
    exact (and_iff_left hlength).symm
  | some breach =>
    have hhandle := takes_handle hcall
      (takes_perform_of_breach (Store.backends Store.Waits.none) settings actor hbreach x)
      (Nat.zero_le timeout)
    have hrefused : ¬ Succeeds (Failure.validation breach.message).response.status :=
      (by decide : ¬ Succeeds 400)
    by_cases hlength : call.Overlong
    · refine ⟨result, e', _, _, hserve, hhandle, ?_, fun h => absurd hlength h, fun _ => ⟨?_, rfl⟩⟩
      · exact iff_of_false hrefused fun h => h.2 hlength
      · rw [Call.breach?_of_overlong hlength] at hbreach
        cases hbreach
        rfl
    · obtain ⟨error, hstatus, hserve'⟩ :=
        Call.takes_serve_of_breach (Store.backends Store.Waits.none) settings actor hbreach hlength
          x.engine
      obtain ⟨-, rfl, rfl⟩ := hserve.unique hserve'
      refine ⟨_, _, _, _, hserve, hhandle, ?_, fun _ => ⟨hstatus.symm, rfl⟩,
        fun h => absurd h hlength⟩
      exact iff_of_false hrefused fun ⟨⟨_, h⟩, _⟩ => by contradiction

end Site

end ExpenseLedger.Web

namespace ExpenseLedger

open Web

/-! ## A name with blanks around it -/

namespace Sample

/-- A request for a group of a name. -/
def naming (name : String) : Request :=
  post "/api/v1/groups" ("\x7b\"name\": \"" ++ name ++ "\"\x7d")

/-- A name of the greatest length. -/
def longName : String := String.ofList (List.replicate 64 'x')

end Sample

open Sample

/-- The general statement about a short name with blanks around it. -/
theorem handle_succeeds_iff_flat :
    (naming "  flat ").Addresses (.createGroup ⟨"  flat "⟩) ∧
      ∃ response x',
        Takes (Site.handle (Store.backends Store.Waits.none) EngineSettings.standard 5000
          (naming "  flat ")) start 0 response x' ∧ Succeeds response.status := by
  have haddresses : (naming "  flat ").Addresses (.createGroup ⟨"  flat "⟩) := by
    refine .createGroup rfl ⟨(naming "  flat ").target.toList, ?_, ?_⟩ ⟨?_, ?_, ?_, ?_, ?_⟩
    · decide +kernel
    · decide +kernel
    · decide +kernel
    · intro n hn
      have hnone : (naming "  flat ").statedLength? = none := by decide +kernel
      rw [hnone] at hn
      contradiction
    · decide +kernel
    · decide +kernel
    · decide +kernel
  refine ⟨haddresses, ?_⟩
  obtain ⟨result, e', response, x', hserve, hhandle, hsucceeds, -, -⟩ :=
    Site.handle_succeeds_iff EngineSettings.standard 5000 (naming "  flat ") alice _
      (by decide +kernel) haddresses (by decide) start
  have hrun : (Call.serve (Store.backends Store.Waits.none) EngineSettings.standard alice
      (.createGroup ⟨"  flat "⟩) none start.engine).outcome =
        .done (.ok (.group ⟨flat, "flat", alice, supply.now⟩)) 0 := by
    decide +kernel
  rw [hserve.run] at hrun
  cases hrun
  have hlength : ¬ Engine.greatestNameLength < "  flat ".length := by decide +kernel
  exact ⟨response, x', hhandle, hsucceeds.2 ⟨⟨_, rfl⟩, hlength⟩⟩

/-- **A name of the greatest length with one blank before it is refused by the rules of messages,
though the service creates the group.** -/
theorem blank_refused :
    (naming (" " ++ longName)).call? = some (alice, .createGroup ⟨" " ++ longName⟩) ∧
    World.plain.statuses start [.request calm (naming (" " ++ longName))] = [400] ∧
    (Engine.createGroup (Store.backends calm.waits) (" " ++ longName) alice none
      start.engine.store).outcome = .done (.ok ⟨flat, longName, alice, supply.now⟩) 0 := by
  decide +kernel

end ExpenseLedger
