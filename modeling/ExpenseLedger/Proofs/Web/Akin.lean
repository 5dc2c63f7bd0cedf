import ExpenseLedger.Proofs.Engine.Akin
import ExpenseLedger.Proofs.Share
import ExpenseLedger.Web.Site
/-!
# The site on backends that are akin

If the operations of two sets of backends are akin, and errors that are related are answered in the
same way, then every request gets the same answer after the same time on both, and leaves the same
counters and the same tally. The amounts that the errors of the service tell are no greater than
those of a valid expense, since only valid messages reach the engine.
-/

open ExpenseLedger.Task

namespace ExpenseLedger.Web.Site

variable {σ τ α : Type}

/-- The stores of two sites are related, and all else is the same. -/
def AkinTo (R : τ → σ → Prop) (x : Site τ) (y : Site σ) : Prop :=
  Engine.AkinTo R x.engine y.engine ∧ x.tally = y.tally

variable {R : τ → σ → Prop} {E : Error → Error → Prop} {b : Backends τ} {c : Backends σ}

/-! ## Building blocks -/

/-- Tasks of the engine. -/
theorem akin_onEngine {β : Type} {V : α → β → Prop} {t : Task (Engine τ) α}
    {u : Task (Engine σ) β} (h : Akin (Engine.AkinTo R) V t u) :
    Akin (AkinTo R) V (onEngine t) (onEngine u) :=
  h.focus (fun _ _ hx => hx.1) fun _ _ _ _ hx hs => ⟨hs, hx.2⟩

/-- Counting. -/
theorem akin_count (f : Tally → Tally) :
    Akin (AkinTo R) Eq (count (σ := τ) f) (count (σ := σ) f) := by
  refine .act ?_
  rintro x y ⟨hengine, htally⟩
  exact ⟨rfl, hengine, congrArg f htally⟩

/-- A message is checked before anything else happens. -/
theorem akin_unlessBroken (breach : Option Breach) {t : Task (Site τ) Response}
    {u : Task (Site σ) Response} (h : breach = none → Akin (AkinTo R) Eq t u) :
    Akin (AkinTo R) Eq (unlessBroken breach t) (unlessBroken breach u) := by
  cases breach with
  | some _ => exact .pure rfl
  | none => exact h rfl

/-! ## Requests -/

section Requests

variable {amounts : Int → Prop} (hamounts : ∀ a, 1 ≤ a → a ≤ Amount.limit → amounts a)
  (hE : ∀ e : Error, e.IsOwn amounts → E e e)
  (hanswer : ∀ e e', E e e' → (Failure.ofError e).response = (Failure.ofError e').response)
  (h : b.Akin R E c) (settings : EngineSettings)

include hanswer in
/-- A call that is answered with what a task gives. -/
theorem akin_respond {t : Task (Engine τ) (Except Error α)} {u : Task (Engine σ) (Except Error α)}
    (ht : Akin (Engine.AkinTo R) (ResultAkin E) t u) (status : Nat) (content : α → Content) :
    Akin (AkinTo R) Eq (do let r ← onEngine t; return respond status content r)
      (do let r ← onEngine u; return respond status content r) := by
  refine (akin_onEngine ht).bind fun r r' hr => .pure ?_
  cases hr with
  | ok a => rfl
  | error he => exact hanswer _ _ he

include hamounts hE h

omit hanswer in
/-- The expense of a valid message. -/
theorem akin_shareExpense_of_valid (actor : UserId) (group : GroupId) {message : ShareExpense}
    (hvalid : message.breach? = none) :
    Akin (Engine.AkinTo R) (ResultAkin E)
      (Engine.shareExpense b settings actor message.amount group)
      (Engine.shareExpense c settings actor message.amount group) := by
  obtain ⟨hleast, hmost⟩ : 1 ≤ message.amount ∧ message.amount ≤ Amount.limit := by
    unfold ShareExpense.breach? at hvalid
    by_contra hnot
    rw [if_neg hnot] at hvalid
    contradiction
  refine Engine.akin_shareExpense hE h settings actor (hamounts _ hleast hmost) ?_ group
  intro n hn hpos
  have hle : share message.amount n ≤ message.amount := share_le (by omega) (by omega)
  exact hamounts _ (by omega) (by omega)

include hanswer

/-- Sharing an expense and counting it. -/
theorem akin_shareExpense (actor : UserId) (group : GroupId) {message : ShareExpense}
    (hvalid : message.breach? = none) :
    Akin (AkinTo R) Eq (shareExpense b settings actor group message.amount)
      (shareExpense c settings actor group message.amount) := by
  have hshare := akin_onEngine
    (akin_shareExpense_of_valid hamounts hE h settings actor group hvalid)
  refine hshare.bind_except (fun _ _ he => .pure (hanswer _ _ he)) fun expense => ?_
  exact (akin_count _).bind fun _ _ _ => .pure rfl

/-- Calling the engine for an actor. -/
theorem akin_perform (actor : UserId) (call : Call) :
    Akin (AkinTo R) Eq (perform b settings actor call) (perform c settings actor call) := by
  cases call with
  | getBalance =>
    exact akin_respond hanswer (Engine.akin_balanceLinesOf hE h settings actor) _ _
  | listGroups => exact akin_respond hanswer (Engine.akin_onStore (h.groupsOf actor)) _ _
  | createGroup message =>
    have hcreate := Engine.akin_onStore (Engine.akin_createGroup hE h message.name actor)
    exact akin_unlessBroken _ fun _ => akin_respond hanswer hcreate _ _
  | getGroup group =>
    exact akin_respond hanswer (Engine.akin_onStore (Engine.akin_groupInfo hE h group)) _ _
  | deleteGroup group =>
    exact akin_respond hanswer (Engine.akin_onStore (Engine.akin_deleteGroup hE h actor group)) _ _
  | listMembers group =>
    exact akin_respond hanswer (Engine.akin_onStore (Engine.akin_membersOf hE h group)) _ _
  | addMembers group message =>
    have hadd := Engine.akin_onStore (Engine.akin_addMembers hE h actor group message.users)
    exact akin_unlessBroken _ fun _ => akin_respond hanswer hadd _ _
  | removeMember group user =>
    have hremove := Engine.akin_onStore (Engine.akin_removeMember hE h actor group user)
    exact akin_respond hanswer hremove _ _
  | shareExpense group message =>
    exact akin_unlessBroken _ fun hvalid =>
      akin_shareExpense hamounts hE hanswer h settings actor group hvalid

/-- Answering a call under the deadline of requests. -/
theorem akin_answer (timeout : Nat) (actor : UserId) (call : Call) :
    Akin (AkinTo R) Eq (answer b settings timeout actor call)
      (answer c settings timeout actor call) := by
  refine ((akin_perform hamounts hE hanswer h settings actor call).within timeout).bind fun r r' hr => ?_
  have hsame : r = r' := by
    cases hr with
    | some hvalue => rw [hvalue]
    | none => rfl
  rw [hsame]
  exact (akin_count _).bind fun _ _ _ => .pure rfl

/-- **Answering a request.** -/
theorem akin_handle (timeout : Nat) (r : Request) :
    Akin (AkinTo R) Eq (handle b settings timeout r) (handle c settings timeout r) := by
  unfold handle
  cases Route.find? r.method r.target with
  | none => exact .pure rfl
  | some route =>
    cases route with
    | health => exact .pure rfl
    | metrics =>
      refine .act ?_
      rintro x y ⟨⟨hstore, hcounters⟩, htally⟩
      refine ⟨?_, ⟨hstore, hcounters⟩, htally⟩
      rw [hcounters, htally]
    | endpoint e ids =>
      dsimp only
      cases r.actor? with
      | none => exact .pure rfl
      | some actor =>
        dsimp only
        cases readCall e ids r with
        | error reject => exact .pure rfl
        | ok call => exact akin_answer hamounts hE hanswer h settings timeout actor call

end Requests

end ExpenseLedger.Web.Site
