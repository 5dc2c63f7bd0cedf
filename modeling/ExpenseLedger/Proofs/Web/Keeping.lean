import ExpenseLedger.Proofs.Web.Effects
import ExpenseLedger.Proofs.Web.Upkeep
/-!
# What services keep

Calls and requests do their work by reading balances, recording loans and administering groups. What
these keep, all calls and requests keep, however early they are dropped. What reading balances and
administering groups keep is kept by all that record nothing.
-/

open ExpenseLedger.Task

namespace ExpenseLedger

variable {σ : Type}

/-- Reading balances and all operations of the directory keep a property of the state of the
backends, however they end. -/
structure Backends.ReadingKeeps (b : Backends σ) (settings : EngineSettings) (P : σ → Prop) : Prop
    extends b.DirectoryKeeps P where
  /-- Reading a balance. -/
  balanceOf : ∀ user, Triple (fun e => P e.store) (Engine.balanceOf b settings user)
    (fun _ e => P e.store) fun e => P e.store

/-- Recording loans and dropping entries keep it as well. -/
structure Backends.ServiceKeeps (b : Backends σ) (settings : EngineSettings) (P : σ → Prop) : Prop
    extends b.ReadingKeeps settings P where
  /-- Recording loans. -/
  addLoans : ∀ lender amount debtors,
    Triple (fun e => P e.store) (Engine.addLoans b settings lender amount debtors)
      (fun _ e => P e.store) fun e => P e.store
  /-- Dropping an entry. -/
  clear : ∀ user, Triple P (b.clear user) (fun _ => P) P

variable {b : Backends σ} {settings : EngineSettings} {P : σ → Prop}

namespace Engine

/-- Reading the lines of a balance. -/
theorem triple_balanceLinesOf_keeps (h : b.ReadingKeeps settings P) (user : UserId) :
    Triple (fun e => P e.store) (balanceLinesOf b settings user) (fun _ e => P e.store)
      fun e => P e.store :=
  (h.balanceOf user).bind_except (fun _ => .pure fun _ he => he) fun _ => .pure fun _ he => he

/-- Sharing an expense. -/
theorem triple_shareExpense_keeps (h : b.ServiceKeeps settings P) (payer : UserId) (total : Int)
    (group : GroupId) :
    Triple (fun e => P e.store) (shareExpense b settings payer total group) (fun _ e => P e.store)
      fun e => P e.store := by
  unfold shareExpense
  cases checkExpense total with
  | error e => exact .pure fun _ he => he
  | ok _ =>
    have hresolve := triple_onStore (triple_resolveMembers h.toDirectoryKeeps group)
    refine hresolve.bind_except (fun _ => .pure fun _ he => he) fun members => ?_
    dsimp only
    cases split payer total members with
    | error e => exact .pure fun _ he => he
    | ok parts =>
      exact (h.addLoans payer parts.2 parts.1).bind_except (fun _ => .pure fun _ he => he)
        fun _ => .pure fun _ he => he

end Engine

namespace Web.Site

/-! ## Requests -/

/-- What a call keeps, it keeps under the deadline of a request. -/
theorem triple_answer_keeps (timeout : Nat) (actor : UserId) (call : Call)
    (h : Triple (fun x => P x.engine.store) (perform b settings actor call)
      (fun _ x => P x.engine.store) fun x => P x.engine.store) :
    Triple (fun x => P x.engine.store) (answer b settings timeout actor call)
      (fun _ x => P x.engine.store) fun x => P x.engine.store := by
  refine (h.within_prompt timeout False.elim).bind fun r => ?_
  refine ((triple_count (P := P) _).conseq ?_ (fun _ _ h => h) fun _ h => h).bind fun _ =>
    .pure fun _ h => h
  intro x hx
  cases r with
  | some response => exact hx
  | none => exact hx.1

/-- What the call keeps that a request asks for, the request keeps. -/
theorem triple_handle_keeps (timeout : Nat) (r : Request)
    (h : ∀ actor call, r.call? = some (actor, call) →
      Triple (fun x => P x.engine.store) (perform b settings actor call)
        (fun _ x => P x.engine.store) fun x => P x.engine.store) :
    Triple (fun x => P x.engine.store) (handle b settings timeout r)
      (fun _ x => P x.engine.store) fun x => P x.engine.store := by
  unfold Request.call? at h
  unfold handle
  cases hroute : Route.find? r.method r.target with
  | none => exact .pure fun _ hx => hx
  | some route =>
    cases route with
    | health => exact .pure fun _ hx => hx
    | metrics => exact Triple.act fun _ hx => hx
    | endpoint e ids =>
      rw [hroute] at h
      dsimp only at h ⊢
      cases hactor : r.actor? with
      | none => exact .pure fun _ hx => hx
      | some actor =>
        dsimp only
        cases hcall : readCall e ids r with
        | error reject => exact .pure fun _ hx => hx
        | ok call =>
          rw [hactor, hcall] at h
          exact triple_answer_keeps timeout actor call (h actor call rfl)

/-- A task of the backends of which only the response is of interest. -/
theorem triple_onStore_keeps {α : Type} {t : Task σ α} (f : α → Response)
    (h : Triple P t (fun _ => P) P) :
    Triple (fun x => P x.engine.store) (do let r ← onStore t; return f r)
      (fun _ x => P x.engine.store) fun x => P x.engine.store :=
  triple_response f (triple_onEngine (Engine.triple_onStore h))

/-- Calling the engine for an actor, unless an expense is shared. -/
theorem triple_perform_reading (h : b.ReadingKeeps settings P) (actor : UserId) (call : Call)
    (hcall : call.endpoint ≠ .shareExpense) :
    Triple (fun x => P x.engine.store) (perform b settings actor call)
      (fun _ x => P x.engine.store) fun x => P x.engine.store := by
  have hd := h.toDirectoryKeeps
  cases call with
  | getBalance =>
    exact triple_response _ (triple_onEngine (Engine.triple_balanceLinesOf_keeps h actor))
  | listGroups => exact triple_onStore_keeps _ (h.groupsOf actor)
  | createGroup message =>
    exact triple_unlessBroken _
      (triple_onStore_keeps _ (Engine.triple_createGroup hd message.name actor))
  | getGroup group => exact triple_onStore_keeps _ (Engine.triple_groupInfo hd group)
  | deleteGroup group => exact triple_onStore_keeps _ (Engine.triple_deleteGroup hd actor group)
  | listMembers group => exact triple_onStore_keeps _ (Engine.triple_membersOf hd group)
  | addMembers group message =>
    exact triple_unlessBroken _
      (triple_onStore_keeps _ (Engine.triple_addMembers hd actor group message.users))
  | removeMember group user =>
    exact triple_onStore_keeps _ (Engine.triple_removeMember hd actor group user)
  | shareExpense group message => exact absurd rfl hcall

/-- Calling the engine for an actor. -/
theorem triple_perform_keeps (h : b.ServiceKeeps settings P) (actor : UserId) (call : Call) :
    Triple (fun x => P x.engine.store) (perform b settings actor call)
      (fun _ x => P x.engine.store) fun x => P x.engine.store := by
  by_cases hcall : call.endpoint = .shareExpense
  · cases call with
    | shareExpense group message =>
      have hshare :=
        triple_onEngine (Engine.triple_shareExpense_keeps h actor message.amount group)
      refine triple_unlessBroken _ ?_
      refine hshare.bind_except (fun _ => .pure fun _ hx => hx) fun expense => ?_
      exact (triple_count _).bind fun _ => .pure fun _ hx => hx
    | _ => contradiction
  · exact triple_perform_reading h.toReadingKeeps actor call hcall

end Web.Site

end ExpenseLedger
