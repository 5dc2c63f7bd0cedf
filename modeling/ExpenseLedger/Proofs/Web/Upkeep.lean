import ExpenseLedger.Proofs.Engine.Upkeep
import ExpenseLedger.Web.Site
/-!
# The site keeps its store sound

A request keeps the store coherent whatever becomes of it. If dropping an entry is sure to succeed
in time and the request is not answered with a timeout, then nothing is lost either.
-/

open ExpenseLedger.Task

namespace ExpenseLedger.Web.Site

open Journaled

variable {σ α : Type} {w : Store.Waits} {settings : EngineSettings} {assumption : Prop}

/-! ## Building blocks -/

/-- Tasks of the engine. -/
theorem triple_onEngine {P : σ → Prop} {t : Task (Engine σ) α} {Q : α → σ → Prop} {R : σ → Prop}
    (h : Triple (fun e => P e.store) t (fun a e => Q a e.store) fun e => R e.store) :
    Triple (fun x => P x.engine.store) (onEngine t) (fun a x => Q a x.engine.store)
      fun x => R x.engine.store :=
  h.focus fun _ _ => rfl

/-- Counting leaves the engine alone. -/
theorem triple_count {P : σ → Prop} {R : Site σ → Prop} (f : Tally → Tally) :
    Triple (fun x => P x.engine.store) (count f) (fun _ x => P x.engine.store) R :=
  Triple.act fun _ hx => hx

/-- A message is checked before anything else happens. -/
theorem triple_unlessBroken {P R : Site σ → Prop} (breach : Option Breach)
    {t : Task (Site σ) Response} (h : Triple P t (fun _ => P) R) :
    Triple P (unlessBroken breach t) (fun _ => P) R := by
  cases breach with
  | some _ => exact .pure fun _ hx => hx
  | none => exact h

/-- A task of which only the response to its result is of interest. -/
theorem triple_response {P R : Site σ → Prop} {t : Task (Site σ) α} (f : α → Response)
    (h : Triple P t (fun _ => P) R) :
    Triple P (do let r ← t; return f r) (fun _ => P) R :=
  h.bind fun _ => .pure fun _ hx => hx

/-- An operation on the directory of groups. -/
theorem triple_onDirectory {t : Task Journaled α} (f : α → Response)
    (h : Triple (Sound assumption) t (fun _ => Sound assumption) (Sound assumption)) :
    Triple (fun x => x.engine.store.Sound assumption) (do let r ← onStore t; return f r)
      (fun _ x => x.engine.store.Sound assumption) fun x => x.engine.store.Sound False := by
  have hon := triple_onEngine (Engine.triple_onStore h)
  exact triple_response f (hon.mono_dropped fun _ hx => hx.mono False.elim)

/-! ## Requests -/

/-- Reading the balance of an actor. -/
theorem triple_getBalance (actor : UserId) :
    Triple (fun x => x.engine.store.Sound assumption)
      (onEngine (Engine.balanceLinesOf (backends w) settings actor))
      (fun _ x => x.engine.store.Sound assumption) fun x => x.engine.store.Sound False := by
  refine Triple.of_forall fun x hx => ?_
  have hread : Triple
      (fun e => e.store.Sound assumption ∧ e.store.store = x.engine.store.store)
      (Engine.balanceLinesOf (backends w) settings actor)
      (fun _ e => e.store.Sound assumption) fun e => e.store.Sound False :=
    (Engine.triple_balanceLinesOf actor _).conseq (fun _ h => h) (fun _ _ h => h.1)
      fun _ h => h.mono False.elim
  have hlines := triple_onEngine
    (P := fun j : Journaled => j.Sound assumption ∧ j.store = x.engine.store.store)
    (Q := fun _ j => j.Sound assumption) (R := fun j => j.Sound False) hread
  refine hlines.conseq ?_ (fun _ _ h => h) fun _ h => h
  rintro x' rfl
  exact ⟨hx, rfl⟩

variable (hclear : assumption → w.clear ≤ settings.cacheUpdateTimeout)
include hclear

/-- Calling the engine keeps the store sound, and coherent even if the call is dropped. -/
theorem triple_perform (actor : UserId) (call : Call) :
    Triple (fun x => x.engine.store.Sound assumption) (perform (backends w) settings actor call)
      (fun _ x => x.engine.store.Sound assumption) fun x => x.engine.store.Sound False := by
  have hkeeps : (backends w).DirectoryKeeps (Sound assumption) := Engine.directoryKeeps_sound
  cases call with
  | getBalance => exact triple_response _ (triple_getBalance actor)
  | listGroups => exact triple_onDirectory _ (hkeeps.groupsOf actor)
  | createGroup message =>
    exact triple_unlessBroken _
      (triple_onDirectory _ (Engine.triple_createGroup hkeeps message.name actor))
  | getGroup group => exact triple_onDirectory _ (Engine.triple_groupInfo hkeeps group)
  | deleteGroup group => exact triple_onDirectory _ (Engine.triple_deleteGroup hkeeps actor group)
  | listMembers group => exact triple_onDirectory _ (Engine.triple_membersOf hkeeps group)
  | addMembers group message =>
    exact triple_unlessBroken _
      (triple_onDirectory _ (Engine.triple_addMembers hkeeps actor group message.users))
  | removeMember group user =>
    exact triple_onDirectory _ (Engine.triple_removeMember hkeeps actor group user)
  | shareExpense group message =>
    refine triple_unlessBroken _ ?_
    have hshare := triple_onEngine (Engine.triple_shareExpense hclear actor message.amount group)
    refine hshare.bind_except (fun _ => .pure fun _ hx => hx) fun expense => ?_
    exact (triple_count _).bind fun _ => .pure fun _ hx => hx

/-- **A call that is answered in time keeps the store sound.** -/
theorem triple_answer (timeout : Nat) (actor : UserId) (call : Call) :
    Triple (fun x => x.engine.store.Sound assumption)
      (answer (backends w) settings timeout actor call)
      (fun response x => x.engine.store.Sound (assumption ∧ response.status ≠ 504))
      fun x => x.engine.store.Sound False := by
  have hwithin := (triple_perform hclear actor call).within_prompt timeout False.elim
  -- All that matters of the response at the deadline is its status.
  obtain ⟨late, hlate, hstatus⟩ : ∃ late, Failure.timeout.response = late ∧ late.status = 504 :=
    ⟨_, rfl, rfl⟩
  unfold answer
  rw [hlate]
  refine hwithin.bind fun r => ?_
  have hcount := triple_count (P := Sound (assumption ∧ (r.getD late).status ≠ 504))
    (R := fun x => x.engine.store.Sound False)
    fun t => t.countRequest call.endpoint.name (r.getD late).status
  refine (hcount.conseq ?_ (fun _ _ hx => hx) fun _ hx => hx).bind fun _ => .pure fun _ hx => hx
  intro x hx
  cases r with
  | some response => exact hx.mono And.left
  | none => exact hx.1.mono fun h => h.2 hstatus

/-- **A request that is answered in time keeps the store sound.** -/
theorem triple_handle (timeout : Nat) (r : Request) :
    Triple (fun x => x.engine.store.Sound assumption)
      (handle (backends w) settings timeout r)
      (fun response x => x.engine.store.Sound (assumption ∧ response.status ≠ 504))
      fun x => x.engine.store.Sound False := by
  have hpure : ∀ response : Response,
      Triple (fun x : Site Journaled => x.engine.store.Sound assumption) (Pure.pure response)
        (fun response x => x.engine.store.Sound (assumption ∧ response.status ≠ 504))
        fun x => x.engine.store.Sound False :=
    fun response => .pure fun _ hx => hx.mono And.left
  unfold handle
  cases Route.find? r.method r.target with
  | none => exact hpure _
  | some route =>
    cases route with
    | health => exact hpure _
    | metrics => exact Triple.act fun _ hx => hx.mono And.left
    | endpoint e ids =>
      dsimp only
      cases r.actor? with
      | none => exact hpure _
      | some actor =>
        dsimp only
        cases readCall e ids r with
        | error reject => exact hpure _
        | ok call => exact triple_answer hclear timeout actor call

end ExpenseLedger.Web.Site
