import ExpenseLedger.Proofs.Run.Steps
import ExpenseLedger.Proofs.Web.Keeping
/-!
# What runs keep

What the services and the faults keep, each step of a run keeps, and with it the whole run.
-/

open ExpenseLedger.Task

namespace ExpenseLedger

open Web

variable {σ : Type}

/-- The call records nothing and drops no entry. -/
def ServiceCall.Spares : ServiceCall → Prop
  | addLoans _ _ _ => False
  | shareExpense _ _ _ => False
  | clear _ => False
  | _ => True

namespace World

variable {b : Backends σ} {settings : EngineSettings} {P : σ → Prop}

/-- The value of a task may be ignored. -/
theorem triple_ignore {α : Type} {Q R : σ → Prop} {t : Task σ α}
    (h : Triple P t (fun _ => Q) R) : Triple P t.ignore (fun _ => Q) R :=
  h.bind fun _ => .pure fun _ hs => hs

/-- A call that records nothing and drops no entry. -/
theorem triple_perform_spares (h : b.ReadingKeeps settings P) (call : ServiceCall)
    (hcall : call.Spares) :
    Triple (fun e => P e.store) (call.perform b settings) (fun _ e => P e.store)
      fun e => P e.store := by
  have hd := h.toDirectoryKeeps
  cases call with
  | addLoans lender amount debtors => contradiction
  | balanceOf user => exact triple_ignore (h.balanceOf user)
  | balanceLinesOf user => exact triple_ignore (Engine.triple_balanceLinesOf_keeps h user)
  | shareExpense payer total group => contradiction
  | clear user => contradiction
  | createGroup name owner =>
    exact triple_ignore (Engine.triple_onStore (Engine.triple_createGroup hd name owner))
  | groupInfo group =>
    exact triple_ignore (Engine.triple_onStore (Engine.triple_groupInfo hd group))
  | membersOf group =>
    exact triple_ignore (Engine.triple_onStore (Engine.triple_membersOf hd group))
  | groupsOf user => exact triple_ignore (Engine.triple_onStore (h.groupsOf user))
  | addMembers actor group users =>
    exact triple_ignore (Engine.triple_onStore (Engine.triple_addMembers hd actor group users))
  | removeMember actor group user =>
    exact triple_ignore (Engine.triple_onStore (Engine.triple_removeMember hd actor group user))
  | deleteGroup actor group =>
    exact triple_ignore (Engine.triple_onStore (Engine.triple_deleteGroup hd actor group))

/-- A call of a service. -/
theorem triple_perform_keeps (h : b.ServiceKeeps settings P) (call : ServiceCall) :
    Triple (fun e => P e.store) (call.perform b settings) (fun _ e => P e.store)
      fun e => P e.store := by
  cases call with
  | addLoans lender amount debtors => exact triple_ignore (h.addLoans lender amount debtors)
  | shareExpense payer total group =>
    exact triple_ignore (Engine.triple_shareExpense_keeps h payer total group)
  | clear user => exact triple_ignore (Engine.triple_onStore (h.clear user))
  | _ => exact triple_perform_spares h.toReadingKeeps _ trivial

/-- **What services and faults keep, every step keeps.** -/
theorem step_keeps {w : World σ} (x : Site σ) (st : Step) (hx : P x.engine.store)
    (hservice : ∀ c : Conditions, (w.backends c.waits).ServiceKeeps c.settings P)
    (hfault : ∀ f s, st = .fault f → P s → P (w.alter (fun s => f.strike s) s)) :
    P (w.step x st).engine.store := by
  cases st with
  | call c call =>
    have hleaves := Site.triple_onEngine (triple_perform_keeps (hservice c) call) none x hx
    exact hleaves.state (fun _ _ h => h) fun _ h => h
  | request c r =>
    have hhandle := Site.triple_handle_keeps c.timeout r fun actor call _ =>
      Site.triple_perform_keeps (hservice c) actor call
    exact (hhandle none x hx).state (fun _ _ h => h) fun _ h => h
  | fault f => exact hfault f _ rfl hx

/-- **What services and faults keep, a whole run keeps.** -/
theorem run_keeps {w : World σ} (x : Site σ) (steps : List Step) (hx : P x.engine.store)
    (hservice : ∀ c : Conditions, (w.backends c.waits).ServiceKeeps c.settings P)
    (hfault : ∀ (f : Fault) s, P s → P (w.alter (fun s => f.strike s) s)) :
    P (w.run x steps).engine.store := by
  induction steps generalizing x with
  | nil => exact hx
  | cons st steps ih =>
    exact ih (w.step x st) (step_keeps x st hx hservice fun f s _ => hfault f s)

end World

end ExpenseLedger
