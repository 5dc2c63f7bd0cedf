import ExpenseLedger.Proofs.Concurrent.Interleaving
import ExpenseLedger.Proofs.Run.Keeping
/-!
# Runs under audit

Beside a store all errors are kept that its operations have ever reported, also those that the
engine swallows. Nothing reads them, so an audited run is the same run (`World.forget_acts`). The
runs here are more than those of the service: operations of the backends can be performed directly.
-/

open ExpenseLedger.Task

namespace ExpenseLedger

open Web

variable {α σ τ : Type}

/-- The operation neither records loans nor writes amounts into the cache. -/
def Operation.IsQuiet : Operation → Prop
  | append _ | populate _ _ | applyDeltas _ _ => False
  | _ => True

/-- A store, and the errors that its operations have reported. -/
structure Audited where
  /-- The store. -/
  store : Store
  /-- The errors, from the first to the last. -/
  reported : List Error
deriving DecidableEq

namespace Audited

/-- The empty store, of which nothing has been reported. -/
def start (supply : Supply) : Audited := ⟨Store.empty supply, []⟩

/-! ## Operations -/

/-- The error of a reply, if it is one. -/
def errors : Except Error α → List Error
  | .ok _ => []
  | .error e => [e]

/-- Performs an operation and keeps the error that it reports. -/
def perform (o : Operation) (x : Audited) : o.Reply × Audited :=
  let r := o.perform x.store
  (r.1, ⟨r.2, x.reported ++ errors r.1⟩)

/-- Waits, then performs an operation. -/
def after (duration : Nat) (o : Operation) : Task Audited o.Reply := do
  Task.wait duration
  Task.act (perform o)

/-- The operations of the store, under audit. -/
def backends (w : Store.Waits) : Backends Audited where
  append loans := after w.append (.append loans)
  computeBalance user := after w.computeBalance (.computeBalance user)
  hasEntry user := after w.hasEntry (.hasEntry user)
  lookup user := after w.lookup (.lookup user)
  populate user balance := after w.populate (.populate user balance)
  applyDeltas user deltas := after w.applyDeltas (.applyDeltas user deltas)
  clear user := after w.clear (.clear user)
  createGroup name owner := Task.act (perform (.createGroup name owner))
  findGroup group := after w.findGroup (.findGroup group)
  deleteGroup group := Task.act (perform (.deleteGroup group))
  addMembers group users := Task.act (perform (.addMembers group users))
  removeMember group user := Task.act (perform (.removeMember group user))
  members group := Task.act (perform (.members group))
  groupsOf user := Task.act (perform (.groupsOf user))

/-! ## Forgetting the errors -/

/-- Keeping errors has no influence on an operation. -/
theorem mirrors_act (o : Operation) : Mirrors store (Task.act (perform o)) (Task.act o.perform) :=
  Mirrors.act (fun _ => rfl) fun _ => rfl

/-- Nor has it on one that waits first. -/
theorem mirrors_after (duration : Nat) (o : Operation) :
    Mirrors store (after duration o) (Store.after duration o.perform) :=
  (Mirrors.wait store duration).bind fun _ => mirrors_act o

/-- **Forgetting the errors gives back the operations of the store.** -/
theorem backends_mirrors (w : Store.Waits) : (backends w).Mirrors store (Store.backends w) where
  append loans := mirrors_after w.append (.append loans)
  computeBalance user := mirrors_after w.computeBalance (.computeBalance user)
  hasEntry user := mirrors_after w.hasEntry (.hasEntry user)
  lookup user := mirrors_after w.lookup (.lookup user)
  populate user balance := mirrors_after w.populate (.populate user balance)
  applyDeltas user deltas := mirrors_after w.applyDeltas (.applyDeltas user deltas)
  clear user := mirrors_after w.clear (.clear user)
  createGroup name owner := mirrors_act (.createGroup name owner)
  findGroup group := mirrors_after w.findGroup (.findGroup group)
  deleteGroup group := mirrors_act (.deleteGroup group)
  addMembers group users := mirrors_act (.addMembers group users)
  removeMember group user := mirrors_act (.removeMember group user)
  members group := mirrors_act (.members group)
  groupsOf user := mirrors_act (.groupsOf user)

/-! ## What operations leave -/

/-- An operation is performed at one instant, or nothing happens. -/
theorem triple_task {o : Operation} {P R : Audited → Prop} {Q : o.Reply → Audited → Prop}
    (w : Store.Waits) (hR : ∀ x, P x → R x) (h : ∀ x, P x → Q (perform o x).1 (perform o x).2) :
    Triple P (o.task (backends w)) Q R := by
  have hafter (duration : Nat) : Triple P (after duration o) Q R :=
    ((Triple.wait duration).conseq (fun _ hx => hx) (fun _ _ hx => hx) hR).bind fun _ =>
      Triple.act h
  cases o with
  | append loans => exact hafter w.append
  | computeBalance user => exact hafter w.computeBalance
  | hasEntry user => exact hafter w.hasEntry
  | lookup user => exact hafter w.lookup
  | populate user balance => exact hafter w.populate
  | applyDeltas user deltas => exact hafter w.applyDeltas
  | clear user => exact hafter w.clear
  | createGroup name owner => exact Triple.act h
  | findGroup group => exact hafter w.findGroup
  | deleteGroup group => exact Triple.act h
  | addMembers group users => exact Triple.act h
  | removeMember group user => exact Triple.act h
  | members group => exact Triple.act h
  | groupsOf user => exact Triple.act h

/-- What all quiet operations keep, the operations of the directory keep. -/
theorem directoryKeeps {P : Audited → Prop} (w : Store.Waits)
    (h : ∀ o : Operation, o.IsQuiet → ∀ x, P x → P (perform o x).2) :
    (backends w).DirectoryKeeps P := by
  have hquiet (o : Operation) (ho : o.IsQuiet) :
      Triple P (o.task (backends w)) (fun _ => P) P := triple_task w (fun _ hx => hx) (h o ho)
  exact ⟨fun name owner => hquiet (.createGroup name owner) trivial,
    fun group => hquiet (.findGroup group) trivial,
    fun group => hquiet (.deleteGroup group) trivial,
    fun group users => hquiet (.addMembers group users) trivial,
    fun group user => hquiet (.removeMember group user) trivial,
    fun group => hquiet (.members group) trivial,
    fun user => hquiet (.groupsOf user) trivial⟩

end Audited

/-! ## Runs -/

/-- What can happen in a run in which operations are performed directly, too. -/
inductive Action where
  /-- A call of a service, a request on the web or a fault. -/
  | step (st : Step)
  /-- An operation of the backends. -/
  | direct (o : Operation)

/-- The action leaves it to the engine to write amounts into the cache. -/
def Action.isProper : Action → Bool
  | step (.fault (.damage _ _ _ _)) => false
  | direct (.populate _ _) => false
  | direct (.applyDeltas _ _) => false
  | _ => true

namespace World

/-- The store under audit. -/
def audited : World Audited := ⟨Audited.backends, fun f x => { x with store := f x.store }⟩

/-- The state after an action. Operations that are performed directly do not wait. -/
def act (w : World σ) (x : Site σ) : Action → Site σ
  | .step st => w.step x st
  | .direct o => (Site.onStore (o.task (w.backends .none)) none x).state

/-- The state after some actions. -/
def acts (w : World σ) (x : Site σ) : List Action → Site σ
  | [] => x
  | a :: as => acts w (w.act x a) as

/-- Operations mirror each other if the backends do. -/
theorem mirrors_task {forget : τ → σ} {b : Backends τ} {c : Backends σ} (h : b.Mirrors forget c)
    (o : Operation) : Task.Mirrors forget (o.task b) (o.task c) := by
  cases o with
  | append loans => exact h.append loans
  | computeBalance user => exact h.computeBalance user
  | hasEntry user => exact h.hasEntry user
  | lookup user => exact h.lookup user
  | populate user balance => exact h.populate user balance
  | applyDeltas user deltas => exact h.applyDeltas user deltas
  | clear user => exact h.clear user
  | createGroup name owner => exact h.createGroup name owner
  | findGroup group => exact h.findGroup group
  | deleteGroup group => exact h.deleteGroup group
  | addMembers group users => exact h.addMembers group users
  | removeMember group user => exact h.removeMember group user
  | members group => exact h.members group
  | groupsOf user => exact h.groupsOf user

/-- Actions do the same to what is not forgotten. -/
theorem Mirrors.acts {forget : τ → σ} {v : World τ} {w : World σ} (h : v.Mirrors forget w)
    (x : Site τ) (actions : List Action) :
    (v.acts x actions).map forget = w.acts (x.map forget) actions := by
  induction actions generalizing x with
  | nil => rfl
  | cons a actions ih =>
    have hfirst : (v.act x a).map forget = w.act (x.map forget) a := by
      cases a with
      | step st => exact h.step x st
      | direct o =>
        exact (Site.mirrors_onStore (mirrors_task (h.backends .none) o)).state_eq none x
    rw [World.acts, World.acts, ih, hfirst]

/-- **An audited run is the same run.** -/
theorem forget_acts (x : Site Audited) (actions : List Action) :
    (audited.acts x actions).map Audited.store = plain.acts (x.map Audited.store) actions :=
  Mirrors.acts ⟨Audited.backends_mirrors, fun _ _ => rfl⟩ x actions

end World

end ExpenseLedger
