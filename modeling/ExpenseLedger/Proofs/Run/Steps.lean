import ExpenseLedger.Proofs.Cache.Codec
import ExpenseLedger.Proofs.History.Journal
import ExpenseLedger.Proofs.Web.Mirror
/-!
# Runs of the service

A run is any sequence of calls of the services, requests on the web and faults. Each call and each
request has conditions of its own: how long the operations of the store wait, the settings of the
engine and the time for answering requests. Runs come in two kinds, with and without a history of
what has happened, and forgetting the history gives the same run (`World.forget_run`).
-/

open ExpenseLedger.Task

namespace ExpenseLedger

open Web

/-! ## Steps -/

/-- The conditions under which the service works. -/
structure Conditions where
  /-- How long the operations of the store wait. -/
  waits : Store.Waits
  /-- The settings of the engine. -/
  settings : EngineSettings
  /-- The time for answering a request. -/
  timeout : Nat
deriving DecidableEq

/-- The calls of the services, and the direct dropping of a cache entry. -/
inductive ServiceCall where
  /-- Records loans. -/
  | addLoans (lender : UserId) (amount : Int) (debtors : List UserId)
  /-- Reads a balance. -/
  | balanceOf (user : UserId)
  /-- Reads the lines of a balance. -/
  | balanceLinesOf (user : UserId)
  /-- Shares an expense. -/
  | shareExpense (payer : UserId) (total : Int) (group : GroupId)
  /-- Drops a cache entry. -/
  | clear (user : UserId)
  /-- Creates a group. -/
  | createGroup (name : String) (owner : UserId)
  /-- Reads a group with its members. -/
  | groupInfo (group : GroupId)
  /-- Lists the members of a group. -/
  | membersOf (group : GroupId)
  /-- Lists the groups of a user. -/
  | groupsOf (user : UserId)
  /-- Adds members to a group. -/
  | addMembers (actor : UserId) (group : GroupId) (users : List UserId)
  /-- Takes a member out of a group. -/
  | removeMember (actor : UserId) (group : GroupId) (user : UserId)
  /-- Deletes a group. -/
  | deleteGroup (actor : UserId) (group : GroupId)
deriving DecidableEq

/-- A task whose value is of no interest. -/
def Task.ignore {σ α : Type} (t : Task σ α) : Task σ Unit := do
  let _ ← t
  return ()

/-- A task whose value is ignored leaves what it leaves. -/
theorem Task.state_ignore {σ α : Type} (t : Task σ α) (budget : Option Nat) (s : σ) :
    (t.ignore budget s).state = (t budget s).state := by
  unfold Task.ignore
  cases h : t budget s with
  | mk s' outcome =>
    cases outcome with
    | dropped => rw [bind_of_dropped h]
    | done a spent =>
      rw [bind_of_done h]
      rfl

/-- Performs a call. -/
def ServiceCall.perform {σ : Type} (b : Backends σ) (settings : EngineSettings) :
    ServiceCall → Task (Engine σ) Unit
  | addLoans lender amount debtors => (Engine.addLoans b settings lender amount debtors).ignore
  | balanceOf user => (Engine.balanceOf b settings user).ignore
  | balanceLinesOf user => (Engine.balanceLinesOf b settings user).ignore
  | shareExpense payer total group => (Engine.shareExpense b settings payer total group).ignore
  | clear user => (Engine.onStore (b.clear user)).ignore
  | createGroup name owner => (Engine.onStore (Engine.createGroup b name owner)).ignore
  | groupInfo group => (Engine.onStore (Engine.groupInfo b group)).ignore
  | membersOf group => (Engine.onStore (Engine.membersOf b group)).ignore
  | groupsOf user => (Engine.onStore (b.groupsOf user)).ignore
  | addMembers actor group users => (Engine.onStore (Engine.addMembers b actor group users)).ignore
  | removeMember actor group user =>
    (Engine.onStore (Engine.removeMember b actor group user)).ignore
  | deleteGroup actor group => (Engine.onStore (Engine.deleteGroup b actor group)).ignore

/-- What can happen to a store from outside. -/
inductive Fault where
  /-- The ledger goes out of service or comes back. -/
  | ledger (failing : Bool)
  /-- The cache goes out of service or comes back. -/
  | cache (failing : Bool)
  /-- The cache begins or ceases to refuse updates. -/
  | updates (failing : Bool)
  /-- The directory goes out of service or comes back. -/
  | directory (failing : Bool)
  /-- A field that cannot be read is written to the hash of a user. -/
  | damage (user : UserId) (field value : String) (h : Cache.Rejects field value)

/-- What a fault does to a store. -/
def Fault.strike (s : Store) : Fault → Store
  | ledger failing => { s with ledger := { s.ledger with failing } }
  | cache failing => { s with cache := { s.cache with failing } }
  | updates failing => { s with cache := { s.cache with failingUpdates := failing } }
  | directory failing => { s with directory := { s.directory with failing } }
  | damage user field value _ => { s with cache := s.cache.insertRaw user field value }

/-- What can happen in a run. -/
inductive Step where
  /-- A call of a service, which has no deadline. -/
  | call (c : Conditions) (call : ServiceCall)
  /-- A request on the web. -/
  | request (c : Conditions) (request : Request)
  /-- A fault. -/
  | fault (f : Fault)

/-! ## Runs -/

/-- A kind of store: its operations, and how its content can be altered. -/
structure World (σ : Type) where
  /-- The operations, with waits. -/
  backends : Store.Waits → Backends σ
  /-- Alters the content. -/
  alter : (Store → Store) → σ → σ

namespace World

/-- The store. -/
def plain : World Store := ⟨Store.backends, fun f s => f s⟩

/-- The store with its history. -/
def journaled : World Journaled := ⟨Journaled.backends, fun f j => { j with store := f j.store }⟩

variable {σ : Type} (w : World σ)

/-- The state after a step. -/
def step (x : Site σ) : Step → Site σ
  | .call c call => (Site.onEngine (call.perform (w.backends c.waits) c.settings) none x).state
  | .request c r => (Site.handle (w.backends c.waits) c.settings c.timeout r none x).state
  | .fault f =>
    { x with engine := { x.engine with store := w.alter (fun s => f.strike s) x.engine.store } }

/-- The status of the response, if the step is a request. -/
def status? (x : Site σ) : Step → Option Nat
  | .request c r =>
    match (Site.handle (w.backends c.waits) c.settings c.timeout r none x).outcome with
    | .done response _ => some response.status
    | .dropped => none
  | _ => none

/-- The status is that of the response. -/
theorem status?_request {x : Site σ} {c : Conditions} {r : Request} {response : Response}
    {spent : Nat}
    (h : (Site.handle (w.backends c.waits) c.settings c.timeout r none x).outcome =
      .done response spent) : w.status? x (.request c r) = some response.status := by
  unfold status?
  dsimp only
  rw [h]

/-- The state after the steps of a run. -/
def run (x : Site σ) : List Step → Site σ
  | [] => x
  | st :: steps => run (w.step x st) steps

/-- The statuses of the responses to the requests of a run. -/
def statuses (x : Site σ) : List Step → List Nat
  | [] => []
  | st :: steps => (w.status? x st).toList ++ statuses (w.step x st) steps

/-- A run goes on from where its first part ends. -/
theorem run_append (x : Site σ) (steps more : List Step) :
    w.run x (steps ++ more) = w.run (w.run x steps) more := by
  induction steps generalizing x with
  | nil => rfl
  | cons st steps ih => exact ih (w.step x st)

/-- The statuses of a run are those of its two parts. -/
theorem statuses_append (x : Site σ) (steps more : List Step) :
    w.statuses x (steps ++ more) = w.statuses x steps ++ w.statuses (w.run x steps) more := by
  induction steps generalizing x with
  | nil => rfl
  | cons st steps ih =>
    rw [List.cons_append, statuses, statuses, ih, List.append_assoc]
    rfl

end World

/-- A site that has just been started. -/
def Web.Site.fresh {σ : Type} (s : σ) : Site σ := ⟨⟨s, Counters.zero⟩, Tally.zero⟩

/-- The site that a run from the empty store reaches. -/
def reached (supply : Supply) (steps : List Step) : Site Store :=
  World.plain.run (Site.fresh (Store.empty supply)) steps

/-- The store that a run from the empty store reaches. -/
def stored (supply : Supply) (steps : List Step) : Store := (reached supply steps).engine.store

/-- A run from the empty store goes on from where its first part ends. -/
theorem reached_append (supply : Supply) (steps more : List Step) :
    reached supply (steps ++ more) = World.plain.run (reached supply steps) more :=
  World.plain.run_append _ steps more

/-- What happens in a run from the empty store. -/
def history (supply : Supply) (steps : List Step) : List Event :=
  (World.journaled.run (Site.fresh (Journaled.start supply)) steps).engine.store.history

namespace World

/-! ## Forgetting the history -/

/-- The value of a task may be ignored on both sides. -/
theorem mirrors_ignore {σ τ α : Type} {forget : τ → σ} {t : Task τ α} {u : Task σ α}
    (h : Mirrors forget t u) : Mirrors forget t.ignore u.ignore :=
  h.bind fun _ => .pure _ _

/-- A call on mirroring backends mirrors the call. -/
theorem mirrors_perform {σ τ : Type} {forget : τ → σ} {b : Backends τ} {c : Backends σ}
    (h : b.Mirrors forget c) (settings : EngineSettings) (call : ServiceCall) :
    Mirrors (Engine.map forget) (call.perform b settings) (call.perform c settings) := by
  cases call with
  | addLoans lender amount debtors =>
    exact mirrors_ignore (Engine.mirrors_addLoans h settings lender amount debtors)
  | balanceOf user => exact mirrors_ignore (Engine.mirrors_balanceOf h settings user)
  | balanceLinesOf user => exact mirrors_ignore (Engine.mirrors_balanceLinesOf h settings user)
  | shareExpense payer total group =>
    exact mirrors_ignore (Engine.mirrors_shareExpense h settings payer total group)
  | clear user => exact mirrors_ignore (Engine.mirrors_onStore (h.clear user))
  | createGroup name owner =>
    exact mirrors_ignore (Engine.mirrors_onStore (Engine.mirrors_createGroup h name owner))
  | groupInfo group =>
    exact mirrors_ignore (Engine.mirrors_onStore (Engine.mirrors_groupInfo h group))
  | membersOf group =>
    exact mirrors_ignore (Engine.mirrors_onStore (Engine.mirrors_membersOf h group))
  | groupsOf user => exact mirrors_ignore (Engine.mirrors_onStore (h.groupsOf user))
  | addMembers actor group users =>
    exact mirrors_ignore (Engine.mirrors_onStore (Engine.mirrors_addMembers h actor group users))
  | removeMember actor group user =>
    exact mirrors_ignore (Engine.mirrors_onStore (Engine.mirrors_removeMember h actor group user))
  | deleteGroup actor group =>
    exact mirrors_ignore (Engine.mirrors_onStore (Engine.mirrors_deleteGroup h actor group))

/-- One kind of store holds more than another, and nothing that is done there depends on it. -/
structure Mirrors {σ τ : Type} (forget : τ → σ) (v : World τ) (w : World σ) : Prop where
  /-- The operations mirror each other. -/
  backends : ∀ waits, (v.backends waits).Mirrors forget (w.backends waits)
  /-- Altering the content does so as well. -/
  alter : ∀ f x, forget (v.alter f x) = w.alter f (forget x)

/-- A step does the same to what is not forgotten. -/
theorem Mirrors.step {σ τ : Type} {forget : τ → σ} {v : World τ} {w : World σ}
    (h : v.Mirrors forget w) (x : Site τ) (st : Step) :
    (v.step x st).map forget = w.step (x.map forget) st := by
  cases st with
  | call c call =>
    have hcall := mirrors_perform (h.backends c.waits) c.settings call
    exact (Site.mirrors_onEngine hcall).state_eq none x
  | request c r =>
    exact (Site.mirrors_handle (h.backends c.waits) c.settings c.timeout r).state_eq none x
  | fault f =>
    change (⟨⟨forget (v.alter _ x.engine.store), _⟩, _⟩ : Site σ) = _
    rw [h.alter]
    rfl

/-- What happens to a store does not depend on its history. -/
theorem journaled_mirrors : journaled.Mirrors Journaled.store plain :=
  ⟨Journaled.backends_mirrors, fun _ _ => rfl⟩

/-- A step that keeps its history is the same step. -/
theorem forget_step (x : Site Journaled) (st : Step) :
    (journaled.step x st).map Journaled.store = plain.step (x.map Journaled.store) st :=
  journaled_mirrors.step x st

/-- **A run that keeps its history is the same run.** -/
theorem forget_run (x : Site Journaled) (steps : List Step) :
    (journaled.run x steps).map Journaled.store = plain.run (x.map Journaled.store) steps := by
  induction steps generalizing x with
  | nil => rfl
  | cons st steps ih =>
    rw [run, run, ih, forget_step]

/-- Requests get the same responses whether a history is kept or not. -/
theorem forget_status? (x : Site Journaled) (st : Step) :
    journaled.status? x st = plain.status? (x.map Journaled.store) st := by
  cases st with
  | call c call => rfl
  | request c r =>
    have h : (journaled.backends c.waits).Mirrors Journaled.store (plain.backends c.waits) :=
      Journaled.backends_mirrors c.waits
    unfold status?
    dsimp only
    rw [(Site.mirrors_handle h c.settings c.timeout r).outcome_eq none x]
  | fault f => rfl

/-- A run has the same statuses whether a history is kept or not. -/
theorem forget_statuses (x : Site Journaled) (steps : List Step) :
    journaled.statuses x steps = plain.statuses (x.map Journaled.store) steps := by
  induction steps generalizing x with
  | nil => rfl
  | cons st steps ih =>
    rw [statuses, statuses, ih, forget_step, forget_status?]

end World

end ExpenseLedger
