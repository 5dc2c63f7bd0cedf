import ExpenseLedger.Proofs.Run.Steps
import Mathlib.Logic.Function.Basic
/-!
# Calls that take turns

Calls of the services that are under way at one time take turns, one operation of the backends at a
turn. What a call does next is told by the call itself: it is run on a notebook, which gives the
replies that the call has got so far, and where it has none yet, notes the operation down and stops.
So nothing is said here of any particular service.

A notebook has one reply to an operation, however often it is asked. That is right for calls that
ask every operation once, as reading a balance and recording loans do: a batch that passes the check
has no party twice.
-/

open ExpenseLedger.Task

namespace ExpenseLedger

variable {σ : Type}

/-! ## Operations -/

/-- The operations of the backends, each with its arguments. -/
inductive Operation where
  /-- Records a batch of loans. -/
  | append (loans : List Loan)
  /-- Computes a balance. -/
  | computeBalance (user : UserId)
  /-- Asks for an entry. -/
  | hasEntry (user : UserId)
  /-- Reads an entry. -/
  | lookup (user : UserId)
  /-- Replaces an entry. -/
  | populate (user : UserId) (balance : Balance)
  /-- Adds amounts to an entry. -/
  | applyDeltas (user : UserId) (deltas : List (UserId × Int))
  /-- Drops an entry. -/
  | clear (user : UserId)
  /-- Creates a group. -/
  | createGroup (name : String) (owner : UserId)
  /-- Finds a group. -/
  | findGroup (group : GroupId)
  /-- Deletes a group. -/
  | deleteGroup (group : GroupId)
  /-- Adds members to a group. -/
  | addMembers (group : GroupId) (users : List UserId)
  /-- Takes a member out of a group. -/
  | removeMember (group : GroupId) (user : UserId)
  /-- Lists the members of a group. -/
  | members (group : GroupId)
  /-- Lists the groups of a user. -/
  | groupsOf (user : UserId)
deriving DecidableEq

namespace Operation

/-- What an operation gives if it does not fail. -/
def Value : Operation → Type
  | append _ => List LoanRecord
  | computeBalance _ => Balance
  | hasEntry _ => Bool
  | lookup _ => Cache.Lookup
  | populate _ _ => Unit
  | applyDeltas _ _ => Cache.DeltaOutcome
  | clear _ => Unit
  | createGroup _ _ => Group
  | findGroup _ => Option Group
  | deleteGroup _ => Bool
  | addMembers _ _ => Unit
  | removeMember _ _ => Bool
  | members _ => List UserId
  | groupsOf _ => List Group

/-- The reply to an operation. -/
abbrev Reply (o : Operation) : Type := Except Error o.Value

/-- Performs an operation on a store. -/
def perform : (o : Operation) → Store → o.Reply × Store
  | append loans => Store.append loans
  | computeBalance user => Store.onLedger (Ledger.computeBalance user)
  | hasEntry user => Store.onCache (Cache.hasEntry user)
  | lookup user => Store.onCache (Cache.lookup user)
  | populate user balance => Store.onCache (Cache.populate user balance)
  | applyDeltas user deltas => Store.onCache (Cache.applyDeltas user deltas)
  | clear user => Store.onCache (Cache.clear user)
  | createGroup name owner => Store.createGroup name owner
  | findGroup group => Store.ask (Directory.find group)
  | deleteGroup group => Store.onDirectory (Directory.delete group)
  | addMembers group users => Store.onDirectory (Directory.addMembers group users)
  | removeMember group user => Store.onDirectory (Directory.removeMember group user)
  | members group => Store.ask (Directory.members group)
  | groupsOf user => Store.ask (Directory.groupsOf user)

/-- The task that some backends have for an operation. -/
def task (b : Backends σ) : (o : Operation) → Task σ o.Reply
  | append loans => b.append loans
  | computeBalance user => b.computeBalance user
  | hasEntry user => b.hasEntry user
  | lookup user => b.lookup user
  | populate user balance => b.populate user balance
  | applyDeltas user deltas => b.applyDeltas user deltas
  | clear user => b.clear user
  | createGroup name owner => b.createGroup name owner
  | findGroup group => b.findGroup group
  | deleteGroup group => b.deleteGroup group
  | addMembers group users => b.addMembers group users
  | removeMember group user => b.removeMember group user
  | members group => b.members group
  | groupsOf user => b.groupsOf user

/-- Performing an operation is what the backends in memory do at one instant. -/
theorem atomic_task (w : Store.Waits) (o : Operation) :
    Store.Atomic o.perform (o.task (Store.backends w)) := by
  cases o with
  | append loans => exact Store.atomic_after _ _
  | computeBalance user => exact Store.atomic_after _ _
  | hasEntry user => exact Store.atomic_after _ _
  | lookup user => exact Store.atomic_after _ _
  | populate user balance => exact Store.atomic_after _ _
  | applyDeltas user deltas => exact Store.atomic_after _ _
  | clear user => exact Store.atomic_after _ _
  | createGroup name owner => exact Store.atomic_act _
  | findGroup group => exact Store.atomic_after _ _
  | deleteGroup group => exact Store.atomic_act _
  | addMembers group users => exact Store.atomic_act _
  | removeMember group user => exact Store.atomic_act _
  | members group => exact Store.atomic_act _
  | groupsOf user => exact Store.atomic_act _

end Operation

/-! ## Notebooks -/

/-- The replies that have been got so far. -/
abbrev Answers : Type := (o : Operation) → Option o.Reply

/-- A notebook gives the replies that it has and notes what else is asked. -/
structure Notebook where
  /-- The replies. -/
  answers : Answers
  /-- The operations for which there has been no reply. -/
  asked : List Operation

namespace Notebook

/-- Gives the reply to an operation, or notes the operation and stops. -/
def ask (o : Operation) : Task Notebook o.Reply := fun _ n =>
  match n.answers o with
  | some r => ⟨n, .done r 0⟩
  | none => ⟨{ n with asked := n.asked ++ [o] }, .dropped⟩

/-- A notebook in place of the backends. -/
def backends : Backends Notebook where
  append loans := ask (.append loans)
  computeBalance user := ask (.computeBalance user)
  hasEntry user := ask (.hasEntry user)
  lookup user := ask (.lookup user)
  populate user balance := ask (.populate user balance)
  applyDeltas user deltas := ask (.applyDeltas user deltas)
  clear user := ask (.clear user)
  createGroup name owner := ask (.createGroup name owner)
  findGroup group := ask (.findGroup group)
  deleteGroup group := ask (.deleteGroup group)
  addMembers group users := ask (.addMembers group users)
  removeMember group user := ask (.removeMember group user)
  members group := ask (.members group)
  groupsOf user := ask (.groupsOf user)

end Notebook

/-! ## Calls under way -/

/-- The settings with later deadlines for cache work. -/
def EngineSettings.postponed (settings : EngineSettings) : EngineSettings :=
  { settings with
    cacheUpdateTimeout := settings.cacheUpdateTimeout + 1
    populateTimeout := settings.populateTimeout + 1 }

/-- A call that is under way, with the replies that it has got. -/
structure InFlight where
  /-- The call. -/
  call : ServiceCall
  /-- The replies. -/
  answers : Answers

namespace InFlight

/-- What a call asks of the backends next. There can be several operations, of tasks side by side.
No time passes in a notebook, so there is nothing that a deadline could cut short, not even one of
zero, which is put off. With no time left at all, a task that has been stopped does not go on after
a deadline of its own. -/
def asks (settings : EngineSettings) (p : InFlight) : List Operation :=
  (p.call.perform Notebook.backends settings.postponed (some 0)
    ⟨⟨p.answers, []⟩, Counters.zero⟩).state.store.asked

/-- The call gets a reply. -/
def answer (p : InFlight) (o : Operation) (r : o.Reply) : InFlight :=
  { p with answers := Function.update p.answers o (some r) }

end InFlight

/-- A store and the calls that are under way on it. -/
structure Traffic where
  /-- The store. -/
  store : Store
  /-- The calls. -/
  calls : List InFlight

/-- A turn: which call comes next, and with which of the operations that it asks. -/
structure Turn where
  /-- The place of the call. -/
  index : Nat
  /-- The operation. -/
  operation : Operation
deriving DecidableEq

namespace Traffic

/-- Calls that have not begun. -/
def start (s : Store) (calls : List ServiceCall) : Traffic :=
  ⟨s, calls.map fun call => ⟨call, fun _ => none⟩⟩

/-- Takes a turn. A call that does not ask the operation leaves everything as it is. -/
def step (settings : EngineSettings) (x : Traffic) (turn : Turn) : Traffic :=
  match x.calls[turn.index]? with
  | none => x
  | some p =>
    if turn.operation ∈ p.asks settings then
      let r := turn.operation.perform x.store
      ⟨r.2, x.calls.set turn.index (p.answer turn.operation r.1)⟩
    else x

/-- A turn performs an operation that some call asks, and gives the reply to this call. -/
theorem step_cases (settings : EngineSettings) (x : Traffic) (turn : Turn) :
    x.step settings turn = x ∨
      ∃ l₁ p l₂, x.calls = l₁ ++ p :: l₂ ∧ turn.operation ∈ p.asks settings ∧
        x.step settings turn = ⟨(turn.operation.perform x.store).2,
          l₁ ++ p.answer turn.operation (turn.operation.perform x.store).1 :: l₂⟩ := by
  unfold step
  split
  · exact .inl rfl
  · rename_i p hp
    split
    · rename_i ho
      obtain ⟨hi, rfl⟩ := List.getElem?_eq_some_iff.1 hp
      obtain ⟨l₁, l₂, hcalls, -, hset⟩ := List.exists_of_set hi
      exact .inr ⟨l₁, _, l₂, hcalls, ho, congrArg (Traffic.mk _) hset⟩
    · exact .inl rfl

/-- Takes turns one after the other. -/
def run (settings : EngineSettings) (x : Traffic) : List Turn → Traffic
  | [] => x
  | turn :: turns => run settings (x.step settings turn) turns

/-- A turn leaves the calls what they are. -/
theorem map_call_step (settings : EngineSettings) (x : Traffic) (turn : Turn) :
    (x.step settings turn).calls.map InFlight.call = x.calls.map InFlight.call := by
  rcases x.step_cases settings turn with hstep | ⟨l₁, p, l₂, hcalls, -, hstep⟩
  · rw [hstep]
  · rw [hstep, hcalls, List.map_append, List.map_append]
    rfl

/-- Turns leave the calls what they are. -/
theorem map_call_run (settings : EngineSettings) (x : Traffic) (turns : List Turn) :
    (x.run settings turns).calls.map InFlight.call = x.calls.map InFlight.call := by
  induction turns generalizing x with
  | nil => rfl
  | cons turn turns ih => rw [run, ih, map_call_step]

end Traffic

end ExpenseLedger
