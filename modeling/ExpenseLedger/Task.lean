/-!
# Tasks in virtual time

A task reads and changes a state and may wait. It runs with a budget, the time until the deadline of
whoever asked for it: a wait that fits into the budget passes, and a wait that does not fit drops
the task at the deadline, with the changes that it has made so far. Time passes by waiting only.

The result of a task holds the state in either case, so what every step of a task keeps is kept
however early the task is dropped.
-/

namespace ExpenseLedger

variable {σ τ α β : Type}

/-- What became of a task. -/
inductive Outcome (α : Type) where
  /-- It gave a value after some time. -/
  | done (value : α) (elapsed : Nat)
  /-- It was dropped at the deadline. -/
  | dropped
deriving DecidableEq

/-- The state that a task leaves, and what became of the task. -/
structure Ran (σ α : Type) where
  /-- The state. -/
  state : σ
  /-- What became of the task. -/
  outcome : Outcome α

/-- A computation on states `σ` that waits. Its budget is `none` where no deadline is set. -/
def Task (σ α : Type) : Type := Option Nat → σ → Ran σ α

namespace Task

/-- The duration fits into the budget. -/
def fits (duration : Nat) : Option Nat → Bool
  | none => true
  | some budget => duration ≤ budget

/-- Gives a value without waiting. -/
def pure (a : α) : Task σ α := fun _ s => ⟨s, .done a 0⟩

/-- Goes on with the value of a task, within what is left of the budget. -/
def bind (t : Task σ α) (f : α → Task σ β) : Task σ β := fun budget s =>
  match t budget s with
  | ⟨s', .dropped⟩ => ⟨s', .dropped⟩
  | ⟨s', .done a spent⟩ =>
    match f a (budget.map (· - spent)) s' with
    | ⟨s'', .dropped⟩ => ⟨s'', .dropped⟩
    | ⟨s'', .done b more⟩ => ⟨s'', .done b (spent + more)⟩

instance : Monad (Task σ) where
  pure := Task.pure
  bind := Task.bind

/-- Waits. -/
def wait (duration : Nat) : Task σ Unit := fun budget s =>
  if fits duration budget then ⟨s, .done () duration⟩ else ⟨s, .dropped⟩

/-- Changes the state at once and gives a value. -/
def act (f : σ → α × σ) : Task σ α := fun _ s => ⟨(f s).2, .done (f s).1 0⟩

/-- Changes the state at once. -/
def modify (f : σ → σ) : Task σ Unit := act fun s => ((), f s)

/-- Runs a task under a deadline of its own and gives its value, or nothing at that deadline. A
budget that ends earlier drops the whole. -/
def within (limit : Nat) (t : Task σ α) : Task σ (Option α) := fun budget s =>
  if fits limit budget then
    match t (some limit) s with
    | ⟨s', .done a spent⟩ => ⟨s', .done (some a) spent⟩
    | ⟨s', .dropped⟩ => ⟨s', .done none limit⟩
  else
    match t budget s with
    | ⟨s', .done a spent⟩ => ⟨s', .done (some a) spent⟩
    | ⟨s', .dropped⟩ => ⟨s', .dropped⟩

/-- When both of two tasks have ended, started at one instant. -/
def join : Outcome Unit → Outcome Unit → Outcome Unit
  | .done _ a, .done _ b => .done () (max a b)
  | _, _ => .dropped

/-- Runs tasks side by side, all from the same instant, until the last has ended. The tasks must not
touch what another of them uses, so that it is all one in which order they take their turns. -/
def all : List (Task σ Unit) → Task σ Unit
  | [] => pure ()
  | t :: ts => fun budget s =>
    let first := t budget s
    let rest := all ts budget first.state
    ⟨rest.state, join first.outcome rest.outcome⟩

/-- Runs a task on a part of a larger state. -/
def focus (get : τ → σ) (set : τ → σ → τ) (t : Task σ α) : Task τ α := fun budget x =>
  let r := t budget (get x)
  ⟨set x r.state, r.outcome⟩

end Task

end ExpenseLedger
