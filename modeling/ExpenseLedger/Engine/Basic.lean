import ExpenseLedger.Backends
import ExpenseLedger.Counters
import ExpenseLedger.Settings

/-!
# The engine

The engine works on the state of its backends and counts what the cache does. Its operations are
tasks, so that every deadline can cut them short.
-/

namespace ExpenseLedger

/-- The state of the backends, and the counters. -/
structure Engine (σ : Type) where
  /-- The state of the backends. -/
  store : σ
  /-- The counters of cache activity. -/
  counters : Counters
deriving DecidableEq

namespace Engine

variable {σ α : Type}

/-- Runs a task of the backends. -/
def onStore (t : Task σ α) : Task (Engine σ) α :=
  Task.focus Engine.store (fun e s => { e with store := s }) t

/-- Counts an event. -/
def count (event : CacheEvent) : Task (Engine σ) Unit :=
  Task.modify fun e => { e with counters := e.counters.record event }

/-- Runs a task under a deadline. At the deadline it fails. -/
def withDeadline (limit : Nat) (t : Task σ (Except Error α)) :
    Task σ (Except Error α) := do
  match ← Task.within limit t with
  | some result => return result
  | none => return .error .deadlinePassed

end Engine

end ExpenseLedger
