import ExpenseLedger.Cache.Basic
import ExpenseLedger.Directory
import ExpenseLedger.Ledger
import ExpenseLedger.Task

/-!
# What the engine builds on

The engine sees a ledger, a cache and a directory of groups through their operations alone. A
`Backends σ` gives these operations as tasks on a state of its own choice.
-/

namespace ExpenseLedger

/-- The operations of a ledger, a cache and a directory, on one state. -/
structure Backends (σ : Type) where
  /-- Records a batch of loans as a whole or not at all. -/
  append : List Loan → Task σ (Except Error (List LoanRecord))
  /-- Computes a user's balance from all records. -/
  computeBalance : UserId → Task σ (Except Error Balance)
  /-- Whether a user has a cache entry. -/
  hasEntry : UserId → Task σ (Except Error Bool)
  /-- Reads a user's cache entry. -/
  lookup : UserId → Task σ (Except Error Cache.Lookup)
  /-- Replaces a user's cache entry. -/
  populate : UserId → Balance → Task σ (Except Error Unit)
  /-- Adds amounts to a user's cache entry, all of them or none. -/
  applyDeltas : UserId → List (UserId × Int) → Task σ (Except Error Cache.DeltaOutcome)
  /-- Drops a user's cache entry. -/
  clear : UserId → Task σ (Except Error Unit)
  /-- Creates a group with a name and an owner. -/
  createGroup : String → UserId → Task σ (Except Error Group)
  /-- The group with an identifier, if it exists. -/
  findGroup : GroupId → Task σ (Except Error (Option Group))
  /-- Deletes a group, and tells whether it existed. -/
  deleteGroup : GroupId → Task σ (Except Error Bool)
  /-- Adds members to a group. -/
  addMembers : GroupId → List UserId → Task σ (Except Error Unit)
  /-- Takes a member out of a group, and tells whether there was such a member. -/
  removeMember : GroupId → UserId → Task σ (Except Error Bool)
  /-- The members of a group in ascending order. -/
  members : GroupId → Task σ (Except Error (List UserId))
  /-- The groups that a user owns or belongs to, the earliest first. -/
  groupsOf : UserId → Task σ (Except Error (List Group))

end ExpenseLedger
