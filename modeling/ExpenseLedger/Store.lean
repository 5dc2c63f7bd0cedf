import ExpenseLedger.Backends

/-!
# Backends in memory

One state holds a ledger, a cache and a directory, together with a supply of fresh identifiers and
of creation times. Each operation can be given a wait that comes before it does anything.
-/

namespace ExpenseLedger

/-- Where fresh identifiers and times come from. -/
structure Supply where
  /-- The number of the next identifier. -/
  next : Nat
  /-- The present instant, which moves on whenever it is read. -/
  now : Timestamp
deriving DecidableEq

/-- A ledger, a cache and a directory of groups. -/
structure Store where
  /-- The ledger. -/
  ledger : Ledger
  /-- The cache. -/
  cache : Cache
  /-- The directory of groups. -/
  directory : Directory
  /-- The supply of identifiers and times. -/
  supply : Supply
deriving DecidableEq

namespace Store

/-- The store without content. -/
def empty (supply : Supply) : Store := ⟨Ledger.empty, Cache.empty, Directory.empty, supply⟩

/-! ## Operations -/

/-- Records a batch of loans under fresh identifiers, at the present instant. -/
def append (loans : List Loan) (s : Store) : Except Error (List LoanRecord) × Store :=
  let r := s.ledger.append loans s.supply.next s.supply.now
  (r.1, { s with
    ledger := r.2
    supply := ⟨s.supply.next + loans.length, s.supply.now.tick⟩ })

/-- Creates a group under a fresh identifier, at the present instant. -/
def createGroup (name : String) (owner : UserId) (s : Store) : Except Error Group × Store :=
  let group : Group := ⟨⟨Id.ofNat s.supply.next⟩, name, owner, s.supply.now⟩
  let r := s.directory.create group
  (r.1, { s with directory := r.2, supply := ⟨s.supply.next + 1, s.supply.now.tick⟩ })

/-- An operation of the ledger. -/
def onLedger {α : Type} (f : Ledger → α × Ledger) (s : Store) : α × Store :=
  let r := f s.ledger
  (r.1, { s with ledger := r.2 })

/-- An operation of the cache. -/
def onCache {α : Type} (f : Cache → α × Cache) (s : Store) : α × Store :=
  let r := f s.cache
  (r.1, { s with cache := r.2 })

/-- An operation of the directory. -/
def onDirectory {α : Type} (f : Directory → α × Directory) (s : Store) : α × Store :=
  let r := f s.directory
  (r.1, { s with directory := r.2 })

/-- A question to the directory. -/
def ask {α : Type} (f : Directory → α) (s : Store) : α × Store := (f s.directory, s)

/-! ## Waits -/

/-- How long each operation waits before it does anything, in milliseconds. -/
structure Waits where
  /-- Before recording loans. -/
  append : Nat
  /-- Before computing a balance. -/
  computeBalance : Nat
  /-- Before asking for an entry. -/
  hasEntry : Nat
  /-- Before reading an entry. -/
  lookup : Nat
  /-- Before filling an entry. -/
  populate : Nat
  /-- Before updating an entry. -/
  applyDeltas : Nat
  /-- Before dropping an entry. -/
  clear : Nat
  /-- Before finding a group. -/
  findGroup : Nat
deriving DecidableEq

/-- Nothing waits. -/
def Waits.none : Waits := ⟨0, 0, 0, 0, 0, 0, 0, 0⟩

/-- Waits, then acts. -/
def after {α : Type} (duration : Nat) (f : Store → α × Store) : Task Store α := do
  Task.wait duration
  Task.act f

/-- The operations of the store, with waits. -/
def backends (w : Waits) : Backends Store where
  append loans := after w.append (append loans)
  computeBalance user := after w.computeBalance (onLedger (Ledger.computeBalance user))
  hasEntry user := after w.hasEntry (onCache (Cache.hasEntry user))
  lookup user := after w.lookup (onCache (Cache.lookup user))
  populate user balance := after w.populate (onCache (Cache.populate user balance))
  applyDeltas user deltas := after w.applyDeltas (onCache (Cache.applyDeltas user deltas))
  clear user := after w.clear (onCache (Cache.clear user))
  createGroup name owner := Task.act (createGroup name owner)
  findGroup id := after w.findGroup (ask (Directory.find id))
  deleteGroup id := Task.act (onDirectory (Directory.delete id))
  addMembers id users := Task.act (onDirectory (Directory.addMembers id users))
  removeMember id user := Task.act (onDirectory (Directory.removeMember id user))
  members id := Task.act (ask (Directory.members id))
  groupsOf user := Task.act (ask (Directory.groupsOf user))

end Store

/-- The backends when somebody else is always the first to delete a group: a deletion finds nothing
to delete. -/
def Backends.outrun {σ : Type} (b : Backends σ) : Backends σ :=
  { b with deleteGroup := fun _ => pure (.ok false) }

end ExpenseLedger
