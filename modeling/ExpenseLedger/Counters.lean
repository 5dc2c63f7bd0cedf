/-!
# Counters of cache activity

Eight counters, one per kind of event, and the share of reads that the cache served.
-/

namespace ExpenseLedger

/-- The events that are counted. -/
inductive CacheEvent where
  /-- A read was served from the cache. -/
  | hit
  /-- A read had to go to the ledger. -/
  | miss
  /-- An entry was filled. -/
  | populate
  /-- Filling an entry failed or took too long. -/
  | populateFailure
  /-- An entry was brought up to date. -/
  | deltaUpdate
  /-- There was no entry to bring up to date. -/
  | skippedUpdate
  /-- An update failed or took too long. -/
  | updateFailure
  /-- A balance was computed from the ledger. -/
  | ledgerScan
deriving DecidableEq

/-- How often each event happened. -/
structure Counters where
  /-- Reads served from the cache. -/
  hits : Nat
  /-- Reads that went to the ledger. -/
  misses : Nat
  /-- Entries filled. -/
  populates : Nat
  /-- Entries that could not be filled. -/
  populateFailures : Nat
  /-- Entries brought up to date. -/
  deltaUpdates : Nat
  /-- Updates without an entry. -/
  skippedUpdates : Nat
  /-- Failed updates. -/
  updateFailures : Nat
  /-- Balances computed from the ledger. -/
  ledgerScans : Nat
deriving DecidableEq

namespace Counters

/-- Nothing has happened. -/
def zero : Counters := ⟨0, 0, 0, 0, 0, 0, 0, 0⟩

/-- Counts one event. -/
def record (c : Counters) : CacheEvent → Counters
  | .hit => { c with hits := c.hits + 1 }
  | .miss => { c with misses := c.misses + 1 }
  | .populate => { c with populates := c.populates + 1 }
  | .populateFailure => { c with populateFailures := c.populateFailures + 1 }
  | .deltaUpdate => { c with deltaUpdates := c.deltaUpdates + 1 }
  | .skippedUpdate => { c with skippedUpdates := c.skippedUpdates + 1 }
  | .updateFailure => { c with updateFailures := c.updateFailures + 1 }
  | .ledgerScan => { c with ledgerScans := c.ledgerScans + 1 }

/-- The binary64 number nearest to a count. Counts fit into 64 bits. -/
def toFloat (n : Nat) : Float := (UInt64.ofNat n).toFloat

/-- The percentage of reads that the cache served, in binary64 arithmetic; zero without reads. -/
def hitRate (c : Counters) : Float :=
  let total := c.hits + c.misses
  if total = 0 then 0.0 else toFloat c.hits / toFloat total * 100.0

end Counters

end ExpenseLedger
