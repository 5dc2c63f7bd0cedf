import ExpenseLedger.Proofs.Engine.Counting
import ExpenseLedger.Proofs.Run.Staleness
/-!
# The accounts of a run

Two books are kept of a run. One are the counters of cache activity, which the engine keeps on its
way, branch by branch. The other is an account of what the callers see: how many reads there were
and how many of them failed, how many parties the recorded batches had, and how many balances were
computed directly. The two always agree, whatever the cache holds and whatever goes wrong or takes
too long. Main statements:

* `Occasion.isBooked`: what one call counts is explained by what its caller sees;
* `Occasion.counters_balance`: the counters after a run.
-/

open ExpenseLedger.Task

namespace ExpenseLedger

variable {α : Type}

/-! ## Accounts -/

/-- What the callers of a run see. -/
structure Account where
  /-- The reads that gave a result. -/
  reads : Nat
  /-- Those that gave an error. -/
  failedReads : Nat
  /-- The parties of the batches that were recorded, batch by batch. -/
  parties : Nat
  /-- The balances that were computed directly. -/
  computed : Nat
  /-- The sums that left the storable range. -/
  overflows : Nat
deriving DecidableEq

namespace Account

/-- Nothing has happened. -/
def zero : Account := ⟨0, 0, 0, 0, 0⟩

/-- The account of two parts of a run. -/
def add (a b : Account) : Account :=
  ⟨a.reads + b.reads, a.failedReads + b.failedReads, a.parties + b.parties,
    a.computed + b.computed, a.overflows + b.overflows⟩

@[simp] theorem reads_add (a b : Account) : (a.add b).reads = a.reads + b.reads := rfl

@[simp] theorem failedReads_add (a b : Account) :
    (a.add b).failedReads = a.failedReads + b.failedReads := rfl

@[simp] theorem parties_add (a b : Account) : (a.add b).parties = a.parties + b.parties := rfl

@[simp] theorem computed_add (a b : Account) :
    (a.add b).computed = a.computed + b.computed := rfl

@[simp] theorem overflows_add (a b : Account) :
    (a.add b).overflows = a.overflows + b.overflows := rfl

/-- The account of a read, given what it gave. -/
def ofRead : Option (Except Error α) → Account
  | none => zero
  | some (.ok _) => { zero with reads := 1 }
  | some (.error e) =>
    { zero with
      reads := 1
      failedReads := 1
      overflows := overflowed (.error e : Except Error α) }

/-- The account of a write, given what it gave. -/
def ofWrite (parties : α → Nat) : Option (Except Error α) → Account
  | some (.ok a) => { zero with parties := parties a }
  | _ => zero

/-- A write is no read. -/
theorem reads_ofWrite (parties : α → Nat) (r : Option (Except Error α)) :
    (ofWrite parties r).reads = 0 := by
  rcases r with _ | (_ | _)
  · rfl
  · rfl
  · rfl

/-- A write adds up nothing. -/
theorem overflows_ofWrite (parties : α → Nat) (r : Option (Except Error α)) :
    (ofWrite parties r).overflows = 0 := by
  rcases r with _ | (_ | _)
  · rfl
  · rfl
  · rfl

/-- A read tells of an overflow by its result. -/
theorem overflows_ofRead (r : Except Error α) : (ofRead (some r)).overflows = overflowed r := by
  cases r with
  | ok a => rfl
  | error e => rfl

/-- The account of a balance that is computed directly. -/
def ofComputation (r : Except Error α) : Account :=
  { zero with
    computed := succeeded r
    overflows := overflowed r }

/-- The account tells how often the events of each kind have occurred. -/
structure Explains (a : Account) (events : List CacheEvent) : Prop where
  /-- Every read is a hit or a miss. -/
  reads : events.count .hit + events.count .miss = a.reads
  /-- After a miss the ledger is scanned, or the read fails. -/
  misses : events.count .miss = events.count .ledgerScan + a.failedReads
  /-- After a scan the entry is filled or not. -/
  fills : events.count .populate + events.count .populateFailure = events.count .ledgerScan
  /-- The entry of each party is brought up to date, or there is none, or it is dropped. -/
  updates : events.count .deltaUpdate + events.count .skippedUpdate +
    events.count .updateFailure = a.parties

/-- Where nothing is counted, there is nothing to explain. -/
theorem explains_nil {a : Account} (hreads : a.reads = 0) (hfailed : a.failedReads = 0)
    (hparties : a.parties = 0) : a.Explains [] := by
  constructor
  · exact hreads.symm
  · rw [hfailed]
    rfl
  · rfl
  · exact hparties.symm

/-- Two parts of a run are explained one by one. -/
theorem Explains.append {a b : Account} {events more : List CacheEvent} (h : a.Explains events)
    (h' : b.Explains more) : (a.add b).Explains (events ++ more) := by
  constructor
  · rw [List.count_append, List.count_append, reads_add, ← h.reads, ← h'.reads]
    omega
  · rw [List.count_append, List.count_append, failedReads_add, h.misses, h'.misses]
    omega
  · rw [List.count_append, List.count_append, List.count_append, ← h.fills, ← h'.fills]
    omega
  · rw [List.count_append, List.count_append, List.count_append, parties_add, ← h.updates,
      ← h'.updates]
    omega

end Account

/-- The account of a read explains what it counts. -/
theorem ReadEvents.explains {r : Except Error α} {events : List CacheEvent}
    (h : ReadEvents r events) : (Account.ofRead (some r)).Explains events := by
  cases h with
  | hit a => constructor <;> rfl
  | computed a fill hfill =>
    cases fill with
    | populate => constructor <;> rfl
    | populateFailure => constructor <;> rfl
    | _ => contradiction
  | failed e => constructor <;> rfl

/-- The account of a write explains what it counts. -/
theorem WriteEvents.explains {parties : α → Nat} {r : Except Error α} {events : List CacheEvent}
    (h : WriteEvents parties r events) : (Account.ofWrite parties (some r)).Explains events := by
  have hnone := h.count_eq_zero
  cases h with
  | refused e => exact Account.explains_nil rfl rfl rfl
  | recorded a _ hlength hkind =>
    constructor
    · rw [hnone .hit id, hnone .miss id]
      rfl
    · rw [hnone .miss id, hnone .ledgerScan id]
      rfl
    · rw [hnone .populate id, hnone .populateFailure id, hnone .ledgerScan id]
    · rw [CacheEvent.count_updates hkind, hlength]
      rfl

/-! ## Runs -/

/-- What can happen in a run. The calls of the service have no deadline. -/
inductive Occasion where
  /-- A balance is read. -/
  | balanceOf (c : Conditions) (user : UserId)
  /-- The lines of a balance are read. -/
  | balanceLinesOf (c : Conditions) (user : UserId)
  /-- Loans are recorded. -/
  | addLoans (c : Conditions) (lender : UserId) (amount : Int) (debtors : List UserId)
  /-- An expense is shared. -/
  | shareExpense (c : Conditions) (payer : UserId) (total : Int) (group : GroupId)
  /-- The ledger is asked for a balance directly. -/
  | computeBalance (user : UserId)
  /-- Whatever else happens to the ledger, the cache and the directory, in and out of service. Only
  the number of scans stays. -/
  | disturb (s : Store)

namespace Occasion

/-- A balance is read, or its lines. -/
def isRead : Occasion → Bool
  | balanceOf _ _ | balanceLinesOf _ _ => true
  | _ => false

/-- The engine afterwards. -/
def perform (e : Engine Store) : Occasion → Engine Store
  | balanceOf c user => (Engine.balanceOf (Store.backends c.waits) c.settings user none e).state
  | balanceLinesOf c user =>
    (Engine.balanceLinesOf (Store.backends c.waits) c.settings user none e).state
  | addLoans c lender amount debtors =>
    (Engine.addLoans (Store.backends c.waits) c.settings lender amount debtors none e).state
  | shareExpense c payer total group =>
    (Engine.shareExpense (Store.backends c.waits) c.settings payer total group none e).state
  | computeBalance user =>
    { e with store := (Store.onLedger (Ledger.computeBalance user) e.store).2 }
  | disturb s =>
    { e with store := { s with ledger := { s.ledger with scans := e.store.ledger.scans } } }

/-- What the caller sees. -/
def account (e : Engine Store) : Occasion → Account
  | balanceOf c user =>
    .ofRead (Engine.balanceOf (Store.backends c.waits) c.settings user none e).outcome.value?
  | balanceLinesOf c user =>
    .ofRead (Engine.balanceLinesOf (Store.backends c.waits) c.settings user none e).outcome.value?
  | addLoans c lender amount debtors =>
    .ofWrite (fun _ => debtors.length + 1)
      (Engine.addLoans (Store.backends c.waits) c.settings lender amount debtors
        none e).outcome.value?
  | shareExpense c payer total group =>
    .ofWrite (fun expense => expense.debtors.length + 1)
      (Engine.shareExpense (Store.backends c.waits) c.settings payer total group
        none e).outcome.value?
  | computeBalance user => .ofComputation (e.store.ledger.computeBalance user).1
  | disturb _ => .zero

/-- A write that gives an error. -/
def IsRefused (e : Engine Store) : Occasion → Prop
  | addLoans c lender amount debtors => ∃ error,
    (Engine.addLoans (Store.backends c.waits) c.settings lender amount debtors
      none e).outcome.value? = some (.error error)
  | shareExpense c payer total group => ∃ error,
    (Engine.shareExpense (Store.backends c.waits) c.settings payer total group
      none e).outcome.value? = some (.error error)
  | _ => False

/-- The engine after a run. -/
def performAll (e : Engine Store) : List Occasion → Engine Store
  | [] => e
  | o :: run => performAll (o.perform e) run

/-- What the callers of a run see. -/
def accounts (e : Engine Store) : List Occasion → Account
  | [] => .zero
  | o :: run => (o.account e).add (accounts (o.perform e) run)

/-! ## One call -/

/-- What is counted on the way from one engine to another is explained by an account, and so is how
often the ledger is scanned. -/
def Accounted (e e' : Engine Store) (a : Account) : Prop :=
  ∃ events : List CacheEvent, e'.counters = e.counters.recordAll events ∧ a.Explains events ∧
    e'.store.ledger.scans =
      e.store.ledger.scans + events.count .ledgerScan + a.computed + a.overflows

/-- A read. -/
theorem accounted_read {t : Task (Engine Store) (Except Error α)} {e : Engine Store}
    (ht : Triple (Engine.Counted (fun s => s.ledger.scans = e.store.ledger.scans) e.counters []) t
      (fun r e' => ∃ events, ReadEvents r events ∧
        Engine.Counted (fun s => s.ledger.scans =
          e.store.ledger.scans + events.count .ledgerScan + overflowed r) e.counters events e')
      fun _ => True) :
    (Account.ofRead (t none e).outcome.value?).reads = 1 ∧
      Accounted e (t none e).state (.ofRead (t none e).outcome.value?) := by
  obtain ⟨r, hvalue, events, hevents, hscans, hcounters⟩ := (ht none e ⟨rfl, rfl⟩).exists_value?
  rw [hvalue]
  cases r with
  | ok a => exact ⟨rfl, events, hcounters, hevents.explains, hscans⟩
  | error error => exact ⟨rfl, events, hcounters, hevents.explains, hscans⟩

/-- A write. -/
theorem accounted_write {t : Task (Engine Store) (Except Error α)} {e : Engine Store}
    {parties : α → Nat} {R : Engine Store → Prop}
    (ht : Triple (Engine.Counted (fun s => s.ledger.scans = e.store.ledger.scans) e.counters []) t
      (fun r e' => ∃ events, WriteEvents parties r events ∧
        Engine.Counted (fun s => s.ledger.scans = e.store.ledger.scans) e.counters events e') R) :
    Accounted e (t none e).state (.ofWrite parties (t none e).outcome.value?) ∧
      ∀ error, (t none e).outcome.value? = some (.error error) →
        (t none e).state.counters = e.counters := by
  obtain ⟨r, hvalue, events, hevents, hscans, hcounters⟩ := (ht none e ⟨rfl, rfl⟩).exists_value?
  rw [hvalue]
  refine ⟨⟨events, hcounters, hevents.explains, ?_⟩, fun error herror => ?_⟩
  · rw [hscans, hevents.count_eq_zero .ledgerScan id]
    cases r with
    | ok a => rfl
    | error error => rfl
  · cases herror
    cases hevents
    exact hcounters

/-- What a call counts, and what its caller sees. -/
structure IsBooked (e : Engine Store) (o : Occasion) : Prop where
  /-- What the caller sees explains what is counted. -/
  accounted : Accounted e (o.perform e) (o.account e)
  /-- A read gives a result. -/
  reads : (o.account e).reads = if o.isRead then 1 else 0
  /-- A write that gives an error counts nothing. -/
  refused : o.IsRefused e → (o.perform e).counters = e.counters

/-- **What a call counts is explained by what its caller sees.** -/
theorem isBooked (e : Engine Store) (o : Occasion) : o.IsBooked e := by
  have hb (c : Conditions) := Store.realizes_backends c.waits
  cases o with
  | balanceOf c user =>
    obtain ⟨hreads, haccounted⟩ := accounted_read (Engine.triple_balanceOf_counted e.counters
      (hb c) c.settings user e.store.ledger.scans)
    exact ⟨haccounted, hreads, False.elim⟩
  | balanceLinesOf c user =>
    obtain ⟨hreads, haccounted⟩ := accounted_read (Engine.triple_balanceLinesOf_counted e.counters
      (hb c) c.settings user e.store.ledger.scans)
    exact ⟨haccounted, hreads, False.elim⟩
  | addLoans c lender amount debtors =>
    obtain ⟨haccounted, hrefused⟩ := accounted_write (Engine.triple_addLoans_scans e.counters
      (hb c) c.settings e.store.ledger.scans lender amount debtors)
    exact ⟨haccounted, Account.reads_ofWrite _ _, fun ⟨error, h⟩ => hrefused error h⟩
  | shareExpense c payer total group =>
    obtain ⟨haccounted, hrefused⟩ := accounted_write (Engine.triple_shareExpense_scans e.counters
      (hb c) c.settings e.store.ledger.scans payer total group)
    exact ⟨haccounted, Account.reads_ofWrite _ _, fun ⟨error, h⟩ => hrefused error h⟩
  | computeBalance user =>
    have hscans := e.store.ledger.scans_computeBalance user
    exact ⟨⟨[], rfl, Account.explains_nil rfl rfl rfl, hscans⟩, rfl, False.elim⟩
  | disturb s => exact ⟨⟨[], rfl, Account.explains_nil rfl rfl rfl, rfl⟩, rfl, False.elim⟩

/-- A call tells of an overflow only where the sum of the loans of some user cannot be stored. -/
theorem overflows_account (e : Engine Store) (o : Occasion)
    (h : ∀ user, ∃ m, Ledger.aggregate user e.store.ledger.records = .ok m) :
    (o.account e).overflows = 0 := by
  have hb (c : Conditions) := Store.realizes_backends c.waits
  cases o with
  | balanceOf c user =>
    obtain ⟨r, hvalue, hr, -⟩ := (Engine.triple_balanceOf_served (hb c) c.settings user e.store
      none e rfl).exists_value?
    rw [account, hvalue, Account.overflows_ofRead, hr]
    exact e.store.overflowed_served user (h user)
  | balanceLinesOf c user =>
    obtain ⟨r, hvalue, hr, -⟩ := (Engine.triple_balanceLinesOf_served (hb c) c.settings user e.store
      none e rfl).exists_value?
    rw [account, hvalue, Account.overflows_ofRead, hr, overflowed_map]
    exact e.store.overflowed_served user (h user)
  | addLoans c lender amount debtors => exact Account.overflows_ofWrite _ _
  | shareExpense c payer total group => exact Account.overflows_ofWrite _ _
  | computeBalance user => exact e.store.ledger.overflowed_computeBalance user (h user)
  | disturb s => rfl

/-! ## All calls -/

/-- Accounts add up. -/
theorem Accounted.trans {e e' e'' : Engine Store} {a b : Account} (h : Accounted e e' a)
    (h' : Accounted e' e'' b) : Accounted e e'' (a.add b) := by
  obtain ⟨events, hcounters, hexplains, hscans⟩ := h
  obtain ⟨more, hcounters', hexplains', hscans'⟩ := h'
  refine ⟨events ++ more, ?_, hexplains.append hexplains', ?_⟩
  · rw [Counters.recordAll_append, ← hcounters, hcounters']
  · rw [hscans', hscans, List.count_append, Account.computed_add, Account.overflows_add]
    omega

/-- **What a run counts is explained by what its callers see.** -/
theorem accounted_performAll (e : Engine Store) (run : List Occasion) :
    Accounted e (performAll e run) (accounts e run) := by
  induction run generalizing e with
  | nil => exact ⟨[], rfl, Account.explains_nil rfl rfl rfl, rfl⟩
  | cons o run ih => exact (isBooked e o).accounted.trans (ih (o.perform e))

/-- All reads of a run give a result. -/
theorem reads_accounts (e : Engine Store) (run : List Occasion) :
    (accounts e run).reads = run.countP isRead := by
  induction run generalizing e with
  | nil => rfl
  | cons o run ih =>
    rw [accounts, Account.reads_add, (isBooked e o).reads, ih, List.countP_cons, Nat.add_comm]

/-- **The counters of cache activity agree with what the callers see.** Whatever the store holds at
the start, whatever happens to it between the calls, however long it waits and whichever deadlines
of cache work pass: the hits and misses are the reads, all of which give a result; each miss is a
scan that is counted or a read that fails; each such scan an entry that is filled or not; and each
party of a batch that is recorded an update that is applied, skipped or failed. The ledger has been
scanned once for each scan that is counted, for each balance that is computed directly and for each
sum that left the storable range, of which there is none where the loans of every user add up. A
write that gives an error counts nothing. -/
theorem counters_balance (s : Store) (run : List Occasion) :
    let e := performAll ⟨s, Counters.zero⟩ run
    let seen := accounts ⟨s, Counters.zero⟩ run
    e.counters.hits + e.counters.misses = seen.reads ∧
    seen.reads = run.countP isRead ∧
    e.counters.misses = e.counters.ledgerScans + seen.failedReads ∧
    e.counters.populates + e.counters.populateFailures = e.counters.ledgerScans ∧
    e.counters.deltaUpdates + e.counters.skippedUpdates + e.counters.updateFailures =
      seen.parties ∧
    e.store.ledger.scans =
      s.ledger.scans + e.counters.ledgerScans + seen.computed + seen.overflows ∧
    (∀ (before : Engine Store) (o : Occasion),
      (∀ user, ∃ m, Ledger.aggregate user before.store.ledger.records = .ok m) →
        (o.account before).overflows = 0) ∧
    ∀ (before : Engine Store) (o : Occasion), o.IsRefused before →
      (o.perform before).counters = before.counters := by
  intro e seen
  obtain ⟨events, hcounters, hexplains, hscans⟩ :=
    accounted_performAll ⟨s, Counters.zero⟩ run
  have hcount (event : CacheEvent) : e.counters.of event = events.count event := by
    show (performAll ⟨s, Counters.zero⟩ run).counters.of event = _
    rw [hcounters, Counters.of_recordAll_zero]
  refine ⟨?_, reads_accounts _ run, ?_, ?_, ?_, ?_, overflows_account,
    fun before o => (isBooked before o).refused⟩
  · show e.counters.of .hit + e.counters.of .miss = _
    rw [hcount, hcount]
    exact hexplains.reads
  · show e.counters.of .miss = e.counters.of .ledgerScan + _
    rw [hcount, hcount]
    exact hexplains.misses
  · show e.counters.of .populate + e.counters.of .populateFailure = e.counters.of .ledgerScan
    rw [hcount, hcount, hcount]
    exact hexplains.fills
  · show e.counters.of .deltaUpdate + e.counters.of .skippedUpdate +
      e.counters.of .updateFailure = _
    rw [hcount, hcount, hcount]
    exact hexplains.updates
  · show _ = s.ledger.scans + e.counters.of .ledgerScan + _ + _
    rw [hcount]
    exact hscans

end Occasion

/-! ## A run with an outage -/

namespace Sample

/-- The cache is out of service. -/
def blackout : Store :=
  { Store.empty supply with cache := { Cache.empty with failing := true } }

/-- Alice's entry is filled, read and brought up to date. Then the cache fails, more loans are
recorded, a loan of nothing is refused, and Bob's balance is read and computed. -/
def outageRun : List Occasion :=
  [.balanceOf calm alice, .balanceLinesOf calm alice, .addLoans calm alice 100 [bob],
    .disturb blackout, .addLoans calm alice 100 [bob], .addLoans calm alice 0 [bob],
    .balanceOf calm bob, .computeBalance bob]

end Sample

open Sample

/-- The general statement about the run with the outage. -/
theorem counters_balance_outage :
    (Occasion.performAll ⟨Store.empty supply, Counters.zero⟩ outageRun).counters =
      ⟨1, 2, 1, 1, 1, 1, 2, 2⟩ ∧
    Occasion.accounts ⟨Store.empty supply, Counters.zero⟩ outageRun = ⟨3, 0, 4, 1, 0⟩ ∧
    (Occasion.performAll ⟨Store.empty supply, Counters.zero⟩ outageRun).store.ledger.scans =
      0 + 2 + 1 + 0 := by
  have hcounters : (Occasion.performAll ⟨Store.empty supply, Counters.zero⟩ outageRun).counters =
      ⟨1, 2, 1, 1, 1, 1, 2, 2⟩ := by decide +kernel
  have hseen : Occasion.accounts ⟨Store.empty supply, Counters.zero⟩ outageRun =
      ⟨3, 0, 4, 1, 0⟩ := by decide +kernel
  obtain ⟨-, -, -, -, -, hscans, -, -⟩ :=
    Occasion.counters_balance (Store.empty supply) outageRun
  rw [hcounters, hseen] at hscans
  exact ⟨hcounters, hseen, hscans⟩

end ExpenseLedger
