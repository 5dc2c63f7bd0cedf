import ExpenseLedger.Proofs.Cache.Bounds
import ExpenseLedger.Proofs.Engine.Confined
/-!
# What the engine counts

Every operation of the engine that ends has counted events of its own, which are told by its result:
a read one hit, or one miss and, if it succeeds, one scan of the ledger and what became of the
entry; a batch that is recorded one event for each party, and a refused one nothing. This holds
whatever the cache does, and whichever deadlines pass. Main statements:

* `Engine.triple_balanceOf_counted`: the events of a read, and the scans of the ledger;
* `Engine.triple_addLoans_counted`, `Engine.triple_shareExpense_counted`: the events of a write.
-/

open ExpenseLedger.Task

namespace ExpenseLedger

variable {α β σ : Type}

/-! ## Events -/

namespace CacheEvent

/-- The event tells what became of an entry that was to be filled. -/
def IsFill : CacheEvent → Prop
  | populate | populateFailure => True
  | _ => False

/-- One scan is counted for a balance that is computed. -/
theorem count_ledgerScan_of_isFill {fill : CacheEvent} (h : fill.IsFill) :
    [miss, ledgerScan, fill].count ledgerScan = 1 := by
  cases fill with
  | populate => rfl
  | populateFailure => rfl
  | _ => contradiction

/-- The event tells what became of an entry that was to be brought up to date. -/
def IsUpdate : CacheEvent → Prop
  | deltaUpdate | skippedUpdate | updateFailure => True
  | _ => False

/-- Updates are all that is counted when entries are brought up to date. -/
theorem count_updates {updates : List CacheEvent} (h : ∀ u ∈ updates, u.IsUpdate) :
    updates.count .deltaUpdate + updates.count .skippedUpdate + updates.count .updateFailure =
      updates.length := by
  induction updates with
  | nil => rfl
  | cons u updates ih =>
    have hrest := ih fun v hv => h v (List.mem_cons_of_mem u hv)
    have hu := h u List.mem_cons_self
    rw [List.length_cons, ← hrest]
    cases u with
    | deltaUpdate => grind
    | skippedUpdate => grind
    | updateFailure => grind
    | _ => contradiction

end CacheEvent

namespace Counters

/-- How often an event has been counted. -/
def of (c : Counters) : CacheEvent → Nat
  | .hit => c.hits
  | .miss => c.misses
  | .populate => c.populates
  | .populateFailure => c.populateFailures
  | .deltaUpdate => c.deltaUpdates
  | .skippedUpdate => c.skippedUpdates
  | .updateFailure => c.updateFailures
  | .ledgerScan => c.ledgerScans

/-- An event is counted once, and no other event with it. -/
theorem of_record (c : Counters) (event other : CacheEvent) :
    (c.record event).of other = c.of other + if event = other then 1 else 0 := by
  cases event <;> cases other <;> rfl

/-- Every event is counted as often as it occurs. -/
theorem of_recordAll (c : Counters) (events : List CacheEvent) (event : CacheEvent) :
    (c.recordAll events).of event = c.of event + events.count event := by
  induction events generalizing c with
  | nil => rfl
  | cons first events ih =>
    change ((c.record first).recordAll events).of event = _
    rw [ih, of_record, List.count_cons]
    simp only [beq_iff_eq]
    omega

/-- From nothing, an event is counted as often as it occurs. -/
theorem of_recordAll_zero (events : List CacheEvent) (event : CacheEvent) :
    (zero.recordAll events).of event = events.count event := by
  have hzero : zero.of event = 0 := by cases event <;> rfl
  rw [of_recordAll, hzero, Nat.zero_add]

end Counters

/-- What a read counts, given its result. -/
inductive ReadEvents : Except Error α → List CacheEvent → Prop where
  /-- It was served from the cache. -/
  | hit (a : α) : ReadEvents (.ok a) [.hit]
  /-- It was served from the ledger, and the entry filled or not. -/
  | computed (a : α) (fill : CacheEvent) (h : fill.IsFill) :
    ReadEvents (.ok a) [.miss, .ledgerScan, fill]
  /-- The ledger did not serve it either. -/
  | failed (e : Error) : ReadEvents (.error e) [.miss]

/-- What a write counts, given its result and how many parties a success concerns. -/
inductive WriteEvents (parties : α → Nat) : Except Error α → List CacheEvent → Prop where
  /-- Nothing was recorded. -/
  | refused (e : Error) : WriteEvents parties (.error e) []
  /-- A batch was recorded, and the entry of each party worked on. -/
  | recorded (a : α) (updates : List CacheEvent) (hlength : updates.length = parties a)
    (h : ∀ u ∈ updates, u.IsUpdate) : WriteEvents parties (.ok a) updates

/-- What is made of the result of a read counts nothing more. -/
theorem ReadEvents.map {r : Except Error α} {events : List CacheEvent} (h : ReadEvents r events)
    (f : α → β) : ReadEvents (r.map f) events := by
  cases h with
  | hit a => exact .hit (f a)
  | computed a fill h => exact .computed (f a) fill h
  | failed e => exact .failed e

/-- A write counts nothing but updates. -/
theorem WriteEvents.count_eq_zero {parties : α → Nat} {r : Except Error α}
    {events : List CacheEvent} (h : WriteEvents parties r events) (event : CacheEvent)
    (hevent : ¬ event.IsUpdate) : events.count event = 0 := by
  cases h with
  | refused e => rfl
  | recorded a _ _ hkind => exact List.count_eq_zero.2 fun hmem => hevent (hkind event hmem)

/-! ## Scans -/

/-- One for a success. -/
def succeeded : Except Error α → Nat
  | .ok _ => 1
  | .error _ => 0

/-- One for a sum that leaves the storable range. -/
def overflowed : Except Error α → Nat
  | .ok _ => 0
  | .error e => if e.isOverflow then 1 else 0

/-- The ledger is scanned for a balance that is given, and for one whose sum leaves the storable
range. -/
theorem Ledger.scans_computeBalance (user : UserId) (l : Ledger) :
    (l.computeBalance user).2.scans =
      l.scans + succeeded (l.computeBalance user).1 + overflowed (l.computeBalance user).1 := by
  unfold computeBalance
  split
  · rfl
  · dsimp only
    cases hr : aggregate user l.records with
    | ok m => rfl
    | error e =>
      obtain ⟨other, rfl⟩ := exists_overflow_of_addRecords user Table.empty l.records e hr
      rfl

/-- What is made of a result does not make it overflow. -/
theorem overflowed_map (r : Except Error α) (f : α → β) : overflowed (r.map f) = overflowed r := by
  cases r with
  | ok a => rfl
  | error e => rfl

/-- Where the loans of a user add up, computing the balance does not overflow. -/
theorem Ledger.overflowed_computeBalance (user : UserId) (l : Ledger)
    (h : ∃ m, aggregate user l.records = .ok m) : overflowed (l.computeBalance user).1 = 0 := by
  obtain ⟨m, hm⟩ := h
  unfold computeBalance
  split
  · rfl
  · rw [hm]
    rfl

/-- Nor does reading it. -/
theorem Store.overflowed_served (user : UserId) (s : Store)
    (h : ∃ m, Ledger.aggregate user s.ledger.records = .ok m) : overflowed (s.served user) = 0 := by
  unfold served
  split
  · rfl
  · exact s.ledger.overflowed_computeBalance user h

/-- Recording loans scans nothing. -/
theorem Store.scans_append (loans : List Loan) (s : Store) :
    (s.append loans).2.ledger.scans = s.ledger.scans := by
  change (s.ledger.append loans s.supply.next s.supply.now).2.scans = s.ledger.scans
  unfold Ledger.append
  split
  · rfl
  · split
    · rfl
    · rfl

namespace Engine

/-! ## Building blocks -/

/-- The store has a property, and some events have been counted. -/
def Counted (P : σ → Prop) (c : Counters) (events : List CacheEvent) (e : Engine σ) : Prop :=
  P e.store ∧ e.counters = c.recordAll events

/-- The entries of all parties have been worked on but for those still to come, and each of them has
been counted once. -/
def CountedBut (P : σ → Prop) (c : Counters) (parties waiting : Nat) (e : Engine σ) : Prop :=
  ∃ updates : List CacheEvent, updates.length + waiting = parties ∧
    (∀ u ∈ updates, u.IsUpdate) ∧ Counted P c updates e

variable (c : Counters) (events : List CacheEvent)

/-- Tasks of the backends count nothing. -/
theorem triple_onStore_counted {P R : σ → Prop} {t : Task σ α} {Q : α → σ → Prop}
    (h : Triple P t Q R) :
    Triple (Counted P c events) (onStore t) (fun a => Counted (Q a) c events)
      (Counted R c events) := by
  intro budget e he
  have hleaves := h budget e.store he.1
  refine ⟨fun a spent hr => ⟨hleaves.done a spent hr, he.2⟩, fun hr => ?_⟩
  obtain ⟨hb, hstate⟩ := hleaves.dropped hr
  exact ⟨hb, hstate, he.2⟩

/-- An event is counted. -/
theorem triple_count_counted {P : σ → Prop} {R : Engine σ → Prop} (event : CacheEvent) :
    Triple (Counted P c events) (count event) (fun _ => Counted P c (events ++ [event])) R := by
  refine .act fun e he => ⟨he.1, ?_⟩
  change e.counters.record event = c.recordAll (events ++ [event])
  rw [he.2, Counters.recordAll_append]
  rfl

section CacheWork

variable {b : Backends σ} {P : σ → Prop} (h : b.CacheKeeps P) (settings : EngineSettings)
include h

/-- Trying to drop an entry counts nothing. -/
theorem triple_dropEntry_counted (user : UserId) :
    Triple (Counted P c events) (dropEntry b settings user) (fun _ => Counted P c events)
      (Counted P c events) := by
  have hwithin := triple_withDeadline_keeps settings.cacheUpdateTimeout
    (triple_onStore_counted c events (h.clear user))
  exact hwithin.bind fun _ => .pure fun _ he => he

/-- Filling an entry counts what became of it. -/
theorem triple_fillEntry_counted (user : UserId) (balance : Balance) :
    Triple (Counted P c events) (fillEntry b settings user balance)
      (fun _ e => ∃ fill : CacheEvent, fill.IsFill ∧ Counted P c (events ++ [fill]) e)
      fun e => P e.store := by
  have hfill := triple_withDeadline_keeps settings.populateTimeout
    (triple_onStore_counted c events (h.populate user balance))
  refine (hfill.mono_dropped fun _ he => he.1).bind_except ?_ ?_
  · intro _
    have hdrop := triple_dropEntry_counted c (events ++ [.populateFailure]) h settings user
    refine (triple_count_counted c events .populateFailure).bind fun _ => ?_
    exact hdrop.conseq (fun _ he => he) (fun _ _ he => ⟨.populateFailure, trivial, he⟩)
      fun _ he => he.1
  · intro _
    exact (triple_count_counted c events .populate).conseq (fun _ he => he)
      (fun _ _ he => ⟨.populate, trivial, he⟩) fun _ he => he

/-- Bringing an entry up to date counts what became of it. -/
theorem triple_updateEntry_counted (user : UserId) (deltas : List (UserId × Int)) :
    Triple (Counted P c events) (updateEntry b settings user deltas)
      (fun _ e => ∃ update : CacheEvent, update.IsUpdate ∧ Counted P c (events ++ [update]) e)
      fun e => P e.store := by
  have htry := triple_tryUpdate_of_applyDeltas (h.hasEntry user) (h.applyDeltas user deltas)
  have hupdate := triple_withDeadline_keeps settings.cacheUpdateTimeout
    (triple_onStore_counted c events htry)
  have hcount (update : CacheEvent) (hkind : update.IsUpdate) :
      Triple (Counted P c events) (count update)
        (fun _ e => ∃ u : CacheEvent, u.IsUpdate ∧ Counted P c (events ++ [u]) e)
        fun e => P e.store :=
    (triple_count_counted c events update).conseq (fun _ he => he)
      (fun _ _ he => ⟨update, hkind, he⟩) fun _ he => he
  refine (hupdate.mono_dropped fun _ he => he.1).bind_except ?_ ?_
  · intro _
    have hdrop := triple_dropEntry_counted c (events ++ [.updateFailure]) h settings user
    refine (triple_count_counted c events .updateFailure).bind fun _ => ?_
    exact hdrop.conseq (fun _ he => he) (fun _ _ he => ⟨.updateFailure, trivial, he⟩)
      fun _ he => he.1
  · rintro (_ | _)
    · exact hcount .deltaUpdate trivial
    · exact hcount .skippedUpdate trivial

omit h in
/-- One more event of a party. -/
theorem CountedBut.succ {parties waiting : Nat} {updates : List CacheEvent} {update : CacheEvent}
    {e : Engine σ} (hlength : updates.length + (waiting + 1) = parties)
    (hkind : ∀ u ∈ updates, u.IsUpdate) (hupdate : update.IsUpdate)
    (he : Counted P c (updates ++ [update]) e) : CountedBut P c parties waiting e := by
  refine ⟨updates ++ [update], ?_, ?_, he⟩
  · rw [List.length_append, List.length_singleton]
    omega
  · intro u hu
    rcases List.mem_append.1 hu with hu | hu
    · exact hkind u hu
    · rw [List.mem_singleton.1 hu]
      exact hupdate

/-- Bringing the entries of all parties up to date counts one event for each of them. -/
theorem triple_updateEntries_counted (lender : UserId) (amount : Int) (debtors : List UserId) :
    Triple (Counted P c []) (updateEntries b settings lender amount debtors)
      (fun _ => CountedBut P c (debtors.length + 1) 0) fun e => P e.store := by
  have hone (party : UserId × List (UserId × Int)) (waiting : List (UserId × List (UserId × Int))) :
      Triple (CountedBut P c (debtors.length + 1) (party :: waiting).length)
        (updateEntry b settings party.1 party.2)
        (fun _ => CountedBut P c (debtors.length + 1) waiting.length) fun e => P e.store := by
    refine Triple.of_forall fun e he => ?_
    obtain ⟨updates, hlength, hkind, hcounted⟩ := he
    have hupdate := triple_updateEntry_counted c updates h settings party.1 party.2
    refine hupdate.conseq ?_ ?_ fun _ he => he
    · rintro e' rfl
      exact hcounted
    · rintro _ e' ⟨update, hu, he'⟩
      exact CountedBut.succ c hlength hkind hu he'
  have hall := Triple.all
    (A := fun waiting => CountedBut P c (debtors.length + 1) waiting.length)
    (B := fun _ e => P e.store) hone
    (fun party _ => triple_updateEntry_keeps h party.1 party.2) (changes lender amount debtors)
  refine hall.conseq (fun e he => ?_) (fun _ e he => he) fun _ he => he
  refine ⟨[], ?_, fun u hu => by contradiction, he⟩
  simp [changes]

end CacheWork

/-! ## Writing -/

section Writing

variable {b : Backends σ} {P : σ → Prop} (h : b.CacheKeeps P) (settings : EngineSettings)
  (happend : ∀ loans, Triple P (b.append loans) (fun _ => P) P)
include h happend

/-- **Recording loans counts one event for each party, and nothing if they are refused.** -/
theorem triple_addLoans_counted (lender : UserId) (amount : Int) (debtors : List UserId) :
    Triple (Counted P c []) (addLoans b settings lender amount debtors)
      (fun r e => ∃ events, WriteEvents (fun _ => debtors.length + 1) r events ∧
        Counted P c events e)
      fun e => P e.store := by
  unfold addLoans
  cases checkBatch lender amount debtors with
  | error e => exact .pure fun _ he => ⟨[], .refused e, he⟩
  | ok _ =>
    have hrecord := triple_onStore_counted c [] (happend (loansTo lender amount debtors))
    refine (hrecord.mono_dropped fun _ he => he.1).bind_except
      (fun e => .pure fun _ he => ⟨[], .refused e, he⟩) fun records => ?_
    refine (triple_updateEntries_counted c h settings lender amount debtors).bind fun _ => ?_
    refine .pure fun e ⟨updates, hlength, hkind, he⟩ => ?_
    exact ⟨updates, .recorded records updates hlength hkind, he⟩

/-- **Sharing an expense counts one event for each party, and nothing if it is refused.** -/
theorem triple_shareExpense_counted (payer : UserId) (total : Int) (group : GroupId)
    (hresolve : Triple P (resolveMembers b group) (fun _ => P) P) :
    Triple (Counted P c []) (shareExpense b settings payer total group)
      (fun r e => ∃ events, WriteEvents (fun x : Expense => x.debtors.length + 1) r events ∧
        Counted P c events e)
      fun e => P e.store := by
  unfold shareExpense
  cases checkExpense total with
  | error e => exact .pure fun _ he => ⟨[], .refused e, he⟩
  | ok _ =>
    have hmembers := triple_onStore_counted c [] hresolve
    refine (hmembers.mono_dropped fun _ he => he.1).bind_except
      (fun e => .pure fun _ he => ⟨[], .refused e, he⟩) fun members => ?_
    dsimp only
    cases split payer total members with
    | error e => exact .pure fun _ he => ⟨[], .refused e, he⟩
    | ok parts =>
      refine (triple_addLoans_counted c h settings happend payer parts.2 parts.1).bind_except ?_ ?_
      · intro e
        refine .pure fun e' ⟨events, hevents, he⟩ => ?_
        cases hevents
        exact ⟨[], .refused e, he⟩
      · intro loans
        refine .pure fun e' ⟨events, hevents, he⟩ => ?_
        cases hevents with
        | recorded _ _ hlength hkind => exact ⟨events, .recorded _ events hlength hkind, he⟩

end Writing

section Scans

variable {b : Backends Store} (hb : b.Realizes) (settings : EngineSettings) (n : Nat)
include hb

/-- Recording loans, with the scans of the ledger. -/
theorem triple_addLoans_scans (lender : UserId) (amount : Int) (debtors : List UserId) :
    Triple (Counted (fun s => s.ledger.scans = n) c []) (addLoans b settings lender amount debtors)
      (fun r e => ∃ events, WriteEvents (fun _ => debtors.length + 1) r events ∧
        Counted (fun s => s.ledger.scans = n) c events e)
      fun e => e.store.ledger.scans = n := by
  apply triple_addLoans_counted
  · exact hb.cacheKeeps fun _ _ hs => hs
  · exact fun loans => (hb.append loans).keeps fun s hs => (s.scans_append loans).trans hs

/-- Sharing an expense, with the scans of the ledger. -/
theorem triple_shareExpense_scans (payer : UserId) (total : Int) (group : GroupId) :
    Triple (Counted (fun s => s.ledger.scans = n) c []) (shareExpense b settings payer total group)
      (fun r e => ∃ events, WriteEvents (fun x : Expense => x.debtors.length + 1) r events ∧
        Counted (fun s => s.ledger.scans = n) c events e)
      fun e => e.store.ledger.scans = n := by
  apply triple_shareExpense_counted
  · exact hb.cacheKeeps fun _ _ hs => hs
  · exact fun loans => (hb.append loans).keeps fun s hs => (s.scans_append loans).trans hs
  · exact (atomic_resolveMembers hb group).keeps fun _ hs => hs

end Scans

/-! ## Reading -/

section Reading

variable {b : Backends Store} (hb : b.Realizes) (settings : EngineSettings)
include hb

/-- Reading a balance after a miss. -/
theorem triple_balanceFromLedger_counted (user : UserId) (n : Nat) :
    Triple (Counted (fun s => s.ledger.scans = n) c []) (balanceFromLedger b settings user)
      (fun r e => ∃ events, ReadEvents r events ∧
        Counted (fun s => s.ledger.scans = n + events.count .ledgerScan + overflowed r) c events e)
      fun _ => True := by
  have hcompute : Triple (fun s => s.ledger.scans = n) (b.computeBalance user)
      (fun r s => s.ledger.scans = n + succeeded r + overflowed r) fun _ => True := by
    refine Triple.of_forall fun s hs => (hb.computeBalance user s).conseq (fun _ hs' => hs') ?_
      fun _ _ => trivial
    intro r s' hs'
    cases hs'
    change (s.ledger.computeBalance user).2.scans = _
    rw [s.ledger.scans_computeBalance user, hs]
  refine (triple_count_counted c [] .miss).bind fun _ => ?_
  have hasked := triple_onStore_counted c [.miss] hcompute
  refine (hasked.mono_dropped fun _ _ => trivial).bind_except ?_ ?_
  · intro e
    exact .pure fun _ he => ⟨[.miss], .failed e, he⟩
  · intro m
    refine (triple_count_counted c [.miss] .ledgerScan).bind fun _ => ?_
    have hkeeps : b.CacheKeeps fun s => s.ledger.scans = n + 1 := hb.cacheKeeps fun _ _ hs => hs
    have hfill := triple_fillEntry_counted c [.miss, .ledgerScan] hkeeps settings user m
    refine (hfill.mono_dropped fun _ _ => trivial).bind fun _ => ?_
    refine .pure fun e ⟨fill, hfill, hscans, hcounters⟩ => ?_
    refine ⟨[.miss, .ledgerScan, fill], .computed m fill hfill, ?_, hcounters⟩
    rw [CacheEvent.count_ledgerScan_of_isFill hfill]
    exact hscans

/-- **Reading a balance counts a hit, or a miss and with it a scan of the ledger and what became of
the entry, if the balance could be computed.** The ledger has been scanned once for each scan that
is counted, and once for a sum that left the storable range. -/
theorem triple_balanceOf_counted (user : UserId) (n : Nat) :
    Triple (Counted (fun s => s.ledger.scans = n) c []) (balanceOf b settings user)
      (fun r e => ∃ events, ReadEvents r events ∧
        Counted (fun s => s.ledger.scans = n + events.count .ledgerScan + overflowed r) c events e)
      fun _ => True := by
  have hlookup : Triple (fun s => s.ledger.scans = n) (b.lookup user)
      (fun _ s => s.ledger.scans = n) fun s => s.ledger.scans = n :=
    (hb.lookup user).keeps fun _ hs => hs
  have hmiss := triple_balanceFromLedger_counted c hb settings user n
  have hfound := triple_onStore_counted c [] hlookup
  refine (hfound.mono_dropped fun _ _ => trivial).bind_except (fun _ => hmiss) ?_
  rintro (m | _)
  · refine (triple_count_counted c [] .hit).bind fun _ => ?_
    exact .pure fun e he => ⟨[.hit], .hit m, he⟩
  · exact hmiss

/-- **So does reading its lines.** -/
theorem triple_balanceLinesOf_counted (user : UserId) (n : Nat) :
    Triple (Counted (fun s => s.ledger.scans = n) c []) (balanceLinesOf b settings user)
      (fun r e => ∃ events, ReadEvents r events ∧
        Counted (fun s => s.ledger.scans = n + events.count .ledgerScan + overflowed r) c events e)
      fun _ => True := by
  refine (triple_balanceOf_counted c hb settings user n).bind_except ?_ ?_
  · intro e
    refine .pure fun e' ⟨events, hevents, he⟩ => ?_
    exact ⟨events, hevents.map Balance.lines, he⟩
  · intro m
    refine .pure fun e' ⟨events, hevents, he⟩ => ?_
    exact ⟨events, hevents.map Balance.lines, he⟩

end Reading

end Engine

end ExpenseLedger
