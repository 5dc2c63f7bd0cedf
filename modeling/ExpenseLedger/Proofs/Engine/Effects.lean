import ExpenseLedger.Proofs.Engine.Upkeep
/-!
# What the engine does to a store

From any store, sound or not: recording loans and sharing an expense come down to one operation of
the store (`Store.lend`, `Store.share`), and reading a balance leaves records and groups as they
are. The cache is changed on the way, but has no say in any of this. Main statements:

* `Engine.triple_addLoans_lend`, `Engine.triple_shareExpense_share`: what writing does;
* `Engine.triple_balanceOf_served`: what reading gives and leaves.
-/

open ExpenseLedger.Task

namespace ExpenseLedger

variable {α β σ : Type}

/-! ## Values of tasks -/

/-- The value of a task that has ended. -/
def Outcome.value? : Outcome α → Option α
  | .done a _ => some a
  | .dropped => none

/-- A task has ended with a value at some time. -/
theorem Outcome.value?_eq_some_iff (o : Outcome α) (a : α) :
    o.value? = some a ↔ ∃ spent, o = .done a spent := by
  cases o with
  | done b spent =>
    constructor
    · intro h
      cases h
      exact ⟨spent, rfl⟩
    · rintro ⟨spent', h⟩
      cases h
      rfl
  | dropped =>
    constructor
    · intro h
      contradiction
    · rintro ⟨spent, h⟩
      contradiction

/-- What a triple says of the value. -/
theorem Task.Leaves.of_value? {budget : Option Nat} {Q : α → σ → Prop} {R : σ → Prop}
    {r : Ran σ α} (h : Leaves budget Q R r) (a : α) (ha : r.outcome.value? = some a) :
    Q a r.state := by
  obtain ⟨spent, hdone⟩ := (Outcome.value?_eq_some_iff r.outcome a).1 ha
  exact h.done a spent hdone

/-- Without a deadline a task gives a value. -/
theorem Task.Leaves.exists_value? {Q : α → σ → Prop} {R : σ → Prop} {r : Ran σ α}
    (h : Leaves none Q R r) : ∃ a, r.outcome.value? = some a ∧ Q a r.state := by
  obtain ⟨a, spent, hdone, hQ⟩ := h.exists_done
  exact ⟨a, (Outcome.value?_eq_some_iff r.outcome a).2 ⟨spent, hdone⟩, hQ⟩

/-! ## How stores differ -/

namespace Store

/-- The stores differ in their caches at most. -/
structure SameButCache (s s' : Store) : Prop where
  /-- The ledgers are the same. -/
  ledger : s'.ledger = s.ledger
  /-- The directories are the same. -/
  directory : s'.directory = s.directory
  /-- The supplies are the same. -/
  supply : s'.supply = s.supply

/-- The stores have the same records and the same groups. -/
structure SameBooks (s s' : Store) : Prop where
  /-- The records are the same. -/
  records : s'.ledger.records = s.ledger.records
  /-- The directories are the same. -/
  directory : s'.directory = s.directory

/-- A store does not differ from itself. -/
theorem SameButCache.refl (s : Store) : s.SameButCache s := ⟨rfl, rfl, rfl⟩

/-- An operation of the cache changes nothing but the cache. -/
theorem SameButCache.onCache {s s' : Store} (h : s.SameButCache s') (f : Cache → α × Cache) :
    s.SameButCache (onCache f s').2 :=
  ⟨h.ledger, h.directory, h.supply⟩

/-- Stores that differ in their caches have the same books. -/
theorem SameButCache.sameBooks {s s' : Store} (h : s.SameButCache s') : s.SameBooks s' :=
  ⟨congrArg Ledger.records h.ledger, h.directory⟩

/-! ## Atomic tasks -/

/-- What an operation keeps, the atomic task keeps. -/
theorem Atomic.keeps {f : Store → α × Store} {t : Task Store α} {P : Store → Prop}
    (h : Atomic f t) (hf : ∀ s, P s → P (f s).2) : Triple P t (fun _ => P) P := by
  refine Triple.of_forall fun s hs => (h s).conseq (fun _ h => h) ?_ ?_
  · intro a s' hs'
    have hstate : s' = (f s).2 := congrArg Prod.snd hs'
    rw [hstate]
    exact hf s hs
  · rintro s' rfl
    exact hs

/-- Giving a value is atomic. -/
theorem Atomic.pure (a : α) : Atomic (fun s => (a, s)) (Pure.pure a : Task Store α) := by
  intro s
  refine Triple.pure ?_
  rintro s' rfl
  rfl

/-- After a question to the store comes an atomic task that depends on the answer. -/
theorem Atomic.bind_ask {g : Store → α} {t : Task Store α} {h : α → Store → β × Store}
    {f : α → Task Store β} (ht : Atomic (fun s => (g s, s)) t) (hf : ∀ a, Atomic (h a) (f a)) :
    Atomic (fun s => h (g s) s) (t >>= f) := by
  intro s
  refine (ht s).bind fun a => ?_
  refine Triple.of_forall fun s' hs' => ?_
  cases hs'
  exact hf (g s) s

/-- The task is atomic for any way of saying the same operation. -/
theorem Atomic.congr {f g : Store → α × Store} {t : Task Store α} (h : Atomic f t)
    (hfg : ∀ s, f s = g s) : Atomic g t := by
  rw [← funext hfg]
  exact h

end Store

/-! ## Backends with waits -/

/-- The backends perform the operations of the store, each at one instant after any wait, or not at
all. Somebody else may be the first to delete a group. -/
structure Backends.Realizes (b : Backends Store) : Prop where
  /-- Recording. -/
  append : ∀ loans, Store.Atomic (Store.append loans) (b.append loans)
  /-- Computing a balance. -/
  computeBalance : ∀ user,
    Store.Atomic (Store.onLedger (Ledger.computeBalance user)) (b.computeBalance user)
  /-- Asking for an entry. -/
  hasEntry : ∀ user, Store.Atomic (Store.onCache (Cache.hasEntry user)) (b.hasEntry user)
  /-- Reading an entry. -/
  lookup : ∀ user, Store.Atomic (Store.onCache (Cache.lookup user)) (b.lookup user)
  /-- Filling an entry. -/
  populate : ∀ user balance,
    Store.Atomic (Store.onCache (Cache.populate user balance)) (b.populate user balance)
  /-- Updating an entry. -/
  applyDeltas : ∀ user deltas,
    Store.Atomic (Store.onCache (Cache.applyDeltas user deltas)) (b.applyDeltas user deltas)
  /-- Dropping an entry. -/
  clear : ∀ user, Store.Atomic (Store.onCache (Cache.clear user)) (b.clear user)
  /-- Creating a group. -/
  createGroup : ∀ name owner,
    Store.Atomic (Store.createGroup name owner) (b.createGroup name owner)
  /-- Finding a group. -/
  findGroup : ∀ group, Store.Atomic (Store.ask (Directory.find group)) (b.findGroup group)
  /-- Deleting a group, or coming too late for it. -/
  deleteGroup : ∀ group,
    Store.Atomic (Store.onDirectory (Directory.delete group)) (b.deleteGroup group) ∨
      Store.Atomic (fun s => (.ok false, s)) (b.deleteGroup group)
  /-- Adding members. -/
  addMembers : ∀ group users,
    Store.Atomic (Store.onDirectory (Directory.addMembers group users)) (b.addMembers group users)
  /-- Taking a member out. -/
  removeMember : ∀ group user,
    Store.Atomic (Store.onDirectory (Directory.removeMember group user)) (b.removeMember group user)
  /-- Listing members. -/
  members : ∀ group, Store.Atomic (Store.ask (Directory.members group)) (b.members group)
  /-- Listing groups. -/
  groupsOf : ∀ user, Store.Atomic (Store.ask (Directory.groupsOf user)) (b.groupsOf user)

/-- The operations of the store with waits are its operations. -/
theorem Store.realizes_backends (w : Waits) : (backends w).Realizes where
  append _ := atomic_after _ _
  computeBalance _ := atomic_after _ _
  hasEntry _ := atomic_after _ _
  lookup _ := atomic_after _ _
  populate _ _ := atomic_after _ _
  applyDeltas _ _ := atomic_after _ _
  clear _ := atomic_after _ _
  createGroup _ _ := atomic_act _
  findGroup _ := atomic_after _ _
  deleteGroup _ := .inl (atomic_act _)
  addMembers _ _ := atomic_act _
  removeMember _ _ := atomic_act _
  members _ := atomic_act _
  groupsOf _ := atomic_act _

/-- They still are when somebody else is always the first to delete a group. -/
theorem Backends.Realizes.outrun {b : Backends Store} (h : b.Realizes) : b.outrun.Realizes :=
  { h with deleteGroup := fun _ => .inr (Store.Atomic.pure _) }

/-- Both are meant by backends in memory. -/
theorem Store.realizes_of_inMemory {w : Waits} {b : Backends Store}
    (hb : b = backends w ∨ b = (backends w).outrun) : b.Realizes := by
  rcases hb with rfl | rfl
  · exact realizes_backends w
  · exact (realizes_backends w).outrun

/-- Every operation of the cache keeps a property of the state, however it ends. -/
structure Backends.CacheKeeps (b : Backends σ) (P : σ → Prop) : Prop where
  /-- Asking for an entry. -/
  hasEntry : ∀ user, Triple P (b.hasEntry user) (fun _ => P) P
  /-- Filling an entry. -/
  populate : ∀ user balance, Triple P (b.populate user balance) (fun _ => P) P
  /-- Updating an entry. -/
  applyDeltas : ∀ user deltas, Triple P (b.applyDeltas user deltas) (fun _ => P) P
  /-- Dropping an entry. -/
  clear : ∀ user, Triple P (b.clear user) (fun _ => P) P

/-- What does not depend on the cache is kept by the operations of the cache. -/
theorem Backends.Realizes.cacheKeeps {b : Backends Store} (h : b.Realizes) {P : Store → Prop}
    (hP : ∀ (s : Store) (c : Cache), P s → P { s with cache := c }) : b.CacheKeeps P where
  hasEntry user := (h.hasEntry user).keeps fun s hs => hP s _ hs
  populate user balance := (h.populate user balance).keeps fun s hs => hP s _ hs
  applyDeltas user deltas := (h.applyDeltas user deltas).keeps fun s hs => hP s _ hs
  clear user := (h.clear user).keeps fun s hs => hP s _ hs

namespace Engine

/-! ## Cache work -/

/-- What a task keeps, it keeps under a deadline. -/
theorem triple_withDeadline_keeps {P : σ → Prop} {t : Task σ (Except Error α)} (limit : Nat)
    (h : Triple P t (fun _ => P) P) : Triple P (withDeadline limit t) (fun _ => P) P := by
  have hnever : False → ∃ duration ≤ limit, Prompt duration t := False.elim
  exact triple_withDeadline limit h hnever fun _ hs _ => hs

section OneUser

variable {b : Backends σ} {settings : EngineSettings} {P : σ → Prop} {user : UserId}
  (hclear : Triple P (b.clear user) (fun _ => P) P)
include hclear

/-- Trying to drop an entry keeps what dropping it keeps. -/
theorem triple_dropEntry_of_clear :
    Triple (fun e => P e.store) (dropEntry b settings user) (fun _ e => P e.store)
      fun e => P e.store := by
  have hwithin := triple_withDeadline_keeps settings.cacheUpdateTimeout (triple_onStore hclear)
  exact hwithin.bind fun _ => .pure fun _ he => he

/-- Filling an entry keeps what replacing and dropping it keep. -/
theorem triple_fillEntry_of_populate {balance : Balance}
    (hpopulate : Triple P (b.populate user balance) (fun _ => P) P) :
    Triple (fun e => P e.store) (fillEntry b settings user balance) (fun _ e => P e.store)
      fun e => P e.store := by
  have hwithin := triple_withDeadline_keeps settings.populateTimeout (triple_onStore hpopulate)
  refine hwithin.bind_except (fun _ => ?_) fun _ => triple_count _
  exact (triple_count _ (P := P)).bind fun _ => triple_dropEntry_of_clear hclear

/-- Whatever trying to update an entry leads to, bringing it up to date does if dropping the entry
keeps it. -/
theorem triple_updateEntry_of_tryUpdate {S : σ → Prop} {deltas : List (UserId × Int)}
    (htry : Triple S (tryUpdate b user deltas) (fun _ => P) P) :
    Triple (fun e => S e.store) (updateEntry b settings user deltas) (fun _ e => P e.store)
      fun e => P e.store := by
  have hwithin := triple_withDeadline settings.cacheUpdateTimeout (triple_onStore htry) False.elim
    fun _ he _ => he
  refine hwithin.bind_except (fun _ => ?_) ?_
  · exact (triple_count _ (P := P)).bind fun _ => triple_dropEntry_of_clear hclear
  · rintro (_ | _)
    · exact triple_count _
    · exact triple_count _

omit hclear in
/-- Trying to update an entry keeps what asking for it and updating it keep. -/
theorem triple_tryUpdate_of_applyDeltas {deltas : List (UserId × Int)}
    (hask : Triple P (b.hasEntry user) (fun _ => P) P)
    (hupdate : Triple P (b.applyDeltas user deltas) (fun _ => P) P) :
    Triple P (tryUpdate b user deltas) (fun _ => P) P := by
  refine hask.bind_except (fun _ => .pure fun _ hs => hs) ?_
  rintro (_ | _)
  · exact .pure fun _ hs => hs
  · exact hupdate

/-- Bringing an entry up to date keeps what asking for it, updating and dropping it keep. -/
theorem triple_updateEntry_of_applyDeltas {deltas : List (UserId × Int)}
    (hask : Triple P (b.hasEntry user) (fun _ => P) P)
    (hupdate : Triple P (b.applyDeltas user deltas) (fun _ => P) P) :
    Triple (fun e => P e.store) (updateEntry b settings user deltas) (fun _ e => P e.store)
      fun e => P e.store :=
  triple_updateEntry_of_tryUpdate hclear (triple_tryUpdate_of_applyDeltas hask hupdate)

/-- Reading a balance keeps what each operation on the way keeps. -/
theorem triple_balanceOf_keeps (hlookup : Triple P (b.lookup user) (fun _ => P) P)
    (hcompute : Triple P (b.computeBalance user) (fun _ => P) P)
    (hpopulate : ∀ balance, Triple P (b.populate user balance) (fun _ => P) P) :
    Triple (fun e => P e.store) (balanceOf b settings user) (fun _ e => P e.store)
      fun e => P e.store := by
  have hmiss : Triple (fun e => P e.store) (balanceFromLedger b settings user)
      (fun _ e => P e.store) fun e => P e.store := by
    refine (triple_count _ (P := P)).bind fun _ => ?_
    refine (triple_onStore hcompute).bind_except (fun _ => .pure fun _ he => he) fun m => ?_
    refine (triple_count _ (P := P)).bind fun _ => ?_
    exact (triple_fillEntry_of_populate hclear (hpopulate m)).bind fun _ => .pure fun _ he => he
  refine (triple_onStore hlookup).bind_except (fun _ => hmiss) ?_
  rintro (m | _)
  · exact (triple_count _ (P := P)).bind fun _ => .pure fun _ he => he
  · exact hmiss

end OneUser

section CacheWork

variable {b : Backends σ} {settings : EngineSettings} {P : σ → Prop} (h : b.CacheKeeps P)
include h

/-- Filling an entry. -/
theorem triple_fillEntry_keeps (user : UserId) (balance : Balance) :
    Triple (fun e => P e.store) (fillEntry b settings user balance) (fun _ e => P e.store)
      fun e => P e.store :=
  triple_fillEntry_of_populate (h.clear user) (h.populate user balance)

/-- Bringing an entry up to date. -/
theorem triple_updateEntry_keeps (user : UserId) (deltas : List (UserId × Int)) :
    Triple (fun e => P e.store) (updateEntry b settings user deltas) (fun _ e => P e.store)
      fun e => P e.store :=
  triple_updateEntry_of_applyDeltas (h.clear user) (h.hasEntry user) (h.applyDeltas user deltas)

/-- Bringing the entries of all parties up to date. -/
theorem triple_updateEntries_keeps (lender : UserId) (amount : Int) (debtors : List UserId) :
    Triple (fun e => P e.store) (updateEntries b settings lender amount debtors)
      (fun _ e => P e.store) fun e => P e.store :=
  Triple.all (A := fun _ (e : Engine σ) => P e.store) (B := fun _ (e : Engine σ) => P e.store)
    (fun c _ => triple_updateEntry_keeps h c.1 c.2) (fun c _ => triple_updateEntry_keeps h c.1 c.2)
    (changes lender amount debtors)

end CacheWork

/-! ## Reading -/

section Reading

variable {b : Backends Store} (hb : b.Realizes) (settings : EngineSettings)
include hb

/-- After a miss the balance is what the ledger gives. -/
theorem triple_balanceFromLedger_served (user : UserId) (s : Store) :
    Triple (fun e => s.SameButCache e.store) (balanceFromLedger b settings user)
      (fun r e => r = (s.ledger.computeBalance user).1 ∧ s.SameBooks e.store)
      fun e => s.SameBooks e.store := by
  have hcompute : Triple (fun s' => s.SameButCache s') (b.computeBalance user)
      (fun r s' => r = (s.ledger.computeBalance user).1 ∧ s.SameBooks s')
      fun s' => s.SameBooks s' := by
    refine Triple.of_forall fun s' hs' => ?_
    refine ((hb.computeBalance user) s').conseq (fun _ h => h) ?_ ?_
    · intro r s'' hs''
      cases hs''
      refine ⟨congrArg (fun l => (Ledger.computeBalance user l).1) hs'.ledger, ?_, hs'.directory⟩
      change (s'.ledger.computeBalance user).2.records = s.ledger.records
      rw [hs'.ledger]
      unfold Ledger.computeBalance
      cases s.ledger.failing <;> rfl
    · rintro s'' rfl
      exact hs'.sameBooks
  refine (triple_count _ (P := fun s' : Store => s.SameButCache s')).bind fun _ => ?_
  refine (triple_onStore hcompute).bind_except (fun _ => .pure fun _ he => he) fun m => ?_
  refine (triple_count _ (P := fun s' : Store =>
    .ok m = (s.ledger.computeBalance user).1 ∧ s.SameBooks s')).bind fun _ => ?_
  have hkeeps : b.CacheKeeps fun s' =>
      .ok m = (s.ledger.computeBalance user).1 ∧ s.SameBooks s' :=
    hb.cacheKeeps fun s' c hs' => ⟨hs'.1, hs'.2.records, hs'.2.directory⟩
  exact ((triple_fillEntry_keeps hkeeps user m).mono_dropped fun _ he => he.2).bind fun _ =>
    .pure fun _ he => he

/-- **Reading a balance gives what the store holds, and leaves records and groups alone.** -/
theorem triple_balanceOf_served (user : UserId) (s : Store) :
    Triple (fun e => e.store = s) (balanceOf b settings user)
      (fun r e => r = s.served user ∧ s.SameBooks e.store) fun e => s.SameBooks e.store := by
  have hlookup : Triple (fun s' => s' = s) (b.lookup user)
      (fun r s' => r = (s.cache.lookup user).1 ∧ s.SameButCache s') fun s' => s.SameBooks s' := by
    refine ((hb.lookup user) s).conseq (fun _ h => h) ?_ ?_
    · intro r s' hs'
      cases hs'
      exact ⟨rfl, (Store.SameButCache.refl s).onCache _⟩
    · rintro s' rfl
      exact (Store.SameButCache.refl s').sameBooks
  -- Whatever comes of the look-up but a hit, the ledger is asked.
  have hmiss : ∀ r, (∀ m, r ≠ .ok (.hit m)) →
      Triple (fun e => r = (s.cache.lookup user).1 ∧ s.SameButCache e.store)
        (balanceFromLedger b settings user)
        (fun r e => r = s.served user ∧ s.SameBooks e.store) fun e => s.SameBooks e.store := by
    intro r hr
    refine Triple.of_forall fun e he => ?_
    have hserved : s.served user = (s.ledger.computeBalance user).1 := by
      unfold Store.served
      rw [← he.1]
      split
      · exact absurd rfl (hr _)
      · rfl
    rw [hserved]
    refine (triple_balanceFromLedger_served hb settings user s).conseq ?_ (fun _ _ h => h)
      fun _ h => h
    rintro e' rfl
    exact he.2
  refine (triple_onStore hlookup).bind_except (fun e => ?_) ?_
  · exact hmiss (.error e) fun m => by simp
  · rintro (m | _)
    · refine (triple_count _ (P := fun s' : Store =>
        .ok (.hit m) = (s.cache.lookup user).1 ∧ s.SameButCache s')).bind fun _ => ?_
      refine .pure fun e he => ⟨?_, he.2.sameBooks⟩
      unfold Store.served
      rw [← he.1]
    · exact hmiss (.ok .notCached) fun m => by simp

/-- Reading the lines of a balance gives the lines of what the store holds. -/
theorem triple_balanceLinesOf_served (user : UserId) (s : Store) :
    Triple (fun e => e.store = s) (balanceLinesOf b settings user)
      (fun r e => r = (s.served user).map Balance.lines ∧ s.SameBooks e.store)
      fun e => s.SameBooks e.store := by
  refine (triple_balanceOf_served hb settings user s).bind_except (fun e => ?_) fun m => ?_
  · refine .pure fun _ he => ⟨?_, he.2⟩
    rw [← he.1]
    rfl
  · refine .pure fun _ he => ⟨?_, he.2⟩
    rw [← he.1]
    rfl

end Reading

end Engine

/-! ## Writing -/

/-- The group with an identifier, which must exist. -/
def Directory.require (group : GroupId) (d : Directory) : Except Error Group :=
  match d.find group with
  | .error e => .error e
  | .ok none => .error (.unknownGroup group)
  | .ok (some found) => .ok found

/-- All who share the expenses of a group, the owner first. -/
def Directory.sharers (group : GroupId) (d : Directory) : Except Error (List UserId) :=
  match d.require group with
  | .error e => .error e
  | .ok found => (d.members group).map (Engine.ownerThenMembers found.owner)

/-- The debtors of an expense and the share of each. -/
def Directory.terms (payer : UserId) (total : Int) (group : GroupId) (d : Directory) :
    Except Error (List UserId × Int) :=
  match Engine.checkExpense total with
  | .error e => .error e
  | .ok _ =>
    match d.sharers group with
    | .error e => .error e
    | .ok members => Engine.split payer total members

namespace Store

/-- Records the loans of one amount from a lender to some debtors, if they pass the check. -/
def lend (lender : UserId) (amount : Int) (debtors : List UserId) (s : Store) :
    Except Error (List LoanRecord) × Store :=
  match Engine.checkBatch lender amount debtors with
  | .error e => (.error e, s)
  | .ok _ => append (Engine.loansTo lender amount debtors) s

/-- Records the loans that an expense comes down to. -/
def share (payer : UserId) (total : Int) (group : GroupId) (s : Store) :
    Except Error Expense × Store :=
  match s.directory.terms payer total group with
  | .error e => (.error e, s)
  | .ok (debtors, share) =>
    ((s.lend payer share debtors).1.map fun loans =>
      ⟨group, payer, total, share, debtors, loans⟩, (s.lend payer share debtors).2)

/-- Writing adds a whole batch of valid loans to the records, or leaves the ledger alone. Groups are
left alone in any case. -/
theorem lend_cases (lender : UserId) (amount : Int) (debtors : List UserId) (s : Store) :
    (s.lend lender amount debtors).2.directory = s.directory ∧
    (((∃ e, (s.lend lender amount debtors).1 = .error e) ∧
        (s.lend lender amount debtors).2.ledger = s.ledger) ∨
      (Engine.checkBatch lender amount debtors = .ok () ∧
        ∃ batch, batch = Ledger.recordAll s.supply.next s.supply.now
            (Engine.loansTo lender amount debtors) ∧
          (s.lend lender amount debtors).1 = .ok batch ∧
          (s.lend lender amount debtors).2.ledger =
            { s.ledger with records := s.ledger.records ++ batch })) := by
  unfold lend
  cases Engine.checkBatch lender amount debtors with
  | error e => exact ⟨rfl, .inl ⟨⟨e, rfl⟩, rfl⟩⟩
  | ok checked =>
    refine ⟨rfl, ?_⟩
    simp only [append, Ledger.append]
    cases s.ledger.failing with
    | true => exact .inl ⟨⟨_, rfl⟩, rfl⟩
    | false =>
      cases Loan.checkAll (Engine.loansTo lender amount debtors) with
      | error e => exact .inl ⟨⟨e, rfl⟩, rfl⟩
      | ok _ => exact .inr ⟨trivial, _, rfl, rfl, rfl⟩

end Store

namespace Engine

section Writing

variable {b : Backends Store} (hb : b.Realizes)
include hb

/-- Finding a group that must exist is one question to the directory. -/
theorem atomic_requireGroup (group : GroupId) :
    Store.Atomic (Store.ask (Directory.require group)) (requireGroup b group) := by
  refine (Store.Atomic.bind_ask (hb.findGroup group) (h := fun r s =>
    (match r with
      | .error e => .error e
      | .ok none => .error (.unknownGroup group)
      | .ok (some found) => .ok found, s)) fun r => ?_).congr fun s => rfl
  rcases r with e | _ | found
  · exact Store.Atomic.pure _
  · exact Store.Atomic.pure _
  · exact Store.Atomic.pure _

/-- Resolving the members of a group is one question to the directory. -/
theorem atomic_resolveMembers (group : GroupId) :
    Store.Atomic (Store.ask (Directory.sharers group)) (resolveMembers b group) := by
  refine (Store.Atomic.bind_ask (atomic_requireGroup hb group) (h := fun r s =>
    match r with
    | .error e => (.error e, s)
    | .ok found => ((s.directory.members group).map (ownerThenMembers found.owner), s))
    fun r => ?_).congr fun s => ?_
  · cases r with
    | error e => exact Store.Atomic.pure _
    | ok found =>
      refine (Store.Atomic.bind_ask (hb.members group) (h := fun r s =>
        (r.map (ownerThenMembers found.owner), s)) fun r => ?_).congr fun s => rfl
      cases r with
      | error e => exact Store.Atomic.pure _
      | ok members => exact Store.Atomic.pure _
  · unfold Store.ask Directory.sharers
    cases s.directory.require group with
    | error e => rfl
    | ok found => rfl

variable (settings : EngineSettings)

/-- **Recording loans does to records and groups what the store does at one instant.** If the task
is dropped, nothing has happened yet, or all of it. -/
theorem triple_addLoans_lend (lender : UserId) (amount : Int) (debtors : List UserId) (s : Store) :
    Triple (fun e => e.store = s) (addLoans b settings lender amount debtors)
      (fun r e => r = (s.lend lender amount debtors).1 ∧
        (s.lend lender amount debtors).2.SameButCache e.store)
      fun e => e.store = s ∨ (s.lend lender amount debtors).2.SameButCache e.store := by
  unfold addLoans Store.lend
  cases checkBatch lender amount debtors with
  | error e =>
    refine .pure ?_
    rintro x rfl
    exact ⟨rfl, Store.SameButCache.refl _⟩
  | ok _ =>
    dsimp only
    generalize hloans : loansTo lender amount debtors = loans
    have happend : Triple (fun s' => s' = s) (b.append loans)
        (fun r s' => r = (s.append loans).1 ∧ (s.append loans).2.SameButCache s')
        fun s' => s' = s ∨ (s.append loans).2.SameButCache s' := by
      refine ((hb.append loans) s).conseq (fun _ h => h) ?_ fun _ h => .inl h
      intro r s' hs'
      rw [← hs']
      exact ⟨rfl, Store.SameButCache.refl _⟩
    refine (triple_onStore happend).bind_except (fun e => .pure fun _ he => he) fun records => ?_
    have hkeeps : b.CacheKeeps fun s' =>
        .ok records = (s.append loans).1 ∧ (s.append loans).2.SameButCache s' :=
      hb.cacheKeeps fun s' c hs' => ⟨hs'.1, hs'.2.ledger, hs'.2.directory, hs'.2.supply⟩
    exact ((triple_updateEntries_keeps hkeeps lender amount debtors).conseq (fun _ he => he)
      (fun _ _ he => he) fun _ he => .inr he.2).bind fun _ => .pure fun _ he => he

/-- **Sharing an expense does to records and groups what the store does at one instant.** -/
theorem triple_shareExpense_share (payer : UserId) (total : Int) (group : GroupId) (s : Store) :
    Triple (fun e => e.store = s) (shareExpense b settings payer total group)
      (fun r e => r = (s.share payer total group).1 ∧
        (s.share payer total group).2.SameButCache e.store)
      fun e => e.store = s ∨ (s.share payer total group).2.SameButCache e.store := by
  unfold shareExpense Store.share Directory.terms
  cases checkExpense total with
  | error e =>
    refine .pure ?_
    rintro x rfl
    exact ⟨rfl, Store.SameButCache.refl _⟩
  | ok _ =>
    dsimp only
    have hresolve : Triple (fun s' => s' = s) (resolveMembers b group)
        (fun r s' => r = s.directory.sharers group ∧ s' = s) fun s' => s' = s := by
      refine (atomic_resolveMembers hb group s).conseq (fun _ h => h) ?_ fun _ h => h
      intro r s' hs'
      cases hs'
      exact ⟨rfl, rfl⟩
    refine ((triple_onStore hresolve).mono_dropped fun _ h => .inl h).bind_except (fun e => ?_)
      fun members => ?_
    · refine .pure ?_
      rintro x ⟨hr, hx⟩
      rw [← hr, hx]
      exact ⟨rfl, Store.SameButCache.refl _⟩
    · refine Triple.of_forall fun x hx => ?_
      rw [← hx.1]
      dsimp only
      cases split payer total members with
      | error e =>
        refine .pure ?_
        rintro y rfl
        rw [hx.2]
        exact ⟨rfl, Store.SameButCache.refl _⟩
      | ok parts =>
        have hadd := triple_addLoans_lend hb settings payer parts.2 parts.1 s
        refine (hadd.conseq ?_ (fun _ _ h => h) fun _ h => h).bind_except (fun e => ?_)
          fun loans => ?_
        · rintro y rfl
          exact hx.2
        · refine .pure fun y hy => ⟨?_, hy.2⟩
          exact congrArg (Except.map _) hy.1
        · refine .pure fun y hy => ⟨?_, hy.2⟩
          exact congrArg (Except.map _) hy.1

end Writing

end Engine

end ExpenseLedger
