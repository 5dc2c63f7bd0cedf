import ExpenseLedger.Proofs.Engine.Administration
import ExpenseLedger.Proofs.Task.Duration
/-!
# How long the operations of the engine take

All cache work but the look-up is done under a deadline, so its time is bounded whatever the cache
does: twice the time for updating an entry for all users of a batch together, as they are worked on
side by side. The look-up that begins the reading of a balance has no deadline, and its whole wait
counts. Main statements:

* `Engine.endsWithin_shareExpense`: a bound for writing, which no wait of the cache exceeds;
* `Engine.takes_balanceLinesOf`: the exact time of reading, and what is read;
* `Engine.triple_balanceLinesOf_scansOnce`: reading scans the ledger once at most, dropped or not.
-/

open ExpenseLedger.Task

namespace ExpenseLedger

variable {α σ : Type}

/-! ## Backends -/

/-- Every operation of the backends takes a time of its own, from every state. -/
structure Backends.Punctual (b : Backends σ) : Prop where
  /-- Recording. -/
  append : ∀ loans, EndsWithin ⊤ (b.append loans)
  /-- Computing a balance. -/
  computeBalance : ∀ user, EndsWithin ⊤ (b.computeBalance user)
  /-- Asking for an entry. -/
  hasEntry : ∀ user, EndsWithin ⊤ (b.hasEntry user)
  /-- Reading an entry. -/
  lookup : ∀ user, EndsWithin ⊤ (b.lookup user)
  /-- Filling an entry. -/
  populate : ∀ user balance, EndsWithin ⊤ (b.populate user balance)
  /-- Updating an entry. -/
  applyDeltas : ∀ user deltas, EndsWithin ⊤ (b.applyDeltas user deltas)
  /-- Dropping an entry. -/
  clear : ∀ user, EndsWithin ⊤ (b.clear user)
  /-- Creating a group. -/
  createGroup : ∀ name owner, EndsWithin ⊤ (b.createGroup name owner)
  /-- Finding a group. -/
  findGroup : ∀ group, EndsWithin ⊤ (b.findGroup group)
  /-- Deleting a group. -/
  deleteGroup : ∀ group, EndsWithin ⊤ (b.deleteGroup group)
  /-- Adding members. -/
  addMembers : ∀ group users, EndsWithin ⊤ (b.addMembers group users)
  /-- Taking a member out. -/
  removeMember : ∀ group user, EndsWithin ⊤ (b.removeMember group user)
  /-- Listing members. -/
  members : ∀ group, EndsWithin ⊤ (b.members group)
  /-- Listing groups. -/
  groupsOf : ∀ user, EndsWithin ⊤ (b.groupsOf user)

namespace Store

/-- Waiting and then acting takes the time of the wait. -/
theorem takes_after (duration : Nat) (f : Store → α × Store) (s : Store) :
    Takes (after duration f) s duration (f s).1 (f s).2 :=
  (Takes.wait duration s).bind_instant (Takes.act f s)

/-- Waiting and then acting takes no longer than the wait. -/
theorem endsWithin_after (duration : Nat) (f : Store → α × Store) :
    EndsWithin duration (after duration f) :=
  fun s => ⟨duration, (f s).1, (f s).2, takes_after duration f s, le_rfl⟩

/-- The operations of the store are punctual, whatever they wait. -/
theorem punctual_backends (w : Waits) : (backends w).Punctual where
  append _ := (endsWithin_after _ _).mono le_top
  computeBalance _ := (endsWithin_after _ _).mono le_top
  hasEntry _ := (endsWithin_after _ _).mono le_top
  lookup _ := (endsWithin_after _ _).mono le_top
  populate _ _ := (endsWithin_after _ _).mono le_top
  applyDeltas _ _ := (endsWithin_after _ _).mono le_top
  clear _ := (endsWithin_after _ _).mono le_top
  createGroup _ _ := EndsWithin.act _
  findGroup _ := (endsWithin_after _ _).mono le_top
  deleteGroup _ := EndsWithin.act _
  addMembers _ _ := EndsWithin.act _
  removeMember _ _ := EndsWithin.act _
  members _ := EndsWithin.act _
  groupsOf _ := EndsWithin.act _

end Store

/-- They still are when somebody else is always the first to delete a group. -/
theorem Backends.Punctual.outrun {b : Backends σ} (h : b.Punctual) : b.outrun.Punctual :=
  { h with deleteGroup := fun _ => EndsWithin.pure _ }

namespace Engine

/-! ## Building blocks -/

/-- Tasks of the backends. -/
theorem endsWithin_onStore {n : ℕ∞} {t : Task σ α} (h : EndsWithin n t) :
    EndsWithin n (onStore t) := h.focus _ _

/-- Counting takes no time. -/
theorem endsWithin_count {n : ℕ∞} (event : CacheEvent) :
    EndsWithin n (count event : Task (Engine σ) Unit) := EndsWithin.act _

/-- Tasks under a deadline. -/
theorem endsWithin_withDeadline {n : ℕ∞} {t : Task σ (Except Error α)} (h : EndsWithin n t)
    (limit : Nat) : EndsWithin limit (withDeadline limit t) := by
  refine (h.within limit).bind_instant fun r => ?_
  cases r with
  | some result => exact EndsWithin.pure _
  | none => exact EndsWithin.pure _

/-- A deadline makes no task longer. -/
theorem endsWithin_withDeadline_le {n : ℕ∞} {t : Task σ (Except Error α)} (h : EndsWithin n t)
    (limit : Nat) : EndsWithin n (withDeadline limit t) := by
  refine (h.within_le limit).bind_instant fun r => ?_
  cases r with
  | some result => exact EndsWithin.pure _
  | none => exact EndsWithin.pure _

/-- A task that ends before its deadline takes its own time. -/
theorem takes_withDeadline {t : Task σ (Except Error α)} {s s' : σ} {d limit : Nat}
    {r : Except Error α} (h : Takes t s d r s') (hle : d ≤ limit) :
    Takes (withDeadline limit t) s d r s' :=
  (h.within hle).bind_instant (.pure r s')

/-- A task that does not end before its deadline fails then. -/
theorem takes_withDeadline_late {t : Task σ (Except Error α)} {s s' : σ} {d limit : Nat}
    {r : Except Error α} (h : Takes t s d r s') (hlt : limit < d) :
    ∃ s'', Takes (withDeadline limit t) s limit (.error .deadlinePassed) s'' :=
  ⟨_, (h.within_late hlt).bind_instant (.pure _ _)⟩

/-! ## Cache work -/

section CacheWork

variable {b : Backends σ} (hb : b.Punctual) (settings : EngineSettings)
include hb

/-- Trying to drop an entry. -/
theorem endsWithin_dropEntry (user : UserId) :
    EndsWithin settings.cacheUpdateTimeout (dropEntry b settings user) := by
  have hclear := endsWithin_withDeadline (endsWithin_onStore (hb.clear user))
    settings.cacheUpdateTimeout
  exact hclear.bind_instant fun _ => .pure ()

/-- Filling an entry. -/
theorem endsWithin_fillEntry (user : UserId) (balance : Balance) :
    EndsWithin (settings.populateTimeout + settings.cacheUpdateTimeout)
      (fillEntry b settings user balance) := by
  have hfill := endsWithin_withDeadline (endsWithin_onStore (hb.populate user balance))
    settings.populateTimeout
  refine hfill.bind_except (fun _ => ?_) fun _ => endsWithin_count _
  exact (endsWithin_count _).instant_bind fun _ => endsWithin_dropEntry hb settings user

omit hb in
/-- Trying to bring an entry up to date. -/
theorem endsWithin_tryUpdate {m n : ℕ∞} (user : UserId) (deltas : List (UserId × Int))
    (hhas : EndsWithin m (b.hasEntry user)) (happly : EndsWithin n (b.applyDeltas user deltas)) :
    EndsWithin (m + n) (tryUpdate b user deltas) := by
  refine hhas.bind_except (fun _ => .pure _) ?_
  rintro (_ | _)
  · exact .pure _
  · exact happly

omit hb in
/-- Bringing an entry up to date takes the time of trying to, and of dropping the entry if that
fails. -/
theorem endsWithin_updateEntry_of_dropEntry {m n : ℕ∞} (user : UserId)
    (deltas : List (UserId × Int))
    (htry : EndsWithin m
      (withDeadline settings.cacheUpdateTimeout (onStore (tryUpdate b user deltas))))
    (hdrop : EndsWithin n (dropEntry b settings user)) :
    EndsWithin (m + n) (updateEntry b settings user deltas) := by
  refine htry.bind_except (fun _ => ?_) ?_
  · exact (endsWithin_count _).instant_bind fun _ => hdrop
  · rintro (_ | _)
    · exact endsWithin_count _
    · exact endsWithin_count _

/-- Bringing an entry up to date. -/
theorem endsWithin_updateEntry (user : UserId) (deltas : List (UserId × Int)) :
    EndsWithin (settings.cacheUpdateTimeout + settings.cacheUpdateTimeout)
      (updateEntry b settings user deltas) := by
  have htry := endsWithin_tryUpdate user deltas (hb.hasEntry user) (hb.applyDeltas user deltas)
  exact endsWithin_updateEntry_of_dropEntry settings user deltas
    (endsWithin_withDeadline (endsWithin_onStore htry) settings.cacheUpdateTimeout)
    (endsWithin_dropEntry hb settings user)

/-! ## Reading and writing -/

omit hb in
/-- Recording loans takes the time of the ledger and of bringing one entry up to date, since all
entries are brought up to date side by side. -/
theorem endsWithin_addLoans_of_updateEntry {m n : ℕ∞}
    (happend : ∀ loans, EndsWithin n (b.append loans))
    (hupdate : ∀ user deltas, EndsWithin m (updateEntry b settings user deltas))
    (lender : UserId) (amount : Int) (debtors : List UserId) :
    EndsWithin (n + m) (addLoans b settings lender amount debtors) := by
  unfold addLoans
  cases checkBatch lender amount debtors with
  | error e => exact .pure _
  | ok _ =>
    refine (endsWithin_onStore (happend _)).bind_except (fun _ => .pure _) fun records => ?_
    have hupdates := EndsWithin.all (fun c : UserId × List (UserId × Int) => hupdate c.1 c.2)
      (changes lender amount debtors)
    exact hupdates.bind_instant fun _ => .pure _

/-- Recording loans, from the check to the last entry. -/
theorem endsWithin_addLoans {n : ℕ∞} (happend : ∀ loans, EndsWithin n (b.append loans))
    (lender : UserId) (amount : Int) (debtors : List UserId) :
    EndsWithin (n + (settings.cacheUpdateTimeout + settings.cacheUpdateTimeout))
      (addLoans b settings lender amount debtors) :=
  endsWithin_addLoans_of_updateEntry settings happend (endsWithin_updateEntry hb settings) lender
    amount debtors

omit hb in
/-- Finding a group that must exist. -/
theorem endsWithin_requireGroup {n : ℕ∞} (group : GroupId)
    (hfind : EndsWithin n (b.findGroup group)) : EndsWithin n (requireGroup b group) := by
  refine hfind.bind_instant ?_
  rintro (_ | _ | _)
  · exact .pure _
  · exact .pure _
  · exact .pure _

omit hb in
/-- Resolving the members of a group. -/
theorem endsWithin_resolveMembers {m n : ℕ∞} (group : GroupId)
    (hfind : EndsWithin m (b.findGroup group)) (hmembers : EndsWithin n (b.members group)) :
    EndsWithin (m + n) (resolveMembers b group) := by
  have hrequire := endsWithin_requireGroup group hfind
  refine hrequire.bind_except (fun _ => .pure _) fun found => hmembers.bind_instant ?_
  rintro (_ | _)
  · exact .pure _
  · exact .pure _

omit hb in
/-- Sharing an expense takes the time of finding the group, of listing its members and of recording
the loans. -/
theorem endsWithin_shareExpense_of_addLoans {l m n : ℕ∞} (group : GroupId)
    (hfind : EndsWithin l (b.findGroup group)) (hmembers : EndsWithin m (b.members group))
    (hadd : ∀ lender amount debtors, EndsWithin n (addLoans b settings lender amount debtors))
    (payer : UserId) (total : Int) :
    EndsWithin (l + m + n) (shareExpense b settings payer total group) := by
  unfold shareExpense
  cases checkExpense total with
  | error e => exact .pure _
  | ok _ =>
    have hresolve := endsWithin_onStore (endsWithin_resolveMembers group hfind hmembers)
    refine hresolve.bind_except (fun _ => .pure _) fun members => ?_
    dsimp only
    cases split payer total members with
    | error e => exact .pure _
    | ok parts =>
      refine (hadd payer parts.2 parts.1).bind_instant ?_
      rintro (_ | _)
      · exact .pure _
      · exact .pure _

/-- **Sharing an expense takes the time of finding the group, of listing its members and of
recording the loans, and no more than two deadlines of cache updates.** -/
theorem endsWithin_shareExpense {l m n : ℕ∞} (group : GroupId)
    (hfind : EndsWithin l (b.findGroup group)) (hmembers : EndsWithin m (b.members group))
    (happend : ∀ loans, EndsWithin n (b.append loans)) (payer : UserId) (total : Int) :
    EndsWithin (l + m + (n + (settings.cacheUpdateTimeout + settings.cacheUpdateTimeout)))
      (shareExpense b settings payer total group) :=
  endsWithin_shareExpense_of_addLoans settings group hfind hmembers
    (endsWithin_addLoans hb settings happend) payer total

/-- Reading a balance ends. -/
theorem endsWithin_balanceOf (user : UserId) :
    EndsWithin ⊤ (balanceOf b settings user) := by
  have hmiss : EndsWithin ⊤ (balanceFromLedger b settings user) := by
    have hfill : ∀ m, EndsWithin ⊤ (fillEntry b settings user m) :=
      fun m => (endsWithin_fillEntry hb settings user m).mono le_top
    refine (endsWithin_count _).instant_bind fun _ => ?_
    refine (endsWithin_onStore (hb.computeBalance user)).bind_top ?_
    rintro (e | m)
    · exact .pure _
    · exact (endsWithin_count _).instant_bind fun _ => (hfill m).bind_instant fun _ => .pure _
  refine (endsWithin_onStore (hb.lookup user)).bind_top ?_
  rintro (e | m | _)
  · exact hmiss
  · exact (endsWithin_count _).instant_bind fun _ => .pure _
  · exact hmiss

end CacheWork

end Engine

/-! ## Groups -/

namespace Engine

section Groups

variable {b : Backends σ} (hb : b.Punctual)
include hb

omit hb in
/-- Creating a group. -/
theorem endsWithin_createGroup {n : ℕ∞}
    (hcreate : ∀ name owner, EndsWithin n (b.createGroup name owner)) (name : String)
    (owner : UserId) : EndsWithin n (createGroup b name owner) := by
  unfold createGroup
  cases groupName? name with
  | none => exact .pure _
  | some trimmed => exact hcreate trimmed owner

omit hb in
/-- Checking the owner of a group takes the time of finding it. -/
theorem endsWithin_requireOwner {n : ℕ∞} (actor : UserId) (group : GroupId)
    (hfind : EndsWithin n (b.findGroup group)) : EndsWithin n (requireOwner b actor group) := by
  refine (endsWithin_requireGroup group hfind).bind_instant ?_
  rintro (_ | _)
  · exact .pure _
  · exact .pure _

/-- Reading a group with its members ends. -/
theorem endsWithin_groupInfo (group : GroupId) : EndsWithin ⊤ (groupInfo b group) := by
  refine (endsWithin_requireGroup group (hb.findGroup group)).bind_top ?_
  rintro (_ | _)
  · exact .pure _
  · refine (hb.members group).bind_instant ?_
    rintro (_ | _)
    · exact .pure _
    · exact .pure _

/-- Listing the members of a group ends. -/
theorem endsWithin_membersOf (group : GroupId) : EndsWithin ⊤ (membersOf b group) := by
  refine (endsWithin_requireGroup group (hb.findGroup group)).bind_top ?_
  rintro (_ | _)
  · exact .pure _
  · exact hb.members group

omit hb in
/-- Adding members takes the time of finding the group and of adding them. -/
theorem endsWithin_addMembers {m n : ℕ∞} (actor : UserId) (group : GroupId) (users : List UserId)
    (hfind : EndsWithin m (b.findGroup group)) (hadd : EndsWithin n (b.addMembers group users)) :
    EndsWithin (m + n) (addMembers b actor group users) := by
  unfold addMembers
  split
  · exact .pure _
  · refine (endsWithin_requireOwner actor group hfind).bind_except (fun _ => .pure _) fun _ => ?_
    dsimp only
    split
    · exact .pure _
    · exact hadd

/-- Taking a member out ends. -/
theorem endsWithin_removeMember (actor : UserId) (group : GroupId) (user : UserId) :
    EndsWithin ⊤ (removeMember b actor group user) := by
  refine (endsWithin_requireOwner actor group (hb.findGroup group)).bind_top ?_
  rintro (_ | _)
  · exact .pure _
  · dsimp only
    split
    · exact .pure _
    · refine (hb.removeMember group user).bind_instant ?_
      rintro (_ | _ | _)
      · exact .pure _
      · exact .pure _
      · exact .pure _

/-- Deleting a group ends. -/
theorem endsWithin_deleteGroup (actor : UserId) (group : GroupId) :
    EndsWithin ⊤ (deleteGroup b actor group) := by
  refine (endsWithin_requireOwner actor group (hb.findGroup group)).bind_top ?_
  rintro (_ | _)
  · exact .pure _
  · refine (hb.deleteGroup group).bind_instant ?_
    rintro (_ | _ | _)
    · exact .pure _
    · exact .pure _
    · exact .pure _

end Groups

end Engine

/-! ## The exact time of reading -/

namespace Store

/-- How long filling an entry takes. An attempt that fails is followed by one to drop the entry. -/
def fillTime (w : Waits) (settings : EngineSettings) (s : Store) : Nat :=
  min w.populate settings.populateTimeout +
    if settings.populateTimeout < w.populate ∨ s.cache.failing = true then
      min w.clear settings.cacheUpdateTimeout
    else 0

/-- How long computing a balance takes, with filling the entry if it succeeds. -/
def missTime (w : Waits) (settings : EngineSettings) (user : UserId) (s : Store) : Nat :=
  match (s.ledger.computeBalance user).1 with
  | .error _ => w.computeBalance
  | .ok _ => w.computeBalance + s.fillTime w settings

/-- How long reading a balance takes. -/
def readTime (w : Waits) (settings : EngineSettings) (user : UserId) (s : Store) : Nat :=
  match (s.cache.lookup user).1 with
  | .ok (.hit _) => w.lookup
  | _ => w.lookup + s.missTime w settings user

/-- The deadlines bound the time of filling an entry. -/
theorem fillTime_le (w : Waits) (settings : EngineSettings) (s : Store) :
    s.fillTime w settings ≤ settings.populateTimeout + settings.cacheUpdateTimeout := by
  unfold fillTime
  split
  · omega
  · omega

/-- No deadline bounds the time of the look-up, but all that follows in the cache has one. -/
theorem readTime_le (w : Waits) (settings : EngineSettings) (user : UserId) (s : Store) :
    s.readTime w settings user ≤
      w.lookup + w.computeBalance + settings.populateTimeout + settings.cacheUpdateTimeout := by
  have hfill := s.fillTime_le w settings
  have hmiss : s.missTime w settings user ≤
      w.computeBalance + (settings.populateTimeout + settings.cacheUpdateTimeout) := by
    unfold missTime
    split
    · exact Nat.le_add_right _ _
    · exact Nat.add_le_add_left hfill _
  unfold readTime
  split
  · omega
  · omega

end Store

namespace Engine

variable (w : Store.Waits) (settings : EngineSettings)

/-- An operation of the store takes the time of its wait. -/
theorem takes_onStore_after (duration : Nat) (f : Store → α × Store) (e : Engine Store) :
    Takes (onStore (Store.after duration f)) e duration (f e.store).1
      { e with store := (f e.store).2 } := (Store.takes_after duration f e.store).focus

/-- An operation of the store under a deadline takes the time of its wait, or fails at the
deadline. -/
theorem takes_withDeadline_after (duration limit : Nat) (f : Store → Except Error α × Store)
    (e : Engine Store) :
    ∃ e', Takes (withDeadline limit (onStore (Store.after duration f))) e (min duration limit)
      (if limit < duration then .error .deadlinePassed else (f e.store).1) e' := by
  have hafter := takes_onStore_after duration f e
  rcases Nat.lt_or_ge limit duration with hlt | hle
  · rw [if_pos hlt, Nat.min_eq_right (Nat.le_of_lt hlt)]
    exact takes_withDeadline_late hafter hlt
  · rw [if_neg (Nat.not_lt.2 hle), Nat.min_eq_left hle]
    exact ⟨_, takes_withDeadline hafter hle⟩

/-- Trying to drop an entry. -/
theorem takes_dropEntry (user : UserId) (e : Engine Store) :
    ∃ e', Takes (dropEntry (Store.backends w) settings user) e
      (min w.clear settings.cacheUpdateTimeout) () e' := by
  obtain ⟨e', h⟩ := takes_withDeadline_after w.clear settings.cacheUpdateTimeout
    (Store.onCache (Cache.clear user)) e
  exact ⟨e', h.bind_instant (.pure () e')⟩

/-- Filling an entry. -/
theorem takes_fillEntry (user : UserId) (balance : Balance) (e : Engine Store) :
    ∃ e', Takes (fillEntry (Store.backends w) settings user balance) e
      (e.store.fillTime w settings) () e' := by
  obtain ⟨e₁, hfill⟩ := takes_withDeadline_after w.populate settings.populateTimeout
    (Store.onCache (Cache.populate user balance)) e
  have hresult : (Store.onCache (Cache.populate user balance) e.store).1 =
      if e.store.cache.failing = true then .error .cacheUnavailable else .ok () := by
    change (e.store.cache.populate user balance).1 = _
    unfold Cache.populate
    split <;> rfl
  have hdrop : ∀ e₁ : Engine Store, ∃ e₂, Takes (do
      count .populateFailure
      dropEntry (Store.backends w) settings user) e₁ (min w.clear settings.cacheUpdateTimeout)
        () e₂ := by
    intro e₁
    obtain ⟨e₂, h⟩ := takes_dropEntry w settings user
      { e₁ with counters := e₁.counters.record .populateFailure }
    exact ⟨e₂, (Takes.act _ e₁).instant_bind h⟩
  unfold Store.fillTime
  by_cases hlate : settings.populateTimeout < w.populate
  · rw [if_pos hlate] at hfill
    rw [if_pos (Or.inl hlate)]
    obtain ⟨e₂, h⟩ := hdrop e₁
    exact ⟨e₂, hfill.bind h⟩
  · rw [if_neg hlate, hresult] at hfill
    by_cases hfailing : e.store.cache.failing = true
    · rw [if_pos hfailing] at hfill
      rw [if_pos (Or.inr hfailing)]
      obtain ⟨e₂, h⟩ := hdrop e₁
      exact ⟨e₂, hfill.bind h⟩
    · rw [if_neg hfailing] at hfill
      rw [if_neg (not_or.2 ⟨hlate, hfailing⟩)]
      exact ⟨_, hfill.bind (Takes.act _ e₁)⟩

/-- Reading a balance after a miss. -/
theorem takes_balanceFromLedger (user : UserId) (e : Engine Store) :
    ∃ r e', Takes (balanceFromLedger (Store.backends w) settings user) e
        (e.store.missTime w settings user) r e' := by
  obtain ⟨asked, hasked, hcache⟩ : ∃ asked : Engine Store,
      Takes (onStore ((Store.backends w).computeBalance user))
        { e with counters := e.counters.record .miss } w.computeBalance
        (e.store.ledger.computeBalance user).1 asked ∧
      asked.store.cache = e.store.cache :=
    ⟨_, takes_onStore_after w.computeBalance _ { e with counters := e.counters.record .miss }, rfl⟩
  unfold Store.missTime
  cases hr : (e.store.ledger.computeBalance user).1 with
  | error err =>
    rw [hr] at hasked
    refine ⟨.error err, asked, (Takes.act _ e).instant_bind (hasked.bind_instant ?_)⟩
    exact .pure _ asked
  | ok m =>
    rw [hr] at hasked
    obtain ⟨e', hfill⟩ := takes_fillEntry w settings user m
      { asked with counters := asked.counters.record .ledgerScan }
    have htime : asked.store.fillTime w settings = e.store.fillTime w settings := by
      unfold Store.fillTime
      rw [hcache]
    refine ⟨.ok m, e', (Takes.act _ e).instant_bind (hasked.bind
      ((Takes.act _ asked).instant_bind ?_))⟩
    rw [← htime]
    exact hfill.bind_instant (.pure _ e')

/-- Reading a balance. -/
theorem takes_balanceOf (user : UserId) (e : Engine Store) :
    ∃ r e', Takes (balanceOf (Store.backends w) settings user) e
        (e.store.readTime w settings user) r e' := by
  obtain ⟨found, hlookup, hledger, hcache⟩ : ∃ found : Engine Store,
      Takes (onStore ((Store.backends w).lookup user)) e w.lookup
        (e.store.cache.lookup user).1 found ∧
      found.store.ledger = e.store.ledger ∧
      found.store.cache = (e.store.cache.lookup user).2 :=
    ⟨_, takes_onStore_after w.lookup _ e, rfl, rfl⟩
  -- A look-up may drop an entry, but the cache fails or does not as before.
  have hfailing : found.store.cache.failing = e.store.cache.failing := by
    rw [hcache]
    unfold Cache.lookup Cache.lookupIn
    split
    · rfl
    · split
      · split <;> rfl
      · rfl
  have htime : found.store.missTime w settings user = e.store.missTime w settings user := by
    unfold Store.missTime Store.fillTime
    rw [hfailing, hledger]
  obtain ⟨r, e', hmiss⟩ := takes_balanceFromLedger w settings user found
  rw [htime] at hmiss
  unfold Store.readTime
  rcases hr : (e.store.cache.lookup user).1 with err | m | _
  · rw [hr] at hlookup
    exact ⟨r, e', hlookup.bind hmiss⟩
  · rw [hr] at hlookup
    refine ⟨.ok m, { found with counters := found.counters.record .hit },
      hlookup.bind_instant ((Takes.act _ found).instant_bind ?_)⟩
    exact .pure _ _
  · rw [hr] at hlookup
    exact ⟨r, e', hlookup.bind hmiss⟩

/-- **Reading the lines of a balance takes the whole wait of the look-up, and after a miss those of
the ledger and of filling the entry.** It gives what the store holds. -/
theorem takes_balanceLinesOf (user : UserId) (e : Engine Store) :
    ∃ e', Takes (balanceLinesOf (Store.backends w) settings user) e
        (e.store.readTime w settings user) ((e.store.served user).map Balance.lines) e' := by
  obtain ⟨r, e', hread⟩ := takes_balanceOf w settings user e
  have hserved := (hread.of_triple (triple_balanceOf_served (Store.realizes_backends w) settings
    user e.store) rfl).1
  refine ⟨e', ?_⟩
  rw [← hserved]
  cases r with
  | error err => exact hread.bind_instant (.pure _ e')
  | ok m => exact hread.bind_instant (.pure _ e')

/-! ## The scans of the ledger -/

/-- Reading a balance scans the ledger once at most, however it ends. -/
theorem triple_balanceOf_scansOnce {b : Backends Store} (hb : b.Realizes) (user : UserId)
    (n : Nat) :
    Triple (fun e => e.store.ledger.scans = n) (balanceOf b settings user)
      (fun _ e => e.store.ledger.scans ≤ n + 1) fun e => e.store.ledger.scans ≤ n + 1 := by
  have hlookup : Triple (fun s => s.ledger.scans = n) (b.lookup user)
      (fun _ s => s.ledger.scans = n) fun s => s.ledger.scans ≤ n + 1 :=
    ((hb.lookup user).keeps fun _ hs => hs).mono_dropped fun _ h => h.le.trans (Nat.le_succ n)
  have hcompute : Triple (fun s => s.ledger.scans = n) (b.computeBalance user)
      (fun _ s => s.ledger.scans ≤ n + 1) fun s => s.ledger.scans ≤ n + 1 := by
    refine Triple.of_forall fun s hs => ((hb.computeBalance user) s).conseq (fun _ h => h) ?_ ?_
    · intro r s' hs'
      cases hs'
      change (s.ledger.computeBalance user).2.scans ≤ n + 1
      unfold Ledger.computeBalance
      split
      · exact hs.le.trans (Nat.le_succ n)
      · exact (congrArg Nat.succ hs).le
    · rintro s' rfl
      exact hs.le.trans (Nat.le_succ n)
  have hmiss : Triple (fun e => e.store.ledger.scans = n) (balanceFromLedger b settings user)
      (fun _ e => e.store.ledger.scans ≤ n + 1) fun e => e.store.ledger.scans ≤ n + 1 := by
    refine (triple_count _ (P := fun s : Store => s.ledger.scans = n)).bind fun _ => ?_
    refine (triple_onStore hcompute).bind_except (fun _ => .pure fun _ he => he) fun m => ?_
    refine (triple_count _ (P := fun s : Store => s.ledger.scans ≤ n + 1)).bind fun _ => ?_
    have hkeeps : b.CacheKeeps fun s => s.ledger.scans ≤ n + 1 := hb.cacheKeeps fun _ _ hs => hs
    exact (triple_fillEntry_keeps hkeeps user m).bind fun _ => .pure fun _ he => he
  refine (triple_onStore hlookup).bind ?_
  rintro (_ | m | _)
  · exact hmiss
  · refine (triple_count _ (P := fun s : Store => s.ledger.scans ≤ n + 1)).conseq ?_
      (fun _ _ h => h) (fun _ h => h) |>.bind fun _ => .pure fun _ he => he
    exact fun e he => he.le.trans (Nat.le_succ n)
  · exact hmiss

/-- Reading the lines of a balance scans the ledger once at most, however it ends. -/
theorem triple_balanceLinesOf_scansOnce {b : Backends Store} (hb : b.Realizes) (user : UserId)
    (n : Nat) :
    Triple (fun e => e.store.ledger.scans = n) (balanceLinesOf b settings user)
      (fun _ e => e.store.ledger.scans ≤ n + 1) fun e => e.store.ledger.scans ≤ n + 1 :=
  (triple_balanceOf_scansOnce settings hb user n).bind_except (fun _ => .pure fun _ he => he)
    fun _ => .pure fun _ he => he

end Engine

end ExpenseLedger
