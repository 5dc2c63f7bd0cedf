import ExpenseLedger.Proofs.Cache.Confined
import ExpenseLedger.Proofs.Engine.Duration
import ExpenseLedger.Proofs.Task.Alike
import Mathlib.Data.List.Perm.Basic
/-!
# Updates keep to themselves

Bringing the entry of a user up to date reads and writes what the cache holds for this user, counts
events and touches nothing else (`Engine.confined_updateEntry`). So the updates of distinct users do
not get in each other's way: side by side they do the same in every order (`Engine.all_perm`), and
each of them leaves the entry of its user as it does alone (`Engine.sameAt_all`).
-/

open ExpenseLedger.Task

namespace ExpenseLedger

variable {σ τ α β ι : Type}

/-! ## Counting -/

namespace Counters

/-- Counts events, from the first to the last. -/
def recordAll (events : List CacheEvent) (c : Counters) : Counters := events.foldl record c

/-- Events are counted in two goes. -/
theorem recordAll_append (xs ys : List CacheEvent) (c : Counters) :
    c.recordAll (xs ++ ys) = (c.recordAll xs).recordAll ys := List.foldl_append

/-- It is all one which of two events is counted first. -/
theorem record_comm (a b : CacheEvent) (c : Counters) :
    (c.record a).record b = (c.record b).record a := by
  cases a <;> cases b <;> rfl

/-- An event can be counted before or after others. -/
theorem recordAll_record (a : CacheEvent) (xs : List CacheEvent) (c : Counters) :
    (c.record a).recordAll xs = (c.recordAll xs).record a := by
  induction xs generalizing c with
  | nil => rfl
  | cons x xs ih =>
    change ((c.record a).record x).recordAll xs = ((c.record x).recordAll xs).record a
    rw [record_comm, ih]

/-- It is all one which events are counted first. -/
theorem recordAll_comm (xs ys : List CacheEvent) (c : Counters) :
    (c.recordAll xs).recordAll ys = (c.recordAll ys).recordAll xs := by
  induction xs generalizing c with
  | nil => rfl
  | cons x xs ih =>
    change ((c.record x).recordAll xs).recordAll ys = ((c.recordAll ys).record x).recordAll xs
    rw [ih, recordAll_record]

end Counters

/-! ## Stores -/

namespace Store

/-- The second store differs from the first under the cache keys of some users at most. -/
def ChangedAt (users : List UserId) (s t : Store) : Prop :=
  s.cache.ChangedAt users t.cache ∧ t = { s with cache := t.cache }

/-- A store is its own change. -/
theorem ChangedAt.refl (users : List UserId) (s : Store) : s.ChangedAt users s :=
  ⟨.refl users _, rfl⟩

/-- A change of a change. -/
theorem ChangedAt.trans {users : List UserId} {s t u : Store} (h : s.ChangedAt users t)
    (h' : t.ChangedAt users u) : s.ChangedAt users u := by
  obtain ⟨hcache, hrest⟩ := h
  obtain ⟨hcache', hrest'⟩ := h'
  refine ⟨hcache.trans hcache', ?_⟩
  rw [hrest', hrest]

/-- A change at some users is one at more of them. -/
theorem ChangedAt.mono {users others : List UserId} {s t : Store} (h : s.ChangedAt users t)
    (hsub : users ⊆ others) : s.ChangedAt others t := ⟨h.1.mono hsub, h.2⟩

/-- What has been changed at some users, and holds the same for each of them, is the same. -/
theorem eq_of_changedAt {users : List UserId} {s t u : Store} (ht : s.ChangedAt users t)
    (hu : s.ChangedAt users u) (hsame : ∀ user ∈ users, t.cache.SameAt user u.cache) : t = u := by
  rw [ht.2, hu.2, Cache.eq_of_changedAt ht.1 hu.1 hsame]

/-- The operation reads and writes what the cache holds for a user, and nothing else. -/
structure Confined (user : UserId) (f : Store → α × Store) : Prop where
  /-- It writes nothing else. -/
  writes : ∀ s : Store, s.ChangedAt [user] (f s).2
  /-- It reads nothing else. -/
  reads : ∀ s t : Store, s.cache.SameAt user t.cache →
    (f s).1 = (f t).1 ∧ (f s).2.cache.SameAt user (f t).2.cache

/-- An operation of the cache is as confined in the store as it is in the cache. -/
theorem confined_onCache {user : UserId} {f : Cache → α × Cache} (h : Cache.Confined user f) :
    Confined user (onCache f) :=
  ⟨fun s => ⟨h.writes s.cache, rfl⟩, fun s t hst => h.reads s.cache t.cache hst⟩

/-- Waiting and then acting writes what the operation writes. -/
theorem triple_after_changedAt {user : UserId} {f : Store → α × Store} (h : Confined user f)
    (duration : Nat) (s : Store) :
    Triple (fun t => s.ChangedAt [user] t) (after duration f) (fun _ t => s.ChangedAt [user] t)
      fun t => s.ChangedAt [user] t :=
  (Triple.wait duration).bind fun _ => Triple.act fun t ht => ht.trans (h.writes t)

/-- Waiting and then acting reads what the operation reads. -/
theorem alike_after {user : UserId} {f : Store → α × Store} (h : Confined user f)
    (duration : Nat) :
    Task.Alike (fun s t : Store => s.cache.SameAt user t.cache) (after duration f)
      (after duration f) :=
  (Task.Alike.wait _ duration).bind fun _ => Task.Alike.act h.reads

/-- The operations of the store, where the cache work for each user has waits of its own. -/
def backendsBy (w : Waits) (own : UserId → Waits) : Backends Store :=
  { backends w with
    hasEntry := fun user => (backends (own user)).hasEntry user
    applyDeltas := fun user deltas => (backends (own user)).applyDeltas user deltas
    clear := fun user => (backends (own user)).clear user }

/-- With the same waits for all users these are the operations of the store. -/
theorem backendsBy_const (w : Waits) : (backendsBy w fun _ => w) = backends w := rfl

/-- They are punctual. -/
theorem punctual_backendsBy (w : Waits) (own : UserId → Waits) : (backendsBy w own).Punctual :=
  { punctual_backends w with
    hasEntry := fun user => (punctual_backends (own user)).hasEntry user
    applyDeltas := fun user => (punctual_backends (own user)).applyDeltas user
    clear := fun user => (punctual_backends (own user)).clear user }

end Store

namespace Engine

/-! ## Updates that fare alike -/

/-- The first part of an update, after which it is known what became of it: the amounts were added,
there was no entry, or it failed. -/
def attempt (b : Backends σ) (settings : EngineSettings) (user : UserId)
    (deltas : List (UserId × Int)) : Task (Engine σ) (Except Error Cache.DeltaOutcome) :=
  withDeadline settings.cacheUpdateTimeout (onStore (tryUpdate b user deltas))

section Alike

variable {R : τ → σ → Prop} {C : Counters → Counters → Prop}
  (hcount : ∀ event c d, C c d → C (c.record event) (d.record event))

/-- The stores of two engines are related, and so are their counters. -/
def Related (R : τ → σ → Prop) (C : Counters → Counters → Prop) (e : Engine τ) (f : Engine σ) :
    Prop := R e.store f.store ∧ C e.counters f.counters

/-- Tasks of the backends. -/
theorem alike_onStore {t : Task τ α} {u : Task σ α} (h : Task.Alike R t u) :
    Task.Alike (Related R C) (onStore t) (onStore u) :=
  h.focus (fun _ _ he => he.1) fun _ _ _ _ he hs => ⟨hs, he.2⟩

/-- Tasks under a deadline. -/
theorem alike_withDeadline {t : Task τ (Except Error α)} {u : Task σ (Except Error α)}
    (h : Task.Alike R t u) (limit : Nat) :
    Task.Alike R (withDeadline limit t) (withDeadline limit u) := by
  refine (h.within limit).bind fun r => ?_
  cases r with
  | some result => exact Task.Alike.pure R result
  | none => exact Task.Alike.pure R _

include hcount in
/-- Counting. -/
theorem alike_count (event : CacheEvent) : Task.Alike (Related R C) (count event) (count event) :=
  Task.Alike.act fun _ _ he => ⟨rfl, he.1, hcount event _ _ he.2⟩

variable {b : Backends τ} {b' : Backends σ} {user : UserId} {deltas : List (UserId × Int)}
  (settings : EngineSettings) (hask : Task.Alike R (b.hasEntry user) (b'.hasEntry user))
  (hupdate : Task.Alike R (b.applyDeltas user deltas) (b'.applyDeltas user deltas))
  (hclear : Task.Alike R (b.clear user) (b'.clear user))

include hask hupdate in
/-- Attempts to update an entry. -/
theorem alike_attempt :
    Task.Alike (Related R C) (attempt b settings user deltas)
      (attempt b' settings user deltas) := by
  refine alike_withDeadline (alike_onStore ?_) _
  refine hask.bind_except (fun _ => .pure _ _) ?_
  rintro (_ | _)
  · exact .pure _ _
  · exact hupdate

include hcount hask hupdate hclear in
/-- **Updates of an entry fare alike if the three operations that they use do.** -/
theorem alike_updateEntry :
    Task.Alike (Related R C) (updateEntry b settings user deltas)
      (updateEntry b' settings user deltas) := by
  have hdrop : Task.Alike (Related R C) (dropEntry b settings user) (dropEntry b' settings user) :=
    (alike_withDeadline (alike_onStore hclear) _).bind fun _ => .pure _ ()
  refine (alike_attempt settings hask hupdate).bind_except (fun _ => ?_) ?_
  · exact (alike_count hcount _).bind fun _ => hdrop
  · rintro (_ | _)
    · exact alike_count hcount _
    · exact alike_count hcount _

end Alike

/-! ## Confined tasks -/

/-- The task reads and writes what the cache holds for a user and counts events, and that is all. -/
structure Confined (user : UserId) (t : Task (Engine Store) Unit) : Prop where
  /-- It writes nothing else. -/
  writes : ∀ budget (e : Engine Store), e.store.ChangedAt [user] (t budget e).state.store
  /-- It reads nothing else. -/
  reads : ∀ budget (e f : Engine Store), e.store.cache.SameAt user f.store.cache →
    (t budget e).outcome = (t budget f).outcome ∧
    (t budget e).state.store.cache.SameAt user (t budget f).state.store.cache ∧
    ∃ events, (t budget e).state.counters = e.counters.recordAll events ∧
      (t budget f).state.counters = f.counters.recordAll events

/-- The same events have been counted from two beginnings. -/
def CountedAlike (c₀ d₀ c d : Counters) : Prop :=
  ∃ events, c = c₀.recordAll events ∧ d = d₀.recordAll events

/-- One more event is counted in both. -/
theorem CountedAlike.record {c₀ d₀ c d : Counters} (h : CountedAlike c₀ d₀ c d)
    (event : CacheEvent) : CountedAlike c₀ d₀ (c.record event) (d.record event) := by
  obtain ⟨events, rfl, rfl⟩ := h
  exact ⟨events ++ [event], by rw [Counters.recordAll_append]; rfl,
    by rw [Counters.recordAll_append]; rfl⟩

section Own

variable (w : Store.Waits) {own own' : UserId → Store.Waits} (settings : EngineSettings)
  {user : UserId} (hown : own user = own' user) (deltas : List (UserId × Int))
include hown

/-- Asking for an entry reads what the cache holds for the user, and does not depend on the waits of
others. -/
theorem alike_hasEntry_own :
    Task.Alike (fun s t : Store => s.cache.SameAt user t.cache)
      ((Store.backendsBy w own).hasEntry user) ((Store.backendsBy w own').hasEntry user) := by
  change Task.Alike _ (Store.after (own user).hasEntry _) (Store.after (own' user).hasEntry _)
  rw [hown]
  exact Store.alike_after (Store.confined_onCache (Cache.confined_hasEntry user)) _

/-- So does updating it. -/
theorem alike_applyDeltas_own :
    Task.Alike (fun s t : Store => s.cache.SameAt user t.cache)
      ((Store.backendsBy w own).applyDeltas user deltas)
      ((Store.backendsBy w own').applyDeltas user deltas) := by
  change Task.Alike _ (Store.after (own user).applyDeltas _)
    (Store.after (own' user).applyDeltas _)
  rw [hown]
  exact Store.alike_after (Store.confined_onCache (Cache.confined_applyDeltas user deltas)) _

/-- So does dropping it. -/
theorem alike_clear_own :
    Task.Alike (fun s t : Store => s.cache.SameAt user t.cache)
      ((Store.backendsBy w own).clear user) ((Store.backendsBy w own').clear user) := by
  change Task.Alike _ (Store.after (own user).clear _) (Store.after (own' user).clear _)
  rw [hown]
  exact Store.alike_after (Store.confined_onCache (Cache.confined_clear user)) _

/-- What becomes of an update does not depend on anybody else. -/
theorem alike_attempt_own (C : Counters → Counters → Prop) :
    Task.Alike (Related (fun s t : Store => s.cache.SameAt user t.cache) C)
      (attempt (Store.backendsBy w own) settings user deltas)
      (attempt (Store.backendsBy w own') settings user deltas) :=
  alike_attempt settings (alike_hasEntry_own w hown) (alike_applyDeltas_own w hown deltas)

/-- **An update reads what the cache holds for its user**, and it does not depend on the waits of
others. -/
theorem alike_updateEntry_own (c₀ d₀ : Counters) :
    Task.Alike (Related (fun s t : Store => s.cache.SameAt user t.cache) (CountedAlike c₀ d₀))
      (updateEntry (Store.backendsBy w own) settings user deltas)
      (updateEntry (Store.backendsBy w own') settings user deltas) :=
  alike_updateEntry (fun event _ _ h => h.record event) settings (alike_hasEntry_own w hown)
    (alike_applyDeltas_own w hown deltas) (alike_clear_own w hown)

end Own

/-- An update is confined to its user. -/
theorem confined_updateEntry (w : Store.Waits) (own : UserId → Store.Waits)
    (settings : EngineSettings) (user : UserId) (deltas : List (UserId × Int)) :
    Confined user (updateEntry (Store.backendsBy w own) settings user deltas) := by
  have hask := Store.confined_onCache (Cache.confined_hasEntry user)
  have hupdate := Store.confined_onCache (Cache.confined_applyDeltas user deltas)
  have hclear := Store.confined_onCache (Cache.confined_clear user)
  refine ⟨fun budget e => ?_, fun budget e f hsame => ?_⟩
  · have hkeeps : Triple (fun x => e.store.ChangedAt [user] x.store)
        (updateEntry (Store.backendsBy w own) settings user deltas)
        (fun _ x => e.store.ChangedAt [user] x.store) fun x => e.store.ChangedAt [user] x.store :=
      triple_updateEntry_of_applyDeltas (Store.triple_after_changedAt hclear _ e.store)
        (Store.triple_after_changedAt hask _ e.store)
        (Store.triple_after_changedAt hupdate _ e.store)
    exact (hkeeps budget e (.refl _ _)).state (fun _ _ h => h) fun _ h => h
  · obtain ⟨houtcome, hstate, hcounters⟩ :=
      alike_updateEntry_own w settings (Eq.refl (own user)) deltas e.counters f.counters budget e f
        ⟨hsame, [], rfl, rfl⟩
    exact ⟨houtcome, hstate, hcounters⟩

namespace Confined

variable {u v : UserId} {t t' : Task (Engine Store) Unit}

/-- What a task does at one user is nothing to another. -/
theorem sameAt (h : Confined u t) {other : UserId} (hne : other ≠ u) (budget : Option Nat)
    (e : Engine Store) : e.store.cache.SameAt other (t budget e).state.store.cache :=
  (h.writes budget e).1.sameAt fun hmem => hne (List.mem_singleton.1 hmem)

/-- A task fares after another as it does before it. -/
theorem outcome_after (h : Confined u t) (h' : Confined v t') (hne : u ≠ v) (budget : Option Nat)
    (e : Engine Store) : (t' budget (t budget e).state).outcome = (t' budget e).outcome :=
  (h'.reads budget _ e (h.sameAt hne.symm budget e).symm).1

/-- **Tasks of distinct users leave the same in either order.** -/
theorem state_comm (h : Confined u t) (h' : Confined v t') (hne : u ≠ v) (budget : Option Nat)
    (e : Engine Store) :
    (t' budget (t budget e).state).state = (t budget (t' budget e).state).state := by
  obtain ⟨-, hsameV, events', hev₁', hev₂'⟩ :=
    h'.reads budget _ e (h.sameAt hne.symm budget e).symm
  obtain ⟨-, hsameU, events, hev₁, hev₂⟩ := h.reads budget _ e (h'.sameAt hne budget e).symm
  have hstore : (t' budget (t budget e).state).state.store =
      (t budget (t' budget e).state).state.store := by
    have hleft : [u] ⊆ [u, v] := List.cons_subset_cons u (List.nil_subset [v])
    have hright : [v] ⊆ [u, v] := List.subset_cons_self u [v]
    have hfirst : e.store.ChangedAt [u, v] (t' budget (t budget e).state).state.store :=
      ((h.writes budget e).mono hleft).trans ((h'.writes budget _).mono hright)
    have hsecond : e.store.ChangedAt [u, v] (t budget (t' budget e).state).state.store :=
      ((h'.writes budget e).mono hright).trans ((h.writes budget _).mono hleft)
    refine Store.eq_of_changedAt hfirst hsecond fun user huser => ?_
    rcases List.mem_cons.1 huser with rfl | huser
    · exact (h'.sameAt hne budget _).symm.trans hsameU.symm
    · rw [List.mem_singleton.1 huser]
      exact hsameV.trans (h.sameAt hne.symm budget _)
  have hcounters : (t' budget (t budget e).state).state.counters =
      (t budget (t' budget e).state).state.counters := by
    rw [hev₁', hev₁, hev₂, hev₂', Counters.recordAll_comm]
  exact congrArg₂ Engine.mk hstore hcounters

end Confined

/-! ## Side by side -/

/-- It is all one in which order ends are joined. -/
theorem join_left_comm (a b c : Outcome Unit) : join a (join b c) = join b (join a c) := by
  cases a <;> cases b <;> cases c <;> try rfl
  exact congrArg (Outcome.done ()) (Nat.max_left_comm _ _ _)

section All

variable {f : ι → Task (Engine Store) Unit} {user : ι → UserId}
  (h : ∀ i, Confined (user i) (f i))
include h

/-- **Tasks of distinct users, side by side, do the same in every order.** -/
theorem all_perm {is js : List ι} (hperm : is.Perm js) (hnodup : (is.map user).Nodup) :
    Task.all (is.map f) = Task.all (js.map f) := by
  induction hperm with
  | nil => rfl
  | cons i _ ih =>
    have hrest := ih (List.nodup_cons.1 hnodup).2
    rw [List.map_cons, List.map_cons, Task.all, Task.all, hrest]
  | swap i j is =>
    have hne : user j ≠ user i := fun he =>
      (List.nodup_cons.1 hnodup).1 (he ▸ List.mem_cons_self)
    funext budget e
    simp only [List.map_cons, Task.all]
    rw [(h j).outcome_after (h i) hne, (h i).outcome_after (h j) hne.symm,
      (h j).state_comm (h i) hne, join_left_comm]
  | trans hfirst _ ih ih' =>
    exact (ih hnodup).trans (ih' ((hfirst.map user).nodup_iff.1 hnodup))

/-- Tasks side by side change what the cache holds for their users, and nothing else of the store.
-/
theorem changedAt_all (is : List ι) (budget : Option Nat) (e : Engine Store) :
    e.store.ChangedAt (is.map user) (Task.all (is.map f) budget e).state.store := by
  induction is generalizing e with
  | nil => exact .refl _ _
  | cons i is ih =>
    have hfirst : [user i] ⊆ (i :: is).map user :=
      List.cons_subset_cons (user i) (List.nil_subset _)
    have hrest : is.map user ⊆ (i :: is).map user := List.subset_cons_self _ _
    exact (((h i).writes budget e).mono hfirst).trans ((ih (f i budget e).state).mono hrest)

/-- **Each of the tasks leaves the entry of its user as it does alone.** -/
theorem sameAt_all {is : List ι} (hnodup : (is.map user).Nodup) {i : ι} (hi : i ∈ is)
    (budget : Option Nat) (e : Engine Store) :
    (Task.all (is.map f) budget e).state.store.cache.SameAt (user i)
      (f i budget e).state.store.cache := by
  induction is generalizing e with
  | nil => contradiction
  | cons j is ih =>
    obtain ⟨hj, hrest⟩ := List.nodup_cons.1 hnodup
    have hafter := changedAt_all h is budget (f j budget e).state
    rcases List.mem_cons.1 hi with rfl | hi
    · exact (hafter.1.sameAt hj).symm
    · have hne : user i ≠ user j := fun he => hj (he ▸ List.mem_map_of_mem hi)
      have halone := ((h i).reads budget _ e ((h j).sameAt hne budget e).symm).2.1
      exact (ih hrest hi (f j budget e).state).trans halone

end All

end Engine

end ExpenseLedger
