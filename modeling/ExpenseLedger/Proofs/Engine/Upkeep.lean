import ExpenseLedger.Engine.Expenses
import ExpenseLedger.Proofs.Engine.Batches
import ExpenseLedger.Proofs.Engine.Groups
import ExpenseLedger.Proofs.History.Operations
/-!
# The engine keeps its store sound

Every operation of the engine keeps the store coherent with its history, however early it is
dropped. If dropping an entry is sure to succeed in time, then an operation that ends loses nothing
either: an update that goes wrong is made up for by dropping the entry. Main statements:

* `Engine.triple_balanceOf`: what is read, and what reading does to the store;
* `Engine.triple_updateEntry`: the cache work for one user;
* `Engine.triple_addLoans`: recording loans, from the check to the last entry.
-/

open ExpenseLedger.Task

namespace ExpenseLedger

/-- The balance that is read: what the cache holds, and else what the ledger gives. -/
def Store.served (user : UserId) (s : Store) : Except Error Balance :=
  match (s.cache.lookup user).1 with
  | .ok (.hit balance) => .ok balance
  | _ => (s.ledger.computeBalance user).1

/-- A computed balance is the balance of all records. -/
theorem Ledger.aggregate_of_computeBalance (user : UserId) (l : Ledger) (m : Balance)
    (h : (l.computeBalance user).1 = .ok m) : aggregate user l.records = .ok m := by
  unfold computeBalance at h
  cases hf : l.failing with
  | true =>
    rw [hf] at h
    contradiction
  | false =>
    rw [hf] at h
    exact h

namespace Engine

open Journaled

variable {σ α : Type} {w : Store.Waits} {settings : EngineSettings} {assumption : Prop}

/-! ## Building blocks -/

/-- Tasks of the backends. -/
theorem triple_onStore {P : σ → Prop} {t : Task σ α} {Q : α → σ → Prop} {R : σ → Prop}
    (h : Triple P t Q R) :
    Triple (fun e => P e.store) (onStore t) (fun a e => Q a e.store) fun e => R e.store :=
  h.focus fun _ _ => rfl

/-- Counting leaves the backends alone. -/
theorem triple_count {P : σ → Prop} {R : Engine σ → Prop} (event : CacheEvent) :
    Triple (fun e => P e.store) (count event) (fun _ e => P e.store) R :=
  Triple.act fun _ he => he

/-- Tasks under a deadline. If the task ends in time under the assumption, the deadline passes only
where the assumption fails. -/
theorem triple_withDeadline {P : σ → Prop} {t : Task σ (Except Error α)}
    {Q : Except Error α → σ → Prop} {R : σ → Prop} (limit : Nat) (h : Triple P t Q R)
    (hp : assumption → ∃ duration ≤ limit, Prompt duration t)
    (hlate : ∀ s, R s → ¬ assumption → Q (.error .deadlinePassed) s) :
    Triple P (withDeadline limit t) Q R := by
  refine (h.within_prompt limit hp).bind fun r => ?_
  cases r with
  | some result => exact Triple.pure fun s hs => hs
  | none => exact Triple.pure fun s hs => hlate s hs.1 hs.2

/-! ## Reading -/

/-- Trying to drop an entry does no harm. -/
theorem triple_dropEntry (user : UserId) :
    Triple (fun e => e.store.Sound assumption) (dropEntry (backends w) settings user)
      (fun _ e => e.store.Sound assumption) fun e => e.store.Sound assumption := by
  have hclear : Triple (Sound assumption) ((backends w).clear user) (fun _ => Sound assumption)
      (Sound assumption) :=
    triple_clear user (fun _ hj => hj) (fun _ _ hj _ => hj) fun _ _ hj hs => hj.cleared hs
  have hwithin := triple_withDeadline settings.cacheUpdateTimeout
    (triple_onStore hclear) False.elim fun _ he _ => he
  exact hwithin.bind fun _ => Triple.pure fun _ he => he

/-- An entry is filled with the balance of all records, or dropped. -/
theorem triple_fillEntry (user : UserId) (balance : Balance) :
    Triple (fun e => e.store.Sound assumption ∧
        Ledger.aggregate user e.store.store.ledger.records = .ok balance)
      (fillEntry (backends w) settings user balance)
      (fun _ e => e.store.Sound assumption) fun e => e.store.Sound assumption := by
  have hpopulate : Triple (fun j => j.Sound assumption ∧
        Ledger.aggregate user j.store.ledger.records = .ok balance)
      ((backends w).populate user balance) (fun _ j => j.Sound assumption)
      fun j => j.Sound assumption := by
    refine triple_populate user balance (fun _ hj => hj.1) (fun _ _ hj => hj.1) ?_
    rintro j s ⟨hj, hm⟩ hs
    refine hj.renewed hs rfl fun fields hf => ?_
    cases hf
    exact ⟨balance, rfl, hm⟩
  have hwithin := triple_withDeadline settings.populateTimeout
    (triple_onStore hpopulate) False.elim fun _ he _ => he
  refine hwithin.bind_except ?_ ?_
  · intro _
    exact (triple_count _).bind fun _ => triple_dropEntry user
  · intro _
    exact triple_count _

/-- After a miss the balance of all records is given. -/
theorem triple_balanceFromLedger (user : UserId) (l : Ledger) :
    Triple (fun e => e.store.Sound assumption ∧ e.store.store.ledger = l)
      (balanceFromLedger (backends w) settings user)
      (fun r e => e.store.Sound assumption ∧ r = (l.computeBalance user).1)
      fun e => e.store.Sound assumption := by
  have hcompute : Triple (fun j => j.Sound assumption ∧ j.store.ledger = l)
      ((backends w).computeBalance user)
      (fun r j => (j.Sound assumption ∧ j.store.ledger.records = l.records) ∧
        r = (l.computeBalance user).1)
      fun j => j.Sound assumption := by
    refine triple_computeBalance user (fun _ hj => hj.1) ?_
    rintro j s ⟨hj, rfl⟩ hs
    exact ⟨⟨hj.alike hs, hs.records⟩, rfl⟩
  refine (triple_count _ (P := fun j : Journaled => j.Sound assumption ∧
    j.store.ledger = l)).bind fun _ => ?_
  refine (triple_onStore hcompute).bind_except ?_ ?_
  · intro _
    exact Triple.pure fun e he => ⟨he.1.1, he.2⟩
  · intro m
    refine Triple.of_forall fun e he => ?_
    have hm := Ledger.aggregate_of_computeBalance user l m he.2.symm
    have hstart : e.store.Sound assumption ∧
        Ledger.aggregate user e.store.store.ledger.records = .ok m := by
      rw [he.1.2]
      exact ⟨he.1.1, hm⟩
    refine Triple.conseq (P := fun e => e.store.Sound assumption ∧
      Ledger.aggregate user e.store.store.ledger.records = .ok m) ?_
      (fun e' he' => he' ▸ hstart) (fun _ _ h => h) fun _ h => h
    refine (triple_count _ (P := fun j : Journaled => j.Sound assumption ∧
      Ledger.aggregate user j.store.ledger.records = .ok m)).bind fun _ => ?_
    refine (triple_fillEntry user m).bind fun _ => ?_
    exact Triple.pure fun _ h => ⟨h, he.2⟩

/-- **Reading a balance gives what the store holds, and keeps the store sound.** -/
theorem triple_balanceOf (user : UserId) (s : Store) :
    Triple (fun e => e.store.Sound assumption ∧ e.store.store = s)
      (balanceOf (backends w) settings user)
      (fun r e => e.store.Sound assumption ∧ r = s.served user)
      fun e => e.store.Sound assumption := by
  have hlookup : Triple (fun j => j.Sound assumption ∧ j.store = s) ((backends w).lookup user)
      (fun r j => (j.Sound assumption ∧ j.store.ledger = s.ledger) ∧
        r = (s.cache.lookup user).1)
      fun j => j.Sound assumption := by
    refine triple_lookup user (fun _ hj => hj.1) ?_ ?_
    · rintro j ⟨hj, rfl⟩
      exact ⟨⟨hj, rfl⟩, rfl⟩
    · rintro j s' ⟨hj, rfl⟩ hs hledger
      exact ⟨⟨hj.cleared hs, hledger⟩, rfl⟩
  -- Whatever comes of the look-up but a hit, the ledger is asked.
  have hmiss : ∀ r, (∀ m, r ≠ .ok (.hit m)) →
      Triple (fun e => (e.store.Sound assumption ∧ e.store.store.ledger = s.ledger) ∧
          r = (s.cache.lookup user).1)
        (balanceFromLedger (backends w) settings user)
        (fun r e => e.store.Sound assumption ∧ r = s.served user)
        fun e => e.store.Sound assumption := by
    intro r hr
    refine Triple.of_forall fun e he => ?_
    have hserved : s.served user = (s.ledger.computeBalance user).1 := by
      unfold Store.served
      rw [← he.2]
      split
      · exact absurd rfl (hr _)
      · rfl
    rw [hserved]
    exact (triple_balanceFromLedger user s.ledger).conseq (fun e' he' => he' ▸ he.1)
      (fun _ _ h => h) fun _ h => h
  refine (triple_onStore hlookup).bind_except ?_ ?_
  · intro e
    exact hmiss (.error e) fun m => by simp
  · rintro (m | _)
    · refine (triple_count _ (P := fun j : Journaled => (j.Sound assumption ∧
        j.store.ledger = s.ledger) ∧ .ok (.hit m) = (s.cache.lookup user).1)).bind fun _ => ?_
      refine Triple.pure fun e he => ⟨he.1.1, ?_⟩
      unfold Store.served
      rw [← he.2]
    · exact hmiss (.ok .notCached) fun m => by simp

/-- Reading the lines of a balance gives the lines of what the store holds. -/
theorem triple_balanceLinesOf (user : UserId) (s : Store) :
    Triple (fun e => e.store.Sound assumption ∧ e.store.store = s)
      (balanceLinesOf (backends w) settings user)
      (fun r e => e.store.Sound assumption ∧ r = (s.served user).map Balance.lines)
      fun e => e.store.Sound assumption := by
  refine (triple_balanceOf user s).bind_except ?_ ?_
  · intro e
    refine Triple.pure fun _ he => ⟨he.1, ?_⟩
    rw [← he.2]
    rfl
  · intro m
    refine Triple.pure fun _ he => ⟨he.1, ?_⟩
    rw [← he.2]
    rfl

/-! ## Bringing entries up to date -/

section Updates

variable (hclear : assumption → w.clear ≤ settings.cacheUpdateTimeout)
include hclear

/-- Dropping the entry of a user does the work that is pending for this user. -/
theorem triple_dropEntry_pending (c : UserId × List (UserId × Int))
    (work : List (UserId × List (UserId × Int))) :
    Triple (fun e => e.store.Pending assumption (c :: work))
      (dropEntry (backends w) settings c.1)
      (fun _ e => e.store.Pending assumption work) fun e => e.store.Pending False work := by
  have hcleared : Triple (Pending assumption (c :: work)) ((backends w).clear c.1)
      (fun _ => Pending assumption work) (Pending assumption (c :: work)) := by
    refine triple_clear c.1 (fun _ hj => hj) ?_ ?_
    · intro j e hj hfailing
      -- The cache fails, so the assumption does not hold.
      refine hj.give_up fun ha => ?_
      obtain ⟨before, batch, cache, after, hj⟩ := hj
      rw [hj.available ha] at hfailing
      contradiction
    · rintro j s ⟨before, batch, cache, after, hj⟩ hs
      exact ⟨before, batch, cache, _, hj.cleared hs⟩
  have hprompt : assumption → ∃ duration ≤ settings.cacheUpdateTimeout,
      Prompt duration (onStore ((backends w).clear c.1)) := by
    intro ha
    refine ⟨w.clear, hclear ha, Prompt.focus ?_ _ _⟩
    exact prompt_noting (Store.prompt_after _ _)
  have hwithin := triple_withDeadline settings.cacheUpdateTimeout (triple_onStore hcleared)
    hprompt fun _ he hnot => he.give_up hnot
  refine (hwithin.mono_dropped fun _ h => h.dropped).bind fun _ => ?_
  exact Triple.pure fun _ h => h

omit hclear in
/-- Adding the deltas to the entry of a user does the pending work, unless it fails. -/
theorem triple_tryUpdate (c : UserId × List (UserId × Int))
    (work : List (UserId × List (UserId × Int))) :
    Triple (Pending assumption (c :: work)) (tryUpdate (backends w) c.1 c.2)
      (fun r j => j.Pending assumption (if r.isOk then work else c :: work))
      (Pending assumption (c :: work)) := by
  have hasked : Triple (Pending assumption (c :: work)) ((backends w).hasEntry c.1)
      (fun r j => j.Pending assumption (if r = .ok false then work else c :: work))
      (Pending assumption (c :: work)) := by
    refine triple_hasEntry c.1 (fun _ hj => hj) ?_ ?_
    · intro j e hj
      rw [if_neg (by simp)]
      exact hj
    · intro j hj
      cases hentry : j.store.cache.entryOf c.1 with
      | some fields => exact hj
      | none =>
        obtain ⟨before, batch, cache, after, hj⟩ := hj
        exact ⟨before, batch, cache, after, hj.skipped hentry⟩
  -- Between the question and the update the entry may be gone, and the update is skipped as well.
  refine hasked.bind_except ?_ ?_
  · intro e
    exact Triple.pure fun j hj => hj
  · rintro (_ | _)
    · exact Triple.pure fun j hj => hj
    · refine triple_applyDeltas c.1 c.2 (fun _ hj => hj) ?_ ?_ ?_
      · rintro j s e ⟨before, batch, cache, after, hj⟩ hs
        exact ⟨before, batch, cache, after, hj.alike hs⟩
      · rintro j ⟨before, batch, cache, after, hj⟩ hnone
        exact ⟨before, batch, cache, after, hj.skipped hnone⟩
      · rintro j s fields next ⟨before, batch, cache, after, hj⟩ hentry hadd hs
        exact ⟨before, batch, cache, _, hj.updated hentry hadd hs⟩

/-- **Bringing an entry up to date does the work that is pending for its user.** -/
theorem triple_updateEntry (c : UserId × List (UserId × Int))
    (work : List (UserId × List (UserId × Int))) :
    Triple (fun e => e.store.Pending assumption (c :: work))
      (updateEntry (backends w) settings c.1 c.2)
      (fun _ e => e.store.Pending assumption work) fun e => e.store.Pending False work := by
  have hwithin := triple_withDeadline settings.cacheUpdateTimeout
    (triple_onStore (@triple_tryUpdate w assumption c work)) False.elim fun _ he _ => he
  refine (hwithin.mono_dropped fun _ h => h.dropped).bind_except ?_ ?_
  · intro e
    refine (triple_count _ (P := Pending assumption (c :: work))).bind fun _ => ?_
    exact triple_dropEntry_pending hclear c work
  · rintro (_ | _)
    · exact triple_count _ (P := Pending assumption work)
    · exact triple_count _ (P := Pending assumption work)

/-- Bringing all entries up to date leaves no work pending. -/
theorem triple_updateEntries (lender : UserId) (amount : Int) (debtors : List UserId) :
    Triple (fun e => e.store.Pending assumption (changes lender amount debtors))
      (updateEntries (backends w) settings lender amount debtors)
      (fun _ e => e.store.Pending assumption []) fun e => e.store.Pending False [] :=
  -- Once a task has been dropped, the others keep the store coherent and nothing more.
  Triple.all (A := fun cs (e : Engine Journaled) => e.store.Pending assumption cs)
    (B := fun cs (e : Engine Journaled) => e.store.Pending False cs)
    (fun c cs => triple_updateEntry hclear c cs)
    (fun c cs => triple_updateEntry False.elim c cs) (changes lender amount debtors)

/-! ## Recording loans -/

/-- **Recording loans keeps the store sound, and coherent even if it is dropped.** -/
theorem triple_addLoans (lender : UserId) (amount : Int) (debtors : List UserId) :
    Triple (fun e => e.store.Sound assumption)
      (addLoans (backends w) settings lender amount debtors)
      (fun _ e => e.store.Sound assumption) fun e => e.store.Sound False := by
  unfold addLoans
  cases hcheck : checkBatch lender amount debtors with
  | error e => exact Triple.pure fun _ he => he
  | ok _ =>
    have hsound : ∀ (other : Prop) (j : Journaled), j.Pending other [] → j.Sound other := by
      rintro other j ⟨before, batch, cache, after, hj⟩
      exact hj.sound
    -- From the recording on there is work pending. Up to then nothing has happened.
    have happend : Triple (Sound assumption) ((backends w).append (loansTo lender amount debtors))
        (fun r j => if r.isOk then j.Pending assumption (changes lender amount debtors)
          else j.Sound assumption) (Sound False) := by
      refine triple_append _ (fun _ hj => hj.mono False.elim) ?_ ?_
      · intro j s e hj hs
        exact hj.alike hs
      · intro j s first now hj hcache hrecords
        have hdue := due_changes lender amount debtors hcheck first now
        have hothers := not_concerns_of_not_mem_changes lender amount debtors first now
        exact ⟨_, _, _, _, PendingSince.of_commit hj hrecords hcache hdue hothers⟩
    refine (triple_onStore happend).bind_except ?_ ?_
    · intro e
      exact Triple.pure fun _ he => he
    · intro records
      refine ((triple_updateEntries hclear lender amount debtors).conseq (fun _ he => he)
        (fun _ e he => hsound _ e.store he) fun e he => hsound _ e.store he).bind fun _ => ?_
      exact Triple.pure fun _ he => he

end Updates

/-! ## Groups -/

/-- The operations of the directory keep what depends on records and entries alone. -/
theorem directoryKeeps {P : Journaled → Prop}
    (hP : ∀ j s, P j → j.store.Alike s → P ⟨s, j.history⟩) : (backends w).DirectoryKeeps P where
  createGroup _ _ :=
    triple_directory (Store.atomic_act _) (fun _ => Store.alike_of_eq rfl rfl) hP
  findGroup _ := triple_directory (Store.atomic_after _ _) (fun _ => Store.alike_of_eq rfl rfl) hP
  deleteGroup _ := triple_directory (Store.atomic_act _) (fun _ => Store.alike_of_eq rfl rfl) hP
  addMembers _ _ :=
    triple_directory (Store.atomic_act _) (fun _ => Store.alike_of_eq rfl rfl) hP
  removeMember _ _ :=
    triple_directory (Store.atomic_act _) (fun _ => Store.alike_of_eq rfl rfl) hP
  members _ := triple_directory (Store.atomic_act _) (fun _ => Store.alike_of_eq rfl rfl) hP
  groupsOf _ := triple_directory (Store.atomic_act _) (fun _ => Store.alike_of_eq rfl rfl) hP

/-- The operations of the directory keep a store sound. -/
theorem directoryKeeps_sound : (backends w).DirectoryKeeps (Sound assumption) :=
  directoryKeeps fun _ _ h hs => h.alike hs

/-! ## Expenses -/

/-- **Sharing an expense keeps the store sound, and coherent even if it is dropped.** -/
theorem triple_shareExpense (hclear : assumption → w.clear ≤ settings.cacheUpdateTimeout)
    (payer : UserId) (total : Int) (group : GroupId) :
    Triple (fun e => e.store.Sound assumption)
      (shareExpense (backends w) settings payer total group)
      (fun _ e => e.store.Sound assumption) fun e => e.store.Sound False := by
  unfold shareExpense
  cases checkExpense total with
  | error e => exact .pure fun _ h => h
  | ok _ =>
    have hresolve := triple_onStore
      (triple_resolveMembers (@directoryKeeps_sound w assumption) group)
    refine (hresolve.mono_dropped fun _ h => h.mono False.elim).bind_except
      (fun _ => .pure fun _ h => h) fun members => ?_
    dsimp only
    cases split payer total members with
    | error e => exact .pure fun _ h => h
    | ok parts =>
      have hadd := triple_addLoans hclear payer parts.2 parts.1
      exact hadd.bind_except (fun _ => .pure fun _ h => h) fun _ => .pure fun _ h => h

end Engine

end ExpenseLedger
