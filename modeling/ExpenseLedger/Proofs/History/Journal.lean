import ExpenseLedger.Proofs.Engine.Mirror
import ExpenseLedger.Proofs.History.Events
import ExpenseLedger.Store
/-!
# A store that keeps its history

Beside a store its history is kept, and each operation notes what it has done. Nothing reads the
history, so forgetting it gives back the store and its operations (`Journaled.backends_mirrors`). An
operation of the store happens at one instant or not at all, and `Journaled.triple_noting` says what
this means for the store and its history.
-/

namespace ExpenseLedger

open ExpenseLedger.Task

variable {α : Type}

namespace Store

/-! ## Operations at one instant -/

/-- The task applies the function at one instant, or is dropped before that. -/
def Atomic (f : Store → α × Store) (t : Task Store α) : Prop :=
  ∀ s, Triple (fun s' => s' = s) t (fun a s' => (a, s') = f s) fun s' => s' = s

/-- Acting at once. -/
theorem atomic_act (f : Store → α × Store) : Atomic f (Task.act f) := by
  intro s
  refine Triple.act ?_
  rintro s' rfl
  rfl

/-- Waiting first. -/
theorem atomic_after (duration : Nat) (f : Store → α × Store) :
    Atomic f (after duration f) := by
  intro s
  exact (Triple.wait duration).bind fun _ => atomic_act f s

/-- What waits for a time and then acts ends in that time. -/
theorem prompt_after (duration : Nat) (f : Store → α × Store) :
    Prompt duration (after duration f) :=
  Prompt.wait_act duration f

end Store

/-- A store and its history. -/
structure Journaled where
  /-- The store. -/
  store : Store
  /-- What has happened to its ledger and its cache. -/
  history : List Event
deriving DecidableEq

namespace Journaled

/-- The empty store, to which nothing has happened. -/
def start (supply : Supply) : Journaled := ⟨Store.empty supply, []⟩

/-! ## Operations -/

/-- What is noted of a result. Failures are not noted. -/
def noted (note : Store → α → List Event) (s : Store) : Except Error α → List Event
  | .ok a => note s a
  | .error _ => []

/-- Runs a task of the store and notes its success, in view of the store before it. -/
def noting (note : Store → α → List Event) (t : Task Store (Except Error α)) :
    Task Journaled (Except Error α) := fun budget j =>
  let r := t budget j.store
  match r.outcome with
  | .done a spent => ⟨⟨r.state, j.history ++ noted note j.store a⟩, .done a spent⟩
  | .dropped => ⟨⟨r.state, j.history⟩, .dropped⟩

/-- Runs a task of the store of which nothing is noted. -/
def silently (t : Task Store (Except Error α)) : Task Journaled (Except Error α) :=
  noting (fun _ _ => []) t

/-- The operations of the store, which note what they do to the ledger and the cache. -/
def backends (w : Store.Waits) : Backends Journaled where
  append loans :=
    noting (fun s batch => [.committed batch s.cache]) ((Store.backends w).append loans)
  computeBalance user := silently ((Store.backends w).computeBalance user)
  hasEntry user := silently ((Store.backends w).hasEntry user)
  lookup user :=
    noting
      (fun s found => if found = .notCached ∧ s.cache.isMarked user then [.cleared user] else [])
      ((Store.backends w).lookup user)
  populate user balance :=
    noting (fun _ _ => [.filled user]) ((Store.backends w).populate user balance)
  applyDeltas user deltas :=
    noting (fun _ done => if done = .applied then [.updated user deltas] else [])
      ((Store.backends w).applyDeltas user deltas)
  clear user := noting (fun _ _ => [.cleared user]) ((Store.backends w).clear user)
  createGroup name owner := silently ((Store.backends w).createGroup name owner)
  findGroup group := silently ((Store.backends w).findGroup group)
  deleteGroup group := silently ((Store.backends w).deleteGroup group)
  addMembers group users := silently ((Store.backends w).addMembers group users)
  removeMember group user := silently ((Store.backends w).removeMember group user)
  members group := silently ((Store.backends w).members group)
  groupsOf user := silently ((Store.backends w).groupsOf user)

/-! ## Forgetting the history -/

/-- Noting has no influence on what is done. -/
theorem mirrors_noting (note : Store → α → List Event) (t : Task Store (Except Error α)) :
    Mirrors store (noting note t) t := by
  intro budget j
  unfold noting Ran.map
  rcases t budget j.store with ⟨s, _ | _⟩ <;> rfl

/-- **Forgetting the history gives back the operations of the store.** -/
theorem backends_mirrors (w : Store.Waits) :
    (backends w).Mirrors store (Store.backends w) where
  append _ := mirrors_noting _ _
  computeBalance _ := mirrors_noting _ _
  hasEntry _ := mirrors_noting _ _
  lookup _ := mirrors_noting _ _
  populate _ _ := mirrors_noting _ _
  applyDeltas _ _ := mirrors_noting _ _
  clear _ := mirrors_noting _ _
  createGroup _ _ := mirrors_noting _ _
  findGroup _ := mirrors_noting _ _
  deleteGroup _ := mirrors_noting _ _
  addMembers _ _ := mirrors_noting _ _
  removeMember _ _ := mirrors_noting _ _
  members _ := mirrors_noting _ _
  groupsOf _ := mirrors_noting _ _

/-! ## What operations leave -/

/-- **An operation happens at one instant and is noted, or nothing happens.** -/
theorem triple_noting {note : Store → α → List Event} {t : Task Store (Except Error α)}
    {f : Store → Except Error α × Store} {P R : Journaled → Prop}
    {Q : Except Error α → Journaled → Prop} (ht : Store.Atomic f t) (hR : ∀ j, P j → R j)
    (h : ∀ j, P j →
      Q (f j.store).1 ⟨(f j.store).2, j.history ++ noted note j.store (f j.store).1⟩) :
    Triple P (noting note t) Q R := by
  intro budget j hj
  have hl := ht j.store budget j.store rfl
  have hq := h j hj
  unfold noting
  cases hr : t budget j.store with
  | mk s outcome =>
    rw [hr] at hl
    cases outcome with
    | done a spent =>
      have hf : (a, s) = f j.store := hl.done a spent rfl
      rw [← hf] at hq
      exact Leaves.of_done hq
    | dropped =>
      obtain ⟨hb, hs⟩ := hl.dropped rfl
      have hsame : s = j.store := hs
      subst hsame
      exact Leaves.of_dropped hb (hR j hj)

/-- An operation of which nothing is noted. -/
theorem triple_silently {t : Task Store (Except Error α)} {f : Store → Except Error α × Store}
    {P R : Journaled → Prop} {Q : Except Error α → Journaled → Prop} (ht : Store.Atomic f t)
    (hR : ∀ j, P j → R j) (h : ∀ j, P j → Q (f j.store).1 ⟨(f j.store).2, j.history⟩) :
    Triple P (silently t) Q R := by
  refine triple_noting ht hR fun j hj => ?_
  have hnone : noted (fun _ _ => []) j.store (f j.store).1 = [] := by
    cases (f j.store).1 <;> rfl
  rw [hnone, List.append_nil]
  exact h j hj

/-- Noting takes no time. -/
theorem prompt_noting {note : Store → α → List Event} {t : Task Store (Except Error α)}
    {duration : Nat} (h : Prompt duration t) : Prompt duration (noting note t) := by
  intro budget j hfit
  obtain ⟨a, spent, hdone, hle⟩ := h budget j.store hfit
  refine ⟨a, spent, ?_, hle⟩
  unfold noting
  simp only [hdone]

end Journaled

end ExpenseLedger
