import ExpenseLedger.Proofs.Engine.Duration
/-!
# Engines that never wait

Where no operation of the backends takes time, no operation of the engine does, whatever its
deadlines are: a deadline only cuts off what waits. Main statements:

* `Engine.instant_addMembers`: the adding of members;
* `Engine.instant_shareExpense`: the sharing of expenses.
-/

open ExpenseLedger.Task

namespace ExpenseLedger

variable {α σ : Type}

/-! ## Backends -/

/-- The operations of the backends that writing rests on take no time. -/
structure Backends.Instant (b : Backends σ) : Prop where
  /-- Recording. -/
  append : ∀ loans, EndsWithin 0 (b.append loans)
  /-- Asking for an entry. -/
  hasEntry : ∀ user, EndsWithin 0 (b.hasEntry user)
  /-- Updating an entry. -/
  applyDeltas : ∀ user deltas, EndsWithin 0 (b.applyDeltas user deltas)
  /-- Dropping an entry. -/
  clear : ∀ user, EndsWithin 0 (b.clear user)
  /-- Creating a group. -/
  createGroup : ∀ name owner, EndsWithin 0 (b.createGroup name owner)
  /-- Finding a group. -/
  findGroup : ∀ group, EndsWithin 0 (b.findGroup group)
  /-- Adding members. -/
  addMembers : ∀ group users, EndsWithin 0 (b.addMembers group users)
  /-- Listing members. -/
  members : ∀ group, EndsWithin 0 (b.members group)

namespace Store

/-- Acting without a wait before it takes no time. -/
theorem instant_after (f : Store → α × Store) : EndsWithin 0 (after 0 f) := by
  have h := endsWithin_after 0 f
  rw [Nat.cast_zero] at h
  exact h

/-- The operations of a store that never waits take no time. -/
theorem instant_backends : (backends Waits.none).Instant where
  append _ := instant_after _
  hasEntry _ := instant_after _
  applyDeltas _ _ := instant_after _
  clear _ := instant_after _
  createGroup _ _ := EndsWithin.act _
  findGroup _ := instant_after _
  addMembers _ _ := EndsWithin.act _
  members _ := EndsWithin.act _

end Store

namespace Engine

section Instant

variable {b : Backends σ} (hb : b.Instant)
include hb

/-! ## Cache work -/

/-- Bringing an entry up to date. -/
theorem instant_updateEntry (settings : EngineSettings) (user : UserId)
    (deltas : List (UserId × Int)) : EndsWithin 0 (updateEntry b settings user deltas) := by
  have htry := endsWithin_tryUpdate user deltas (hb.hasEntry user) (hb.applyDeltas user deltas)
  have hdrop : EndsWithin 0 (dropEntry b settings user) :=
    (endsWithin_withDeadline_le (endsWithin_onStore (hb.clear user)) _).bind_instant
      fun _ => .pure ()
  have h := endsWithin_updateEntry_of_dropEntry settings user deltas
    (endsWithin_withDeadline_le (endsWithin_onStore htry) settings.cacheUpdateTimeout) hdrop
  rw [add_zero, add_zero] at h
  exact h

/-! ## Expenses -/

/-- Recording loans. -/
theorem instant_addLoans (settings : EngineSettings) (lender : UserId) (amount : Int)
    (debtors : List UserId) : EndsWithin 0 (addLoans b settings lender amount debtors) := by
  have h := endsWithin_addLoans_of_updateEntry settings hb.append
    (instant_updateEntry hb settings) lender amount debtors
  rw [add_zero] at h
  exact h

/-- Sharing an expense. -/
theorem instant_shareExpense (settings : EngineSettings) (payer : UserId) (total : Int)
    (group : GroupId) : EndsWithin 0 (shareExpense b settings payer total group) := by
  have h := endsWithin_shareExpense_of_addLoans settings group (hb.findGroup group)
    (hb.members group) (instant_addLoans hb settings) payer total
  rw [add_zero, add_zero] at h
  exact h

/-! ## Groups -/

/-- Adding members. -/
theorem instant_addMembers (actor : UserId) (group : GroupId) (users : List UserId) :
    EndsWithin 0 (addMembers b actor group users) := by
  have h := endsWithin_addMembers actor group users (hb.findGroup group)
    (hb.addMembers group users)
  rw [add_zero] at h
  exact h

end Instant

end Engine

end ExpenseLedger
