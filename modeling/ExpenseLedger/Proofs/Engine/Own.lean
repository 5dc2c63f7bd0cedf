import ExpenseLedger.Proofs.Engine.Acceptance
import ExpenseLedger.Proofs.Engine.Akin
import ExpenseLedger.Proofs.Ledger.Nets
import ExpenseLedger.Store
/-!
# Errors of the service's own

Backends in memory give no errors in the words of others, and tell no amounts as long as the loans
are valid. So what the engine gives on such backends is akin to itself with errors of that kind
only. The number of members that an error of a shared expense tells is that of the users who share
it. Main statements: `Store.akin_backends` and `Store.exists_sharers_of_share`.
-/

open ExpenseLedger.Task

namespace ExpenseLedger

variable {α : Type} {amounts : Int → Prop}

/-- Both errors are the same, and one of the service's own. -/
def Error.SameOwn (amounts : Int → Prop) (e e' : Error) : Prop := e = e' ∧ e.IsOwn amounts

/-- A result with such errors only is akin to itself. -/
theorem resultAkin_self {r : Except Error α} (h : FindsOwn amounts r) :
    ResultAkin (Error.SameOwn amounts) r r := by
  cases r with
  | ok a => exact .ok a
  | error e => exact .error ⟨rfl, h e rfl⟩

/-! ## The ledger and the directory -/

/-- Recording valid loans. -/
theorem Ledger.findsOwn_append {loans : List Loan} (hvalid : ∀ l ∈ loans, l.Valid) (first : Nat)
    (now : Timestamp) (l : Ledger) : FindsOwn amounts (l.append loans first now).1 := by
  unfold append
  split
  · exact .error trivial
  · rw [(Loan.checkAll_eq_ok_iff loans).2 hvalid]
    exact .ok _

/-- Computing a balance. -/
theorem Ledger.findsOwn_computeBalance (user : UserId) (l : Ledger) :
    FindsOwn amounts (l.computeBalance user).1 := by
  unfold computeBalance
  split
  · exact .error trivial
  · intro e h
    obtain ⟨other, rfl⟩ := exists_overflow_of_addRecords user Table.empty l.records e h
    trivial

/-- Asking the directory. -/
theorem Directory.findsOwn_query (d : Directory) (read : Directory → α) :
    FindsOwn amounts (d.query fun d => .ok (read d)) := by
  unfold query
  split
  · exact .error trivial
  · exact .ok _

/-- Finding a group. -/
theorem Directory.findsOwn_find (id : GroupId) (d : Directory) :
    FindsOwn amounts (d.find id) := findsOwn_query d _

/-- Listing members. -/
theorem Directory.findsOwn_members (id : GroupId) (d : Directory) :
    FindsOwn amounts (d.members id) := findsOwn_query d _

/-- Listing groups. -/
theorem Directory.findsOwn_groupsOf (user : UserId) (d : Directory) :
    FindsOwn amounts (d.groupsOf user) := findsOwn_query d _

/-- Creating a group. -/
theorem Directory.findsOwn_create (group : Group) (d : Directory) :
    FindsOwn amounts (d.create group).1 := by
  unfold create
  split
  · exact .error trivial
  · exact .ok group

/-- Deleting a group. -/
theorem Directory.findsOwn_delete (id : GroupId) (d : Directory) :
    FindsOwn amounts (d.delete id).1 := by
  unfold delete
  split
  · exact .error trivial
  · exact .ok _

/-- Adding members. -/
theorem Directory.findsOwn_addMembers (id : GroupId) (users : List UserId) (d : Directory) :
    FindsOwn amounts (d.addMembers id users).1 := by
  unfold addMembers
  split
  · exact .error trivial
  · split
    · exact .error trivial
    · exact .ok ()

/-- Taking a member out. -/
theorem Directory.findsOwn_removeMember (id : GroupId) (user : UserId) (d : Directory) :
    FindsOwn amounts (d.removeMember id user).1 := by
  unfold removeMember
  split
  · exact .error trivial
  · split
    · exact .ok false
    · exact .ok _

/-! ## The cache -/

namespace Cache

/-- Asking for an entry. -/
theorem findsOwn_hasEntry (user : UserId) (c : Cache) :
    FindsOwn amounts (c.hasEntry user).1 := by
  unfold hasEntry
  split
  · exact .error trivial
  · exact .ok _

/-- Reading an entry. -/
theorem findsOwn_lookup (user : UserId) (c : Cache) :
    FindsOwn amounts (c.lookup user).1 := by
  unfold lookup lookupIn
  split
  · exact .error trivial
  · split
    · split
      · exact .ok _
      · exact .ok _
    · exact .ok _

/-- Filling an entry. -/
theorem findsOwn_populate (user : UserId) (balance : Balance) (c : Cache) :
    FindsOwn amounts (c.populate user balance).1 := by
  unfold populate
  split
  · exact .error trivial
  · exact .ok ()

/-- Dropping an entry. -/
theorem findsOwn_clear (user : UserId) (c : Cache) :
    FindsOwn amounts (c.clear user).1 := by
  unfold clear
  split
  · exact .error trivial
  · exact .ok ()

/-- Adding to a field. -/
theorem findsOwn_addDelta (fields : Fields) (delta : UserId × Int) :
    FindsOwn amounts (addDelta fields delta) := by
  unfold addDelta
  dsimp only
  split
  · rename_i hcurrent
    -- The field holds no integer.
    split at hcurrent
    · contradiction
    · split at hcurrent
      · cases hcurrent
        exact .error trivial
      · contradiction
  · split
    · exact .error trivial
    · exact .ok _

/-- Adding to several fields. -/
theorem findsOwn_addDeltas (fields : Fields) (deltas : List (UserId × Int)) :
    FindsOwn amounts (addDeltas fields deltas) := by
  induction deltas generalizing fields with
  | nil => exact .ok fields
  | cons delta rest ih =>
    unfold addDeltas
    cases h : addDelta fields delta with
    | error e => exact .error (findsOwn_addDelta fields delta e h)
    | ok fields' => exact ih fields'

/-- Updating an entry. -/
theorem findsOwn_applyDeltas (user : UserId) (deltas : List (UserId × Int)) (c : Cache) :
    FindsOwn amounts (c.applyDeltas user deltas).1 := by
  unfold applyDeltas
  split
  · exact .error trivial
  · split
    · exact .error trivial
    · split
      · dsimp only
        cases h : addDeltas ((c.fields? user).getD Table.empty) deltas with
        | error e => exact .error (findsOwn_addDeltas _ deltas e h)
        | ok fields => exact .ok _
      · exact .ok _

end Cache

/-! ## The store -/

namespace Store

/-- Acting on a store. -/
theorem akin_act {f : Store → Except Error α × Store}
    (h : ∀ s, FindsOwn amounts (f s).1) :
    Akin Eq (ResultAkin (Error.SameOwn amounts)) (Task.act f) (Task.act f) := by
  refine .act ?_
  rintro s s' rfl
  exact ⟨resultAkin_self (h s), rfl⟩

/-- Acting on a store after a wait. -/
theorem akin_after (duration : Nat) {f : Store → Except Error α × Store}
    (h : ∀ s, FindsOwn amounts (f s).1) :
    Akin Eq (ResultAkin (Error.SameOwn amounts)) (after duration f) (after duration f) :=
  (Akin.wait Eq duration).bind fun _ _ _ => akin_act h

/-- **The errors of a store are the service's own.** -/
theorem akin_backends (w : Waits) : (backends w).Akin Eq (Error.SameOwn amounts) (backends w) where
  append _ hvalid := akin_after _ fun s => s.ledger.findsOwn_append hvalid _ _
  computeBalance user := akin_after _ fun s => s.ledger.findsOwn_computeBalance user
  hasEntry user := akin_after _ fun s => s.cache.findsOwn_hasEntry user
  lookup user := akin_after _ fun s => s.cache.findsOwn_lookup user
  populate user balance := akin_after _ fun s => s.cache.findsOwn_populate user balance
  applyDeltas user deltas := akin_after _ fun s => s.cache.findsOwn_applyDeltas user deltas
  clear user := akin_after _ fun s => s.cache.findsOwn_clear user
  createGroup _ _ := akin_act fun s => s.directory.findsOwn_create _
  findGroup group := akin_after _ fun s => s.directory.findsOwn_find group
  deleteGroup group := akin_act fun s => s.directory.findsOwn_delete group
  addMembers group users := akin_act fun s => s.directory.findsOwn_addMembers group users
  removeMember group user := akin_act fun s => s.directory.findsOwn_removeMember group user
  members group := akin_act fun s => s.directory.findsOwn_members group
  groupsOf user := akin_act fun s => s.directory.findsOwn_groupsOf user

end Store

/-- The same holds when somebody else is always the first to delete a group. -/
theorem Backends.Akin.outrun {σ τ : Type} {R : τ → σ → Prop} {E : Error → Error → Prop}
    {b : Backends τ} {c : Backends σ} (h : b.Akin R E c) : b.outrun.Akin R E c.outrun :=
  { h with deleteGroup := fun _ => .pure (.ok false) }

/-! ## Numbers of members -/

/-- No group has more users than a machine word counts. -/
def Directory.Countable (d : Directory) : Prop :=
  ∀ group users, d.sharers group = .ok users → users.length < 2 ^ 64

/-- Finding all who share. -/
theorem Directory.findsOwn_sharers (group : GroupId) (d : Directory) :
    FindsOwn amounts (d.sharers group) := by
  unfold sharers require
  rcases hfound : d.find group with e | _ | found
  · exact .error (d.findsOwn_find group e hfound)
  · exact .error trivial
  · cases hlist : d.members group with
    | error e => exact .error (d.findsOwn_members group e hlist)
    | ok members => exact .ok _

/-- The number of members that the terms of an expense tell is that of the users who share. -/
theorem Directory.exists_sharers_of_terms {payer : UserId} {total told : Int} {group : GroupId}
    {n : Nat} {d : Directory} (h : d.terms payer total group = .error (.shareVanishes told n)) :
    ∃ users, d.sharers group = .ok users ∧ users.length = n := by
  unfold terms at h
  cases hamount : Engine.checkExpense total with
  | error e =>
    rw [hamount] at h
    cases h
    unfold Engine.checkExpense at hamount
    split at hamount
    · cases hamount
    · split at hamount <;> cases hamount
  | ok _ =>
    rw [hamount] at h
    dsimp only at h
    cases husers : d.sharers group with
    | error e =>
      rw [husers] at h
      cases h
      have hnone : FindsOwn (fun _ => False) (d.sharers group) := d.findsOwn_sharers group
      exact (hnone _ husers).elim
    | ok users =>
      rw [husers] at h
      refine ⟨users, rfl, ?_⟩
      unfold Engine.split at h
      dsimp only at h
      split at h
      · cases h
      · split at h
        · cases h
        · split at h
          · cases h
            rfl
          · cases h

/-- **The number of members that a shared expense tells is that of the users who share it.** -/
theorem Store.exists_sharers_of_share {payer : UserId} {total told : Int} {group : GroupId}
    {n : Nat} {s : Store} (h : (s.share payer total group).1 = .error (.shareVanishes told n)) :
    ∃ users, s.directory.sharers group = .ok users ∧ users.length = n := by
  unfold share at h
  cases hterms : s.directory.terms payer total group with
  | error e =>
    rw [hterms] at h
    cases h
    exact Directory.exists_sharers_of_terms hterms
  | ok terms =>
    obtain ⟨debtors, amount⟩ := terms
    rw [hterms] at h
    -- The loans that the terms come down to are valid, so recording them tells no amount.
    have hcheck := Directory.checkBatch_of_terms hterms
    obtain ⟨-, -, hvalid⟩ := (Engine.checkBatch_eq_ok_iff payer amount debtors).1 hcheck
    have hlend : FindsOwn (fun _ => False) (s.lend payer amount debtors).1 := by
      unfold lend
      rw [hcheck]
      exact s.ledger.findsOwn_append hvalid _ _
    cases hloans : (s.lend payer amount debtors).1 with
    | error e =>
      dsimp only at h
      rw [hloans] at h
      cases h
      exact (hlend _ hloans).elim
    | ok loans =>
      dsimp only at h
      rw [hloans] at h
      contradiction

end ExpenseLedger
