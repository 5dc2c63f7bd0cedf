import ExpenseLedger.Engine.Expenses
import ExpenseLedger.Proofs.Task.Akin
/-!
# The engine on backends that are akin

The engine uses its backends through their operations alone, and of an error it looks at nothing
but that there is one. So if the operations of two sets of backends are akin, where their errors may
differ, every operation of the engine on the one is akin to the same operation on the other. The
relation of the errors is a parameter. It must hold between each error that the engine raises by
itself and that same error. Which amounts such errors tell is a parameter, too.
-/

open ExpenseLedger.Task

namespace ExpenseLedger

variable {σ τ α : Type}

/-! ## Errors -/

/-- The cause is one of the service's own: it is not reported in the words of another system, the
amount that it tells is one of some amounts, and the limits of names that it tells are the
service's. -/
def Error.IsOwn (amounts : Int → Prop) : Error → Prop
  | loanNotPositive a | loanTooLarge a | expenseNotPositive a | expenseTooLarge a
  | shareVanishes a _ => amounts a
  | groupNameLength least most =>
    least = Engine.leastNameLength ∧ most = Engine.greatestNameLength
  | reported _ _ => False
  | _ => True

/-- More amounts may be told. -/
theorem Error.IsOwn.mono {amounts amounts' : Int → Prop} {e : Error} (h : e.IsOwn amounts)
    (hmono : ∀ a, amounts a → amounts' a) : e.IsOwn amounts' := by
  cases e with
  | loanNotPositive a => exact hmono a h
  | loanTooLarge a => exact hmono a h
  | expenseNotPositive a => exact hmono a h
  | expenseTooLarge a => exact hmono a h
  | shareVanishes a n => exact hmono a h
  | _ => exact h

/-- All errors that a check finds are the service's own. -/
def FindsOwn (amounts : Int → Prop) (r : Except Error α) : Prop :=
  ∀ e, r = .error e → e.IsOwn amounts

section

variable {amounts : Int → Prop}

/-- What passes a check is no error. -/
theorem FindsOwn.ok (a : α) : FindsOwn amounts (.ok a) := by
  intro e h
  contradiction

/-- An error of the service's own. -/
theorem FindsOwn.error {e : Error} (h : e.IsOwn amounts) :
    FindsOwn amounts (.error e : Except Error α) := by
  rintro e' ⟨⟩
  exact h

/-- The check of a loan. -/
theorem Loan.findsOwn_check (l : Loan) (h : amounts l.amount) : FindsOwn amounts l.check := by
  unfold check
  split
  · exact .error h
  · split
    · exact .error h
    · split
      · exact .error trivial
      · exact .ok ()

/-- The check of several loans. -/
theorem Loan.findsOwn_checkAll (ls : List Loan) (h : ∀ l ∈ ls, amounts l.amount) :
    FindsOwn amounts (checkAll ls) := by
  induction ls with
  | nil => exact .ok ()
  | cons l ls ih =>
    unfold checkAll
    cases hcheck : l.check with
    | error e => exact .error (l.findsOwn_check (h l List.mem_cons_self) e hcheck)
    | ok _ => exact ih fun l' hl' => h l' (List.mem_cons_of_mem l hl')

namespace Engine

/-- The check of a batch. -/
theorem findsOwn_checkBatch (lender : UserId) {amount : Int} (h : amounts amount)
    (debtors : List UserId) : FindsOwn amounts (checkBatch lender amount debtors) := by
  unfold checkBatch
  split
  · exact .error trivial
  · split
    · refine Loan.findsOwn_checkAll _ fun l hl => ?_
      obtain ⟨debtor, -, rfl⟩ := List.mem_map.1 hl
      exact h
    · exact .error trivial

/-- A batch passes the check if there are debtors, no debtor occurs twice and all loans are valid.
-/
theorem checkBatch_eq_ok_iff (lender : UserId) (amount : Int) (debtors : List UserId) :
    checkBatch lender amount debtors = .ok () ↔
      debtors ≠ [] ∧ debtors.Nodup ∧ ∀ l ∈ loansTo lender amount debtors, l.Valid := by
  unfold checkBatch
  cases debtors with
  | nil => simp
  | cons d ds =>
    by_cases hnodup : (d :: ds).Nodup
    · simp [hnodup, Loan.checkAll_eq_ok_iff]
    · simp [hnodup]

/-- The check of an expense. -/
theorem findsOwn_checkExpense {total : Int} (h : amounts total) :
    FindsOwn amounts (checkExpense total) := by
  unfold checkExpense
  split
  · exact .error h
  · split
    · exact .error h
    · exact .ok ()

/-- The terms of an expense. -/
theorem findsOwn_split (payer : UserId) {total : Int} (h : amounts total)
    (members : List UserId) : FindsOwn amounts (split payer total members) := by
  unfold split
  dsimp only
  split
  · exact .error trivial
  · split
    · exact .error trivial
    · split
      · exact .error h
      · exact .ok _

/-- The shares of an expense are positive. -/
theorem share_of_split {payer : UserId} {total : Int} {members : List UserId}
    {parts : List UserId × Int} (h : split payer total members = .ok parts) :
    parts.2 = share total members.length ∧ 2 ≤ members.length ∧ 0 < parts.2 := by
  unfold split at h
  dsimp only at h
  split at h
  · contradiction
  · split at h
    · contradiction
    · split at h
      · contradiction
      · cases h
        exact ⟨rfl, by omega, by omega⟩

end Engine

end

/-! ## Backends -/

/-- Every operation of the first backends is akin to that of the second: it gives the same value or
an error that is related. Of recording this is asked for valid loans only. -/
structure Backends.Akin (R : τ → σ → Prop) (E : Error → Error → Prop) (b : Backends τ)
    (c : Backends σ) : Prop where
  /-- Recording a batch. -/
  append : ∀ loans, (∀ l ∈ loans, l.Valid) →
    Task.Akin R (ResultAkin E) (b.append loans) (c.append loans)
  /-- Computing a balance. -/
  computeBalance : ∀ user,
    Task.Akin R (ResultAkin E) (b.computeBalance user) (c.computeBalance user)
  /-- Asking for an entry. -/
  hasEntry : ∀ user, Task.Akin R (ResultAkin E) (b.hasEntry user) (c.hasEntry user)
  /-- Reading an entry. -/
  lookup : ∀ user, Task.Akin R (ResultAkin E) (b.lookup user) (c.lookup user)
  /-- Filling an entry. -/
  populate : ∀ user balance,
    Task.Akin R (ResultAkin E) (b.populate user balance) (c.populate user balance)
  /-- Updating an entry. -/
  applyDeltas : ∀ user deltas,
    Task.Akin R (ResultAkin E) (b.applyDeltas user deltas) (c.applyDeltas user deltas)
  /-- Dropping an entry. -/
  clear : ∀ user, Task.Akin R (ResultAkin E) (b.clear user) (c.clear user)
  /-- Creating a group. -/
  createGroup : ∀ name owner,
    Task.Akin R (ResultAkin E) (b.createGroup name owner) (c.createGroup name owner)
  /-- Finding a group. -/
  findGroup : ∀ group, Task.Akin R (ResultAkin E) (b.findGroup group) (c.findGroup group)
  /-- Deleting a group. -/
  deleteGroup : ∀ group, Task.Akin R (ResultAkin E) (b.deleteGroup group) (c.deleteGroup group)
  /-- Adding members. -/
  addMembers : ∀ group users,
    Task.Akin R (ResultAkin E) (b.addMembers group users) (c.addMembers group users)
  /-- Taking a member out. -/
  removeMember : ∀ group user,
    Task.Akin R (ResultAkin E) (b.removeMember group user) (c.removeMember group user)
  /-- Listing members. -/
  members : ∀ group, Task.Akin R (ResultAkin E) (b.members group) (c.members group)
  /-- Listing groups. -/
  groupsOf : ∀ user, Task.Akin R (ResultAkin E) (b.groupsOf user) (c.groupsOf user)

namespace Engine

/-- The stores of two engines are related, and their counters are the same. -/
def AkinTo (R : τ → σ → Prop) (e : Engine τ) (f : Engine σ) : Prop :=
  R e.store f.store ∧ e.counters = f.counters

variable {R : τ → σ → Prop} {E : Error → Error → Prop} {b : Backends τ} {c : Backends σ}
  {amounts : Int → Prop}

/-! ## Building blocks -/

/-- Tasks of the backends. -/
theorem akin_onStore {β : Type} {V : α → β → Prop} {t : Task τ α} {u : Task σ β}
    (h : Akin R V t u) : Akin (AkinTo R) V (onStore t) (onStore u) :=
  h.focus (fun _ _ he => he.1) fun _ _ _ _ he hs => ⟨hs, he.2⟩

/-- Counting. -/
theorem akin_count (event : CacheEvent) : Akin (AkinTo R) Eq (count event) (count event) := by
  refine .act ?_
  rintro e f ⟨hstore, hcounters⟩
  exact ⟨rfl, hstore, congrArg (Counters.record · event) hcounters⟩

section

variable (hE : ∀ e : Error, e.IsOwn amounts → E e e)
include hE

/-- Tasks under a deadline. -/
theorem akin_withDeadline {t : Task τ (Except Error α)} {u : Task σ (Except Error α)}
    (h : Akin R (ResultAkin E) t u) (limit : Nat) :
    Akin R (ResultAkin E) (withDeadline limit t) (withDeadline limit u) := by
  refine (h.within limit).bind fun r r' hr => ?_
  cases hr with
  | some hresult => exact .pure hresult
  | none => exact .pure (.error (hE _ trivial))

/-! ## Balances -/

section Balances

variable (h : b.Akin R E c) (settings : EngineSettings)
include h

/-- Dropping an entry. -/
theorem akin_dropEntry (user : UserId) :
    Akin (AkinTo R) Eq (dropEntry b settings user) (dropEntry c settings user) :=
  (akin_withDeadline hE (akin_onStore (h.clear user)) _).bind fun _ _ _ => .pure rfl

/-- Filling an entry. -/
theorem akin_fillEntry (user : UserId) (balance : Balance) :
    Akin (AkinTo R) Eq (fillEntry b settings user balance) (fillEntry c settings user balance) := by
  have hdrop := akin_dropEntry hE h settings user
  have hfill := akin_withDeadline hE (akin_onStore (h.populate user balance))
    settings.populateTimeout
  refine hfill.bind_except (fun _ _ _ => ?_) fun _ => akin_count _
  exact (akin_count _).bind fun _ _ _ => hdrop

/-- Computing a balance after a miss. -/
theorem akin_balanceFromLedger (user : UserId) :
    Akin (AkinTo R) (ResultAkin E) (balanceFromLedger b settings user)
      (balanceFromLedger c settings user) := by
  refine (akin_count _).bind fun _ _ _ => ?_
  refine (akin_onStore (h.computeBalance user)).bind_except (fun _ _ he => .pure (.error he)) ?_
  intro balance
  refine (akin_count _).bind fun _ _ _ => ?_
  exact (akin_fillEntry hE h settings user balance).bind fun _ _ _ => .pure (.ok balance)

/-- Reading a balance. -/
theorem akin_balanceOf (user : UserId) :
    Akin (AkinTo R) (ResultAkin E) (balanceOf b settings user) (balanceOf c settings user) := by
  have hmiss := akin_balanceFromLedger hE h settings user
  refine (akin_onStore (h.lookup user)).bind_except (fun _ _ _ => hmiss) ?_
  rintro (balance | _)
  · exact (akin_count _).bind fun _ _ _ => .pure (.ok balance)
  · exact hmiss

/-- Reading the lines of a balance. -/
theorem akin_balanceLinesOf (user : UserId) :
    Akin (AkinTo R) (ResultAkin E) (balanceLinesOf b settings user)
      (balanceLinesOf c settings user) :=
  (akin_balanceOf hE h settings user).bind_except (fun _ _ he => .pure (.error he))
    fun balance => .pure (.ok balance.lines)

omit settings hE in
/-- Adding to an entry if there is one. -/
theorem akin_tryUpdate (user : UserId) (deltas : List (UserId × Int)) :
    Akin R (ResultAkin E) (tryUpdate b user deltas) (tryUpdate c user deltas) := by
  refine (h.hasEntry user).bind_except (fun _ _ he => .pure (.error he)) ?_
  rintro (_ | _)
  · exact .pure (.ok _)
  · exact h.applyDeltas user deltas

/-- Bringing an entry up to date. -/
theorem akin_updateEntry (user : UserId) (deltas : List (UserId × Int)) :
    Akin (AkinTo R) Eq (updateEntry b settings user deltas)
      (updateEntry c settings user deltas) := by
  have hdrop := akin_dropEntry hE h settings user
  have htry := akin_withDeadline hE (akin_onStore (akin_tryUpdate h user deltas))
    settings.cacheUpdateTimeout
  refine htry.bind_except (fun _ _ _ => ?_) ?_
  · exact (akin_count _).bind fun _ _ _ => hdrop
  · rintro (_ | _)
    · exact akin_count _
    · exact akin_count _

/-- Recording loans. -/
theorem akin_addLoans (lender : UserId) {amount : Int} (hamount : amounts amount)
    (debtors : List UserId) :
    Akin (AkinTo R) (ResultAkin E) (addLoans b settings lender amount debtors)
      (addLoans c settings lender amount debtors) := by
  unfold addLoans
  cases hcheck : checkBatch lender amount debtors with
  | error e =>
    exact .pure (.error (hE e (findsOwn_checkBatch lender hamount debtors e hcheck)))
  | ok _ =>
    obtain ⟨-, -, hvalid⟩ := (checkBatch_eq_ok_iff lender amount debtors).1 hcheck
    have hall := Akin.all (fun d : UserId × List (UserId × Int) =>
      akin_updateEntry hE h settings d.1 d.2) (changes lender amount debtors)
    refine (akin_onStore (h.append _ hvalid)).bind_except (fun _ _ he => .pure (.error he)) ?_
    intro records
    exact hall.bind fun _ _ _ => .pure (.ok records)

end Balances

/-! ## Groups -/

section Groups

variable (h : b.Akin R E c)
include h

/-- Finding a group. -/
theorem akin_requireGroup (group : GroupId) :
    Akin R (ResultAkin E) (requireGroup b group) (requireGroup c group) := by
  refine (h.findGroup group).bind_except (fun _ _ he => .pure (.error he)) ?_
  rintro (_ | found)
  · exact .pure (.error (hE _ trivial))
  · exact .pure (.ok found)

/-- Checking the owner of a group. -/
theorem akin_requireOwner (actor : UserId) (group : GroupId) :
    Akin R (ResultAkin E) (requireOwner b actor group) (requireOwner c actor group) := by
  refine (akin_requireGroup hE h group).bind_except (fun _ _ he => .pure (.error he)) fun found => ?_
  refine .pure ?_
  split
  · exact .ok ()
  · exact .error (hE _ trivial)

/-- Finding all who share the expenses of a group. -/
theorem akin_resolveMembers (group : GroupId) :
    Akin R (ResultAkin E) (resolveMembers b group) (resolveMembers c group) := by
  refine (akin_requireGroup hE h group).bind_except (fun _ _ he => .pure (.error he)) fun found => ?_
  exact (h.members group).bind_except (fun _ _ he => .pure (.error he)) fun _ => .pure (.ok _)

/-- Creating a group. -/
theorem akin_createGroup (name : String) (owner : UserId) :
    Akin R (ResultAkin E) (createGroup b name owner) (createGroup c name owner) := by
  unfold createGroup
  cases groupName? name with
  | none => exact .pure (.error (hE _ ⟨rfl, rfl⟩))
  | some trimmed => exact h.createGroup trimmed owner

/-- Reading a group with its members. -/
theorem akin_groupInfo (group : GroupId) :
    Akin R (ResultAkin E) (groupInfo b group) (groupInfo c group) := by
  refine (akin_requireGroup hE h group).bind_except (fun _ _ he => .pure (.error he)) fun found => ?_
  exact (h.members group).bind_except (fun _ _ he => .pure (.error he)) fun _ => .pure (.ok _)

/-- Listing the members of a group. -/
theorem akin_membersOf (group : GroupId) :
    Akin R (ResultAkin E) (membersOf b group) (membersOf c group) :=
  (akin_requireGroup hE h group).bind_except (fun _ _ he => .pure (.error he))
    fun _ => h.members group

/-- Adding members to a group. -/
theorem akin_addMembers (actor : UserId) (group : GroupId) (users : List UserId) :
    Akin R (ResultAkin E) (addMembers b actor group users) (addMembers c actor group users) := by
  unfold addMembers
  split
  · exact .pure (.error (hE _ trivial))
  · refine (akin_requireOwner hE h actor group).bind_except (fun _ _ he => .pure (.error he))
      fun _ => ?_
    dsimp only
    split
    · exact .pure (.error (hE _ trivial))
    · exact h.addMembers group users

/-- Taking a member out of a group. -/
theorem akin_removeMember (actor : UserId) (group : GroupId) (user : UserId) :
    Akin R (ResultAkin E) (removeMember b actor group user)
      (removeMember c actor group user) := by
  refine (akin_requireOwner hE h actor group).bind_except (fun _ _ he => .pure (.error he))
    fun _ => ?_
  dsimp only
  split
  · exact .pure (.error (hE _ trivial))
  · refine (h.removeMember group user).bind_except (fun _ _ he => .pure (.error he)) ?_
    rintro (_ | _)
    · exact .pure (.error (hE _ trivial))
    · exact .pure (.ok ())

/-- Deleting a group. -/
theorem akin_deleteGroup (actor : UserId) (group : GroupId) :
    Akin R (ResultAkin E) (deleteGroup b actor group) (deleteGroup c actor group) := by
  refine (akin_requireOwner hE h actor group).bind_except (fun _ _ he => .pure (.error he))
    fun _ => ?_
  refine (h.deleteGroup group).bind_except (fun _ _ he => .pure (.error he)) ?_
  rintro (_ | _)
  · exact .pure (.error (hE _ trivial))
  · exact .pure (.ok ())

end Groups

/-! ## Expenses -/

/-- Sharing an expense. -/
theorem akin_shareExpense (h : b.Akin R E c) (settings : EngineSettings) (payer : UserId)
    {total : Int} (htotal : amounts total)
    (hshare : ∀ n, 2 ≤ n → 0 < share total n → amounts (share total n)) (group : GroupId) :
    Akin (AkinTo R) (ResultAkin E) (shareExpense b settings payer total group)
      (shareExpense c settings payer total group) := by
  have hresolve := akin_onStore (akin_resolveMembers hE h group)
  unfold shareExpense
  cases hcheck : checkExpense total with
  | error e => exact .pure (.error (hE e (findsOwn_checkExpense htotal e hcheck)))
  | ok _ =>
    refine hresolve.bind_except (fun _ _ he => .pure (.error he)) fun members => ?_
    dsimp only
    cases hsplit : split payer total members with
    | error e => exact .pure (.error (hE e (findsOwn_split payer htotal members e hsplit)))
    | ok parts =>
      obtain ⟨hpart, hsize, hpos⟩ := share_of_split hsplit
      have hamount : amounts parts.2 := by
        rw [hpart] at hpos ⊢
        exact hshare _ hsize hpos
      have hadd := akin_addLoans hE h settings payer hamount parts.1
      exact hadd.bind_except (fun _ _ he => .pure (.error he)) fun _ => .pure (.ok _)

end

end Engine

end ExpenseLedger
