import ExpenseLedger.Proofs.Engine.Akin
import ExpenseLedger.Proofs.Task.Mirror
/-!
# The engine on mirroring backends

The engine uses its backends through their operations alone. So if the operations of one set of
backends mirror those of another, every operation of the engine on the one mirrors the same
operation on the other: what backends keep for themselves has no influence on the engine. Mirroring
backends are akin, with the same errors on both sides.
-/

open ExpenseLedger.Task

namespace ExpenseLedger

variable {σ τ α ι : Type}

/-- Every operation of the first backends mirrors that of the second. -/
structure Backends.Mirrors (forget : τ → σ) (b : Backends τ) (c : Backends σ) : Prop where
  /-- Recording mirrors recording. -/
  append : ∀ loans, Task.Mirrors forget (b.append loans) (c.append loans)
  /-- Computing a balance mirrors computing it. -/
  computeBalance : ∀ user, Task.Mirrors forget (b.computeBalance user) (c.computeBalance user)
  /-- Asking for an entry mirrors asking for it. -/
  hasEntry : ∀ user, Task.Mirrors forget (b.hasEntry user) (c.hasEntry user)
  /-- Reading an entry mirrors reading it. -/
  lookup : ∀ user, Task.Mirrors forget (b.lookup user) (c.lookup user)
  /-- Filling an entry mirrors filling it. -/
  populate : ∀ user balance,
    Task.Mirrors forget (b.populate user balance) (c.populate user balance)
  /-- Updating an entry mirrors updating it. -/
  applyDeltas : ∀ user deltas,
    Task.Mirrors forget (b.applyDeltas user deltas) (c.applyDeltas user deltas)
  /-- Dropping an entry mirrors dropping it. -/
  clear : ∀ user, Task.Mirrors forget (b.clear user) (c.clear user)
  /-- Creating a group mirrors creating it. -/
  createGroup : ∀ name owner,
    Task.Mirrors forget (b.createGroup name owner) (c.createGroup name owner)
  /-- Finding a group mirrors finding it. -/
  findGroup : ∀ group, Task.Mirrors forget (b.findGroup group) (c.findGroup group)
  /-- Deleting a group mirrors deleting it. -/
  deleteGroup : ∀ group, Task.Mirrors forget (b.deleteGroup group) (c.deleteGroup group)
  /-- Adding members mirrors adding them. -/
  addMembers : ∀ group users,
    Task.Mirrors forget (b.addMembers group users) (c.addMembers group users)
  /-- Taking a member out mirrors taking it out. -/
  removeMember : ∀ group user,
    Task.Mirrors forget (b.removeMember group user) (c.removeMember group user)
  /-- Listing members mirrors listing them. -/
  members : ∀ group, Task.Mirrors forget (b.members group) (c.members group)
  /-- Listing groups mirrors listing them. -/
  groupsOf : ∀ user, Task.Mirrors forget (b.groupsOf user) (c.groupsOf user)

/-- Backends that mirror others are akin to them. -/
theorem Backends.Mirrors.akin {forget : τ → σ} {b : Backends τ} {c : Backends σ}
    (h : b.Mirrors forget c) : b.Akin (fun x s => forget x = s) Eq c where
  append loans _ := (h.append loans).akin
  computeBalance user := (h.computeBalance user).akin
  hasEntry user := (h.hasEntry user).akin
  lookup user := (h.lookup user).akin
  populate user balance := (h.populate user balance).akin
  applyDeltas user deltas := (h.applyDeltas user deltas).akin
  clear user := (h.clear user).akin
  createGroup name owner := (h.createGroup name owner).akin
  findGroup group := (h.findGroup group).akin
  deleteGroup group := (h.deleteGroup group).akin
  addMembers group users := (h.addMembers group users).akin
  removeMember group user := (h.removeMember group user).akin
  members group := (h.members group).akin
  groupsOf user := (h.groupsOf user).akin

/-- The engine on a smaller state. -/
def Engine.map (forget : τ → σ) (e : Engine τ) : Engine σ := ⟨forget e.store, e.counters⟩

namespace Engine

variable {forget : τ → σ} {b : Backends τ} {c : Backends σ}

/-! ## Building blocks -/

/-- Tasks of the backends. -/
theorem mirrors_onStore {t : Task τ α} {u : Task σ α} (h : Mirrors forget t u) :
    Mirrors (Engine.map forget) (onStore t) (onStore u) :=
  h.focus (fun _ => rfl) fun _ _ => rfl

/-- Tasks of engines that are akin. -/
theorem mirrors_of_akin {t : Task (Engine τ) (Except Error α)} {u : Task (Engine σ) (Except Error α)}
    (h : Akin (AkinTo fun x s => forget x = s) (ResultAkin Eq) t u) :
    Mirrors (Engine.map forget) t u := by
  refine .of_akin h (fun _ => ⟨rfl, rfl⟩) ?_ fun _ _ hr => hr.eq
  rintro ⟨x, counters⟩ ⟨s, _⟩ ⟨rfl, rfl⟩
  rfl

/-- Tasks of stores that are akin. -/
theorem mirrors_of_akin_store {t : Task τ (Except Error α)} {u : Task σ (Except Error α)}
    (h : Akin (fun x s => forget x = s) (ResultAkin Eq) t u) : Mirrors forget t u :=
  .of_akin h (fun _ => rfl) (fun _ _ hs => hs) fun _ _ hr => hr.eq

/-- Whatever amounts the errors of the service tell, they are the same on both sides. -/
theorem eq_of_isOwn (e : Error) (_ : e.IsOwn fun _ => True) : e = e := rfl

variable (h : b.Mirrors forget c)
include h

/-! ## Balances -/

section Balances

variable (settings : EngineSettings)

/-- Reading a balance. -/
theorem mirrors_balanceOf (user : UserId) :
    Mirrors (Engine.map forget) (balanceOf b settings user) (balanceOf c settings user) :=
  mirrors_of_akin (akin_balanceOf eq_of_isOwn h.akin settings user)

/-- Reading the lines of a balance. -/
theorem mirrors_balanceLinesOf (user : UserId) :
    Mirrors (Engine.map forget) (balanceLinesOf b settings user)
      (balanceLinesOf c settings user) :=
  mirrors_of_akin (akin_balanceLinesOf eq_of_isOwn h.akin settings user)

/-- Recording loans. -/
theorem mirrors_addLoans (lender : UserId) (amount : Int) (debtors : List UserId) :
    Mirrors (Engine.map forget) (addLoans b settings lender amount debtors)
      (addLoans c settings lender amount debtors) :=
  mirrors_of_akin (akin_addLoans eq_of_isOwn h.akin settings lender trivial debtors)

/-- Sharing an expense. -/
theorem mirrors_shareExpense (payer : UserId) (total : Int) (group : GroupId) :
    Mirrors (Engine.map forget) (shareExpense b settings payer total group)
      (shareExpense c settings payer total group) :=
  mirrors_of_akin
    (akin_shareExpense eq_of_isOwn h.akin settings payer trivial (fun _ _ _ => trivial) group)

end Balances

/-! ## Groups -/

/-- Creating a group. -/
theorem mirrors_createGroup (name : String) (owner : UserId) :
    Mirrors forget (createGroup b name owner) (createGroup c name owner) :=
  mirrors_of_akin_store (akin_createGroup eq_of_isOwn h.akin name owner)

/-- Reading a group with its members. -/
theorem mirrors_groupInfo (group : GroupId) :
    Mirrors forget (groupInfo b group) (groupInfo c group) :=
  mirrors_of_akin_store (akin_groupInfo eq_of_isOwn h.akin group)

/-- Listing the members of a group. -/
theorem mirrors_membersOf (group : GroupId) :
    Mirrors forget (membersOf b group) (membersOf c group) :=
  mirrors_of_akin_store (akin_membersOf eq_of_isOwn h.akin group)

/-- Adding members to a group. -/
theorem mirrors_addMembers (actor : UserId) (group : GroupId) (users : List UserId) :
    Mirrors forget (addMembers b actor group users) (addMembers c actor group users) :=
  mirrors_of_akin_store (akin_addMembers eq_of_isOwn h.akin actor group users)

/-- Taking a member out of a group. -/
theorem mirrors_removeMember (actor : UserId) (group : GroupId) (user : UserId) :
    Mirrors forget (removeMember b actor group user) (removeMember c actor group user) :=
  mirrors_of_akin_store (akin_removeMember eq_of_isOwn h.akin actor group user)

/-- Deleting a group. -/
theorem mirrors_deleteGroup (actor : UserId) (group : GroupId) :
    Mirrors forget (deleteGroup b actor group) (deleteGroup c actor group) :=
  mirrors_of_akin_store (akin_deleteGroup eq_of_isOwn h.akin actor group)

end Engine

end ExpenseLedger
