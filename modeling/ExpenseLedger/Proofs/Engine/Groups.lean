import ExpenseLedger.Engine.Groups
import ExpenseLedger.Proofs.Task.Triple
/-!
# What administration keeps

The administration of groups reaches its backends through the operations of the directory alone. So
it keeps every property that these operations keep, however early it is dropped.
-/

open ExpenseLedger.Task

namespace ExpenseLedger

variable {σ : Type}

/-- Every operation of the directory keeps a property of the state, however it ends. -/
structure Backends.DirectoryKeeps (b : Backends σ) (P : σ → Prop) : Prop where
  /-- Creating a group. -/
  createGroup : ∀ name owner, Triple P (b.createGroup name owner) (fun _ => P) P
  /-- Finding a group. -/
  findGroup : ∀ group, Triple P (b.findGroup group) (fun _ => P) P
  /-- Deleting a group. -/
  deleteGroup : ∀ group, Triple P (b.deleteGroup group) (fun _ => P) P
  /-- Adding members. -/
  addMembers : ∀ group users, Triple P (b.addMembers group users) (fun _ => P) P
  /-- Taking a member out. -/
  removeMember : ∀ group user, Triple P (b.removeMember group user) (fun _ => P) P
  /-- Listing members. -/
  members : ∀ group, Triple P (b.members group) (fun _ => P) P
  /-- Listing groups. -/
  groupsOf : ∀ user, Triple P (b.groupsOf user) (fun _ => P) P

namespace Engine

variable {b : Backends σ} {P : σ → Prop} (h : b.DirectoryKeeps P)
include h

/-- Finding a group. -/
theorem triple_requireGroup (group : GroupId) :
    Triple P (requireGroup b group) (fun _ => P) P := by
  refine (h.findGroup group).bind_except (fun _ => .pure fun _ hs => hs) ?_
  rintro (_ | found)
  · exact .pure fun _ hs => hs
  · exact .pure fun _ hs => hs

/-- Checking the owner of a group. -/
theorem triple_requireOwner (actor : UserId) (group : GroupId) :
    Triple P (requireOwner b actor group) (fun _ => P) P :=
  (triple_requireGroup h group).bind_except (fun _ => .pure fun _ hs => hs)
    fun _ => .pure fun _ hs => hs

/-- Finding all who share the expenses of a group. -/
theorem triple_resolveMembers (group : GroupId) :
    Triple P (resolveMembers b group) (fun _ => P) P := by
  refine (triple_requireGroup h group).bind_except (fun _ => .pure fun _ hs => hs) fun _ => ?_
  exact (h.members group).bind_except (fun _ => .pure fun _ hs => hs)
    fun _ => .pure fun _ hs => hs

/-- Creating a group. -/
theorem triple_createGroup (name : String) (owner : UserId) :
    Triple P (createGroup b name owner) (fun _ => P) P := by
  unfold createGroup
  cases groupName? name with
  | none => exact .pure fun _ hs => hs
  | some trimmed => exact h.createGroup trimmed owner

/-- Reading a group with its members. -/
theorem triple_groupInfo (group : GroupId) :
    Triple P (groupInfo b group) (fun _ => P) P := by
  refine (triple_requireGroup h group).bind_except (fun _ => .pure fun _ hs => hs) fun _ => ?_
  exact (h.members group).bind_except (fun _ => .pure fun _ hs => hs)
    fun _ => .pure fun _ hs => hs

/-- Listing the members of a group. -/
theorem triple_membersOf (group : GroupId) :
    Triple P (membersOf b group) (fun _ => P) P :=
  (triple_requireGroup h group).bind_except (fun _ => .pure fun _ hs => hs)
    fun _ => h.members group

/-- Adding members to a group. -/
theorem triple_addMembers (actor : UserId) (group : GroupId) (users : List UserId) :
    Triple P (addMembers b actor group users) (fun _ => P) P := by
  unfold addMembers
  split
  · exact .pure fun _ hs => hs
  · refine (triple_requireOwner h actor group).bind_except (fun _ => .pure fun _ hs => hs) ?_
    intro _
    dsimp only
    split
    · exact .pure fun _ hs => hs
    · exact h.addMembers group users

/-- Taking a member out of a group. -/
theorem triple_removeMember (actor : UserId) (group : GroupId) (user : UserId) :
    Triple P (removeMember b actor group user) (fun _ => P) P := by
  refine (triple_requireOwner h actor group).bind_except (fun _ => .pure fun _ hs => hs) ?_
  intro _
  dsimp only
  split
  · exact .pure fun _ hs => hs
  · refine (h.removeMember group user).bind_except (fun _ => .pure fun _ hs => hs) ?_
    rintro (_ | _)
    · exact .pure fun _ hs => hs
    · exact .pure fun _ hs => hs

/-- Deleting a group. -/
theorem triple_deleteGroup (actor : UserId) (group : GroupId) :
    Triple P (deleteGroup b actor group) (fun _ => P) P := by
  refine (triple_requireOwner h actor group).bind_except (fun _ => .pure fun _ hs => hs) ?_
  intro _
  refine (h.deleteGroup group).bind_except (fun _ => .pure fun _ hs => hs) ?_
  rintro (_ | _)
  · exact .pure fun _ hs => hs
  · exact .pure fun _ hs => hs

end Engine

end ExpenseLedger
