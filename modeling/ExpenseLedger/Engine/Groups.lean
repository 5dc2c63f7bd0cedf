import ExpenseLedger.Engine.Basic
import ExpenseLedger.Text.Blank

/-!
# Administration of groups

Only the owner of a group changes its members or deletes it. The owner is never stored as a member,
and counts as one when an expense is shared.
-/

namespace ExpenseLedger.Engine

variable {σ : Type} (b : Backends σ)

/-- The least number of characters of a group name. -/
def leastNameLength : Nat := 3

/-- The greatest number of characters of a group name. -/
def greatestNameLength : Nat := 64

/-- The name without blanks around it, if its length is allowed. -/
def groupName? (name : String) : Option String :=
  let trimmed := Text.trim name
  if leastNameLength ≤ trimmed.length ∧ trimmed.length ≤ greatestNameLength then some trimmed
  else none

/-! ## Finding groups -/

/-- The group with an identifier. -/
def requireGroup (group : GroupId) : Task σ (Except Error Group) := do
  match ← b.findGroup group with
  | .error e => return .error e
  | .ok none => return .error (.unknownGroup group)
  | .ok (some found) => return .ok found

/-- Refuses an actor who does not own the group. -/
def requireOwner (actor : UserId) (group : GroupId) : Task σ (Except Error Unit) := do
  match ← requireGroup b group with
  | .error e => return .error e
  | .ok found => return if found.owner = actor then .ok () else .error .notGroupOwner

/-- The owner of a group, then its other members. -/
def ownerThenMembers (owner : UserId) (members : List UserId) : List UserId :=
  owner :: members.filter fun m => m ≠ owner

/-- All who share the expenses of a group, the owner first. -/
def resolveMembers (group : GroupId) : Task σ (Except Error (List UserId)) := do
  match ← requireGroup b group with
  | .error e => return .error e
  | .ok found =>
    match ← b.members group with
    | .error e => return .error e
    | .ok members => return .ok (ownerThenMembers found.owner members)

/-! ## Operations -/

/-- Creates a group owned by a user. -/
def createGroup (name : String) (owner : UserId) : Task σ (Except Error Group) := do
  match groupName? name with
  | none => return .error (.groupNameLength leastNameLength greatestNameLength)
  | some trimmed => b.createGroup trimmed owner

/-- A group with its members. -/
def groupInfo (group : GroupId) : Task σ (Except Error GroupInfo) := do
  match ← requireGroup b group with
  | .error e => return .error e
  | .ok found =>
    match ← b.members group with
    | .error e => return .error e
    | .ok members => return .ok ⟨found, members⟩

/-- The members of a group. -/
def membersOf (group : GroupId) : Task σ (Except Error (List UserId)) := do
  match ← requireGroup b group with
  | .error e => return .error e
  | .ok _ => b.members group

/-- Adds members to a group. -/
def addMembers (actor : UserId) (group : GroupId) (users : List UserId) :
    Task σ (Except Error Unit) := do
  if users.isEmpty then return .error .noMembersNamed
  else
    match ← requireOwner b actor group with
    | .error e => return .error e
    | .ok _ =>
      if actor ∈ users then return .error .ownerNamedAsMember
      else b.addMembers group users

/-- Takes a member out of a group. -/
def removeMember (actor : UserId) (group : GroupId) (user : UserId) :
    Task σ (Except Error Unit) := do
  match ← requireOwner b actor group with
  | .error e => return .error e
  | .ok _ =>
    if actor = user then return .error .ownerNotRemovable
    else
      match ← b.removeMember group user with
      | .error e => return .error e
      | .ok false => return .error (.unknownMember user group)
      | .ok true => return .ok ()

/-- Deletes a group. -/
def deleteGroup (actor : UserId) (group : GroupId) : Task σ (Except Error Unit) := do
  match ← requireOwner b actor group with
  | .error e => return .error e
  | .ok _ =>
    match ← b.deleteGroup group with
    | .error e => return .error e
    | .ok false => return .error (.unknownGroup group)
    | .ok true => return .ok ()

end ExpenseLedger.Engine
