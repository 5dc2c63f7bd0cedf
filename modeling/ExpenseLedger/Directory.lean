import ExpenseLedger.Error
import ExpenseLedger.Table
import ExpenseLedger.Timestamp

/-!
# The directory of groups

A group has a name, an owner and a creation time, and a set of members beside the owner. The
directory keeps what it is given: whether the owner may be a member, and who may change a group, is
decided by those who use it.
-/

namespace ExpenseLedger

/-- A group. -/
structure Group where
  /-- Its identifier. -/
  id : GroupId
  /-- Its name. -/
  name : String
  /-- The user who manages it. -/
  owner : UserId
  /-- When it was created. -/
  createdAt : Timestamp
deriving DecidableEq

/-- A group together with its members. -/
structure GroupInfo where
  /-- The group. -/
  group : Group
  /-- The members, in ascending order. -/
  members : List UserId
deriving DecidableEq

namespace Directory

/-- A group and the set of its members. -/
structure Entry where
  /-- The group. -/
  group : Group
  /-- The members. -/
  members : KeySet UserId
deriving DecidableEq

end Directory

/-- The groups that exist. -/
structure Directory where
  /-- The groups by their identifiers. -/
  entries : Table GroupId Directory.Entry
  /-- The directory is out of service. -/
  failing : Bool
deriving DecidableEq

namespace Directory

/-- The directory without groups. -/
def empty : Directory := ⟨Table.empty, false⟩

/-- Gives what is read from the directory, unless it is out of service. -/
def query {α : Type} (d : Directory) (read : Directory → Except Error α) : Except Error α :=
  if d.failing then .error .groupsUnavailable else read d

/-- Adds a group without members. -/
def create (group : Group) (d : Directory) : Except Error Group × Directory :=
  if d.failing then (.error .groupsUnavailable, d)
  else (.ok group, { d with entries := d.entries.insert group.id ⟨group, Table.empty⟩ })

/-- The group with an identifier, if it exists. -/
def find (id : GroupId) (d : Directory) : Except Error (Option Group) :=
  d.query fun d => .ok ((d.entries.get? id).map (·.group))

/-- Takes a group and its memberships out, and tells whether it existed. -/
def delete (id : GroupId) (d : Directory) : Except Error Bool × Directory :=
  if d.failing then (.error .groupsUnavailable, d)
  else (.ok (d.entries.contains id), { d with entries := d.entries.erase id })

/-- Adds members to a group. Those it has already stay. -/
def addMembers (id : GroupId) (users : List UserId) (d : Directory) :
    Except Error Unit × Directory :=
  if d.failing then (.error .groupsUnavailable, d)
  else
    match d.entries.get? id with
    | none => (.error (.unknownGroup id), d)
    | some e =>
      let e' := { e with members := KeySet.addAll e.members users }
      (.ok (), { d with entries := d.entries.insert id e' })

/-- Takes a member out of a group, and tells whether there was such a member. -/
def removeMember (id : GroupId) (user : UserId) (d : Directory) : Except Error Bool × Directory :=
  if d.failing then (.error .groupsUnavailable, d)
  else
    match d.entries.get? id with
    | none => (.ok false, d)
    | some e =>
      let e' := { e with members := e.members.erase user }
      (.ok (e.members.contains user), { d with entries := d.entries.insert id e' })

/-- The members of a group in ascending order. A group that does not exist has none. -/
def members (id : GroupId) (d : Directory) : Except Error (List UserId) :=
  d.query fun d =>
    .ok (match d.entries.get? id with
      | none => []
      | some e => e.members.keys)

/-- The user owns the group or is among its members. -/
def Entry.involves (user : UserId) (e : Entry) : Bool :=
  e.group.owner = user || e.members.contains user

/-- The groups that a user owns or belongs to, the earliest first. -/
def groupsOf (user : UserId) (d : Directory) : Except Error (List Group) :=
  d.query fun d =>
    .ok (((d.entries.values.filter (Entry.involves user)).map (·.group)).mergeSort
      fun a b => a.createdAt.le b.createdAt)

end Directory

end ExpenseLedger
