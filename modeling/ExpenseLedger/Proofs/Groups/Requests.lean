import ExpenseLedger.Proofs.Engine.Administration
/-!
# Requests about groups

Each operation on groups takes effect at one instant: it asks the directory, and then refuses, or
answers, or changes the directory in one step. So an operation is a function of the store
(`GroupCall.settle`), and a task that performs it does just that (`GroupCall.atomic_perform`).
What an operation can do to the directory is said once, in `GroupCall.settle_cases`.
-/

open ExpenseLedger.Task

namespace ExpenseLedger

variable {α β : Type}

namespace Store

/-- After an atomic task its value is turned into another one. -/
theorem Atomic.bind_pure {f : Store → α × Store} {t : Task Store α} {k : α → Task Store β}
    (ht : Atomic f t) (g : α → β) (hk : ∀ a, k a = Pure.pure (g a)) :
    Atomic (fun s => (g (f s).1, (f s).2)) (t >>= k) := by
  intro s
  refine (ht s).bind fun a => ?_
  rw [hk a]
  refine Triple.pure fun s' hs' => ?_
  change (g a, s') = (g (f s).1, (f s).2)
  rw [← hs']

/-- A task whose value is turned into another one. -/
theorem Atomic.map {f : Store → α × Store} {t : Task Store α} (ht : Atomic f t) (g : α → β) :
    Atomic (fun s => (g (f s).1, (f s).2)) (do return g (← t)) :=
  ht.bind_pure g fun _ => rfl

/-- A question that is refused ends the task, and else an atomic task goes on from the answer. -/
theorem Atomic.bind_granted {g : Directory → Except Error α} {t : Task Store (Except Error α)}
    {h : α → Store → Except Error β × Store} {f : Except Error α → Task Store (Except Error β)}
    (ht : Atomic (ask g) t) (herror : ∀ e, f (.error e) = Pure.pure (.error e))
    (hok : ∀ a, Atomic (h a) (f (.ok a))) :
    Atomic (fun s => match g s.directory with
      | .error e => (.error e, s)
      | .ok a => h a s) (t >>= f) := by
  refine (Atomic.bind_ask ht (h := fun r s => match r with
    | .error e => (.error e, s)
    | .ok a => h a s) fun r => ?_).congr fun s => rfl
  cases r with
  | error e =>
    rw [herror e]
    exact Atomic.pure _
  | ok a => exact hok a

/-- Without a deadline, an atomic task gives the value of the operation. -/
theorem Atomic.value? {f : Store → α × Store} {t : Task Store α} (h : Atomic f t) (s : Store) :
    (t none s).outcome.value? = some (f s).1 ∧ (t none s).state = (f s).2 := by
  obtain ⟨a, ha, hs⟩ := (h s none s rfl).exists_value?
  have hvalue : a = (f s).1 := congrArg Prod.fst hs
  have hstate : (t none s).state = (f s).2 := congrArg Prod.snd hs
  rw [ha, hvalue]
  exact ⟨rfl, hstate⟩

end Store

/-! ## The desk of the directory -/

namespace Directory

/-- Refuses an actor who does not own the group. -/
def requireOwner (actor : UserId) (group : GroupId) (d : Directory) : Except Error Unit :=
  match d.require group with
  | .error e => .error e
  | .ok found => if found.owner = actor then .ok () else .error .notGroupOwner

/-- A group with its members. -/
def info (group : GroupId) (d : Directory) : Except Error GroupInfo :=
  match d.require group with
  | .error e => .error e
  | .ok found => (d.members group).map (GroupInfo.mk found)

/-- The members of a group that must exist. -/
def roster (group : GroupId) (d : Directory) : Except Error (List UserId) :=
  match d.require group with
  | .error e => .error e
  | .ok _ => d.members group

/-- Adds members on behalf of an actor. -/
def enroll (actor : UserId) (group : GroupId) (users : List UserId) (d : Directory) :
    Except Error Unit × Directory :=
  if users.isEmpty then (.error .noMembersNamed, d)
  else
    match d.requireOwner actor group with
    | .error e => (.error e, d)
    | .ok _ =>
      if actor ∈ users then (.error .ownerNamedAsMember, d) else d.addMembers group users

/-- It is an error if there was nothing to do. -/
def told (absent : Error) : Except Error Bool → Except Error Unit
  | .error e => .error e
  | .ok false => .error absent
  | .ok true => .ok ()

/-- Takes a member out on behalf of an actor. -/
def dismiss (actor : UserId) (group : GroupId) (user : UserId) (d : Directory) :
    Except Error Unit × Directory :=
  match d.requireOwner actor group with
  | .error e => (.error e, d)
  | .ok _ =>
    if actor = user then (.error .ownerNotRemovable, d)
    else
      (told (.unknownMember user group) (d.removeMember group user).1,
        (d.removeMember group user).2)

/-- Deletes a group on behalf of an actor. -/
def dissolve (actor : UserId) (group : GroupId) (d : Directory) : Except Error Unit × Directory :=
  match d.requireOwner actor group with
  | .error e => (.error e, d)
  | .ok _ => (told (.unknownGroup group) (d.delete group).1, (d.delete group).2)

end Directory

/-! ## Requests -/

/-- What can be asked of the groups. -/
inductive GroupCall where
  /-- Creates a group. -/
  | createGroup (name : String) (owner : UserId)
  /-- Reads a group with its members. -/
  | groupInfo (group : GroupId)
  /-- Lists the members of a group. -/
  | membersOf (group : GroupId)
  /-- Lists all who share the expenses of a group. -/
  | resolveMembers (group : GroupId)
  /-- Lists the groups of a user. -/
  | groupsOf (user : UserId)
  /-- Adds members to a group. -/
  | addMembers (actor : UserId) (group : GroupId) (users : List UserId)
  /-- Takes a member out of a group. -/
  | removeMember (actor : UserId) (group : GroupId) (user : UserId)
  /-- Deletes a group. -/
  | deleteGroup (actor : UserId) (group : GroupId)
deriving DecidableEq

/-- What a request that succeeds is answered. -/
inductive GroupAnswer where
  /-- The group that has been created. -/
  | created (group : Group)
  /-- A group with its members. -/
  | info (info : GroupInfo)
  /-- Users. -/
  | users (users : List UserId)
  /-- Groups. -/
  | groups (groups : List Group)
  /-- It is done. -/
  | done
deriving DecidableEq

namespace GroupCall

/-- Performs a request. -/
def perform {σ : Type} (b : Backends σ) : GroupCall → Task σ (Except Error GroupAnswer)
  | createGroup name owner => do return (← Engine.createGroup b name owner).map .created
  | groupInfo group => do return (← Engine.groupInfo b group).map .info
  | membersOf group => do return (← Engine.membersOf b group).map .users
  | resolveMembers group => do return (← Engine.resolveMembers b group).map .users
  | groupsOf user => do return (← b.groupsOf user).map .groups
  | addMembers actor group users => do
    return (← Engine.addMembers b actor group users).map fun _ => .done
  | removeMember actor group user => do
    return (← Engine.removeMember b actor group user).map fun _ => .done
  | deleteGroup actor group => do
    return (← Engine.deleteGroup b actor group).map fun _ => .done

/-- What a request is answered, and the store after it. -/
def settle : GroupCall → Store → Except Error GroupAnswer × Store
  | createGroup name owner, s =>
    match Engine.groupName? name with
    | none =>
      (.error (.groupNameLength Engine.leastNameLength Engine.greatestNameLength), s)
    | some trimmed =>
      ((s.createGroup trimmed owner).1.map .created, (s.createGroup trimmed owner).2)
  | groupInfo group, s => ((s.directory.info group).map .info, s)
  | membersOf group, s => ((s.directory.roster group).map .users, s)
  | resolveMembers group, s => ((s.directory.sharers group).map .users, s)
  | groupsOf user, s => ((s.directory.groupsOf user).map .groups, s)
  | addMembers actor group users, s =>
    ((s.directory.enroll actor group users).1.map fun _ => .done,
      { s with directory := (s.directory.enroll actor group users).2 })
  | removeMember actor group user, s =>
    ((s.directory.dismiss actor group user).1.map fun _ => .done,
      { s with directory := (s.directory.dismiss actor group user).2 })
  | deleteGroup actor group, s =>
    ((s.directory.dissolve actor group).1.map fun _ => .done,
      { s with directory := (s.directory.dissolve actor group).2 })

/-- The group that a request is about, which must exist already. -/
def group? : GroupCall → Option GroupId
  | createGroup _ _ | groupsOf _ => none
  | groupInfo group | membersOf group | resolveMembers group | addMembers _ group _
  | removeMember _ group _ | deleteGroup _ group => some group

end GroupCall

/-! ## What the desk does -/

namespace Directory

variable (d : Directory) (group : GroupId)

/-- What a directory in service says about a group. -/
theorem require_of_not_failing (h : d.failing = false) :
    d.require group = match d.entries.get? group with
      | none => .error (.unknownGroup group)
      | some e => .ok e.group := by
  simp only [require, find, query, h, Bool.false_eq_true, if_false]
  cases d.entries.get? group <;> rfl

/-- A group that must exist does exist. -/
theorem require_eq_ok_iff (found : Group) :
    d.require group = .ok found ↔
      d.failing = false ∧ ∃ e, d.entries.get? group = some e ∧ e.group = found := by
  cases h : d.failing with
  | true =>
    have hrefused : d.require group = .error .groupsUnavailable := by
      unfold require find query
      rw [h]
      rfl
    rw [hrefused]
    simp
  | false =>
    rw [require_of_not_failing d group h]
    cases d.entries.get? group with
    | none => simp
    | some e => simp

/-- Only the owner passes. -/
theorem requireOwner_eq_ok (actor : UserId) (u : Unit) (h : d.requireOwner actor group = .ok u) :
    d.failing = false ∧ ∃ e, d.entries.get? group = some e ∧ e.group.owner = actor := by
  unfold requireOwner at h
  cases hfound : d.require group with
  | error e =>
    rw [hfound] at h
    contradiction
  | ok found =>
    rw [hfound] at h
    obtain ⟨hservice, e, he, rfl⟩ := (require_eq_ok_iff d group found).1 hfound
    by_cases howner : e.group.owner = actor
    · exact ⟨hservice, e, he, howner⟩
    · dsimp only at h
      rw [if_neg howner] at h
      contradiction

/-- Members are added by the owner, who is none of them, or nothing happens. -/
theorem enroll_cases (actor : UserId) (users : List UserId) :
    ((∃ e, (d.enroll actor group users).1 = .error e) ∧ (d.enroll actor group users).2 = d) ∨
      ((d.enroll actor group users).1 = .ok () ∧ ∃ e, d.entries.get? group = some e ∧
        e.group.owner = actor ∧ actor ∉ users ∧ (d.enroll actor group users).2 =
          { d with entries :=
              d.entries.insert group { e with members := KeySet.addAll e.members users } }) := by
  unfold enroll
  by_cases hempty : users.isEmpty = true
  · rw [if_pos hempty]
    exact .inl ⟨⟨_, rfl⟩, rfl⟩
  · rw [if_neg hempty]
    cases howner : d.requireOwner actor group with
    | error e => exact .inl ⟨⟨e, rfl⟩, rfl⟩
    | ok u =>
      obtain ⟨hservice, e, he, hactor⟩ := requireOwner_eq_ok d group actor u howner
      dsimp only
      by_cases hmem : actor ∈ users
      · rw [if_pos hmem]
        exact .inl ⟨⟨_, rfl⟩, rfl⟩
      · rw [if_neg hmem]
        refine .inr ?_
        simp only [addMembers, hservice, he, Bool.false_eq_true, if_false]
        exact ⟨trivial, e, rfl, hactor, hmem, rfl⟩

/-- A member is taken out by the owner, or nothing happens. -/
theorem dismiss_cases (actor user : UserId) :
    ((∃ e, (d.dismiss actor group user).1 = .error e) ∧ (d.dismiss actor group user).2 = d) ∨
      ((d.dismiss actor group user).1 = .ok () ∧ ∃ e, d.entries.get? group = some e ∧
        e.group.owner = actor ∧ (d.dismiss actor group user).2 = { d with
          entries := d.entries.insert group { e with members := e.members.erase user } }) := by
  unfold dismiss
  cases howner : d.requireOwner actor group with
  | error e => exact .inl ⟨⟨e, rfl⟩, rfl⟩
  | ok u =>
    obtain ⟨hservice, e, he, hactor⟩ := requireOwner_eq_ok d group actor u howner
    dsimp only
    by_cases hself : actor = user
    · rw [if_pos hself]
      exact .inl ⟨⟨_, rfl⟩, rfl⟩
    · rw [if_neg hself]
      have hremoved : d.removeMember group user = (.ok (e.members.contains user),
          { d with entries :=
              d.entries.insert group { e with members := e.members.erase user } }) := by
        simp only [removeMember, hservice, he, Bool.false_eq_true, if_false]
      cases hmember : e.members.contains user with
      | false =>
        rw [hmember] at hremoved
        refine .inl ⟨⟨_, by rw [hremoved]; rfl⟩, ?_⟩
        exact removeMember_of_ne group user d (by rw [hremoved]; simp)
      | true =>
        rw [hmember] at hremoved
        rw [hremoved]
        exact .inr ⟨rfl, e, he, hactor, rfl⟩

/-- A group is deleted by its owner, or nothing happens. -/
theorem dissolve_cases (actor : UserId) :
    ((∃ e, (d.dissolve actor group).1 = .error e) ∧ (d.dissolve actor group).2 = d) ∨
      ((d.dissolve actor group).1 = .ok () ∧ ∃ e, d.entries.get? group = some e ∧
        e.group.owner = actor ∧
        (d.dissolve actor group).2 = { d with entries := d.entries.erase group }) := by
  unfold dissolve
  cases howner : d.requireOwner actor group with
  | error e => exact .inl ⟨⟨e, rfl⟩, rfl⟩
  | ok u =>
    obtain ⟨hservice, e, he, hactor⟩ := requireOwner_eq_ok d group actor u howner
    have hdeleted : d.delete group = (.ok true, { d with entries := d.entries.erase group }) := by
      have hcontains : d.entries.contains group = true := (Table.contains_iff _ _).2 ⟨e, he⟩
      simp only [delete, hservice, hcontains, Bool.false_eq_true, if_false]
    dsimp only
    rw [hdeleted]
    exact .inr ⟨rfl, e, he, hactor, rfl⟩

end Directory

/-! ## Each operation takes effect at one instant -/

namespace Engine

open Store

variable {b : Backends Store} (hb : b.Realizes)
include hb

/-- Checking the owner of a group is one question to the directory. -/
theorem atomic_requireOwner (actor : UserId) (group : GroupId) :
    Atomic (ask (Directory.requireOwner actor group)) (requireOwner b actor group) := by
  refine (Atomic.bind_pure (atomic_requireGroup hb group) (fun r => match r with
    | .error e => .error e
    | .ok found => if found.owner = actor then .ok () else .error .notGroupOwner)
    fun r => ?_).congr fun s => rfl
  cases r with
  | error e => rfl
  | ok found => rfl

/-- Reading a group with its members is one question to the directory. -/
theorem atomic_groupInfo (group : GroupId) :
    Atomic (ask (Directory.info group)) (groupInfo b group) := by
  refine (Atomic.bind_granted (atomic_requireGroup hb group)
    (h := fun found s => ((s.directory.members group).map (GroupInfo.mk found), s))
    ?_ fun found => ?_).congr fun s => ?_
  · exact fun e => rfl
  · refine Atomic.bind_pure (hb.members group) (Except.map (GroupInfo.mk found)) fun r => ?_
    cases r <;> rfl
  · unfold ask Directory.info
    cases s.directory.require group <;> rfl

/-- Listing the members of a group is one question to the directory. -/
theorem atomic_membersOf (group : GroupId) :
    Atomic (ask (Directory.roster group)) (membersOf b group) := by
  refine (Atomic.bind_granted (atomic_requireGroup hb group)
    (h := fun _ s => (s.directory.members group, s)) ?_ fun _ => ?_).congr fun s => ?_
  · exact fun e => rfl
  · exact hb.members group
  · unfold ask Directory.roster
    cases s.directory.require group <;> rfl

/-- Adding members is one operation of the directory. -/
theorem atomic_addMembers (actor : UserId) (group : GroupId) (users : List UserId) :
    Atomic (onDirectory (Directory.enroll actor group users)) (addMembers b actor group users) := by
  unfold addMembers
  by_cases hempty : users.isEmpty = true
  · rw [if_pos hempty]
    refine (Atomic.pure _).congr fun s => ?_
    simp only [onDirectory, Directory.enroll, hempty, if_true]
  · rw [if_neg hempty]
    refine (Atomic.bind_granted (atomic_requireOwner hb actor group)
      (h := fun _ s => if actor ∈ users then (.error .ownerNamedAsMember, s)
        else onDirectory (Directory.addMembers group users) s) ?_ fun _ => ?_).congr fun s => ?_
    · exact fun e => rfl
    · dsimp only
      split
      · exact Atomic.pure _
      · exact hb.addMembers group users
    · simp only [onDirectory, Directory.enroll, if_neg hempty]
      cases s.directory.requireOwner actor group with
      | error e => rfl
      | ok _ =>
        dsimp only
        split <;> rfl

/-- Taking a member out is one operation of the directory. -/
theorem atomic_removeMember (actor : UserId) (group : GroupId) (user : UserId) :
    Atomic (onDirectory (Directory.dismiss actor group user))
      (removeMember b actor group user) := by
  refine (Atomic.bind_granted (atomic_requireOwner hb actor group)
    (h := fun _ s => if actor = user then (.error .ownerNotRemovable, s)
      else (Directory.told (.unknownMember user group) (s.directory.removeMember group user).1,
        { s with directory := (s.directory.removeMember group user).2 }))
    ?_ fun _ => ?_).congr fun s => ?_
  · exact fun e => rfl
  · dsimp only
    split
    · exact Atomic.pure _
    · refine Atomic.bind_pure (hb.removeMember group user)
        (Directory.told (.unknownMember user group)) fun r => ?_
      rcases r with e | _ | _ <;> rfl
  · unfold onDirectory Directory.dismiss
    cases s.directory.requireOwner actor group with
    | error e => rfl
    | ok _ =>
      dsimp only
      split <;> rfl

/-- Deleting a group is one operation of the directory, if the backends leave it to this task. -/
theorem atomic_deleteGroup (actor : UserId) (group : GroupId)
    (hdelete : Atomic (onDirectory (Directory.delete group)) (b.deleteGroup group)) :
    Atomic (onDirectory (Directory.dissolve actor group)) (deleteGroup b actor group) := by
  refine (Atomic.bind_granted (atomic_requireOwner hb actor group)
    (h := fun _ s => (Directory.told (.unknownGroup group) (s.directory.delete group).1,
      { s with directory := (s.directory.delete group).2 })) ?_ fun _ => ?_).congr fun s => ?_
  · exact fun e => rfl
  · refine Atomic.bind_pure hdelete (Directory.told (.unknownGroup group)) fun r => ?_
    rcases r with e | _ | _ <;> rfl
  · unfold onDirectory Directory.dissolve
    cases s.directory.requireOwner actor group <;> rfl

end Engine

namespace GroupCall

open Store

/-- **A request takes effect at one instant, however long the store waits.** -/
theorem atomic_perform (w : Waits) (c : GroupCall) : Atomic c.settle (c.perform (backends w)) := by
  have hb := realizes_backends w
  cases c with
  | createGroup name owner =>
    have hcreate : Atomic (fun s => match Engine.groupName? name with
        | none =>
          (.error (.groupNameLength Engine.leastNameLength Engine.greatestNameLength), s)
        | some trimmed => s.createGroup trimmed owner)
        (Engine.createGroup (backends w) name owner) := by
      unfold Engine.createGroup
      cases Engine.groupName? name with
      | none => exact Atomic.pure _
      | some trimmed => exact hb.createGroup trimmed owner
    refine (hcreate.map (Except.map GroupAnswer.created)).congr fun s => ?_
    cases hname : Engine.groupName? name with
    | none => simp only [settle, hname, Except.map]
    | some trimmed => simp only [settle, hname]
  | groupInfo group =>
    exact (Engine.atomic_groupInfo hb group).map (Except.map GroupAnswer.info)
  | membersOf group =>
    exact (Engine.atomic_membersOf hb group).map (Except.map GroupAnswer.users)
  | resolveMembers group =>
    exact (Engine.atomic_resolveMembers hb group).map (Except.map GroupAnswer.users)
  | groupsOf user =>
    exact (hb.groupsOf user).map (Except.map GroupAnswer.groups)
  | addMembers actor group users =>
    exact (Engine.atomic_addMembers hb actor group users).map
      (Except.map fun _ => GroupAnswer.done)
  | removeMember actor group user =>
    exact (Engine.atomic_removeMember hb actor group user).map
      (Except.map fun _ => GroupAnswer.done)
  | deleteGroup actor group =>
    exact (Engine.atomic_deleteGroup hb actor group (atomic_act _)).map
      (Except.map fun _ => GroupAnswer.done)

end GroupCall

end ExpenseLedger
