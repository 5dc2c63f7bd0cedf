import ExpenseLedger.Proofs.Engine.Acceptance
import ExpenseLedger.Proofs.Groups.Chronicle
/-!
# The owner of a group

Whoever does not own a group is refused before anything else about the group is looked at. So the
refusal is the same for all directories with the same groups, whatever their members, and comes
after the same time. The owner is refused for the arguments of a request alone. Main statements:

* `GroupCall.takes_perform_of_not_owns`: what is answered to anybody else;
* `GroupCall.settle_addMembers_eq_ok_iff` and its like: when the owner succeeds;
* `GroupCall.byOwner_of_settle_ne`: who is behind a change.
-/

open ExpenseLedger.Task

namespace ExpenseLedger

/-! ## Owners -/

namespace Directory

variable (actor : UserId) (group : GroupId) (d : Directory)

/-- The group exists, and the user owns it. -/
def Owns : Prop := ∃ e, d.entries.get? group = some e ∧ e.group.owner = actor

/-- What is told to those who do not own a group. -/
def denial : Error := if d.entries.contains group then .notGroupOwner else .unknownGroup group

/-- The groups of two directories are the same, but for their members. -/
structure SameButMembers (d d' : Directory) : Prop where
  /-- The same groups exist. -/
  groups : ∀ id, (d'.entries.get? id).map Entry.group = (d.entries.get? id).map Entry.group
  /-- Both are in service, or neither is. -/
  failing : d'.failing = d.failing

variable {actor group d}

/-- A denial forbids, or tells that there is nothing to be forbidden. -/
theorem kind_denial :
    (d.denial group).kind = if d.entries.contains group then .forbidden else .notFound := by
  unfold denial
  split
  · rfl
  · rfl

/-- Who does not own a group is denied it. -/
theorem requireOwner_of_not_owns (hservice : d.failing = false) (hactor : ¬ d.Owns actor group) :
    d.requireOwner actor group = .error (d.denial group) := by
  unfold requireOwner denial Table.contains
  rw [require_of_not_failing d group hservice]
  cases he : d.entries.get? group with
  | none => rfl
  | some e =>
    have howner : e.group.owner ≠ actor := fun heq => hactor ⟨e, he, heq⟩
    show (if e.group.owner = actor then _ else _) = _
    rw [if_neg howner]
    rfl

/-- The owner passes. -/
theorem requireOwner_of_owns (hservice : d.failing = false) (hactor : d.Owns actor group) :
    d.requireOwner actor group = .ok () := by
  obtain ⟨e, he, howner⟩ := hactor
  unfold requireOwner
  rw [require_of_not_failing d group hservice, he]
  exact if_pos howner

/-- A group exists in both directories or in neither. -/
theorem SameButMembers.contains_eq {d' : Directory} (h : d.SameButMembers d') (id : GroupId) :
    d'.entries.contains id = d.entries.contains id := by
  have hgroups := congrArg Option.isSome (h.groups id)
  rw [Option.isSome_map, Option.isSome_map] at hgroups
  exact hgroups

/-- A group has the same owner in both directories. -/
theorem SameButMembers.owns_iff {d' : Directory} (h : d.SameButMembers d') (actor : UserId)
    (group : GroupId) : d'.Owns actor group ↔ d.Owns actor group := by
  have howns (d : Directory) : d.Owns actor group ↔
      ∃ found, (d.entries.get? group).map Entry.group = some found ∧ found.owner = actor := by
    constructor
    · rintro ⟨e, he, howner⟩
      exact ⟨e.group, by rw [he]; rfl, howner⟩
    · rintro ⟨found, hfound, howner⟩
      obtain ⟨e, he, rfl⟩ := Option.map_eq_some_iff.1 hfound
      exact ⟨e, he, howner⟩
  rw [howns, howns, h.groups group]

/-- The same is told of a group in both directories. -/
theorem SameButMembers.denial_eq {d' : Directory} (h : d.SameButMembers d') (group : GroupId) :
    d'.denial group = d.denial group := by
  unfold denial
  rw [h.contains_eq group]

end Directory

/-! ## What is answered to others -/

/-- Checking the owner of a group takes the wait of the directory. -/
theorem Engine.takes_requireOwner (w : Store.Waits) (actor : UserId) (group : GroupId)
    (s : Store) :
    Takes (requireOwner (Store.backends w) actor group) s w.findGroup
      (s.directory.requireOwner actor group) s := by
  have hrequire := takes_requireGroup w group s
  unfold requireOwner Directory.requireOwner
  cases hfound : s.directory.require group with
  | error e =>
    rw [hfound] at hrequire
    exact hrequire.bind_instant (.pure _ s)
  | ok found =>
    rw [hfound] at hrequire
    exact hrequire.bind_instant (.pure _ s)

namespace GroupCall

/-- An actor asks to add somebody to a group, to take somebody out, or to delete the group. -/
inductive Manages (actor : UserId) (group : GroupId) : GroupCall → Prop where
  /-- There is somebody to add. -/
  | addMembers (users : List UserId) (h : users ≠ []) :
    Manages actor group (.addMembers actor group users)
  /-- Anybody may be taken out. -/
  | removeMember (user : UserId) : Manages actor group (.removeMember actor group user)
  /-- The group may be deleted. -/
  | deleteGroup : Manages actor group (.deleteGroup actor group)

variable {actor : UserId} {group : GroupId} {c : GroupCall} {s : Store}

/-- Who is refused as not being the owner is told so, and nothing else happens. -/
theorem Manages.takes_perform (hc : c.Manages actor group) (w : Store.Waits) {err : Error}
    (h : s.directory.requireOwner actor group = .error err) :
    Takes (c.perform (Store.backends w)) s w.findGroup (.error err) s := by
  have howner := Engine.takes_requireOwner w actor group s
  rw [h] at howner
  cases hc with
  | addMembers users hne =>
    have hadd : Takes (Engine.addMembers (Store.backends w) actor group users) s w.findGroup
        (.error err) s := by
      unfold Engine.addMembers
      rw [if_neg (by simpa using hne)]
      exact howner.bind_instant (.pure _ s)
    exact hadd.bind_instant (.pure _ s)
  | removeMember user =>
    have hremove : Takes (Engine.removeMember (Store.backends w) actor group user) s w.findGroup
        (.error err) s := howner.bind_instant (.pure _ s)
    exact hremove.bind_instant (.pure _ s)
  | deleteGroup =>
    have hdelete : Takes (Engine.deleteGroup (Store.backends w) actor group) s w.findGroup
        (.error err) s := howner.bind_instant (.pure _ s)
    exact hdelete.bind_instant (.pure _ s)

/-- **Who does not own a group is told whether it exists, after the same time, and nothing else
happens.** -/
theorem Manages.takes_perform_of_not_owns (hc : c.Manages actor group)
    (hservice : s.directory.failing = false) (hactor : ¬ s.directory.Owns actor group)
    (w : Store.Waits) :
    Takes (c.perform (Store.backends w)) s w.findGroup (.error (s.directory.denial group)) s :=
  hc.takes_perform w (Directory.requireOwner_of_not_owns hservice hactor)

/-- **So it is in every store with the same groups**, whoever their members are. -/
theorem Manages.takes_perform_of_sameButMembers (hc : c.Manages actor group)
    (hservice : s.directory.failing = false) (hactor : ¬ s.directory.Owns actor group)
    (w : Store.Waits) {s' : Store} (h : s.directory.SameButMembers s'.directory) :
    Takes (c.perform (Store.backends w)) s' w.findGroup (.error (s.directory.denial group)) s' := by
  rw [← h.denial_eq group]
  apply hc.takes_perform_of_not_owns
  · rw [h.failing]
    exact hservice
  · rw [h.owns_iff actor group]
    exact hactor

/-! ## What is answered to the owner -/

section Owner

variable (hservice : s.directory.failing = false) (hactor : s.directory.Owns actor group)
include hservice hactor

/-- The owner adds anybody else, if there is somebody to add. -/
theorem settle_addMembers_eq_ok_iff (users : List UserId) :
    (settle (.addMembers actor group users) s).1 = .ok .done ↔ users ≠ [] ∧ actor ∉ users := by
  have howner := Directory.requireOwner_of_owns hservice hactor
  obtain ⟨e, he, -⟩ := hactor
  show (s.directory.enroll actor group users).1.map _ = _ ↔ _
  unfold Directory.enroll
  cases users with
  | nil =>
    constructor
    · intro h
      contradiction
    · rintro ⟨hne, -⟩
      contradiction
  | cons user users =>
    rw [if_neg (by simp), howner]
    dsimp only
    by_cases hmem : actor ∈ user :: users
    · rw [if_pos hmem]
      constructor
      · intro h
        contradiction
      · rintro ⟨-, hnot⟩
        contradiction
    · rw [if_neg hmem]
      simp only [Directory.addMembers, hservice, he, Bool.false_eq_true, if_false]
      exact iff_of_true rfl ⟨List.cons_ne_nil _ _, hmem⟩

/-- The owner takes out anybody else who is a member. -/
theorem settle_removeMember_eq_ok_iff (user : UserId) :
    (settle (.removeMember actor group user) s).1 = .ok .done ↔
      (∃ e, s.directory.entries.get? group = some e ∧ user ∈ e.members.keys) ∧ user ≠ actor := by
  have howner := Directory.requireOwner_of_owns hservice hactor
  obtain ⟨e, he, -⟩ := hactor
  have hmember : (∃ e, s.directory.entries.get? group = some e ∧ user ∈ e.members.keys) ↔
      e.members.contains user = true := by
    rw [he, ← Table.mem_keys_iff]
    constructor
    · rintro ⟨_, heq, h⟩
      cases heq
      exact h
    · exact fun h => ⟨e, rfl, h⟩
  rw [hmember]
  show (s.directory.dismiss actor group user).1.map _ = _ ↔ _
  unfold Directory.dismiss
  rw [howner]
  dsimp only
  by_cases hself : actor = user
  · rw [if_pos hself]
    constructor
    · intro h
      contradiction
    · rintro ⟨-, hne⟩
      exact absurd hself.symm hne
  · rw [if_neg hself]
    simp only [Directory.removeMember, hservice, he, Bool.false_eq_true, if_false]
    cases e.members.contains user with
    | false => simp [Directory.told, Except.map]
    | true => exact iff_of_true rfl ⟨rfl, Ne.symm hself⟩

/-- The owner deletes the group. -/
theorem settle_deleteGroup_eq_ok : (settle (.deleteGroup actor group) s).1 = .ok .done := by
  have howner := Directory.requireOwner_of_owns hservice hactor
  obtain ⟨e, he, -⟩ := hactor
  have hcontains : s.directory.entries.contains group = true :=
    (Table.contains_iff _ _).2 ⟨e, he⟩
  show (s.directory.dissolve actor group).1.map _ = _
  unfold Directory.dissolve
  rw [howner]
  simp only [Directory.delete, hservice, hcontains, Bool.false_eq_true, if_false]
  rfl

end Owner

/-! ## Who is behind a change -/

/-- Who asks for a change of the groups. -/
def actor? : GroupCall → Option UserId
  | createGroup _ owner => some owner
  | addMembers actor _ _ | removeMember actor _ _ | deleteGroup actor _ => some actor
  | _ => none

/-- The request succeeds and is made by the one to whom the group belongs: by its owner, or by
whoever creates it, who is its owner afterwards. -/
def ByOwner (group : GroupId) (s : Store) (c : GroupCall) : Prop :=
  ∃ actor answer, c.actor? = some actor ∧ (c.settle s).1 = .ok answer ∧
    ((c.group? = some group ∧ s.directory.Owns actor group) ∨
      ∃ name, c = .createGroup name actor ∧ (c.settle s).2.directory.Owns actor group)

/-- A request about one group that leaves the others alone, and changes this one for its owner only.
-/
theorem byOwner_of_group? {id : GroupId} (hactor : c.actor? = some actor)
    (hid : c.group? = some id)
    (hcases : (c.settle s).2.directory = s.directory ∨
      (c.settle s).1 = .ok .done ∧ s.directory.Owns actor id ∧ ∀ other, other ≠ id →
        (c.settle s).2.directory.entries.get? other = s.directory.entries.get? other)
    (h : (c.settle s).2.directory.entries.get? group ≠ s.directory.entries.get? group) :
    c.ByOwner group s := by
  rcases hcases with hsame | ⟨hanswer, howns, hothers⟩
  · rw [hsame] at h
    exact absurd rfl h
  · obtain rfl : group = id := by
      by_contra hne
      exact h (hothers group hne)
    exact ⟨actor, .done, hactor, hanswer, .inl ⟨hid, howns⟩⟩

/-- **Whoever changes a group or its members owns it.** -/
theorem byOwner_of_settle_ne (c : GroupCall) (s : Store) (group : GroupId)
    (h : (c.settle s).2.directory.entries.get? group ≠ s.directory.entries.get? group) :
    c.ByOwner group s := by
  cases c with
  | createGroup name owner =>
    cases hname : Engine.groupName? name with
    | none =>
      simp only [settle, hname] at h
      exact absurd rfl h
    | some trimmed =>
      by_cases hfailing : s.directory.failing = true
      · simp only [settle, hname, Store.createGroup, Directory.create, hfailing, if_true] at h
        exact absurd rfl h
      · -- The group with the new identifier is the only one that is not as before.
        have hcreated : settle (.createGroup name owner) s =
            (.ok (.created ⟨⟨Id.ofNat s.supply.next⟩, trimmed, owner, s.supply.now⟩),
              (s.createGroup trimmed owner).2) := by
          simp only [settle, hname, Store.createGroup, Directory.create, hfailing,
            Bool.false_eq_true, if_false]
          rfl
        have hentries : (s.createGroup trimmed owner).2.directory.entries =
            s.directory.entries.insert ⟨Id.ofNat s.supply.next⟩
              ⟨⟨⟨Id.ofNat s.supply.next⟩, trimmed, owner, s.supply.now⟩, Table.empty⟩ := by
          simp only [Store.createGroup, Directory.create, hfailing, Bool.false_eq_true, if_false]
        rw [hcreated, hentries] at h
        have hid : group = ⟨Id.ofNat s.supply.next⟩ := by
          by_contra hne
          exact h (Table.get?_insert_of_ne _ _ hne)
        refine ⟨owner, _, rfl, congrArg Prod.fst hcreated, .inr ⟨name, rfl, ?_⟩⟩
        rw [hcreated]
        refine ⟨⟨⟨⟨Id.ofNat s.supply.next⟩, trimmed, owner, s.supply.now⟩, Table.empty⟩, ?_, rfl⟩
        rw [hentries, hid, Table.get?_insert_self]
  | addMembers actor id users =>
    refine byOwner_of_group? rfl rfl ?_ h
    rcases s.directory.enroll_cases id actor users with
      ⟨-, hsame⟩ | ⟨hok, e, he, howner, -, hchanged⟩
    · exact .inl hsame
    · refine .inr ⟨congrArg (Except.map _) hok, ⟨e, he, howner⟩, fun other hne => ?_⟩
      show (s.directory.enroll actor id users).2.entries.get? other = _
      rw [hchanged]
      exact Table.get?_insert_of_ne _ _ hne
  | removeMember actor id user =>
    refine byOwner_of_group? rfl rfl ?_ h
    rcases s.directory.dismiss_cases id actor user with
      ⟨-, hsame⟩ | ⟨hok, e, he, howner, hchanged⟩
    · exact .inl hsame
    · refine .inr ⟨congrArg (Except.map _) hok, ⟨e, he, howner⟩, fun other hne => ?_⟩
      show (s.directory.dismiss actor id user).2.entries.get? other = _
      rw [hchanged]
      exact Table.get?_insert_of_ne _ _ hne
  | deleteGroup actor id =>
    refine byOwner_of_group? rfl rfl ?_ h
    rcases s.directory.dissolve_cases id actor with ⟨-, hsame⟩ | ⟨hok, e, he, howner, hchanged⟩
    · exact .inl hsame
    · refine .inr ⟨congrArg (Except.map _) hok, ⟨e, he, howner⟩, fun other hne => ?_⟩
      show (s.directory.dissolve actor id).2.entries.get? other = _
      rw [hchanged]
      exact Table.get?_erase_of_ne _ hne
  | groupInfo id => exact absurd rfl h
  | membersOf id => exact absurd rfl h
  | resolveMembers id => exact absurd rfl h
  | groupsOf user => exact absurd rfl h

end GroupCall

end ExpenseLedger
