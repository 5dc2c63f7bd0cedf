import ExpenseLedger.Proofs.Groups.Requests
/-!
# The chronicle of the groups

What has been done to groups, told in order, says which groups there are and who their members are:
a group is as it was created, and has the members that were added since and not removed later. Each
request that succeeds in changing a group adds one deed to the chronicle, and a request that fails
adds none and changes nothing. Main statements:

* `GroupCall.settle_cases`: what a request does is its deed;
* `Chronicle.enlisted_concat`: who is enlisted after one more deed;
* `Chronicle.Tells.take`: each deed carries the chronicle on.
-/

open ExpenseLedger.Task

namespace ExpenseLedger

/-! ## Members and names -/

/-- The keys of a set are those that were there and those that were added. -/
theorem KeySet.mem_keys_addAll {κ : Type} [OrderedKey κ] (s : KeySet κ) (ks : List κ) (k : κ) :
    k ∈ (KeySet.addAll s ks).keys ↔ k ∈ s.keys ∨ k ∈ ks := by
  induction ks generalizing s with
  | nil => simp [addAll]
  | cons x ks ih =>
    have hadd : k ∈ (KeySet.add s x).keys ↔ k = x ∨ k ∈ s.keys := by
      rw [Table.mem_keys_iff, Table.mem_keys_iff, Table.contains, Table.contains, add,
        Table.get?_insert]
      by_cases h : k = x
      · simp [h]
      · simp [h]
    have hstep : KeySet.addAll s (x :: ks) = KeySet.addAll (KeySet.add s x) ks := rfl
    rw [hstep, ih, hadd, List.mem_cons]
    constructor
    · rintro ((h | h) | h)
      · exact .inr (.inl h)
      · exact .inl h
      · exact .inr (.inr h)
    · rintro (h | h | h)
      · exact .inl (.inr h)
      · exact .inl (.inl h)
      · exact .inr h

/-- The other keys of a set stay when one is erased. -/
theorem KeySet.mem_keys_erase {κ : Type} [OrderedKey κ] (s : KeySet κ) (x k : κ) :
    k ∈ (s.erase x).keys ↔ k ∈ s.keys ∧ k ≠ x := by
  rw [Table.mem_keys_iff, Table.mem_keys_iff, Table.contains, Table.contains, Table.get?_erase]
  by_cases h : k = x
  · simp [h]
  · simp [h]

/-- A name without blanks around it, of a length that is allowed. -/
structure ProperName (name : String) : Prop where
  /-- It does not begin with a blank. -/
  front : ∀ c ∈ name.toList.head?, Text.isBlank c = false
  /-- It does not end with a blank. -/
  back : ∀ c ∈ name.toList.getLast?, Text.isBlank c = false
  /-- It is long enough. -/
  least : 3 ≤ name.length
  /-- It is short enough. -/
  most : name.length ≤ 64

/-- A name that is accepted is trimmed, and is then a proper one. -/
theorem Engine.groupName?_eq_some (raw name : String) (h : groupName? raw = some name) :
    name = Text.trim raw ∧ ProperName name := by
  unfold groupName? at h
  dsimp only at h
  split at h
  · rename_i hlength
    cases h
    have hchars : (Text.trim raw).toList = Text.trimChars raw.toList := by
      unfold Text.trim
      rw [String.toList_ofList]
    refine ⟨rfl, fun c hc => ?_, fun c hc => ?_, hlength.1, hlength.2⟩
    · rw [hchars] at hc
      exact Text.head?_trimChars _ c hc
    · rw [hchars] at hc
      exact Text.getLast?_trimChars _ c hc
  · contradiction

/-! ## Deeds -/

/-- What has been done to a group. -/
inductive Deed where
  /-- Somebody created a group and asked for a name. -/
  | created (creator : UserId) (name : String) (group : Group)
  /-- Members were added. -/
  | added (group : GroupId) (users : List UserId)
  /-- A member was removed. -/
  | removed (group : GroupId) (user : UserId)
  /-- The group was deleted. -/
  | deleted (group : GroupId)
deriving DecidableEq

/-- The groups that exist, with their members. -/
abbrev Groups : Type := Table GroupId Directory.Entry

/-- A deed that can be done, and what it does to the groups. -/
inductive Deed.Takes : Deed → Groups → Groups → Prop where
  /-- A group is created with a proper name and without members. -/
  | created (creator : UserId) (name : String) (group : Group) (t : Groups)
      (hname : Engine.groupName? name = some group.name) (howner : group.owner = creator) :
      Takes (.created creator name group) t (t.insert group.id ⟨group, Table.empty⟩)
  /-- Members are added to a group that exists, and its owner is none of them. -/
  | added (id : GroupId) (users : List UserId) (t : Groups) (e : Directory.Entry)
      (he : t.get? id = some e) (howner : e.group.owner ∉ users) :
      Takes (.added id users) t
        (t.insert id { e with members := KeySet.addAll e.members users })
  /-- A member is removed from a group that exists. -/
  | removed (id : GroupId) (user : UserId) (t : Groups) (e : Directory.Entry)
      (he : t.get? id = some e) :
      Takes (.removed id user) t (t.insert id { e with members := e.members.erase user })
  /-- A group that exists is deleted. -/
  | deleted (id : GroupId) (t : Groups) (e : Directory.Entry) (he : t.get? id = some e) :
      Takes (.deleted id) t (t.erase id)

namespace GroupCall

/-- What a request that was answered has done. -/
def deed? : GroupCall → Except Error GroupAnswer → Option Deed
  | createGroup name owner, .ok (.created group) => some (.created owner name group)
  | addMembers _ group users, .ok _ => some (.added group users)
  | removeMember _ group user, .ok _ => some (.removed group user)
  | deleteGroup _ group, .ok _ => some (.deleted group)
  | _, _ => none

/-- Who is refused has done nothing. -/
theorem deed?_error (c : GroupCall) (e : Error) : c.deed? (.error e) = none := by
  cases c <;> rfl

/-- **What a request does is its deed**, and without a deed it leaves the directory alone. -/
theorem settle_cases (c : GroupCall) (s : Store) :
    (c.deed? (c.settle s).1 = none ∧ (c.settle s).2.directory = s.directory) ∨
      ∃ x, c.deed? (c.settle s).1 = some x ∧
        x.Takes s.directory.entries (c.settle s).2.directory.entries := by
  cases c with
  | createGroup name owner =>
    cases hname : Engine.groupName? name with
    | none =>
      simp only [settle, hname]
      exact .inl ⟨deed?_error _ _, trivial⟩
    | some trimmed =>
      simp only [settle, hname, Store.createGroup, Directory.create]
      by_cases hfailing : s.directory.failing = true
      · rw [if_pos hfailing]
        exact .inl ⟨rfl, rfl⟩
      · rw [if_neg hfailing]
        exact .inr ⟨_, rfl, .created owner name _ _ hname rfl⟩
  | groupInfo group => exact .inl ⟨by cases h : (settle (.groupInfo group) s).1 <;> rfl, rfl⟩
  | membersOf group => exact .inl ⟨by cases h : (settle (.membersOf group) s).1 <;> rfl, rfl⟩
  | resolveMembers group =>
    exact .inl ⟨by cases h : (settle (.resolveMembers group) s).1 <;> rfl, rfl⟩
  | groupsOf user => exact .inl ⟨by cases h : (settle (.groupsOf user) s).1 <;> rfl, rfl⟩
  | addMembers actor group users =>
    simp only [settle]
    rcases s.directory.enroll_cases group actor users with
      ⟨⟨e, he⟩, hd⟩ | ⟨hok, e, he, hactor, hmem, hd⟩
    · rw [he, hd]
      exact .inl ⟨rfl, rfl⟩
    · rw [hok, hd]
      refine .inr ⟨_, rfl, .added group users _ e he ?_⟩
      rw [hactor]
      exact hmem
  | removeMember actor group user =>
    simp only [settle]
    rcases s.directory.dismiss_cases group actor user with ⟨⟨e, he⟩, hd⟩ | ⟨hok, e, he, -, hd⟩
    · rw [he, hd]
      exact .inl ⟨rfl, rfl⟩
    · rw [hok, hd]
      exact .inr ⟨_, rfl, .removed group user _ e he⟩
  | deleteGroup actor group =>
    simp only [settle]
    rcases s.directory.dissolve_cases group actor with ⟨⟨e, he⟩, hd⟩ | ⟨hok, e, he, -, hd⟩
    · rw [he, hd]
      exact .inl ⟨rfl, rfl⟩
    · rw [hok, hd]
      exact .inr ⟨_, rfl, .deleted group _ e he⟩

/-- The request is to add nobody. -/
def addsNobody : GroupCall → Bool
  | addMembers _ _ users => users.isEmpty
  | _ => false

/-- The error that answers a request about a group that does not exist. Who wants to add nobody is
told so first. -/
def absence (id : GroupId) (c : GroupCall) : Error :=
  if c.addsNobody then .noMembersNamed else .unknownGroup id

/-- A request to add nobody is a bad one, and any other asks for what is not found. -/
theorem kind_absence (id : GroupId) (c : GroupCall) :
    (c.absence id).kind = if c.addsNobody then .badRequest else .notFound := by
  unfold absence
  split <;> rfl

/-- Nothing can be asked of a group that does not exist. -/
theorem settle_unknown (c : GroupCall) (s : Store) (id : GroupId)
    (hservice : s.directory.failing = false) (hnone : s.directory.entries.get? id = none)
    (hc : c.group? = some id) : (c.settle s).1 = .error (c.absence id) := by
  have hrequire : s.directory.require id = .error (.unknownGroup id) := by
    rw [Directory.require_of_not_failing _ _ hservice, hnone]
  have howner (actor : UserId) :
      s.directory.requireOwner actor id = .error (.unknownGroup id) := by
    unfold Directory.requireOwner
    rw [hrequire]
  cases c with
  | createGroup name owner => cases hc
  | groupsOf user => cases hc
  | groupInfo group =>
    cases hc
    simp only [settle, Directory.info, hrequire]
    rfl
  | membersOf group =>
    cases hc
    simp only [settle, Directory.roster, hrequire]
    rfl
  | resolveMembers group =>
    cases hc
    simp only [settle, Directory.sharers, hrequire]
    rfl
  | addMembers actor group users =>
    cases hc
    cases users with
    | nil => rfl
    | cons u us =>
      simp only [settle, Directory.enroll, howner, List.isEmpty_cons, Bool.false_eq_true, if_false]
      rfl
  | removeMember actor group user =>
    cases hc
    simp only [settle, Directory.dismiss, howner]
    rfl
  | deleteGroup actor group =>
    cases hc
    simp only [settle, Directory.dissolve, howner]
    rfl

/-- A group that exists is shown as it is kept, with its members. -/
theorem settle_known (s : Store) (id : GroupId) (e : Directory.Entry)
    (hservice : s.directory.failing = false) (he : s.directory.entries.get? id = some e) :
    (settle (.groupInfo id) s).1 = .ok (.info ⟨e.group, e.members.keys⟩) ∧
      (settle (.membersOf id) s).1 = .ok (.users e.members.keys) := by
  have hrequire : s.directory.require id = .ok e.group := by
    rw [Directory.require_of_not_failing _ _ hservice, he]
  have hmembers : s.directory.members id = .ok e.members.keys := by
    simp only [Directory.members, Directory.query, hservice, he, Bool.false_eq_true, if_false]
  constructor
  · simp only [settle, Directory.info, hrequire, hmembers]
    rfl
  · simp only [settle, Directory.roster, hrequire, hmembers]
    rfl

/-- The groups that are listed exist. -/
theorem mem_groups_of_settle (user : UserId) (s : Store) (gs : List Group)
    (h : (settle (.groupsOf user) s).1 = .ok (.groups gs)) (g : Group) (hg : g ∈ gs) :
    ∃ id e, s.directory.entries.get? id = some e ∧ e.group = g := by
  simp only [settle, Directory.groupsOf, Directory.query] at h
  split at h
  · contradiction
  · cases h
    rw [List.mem_mergeSort, List.mem_map] at hg
    obtain ⟨e, he, rfl⟩ := hg
    obtain ⟨⟨id, e'⟩, hentry, rfl⟩ := List.mem_map.1 (List.mem_filter.1 he).1
    exact ⟨id, e', (Table.get?_eq_some_iff _ _ _).2 hentry, rfl⟩

end GroupCall

/-! ## Chronicles -/

/-- The group that a deed is about. -/
def Deed.group : Deed → GroupId
  | created _ _ group => group.id
  | added group _ | removed group _ | deleted group => group

/-- The identifier that a deed gives to a new group. -/
def Deed.founds? : Deed → Option GroupId
  | created _ _ group => some group.id
  | _ => none

namespace Chronicle

/-- The identifiers that were given to new groups. -/
def founded (h : List Deed) : List GroupId := h.filterMap Deed.founds?

/-- The user was named when members were added to a group, and was not removed from it later. -/
def Enlisted (id : GroupId) (user : UserId) (h : List Deed) : Prop :=
  ∃ before users after, h = before ++ .added id users :: after ∧ user ∈ users ∧
    Deed.removed id user ∉ after

/-- Nobody is enlisted without a deed. -/
theorem not_enlisted_nil (id : GroupId) (user : UserId) : ¬ Enlisted id user [] := by
  rintro ⟨before, users, after, h, -, -⟩
  exact absurd h.symm (by simp)

/-- With one more deed, those are enlisted whom it names, and who were enlisted and are not removed
by it. -/
theorem enlisted_concat (id : GroupId) (user : UserId) (h : List Deed) (x : Deed) :
    Enlisted id user (h ++ [x]) ↔
      (∃ users, x = .added id users ∧ user ∈ users) ∨
        (Enlisted id user h ∧ x ≠ .removed id user) := by
  constructor
  · rintro ⟨before, users, after, heq, huser, hafter⟩
    rcases List.eq_nil_or_concat after with rfl | ⟨rest, y, rfl⟩
    · obtain ⟨-, hlast⟩ := List.append_inj' heq rfl
      cases hlast
      exact .inl ⟨users, rfl, huser⟩
    · rw [List.concat_eq_append] at heq hafter
      have hsplit : h ++ [x] = (before ++ .added id users :: rest) ++ [y] := by
        rw [heq, List.append_assoc, List.cons_append]
      obtain ⟨rfl, hlast⟩ := List.append_inj' hsplit rfl
      cases hlast
      refine .inr ⟨⟨before, users, rest, rfl, huser, fun hmem => ?_⟩, fun hx => ?_⟩
      · exact hafter (List.mem_append_left _ hmem)
      · exact hafter (List.mem_append_right _ (List.mem_singleton.2 hx.symm))
  · rintro (⟨users, rfl, huser⟩ | ⟨⟨before, users, after, rfl, huser, hafter⟩, hx⟩)
    · exact ⟨h, users, [], rfl, huser, List.not_mem_nil⟩
    · refine ⟨before, users, after ++ [x], by simp, huser, fun hmem => ?_⟩
      rcases List.mem_append.1 hmem with hmem | hmem
      · exact hafter hmem
      · exact hx (List.mem_singleton.1 hmem).symm

/-- What is known of a group from what has been done since its creation. -/
structure Lives (id : GroupId) (creator : UserId) (name : String) (since : List Deed)
    (e : Directory.Entry) : Prop where
  /-- It is kept under its own identifier. -/
  identifier : e.group.id = id
  /-- Its owner is its creator. -/
  owner : e.group.owner = creator
  /-- Its name is the one that was asked for, without blanks around it. -/
  name : Engine.groupName? name = some e.group.name
  /-- It has not been deleted. -/
  undeleted : Deed.deleted id ∉ since
  /-- Its owner is none of the members. -/
  apart : e.group.owner ∉ e.members.keys
  /-- Its members are those who are enlisted. -/
  members : ∀ user, user ∈ e.members.keys ↔ Enlisted id user since

/-- The group was created in the chronicle, and has been as it is told since. -/
def Standing (h : List Deed) (id : GroupId) (e : Directory.Entry) : Prop :=
  ∃ before creator name since, h = before ++ .created creator name e.group :: since ∧
    Lives id creator name since e

/-- The owner of a group that stands is none of its members. -/
theorem Standing.apart {h : List Deed} {id : GroupId} {e : Directory.Entry}
    (hs : Standing h id e) : e.group.owner ∉ e.members.keys := by
  obtain ⟨_, _, _, _, _, hl⟩ := hs
  exact hl.apart

/-- A group stands after one more deed that leaves it a group, if its members are the ones that the
deed leaves. -/
theorem Standing.concat {h : List Deed} {id : GroupId} {e e' : Directory.Entry}
    (hs : Standing h id e) (x : Deed) (hx : x ≠ .deleted id) (hgroup : e'.group = e.group)
    (hapart : e.group.owner ∉ e'.members.keys)
    (hmembers : ∀ user, user ∈ e'.members.keys ↔
      (∃ users, x = .added id users ∧ user ∈ users) ∨
        (user ∈ e.members.keys ∧ x ≠ .removed id user)) :
    Standing (h ++ [x]) id e' := by
  obtain ⟨before, creator, name, since, rfl, hl⟩ := hs
  refine ⟨before, creator, name, since ++ [x], by simp [hgroup], ?_⟩
  refine ⟨hgroup ▸ hl.identifier, hgroup ▸ hl.owner, hgroup ▸ hl.name, fun hmem => ?_,
    hgroup ▸ hapart, fun user => ?_⟩
  · rcases List.mem_append.1 hmem with hmem | hmem
    · exact hl.undeleted hmem
    · exact hx (List.mem_singleton.1 hmem).symm
  · rw [hmembers, enlisted_concat, hl.members]

/-- A deed about another group leaves a group standing as it is. -/
theorem Standing.concat_other {h : List Deed} {id : GroupId} {e : Directory.Entry}
    (hs : Standing h id e) (x : Deed) (hx : x.group ≠ id) : Standing (h ++ [x]) id e := by
  refine hs.concat x (fun h => hx (by rw [h]; rfl)) rfl hs.apart fun user => ?_
  constructor
  · exact fun hmem => .inr ⟨hmem, fun h => hx (by rw [h]; rfl)⟩
  · rintro (⟨users, rfl, -⟩ | ⟨hmem, -⟩)
    · exact absurd rfl hx
    · exact hmem

/-- The chronicle tells which groups exist, and what they are like. -/
structure Tells (h : List Deed) (t : Groups) : Prop where
  /-- Groups that exist are as it is told. -/
  standing : ∀ id e, t.get? id = some e → Standing h id e
  /-- Groups that were deleted have existed, and do not any more. -/
  gone : ∀ id, Deed.deleted id ∈ h → t.get? id = none ∧ id ∈ founded h
  /-- Groups that were created and not deleted exist. -/
  present : ∀ id ∈ founded h, Deed.deleted id ∉ h → ∃ e, t.get? id = some e

/-- In the beginning there is nothing to tell. -/
theorem tells_nil : Tells [] Table.empty := by
  refine ⟨fun id e h => ?_, fun id h => ?_, fun id h => ?_⟩
  · contradiction
  · contradiction
  · contradiction

/-- A group that stands has been created. -/
theorem Standing.mem_founded {h : List Deed} {id : GroupId} {e : Directory.Entry}
    (hs : Standing h id e) : id ∈ founded h := by
  obtain ⟨before, creator, name, since, rfl, hl⟩ := hs
  refine List.mem_filterMap.2 ⟨_, List.mem_append_right _ List.mem_cons_self, ?_⟩
  exact congrArg some hl.identifier

/-- A group that exists has not been deleted. -/
theorem Tells.deleted_not_mem {h : List Deed} {t : Groups} (ht : Tells h t) {id : GroupId}
    {e : Directory.Entry} (he : t.get? id = some e) : Deed.deleted id ∉ h := by
  intro hmem
  have hnone := (ht.gone id hmem).1
  rw [he] at hnone
  contradiction

/-- Whoever has been deleted by then was deleted before, unless it is by the last deed. -/
theorem deleted_mem_concat {h : List Deed} {x : Deed} {id : GroupId} :
    Deed.deleted id ∈ h ++ [x] ↔ Deed.deleted id ∈ h ∨ x = .deleted id := by
  rw [List.mem_append, List.mem_singleton, eq_comm (a := x)]

/-- What is founded by then was founded before, unless it is by the last deed. -/
theorem mem_founded_concat {h : List Deed} {x : Deed} {id : GroupId} :
    id ∈ founded (h ++ [x]) ↔ id ∈ founded h ∨ x.founds? = some id := by
  unfold founded
  rw [List.filterMap_append, List.mem_append]
  cases hx : x.founds? with
  | none => simp [hx]
  | some y => simp [hx, eq_comm]

/-- A change of the members of a group that exists carries the chronicle on. -/
theorem Tells.change {h : List Deed} {t : Groups} (ht : Tells h t) (x : Deed)
    (e : Directory.Entry) (members : KeySet UserId) (he : t.get? x.group = some e)
    (hx : x ≠ .deleted x.group) (hfounds : x.founds? = none)
    (hstanding : Standing (h ++ [x]) x.group { e with members }) :
    Tells (h ++ [x]) (t.insert x.group { e with members }) := by
  refine ⟨fun id f hf => ?_, fun id hid => ?_, fun id hid hdel => ?_⟩
  · rw [Table.get?_insert] at hf
    by_cases hid : id = x.group
    · rw [if_pos hid] at hf
      cases hf
      rw [hid]
      exact hstanding
    · rw [if_neg hid] at hf
      exact (ht.standing id f hf).concat_other x (Ne.symm hid)
  · rcases deleted_mem_concat.1 hid with hid | rfl
    · obtain ⟨hnone, hfounded⟩ := ht.gone id hid
      refine ⟨?_, mem_founded_concat.2 (.inl hfounded)⟩
      rw [Table.get?_insert_of_ne _ _ fun heq => ?_]
      · exact hnone
      · rw [heq, he] at hnone
        contradiction
    · exact absurd rfl hx
  · rcases mem_founded_concat.1 hid with hid | hid
    · obtain ⟨f, hf⟩ := ht.present id hid fun hmem => hdel (deleted_mem_concat.2 (.inl hmem))
      rw [Table.get?_insert]
      split
      · exact ⟨_, rfl⟩
      · exact ⟨f, hf⟩
    · rw [hfounds] at hid
      contradiction

/-- **Each deed carries the chronicle on**, if new groups are given new identifiers. -/
theorem Tells.take {h : List Deed} {t t' : Groups} {x : Deed} (ht : Tells h t)
    (hx : x.Takes t t') (hfresh : ∀ id, x.founds? = some id → id ∉ founded h) :
    Tells (h ++ [x]) t' := by
  cases hx with
  | created creator name group t hname howner =>
    have hnew : group.id ∉ founded h := hfresh group.id rfl
    refine ⟨fun id e he => ?_, fun id hid => ?_, fun id hid hdel => ?_⟩
    · rw [Table.get?_insert] at he
      by_cases hid : id = group.id
      · rw [if_pos hid] at he
        cases he
        refine ⟨h, creator, name, [], rfl, hid.symm, howner, hname, List.not_mem_nil, ?_, ?_⟩
        · exact List.not_mem_nil
        · intro user
          exact ⟨fun hmem => absurd hmem List.not_mem_nil,
            fun hmem => absurd hmem (not_enlisted_nil id user)⟩
      · rw [if_neg hid] at he
        exact (ht.standing id e he).concat_other _ (Ne.symm hid)
    · rcases deleted_mem_concat.1 hid with hid | hid
      · obtain ⟨hnone, hfounded⟩ := ht.gone id hid
        refine ⟨?_, mem_founded_concat.2 (.inl hfounded)⟩
        have hne : id ≠ group.id := fun heq => hnew (heq ▸ hfounded)
        rw [Table.get?_insert_of_ne _ _ hne]
        exact hnone
      · cases hid
    · rcases mem_founded_concat.1 hid with hid | hid
      · obtain ⟨e, he⟩ := ht.present id hid fun hmem => hdel (deleted_mem_concat.2 (.inl hmem))
        have hne : id ≠ group.id := fun heq => hnew (heq ▸ hid)
        rw [Table.get?_insert_of_ne _ _ hne]
        exact ⟨e, he⟩
      · cases hid
        exact ⟨_, Table.get?_insert_self _ _ _⟩
  | added id users t e he howner =>
    have hs := ht.standing id e he
    refine ht.change (.added id users) e _ he (by simp) rfl ?_
    refine hs.concat _ (by simp) rfl (fun hmem => ?_) fun user => ?_
    · rcases (KeySet.mem_keys_addAll _ _ _).1 hmem with hmem | hmem
      · exact hs.apart hmem
      · exact howner hmem
    · rw [KeySet.mem_keys_addAll, or_comm]
      simp
  | removed id user t e he =>
    have hs := ht.standing id e he
    refine ht.change (.removed id user) e _ he (by simp) rfl ?_
    refine hs.concat _ (by simp) rfl (fun hmem => ?_) fun other => ?_
    · exact hs.apart ((KeySet.mem_keys_erase _ _ _).1 hmem).1
    · rw [KeySet.mem_keys_erase]
      simp [eq_comm]
  | deleted id t e he =>
    have hfounded := (ht.standing id e he).mem_founded
    refine ⟨fun other f hf => ?_, fun other hother => ?_, fun other hother hdel => ?_⟩
    · rw [Table.get?_erase] at hf
      by_cases ho : other = id
      · rw [if_pos ho] at hf
        contradiction
      · rw [if_neg ho] at hf
        exact (ht.standing other f hf).concat_other _ (Ne.symm ho)
    · rcases deleted_mem_concat.1 hother with hother | hother
      · obtain ⟨hnone, hold⟩ := ht.gone other hother
        refine ⟨?_, mem_founded_concat.2 (.inl hold)⟩
        rw [Table.get?_erase]
        split
        · rfl
        · exact hnone
      · cases hother
        exact ⟨Table.get?_erase_self _ _, mem_founded_concat.2 (.inl hfounded)⟩
    · rcases mem_founded_concat.1 hother with hother | hother
      · obtain ⟨f, hf⟩ := ht.present other hother
          fun hmem => hdel (deleted_mem_concat.2 (.inl hmem))
        refine ⟨f, ?_⟩
        rw [Table.get?_erase_of_ne _ fun heq => hdel (deleted_mem_concat.2 (.inr ?_))]
        · exact hf
        · rw [heq]
      · cases hother

end Chronicle

end ExpenseLedger
