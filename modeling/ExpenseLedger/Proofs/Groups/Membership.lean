import ExpenseLedger.Proofs.Engine.Acceptance
import ExpenseLedger.Proofs.Groups.Runs
import ExpenseLedger.Proofs.Run.Attained
import ExpenseLedger.Proofs.Run.Staleness
/-!
# Who belongs to a group

Membership is decided in three places, each in a way of its own: the list of a user's groups goes
through all groups, the list of those who share puts the owner before the members, and sharing an
expense counts who is left beside the payer. They agree wherever a run leads, because every group is
kept under its own identifier (`Directory.Filed`). Main statements:

* `Directory.exists_groupsOf`: what is listed for a user;
* `Directory.mem_ids_iff_includes`, `Directory.mem_sharers_iff_includes`: who belongs to a group;
* `Store.share_forbidden_iff`: whose expenses are refused as forbidden;
* `membership_agrees`: all of it, for any store that a run attains.
-/

open ExpenseLedger.Task

namespace ExpenseLedger

open Web

/-! ## Groups are kept under their own identifiers -/

namespace Directory

variable {d : Directory}

/-- Every group is kept under its own identifier. -/
def Filed (d : Directory) : Prop := ∀ id e, d.entries.get? id = some e → e.group.id = id

/-- A group may be put under its own identifier. -/
theorem Filed.insert (h : d.Filed) {id : GroupId} {e : Entry} (he : e.group.id = id) :
    Filed { d with entries := d.entries.insert id e } := by
  intro id' e' he'
  change (d.entries.insert id e).get? id' = some e' at he'
  rw [Table.get?_insert] at he'
  by_cases hid : id' = id
  · rw [if_pos hid] at he'
    cases he'
    rw [hid]
    exact he
  · rw [if_neg hid] at he'
    exact h id' e' he'

/-- A group may be taken out. -/
theorem Filed.erase (h : d.Filed) (id : GroupId) :
    Filed { d with entries := d.entries.erase id } := by
  intro id' e' he'
  change (d.entries.erase id).get? id' = some e' at he'
  rw [Table.get?_erase] at he'
  by_cases hid : id' = id
  · rw [if_pos hid] at he'
    contradiction
  · rw [if_neg hid] at he'
    exact h id' e' he'

/-- Creating a group. -/
theorem Filed.create (h : d.Filed) (group : Group) : (d.create group).2.Filed := by
  unfold Directory.create
  split
  · exact h
  · exact h.insert rfl

/-- Deleting a group. -/
theorem Filed.delete (h : d.Filed) (id : GroupId) : (d.delete id).2.Filed := by
  unfold Directory.delete
  split
  · exact h
  · exact h.erase id

/-- Adding members. -/
theorem Filed.addMembers (h : d.Filed) (id : GroupId) (users : List UserId) :
    (d.addMembers id users).2.Filed := by
  unfold Directory.addMembers
  split
  · exact h
  · cases he : d.entries.get? id with
    | none => exact h
    | some e =>
      apply h.insert
      show e.group.id = id
      exact h id e he

/-- Taking a member out. -/
theorem Filed.removeMember (h : d.Filed) (id : GroupId) (user : UserId) :
    (d.removeMember id user).2.Filed := by
  unfold Directory.removeMember
  split
  · exact h
  · cases he : d.entries.get? id with
    | none => exact h
    | some e =>
      apply h.insert
      show e.group.id = id
      exact h id e he

end Directory

/-- Whatever operation is performed, every group stays under its own identifier. -/
theorem Operation.keep_filed : Operation.Keep fun s => s.directory.Filed := by
  intro o s hs
  cases o with
  | createGroup name owner => exact hs.create _
  | deleteGroup group => exact hs.delete group
  | addMembers group users => exact hs.addMembers group users
  | removeMember group user => exact hs.removeMember group user
  | _ => exact hs

/-- **Wherever a run leads, every group is kept under its own identifier.** -/
theorem Web.Site.Attained.filed {x : Site Store} (hx : x.Attained) :
    x.engine.store.directory.Filed := by
  apply hx.keeps Operation.keep_filed
  · intro supply id e he
    contradiction
  · intro f s hs
    cases f with
    | directory failing => exact hs
    | _ => exact hs
  · intro s supply hs
    exact hs

/-! ## Who belongs to a group -/

namespace Directory

variable {d : Directory}

/-- A directory in service has a list for every user. -/
theorem exists_groupsOf (hservice : d.failing = false) (user : UserId) :
    ∃ groups, d.groupsOf user = .ok groups := by
  unfold groupsOf query
  rw [hservice]
  exact ⟨_, rfl⟩

/-- What is listed for a user: the groups that involve the user, in the order of their creation. -/
theorem pairwise_perm_of_groupsOf {user : UserId} {groups : List Group}
    (hlist : d.groupsOf user = .ok groups) :
    groups.Pairwise (fun a b => a.createdAt.le b.createdAt = true) ∧
      groups.Perm ((d.entries.values.filter (Entry.involves user)).map (·.group)) := by
  unfold groupsOf query at hlist
  split at hlist
  · contradiction
  · cases hlist
    constructor
    · apply List.pairwise_mergeSort
      · exact fun a b c => Timestamp.le_trans a.createdAt b.createdAt c.createdAt
      · exact fun a b => Timestamp.le_total a.createdAt b.createdAt
    · exact List.mergeSort_perm _ _

/-- The identifiers of all groups are those under which they are kept. -/
theorem Filed.ids_eq_keys (h : d.Filed) :
    d.entries.values.map (fun e => e.group.id) = d.entries.keys := by
  unfold Table.values Table.keys
  rw [List.map_map]
  apply List.map_congr_left
  intro entry hentry
  exact h entry.1 entry.2 ((Table.get?_eq_some_iff _ _ _).2 hentry)

/-- No group is listed twice. -/
theorem Filed.nodup_ids (h : d.Filed) {user : UserId} {groups : List Group}
    (hlist : d.groupsOf user = .ok groups) : (groups.map Group.id).Nodup := by
  obtain ⟨-, hperm⟩ := pairwise_perm_of_groupsOf hlist
  have hkeys : (d.entries.values.map fun e => e.group.id).Nodup := by
    rw [h.ids_eq_keys]
    exact d.entries.nodup_keys
  rw [(hperm.map Group.id).nodup_iff, List.map_map]
  exact hkeys.sublist (List.filter_sublist.map _)

/-- **A group is listed for a user exactly if it involves the user.** -/
theorem Filed.mem_ids_iff_includes (h : d.Filed) {user : UserId} {groups : List Group}
    (hlist : d.groupsOf user = .ok groups) (group : GroupId) :
    group ∈ groups.map Group.id ↔ d.Includes group user := by
  obtain ⟨-, hperm⟩ := pairwise_perm_of_groupsOf hlist
  rw [(hperm.map Group.id).mem_iff, List.map_map, List.mem_map]
  constructor
  · rintro ⟨e, he, rfl⟩
    obtain ⟨hvalue, hinvolves⟩ := List.mem_filter.1 he
    obtain ⟨⟨id, _⟩, hentry, rfl⟩ := List.mem_map.1 hvalue
    have hget := (Table.get?_eq_some_iff d.entries _ _).2 hentry
    have hid := h id _ hget
    show d.Includes (Group.id _) user
    rw [hid]
    exact ⟨_, hget, hinvolves⟩
  · rintro ⟨e, hget, hinvolves⟩
    refine ⟨e, List.mem_filter.2 ⟨?_, hinvolves⟩, h group e hget⟩
    exact List.mem_map.2 ⟨(group, e), (Table.get?_eq_some_iff _ _ _).1 hget, rfl⟩

/-- What a directory in service finds. -/
theorem find_of_not_failing (hservice : d.failing = false) (group : GroupId) :
    d.find group = .ok ((d.entries.get? group).map (·.group)) := by
  unfold find query
  rw [hservice]
  rfl

/-- The members that a directory in service lists for a group. -/
theorem members_of_get? (hservice : d.failing = false) {group : GroupId} {e : Entry}
    (he : d.entries.get? group = some e) : d.members group = .ok e.members.keys := by
  unfold members query
  rw [hservice]
  show Except.ok _ = _
  rw [he]

/-- Each group on the list is the one that is found under its identifier. -/
theorem Filed.find_of_mem (h : d.Filed) (hservice : d.failing = false) {user : UserId}
    {groups : List Group} (hlist : d.groupsOf user = .ok groups) {group : Group}
    (hgroup : group ∈ groups) : d.find group.id = .ok (some group) := by
  obtain ⟨-, hperm⟩ := pairwise_perm_of_groupsOf hlist
  obtain ⟨e, he, rfl⟩ := List.mem_map.1 (hperm.mem_iff.1 hgroup)
  obtain ⟨⟨id, _⟩, hentry, rfl⟩ := List.mem_map.1 (List.mem_filter.1 he).1
  have hget := (Table.get?_eq_some_iff d.entries _ _).2 hentry
  show d.find (Group.id _) = _
  rw [h id _ hget, find_of_not_failing hservice, hget]
  rfl

/-- A group involves its owner and its members. -/
theorem Entry.involves_iff (e : Entry) (user : UserId) :
    e.involves user = true ↔ user = e.group.owner ∨ user ∈ e.members.keys := by
  unfold involves
  rw [Bool.or_eq_true, decide_eq_true_eq, ← Table.mem_keys_iff, eq_comm]

/-- What is resolved in a directory in service is a list of those who share, of a group that exists.
-/
theorem exists_of_sharers (hservice : d.failing = false) {group : GroupId} {users : List UserId}
    (h : d.sharers group = .ok users) :
    ∃ e, d.entries.get? group = some e ∧ users = e.sharers := by
  rw [sharers_of_not_failing group d hservice] at h
  cases he : d.entries.get? group with
  | none =>
    rw [he] at h
    contradiction
  | some e =>
    rw [he] at h
    cases h
    exact ⟨e, rfl, rfl⟩

/-- The group is found, and the user is its owner or among the members that are listed for it. -/
def Has (group : GroupId) (user : UserId) (d : Directory) : Prop :=
  ∃ found members, d.find group = .ok (some found) ∧ d.members group = .ok members ∧
    (user = found.owner ∨ user ∈ members)

/-- A directory in service shows whom a group involves. -/
theorem has_iff_includes (hservice : d.failing = false) (group : GroupId) (user : UserId) :
    d.Has group user ↔ d.Includes group user := by
  constructor
  · rintro ⟨found, members, hfind, hmembers, huser⟩
    rw [find_of_not_failing hservice] at hfind
    obtain ⟨e, he, rfl⟩ := Option.map_eq_some_iff.1 (Except.ok.inj hfind)
    rw [members_of_get? hservice he] at hmembers
    cases hmembers
    refine ⟨e, he, (e.involves_iff user).2 huser⟩
  · rintro ⟨e, he, hinvolves⟩
    refine ⟨e.group, e.members.keys, ?_, members_of_get? hservice he, ?_⟩
    · rw [find_of_not_failing hservice, he]
      rfl
    · exact (e.involves_iff user).1 hinvolves

end Directory

/-! ## Whose expenses are refused -/

/-- The result is an error that forbids what was asked. -/
def Error.Forbids {α : Type} (r : Except Error α) : Prop := ∃ e, r = .error e ∧ e.kind = .forbidden

namespace Store

/-- Loans that pass the check are not forbidden. -/
theorem not_forbids_lend {lender : UserId} {amount : Int} {debtors : List UserId} {s : Store}
    (hcheck : Engine.checkBatch lender amount debtors = .ok ()) :
    ¬ Error.Forbids (s.lend lender amount debtors).1 := by
  rintro ⟨e, he, hkind⟩
  cases hservice : s.ledger.failing with
  | false =>
    obtain ⟨batch, hbatch, -⟩ := lend_of_checkBatch hservice hcheck
    rw [hbatch] at he
    contradiction
  | true =>
    have hlend : (s.lend lender amount debtors).1 = .error .ledgerUnavailable := by
      simp only [lend, hcheck, append, Ledger.append, hservice, if_true]
    rw [hlend] at he
    cases he
    contradiction

/-- **An expense of an amount that can be shared is forbidden to those alone who do not share it**,
whether the ledger is in service or not. -/
theorem forbids_share_iff {payer : UserId} {total : Int} {group : GroupId} {s : Store}
    {users : List UserId} (hsharers : s.directory.sharers group = .ok users)
    (hsize : 2 ≤ users.length) (hleast : 1 ≤ total) (hmost : total ≤ Amount.limit)
    (hshare : (users.length : Int) ≤ 2 * total) :
    Error.Forbids (s.share payer total group).1 ↔ payer ∉ users := by
  have hterms : s.directory.terms payer total group = Engine.split payer total users := by
    unfold Directory.terms Engine.checkExpense
    rw [if_neg (by omega), if_neg (by omega), hsharers]
  constructor
  · intro hforbids hpayer
    rw [Engine.split_of_mem hsize hpayer (by omega), if_pos hshare] at hterms
    have hcheck := Directory.checkBatch_of_terms hterms
    apply not_forbids_lend (s := s) hcheck
    obtain ⟨e, he, hkind⟩ := hforbids
    unfold share at he
    rw [hterms] at he
    dsimp only at he
    cases hlend : (s.lend payer (ExpenseLedger.share total users.length)
        (users.filter fun u => u ≠ payer)).1 with
    | ok batch =>
      rw [hlend] at he
      contradiction
    | error e' =>
      rw [hlend] at he
      cases he
      exact ⟨_, rfl, hkind⟩
  · intro hpayer
    rw [Engine.split_of_not_mem hsize hpayer] at hterms
    refine ⟨.payerNotMember, ?_, rfl⟩
    unfold share
    rw [hterms]

end Store

/-! ## One notion of membership -/

namespace Store

variable (w : Waits) (user : UserId) (group : GroupId)

/-- The user asks for all groups, and this one is on the list. -/
def Lists (s : Store) : Prop :=
  ∃ groups, ((GroupStep.call w (.groupsOf user)).perform s).1 = some (.ok (.groups groups)) ∧
    group ∈ groups.map Group.id

/-- Somebody asks for those who share the expenses of the group, and the user is one of them. -/
def Resolves (s : Store) : Prop :=
  ∃ users, ((GroupStep.call w (.resolveMembers group)).perform s).1 = some (.ok (.users users)) ∧
    user ∈ users

variable {w user group} {s : Store}

/-- What is answered to who asks for all groups. -/
theorem perform_groupsOf_iff (groups : List Group) :
    ((GroupStep.call w (.groupsOf user)).perform s).1 = some (.ok (.groups groups)) ↔
      s.directory.groupsOf user = .ok groups := by
  rw [GroupStep.perform_call]
  show some ((s.directory.groupsOf user).map GroupAnswer.groups) = _ ↔ _
  cases s.directory.groupsOf user with
  | error e => simp [Except.map]
  | ok groups' => simp [Except.map]

/-- What is answered to who asks for those who share. -/
theorem perform_resolveMembers_iff (users : List UserId) :
    ((GroupStep.call w (.resolveMembers group)).perform s).1 = some (.ok (.users users)) ↔
      s.directory.sharers group = .ok users := by
  rw [GroupStep.perform_call]
  show some ((s.directory.sharers group).map GroupAnswer.users) = _ ↔ _
  cases s.directory.sharers group with
  | error e => simp [Except.map]
  | ok users' => simp [Except.map]

/-- The groups on the list are those that involve the user. -/
theorem lists_iff_includes (hfiled : s.directory.Filed) (hservice : s.directory.failing = false) :
    s.Lists w user group ↔ s.directory.Includes group user := by
  constructor
  · rintro ⟨groups, hgroups, hmem⟩
    exact (hfiled.mem_ids_iff_includes ((perform_groupsOf_iff groups).1 hgroups) group).1 hmem
  · intro hincludes
    obtain ⟨groups, hgroups⟩ := Directory.exists_groupsOf hservice user
    refine ⟨groups, (perform_groupsOf_iff groups).2 hgroups, ?_⟩
    exact (hfiled.mem_ids_iff_includes hgroups group).2 hincludes

/-- Those who share are the users whom the group involves. -/
theorem resolves_iff_includes (hservice : s.directory.failing = false) :
    s.Resolves w user group ↔ s.directory.Includes group user := by
  constructor
  · rintro ⟨users, husers, hmem⟩
    exact (Directory.mem_sharers group _ users ((perform_resolveMembers_iff users).1 husers) user).1
      hmem
  · rintro ⟨e, he, hinvolves⟩
    have hsharers : s.directory.sharers group = .ok e.sharers := by
      rw [Directory.sharers_of_not_failing group _ hservice, he]
      rfl
    refine ⟨e.sharers, (perform_resolveMembers_iff _).2 hsharers, ?_⟩
    exact (Directory.mem_sharers group _ _ hsharers user).2 ⟨e, he, hinvolves⟩

end Store

/-- **There is one notion of membership**, wherever a run leads, while the directory is in service.
A group is on the list of a user exactly if the user is one of those who share its expenses, and
these are its owner and its members. If there are two of them at least and the amount can be shared,
then they alone are not forbidden to share an expense, whatever state ledger and cache are in. The
list of those who share names nobody twice and the owner first. The list of a user's groups has no
group twice, and the earliest comes first. -/
theorem membership_agrees (x : Site Store) (hx : x.Attained)
    (hservice : x.engine.store.directory.failing = false) (w : Store.Waits)
    (settings : EngineSettings) (user : UserId) :
    let s := x.engine.store
    (∃ groups, ((GroupStep.call w (.groupsOf user)).perform s).1 = some (.ok (.groups groups)) ∧
      (groups.map Group.id).Nodup ∧
      groups.Pairwise (fun a b => a.createdAt.le b.createdAt = true) ∧
      ∀ g ∈ groups, s.directory.find g.id = .ok (some g)) ∧
    ∀ group,
      (s.Lists w user group ↔ s.Resolves w user group) ∧
      (s.Resolves w user group ↔ s.directory.Has group user) ∧
      ∀ users,
        ((GroupStep.call w (.resolveMembers group)).perform s).1 = some (.ok (.users users)) →
        users.Nodup ∧
        (∃ found, s.directory.find group = .ok (some found) ∧ users.head? = some found.owner) ∧
        ∀ total : Int, 2 ≤ users.length → 1 ≤ total → total ≤ Amount.limit →
          (users.length : Int) ≤ 2 * total →
          ∃ r, (Engine.shareExpense (Store.backends w) settings user total group none
              x.engine).outcome.value? = some r ∧
            (s.Resolves w user group ↔ ¬ Error.Forbids r) := by
  intro s
  have hfiled : s.directory.Filed := hx.filed
  constructor
  · obtain ⟨groups, hgroups⟩ := Directory.exists_groupsOf hservice user
    refine ⟨groups, (Store.perform_groupsOf_iff groups).2 hgroups, hfiled.nodup_ids hgroups, ?_, ?_⟩
    · exact (Directory.pairwise_perm_of_groupsOf hgroups).1
    · exact fun g hg => hfiled.find_of_mem hservice hgroups hg
  · intro group
    have hresolves : s.Resolves w user group ↔ s.directory.Includes group user :=
      Store.resolves_iff_includes hservice
    refine ⟨?_, ?_, fun users husers => ?_⟩
    · rw [Store.lists_iff_includes hfiled hservice, hresolves]
    · rw [hresolves, Directory.has_iff_includes hservice]
    · have hsharers := (Store.perform_resolveMembers_iff users).1 husers
      obtain ⟨e, he, rfl⟩ := Directory.exists_of_sharers hservice hsharers
      refine ⟨e.ownerFirst_sharers.nodup, ⟨e.group, ?_, rfl⟩, ?_⟩
      · rw [Directory.find_of_not_failing hservice, he]
        rfl
      · intro total hsize hleast hmost hshare
        have hvalue := (Engine.shareExpense_eq_share (Store.realizes_backends w) settings user
          total group x.engine).1
        refine ⟨_, hvalue, ?_⟩
        rw [Store.forbids_share_iff hsharers hsize hleast hmost hshare, not_not, hresolves]
        exact (Directory.mem_sharers group _ _ hsharers user).symm

namespace Sample

/-- A user who moves out again. -/
def dora : UserId := ⟨Id.ofNat 3⟩

/-- Alice's group gets two members, and Alice herself is put among the members as well. -/
def moveIn : List Action :=
  [.step (.call calm (.createGroup "flat" alice)), .direct (.addMembers flat [bob, alice]),
    .step (.call calm (.addMembers alice flat [dora]))]

/-- The group that is created when the clock has been put back. -/
def voyage : GroupId := ⟨Id.ofNat 7⟩

/-- Bob's group is the later one, but the clock says otherwise. Dora moves out, a third group is
deleted, and the ledger goes out of service. -/
def moveOut : List Action :=
  [.step (.call calm (.createGroup "trip" bob)), .step (.call calm (.addMembers bob voyage [alice])),
    .step (.call calm (.createGroup "gone" alice)),
    .step (.call calm (.deleteGroup alice ⟨Id.ofNat 8⟩)),
    .step (.call calm (.removeMember alice flat dora)), .step (.fault (.ledger true))]

/-- The site after all of this. -/
def tenancy : Site Store :=
  World.plain.acts
    (.restock ⟨7, ⟨1600000000, 0⟩⟩ (World.plain.acts (.fresh (Store.empty supply)) moveIn)) moveOut

end Sample

open Sample

/-- Alice has two groups, of which the later one seems to have been created first. She owns the
other and is a member of it besides. Dora does not belong to it any more, and may not share. -/
theorem membership_agrees_tenancy :
    tenancy.Attained ∧ tenancy.engine.store.directory.failing = false ∧
    (∃ groups, ((GroupStep.call Store.Waits.none (.groupsOf alice)).perform
        tenancy.engine.store).1 = some (.ok (.groups groups)) ∧
      (groups.map Group.id).Nodup ∧
      groups.Pairwise (fun a b => a.createdAt.le b.createdAt = true)) ∧
    ((GroupStep.call Store.Waits.none (.resolveMembers flat)).perform tenancy.engine.store).1 =
      some (.ok (.users [alice, bob])) ∧
    (tenancy.engine.store.Lists Store.Waits.none dora flat ↔
      tenancy.engine.store.Resolves Store.Waits.none dora flat) ∧
    ∃ r, (Engine.shareExpense (Store.backends Store.Waits.none) EngineSettings.standard dora 1
        flat none tenancy.engine).outcome.value? = some r ∧
      (tenancy.engine.store.Resolves Store.Waits.none dora flat ↔ ¬ Error.Forbids r) := by
  have hattained : tenancy.Attained :=
    .acts (.restock _ _ (.acts (.fresh supply) moveIn)) moveOut
  have hservice : tenancy.engine.store.directory.failing = false := by decide +kernel
  have hresolved : ((GroupStep.call Store.Waits.none (.resolveMembers flat)).perform
      tenancy.engine.store).1 = some (.ok (.users [alice, bob])) := by decide +kernel
  obtain ⟨⟨groups, hgroups, hnodup, hsorted, -⟩, -⟩ := membership_agrees tenancy hattained hservice
    Store.Waits.none EngineSettings.standard alice
  obtain ⟨-, hgroup⟩ := membership_agrees tenancy hattained hservice Store.Waits.none
    EngineSettings.standard dora
  obtain ⟨hlists, -, hflat⟩ := hgroup flat
  obtain ⟨-, -, hshare⟩ := hflat [alice, bob] hresolved
  refine ⟨hattained, hservice, ⟨groups, hgroups, hnodup, hsorted⟩, hresolved, hlists, ?_⟩
  exact hshare 1 (by decide) (by decide) (by decide) (by decide)

end ExpenseLedger
