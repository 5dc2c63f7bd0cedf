import ExpenseLedger.Proofs.Engine.Effects
/-!
# What the administration of groups does

The operations on groups ask the directory, and then either refuse or change it in one step. They
touch neither ledger nor cache, and whoever is refused, or dropped at a deadline, leaves the
directory as it was. Main statements: `Engine.administers_addMembers` and its like.
-/

open ExpenseLedger.Task

namespace ExpenseLedger

variable {α β : Type}

namespace Store

/-! ## Questions to the directory -/

/-- The task is a question to the directory. -/
def Asks (t : Task Store α) : Prop := ∃ f : Directory → α, Atomic (ask f) t

/-- Giving a value asks nothing. -/
theorem Asks.pure (a : α) : Asks (Pure.pure a) := ⟨fun _ => a, Atomic.pure a⟩

/-- A question that depends on the answer to another. -/
theorem Asks.bind {t : Task Store α} {f : α → Task Store β} (ht : Asks t) (hf : ∀ a, Asks (f a)) :
    Asks (t >>= f) := by
  obtain ⟨g, hg⟩ := ht
  refine ⟨fun d => (hf (g d)).choose d, ?_⟩
  exact hg.bind_ask (h := fun a s => ((hf a).choose s.directory, s)) fun a => (hf a).choose_spec

/-- A question leaves the store alone. -/
theorem Asks.triple {t : Task Store α} (h : Asks t) (s : Store) :
    Triple (fun s' => s' = s) t (fun _ s' => s' = s) fun s' => s' = s := by
  obtain ⟨f, hf⟩ := h
  refine (hf s).conseq (fun _ h => h) ?_ fun _ h => h
  intro a s' hs'
  exact congrArg Prod.snd hs'

/-! ## Changes of the directory -/

/-- The ledgers and the caches of two stores are the same. -/
structure SameButGroups (s s' : Store) : Prop where
  /-- The ledgers are the same. -/
  ledger : s'.ledger = s.ledger
  /-- The caches are the same. -/
  cache : s'.cache = s.cache

/-- The task touches neither ledger nor cache. It leaves the directory alone as well if it fails or
is dropped. -/
def Administers (t : Task Store (Except Error α)) : Prop :=
  ∀ s, Triple (fun s' => s' = s) t
    (fun r s' => s.SameButGroups s' ∧ (r.isOk = false → s'.directory = s.directory))
    fun s' => s' = s

/-- Asking changes nothing. -/
theorem Asks.administers {t : Task Store (Except Error α)} (h : Asks t) : Administers t := by
  intro s
  refine (h.triple s).conseq (fun _ h => h) ?_ fun _ h => h
  rintro r s' rfl
  exact ⟨⟨rfl, rfl⟩, fun _ => rfl⟩

/-- First asking, then administrating. -/
theorem Asks.bind_administers {t : Task Store β} {f : β → Task Store (Except Error α)}
    (ht : Asks t) (hf : ∀ b, Administers (f b)) : Administers (t >>= f) :=
  fun s => (ht.triple s).bind fun b => hf b s

/-- An operation that leaves the directory alone when it fails. -/
theorem Administers.of_atomic {f : Store → Except Error α × Store}
    {t : Task Store (Except Error α)} (h : Atomic f t) (hsame : ∀ s, SameButGroups s (f s).2)
    (hf : ∀ s, (f s).1.isOk = false → (f s).2.directory = s.directory) : Administers t := by
  intro s
  refine (h s).conseq (fun _ h => h) ?_ fun _ h => h
  intro r s' hs'
  have hr : r = (f s).1 := congrArg Prod.fst hs'
  have hs'' : s' = (f s).2 := congrArg Prod.snd hs'
  rw [hr, hs'']
  exact ⟨hsame s, hf s⟩

/-- An operation that tells whether there was anything to do, after which it is an error if there
was not. -/
theorem Administers.of_atomic_told {f : Store → Except Error Bool × Store}
    {t : Task Store (Except Error Bool)} (h : Atomic f t) (hsame : ∀ s, SameButGroups s (f s).2)
    (hf : ∀ s, (f s).1 ≠ .ok true → (f s).2.directory = s.directory) (absent : Error) :
    Administers (do
      match ← t with
      | .error e => return .error e
      | .ok false => return .error absent
      | .ok true => return .ok ()) := by
  intro s
  have htold : Triple (fun s' => s' = s) t
      (fun r s' => s.SameButGroups s' ∧ (r ≠ .ok true → s'.directory = s.directory))
      fun s' => s' = s := by
    refine (h s).conseq (fun _ h => h) ?_ fun _ h => h
    intro r s' hs'
    have hr : r = (f s).1 := congrArg Prod.fst hs'
    have hs'' : s' = (f s).2 := congrArg Prod.snd hs'
    rw [hr, hs'']
    exact ⟨hsame s, hf s⟩
  refine htold.bind_except ?_ ?_
  · intro e
    exact .pure fun s' hs' => ⟨hs'.1, fun _ => hs'.2 (by simp)⟩
  · rintro (_ | _)
    · exact .pure fun s' hs' => ⟨hs'.1, fun _ => hs'.2 (by simp)⟩
    · exact .pure fun s' hs' => ⟨hs'.1, fun h => by contradiction⟩

end Store

/-! ## Operations of the directory -/

namespace Directory

/-- Who cannot add members changes nothing. -/
theorem addMembers_of_not_isOk (group : GroupId) (users : List UserId) (d : Directory)
    (h : (d.addMembers group users).1.isOk = false) : (d.addMembers group users).2 = d := by
  unfold addMembers at h ⊢
  split
  · rfl
  · rename_i hfailing
    rw [if_neg hfailing] at h
    cases he : d.entries.get? group with
    | none => rfl
    | some e =>
      rw [he] at h
      contradiction

/-- Who finds no such member changes nothing. -/
theorem removeMember_of_ne (group : GroupId) (user : UserId) (d : Directory)
    (h : (d.removeMember group user).1 ≠ .ok true) : (d.removeMember group user).2 = d := by
  unfold removeMember at h ⊢
  split
  · rfl
  · rename_i hfailing
    rw [if_neg hfailing] at h
    cases he : d.entries.get? group with
    | none => rfl
    | some e =>
      rw [he] at h
      have hnone : e.members.get? user = none := by
        have hcontains : e.members.contains user ≠ true := fun hc => h (congrArg Except.ok hc)
        rw [ne_eq, Table.contains_iff, not_exists] at hcontains
        exact Option.eq_none_iff_forall_ne_some.2 hcontains
      dsimp only
      rw [Table.erase_of_get?_eq_none _ _ hnone, Table.insert_of_get?_eq_some _ _ _ he]

/-- Who finds no such group changes nothing. -/
theorem delete_of_ne (group : GroupId) (d : Directory) (h : (d.delete group).1 ≠ .ok true) :
    (d.delete group).2 = d := by
  unfold delete at h ⊢
  split
  · rfl
  · rename_i hfailing
    rw [if_neg hfailing] at h
    have hnone : d.entries.get? group = none := by
      have hcontains : d.entries.contains group ≠ true := fun hc => h (congrArg Except.ok hc)
      rw [ne_eq, Table.contains_iff, not_exists] at hcontains
      exact Option.eq_none_iff_forall_ne_some.2 hcontains
    dsimp only
    rw [Table.erase_of_get?_eq_none _ _ hnone]

end Directory

/-- What depends on ledger and cache only is kept by the operations of the directory. -/
theorem Backends.Realizes.directoryKeeps {b : Backends Store} (h : b.Realizes) {P : Store → Prop}
    (hP : ∀ s s', s.SameButGroups s' → P s → P s') : b.DirectoryKeeps P where
  createGroup name owner := (h.createGroup name owner).keeps fun s hs => hP s _ ⟨rfl, rfl⟩ hs
  findGroup group := (h.findGroup group).keeps fun _ hs => hs
  deleteGroup group := by
    rcases h.deleteGroup group with hdelete | hdelete
    · exact hdelete.keeps fun s hs => hP s _ ⟨rfl, rfl⟩ hs
    · exact hdelete.keeps fun _ hs => hs
  addMembers group users := (h.addMembers group users).keeps fun s hs => hP s _ ⟨rfl, rfl⟩ hs
  removeMember group user := (h.removeMember group user).keeps fun s hs => hP s _ ⟨rfl, rfl⟩ hs
  members group := (h.members group).keeps fun _ hs => hs
  groupsOf user := (h.groupsOf user).keeps fun _ hs => hs

namespace Engine

open Store

variable {b : Backends Store} (hb : b.Realizes)
include hb

/-! ## Questions -/

/-- Finding a group. -/
theorem asks_requireGroup (group : GroupId) : Asks (requireGroup b group) :=
  ⟨_, atomic_requireGroup hb group⟩

/-- Listing members. -/
theorem asks_members (group : GroupId) : Asks (b.members group) := ⟨_, hb.members group⟩

/-- Checking the owner of a group. -/
theorem asks_requireOwner (actor : UserId) (group : GroupId) :
    Asks (requireOwner b actor group) := by
  refine (asks_requireGroup hb group).bind fun r => ?_
  cases r with
  | error e => exact Asks.pure _
  | ok found => exact Asks.pure _

/-- Reading a group with its members. -/
theorem asks_groupInfo (group : GroupId) : Asks (groupInfo b group) := by
  refine (asks_requireGroup hb group).bind fun r => ?_
  cases r with
  | error e => exact Asks.pure _
  | ok found =>
    refine (asks_members hb group).bind fun r => ?_
    cases r with
    | error e => exact Asks.pure _
    | ok members => exact Asks.pure _

/-- Listing the members of a group. -/
theorem asks_membersOf (group : GroupId) : Asks (membersOf b group) := by
  refine (asks_requireGroup hb group).bind fun r => ?_
  cases r with
  | error e => exact Asks.pure _
  | ok found => exact asks_members hb group

/-! ## Changes -/

/-- Creating a group. -/
theorem administers_createGroup (name : String) (owner : UserId) :
    Administers (createGroup b name owner) := by
  unfold createGroup
  cases groupName? name with
  | none => exact (Asks.pure _).administers
  | some trimmed =>
    refine .of_atomic (hb.createGroup trimmed owner) (fun _ => ⟨rfl, rfl⟩) fun s h => ?_
    unfold Store.createGroup Directory.create at h ⊢
    dsimp only at h ⊢
    split
    · rfl
    · rename_i hfailing
      rw [if_neg hfailing] at h
      contradiction

/-- Adding members. -/
theorem administers_addMembers (actor : UserId) (group : GroupId) (users : List UserId) :
    Administers (addMembers b actor group users) := by
  unfold addMembers
  split
  · exact (Asks.pure _).administers
  · refine (asks_requireOwner hb actor group).bind_administers fun r => ?_
    cases r with
    | error e => exact (Asks.pure _).administers
    | ok _ =>
      dsimp only
      split
      · exact (Asks.pure _).administers
      · exact .of_atomic (hb.addMembers group users) (fun _ => ⟨rfl, rfl⟩)
          fun s h => Directory.addMembers_of_not_isOk group users s.directory h

/-- Taking a member out. -/
theorem administers_removeMember (actor : UserId) (group : GroupId) (user : UserId) :
    Administers (removeMember b actor group user) := by
  unfold removeMember
  refine (asks_requireOwner hb actor group).bind_administers fun r => ?_
  cases r with
  | error e => exact (Asks.pure _).administers
  | ok _ =>
    dsimp only
    split
    · exact (Asks.pure _).administers
    · exact .of_atomic_told (hb.removeMember group user) (fun _ => ⟨rfl, rfl⟩)
        (fun s h => Directory.removeMember_of_ne group user s.directory h) _

/-- Deleting a group, also if somebody else is always the first to do so. -/
theorem administers_deleteGroup (actor : UserId) (group : GroupId) :
    Administers (deleteGroup b actor group) := by
  unfold deleteGroup
  refine (asks_requireOwner hb actor group).bind_administers fun r => ?_
  cases r with
  | error e => exact (Asks.pure _).administers
  | ok _ =>
    rcases hb.deleteGroup group with h | h
    · exact .of_atomic_told h (fun _ => ⟨rfl, rfl⟩)
        (fun s h => Directory.delete_of_ne group s.directory h) _
    · exact .of_atomic_told h (fun _ => ⟨rfl, rfl⟩) (fun _ _ => rfl) _

end Engine

end ExpenseLedger
