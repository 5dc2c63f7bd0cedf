import ExpenseLedger.Proofs.Groups.Chronicle
import ExpenseLedger.Proofs.Transcript
/-!
# Runs of requests about groups

Requests about groups come one after the other, from anybody, while the directory goes out of
service and comes back, and identifiers and times come from anywhere. What the directory holds in
the end is what the chronicle of the run tells (`Chronicle.groups_kept`).
-/

open ExpenseLedger.Task

namespace ExpenseLedger

/-! ## Steps -/

/-- What can happen to the groups. -/
inductive GroupStep where
  /-- A request, which has no deadline, while the operations of the store wait. -/
  | call (w : Store.Waits) (c : GroupCall)
  /-- The directory goes out of service or comes back. -/
  | outage (failing : Bool)
  /-- From here on identifiers and times come from elsewhere. -/
  | restock (supply : Supply)

namespace GroupStep

/-- What a step is answered, if it is a request that has ended, and the store after it. -/
def perform : GroupStep → Store → Option (Except Error GroupAnswer) × Store
  | call w c, s =>
    ((c.perform (Store.backends w) none s).outcome.value?,
      (c.perform (Store.backends w) none s).state)
  | outage failing, s => (none, { s with directory := { s.directory with failing } })
  | restock supply, s => (none, { s with supply })

/-- What a step has done to a group, as its answer tells. -/
def deed? : GroupStep → Option (Except Error GroupAnswer) → Option Deed
  | call _ c, some r => c.deed? r
  | _, _ => none

/-- Every request ends, and takes effect at one instant. -/
theorem perform_call (w : Store.Waits) (c : GroupCall) (s : Store) :
    (call w c).perform s = (some (c.settle s).1, (c.settle s).2) := by
  obtain ⟨hvalue, hstate⟩ := (c.atomic_perform w).value? s
  exact Prod.ext hvalue hstate

end GroupStep

namespace Chronicle

/-- What has been done to groups in some steps, as their answers tell. -/
def deeds (steps : List GroupStep) (s : Store) : List Deed :=
  (steps.zip (transcript GroupStep.perform steps s).1).filterMap fun e => e.1.deed? e.2

/-- The deeds of a run are that of the first step and those of the others. -/
theorem deeds_cons (st : GroupStep) (steps : List GroupStep) (s : Store) :
    deeds (st :: steps) s =
      (st.deed? (st.perform s).1).toList ++ deeds steps (st.perform s).2 := by
  unfold deeds
  simp only [transcript, List.zip_cons_cons, List.filterMap_cons]
  cases st.deed? (st.perform s).1 <;> rfl

/-- A step carries the chronicle on. -/
theorem Tells.step {h : List Deed} {s : Store} (ht : Tells h s.directory.entries)
    (st : GroupStep) (hfresh : (founded (h ++ (st.deed? (st.perform s).1).toList)).Nodup) :
    Tells (h ++ (st.deed? (st.perform s).1).toList) (st.perform s).2.directory.entries := by
  have hsilent : Tells (h ++ (none : Option Deed).toList) s.directory.entries := by
    rw [Option.toList_none, List.append_nil]
    exact ht
  cases st with
  | outage failing => exact hsilent
  | restock supply => exact hsilent
  | call w c =>
    rw [GroupStep.perform_call] at hfresh ⊢
    dsimp only [GroupStep.deed?] at hfresh ⊢
    rcases c.settle_cases s with ⟨hdeed, hsame⟩ | ⟨x, hdeed, htakes⟩
    · rw [hdeed, hsame]
      exact hsilent
    · rw [hdeed] at hfresh ⊢
      refine ht.take htakes fun id hid hmem => ?_
      unfold founded at hfresh hmem
      rw [Option.toList_some, List.filterMap_append, List.nodup_append] at hfresh
      refine hfresh.2.2 id hmem id ?_ rfl
      rw [List.mem_filterMap]
      exact ⟨x, List.mem_singleton_self x, hid⟩

/-- A run carries the chronicle on. -/
theorem Tells.run {h : List Deed} {s : Store} (ht : Tells h s.directory.entries)
    (steps : List GroupStep) (hfresh : (founded (h ++ deeds steps s)).Nodup) :
    Tells (h ++ deeds steps s)
      (transcript GroupStep.perform steps s).2.directory.entries := by
  induction steps generalizing h s with
  | nil =>
    have hnone : h ++ deeds [] s = h := List.append_nil h
    rw [hnone]
    exact ht
  | cons st steps ih =>
    rw [deeds_cons, ← List.append_assoc] at hfresh ⊢
    have hfirst : (founded (h ++ (st.deed? (st.perform s).1).toList)).Nodup := by
      unfold founded at hfresh ⊢
      rw [List.filterMap_append] at hfresh
      exact (List.nodup_append.1 hfresh).1
    exact ih (ht.step st hfirst) hfresh

/-! ## What a run leaves -/

/-- The store after some steps from the beginning. -/
def managed (supply : Supply) (steps : List GroupStep) : Store :=
  (transcript GroupStep.perform steps (Store.empty supply)).2

/-- What has been done to groups in some steps from the beginning. -/
def chronicle (supply : Supply) (steps : List GroupStep) : List Deed :=
  deeds steps (Store.empty supply)

/-- **The directory holds what the chronicle tells**, whoever asks for what and whenever it is out
of service, if new groups are given new identifiers. A group that exists has a proper name and its
creator for an owner, and its members, who are shown in ascending order, are those who were added
since and not removed later, and never the owner. The groups that exist are those that were created
and not deleted: whatever is asked of a deleted group, it is not found, unless the request is to add
nobody, which is a bad one, and it is listed for nobody. A request that is refused changes nothing.
-/
theorem groups_kept (supply : Supply) (steps : List GroupStep)
    (hfresh : (founded (chronicle supply steps)).Nodup) :
    (∀ id e, (managed supply steps).directory.entries.get? id = some e →
      Standing (chronicle supply steps) id e ∧ ProperName e.group.name ∧
        e.members.keys.Pairwise (· < ·) ∧
        ((managed supply steps).directory.failing = false → ∀ w,
          ((GroupStep.call w (.groupInfo id)).perform (managed supply steps)).1 =
              some (.ok (.info ⟨e.group, e.members.keys⟩)) ∧
            ((GroupStep.call w (.membersOf id)).perform (managed supply steps)).1 =
              some (.ok (.users e.members.keys)))) ∧
    (∀ id, (∃ e, (managed supply steps).directory.entries.get? id = some e) ↔
      id ∈ founded (chronicle supply steps) ∧ Deed.deleted id ∉ chronicle supply steps) ∧
    (∀ id, Deed.deleted id ∈ chronicle supply steps →
      ((managed supply steps).directory.failing = false → ∀ w c, c.group? = some id →
        ((GroupStep.call w c).perform (managed supply steps)).1 =
            some (.error (c.absence id)) ∧
          (c.absence id).kind = if c.addsNobody then .badRequest else .notFound) ∧
      ∀ w user gs, ((GroupStep.call w (.groupsOf user)).perform (managed supply steps)).1 =
        some (.ok (.groups gs)) → ∀ g ∈ gs, g.id ≠ id) ∧
    ∀ w c, ∃ r, ((GroupStep.call w c).perform (managed supply steps)).1 = some r ∧
      (r.isOk = false → ((GroupStep.call w c).perform (managed supply steps)).2.directory =
        (managed supply steps).directory) := by
  have ht : Tells (chronicle supply steps) (managed supply steps).directory.entries :=
    Tells.run (h := []) (s := Store.empty supply) tells_nil steps hfresh
  refine ⟨fun id e he => ?_, fun id => ?_, fun id hid => ?_, fun w c => ?_⟩
  · have hs := ht.standing id e he
    refine ⟨hs, ?_, e.members.pairwise_keys, fun hservice w => ?_⟩
    · obtain ⟨before, creator, name, since, -, hl⟩ := hs
      exact (Engine.groupName?_eq_some name _ hl.name).2
    · rw [GroupStep.perform_call, GroupStep.perform_call]
      obtain ⟨hinfo, hmembers⟩ := GroupCall.settle_known _ id e hservice he
      exact ⟨congrArg some hinfo, congrArg some hmembers⟩
  · constructor
    · rintro ⟨e, he⟩
      exact ⟨(ht.standing id e he).mem_founded, ht.deleted_not_mem he⟩
    · rintro ⟨hfounded, hdeleted⟩
      exact ht.present id hfounded hdeleted
  · have hnone := (ht.gone id hid).1
    refine ⟨fun hservice w c hc => ?_, fun w user gs hgs g hg heq => ?_⟩
    · rw [GroupStep.perform_call]
      exact ⟨congrArg some (c.settle_unknown _ id hservice hnone hc), c.kind_absence id⟩
    · rw [GroupStep.perform_call] at hgs
      obtain ⟨id', e, he, rfl⟩ :=
        GroupCall.mem_groups_of_settle user _ gs (Option.some.inj hgs) g hg
      obtain ⟨_, _, _, _, _, hl⟩ := ht.standing id' e he
      rw [← hl.identifier, heq, hnone] at he
      contradiction
  · rw [GroupStep.perform_call]
    refine ⟨_, rfl, fun hrefused => ?_⟩
    rcases c.settle_cases (managed supply steps) with ⟨-, hsame⟩ | ⟨x, hdeed, -⟩
    · exact hsame
    · cases hr : (c.settle (managed supply steps)).1 with
      | ok answer =>
        rw [hr] at hrefused
        contradiction
      | error e =>
        rw [hr, GroupCall.deed?_error] at hdeed
        contradiction

namespace Sample

/-- A user. -/
def alice : UserId := ⟨Id.ofNat 1⟩

/-- Another user. -/
def bob : UserId := ⟨Id.ofNat 2⟩

/-- A third user. -/
def carol : UserId := ⟨Id.ofNat 3⟩

/-- The first supply of identifiers and times. -/
def early : Supply := ⟨100, ⟨1700000000, 0⟩⟩

/-- The group that is created first. -/
def flat : GroupId := ⟨Id.ofNat 100⟩

/-- The group that is created last. -/
def trip : GroupId := ⟨Id.ofNat 7⟩

/-- Bob is added twice, removed and added again; somebody else has no say, and an outage stops
Carol's removal. Another group is deleted. -/
def busy : List GroupStep :=
  [.call Store.Waits.none (.createGroup "  flat " alice),
    .call Store.Waits.none (.addMembers alice flat [carol, bob, bob]),
    .call Store.Waits.none (.removeMember alice flat bob),
    .call Store.Waits.none (.addMembers carol flat [bob]),
    .call Store.Waits.none (.addMembers alice flat [bob, alice]),
    .call Store.Waits.none (.addMembers alice flat [bob]),
    .outage true,
    .call Store.Waits.none (.removeMember alice flat carol),
    .outage false,
    .restock ⟨7, ⟨1600000000, 0⟩⟩,
    .call Store.Waits.none (.createGroup "trip" bob),
    .call Store.Waits.none (.deleteGroup bob trip)]

/-- The group in the end. -/
def entry : Directory.Entry :=
  ⟨⟨flat, "flat", alice, ⟨1700000000, 0⟩⟩, KeySet.addAll Table.empty [bob, carol]⟩

end Sample

open ExpenseLedger.Chronicle.Sample

/-- Bob and Carol are the members in the end, and the other group is gone. -/
theorem groups_kept_busy :
    (founded (chronicle early busy)).Nodup ∧ Standing (chronicle early busy) flat entry ∧
      ProperName "flat" ∧
      ((GroupStep.call Store.Waits.none (.groupInfo flat)).perform (managed early busy)).1 =
        some (.ok (.info ⟨entry.group, [bob, carol]⟩)) ∧
      ((GroupStep.call Store.Waits.none (.groupInfo trip)).perform (managed early busy)).1 =
        some (.error (.unknownGroup trip)) := by
  have hfresh : (founded (chronicle early busy)).Nodup := by decide +kernel
  obtain ⟨hkept, -, hgone, -⟩ := groups_kept early busy hfresh
  obtain ⟨hstanding, hname, -, hshown⟩ := hkept flat entry (by decide +kernel)
  obtain ⟨hunknown, -⟩ := hgone trip (by decide +kernel)
  have hservice : (managed early busy).directory.failing = false := by decide +kernel
  exact ⟨hfresh, hstanding, hname, (hshown hservice Store.Waits.none).1,
    (hunknown hservice Store.Waits.none (.groupInfo trip) rfl).1⟩

end Chronicle

end ExpenseLedger
