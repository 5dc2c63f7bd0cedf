import ExpenseLedger.Proofs.Concurrent.Views
import ExpenseLedger.Proofs.Engine.Batches
import Mathlib.Data.List.Nodup
/-!
# The stages of batches

The replies that a call has got tell at what stage it is for a user. A call that records loans gets
its replies in a certain order: first that to the recording, and then for each party those about
the entry of this party. As long as the cache is in service, each turn of such a call is a move:

* `Answers.UpdateOrderly.move`: for the party whose entry is brought up to date;
* `Answers.BatchOrderly.move`: for any user.
-/

namespace ExpenseLedger

open Ledger

/-! ## Bringing one entry up to date -/

namespace Answers

variable {a : Answers}

/-- A reply about one entry is none about another. -/
theorem update_of_subject_ne {o o' : Operation} {v : UserId} (ho' : o'.subject = some v)
    (ho : o.subject ≠ some v) (r : Option o.Reply) : Function.update a o r o' = a o' := by
  have hne : o' ≠ o := by
    rintro rfl
    exact ho ho'
  exact Function.update_of_ne hne r a

end Answers

/-- The stage after asking for the entry. -/
def Stage.asked (deltas : List (UserId × Int)) : Except Error Bool → Stage
  | .ok true => .applying deltas
  | _ => .idle

/-- The stage after adding amounts to the entry. -/
def Stage.applied : Except Error Cache.DeltaOutcome → Stage
  | .ok _ => .idle
  | .error _ => .dropping

/-- The stage of a call that brings an entry up to date. -/
def updateStage (a : Answers) (c : UserId × List (UserId × Int)) : Stage :=
  match a (.hasEntry c.1) with
  | none => .asking c.2
  | some (.ok true) =>
    match a (.applyDeltas c.1 c.2) with
    | none => .applying c.2
    | some (.ok _) => .idle
    | some (.error _) =>
      match a (.clear c.1) with
      | none => .dropping
      | some _ => .idle
  | some _ => .idle

/-- The replies of a call that brings an entry up to date have come in order. -/
structure Answers.UpdateOrderly (a : Answers) (c : UserId × List (UserId × Int)) : Prop where
  /-- The cache has told whether there is an entry. -/
  told : ∀ e, a (.hasEntry c.1) ≠ some (.error e)
  /-- Amounts are added only after an entry has been found. -/
  found : a (.hasEntry c.1) ≠ some (.ok true) → a (.applyDeltas c.1 c.2) = none
  /-- The entry is dropped only after that has failed. -/
  failed : (∀ e, a (.applyDeltas c.1 c.2) ≠ some (.error e)) → a (.clear c.1) = none

namespace Answers.UpdateOrderly

variable {a : Answers} {c : UserId × List (UserId × Int)}

/-- A call that has not begun is in order. -/
theorem none : UpdateOrderly (fun _ => none) c := ⟨nofun, fun _ => rfl, fun _ => rfl⟩

/-- Replies about other entries do not matter. -/
theorem update_of_ne (h : a.UpdateOrderly c) {o : Operation} (ho : o.subject ≠ some c.1)
    (r : Option o.Reply) : UpdateOrderly (Function.update a o r) c := by
  refine ⟨?_, ?_, ?_⟩
  · rw [update_of_subject_ne rfl ho]
    exact h.told
  · rw [update_of_subject_ne rfl ho, update_of_subject_ne rfl ho]
    exact h.found
  · rw [update_of_subject_ne rfl ho, update_of_subject_ne rfl ho]
    exact h.failed

end Answers.UpdateOrderly

/-- Replies about other entries do not change the stage. -/
theorem updateStage_update_of_ne (a : Answers) (c : UserId × List (UserId × Int)) {o : Operation}
    (ho : o.subject ≠ some c.1) (r : Option o.Reply) :
    updateStage (Function.update a o r) c = updateStage a c := by
  unfold updateStage
  rw [Answers.update_of_subject_ne rfl ho, Answers.update_of_subject_ne rfl ho,
    Answers.update_of_subject_ne rfl ho]

/-- Bringing an entry up to date fills none. -/
theorem not_fills_updateStage (a : Answers) (c : UserId × List (UserId × Int)) :
    ¬ (updateStage a c).Fills := by
  unfold updateStage
  split
  · exact id
  · split
    · exact id
    · exact id
    · split <;> exact id
  · exact id

/-- While an entry is being brought up to date, something is asked for that. -/
theorem exists_mem_updateAsks {a : Answers} {c : UserId × List (UserId × Int)}
    (h : (updateStage a c).Updates) : ∃ o ∈ updateAsks a c, o.Updates c.1 := by
  unfold updateStage at h
  unfold updateAsks dropAsks
  cases htold : a (.hasEntry c.1) with
  | none => exact ⟨_, List.mem_singleton_self _, rfl⟩
  | some r =>
    rw [htold] at h
    rcases r with e | (_ | _)
    · exact h.elim
    · exact h.elim
    · dsimp only at h ⊢
      cases hdone : a (.applyDeltas c.1 c.2) with
      | none => exact ⟨_, List.mem_singleton_self _, rfl⟩
      | some r =>
        rw [hdone] at h
        cases r with
        | ok outcome => exact h.elim
        | error e =>
          dsimp only at h ⊢
          cases hdropped : a (.clear c.1) with
          | none => exact ⟨_, List.mem_singleton_self _, rfl⟩
          | some r =>
            rw [hdropped] at h
            exact h.elim

/-- Bringing the entry of a user up to date is about this user only. -/
theorem subject_of_mem_updateAsks {a : Answers} {c : UserId × List (UserId × Int)} {o : Operation}
    (ho : o ∈ updateAsks a c) : o.subject = some c.1 := by
  unfold updateAsks at ho
  split at ho
  · rw [List.mem_singleton.1 ho]
    rfl
  · exact subject_of_mem_dropAsks ho
  · contradiction
  · split at ho
    · rw [List.mem_singleton.1 ho]
      rfl
    · exact subject_of_mem_dropAsks ho
    · contradiction

namespace Answers.UpdateOrderly

variable {a : Answers} {c : UserId × List (UserId × Int)}

/-- It is told whether there is an entry. -/
theorem tell (h : a.UpdateOrderly c) (hasked : a (.hasEntry c.1) = .none) (r : Except Error Bool)
    (hr : ∀ e, r ≠ .error e) :
    UpdateOrderly (Function.update a (.hasEntry c.1) (some r)) c ∧
      updateStage (Function.update a (.hasEntry c.1) (some r)) c = .asked c.2 r := by
  have happly : a (.applyDeltas c.1 c.2) = .none := h.found (by rw [hasked]; nofun)
  have hclear : a (.clear c.1) = .none := h.failed (by rw [happly]; nofun)
  have hself : Function.update a (.hasEntry c.1) (some r) (.hasEntry c.1) = some r :=
    Function.update_self _ _ _
  have happly' : Function.update a (.hasEntry c.1) (some r) (.applyDeltas c.1 c.2) = .none :=
    (Function.update_of_ne (by nofun) _ _).trans happly
  have hclear' : Function.update a (.hasEntry c.1) (some r) (.clear c.1) = .none :=
    (Function.update_of_ne (by nofun) _ _).trans hclear
  refine ⟨⟨fun e he => ?_, fun _ => happly', fun _ => hclear'⟩, ?_⟩
  · rw [hself] at he
    exact hr e (Option.some.inj he)
  · unfold updateStage
    rw [hself]
    rcases r with e | (_ | _)
    · rfl
    · rfl
    · dsimp only
      rw [happly']
      rfl

/-- It gets the reply to the adding of the amounts. -/
theorem apply (h : a.UpdateOrderly c) (hfound : a (.hasEntry c.1) = some (.ok true))
    (hasked : a (.applyDeltas c.1 c.2) = .none) (r : Except Error Cache.DeltaOutcome) :
    UpdateOrderly (Function.update a (.applyDeltas c.1 c.2) (some r)) c ∧
      updateStage (Function.update a (.applyDeltas c.1 c.2) (some r)) c = .applied r := by
  have hclear : a (.clear c.1) = .none := h.failed (by rw [hasked]; nofun)
  have hfound' : Function.update a (.applyDeltas c.1 c.2) (some r) (.hasEntry c.1) =
      some (.ok true) := (Function.update_of_ne (by nofun) _ _).trans hfound
  have hself : Function.update a (.applyDeltas c.1 c.2) (some r) (.applyDeltas c.1 c.2) = some r :=
    Function.update_self _ _ _
  have hclear' : Function.update a (.applyDeltas c.1 c.2) (some r) (.clear c.1) = .none :=
    (Function.update_of_ne (by nofun) _ _).trans hclear
  refine ⟨⟨?_, fun hnot => absurd hfound' hnot, fun _ => hclear'⟩, ?_⟩
  · rw [hfound']
    nofun
  · unfold updateStage
    rw [hfound']
    dsimp only
    rw [hself]
    cases r with
    | ok outcome => rfl
    | error e =>
      dsimp only
      rw [hclear']
      rfl

/-- It gets the reply to the dropping of the entry. -/
theorem drop (hfound : a (.hasEntry c.1) = some (.ok true)) {e : Error}
    (hfailed : a (.applyDeltas c.1 c.2) = some (.error e)) (r : Except Error Unit) :
    UpdateOrderly (Function.update a (.clear c.1) (some r)) c ∧
      updateStage (Function.update a (.clear c.1) (some r)) c = .idle := by
  have hfound' : Function.update a (.clear c.1) (some r) (.hasEntry c.1) = some (.ok true) :=
    (Function.update_of_ne (by nofun) _ _).trans hfound
  have hfailed' : Function.update a (.clear c.1) (some r) (.applyDeltas c.1 c.2) =
      some (.error e) := (Function.update_of_ne (by nofun) _ _).trans hfailed
  have hself : Function.update a (.clear c.1) (some r) (.clear c.1) = some r :=
    Function.update_self _ _ _
  refine ⟨⟨?_, fun hnot => absurd hfound' hnot, fun hnot => absurd hfailed' (hnot e)⟩, ?_⟩
  · rw [hfound']
    nofun
  · unfold updateStage
    rw [hfound']
    dsimp only
    rw [hfailed']
    dsimp only
    rw [hself]

end Answers.UpdateOrderly

namespace Stage.Move

variable (user : UserId) (deltas : List (UserId × Int)) {s : Store}

/-- Asking for the entry is a move. -/
theorem ask (hs : s.cache.failing = false) :
    Stage.Move user (s.view user) (.asking deltas)
      (((Operation.hasEntry user).perform s).2.view user)
      (.asked deltas (s.cache.hasEntry user).1) := by
  change Stage.Move user (s.view user) _
    ⟨s.ledger.records, (s.cache.hasEntry user).2.entryOf user⟩ _
  obtain ⟨hstate, ⟨hf, -⟩ | ⟨-, hreply⟩⟩ := Cache.hasEntry_cases user s.cache
  · rw [hs] at hf
    contradiction
  · rw [hreply, hstate]
    change Stage.Move user (s.view user) _ (s.view user) _
    cases hentry : s.cache.entryOf user with
    | none => exact .miss _ _ hentry
    | some fields => exact .find _ _

/-- Adding amounts to the entry is a move. -/
theorem apply :
    Stage.Move user (s.view user) (.applying deltas)
      (((Operation.applyDeltas user deltas).perform s).2.view user)
      (.applied (s.cache.applyDeltas user deltas).1) := by
  change Stage.Move user (s.view user) _
    ⟨s.ledger.records, (s.cache.applyDeltas user deltas).2.entryOf user⟩ _
  obtain ⟨-, ⟨⟨e, hreply⟩, hentries⟩ | ⟨hreply, hentry, hstate⟩ |
    ⟨hreply, fields, next, hentry, hnext, hentries⟩⟩ := Cache.applyDeltas_cases user deltas s.cache
  · rw [hreply, hentries]
    exact .fail (s.view user) deltas
  · rw [hreply, hstate]
    exact .miss (s.view user) _ hentry
  · rw [hreply, hentries, if_pos rfl]
    exact .add (s.view user) deltas fields next hentry hnext

/-- Dropping the entry is a move. -/
theorem clear (hs : s.cache.failing = false) :
    Stage.Move user (s.view user) .dropping (((Operation.clear user).perform s).2.view user)
      .idle := by
  change Stage.Move user (s.view user) _ ⟨s.ledger.records, (s.cache.clear user).2.entryOf user⟩ _
  rcases Cache.clear_cases user s.cache with ⟨hf, -, -⟩ | ⟨-, -, hstate⟩
  · rw [hs] at hf
    contradiction
  · rw [hstate, Cache.entryOf_remove, if_pos rfl]
    exact .drop (s.view user)

end Stage.Move

/-- **A turn of a call that brings an entry up to date is a move.** -/
theorem Answers.UpdateOrderly.move {a : Answers} {c : UserId × List (UserId × Int)} {o : Operation}
    {s : Store} (h : a.UpdateOrderly c) (ho : o ∈ updateAsks a c) (hs : s.cache.failing = false) :
    UpdateOrderly (Function.update a o (some (o.perform s).1)) c ∧
      Stage.Move c.1 (s.view c.1) (updateStage a c) ((o.perform s).2.view c.1)
        (updateStage (Function.update a o (some (o.perform s).1)) c) := by
  have hstage := updateStage.eq_1 a c
  unfold updateAsks at ho
  cases htold : a (.hasEntry c.1) with
  | none =>
    rw [htold] at ho hstage
    obtain rfl := List.mem_singleton.1 ho
    have htells : ∀ e, (s.cache.hasEntry c.1).1 ≠ .error e := by
      obtain ⟨-, ⟨hf, -⟩ | ⟨-, hreply⟩⟩ := Cache.hasEntry_cases c.1 s.cache
      · rw [hs] at hf
        contradiction
      · rw [hreply]
        nofun
    obtain ⟨horderly, hstage'⟩ := h.tell htold _ htells
    rw [hstage]
    exact ⟨horderly, hstage'.symm ▸ .ask c.1 c.2 hs⟩
  | some r =>
    rw [htold] at ho hstage
    rcases r with e | (_ | _)
    · exact absurd htold (h.told e)
    · contradiction
    · dsimp only at ho hstage
      cases hdone : a (.applyDeltas c.1 c.2) with
      | none =>
        rw [hdone] at ho hstage
        obtain rfl := List.mem_singleton.1 ho
        obtain ⟨horderly, hstage'⟩ := h.apply htold hdone (s.cache.applyDeltas c.1 c.2).1
        rw [hstage]
        exact ⟨horderly, hstage'.symm ▸ .apply c.1 c.2⟩
      | some r =>
        rw [hdone] at ho hstage
        cases r with
        | ok outcome => contradiction
        | error e =>
          dsimp only [dropAsks] at ho hstage
          cases hdropped : a (.clear c.1) with
          | some r =>
            rw [hdropped] at ho
            contradiction
          | none =>
            rw [hdropped] at ho hstage
            obtain rfl := List.mem_singleton.1 ho
            obtain ⟨horderly, hstage'⟩ := drop htold hdone (s.cache.clear c.1).1
            rw [hstage]
            exact ⟨horderly, hstage'.symm ▸ .clear c.1 hs⟩

/-! ## Recording loans -/

namespace Engine

variable (lender : UserId) (amount : Int) (debtors : List UserId)

/-- The change that a batch makes for a user, if it concerns the user. -/
def changeOf? (user : UserId) : Option (UserId × List (UserId × Int)) :=
  (changes lender amount debtors).find? fun c => c.1 = user

variable {lender amount debtors}

/-- The change for a user is the one that is made to the user's entry. -/
theorem changeOf?_eq_some_iff (h : checkBatch lender amount debtors = .ok ()) (user : UserId)
    (c : UserId × List (UserId × Int)) :
    changeOf? lender amount debtors user = some c ↔
      c ∈ changes lender amount debtors ∧ c.1 = user := by
  have hnodup := nodup_map_changes lender amount debtors h
  unfold changeOf?
  constructor
  · intro hc
    exact ⟨List.mem_of_find?_eq_some hc, by simpa using List.find?_some hc⟩
  · rintro ⟨hc, rfl⟩
    cases hd : (changes lender amount debtors).find? fun d => d.1 = c.1 with
    | none => exact absurd (decide_eq_true rfl) (List.find?_eq_none.1 hd c hc)
    | some d =>
      have hkey : d.1 = c.1 := by simpa using List.find?_some hd
      rw [List.inj_on_of_nodup_map hnodup (List.mem_of_find?_eq_some hd) hc hkey]

/-- There is no change for users whose entries are not changed. -/
theorem changeOf?_eq_none_iff (user : UserId) :
    changeOf? lender amount debtors user = none ↔
      user ∉ (changes lender amount debtors).map (·.1) := by
  simp only [changeOf?, List.find?_eq_none, decide_eq_true_eq, List.mem_map, not_exists, not_and]

end Engine

/-- The stage of a call that records loans. -/
def batchStage (a : Answers) (user lender : UserId) (amount : Int) (debtors : List UserId) :
    Stage :=
  match Engine.checkBatch lender amount debtors with
  | .error _ => .idle
  | .ok _ =>
    match a (.append (Engine.loansTo lender amount debtors)) with
    | some (.ok _) =>
      match Engine.changeOf? lender amount debtors user with
      | none => .idle
      | some c => updateStage a c
    | _ => .idle

/-- The replies of a call that records loans have come in order. -/
structure Answers.BatchOrderly (a : Answers) (lender : UserId) (amount : Int)
    (debtors : List UserId) : Prop where
  /-- Nothing else is asked before the loans have been recorded. -/
  recorded : (∀ records, a (.append (Engine.loansTo lender amount debtors)) ≠ some (.ok records)) →
    ∀ c ∈ Engine.changes lender amount debtors, a (.hasEntry c.1) = none
  /-- The replies about each entry have come in order. -/
  updates : ∀ c ∈ Engine.changes lender amount debtors, a.UpdateOrderly c

namespace Answers.BatchOrderly

variable {a : Answers} {lender : UserId} {amount : Int} {debtors : List UserId}

/-- A call that has not begun is in order. -/
theorem none : BatchOrderly (fun _ => none) lender amount debtors :=
  ⟨fun _ _ _ => rfl, fun _ _ => .none⟩

/-- Before the loans have been recorded, nothing is about to be done. -/
theorem stage_eq_idle (user : UserId)
    (h : ∀ records, a (.append (Engine.loansTo lender amount debtors)) ≠ some (.ok records)) :
    batchStage a user lender amount debtors = .idle := by
  unfold batchStage
  cases Engine.checkBatch lender amount debtors with
  | error e => rfl
  | ok _ =>
    dsimp only
    cases hreply : a (.append (Engine.loansTo lender amount debtors)) with
    | none => rfl
    | some r =>
      cases r with
      | error e => rfl
      | ok records => exact absurd hreply (h records)

/-- After the loans have been recorded, the entry of each party is brought up to date. -/
theorem stage_eq (user : UserId) (hcheck : Engine.checkBatch lender amount debtors = .ok ())
    {records : List LoanRecord}
    (h : a (.append (Engine.loansTo lender amount debtors)) = some (.ok records)) :
    batchStage a user lender amount debtors =
      (Engine.changeOf? lender amount debtors user).elim .idle (updateStage a) := by
  unfold batchStage
  rw [hcheck]
  dsimp only
  rw [h]
  cases Engine.changeOf? lender amount debtors user <;> rfl

/-- **Recording the loans is a move.** -/
theorem move_append (h : a.BatchOrderly lender amount debtors) (user : UserId)
    (hcheck : Engine.checkBatch lender amount debtors = .ok ())
    (hasked : a (.append (Engine.loansTo lender amount debtors)) = .none) {o : Operation}
    (ho : o = .append (Engine.loansTo lender amount debtors)) (s : Store) :
    BatchOrderly (Function.update a o (some (o.perform s).1)) lender amount debtors ∧
      Stage.Move user (s.view user) (batchStage a user lender amount debtors)
        ((o.perform s).2.view user)
        (batchStage (Function.update a o (some (o.perform s).1)) user lender amount debtors) := by
  subst ho
  have hentries : ∀ c ∈ Engine.changes lender amount debtors, a (.hasEntry c.1) = .none :=
    h.recorded (by rw [hasked]; nofun)
  have hentries' : ∀ r, ∀ c ∈ Engine.changes lender amount debtors,
      Function.update a (.append (Engine.loansTo lender amount debtors)) (some r) (.hasEntry c.1) =
        .none := fun r c hc => (Function.update_of_ne (by nofun) _ _).trans (hentries c hc)
  refine ⟨⟨fun _ => hentries' _, fun c hc => (h.updates c hc).update_of_ne (by nofun) _⟩, ?_⟩
  rw [stage_eq_idle user (by rw [hasked]; nofun)]
  -- The reply is what decides the stage that follows.
  have hself : Function.update a (.append (Engine.loansTo lender amount debtors))
      (some ((Operation.append (Engine.loansTo lender amount debtors)).perform s).1)
      (.append (Engine.loansTo lender amount debtors)) =
        some (s.ledger.append (Engine.loansTo lender amount debtors) s.supply.next
          s.supply.now).1 := Function.update_self _ _ _
  have hview : ∀ records, (s.ledger.append (Engine.loansTo lender amount debtors) s.supply.next
        s.supply.now).2.records = records →
      ((Operation.append (Engine.loansTo lender amount debtors)).perform s).2.view user =
        ⟨records, s.cache.entryOf user⟩ :=
    fun _ h => congrArg (fun l => View.mk l (s.cache.entryOf user)) h
  rcases Ledger.append_cases (Engine.loansTo lender amount debtors) s.supply.next s.supply.now
    s.ledger with ⟨⟨e, hreply⟩, hstate⟩ | ⟨hreply, hrecords⟩
  · rw [hview _ (congrArg Ledger.records hstate), stage_eq_idle user]
    · exact .rest (s.view user) _
    · rw [hself]
      exact fun records hr => nomatch hreply.symm.trans (Option.some.inj hr)
  · rw [hview _ hrecords, stage_eq user hcheck (hself.trans (congrArg some hreply))]
    cases hchange : Engine.changeOf? lender amount debtors user with
    | none =>
      have hnot := (Engine.changeOf?_eq_none_iff user).1 hchange
      exact .grow (s.view user) _ (Engine.not_concerns_of_not_mem_changes lender amount debtors
        s.supply.next s.supply.now user hnot)
    | some c =>
      obtain ⟨hc, rfl⟩ := (Engine.changeOf?_eq_some_iff hcheck user c).1 hchange
      have hdue := Engine.due_changes lender amount debtors hcheck s.supply.next s.supply.now
      rw [Option.elim_some, updateStage, hentries' _ c hc, hdue.deltas c hc]
      exact .record (s.view c.1) _

/-- **Bringing an entry up to date after that is a move.** -/
theorem move_update (h : a.BatchOrderly lender amount debtors) (user : UserId)
    (hcheck : Engine.checkBatch lender amount debtors = .ok ()) {records : List LoanRecord}
    (hrecorded : a (.append (Engine.loansTo lender amount debtors)) = some (.ok records))
    {c : UserId × List (UserId × Int)} (hc : c ∈ Engine.changes lender amount debtors)
    {o : Operation} (ho : o ∈ updateAsks a c) {s : Store} (hs : s.cache.failing = false) :
    BatchOrderly (Function.update a o (some (o.perform s).1)) lender amount debtors ∧
      Stage.Move user (s.view user) (batchStage a user lender amount debtors)
        ((o.perform s).2.view user)
        (batchStage (Function.update a o (some (o.perform s).1)) user lender amount debtors) := by
  have hsubject := subject_of_mem_updateAsks ho
  obtain ⟨horderly, hmove⟩ := (h.updates c hc).move ho hs
  have hrecorded' : Function.update a o (some (o.perform s).1)
      (.append (Engine.loansTo lender amount debtors)) = some (.ok records) := by
    refine (Function.update_of_ne ?_ _ _).trans hrecorded
    rintro rfl
    contradiction
  -- The entries of other users are not concerned.
  have hother : ∀ d, d ∈ Engine.changes lender amount debtors → d ≠ c → o.subject ≠ some d.1 := by
    intro d hd hne hod
    have hkey : d.1 = c.1 := Option.some.inj (hod.symm.trans hsubject)
    exact hne (List.inj_on_of_nodup_map (Engine.nodup_map_changes lender amount debtors hcheck)
      hd hc hkey)
  refine ⟨⟨fun hnot => absurd hrecorded' (hnot records), fun d hd => ?_⟩, ?_⟩
  · by_cases hdc : d = c
    · rw [hdc]
      exact horderly
    · exact (h.updates d hd).update_of_ne (hother d hd hdc) _
  · rw [stage_eq user hcheck hrecorded, stage_eq user hcheck hrecorded']
    cases hchange : Engine.changeOf? lender amount debtors user with
    | none =>
      have hne : user ≠ c.1 := by
        rintro rfl
        exact (Engine.changeOf?_eq_none_iff c.1).1 hchange (List.mem_map_of_mem hc)
      rw [Operation.view_perform_of_ne hsubject hne]
      exact .rest _ _
    | some d =>
      obtain ⟨hd, rfl⟩ := (Engine.changeOf?_eq_some_iff hcheck user d).1 hchange
      by_cases hdc : d = c
      · rw [hdc]
        exact hmove
      · have hne := hother d hd hdc
        have huser : d.1 ≠ c.1 := fun he => hne (he ▸ hsubject)
        rw [Operation.view_perform_of_ne hsubject huser, Option.elim_some, Option.elim_some,
          updateStage_update_of_ne a d hne]
        exact .rest _ _

/-- **A turn of a call that records loans is a move.** -/
theorem move (h : a.BatchOrderly lender amount debtors) (user : UserId) {o : Operation}
    (ho : o ∈ batchAsks a lender amount debtors) {s : Store} (hs : s.cache.failing = false) :
    BatchOrderly (Function.update a o (some (o.perform s).1)) lender amount debtors ∧
      Stage.Move user (s.view user) (batchStage a user lender amount debtors)
        ((o.perform s).2.view user)
        (batchStage (Function.update a o (some (o.perform s).1)) user lender amount debtors) := by
  unfold batchAsks at ho
  cases hcheck : Engine.checkBatch lender amount debtors with
  | error e =>
    rw [hcheck] at ho
    contradiction
  | ok _ =>
    rw [hcheck] at ho
    dsimp only at ho
    cases hrecorded : a (.append (Engine.loansTo lender amount debtors)) with
    | none =>
      rw [hrecorded] at ho
      exact h.move_append user hcheck hrecorded (List.mem_singleton.1 ho) s
    | some r =>
      rw [hrecorded] at ho
      cases r with
      | error e => contradiction
      | ok records =>
        obtain ⟨c, hc, ho⟩ := List.mem_flatMap.1 ho
        exact h.move_update user hcheck hrecorded hc ho hs

end Answers.BatchOrderly

/-- Recording loans fills no entry. -/
theorem not_fills_batchStage (a : Answers) (user lender : UserId) (amount : Int)
    (debtors : List UserId) : ¬ (batchStage a user lender amount debtors).Fills := by
  unfold batchStage
  split
  · exact id
  · split
    · split
      · exact id
      · exact not_fills_updateStage a _
    · exact id

/-- While a batch brings an entry up to date, something is asked for that. -/
theorem exists_mem_batchAsks {a : Answers} {user lender : UserId} {amount : Int}
    {debtors : List UserId} (h : (batchStage a user lender amount debtors).Updates) :
    ∃ o ∈ batchAsks a lender amount debtors, o.Updates user := by
  unfold batchStage at h
  unfold batchAsks
  cases hcheck : Engine.checkBatch lender amount debtors with
  | error e =>
    rw [hcheck] at h
    exact h.elim
  | ok _ =>
    rw [hcheck] at h
    dsimp only at h ⊢
    cases hrecorded : a (.append (Engine.loansTo lender amount debtors)) with
    | none =>
      rw [hrecorded] at h
      exact h.elim
    | some r =>
      rw [hrecorded] at h
      cases r with
      | error e => exact h.elim
      | ok records =>
        dsimp only at h ⊢
        cases hchange : Engine.changeOf? lender amount debtors user with
        | none =>
          rw [hchange] at h
          exact h.elim
        | some c =>
          rw [hchange] at h
          obtain ⟨hc, rfl⟩ := (Engine.changeOf?_eq_some_iff hcheck user c).1 hchange
          obtain ⟨o, ho, hupdates⟩ := exists_mem_updateAsks h
          exact ⟨o, List.mem_flatMap.2 ⟨c, hc, ho⟩, hupdates⟩

end ExpenseLedger
