import ExpenseLedger.Cache.Basic
import ExpenseLedger.Proofs.Ledger.Nets
import Mathlib.Data.List.Flatten
/-!
# What has happened to the ledger and the cache

A history lists the batches that the ledger has recorded and what has become of the cache entries,
in the order of time. From it one can tell, for each user, which batches an entry of that user
lacks. A batch is lost to a user if the user had an entry when it was recorded, and this entry has
neither been updated by the batch nor been replaced or dropped since. Main statements:

* `History.kept_append_lost_perm`: every record is either kept or lost, and only once;
* `History.batches_append`: later events do not change the verdict on earlier batches, unless they
  are about an entry of the user;
* `History.batches_append_of_renews`: a new or dropped entry lacks nothing.
-/

namespace ExpenseLedger

/-! ## Events -/

/-- What can happen to the ledger and the cache. -/
inductive Event where
  /-- The ledger has recorded a batch, and the cache was in some state then. -/
  | committed (batch : List LoanRecord) (cache : Cache)
  /-- The entry of a user has been replaced by a balance from the ledger. -/
  | filled (user : UserId)
  /-- Amounts have been added to the entry of a user. -/
  | updated (user : UserId) (deltas : List (UserId × Int))
  /-- The entry of a user has been dropped. -/
  | cleared (user : UserId)
deriving DecidableEq

namespace Event

/-- The records that an event adds to the ledger. -/
def records : Event → List LoanRecord
  | committed batch _ => batch
  | _ => []

/-- The event is the recording of a batch. -/
def isCommit : Event → Bool
  | committed _ _ => true
  | _ => false

/-- The event replaces or drops the entry of a user. -/
def Renews (user : UserId) : Event → Prop
  | filled v | cleared v => v = user
  | _ => False

instance (user : UserId) : (e : Event) → Decidable (e.Renews user)
  | filled v => inferInstanceAs (Decidable (v = user))
  | cleared v => inferInstanceAs (Decidable (v = user))
  | committed _ _ => inferInstanceAs (Decidable False)
  | updated _ _ => inferInstanceAs (Decidable False)

/-- The event is about the entry of a user. -/
def About (user : UserId) : Event → Prop
  | filled v | cleared v | updated v _ => v = user
  | committed _ _ => False

/-- What renews an entry is about it. -/
theorem about_of_renews (user : UserId) (e : Event) (h : e.Renews user) : e.About user := by
  cases e with
  | filled v => exact h
  | cleared v => exact h
  | updated v deltas => exact h.elim
  | committed batch cache => exact h.elim

/-- What renews an entry is no batch. -/
theorem isCommit_of_renews (user : UserId) (e : Event) (h : e.Renews user) :
    e.isCommit = false := by
  cases e with
  | committed batch cache => exact h.elim
  | filled v => rfl
  | updated v deltas => rfl
  | cleared v => rfl

/-- What renews the entry of a user is about no other entry. -/
theorem eq_of_about (user v : UserId) (e : Event) (h : e.Renews user) (hv : e.About v) :
    v = user := by
  cases e with
  | committed batch cache => exact h.elim
  | filled w => exact hv.symm.trans h
  | updated w deltas => exact h.elim
  | cleared w => exact hv.symm.trans h

end Event

namespace History

/-! ## Lost batches -/

/-- The events before the next batch. -/
def untilCommit (after : List Event) : List Event := after.takeWhile fun e => !e.isCommit

/-- A batch recorded when the cache was in a certain state is lost to a user, in view of what has
happened after it. -/
def IsLost (user : UserId) (batch : List LoanRecord) (cache : Cache) (after : List Event) : Prop :=
  (∃ r ∈ batch, r.Concerns user) ∧ cache.isMarked user = true ∧
    (∀ e ∈ after, ¬ e.Renews user) ∧
    .updated user (Ledger.contributions user batch) ∉ untilCommit after

instance (user : UserId) (batch : List LoanRecord) (cache : Cache) (after : List Event) :
    Decidable (IsLost user batch cache after) :=
  inferInstanceAs (Decidable (_ ∧ _))

/-- The batches of a history, each with the verdict whether it is lost to a user. -/
def batches (user : UserId) : List Event → List (List LoanRecord × Bool)
  | [] => []
  | .committed batch cache :: after =>
    (batch, decide (IsLost user batch cache after)) :: batches user after
  | _ :: after => batches user after

/-- All records of a history. -/
def committed (history : List Event) : List LoanRecord := history.flatMap Event.records

/-- The records of the batches that are not lost to a user. -/
def kept (user : UserId) (history : List Event) : List LoanRecord :=
  ((batches user history).filter fun b => !b.2).flatMap (·.1)

/-- The records of the batches that are lost to a user. -/
def lost (user : UserId) (history : List Event) : List LoanRecord :=
  ((batches user history).filter (·.2)).flatMap (·.1)

/-- No batch is lost to the user. -/
def Complete (user : UserId) (history : List Event) : Prop :=
  ∀ b ∈ batches user history, b.2 = false

/-- The lost records change nothing for the user: with every counterparty they cancel out, and none
is named by them alone. -/
def Immaterial (user : UserId) (history : List Event) : Prop :=
  ∀ other, Ledger.net user other (lost user history) = 0 ∧
    (Ledger.Deals user other (lost user history) → Ledger.Deals user other (kept user history))

/-! ## Kept and lost records -/

/-- Records of a joined history. -/
@[simp] theorem committed_append (history more : List Event) :
    committed (history ++ more) = committed history ++ committed more :=
  List.flatMap_append

/-- Events about entries add no records. -/
theorem committed_append_of_not_commit (history : List Event) (e : Event)
    (h : e.isCommit = false) : committed (history ++ [e]) = committed history := by
  rw [committed_append]
  cases e with
  | committed batch cache => contradiction
  | filled v => exact List.append_nil _
  | updated v deltas => exact List.append_nil _
  | cleared v => exact List.append_nil _

/-- The batches of a history hold all its records. -/
theorem flatMap_batches (user : UserId) (history : List Event) :
    (batches user history).flatMap (·.1) = committed history := by
  induction history with
  | nil => rfl
  | cons e after ih =>
    unfold committed at ih ⊢
    cases e with
    | committed batch cache => simp [batches, Event.records, ih]
    | filled v => simpa [batches, Event.records] using ih
    | updated v deltas => simpa [batches, Event.records] using ih
    | cleared v => simpa [batches, Event.records] using ih

/-- **Every record is either kept or lost, and only once.** -/
theorem kept_append_lost_perm (user : UserId) (history : List Event) :
    (kept user history ++ lost user history).Perm (committed history) := by
  -- The batches fall into two classes, and so do their records.
  have hperm := List.filter_append_perm (fun b : List LoanRecord × Bool => !b.2)
    (batches user history)
  have hflat := hperm.flatMap_right (·.1)
  rw [flatMap_batches, List.flatMap_append] at hflat
  simpa [kept, lost] using hflat

/-- If nothing is lost, everything is kept. -/
theorem kept_eq_committed (user : UserId) (history : List Event) (h : Complete user history) :
    kept user history = committed history := by
  rw [← flatMap_batches user history]
  unfold kept
  rw [List.filter_eq_self.2]
  intro b hb
  rw [h b hb]
  rfl

/-- **The kept records have the balance of all records exactly if the lost ones are immaterial.** -/
theorem aggregate_kept_eq_iff (user : UserId) (history : List Event) (m n : Balance)
    (hm : Ledger.aggregate user (kept user history) = .ok m)
    (hn : Ledger.aggregate user (committed history) = .ok n) :
    m = n ↔ Immaterial user history := by
  have hperm := kept_append_lost_perm user history
  rw [Ledger.aggregate_eq_iff user _ _ m n hm hn]
  refine forall_congr' fun other => ?_
  rw [← Ledger.net_perm user other hperm, ← Ledger.deals_perm user other hperm,
    Ledger.net_append, Ledger.deals_append]
  constructor
  · rintro ⟨hdeals, hnet⟩
    refine ⟨by omega, fun hd => hdeals.2 (.inr hd)⟩
  · rintro ⟨hzero, hdeals⟩
    refine ⟨⟨.inl, fun hd => hd.elim id hdeals⟩, by omega⟩

/-! ## Later events -/

/-- The events before the next batch, in a joined list. -/
theorem untilCommit_append (after more : List Event) :
    untilCommit (after ++ more) =
      untilCommit after ++ if after.any Event.isCommit then [] else untilCommit more := by
  unfold untilCommit
  induction after with
  | nil => rfl
  | cons e after ih =>
    cases he : e.isCommit with
    | true => simp [he]
    | false => simp [he, ih]

/-- A batch that is not lost can not be lost later. -/
theorem IsLost.of_append {user : UserId} {batch : List LoanRecord} {cache : Cache}
    {after more : List Event} (h : IsLost user batch cache (after ++ more)) :
    IsLost user batch cache after := by
  obtain ⟨hconcerns, hmarked, hrenews, hupdated⟩ := h
  refine ⟨hconcerns, hmarked, fun e he => hrenews e (List.mem_append_left _ he), fun hmem => ?_⟩
  rw [untilCommit_append] at hupdated
  exact hupdated (List.mem_append_left _ hmem)

/-- A lost batch stays lost as long as the entry is neither renewed nor updated. -/
theorem IsLost.append {user : UserId} {batch : List LoanRecord} {cache : Cache}
    {after more : List Event} (h : IsLost user batch cache after)
    (hrenews : ∀ e ∈ more, ¬ e.Renews user)
    (hupdated : ∀ deltas, .updated user deltas ∉ untilCommit more) :
    IsLost user batch cache (after ++ more) := by
  obtain ⟨hconcerns, hmarked, hrenews', hupdated'⟩ := h
  refine ⟨hconcerns, hmarked, ?_, ?_⟩
  · intro e he
    rcases List.mem_append.1 he with he | he
    · exact hrenews' e he
    · exact hrenews e he
  · rw [untilCommit_append]
    intro hmem
    rcases List.mem_append.1 hmem with hmem | hmem
    · exact hupdated' hmem
    · split at hmem
      · contradiction
      · exact hupdated _ hmem

/-- Nothing is lost to a user whose entry has been renewed. -/
theorem not_isLost_of_renews (user : UserId) (batch : List LoanRecord) (cache : Cache)
    (after : List Event) (e : Event) (he : e ∈ after) (hrenews : e.Renews user) :
    ¬ IsLost user batch cache after :=
  fun h => h.2.2.1 e he hrenews

/-- **Later events that do not matter to a verdict do not change it.** -/
theorem batches_append (user : UserId) (history more : List Event)
    (hsame : ∀ batch cache after,
      IsLost user batch cache after → IsLost user batch cache (after ++ more)) :
    batches user (history ++ more) = batches user history ++ batches user more := by
  induction history with
  | nil => rfl
  | cons e after ih =>
    -- Only batches have verdicts, and a verdict depends on what comes after the batch alone.
    cases e with
    | committed batch cache =>
      have hiff : IsLost user batch cache (after ++ more) ↔ IsLost user batch cache after :=
        ⟨IsLost.of_append, hsame batch cache after⟩
      simp only [List.cons_append, batches, ih, hiff]
    | filled v => exact ih
    | updated v deltas => exact ih
    | cleared v => exact ih

/-- **A renewed entry lacks nothing of what was before.** -/
theorem batches_append_of_renews (user : UserId) (history more : List Event) (e : Event)
    (he : e ∈ more) (hrenews : e.Renews user) :
    batches user (history ++ more) =
      (batches user history).map (fun b => (b.1, false)) ++ batches user more := by
  induction history with
  | nil => rfl
  | cons d after ih =>
    cases d with
    | committed batch cache =>
      have hnot := not_isLost_of_renews user batch cache (after ++ more) e
        (List.mem_append_right _ he) hrenews
      simp only [List.cons_append, batches, ih, hnot, decide_false, List.map_cons]
    | filled v => exact ih
    | updated v deltas => exact ih
    | cleared v => exact ih

/-- Events about entries come with no verdict. -/
theorem batches_cons (user : UserId) (e : Event) (after : List Event) (h : e.isCommit = false) :
    batches user (e :: after) = batches user after := by
  cases e with
  | committed batch cache => contradiction
  | filled v => rfl
  | updated v deltas => rfl
  | cleared v => rfl

/-- Without a batch there are no verdicts. -/
theorem batches_eq_nil (user : UserId) (after : List Event)
    (h : ∀ e ∈ after, e.isCommit = false) : batches user after = [] := by
  induction after with
  | nil => rfl
  | cons e after ih =>
    rw [batches_cons user e after (h e List.mem_cons_self)]
    exact ih fun d hd => h d (List.mem_cons_of_mem _ hd)

/-- Events about other entries change no verdict. -/
theorem batches_append_of_not_about (user : UserId) (history : List Event) (e : Event)
    (hcommit : e.isCommit = false) (habout : ¬ e.About user) :
    batches user (history ++ [e]) = batches user history := by
  have hnone : batches user [e] = [] := batches_cons user e [] hcommit
  rw [batches_append, hnone, List.append_nil]
  intro batch cache after hlost
  refine hlost.append ?_ ?_
  · intro d hd
    rw [List.mem_singleton.1 hd]
    exact fun h => habout (Event.about_of_renews user e h)
  · intro deltas hmem
    have hin := (List.takeWhile_sublist _).mem hmem
    rw [← List.mem_singleton.1 hin] at habout
    exact habout rfl

/-- Events about other entries leave the kept records as they are. -/
theorem kept_append_of_not_about (user : UserId) (history : List Event) (e : Event)
    (hcommit : e.isCommit = false) (habout : ¬ e.About user) :
    kept user (history ++ [e]) = kept user history := by
  unfold kept
  rw [batches_append_of_not_about user history e hcommit habout]

/-- A renewal leaves nothing lost. -/
theorem complete_append_of_renews (user : UserId) (history : List Event) (e : Event)
    (hrenews : e.Renews user) : Complete user (history ++ [e]) := by
  have hnone : batches user [e] = [] :=
    batches_cons user e [] (e.isCommit_of_renews user hrenews)
  intro b hb
  rw [batches_append_of_renews user history [e] e (List.mem_singleton.2 rfl) hrenews, hnone,
    List.append_nil] at hb
  obtain ⟨b', -, rfl⟩ := List.mem_map.1 hb
  rfl

/-! ## After the last batch -/

/-- Where there is no batch, all events are before the next one. -/
theorem untilCommit_eq_self (after : List Event) (h : ∀ e ∈ after, e.isCommit = false) :
    untilCommit after = after := by
  induction after with
  | nil => rfl
  | cons e after ih =>
    have hafter := ih fun d hd => h d (List.mem_cons_of_mem _ hd)
    unfold untilCommit at hafter ⊢
    rw [List.takeWhile_cons, h e List.mem_cons_self, hafter]
    rfl

/-- The batches before the last one are judged without regard to it, if no entry of the user has
been renewed since. -/
theorem batches_append_committed (user : UserId) (history : List Event) (batch : List LoanRecord)
    (cache : Cache) (after : List Event) (hrenews : ∀ e ∈ after, ¬ e.Renews user) :
    batches user (history ++ .committed batch cache :: after) =
      batches user history ++
        (batch, decide (IsLost user batch cache after)) :: batches user after := by
  rw [batches_append]
  · rfl
  intro batch' cache' after' hlost
  refine hlost.append ?_ ?_
  · intro e he
    rcases List.mem_cons.1 he with rfl | he
    · exact fun h => h
    · exact hrenews e he
  · intro deltas
    -- The last batch ends the time in which an earlier one may still be added.
    have hstop : untilCommit (.committed batch cache :: after) = [] := rfl
    rw [hstop]
    exact List.not_mem_nil

/-- What is kept when a last batch has been recorded and the entry has not been renewed since. -/
theorem kept_append_committed (user : UserId) (history : List Event) (batch : List LoanRecord)
    (cache : Cache) (after : List Event) (hcommit : ∀ e ∈ after, e.isCommit = false)
    (hrenews : ∀ e ∈ after, ¬ e.Renews user) :
    kept user (history ++ .committed batch cache :: after) =
      kept user history ++ if IsLost user batch cache after then [] else batch := by
  unfold kept
  rw [batches_append_committed user history batch cache after hrenews,
    batches_eq_nil user after hcommit]
  by_cases hlost : IsLost user batch cache after <;> simp [hlost]

/-- If nothing was lost before a batch and it is not lost either, nothing is lost. -/
theorem complete_append_committed (user : UserId) (history : List Event)
    (batch : List LoanRecord) (cache : Cache) (after : List Event)
    (hcommit : ∀ e ∈ after, e.isCommit = false) (hcomplete : Complete user history)
    (hlost : ¬ IsLost user batch cache after) :
    Complete user (history ++ .committed batch cache :: after) := by
  -- Without a renewal the verdicts before the batch stand; a renewal lifts all of them.
  by_cases hrenews : ∀ e ∈ after, ¬ e.Renews user
  · intro b hb
    rw [batches_append_committed user history batch cache after hrenews,
      batches_eq_nil user after hcommit] at hb
    rcases List.mem_append.1 hb with hb | hb
    · exact hcomplete b hb
    · rw [List.mem_singleton.1 hb]
      exact decide_eq_false hlost
  · obtain ⟨e, he, hren⟩ : ∃ e ∈ after, e.Renews user := by simpa using hrenews
    intro b hb
    have hmem : e ∈ Event.committed batch cache :: after := List.mem_cons_of_mem _ he
    rw [batches_append_of_renews user history _ e hmem hren] at hb
    rcases List.mem_append.1 hb with hb | hb
    · obtain ⟨b', -, rfl⟩ := List.mem_map.1 hb
      rfl
    · simp only [batches, batches_eq_nil user after hcommit, List.mem_singleton] at hb
      rw [hb]
      exact decide_eq_false hlost

end History

end ExpenseLedger
