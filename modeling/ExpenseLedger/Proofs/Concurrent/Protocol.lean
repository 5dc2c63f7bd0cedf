import ExpenseLedger.Proofs.Cache.Spelling
/-!
# What calls under way mean to one user

To one user, calls that are under way are stages. A call fills the user's entry with a balance that
it has computed, or brings the entry up to date after loans have been recorded, or does neither.
What one turn of one call can do to the records, to the entry of the user and to the stage of the
call is said once, in `Stage.Move`.

Updates reach an entry in an order that need not be the order of the ledger, so an entry is compared
with the ledger by what it still awaits: the amounts that have been added to it and the amounts that
are due are together what the records contribute (`Balance.Awaits`). Main statements:

* `View.Sound.move`: a move keeps this, unless an entry is filled while it is updated;
* `Balance.Awaits.get?_eq`: a balance that awaits nothing has the nets of the records.
-/

namespace ExpenseLedger

open Ledger

/-! ## Balances that await amounts -/

/-- The balance is what comes of adding all that the records contribute, in some order, except for
the amounts that are due. -/
def Balance.Awaits (user : UserId) (records : List LoanRecord) (m : Balance)
    (due : List (UserId × Int)) : Prop :=
  ∃ added, addAll user Table.empty added = .ok m ∧
    (added ++ due).Perm (contributions user records)

namespace Balance.Awaits

variable {user : UserId} {records : List LoanRecord} {m : Balance} {due : List (UserId × Int)}

/-- The balance of the records awaits nothing. -/
theorem of_aggregate (h : aggregate user records = .ok m) : Awaits user records m [] := by
  unfold aggregate at h
  rw [addRecords_eq_addAll] at h
  exact ⟨_, h, by rw [List.append_nil]⟩

/-- The order of what is due does not matter. -/
theorem perm {due' : List (UserId × Int)} (h : Awaits user records m due)
    (hdue : due.Perm due') : Awaits user records m due' := by
  obtain ⟨added, hadded, hperm⟩ := h
  exact ⟨added, hadded, (hdue.symm.append_left added).trans hperm⟩

/-- What new records contribute becomes due. -/
theorem record (h : Awaits user records m due) (batch : List LoanRecord) :
    Awaits user (records ++ batch) m (contributions user batch ++ due) := by
  obtain ⟨added, hadded, hperm⟩ := h
  refine ⟨added, hadded, ?_⟩
  have hswap : (added ++ (contributions user batch ++ due)).Perm
      (added ++ (due ++ contributions user batch)) :=
    List.perm_append_comm.append_left added
  rw [contributions_append]
  refine hswap.trans ?_
  rw [← List.append_assoc]
  exact hperm.append_right _

/-- Amounts that are due are added. -/
theorem add {m' : Balance} {ds : List (UserId × Int)} (h : Awaits user records m (ds ++ due))
    (hadd : addAll user m ds = .ok m') : Awaits user records m' due := by
  obtain ⟨added, hadded, hperm⟩ := h
  refine ⟨added ++ ds, ?_, ?_⟩
  · rw [addAll_append user Table.empty m added ds hadded, hadd]
  · rw [List.append_assoc]
    exact hperm

/-- **A balance that awaits nothing holds the nets of the counterparties with whom there are
loans.** -/
theorem get?_eq (h : Awaits user records m []) (other : UserId) :
    m.get? other = if Deals user other records then some (net user other records) else none := by
  obtain ⟨added, hadded, hperm⟩ := h
  rw [List.append_nil] at hperm
  have hnamed : Named other added ↔ Deals user other records := by
    unfold Deals Named
    simp only [hperm.mem_iff]
  rw [get?_addAll user Table.empty m added hadded other, sumToward_perm other hperm]
  simp only [hnamed, Table.getD_eq, Table.get?_empty, Option.getD_none, Int.zero_add]
  rfl

/-- **A balance that awaits nothing is the balance of the records**, unless that cannot be computed
because a net is out of range somewhere on the way. -/
theorem aggregate_eq (h : Awaits user records m []) :
    aggregate user records = .ok m ∨
      ∃ other, aggregate user records = .error (.balanceOverflow user other) := by
  cases hn : aggregate user records with
  | error e =>
    obtain ⟨other, rfl⟩ := exists_overflow_of_addRecords user Table.empty records e hn
    exact .inr ⟨other, rfl⟩
  | ok n =>
    have heq : n = m := Table.ext_get? fun other => by
      rw [get?_aggregate user records n hn other, h.get?_eq other]
    exact .inl (congrArg _ heq)

end Balance.Awaits

/-! ## Stages -/

/-- How far a call has got with the entry of a user. -/
inductive Stage where
  /-- It is about to do nothing to the entry. -/
  | idle
  /-- It has computed a balance with which it is about to fill the entry. -/
  | filling (balance : Balance)
  /-- It has recorded loans, and is about to ask for the entry. -/
  | asking (deltas : List (UserId × Int))
  /-- It has found an entry, and is about to add what the loans contribute. -/
  | applying (deltas : List (UserId × Int))
  /-- It has failed to add that, and is about to drop the entry. -/
  | dropping
deriving DecidableEq

/-- What there is to see for a user of a store. -/
structure View where
  /-- The records. -/
  records : List LoanRecord
  /-- The entry of the user. -/
  entry : Option Cache.Fields

namespace Stage

/-- What is still to be added to the entry. -/
def due : Stage → List (UserId × Int)
  | asking deltas | applying deltas => deltas
  | _ => []

/-- The entry is about to be filled. -/
def Fills : Stage → Prop
  | filling _ => True
  | _ => False

/-- The entry is being brought up to date. -/
def Updates : Stage → Prop
  | asking _ | applying _ | dropping => True
  | _ => False

/-- Nothing is due from who does not update. -/
theorem due_eq_nil (g : Stage) (h : ¬ g.Updates) : g.due = [] := by
  cases g with
  | asking deltas => exact absurd trivial h
  | applying deltas => exact absurd trivial h
  | idle | filling balance | dropping => rfl

/-- One call fills the entry while one updates it. -/
def Clash (stages : List Stage) : Prop := (∃ g ∈ stages, g.Fills) ∧ ∃ g ∈ stages, g.Updates

/-- The order of the calls does not matter. -/
theorem Clash.perm {stages stages' : List Stage} (h : Clash stages) (hperm : stages.Perm stages') :
    Clash stages' := by
  obtain ⟨⟨g, hg, hfills⟩, g', hg', hupdates⟩ := h
  exact ⟨⟨g, hperm.mem_iff.1 hg, hfills⟩, g', hperm.mem_iff.1 hg', hupdates⟩

/-- What a turn of a call can do to the records, the entry of a user, and the stage of the call. -/
inductive Move (user : UserId) : View → Stage → View → Stage → Prop
  /-- It does nothing to them. -/
  | rest (v : View) (g : Stage) : Move user v g v g
  /-- An entry that cannot be read is dropped. -/
  | lose (v : View) : Move user v idle { v with entry := none } idle
  /-- Loans are recorded that do not concern the user. -/
  | grow (v : View) (batch : List LoanRecord) (h : ∀ r ∈ batch, ¬ r.Concerns user) :
    Move user v idle { v with records := v.records ++ batch } idle
  /-- Loans are recorded. -/
  | record (v : View) (batch : List LoanRecord) :
    Move user v idle { v with records := v.records ++ batch } (asking (contributions user batch))
  /-- The balance is computed. -/
  | compute (v : View) (m : Balance) (h : aggregate user v.records = .ok m) :
    Move user v idle v (filling m)
  /-- The entry is filled. -/
  | fill (v : View) (m : Balance) :
    Move user v (filling m) { v with entry := some (Cache.Fields.ofBalance m) } idle
  /-- An entry is found. -/
  | find (v : View) (deltas : List (UserId × Int)) : Move user v (asking deltas) v (applying deltas)
  /-- There is no entry, so nothing remains to be done. -/
  | miss (v : View) (g : Stage) (h : v.entry = none) : Move user v g v idle
  /-- The entry is brought up to date. -/
  | add (v : View) (deltas : List (UserId × Int)) (fields next : Cache.Fields)
    (hfields : v.entry = some fields) (hnext : Cache.addDeltas fields deltas = .ok next) :
    Move user v (applying deltas) { v with entry := some next } idle
  /-- The entry cannot be brought up to date. -/
  | fail (v : View) (deltas : List (UserId × Int)) : Move user v (applying deltas) v dropping
  /-- The entry is dropped. -/
  | drop (v : View) : Move user v dropping { v with entry := none } idle

end Stage

/-! ## The invariant -/

namespace View

/-- Balances that are about to be filled in are those of the records, and what an entry lacks is
due, unless the entry is about to be dropped. -/
structure Sound (user : UserId) (v : View) (stages : List Stage) : Prop where
  /-- What is about to be filled in is the balance of the records. -/
  filling : ∀ m, .filling m ∈ stages → aggregate user v.records = .ok m
  /-- What an entry lacks is due, unless the entry is about to be dropped. -/
  entry : .dropping ∉ stages → ∀ fields, v.entry = some fields →
    ∃ m, Cache.Spells fields m ∧ Balance.Awaits user v.records m (stages.flatMap Stage.due)

namespace Sound

variable {user : UserId} {v v' : View} {g g' : Stage} {stages rest : List Stage}

/-- The order of the calls does not matter. -/
theorem perm {stages' : List Stage} (h : v.Sound user stages) (hperm : stages.Perm stages') :
    v.Sound user stages' where
  filling m hm := h.filling m (hperm.mem_iff.2 hm)
  entry hdropping fields hfields := by
    obtain ⟨m, hm, hdue⟩ := h.entry (fun hd => hdropping (hperm.mem_iff.1 hd)) fields hfields
    exact ⟨m, hm, hdue.perm (hperm.flatMap_right _)⟩

/-- Where nothing is updated, nothing is due. -/
theorem settled (h : v.Sound user stages) (hstages : ∀ g ∈ stages, ¬ g.Updates)
    (fields : Cache.Fields) (hfields : v.entry = some fields) :
    ∃ m, Cache.Spells fields m ∧ Balance.Awaits user v.records m [] := by
  have hdue : stages.flatMap Stage.due = [] :=
    List.flatMap_eq_nil_iff.2 fun g hg => g.due_eq_nil (hstages g hg)
  have hawaits := h.entry (fun hd => hstages .dropping hd trivial) fields hfields
  rw [hdue] at hawaits
  exact hawaits

/-- What the other calls are about to fill in is the balance of the records. -/
theorem filling_rest (h : v.Sound user (g :: rest)) (hg : ∀ m, g' ≠ .filling m) (m : Balance)
    (hm : .filling m ∈ g' :: rest) : aggregate user v.records = .ok m :=
  h.filling m (List.mem_cons_of_mem g ((List.mem_cons.1 hm).resolve_left (hg m).symm))

/-- What an entry lacks was due before a move that is not the dropping of the entry. -/
theorem entry_before (h : v.Sound user (g :: rest)) (hg : g ≠ .dropping)
    (hdropping : .dropping ∉ g' :: rest) (fields : Cache.Fields) (hfields : v.entry = some fields) :
    ∃ m, Cache.Spells fields m ∧
      Balance.Awaits user v.records m (g.due ++ rest.flatMap Stage.due) :=
  h.entry (List.not_mem_cons_of_ne_of_not_mem hg.symm (List.not_mem_of_not_mem_cons hdropping))
    fields hfields

/-- **What an entry lacks remains due at every move of a call**, if no entry is filled while it is
updated. -/
theorem move (h : v.Sound user (g :: rest)) (hmove : Stage.Move user v g v' g')
    (hbefore : ¬ Stage.Clash (g :: rest)) (hafter : ¬ Stage.Clash (g' :: rest)) :
    v'.Sound user (g' :: rest) := by
  cases hmove with
  | rest => exact h
  | lose => exact ⟨h.filling, fun _ => nofun⟩
  | grow batch hbatch =>
    refine ⟨fun m hm => ?_, fun hd fields hfields => ?_⟩
    · rw [aggregate_append_of_not_concerns user v.records batch hbatch]
      exact h.filling m hm
    · obtain ⟨m, hm, hdue⟩ := h.entry hd fields hfields
      have hrecord := hdue.record batch
      rw [contributions_eq_nil user batch hbatch] at hrecord
      exact ⟨m, hm, hrecord⟩
  | record batch =>
    refine ⟨fun m hm => ?_, fun hd fields hfields => ?_⟩
    · -- A balance that was computed before would be out of date, but there is none.
      exact absurd ⟨⟨_, hm, trivial⟩, _, List.mem_cons_self, trivial⟩ hafter
    · obtain ⟨m, hm, hdue⟩ := h.entry_before nofun hd fields hfields
      exact ⟨m, hm, hdue.record batch⟩
  | compute m hm =>
    refine ⟨fun n hn => ?_, fun hd => h.entry_before nofun hd⟩
    rcases List.mem_cons.1 hn with hn | hn
    · cases hn
      exact hm
    · exact h.filling n (List.mem_cons_of_mem _ hn)
  | fill m =>
    refine ⟨h.filling_rest nofun, fun _ fields hfields => ?_⟩
    cases hfields
    have hm := h.filling m List.mem_cons_self
    -- Nothing is updated while the entry is filled, so nothing is due.
    have hdue : (Stage.idle :: rest).flatMap Stage.due = [] := by
      refine List.flatMap_eq_nil_iff.2 fun g hg => g.due_eq_nil fun hupdates => ?_
      rcases List.mem_cons.1 hg with rfl | hg
      · exact hupdates
      · exact hbefore ⟨⟨_, List.mem_cons_self, trivial⟩, g, List.mem_cons_of_mem _ hg, hupdates⟩
    rw [hdue]
    exact ⟨m, Cache.spells_ofBalance m (allStorable_aggregate user v.records m hm),
      .of_aggregate hm⟩
  | find deltas => exact ⟨h.filling_rest nofun, fun hd => h.entry_before nofun hd⟩
  | miss _ hnone =>
    refine ⟨h.filling_rest nofun, fun _ fields hfields => ?_⟩
    rw [hnone] at hfields
    contradiction
  | add deltas fields next hfields hnext =>
    refine ⟨h.filling_rest nofun, fun hd fields' hf => ?_⟩
    cases hf
    obtain ⟨m, hm, hdue⟩ := h.entry_before nofun hd fields hfields
    obtain ⟨m', hm', hspells⟩ := hm.addDeltas user deltas hnext
    exact ⟨m', hspells, Balance.Awaits.add hdue hm'⟩
  | fail deltas => exact ⟨h.filling_rest nofun, fun hd => absurd List.mem_cons_self hd⟩
  | drop => exact ⟨h.filling_rest nofun, fun _ => nofun⟩

end Sound

end View

end ExpenseLedger
