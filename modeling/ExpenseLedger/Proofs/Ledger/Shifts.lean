import ExpenseLedger.Proofs.Web.Effects
/-!
# What a batch does to balances

A batch of loans of one amount moves the lender's balance toward each debtor up by that amount and
each debtor's balance toward the lender down by it. It moves nothing else, and a counterparty whom
it names is named in the balance even if the net comes to nothing (`Ledger.get?_aggregate_batch`).
-/

namespace ExpenseLedger

namespace Ledger

/-! ## More records -/

/-- Contributions are added in two goes, of which either one can fail. -/
theorem addAll_append_eq_bind (user : UserId) (b : Balance) (cs ds : List (UserId × Int)) :
    addAll user b (cs ++ ds) = (addAll user b cs).bind fun m => addAll user m ds := by
  induction cs generalizing b with
  | nil => rfl
  | cons c cs ih =>
    simp only [List.cons_append, addAll]
    cases addContribution user b c with
    | error e => rfl
    | ok b' => exact ih b'

/-- Where a balance can be computed, it could be computed before the last records. -/
theorem exists_aggregate_of_append (user : UserId) (rs ss : List LoanRecord) (n : Balance)
    (h : aggregate user (rs ++ ss) = .ok n) : ∃ m, aggregate user rs = .ok m := by
  unfold aggregate at h ⊢
  rw [addRecords_eq_addAll] at h ⊢
  rw [contributions_append, addAll_append_eq_bind] at h
  cases hrs : addAll user Table.empty (contributions user rs) with
  | ok m => exact ⟨m, rfl⟩
  | error e =>
    rw [hrs] at h
    contradiction

/-! ## Batches -/

/-- One amount toward each of some counterparties names these. -/
theorem named_map_const_iff (other : UserId) (amount : Int) (debtors : List UserId) :
    Named other (debtors.map fun d => (d, amount)) ↔ other ∈ debtors := by
  constructor
  · rintro ⟨c, hc, rfl⟩
    obtain ⟨d, hd, rfl⟩ := List.mem_map.1 hc
    exact hd
  · intro h
    exact ⟨(other, amount), List.mem_map.2 ⟨other, h, rfl⟩, rfl⟩

/-- One amount toward each of some counterparties, none of whom occurs twice. -/
theorem sumToward_map_const (other : UserId) (amount : Int) (debtors : List UserId)
    (hnodup : debtors.Nodup) (hother : other ∈ debtors) :
    sumToward other (debtors.map fun d => (d, amount)) = amount := by
  induction debtors with
  | nil => contradiction
  | cons d ds ih =>
    obtain ⟨hd, hds⟩ := List.nodup_cons.1 hnodup
    rw [List.map_cons, sumToward]
    by_cases hdo : d = other
    · have hnone : ¬ Named other (ds.map fun d => (d, amount)) := by
        rw [named_map_const_iff, ← hdo]
        exact hd
      rw [if_pos hdo, sumToward_eq_zero other _ hnone, Int.add_zero]
    · rw [if_neg hdo]
      exact ih hds ((List.mem_cons.1 hother).resolve_left (Ne.symm hdo))

/-- What a batch contributes is what its loans contribute. -/
theorem IsBatch.contributions_eq {lender : UserId} {amount : Int} {debtors : List UserId}
    {batch : List LoanRecord} (h : IsBatch lender amount debtors batch) (user : UserId) :
    contributions user batch =
      (Engine.loansTo lender amount debtors).filterMap fun l => l.contribution user := by
  rw [← h.loans, List.filterMap_map]
  rfl

/-- The lender is none of the debtors. -/
theorem IsBatch.lender_not_mem {lender : UserId} {amount : Int} {debtors : List UserId}
    {batch : List LoanRecord} (h : IsBatch lender amount debtors batch) : lender ∉ debtors := by
  refine Engine.lender_not_mem lender amount debtors fun l hl => ?_
  rw [← h.loans] at hl
  obtain ⟨r, hr, rfl⟩ := List.mem_map.1 hl
  exact h.valid r hr

/-- **A batch moves the balances of its parties toward each other, and nothing else.** -/
theorem get?_aggregate_batch {lender : UserId} {amount : Int} {debtors : List UserId}
    {batch : List LoanRecord} (h : IsBatch lender amount debtors batch) (user : UserId)
    (rs : List LoanRecord) (m n : Balance) (hm : aggregate user rs = .ok m)
    (hn : aggregate user (rs ++ batch) = .ok n) (other : UserId) :
    n.get? other =
      if user = lender ∧ other ∈ debtors then some (m.getD other 0 + amount)
      else if user ∈ debtors ∧ other = lender then some (m.getD other 0 - amount)
      else m.get? other := by
  have hadded : addAll user m (contributions user batch) = .ok n := by
    rw [← aggregate_append user rs batch m hm]
    exact hn
  rw [get?_addAll user m n _ hadded other, h.contributions_eq user]
  have hapart := h.lender_not_mem
  by_cases hlender : lender = user
  · subst hlender
    rw [Engine.filterMap_contribution_lender]
    have hnamed := named_map_const_iff other amount debtors
    by_cases hother : other ∈ debtors
    · rw [if_pos (hnamed.2 hother), if_pos ⟨rfl, hother⟩,
        sumToward_map_const other amount debtors h.nodup hother]
    · rw [if_neg fun hn => hother (hnamed.1 hn), if_neg fun hn => hother hn.2,
        if_neg fun hn => hapart hn.1]
  · rw [if_neg (c := user = lender ∧ other ∈ debtors) fun hn => hlender hn.1.symm]
    by_cases huser : user ∈ debtors
    · rw [Engine.filterMap_contribution_debtor lender user amount debtors hlender h.nodup huser]
      by_cases hother : other = lender
      · have hnamed : Named other [(lender, -amount)] := ⟨_, List.mem_singleton_self _, hother.symm⟩
        rw [if_pos hnamed, if_pos ⟨huser, hother⟩, sumToward, if_pos hother.symm, sumToward]
        congr 1
        omega
      · have hnamed : ¬ Named other [(lender, -amount)] := by
          rintro ⟨c, hc, rfl⟩
          exact hother (congrArg Prod.fst (List.mem_singleton.1 hc))
        rw [if_neg hnamed, if_neg fun hn => hother hn.2]
    · have hnamed : ¬ Named other [] := by
        rintro ⟨c, hc, -⟩
        contradiction
      rw [Engine.filterMap_contribution_other lender user amount debtors hlender huser,
        if_neg hnamed, if_neg fun hn => huser hn.1]

end Ledger

end ExpenseLedger
