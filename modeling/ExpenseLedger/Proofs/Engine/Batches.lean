import ExpenseLedger.Engine.Balances
import ExpenseLedger.Proofs.History.Coherence
/-!
# The cache work of a batch

A batch that passes the check has one lender and distinct debtors other than the lender. The changes
that the engine then makes to cache entries are what the recorded batch contributes to the balances
of its parties (`Engine.due_changes`), and the batch concerns nobody else
(`Engine.not_concerns_of_not_mem_changes`).
-/

namespace ExpenseLedger

namespace Engine

/-- The lender is none of the debtors. -/
theorem lender_not_mem (lender : UserId) (amount : Int) (debtors : List UserId)
    (h : ∀ l ∈ loansTo lender amount debtors, l.Valid) : lender ∉ debtors := by
  intro hmem
  have hvalid := h ⟨lender, lender, amount⟩ (List.mem_map.2 ⟨lender, hmem, rfl⟩)
  exact hvalid.2.2 rfl

/-- The loans contribute to the lender's balance one amount toward each debtor. -/
theorem filterMap_contribution_lender (lender : UserId) (amount : Int) (debtors : List UserId) :
    ((loansTo lender amount debtors).filterMap fun l => l.contribution lender) =
      debtors.map fun d => (d, amount) := by
  induction debtors with
  | nil => rfl
  | cons d ds ih =>
    unfold loansTo at ih ⊢
    rw [List.map_cons, List.filterMap_cons, ih]
    simp [Loan.contribution]

/-- The loans contribute nothing to the balance of a user who is no party. -/
theorem filterMap_contribution_other (lender user : UserId) (amount : Int) (debtors : List UserId)
    (hlender : lender ≠ user) (hdebtors : user ∉ debtors) :
    ((loansTo lender amount debtors).filterMap fun l => l.contribution user) = [] := by
  refine List.filterMap_eq_nil_iff.2 fun l hl => ?_
  obtain ⟨d, hd, rfl⟩ := List.mem_map.1 hl
  have hne : d ≠ user := fun he => hdebtors (he ▸ hd)
  simp [Loan.contribution, hlender, hne]

/-- The loans contribute one amount to a debtor's balance. -/
theorem filterMap_contribution_debtor (lender user : UserId) (amount : Int)
    (debtors : List UserId) (hlender : lender ≠ user) (hnodup : debtors.Nodup)
    (huser : user ∈ debtors) :
    ((loansTo lender amount debtors).filterMap fun l => l.contribution user) =
      [(lender, -amount)] := by
  induction debtors with
  | nil => contradiction
  | cons d ds ih =>
    obtain ⟨hd, hds⟩ := List.nodup_cons.1 hnodup
    have hrest := filterMap_contribution_other lender user amount ds hlender
    unfold loansTo at ih hrest ⊢
    rw [List.map_cons, List.filterMap_cons]
    by_cases hdu : d = user
    · subst hdu
      rw [hrest hd]
      simp [Loan.contribution, hlender]
    · have hmem : user ∈ ds := (List.mem_cons.1 huser).resolve_left (Ne.symm hdu)
      rw [ih hds hmem]
      simp [Loan.contribution, hlender, hdu]

/-- The users whose entries are changed are the lender and the debtors. -/
theorem map_changes (lender : UserId) (amount : Int) (debtors : List UserId) :
    (changes lender amount debtors).map (·.1) = lender :: debtors := by
  simp [changes, Function.comp_def]

/-- No entry is changed twice. -/
theorem nodup_map_changes (lender : UserId) (amount : Int) (debtors : List UserId)
    (h : checkBatch lender amount debtors = .ok ()) :
    ((changes lender amount debtors).map (·.1)).Nodup := by
  obtain ⟨-, hnodup, hvalid⟩ := (checkBatch_eq_ok_iff lender amount debtors).1 h
  rw [map_changes]
  exact List.nodup_cons.2 ⟨lender_not_mem lender amount debtors hvalid, hnodup⟩

/-- **The changes of a batch are what it contributes to the balances of its parties.** -/
theorem due_changes (lender : UserId) (amount : Int) (debtors : List UserId)
    (h : checkBatch lender amount debtors = .ok ()) (first : Nat) (now : Timestamp) :
    Journaled.Due (Ledger.recordAll first now (loansTo lender amount debtors))
      (changes lender amount debtors) := by
  obtain ⟨hne, hnodup, hvalid⟩ := (checkBatch_eq_ok_iff lender amount debtors).1 h
  have hlender := lender_not_mem lender amount debtors hvalid
  refine ⟨nodup_map_changes lender amount debtors h, ?_, ?_⟩
  · intro c hc
    rw [Ledger.contributions_recordAll]
    rcases List.mem_cons.1 hc with rfl | hc
    · exact (filterMap_contribution_lender lender amount debtors).symm
    · obtain ⟨d, hd, rfl⟩ := List.mem_map.1 hc
      have hld : lender ≠ d := fun he => hlender (he ▸ hd)
      exact (filterMap_contribution_debtor lender d amount debtors hld hnodup hd).symm
  · intro c hc
    rw [Ledger.concerns_recordAll_iff]
    rcases List.mem_cons.1 hc with rfl | hc
    · obtain ⟨d, hd⟩ := List.exists_mem_of_ne_nil debtors hne
      exact ⟨⟨lender, d, amount⟩, List.mem_map.2 ⟨d, hd, rfl⟩, .inl rfl⟩
    · obtain ⟨d, hd, rfl⟩ := List.mem_map.1 hc
      exact ⟨⟨lender, d, amount⟩, List.mem_map.2 ⟨d, hd, rfl⟩, .inr rfl⟩

/-- **A batch concerns only the users whose entries are changed.** -/
theorem not_concerns_of_not_mem_changes (lender : UserId) (amount : Int) (debtors : List UserId)
    (first : Nat) (now : Timestamp) (user : UserId)
    (h : user ∉ (changes lender amount debtors).map (·.1)) :
    ∀ r ∈ Ledger.recordAll first now (loansTo lender amount debtors), ¬ r.Concerns user := by
  intro r hr hc
  obtain ⟨l, hl, hlu⟩ :=
    (Ledger.concerns_recordAll_iff user first now (loansTo lender amount debtors)).1 ⟨r, hr, hc⟩
  obtain ⟨d, hd, rfl⟩ := List.mem_map.1 hl
  rw [map_changes] at h
  rcases hlu with rfl | rfl
  · exact h List.mem_cons_self
  · exact h (List.mem_cons_of_mem _ hd)

end Engine

end ExpenseLedger
