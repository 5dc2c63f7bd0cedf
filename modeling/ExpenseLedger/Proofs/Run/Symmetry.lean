import ExpenseLedger.Proofs.Engine.Independence
import ExpenseLedger.Proofs.Ledger.Symmetry
import ExpenseLedger.Proofs.Run.Effects
import ExpenseLedger.Proofs.Run.Equivalence
/-!
# The balances that are served are mutual

The entries of the two parties of a loan are kept by separate updates, of which one may be applied,
the other skipped or replaced by filling the entry anew. All the same, as long as entries can be
dropped in time, what one user is told mirrors what the others are told (`served_mutual`), because
each of them is told what the ledger says.
-/

open ExpenseLedger.Task

namespace ExpenseLedger

open Web

/-- What the store gives after a run that loses nothing, if the ledger is in service. -/
theorem served_of_aggregate (supply : Supply) (steps : List Step) (user : UserId) (m : Balance)
    (hm : Ledger.aggregate user (stored supply steps).ledger.records = .ok m)
    (hserving : (stored supply steps).ledger.failing = false)
    (hsettled : (∀ st ∈ steps, st.Clears) ∧
      504 ∉ World.plain.statuses (Site.fresh (Store.empty supply)) steps) :
    (stored supply steps).served user = .ok m := by
  cases hserved : (stored supply steps).served user with
  | error e =>
    have hledger := (stored supply steps).computeBalance_of_served_error user e hserved
    unfold Ledger.computeBalance at hledger
    rw [hserving] at hledger
    change Ledger.aggregate user (stored supply steps).ledger.records = .error e at hledger
    rw [hm] at hledger
    contradiction
  | ok n =>
    have hn := aggregate_of_settled supply steps user n hserved hsettled
    rw [hm] at hn
    exact congrArg Except.ok (Except.ok.inj hn).symm

/-- **The balances that are served after a run are mutual.** Entries can be dropped in time
throughout the run, requests, if there are any, are not answered with a timeout, and no net leaves
the storable range. Then there is one balance for each user that is served whenever a balance is
served to this user, from the cache or from the ledger, and one is served while the ledger is in
service. These balances are those of the ledger, and they mirror each other. -/
theorem served_mutual (supply : Supply) (steps : List Step) (hclears : ∀ st ∈ steps, st.Clears)
    (hstatuses : 504 ∉ World.plain.statuses (Site.fresh (Store.empty supply)) steps)
    (hsums : ∀ user, ∃ m, Ledger.aggregate user (stored supply steps).ledger.records = .ok m) :
    ∃ balance : UserId → Balance,
      (∀ user, Ledger.aggregate user (stored supply steps).ledger.records = .ok (balance user)) ∧
      (∀ user w settings budget m,
        (Engine.balanceOf (Store.backends w) settings user budget
          (reached supply steps).engine).outcome.value? = some (.ok m) → m = balance user) ∧
      ((stored supply steps).ledger.failing = false → ∀ user w settings,
        (Engine.balanceOf (Store.backends w) settings user none
          (reached supply steps).engine).outcome.value? = some (.ok (balance user))) ∧
      Balance.Mutual balance := by
  choose balance hbalance using hsums
  refine ⟨balance, hbalance, fun user w settings budget m hm => ?_,
    fun hserving user w settings => ?_, ?_⟩
  · obtain ⟨spent, hdone⟩ := (Outcome.value?_eq_some_iff _ _).1 hm
    have hserved := balanceOf_eq_served supply steps w settings budget user _ spent hdone
    have hledger := aggregate_of_settled supply steps user m hserved.symm ⟨hclears, hstatuses⟩
    rw [hbalance user] at hledger
    exact (Except.ok.inj hledger).symm
  · have hserved := served_of_aggregate supply steps user (balance user) (hbalance user) hserving
      ⟨hclears, hstatuses⟩
    have hleaves := Engine.triple_balanceOf_served (Store.realizes_backends w) settings user
      (stored supply steps) none (reached supply steps).engine rfl
    obtain ⟨r, hr, rfl, -⟩ := hleaves.exists_value?
    rw [hr, hserved]
  · exact Ledger.mutual_of_aggregate _ (valid_stored supply steps) balance hbalance

open Sample

/-- The balances are mutual after the mishaps, in which Alice's entry and Bob's are dropped, damaged
and filled anew at different times. -/
theorem served_mutual_mishaps :
    ∃ balance : UserId → Balance,
      (∀ user, Ledger.aggregate user (stored supply mishaps).ledger.records =
        .ok (balance user)) ∧
      (∀ user w settings budget m,
        (Engine.balanceOf (Store.backends w) settings user budget
          (reached supply mishaps).engine).outcome.value? = some (.ok m) → m = balance user) ∧
      ((stored supply mishaps).ledger.failing = false → ∀ user w settings,
        (Engine.balanceOf (Store.backends w) settings user none
          (reached supply mishaps).engine).outcome.value? = some (.ok (balance user))) ∧
      Balance.Mutual balance := by
  refine served_mutual supply mishaps (by decide) ?_ fun user => ?_
  · rw [World.statuses_eq_nil World.plain _ mishaps (by decide)]
    exact List.not_mem_nil
  · by_cases halice : user = alice
    · rw [halice]
      exact ⟨Table.empty.insert bob 55, by decide +kernel⟩
    · by_cases hbob : user = bob
      · rw [hbob]
        exact ⟨Table.empty.insert alice (-55), by decide +kernel⟩
      · refine ⟨Table.empty, Ledger.aggregate_of_not_concerns user _ fun r hr hconcerns => ?_⟩
        have hparties : ∀ r ∈ (stored supply mishaps).ledger.records,
            (r.lender = alice ∨ r.lender = bob) ∧ (r.debtor = alice ∨ r.debtor = bob) := by
          decide +kernel
        obtain ⟨hlender, hdebtor⟩ := hparties r hr
        rcases hconcerns with rfl | rfl
        · exact hlender.elim halice hbob
        · exact hdebtor.elim halice hbob

end ExpenseLedger
