import ExpenseLedger.Proofs.Run.Staleness
/-!
# Equivalence of cache and ledger

As long as the cache is in service and entries can be dropped in time, the services keep the cache
equivalent to the ledger: an entry that can be read is the balance of all records. It does not
matter which calls fail on the way, whether the ledger or the directory goes out of service, whether
updates are refused, or what damage is done to the hashes.
-/

open ExpenseLedger.Task

namespace ExpenseLedger

open History Web

/-- The step is a request on the web. -/
def Step.isRequest : Step → Bool
  | request _ _ => true
  | _ => false

/-- Without requests there are no statuses. -/
theorem World.statuses_eq_nil {σ : Type} (w : World σ) (x : Site σ) (steps : List Step)
    (h : ∀ st ∈ steps, st.isRequest = false) : w.statuses x steps = [] := by
  induction steps generalizing x with
  | nil => rfl
  | cons st steps ih =>
    have hst := h st List.mem_cons_self
    have hnone : w.status? x st = none := by
      cases st with
      | call c call => rfl
      | request c r => contradiction
      | fault f => rfl
    rw [statuses, hnone, ih _ fun d hd => h d (List.mem_cons_of_mem st hd)]
    rfl

/-- A run of calls loses nothing if entries can be dropped in time throughout. -/
theorem kept_eq_records (supply : Supply) (steps : List Step) (hclears : ∀ st ∈ steps, st.Clears)
    (hcalls : ∀ st ∈ steps, st.isRequest = false) (user : UserId) :
    kept user (history supply steps) = (stored supply steps).ledger.records := by
  have hstatuses : 504 ∉ World.plain.statuses (Site.fresh (Store.empty supply)) steps := by
    rw [World.statuses_eq_nil World.plain _ steps hcalls]
    exact List.not_mem_nil
  rw [← committed_history]
  exact kept_eq_committed user _ ((sound_journaled supply steps).complete ⟨hclears, hstatuses⟩ user)

/-- **Equivalence of cache and ledger.** After any run of calls in which the cache stays in service
and entries can be dropped in time, a marked entry that decodes is the balance of all records, and
so is every balance that is served, and so are its lines. -/
theorem cached_eq_aggregate (supply : Supply) (steps : List Step)
    (hclears : ∀ st ∈ steps, st.Clears) (hcalls : ∀ st ∈ steps, st.isRequest = false)
    (user : UserId) :
    (∀ m, (stored supply steps).cache.isMarked user = true →
      Cache.decode (((stored supply steps).cache.fields? user).getD Table.empty) = .ok m →
      Ledger.aggregate user (stored supply steps).ledger.records = .ok m) ∧
    (∀ w settings budget m spent,
      (Engine.balanceOf (Store.backends w) settings user budget
        (reached supply steps).engine).outcome = .done (.ok m) spent →
      Ledger.aggregate user (stored supply steps).ledger.records = .ok m) ∧
    (∀ w settings budget lines spent,
      (Engine.balanceLinesOf (Store.backends w) settings user budget
        (reached supply steps).engine).outcome = .done (.ok lines) spent →
      ∃ m, Ledger.aggregate user (stored supply steps).ledger.records = .ok m ∧
        lines = m.lines) := by
  have hkept := kept_eq_records supply steps hclears hcalls user
  have hserved : ∀ m, (stored supply steps).served user = .ok m →
      Ledger.aggregate user (stored supply steps).ledger.records = .ok m := by
    intro m hm
    rcases served_cases supply steps user m hm with ⟨-, hagg⟩ | ⟨-, hledger⟩
    · rw [hkept] at hagg
      exact hagg
    · exact hledger
  refine ⟨fun m hmarked hdecode => ?_, fun w settings budget m spent h => ?_,
    fun w settings budget lines spent h => ?_⟩
  · rw [← hkept]
    exact aggregate_kept_of_entry supply steps user _ m (if_pos hmarked) hdecode
  · exact hserved m (balanceOf_eq_served supply steps w settings budget user _ spent h).symm
  · have hlines := balanceLinesOf_eq_served supply steps w settings budget user _ spent h
    cases hs : (stored supply steps).served user with
    | error e =>
      rw [hs] at hlines
      contradiction
    | ok m =>
      rw [hs] at hlines
      cases hlines
      exact ⟨m, hserved m hs, rfl⟩

namespace Sample

/-- Loans and an expense are recorded while updates are refused, an entry is damaged, another is
dropped, and the ledger is out of service for a while. -/
def mishaps : List Step :=
  [.call calm (.createGroup "flat" alice), .call calm (.addMembers alice flat [bob]),
    .call calm (.balanceOf alice), .call calm (.balanceOf bob),
    .call calm (.addLoans alice 100 [bob]), .fault (.updates true),
    .call calm (.shareExpense bob 50 flat), .fault (.updates false), .call calm (.balanceOf alice),
    .fault (.damage bob "rent" "1" (by decide)), .fault (.ledger true),
    .call calm (.addLoans bob 30 [alice]), .fault (.ledger false), .call calm (.clear bob),
    .call calm (.addLoans bob 20 [alice]), .call calm (.balanceLinesOf bob)]

end Sample

open Sample

/-- After the mishaps Alice's entry is right, and what Bob is told is right. -/
theorem cached_eq_aggregate_mishaps :
    Ledger.aggregate alice (stored supply mishaps).ledger.records =
      .ok (Table.empty.insert bob 55) ∧
    Ledger.aggregate bob (stored supply mishaps).ledger.records =
      .ok (Table.empty.insert alice (-55)) := by
  have hclears : ∀ st ∈ mishaps, st.Clears := by decide
  have hcalls : ∀ st ∈ mishaps, st.isRequest = false := by decide
  constructor
  · exact (cached_eq_aggregate supply mishaps hclears hcalls alice).1 (Table.empty.insert bob 55)
      (by decide +kernel) (by decide +kernel)
  · exact (cached_eq_aggregate supply mishaps hclears hcalls bob).2.1 Store.Waits.none
      EngineSettings.standard none (Table.empty.insert alice (-55)) 0 (by decide +kernel)

end ExpenseLedger
