import ExpenseLedger.Proofs.Ledger.Shifts
import ExpenseLedger.Proofs.Run.Symmetry
/-!
# What sharing an expense does to the balances that are served

As long as entries can be dropped in time, the balances that are served before and after an expense
has been shared differ by the shares, and by nothing else, whatever the cache holds or has lost of
them on the way, and whoever reads balances in between (`sharing_shifts_served`).
-/

open ExpenseLedger.Task

namespace ExpenseLedger

open Web

/-! ## Reading leaves the records alone -/

/-- The ledgers have the same records, and both are in service or neither is. -/
structure Ledger.SameButScans (l l' : Ledger) : Prop where
  /-- The records are the same. -/
  records : l'.records = l.records
  /-- Both are in service, or neither is. -/
  failing : l'.failing = l.failing

/-- A ledger is like itself. -/
theorem Ledger.SameButScans.refl (l : Ledger) : l.SameButScans l := ⟨rfl, rfl⟩

/-- Computing a balance is a scan, and changes nothing else. -/
theorem Ledger.SameButScans.computeBalance {l l' : Ledger} (h : l.SameButScans l')
    (user : UserId) : l.SameButScans (l'.computeBalance user).2 := by
  unfold Ledger.computeBalance
  split
  · exact h
  · exact ⟨h.records, h.failing⟩

namespace Engine

/-- Reading a balance leaves the records alone, and the ledger in service if it was. -/
theorem triple_balanceOf_scans {b : Backends Store} (hb : b.Realizes) (settings : EngineSettings)
    (user : UserId) (l : Ledger) :
    Triple (fun e => l.SameButScans e.store.ledger) (balanceOf b settings user)
      (fun _ e => l.SameButScans e.store.ledger) fun e => l.SameButScans e.store.ledger := by
  have hcache : b.CacheKeeps fun s => l.SameButScans s.ledger := hb.cacheKeeps fun _ _ hs => hs
  refine triple_balanceOf_keeps (P := fun s : Store => l.SameButScans s.ledger)
    (hcache.clear user) ?_ ?_ (hcache.populate user)
  · exact (hb.lookup user).keeps fun _ hs => hs
  · exact (hb.computeBalance user).keeps fun _ hs => hs.computeBalance user

end Engine

/-- The step is the reading of a balance. -/
def Step.Reads : Step → Prop
  | call _ (.balanceOf _) => True
  | _ => False

/-- The reading of a balance is no request. -/
theorem Step.Reads.isRequest_eq_false {st : Step} (h : st.Reads) : st.isRequest = false := by
  cases st with
  | call c call => rfl
  | request c r => contradiction
  | fault f => rfl

namespace World

/-- Reading leaves the records alone. -/
theorem sameButScans_step (x : Site Store) (st : Step) (h : st.Reads) :
    x.engine.store.ledger.SameButScans (plain.step x st).engine.store.ledger := by
  cases st with
  | request c r => contradiction
  | fault f => contradiction
  | call c call =>
    cases call with
    | balanceOf user =>
      have hleaves := Engine.triple_balanceOf_scans (Store.realizes_backends c.waits) c.settings
        user x.engine.store.ledger none x.engine (Ledger.SameButScans.refl _)
      have hstate := hleaves.state (fun _ _ h => h) fun _ h => h
      rw [← Task.state_ignore] at hstate
      exact hstate
    | _ => contradiction

/-- However often balances are read. -/
theorem sameButScans_run (x : Site Store) (reads : List Step) (h : ∀ st ∈ reads, st.Reads) :
    x.engine.store.ledger.SameButScans (plain.run x reads).engine.store.ledger := by
  induction reads generalizing x with
  | nil => exact Ledger.SameButScans.refl _
  | cons st reads ih =>
    have hfirst := sameButScans_step x st (h st List.mem_cons_self)
    have hrest := ih (plain.step x st) fun d hd => h d (List.mem_cons_of_mem st hd)
    exact ⟨hrest.records.trans hfirst.records, hrest.failing.trans hfirst.failing⟩

end World

/-- Balances that are read after a run leave the records of the run alone. -/
theorem sameButScans_stored (supply : Supply) (steps reads : List Step)
    (h : ∀ st ∈ reads, st.Reads) :
    (stored supply steps).ledger.SameButScans (stored supply (steps ++ reads)).ledger := by
  unfold stored
  rw [reached_append]
  exact World.sameButScans_run (reached supply steps) reads h

/-! ## Runs that lose nothing -/

/-- Nothing keeps entries from being dropped in time throughout the run, and no request is answered
with a timeout. -/
structure Settled (supply : Supply) (steps : List Step) : Prop where
  /-- Entries can be dropped in time. -/
  clears : ∀ st ∈ steps, st.Clears
  /-- No request is answered with a timeout. -/
  statuses : 504 ∉ World.plain.statuses (Site.fresh (Store.empty supply)) steps

/-- The first part of a run is settled if the whole is. -/
theorem Settled.of_append {supply : Supply} {steps more : List Step}
    (h : Settled supply (steps ++ more)) : Settled supply steps := by
  refine ⟨fun st hst => h.clears st (List.mem_append_left more hst), fun hmem => h.statuses ?_⟩
  rw [World.statuses_append]
  exact List.mem_append_left _ hmem

/-- A run stays settled when calls are added to it. -/
theorem Settled.append_calls {supply : Supply} {steps calls : List Step}
    (h : Settled supply steps) (hclears : ∀ st ∈ calls, st.Clears)
    (hcalls : ∀ st ∈ calls, st.isRequest = false) : Settled supply (steps ++ calls) := by
  refine ⟨fun st hst => ?_, ?_⟩
  · rcases List.mem_append.1 hst with hst | hst
    · exact h.clears st hst
    · exact hclears st hst
  · rw [World.statuses_append, World.statuses_eq_nil World.plain _ calls hcalls, List.append_nil]
    exact h.statuses

/-! ## Sharing an expense -/

/-- While the ledger is in service, everybody is served the balance of all records after a run that
loses nothing. -/
theorem Settled.serves {supply : Supply} {steps : List Step} (h : Settled supply steps)
    (hserving : (stored supply steps).ledger.failing = false) (user : UserId) (m : Balance)
    (hm : Ledger.aggregate user (stored supply steps).ledger.records = .ok m) (w : Store.Waits)
    (settings : EngineSettings) :
    (Engine.balanceOf (Store.backends w) settings user none
      (reached supply steps).engine).outcome.value? = some (.ok m) := by
  have hserved := served_of_aggregate supply steps user m hm hserving ⟨h.clears, h.statuses⟩
  have hleaves := Engine.triple_balanceOf_served (Store.realizes_backends w) settings user
    (stored supply steps) none (reached supply steps).engine rfl
  obtain ⟨r, hr, rfl, -⟩ := hleaves.exists_value?
  rw [hr, hserved]

/-- An expense that is shared adds its batch to the ledger, which is in service. -/
theorem Store.share_eq_ok (payer : UserId) (total : Int) (group : GroupId) (s : Store)
    (x : Expense) (h : (s.share payer total group).1 = .ok x) :
    Ledger.IsBatch payer x.share x.debtors x.loans ∧ s.ledger.failing = false ∧
      (s.share payer total group).2.ledger =
        { s.ledger with records := s.ledger.records ++ x.loans } := by
  unfold share at h ⊢
  cases hterms : s.directory.terms payer total group with
  | error e =>
    rw [hterms] at h
    contradiction
  | ok terms =>
    obtain ⟨debtors, share⟩ := terms
    rw [hterms] at h
    dsimp only at h ⊢
    obtain ⟨-, ⟨⟨e, herror⟩, -⟩ | ⟨batch, hbatch, hvalue, hledger⟩⟩ :=
      lend_isBatch payer share debtors s
    · rw [herror] at h
      contradiction
    · rw [hvalue] at h
      cases h
      refine ⟨hbatch, ?_, hledger⟩
      cases hfailing : s.ledger.failing with
      | false => rfl
      | true =>
        have hrefused : ∃ e, (s.lend payer share debtors).1 = .error e := by
          unfold lend
          cases Engine.checkBatch payer share debtors with
          | error e => exact ⟨e, rfl⟩
          | ok _ =>
            refine ⟨.ledgerUnavailable, ?_⟩
            simp only [append, Ledger.append, hfailing, if_true]
        obtain ⟨e, he⟩ := hrefused
        rw [hvalue] at he
        contradiction

/-- The ledger after an expense has been shared. -/
theorem ledger_step_shareExpense (x : Site Store) (c : Conditions) (payer : UserId) (total : Int)
    (group : GroupId) (expense : Expense)
    (h : (Engine.shareExpense (Store.backends c.waits) c.settings payer total group none
      x.engine).outcome.value? = some (.ok expense)) :
    Ledger.IsBatch payer expense.share expense.debtors expense.loans ∧
      x.engine.store.ledger.failing = false ∧
      (World.plain.step x (.call c (.shareExpense payer total group))).engine.store.ledger =
        { x.engine.store.ledger with
          records := x.engine.store.ledger.records ++ expense.loans } := by
  obtain ⟨hvalue, hledger⟩ := Engine.shareExpense_eq_share (Store.realizes_backends c.waits)
    c.settings payer total group x.engine
  rw [hvalue] at h
  obtain ⟨hbatch, hserving, hshared⟩ :=
    x.engine.store.share_eq_ok payer total group expense (Option.some.inj h)
  refine ⟨hbatch, hserving, ?_⟩
  rw [← hshared, ← hledger, ← Task.state_ignore]
  rfl

/-- **Sharing an expense moves the served balances by the shares, and nothing else.** Before
the expense is shared, entries can be dropped in time throughout and requests, if there are any, are
not answered with a timeout; so can they when it is shared, which succeeds, and no net leaves the
storable range. Then there is one balance for each user that is served before, also if other
balances are read until then, and one that is served after, also if others are read first. The
payer's moves up by the share toward each debtor, each debtor's moves down by it toward the payer,
where it is found even if it comes to nothing, and all else stays. -/
theorem sharing_shifts_served (supply : Supply) (steps : List Step) (c : Conditions)
    (payer : UserId) (total : Int) (group : GroupId) (x : Expense)
    (hclears : ∀ st ∈ steps, st.Clears)
    (hstatuses : 504 ∉ World.plain.statuses (Site.fresh (Store.empty supply)) steps)
    (hclear : (Step.call c (.shareExpense payer total group)).Clears)
    (hx : (Engine.shareExpense (Store.backends c.waits) c.settings payer total group none
      (reached supply steps).engine).outcome.value? = some (.ok x))
    (hsums : ∀ user, ∃ m, Ledger.aggregate user
      (stored supply (steps ++ [.call c (.shareExpense payer total group)])).ledger.records =
        .ok m) :
    ∃ before after : UserId → Balance,
      (∀ earlier reads, steps = earlier ++ reads → (∀ st ∈ reads, st.Reads) →
        ∀ user w settings, (Engine.balanceOf (Store.backends w) settings user none
          (reached supply earlier).engine).outcome.value? = some (.ok (before user))) ∧
      (∀ reads, (∀ st ∈ reads, st.Reads) → (∀ st ∈ reads, st.Clears) →
        ∀ user w settings, (Engine.balanceOf (Store.backends w) settings user none
          (reached supply (steps ++ [.call c (.shareExpense payer total group)] ++
            reads)).engine).outcome.value? = some (.ok (after user))) ∧
      ∀ user other, (after user).get? other =
        if user = payer ∧ other ∈ x.debtors then some ((before user).getD other 0 + x.share)
        else if user ∈ x.debtors ∧ other = payer then
          some ((before user).getD other 0 - x.share)
        else (before user).get? other := by
  have hsettled : Settled supply steps := ⟨hclears, hstatuses⟩
  have hsettled' : Settled supply (steps ++ [.call c (.shareExpense payer total group)]) :=
    hsettled.append_calls (by simpa using hclear) (by simp [Step.isRequest])
  obtain ⟨hbatch, hserving, hledger⟩ :=
    ledger_step_shareExpense (reached supply steps) c payer total group x hx
  have hafter : (stored supply (steps ++ [.call c (.shareExpense payer total group)])).ledger =
      { (stored supply steps).ledger with
        records := (stored supply steps).ledger.records ++ x.loans } := by
    unfold stored
    rw [reached_append]
    exact hledger
  rw [hafter] at hsums
  choose after hafters using hsums
  have hbefores (user : UserId) : ∃ m,
      Ledger.aggregate user (stored supply steps).ledger.records = .ok m :=
    Ledger.exists_aggregate_of_append user _ _ (after user) (hafters user)
  choose before hbefore using hbefores
  refine ⟨before, after, ?_, ?_, fun user other => ?_⟩
  · rintro earlier reads rfl hreads user w settings
    have hsame := sameButScans_stored supply earlier reads hreads
    refine hsettled.of_append.serves (hsame.failing.symm.trans hserving) user _ ?_ w settings
    rw [← hsame.records]
    exact hbefore user
  · intro reads hreads hclears' user w settings
    have hsame := sameButScans_stored supply
      (steps ++ [.call c (.shareExpense payer total group)]) reads hreads
    have hcalls : ∀ st ∈ reads, st.isRequest = false :=
      fun st hst => (hreads st hst).isRequest_eq_false
    refine (hsettled'.append_calls hclears' hcalls).serves ?_ user _ ?_ w settings
    · rw [hsame.failing, hafter]
      exact hserving
    · rw [hsame.records, hafter]
      exact hafters user
  · exact Ledger.get?_aggregate_batch hbatch user _ (before user) (after user) (hbefore user)
      (hafters user) other

/-- All balances can be computed if those of the parties can. -/
theorem Ledger.exists_aggregate_of_parties (users : List UserId) (rs : List LoanRecord)
    (hparties : ∀ r ∈ rs, r.lender ∈ users ∧ r.debtor ∈ users)
    (h : ∀ user ∈ users, ∃ m, aggregate user rs = .ok m) (user : UserId) :
    ∃ m, aggregate user rs = .ok m := by
  by_cases huser : user ∈ users
  · exact h user huser
  · refine ⟨Table.empty, aggregate_of_not_concerns user rs fun r hr hconcerns => huser ?_⟩
    obtain ⟨hlender, hdebtor⟩ := hparties r hr
    rcases hconcerns with rfl | rfl
    · exact hlender
    · exact hdebtor

namespace Sample

/-- The expense by which Bob gets even with Alice. -/
def getEven : Expense :=
  ⟨flat, bob, 110, 55, [alice], [⟨⟨bob, alice, 55⟩, Id.ofNat 105, ⟨1700000000, 5⟩⟩]⟩

/-- Nobody owes anybody too much once the expense is shared. -/
theorem exists_aggregate_getEven (user : UserId) :
    ∃ m, Ledger.aggregate user
      (stored supply (mishaps ++ [.call calm (.shareExpense bob 110 flat)])).ledger.records =
        .ok m := by
  refine Ledger.exists_aggregate_of_parties [alice, bob] _ (by decide +kernel) ?_ user
  intro user huser
  rcases List.mem_pair.1 huser with rfl | rfl
  · exact ⟨Table.empty.insert bob 0, by decide +kernel⟩
  · exact ⟨Table.empty.insert alice 0, by decide +kernel⟩

end Sample

open Sample

/-- After the mishaps Bob owes Alice 55, and after the expense they are even, which both are told,
the amount zero and all. -/
theorem sharing_shifts_served_even :
    (Engine.shareExpense (Store.backends Store.Waits.none) EngineSettings.standard bob 110 flat
      none (reached supply mishaps).engine).outcome.value? = some (.ok getEven) ∧
    ∃ before after : UserId → Balance,
      (∀ user, (Engine.balanceOf (Store.backends Store.Waits.none) EngineSettings.standard user none
        (reached supply mishaps).engine).outcome.value? = some (.ok (before user))) ∧
      (∀ user, (Engine.balanceOf (Store.backends Store.Waits.none) EngineSettings.standard user none
        (reached supply
          (mishaps ++ [.call calm (.shareExpense bob 110 flat)])).engine).outcome.value? =
            some (.ok (after user))) ∧
      (before alice).get? bob = some 55 ∧ (after alice).get? bob = some 0 ∧
      (after bob).get? alice = some 0 := by
  have hx : (Engine.shareExpense (Store.backends Store.Waits.none) EngineSettings.standard bob 110
      flat none (reached supply mishaps).engine).outcome.value? = some (.ok getEven) := by
    decide +kernel
  have hstatuses : 504 ∉ World.plain.statuses (Site.fresh (Store.empty supply)) mishaps := by
    rw [World.statuses_eq_nil World.plain _ mishaps (by decide)]
    exact List.not_mem_nil
  obtain ⟨before, after, hbefore, hafter, hshift⟩ := sharing_shifts_served supply mishaps calm bob
    110 flat getEven (by decide) hstatuses (by decide) hx exists_aggregate_getEven
  have hserved (user : UserId) := hbefore mishaps [] (List.append_nil _).symm (by simp) user
    Store.Waits.none EngineSettings.standard
  have hserved' (user : UserId) := hafter [] (by simp) (by simp) user Store.Waits.none
    EngineSettings.standard
  have htold (user : UserId) (m : Balance)
      (h : (Engine.balanceOf (Store.backends Store.Waits.none) EngineSettings.standard user none
        (reached supply mishaps).engine).outcome.value? = some (.ok m)) : before user = m := by
    rw [hserved user] at h
    exact Except.ok.inj (Option.some.inj h)
  have halice := htold alice (Table.empty.insert bob 55) (by decide +kernel)
  have hbob := htold bob (Table.empty.insert alice (-55)) (by decide +kernel)
  refine ⟨hx, before, after, hserved, fun user => ?_, ?_, ?_, ?_⟩
  · have huser := hserved' user
    rw [List.append_nil] at huser
    exact huser
  · rw [halice]
    decide
  · rw [hshift alice bob, halice]
    decide
  · rw [hshift bob alice, hbob]
    decide

end ExpenseLedger
