import ExpenseLedger.Proofs.Engine.Effects
/-!
# The cache has no say

What is recorded, and what those who record it are told, does not depend on the cache: neither on
what it holds, readable or not, nor on what is wrong with it, nor on how long it takes. No error
that comes up in the work on cache entries reaches a caller. Main statement:

* `Engine.cache_has_no_say`: two engines that differ in their caches.
-/

open ExpenseLedger.Task

namespace ExpenseLedger

variable {α β : Type}

/-! ## Errors of cache work -/

/-- The kinds of errors that come up in the work on cache entries. -/
def ErrorKind.ofCacheWork : List ErrorKind := [.cache, .corrupted, .timeout]

/-- The result is no error of the work on cache entries. -/
def Shielded (r : Except Error α) : Prop := ∀ e, r = .error e → e.kind ∉ ErrorKind.ofCacheWork

/-- A value is no error. -/
theorem Shielded.ok (a : α) : Shielded (.ok a) := by
  intro e h
  contradiction

/-- An error of another kind. -/
theorem Shielded.error {e : Error} (h : e.kind ∉ ErrorKind.ofCacheWork) :
    Shielded (.error e : Except Error α) := by
  rintro e' ⟨⟩
  exact h

/-- The breach of a business rule. -/
theorem Shielded.badRequest {e : Error} (h : e.kind = .badRequest) :
    Shielded (.error e : Except Error α) := by
  refine .error ?_
  rw [h]
  decide

/-- Errors stay the same when the value is changed. -/
theorem Shielded.map {r : Except Error α} (h : Shielded r) (f : α → β) : Shielded (r.map f) := by
  cases r with
  | error e => exact .error (h e rfl)
  | ok a => exact .ok (f a)

/-- The check of a loan finds breaches of rules. -/
theorem Loan.shielded_check (l : Loan) : Shielded l.check := by
  unfold check
  split
  · exact .badRequest rfl
  · split
    · exact .badRequest rfl
    · split
      · exact .badRequest rfl
      · exact .ok ()

/-- The check of several loans finds what the check of one of them finds. -/
theorem Loan.shielded_checkAll (ls : List Loan) : Shielded (checkAll ls) := by
  induction ls with
  | nil => exact .ok ()
  | cons l ls ih =>
    unfold checkAll
    cases h : l.check with
    | error e => exact .error (l.shielded_check e h)
    | ok _ => exact ih

/-- The check of a batch finds breaches of rules. -/
theorem Engine.shielded_checkBatch (lender : UserId) (amount : Int) (debtors : List UserId) :
    Shielded (checkBatch lender amount debtors) := by
  unfold checkBatch
  split
  · exact .badRequest rfl
  · split
    · exact Loan.shielded_checkAll _
    · exact .badRequest rfl

/-- Recording fails when the ledger is out of service or a loan breaks a rule. -/
theorem Ledger.shielded_append (loans : List Loan) (first : Nat) (now : Timestamp) (l : Ledger) :
    Shielded (l.append loans first now).1 := by
  unfold append
  cases l.failing with
  | true => exact .error (by decide)
  | false =>
    cases h : Loan.checkAll loans with
    | error e => exact .error (Loan.shielded_checkAll loans e h)
    | ok _ => exact .ok _

/-- Computing a balance fails when the ledger is out of service or a net is too large. -/
theorem Ledger.shielded_computeBalance (user : UserId) (l : Ledger) :
    Shielded (l.computeBalance user).1 := by
  unfold computeBalance
  cases l.failing with
  | true => exact .error (by decide)
  | false =>
    intro e h
    obtain ⟨other, rfl⟩ := exists_overflow_of_addRecords user Table.empty l.records e h
    change ErrorKind.storage ∉ ErrorKind.ofCacheWork
    decide

/-- Only the directory itself and an unknown group keep the members of a group from being found. -/
theorem Directory.shielded_sharers (group : GroupId) (d : Directory) :
    Shielded (d.sharers group) := by
  unfold sharers require find members query
  cases d.failing with
  | true => exact .error (by decide)
  | false =>
    simp only [Bool.false_eq_true, if_false]
    cases (d.entries.get? group).map (·.group) with
    | none =>
      refine .error ?_
      change ErrorKind.notFound ∉ ErrorKind.ofCacheWork
      decide
    | some found => exact .ok _

/-- The terms of an expense break a rule, or the members of the group cannot be found. -/
theorem Directory.shielded_terms (payer : UserId) (total : Int) (group : GroupId) (d : Directory) :
    Shielded (d.terms payer total group) := by
  unfold terms Engine.checkExpense
  split
  · rename_i e h
    split at h
    · cases h
      exact .badRequest rfl
    · split at h
      · cases h
        exact .badRequest rfl
      · contradiction
  · cases h : d.sharers group with
    | error e => exact .error (d.shielded_sharers group e h)
    | ok members =>
      dsimp only [Engine.split]
      split
      · exact .badRequest rfl
      · split
        · exact .error (by decide)
        · split
          · exact .badRequest rfl
          · exact .ok _

namespace Store

/-- Recording loans shows no error of cache work. -/
theorem shielded_lend (lender : UserId) (amount : Int) (debtors : List UserId) (s : Store) :
    Shielded (s.lend lender amount debtors).1 := by
  unfold lend
  cases h : Engine.checkBatch lender amount debtors with
  | error e => exact .error (Engine.shielded_checkBatch lender amount debtors e h)
  | ok _ => exact Ledger.shielded_append _ _ _ s.ledger

/-- Sharing an expense shows no error of cache work. -/
theorem shielded_share (payer : UserId) (total : Int) (group : GroupId) (s : Store) :
    Shielded (s.share payer total group).1 := by
  unfold share
  cases h : s.directory.terms payer total group with
  | error e => exact .error (s.directory.shielded_terms payer total group e h)
  | ok terms => exact (s.shielded_lend payer terms.2 terms.1).map _

/-- If no balance is served, the ledger does not give one. -/
theorem computeBalance_of_served_error (user : UserId) (s : Store) (e : Error)
    (h : s.served user = .error e) : (s.ledger.computeBalance user).1 = .error e := by
  unfold served at h
  split at h
  · contradiction
  · exact h

/-- Serving a balance shows no error of cache work. -/
theorem shielded_served (user : UserId) (s : Store) : Shielded (s.served user) := by
  intro e h
  exact s.ledger.shielded_computeBalance user e (s.computeBalance_of_served_error user e h)

end Store

/-! ## Two stores that differ in their caches -/

/-- An expense without the identifiers and times of its loans. -/
def Expense.outline (x : Expense) : GroupId × UserId × Int × Int × List UserId × List Loan :=
  (x.group, x.payer, x.total, x.share, x.debtors, x.loans.map LoanRecord.toLoan)

/-- Both ledgers are the same ledger with records of the same loans added to it. -/
def Ledger.GrownAlike (l l₁ l₂ : Ledger) : Prop :=
  ∃ batch₁ batch₂ : List LoanRecord,
    batch₁.map LoanRecord.toLoan = batch₂.map LoanRecord.toLoan ∧
      l₁ = { l with records := l.records ++ batch₁ } ∧
      l₂ = { l with records := l.records ++ batch₂ }

/-- A ledger to which nothing is added. -/
theorem Ledger.GrownAlike.refl (l : Ledger) : l.GrownAlike l l := by
  have hnil : l = { l with records := l.records ++ [] } := by rw [List.append_nil]
  exact ⟨[], [], rfl, hnil, hnil⟩

namespace Store

/-- Recording loans gives the same, but for identifiers and times, whatever the cache. -/
theorem lend_alike (lender : UserId) (amount : Int) (debtors : List UserId) (s s' : Store)
    (h : s'.ledger = s.ledger) :
    (s.lend lender amount debtors).1.map (List.map LoanRecord.toLoan) =
        (s'.lend lender amount debtors).1.map (List.map LoanRecord.toLoan) ∧
      s.ledger.GrownAlike (s.lend lender amount debtors).2.ledger
        (s'.lend lender amount debtors).2.ledger := by
  unfold lend
  cases Engine.checkBatch lender amount debtors with
  | error e =>
    dsimp only
    rw [h]
    exact ⟨rfl, .refl _⟩
  | ok _ =>
    dsimp only
    generalize Engine.loansTo lender amount debtors = loans
    unfold append Ledger.append
    rw [h]
    by_cases hfailing : s.ledger.failing = true
    · rw [if_pos hfailing, if_pos hfailing]
      exact ⟨rfl, .refl _⟩
    · rw [if_neg hfailing, if_neg hfailing]
      cases Loan.checkAll loans with
      | error e => exact ⟨rfl, .refl _⟩
      | ok _ =>
        have hbatch : ∀ supply : Supply,
            (Ledger.recordAll supply.next supply.now loans).map LoanRecord.toLoan = loans :=
          fun supply => Ledger.map_toLoan_recordAll supply.next supply.now loans
        refine ⟨congrArg Except.ok ((hbatch _).trans (hbatch _).symm), _, _,
          (hbatch s.supply).trans (hbatch s'.supply).symm, rfl, rfl⟩

/-- Sharing an expense gives the same, but for identifiers and times, whatever the cache. -/
theorem share_alike (payer : UserId) (total : Int) (group : GroupId) (s s' : Store)
    (hledger : s'.ledger = s.ledger) (hdirectory : s'.directory = s.directory) :
    (s.share payer total group).1.map Expense.outline =
        (s'.share payer total group).1.map Expense.outline ∧
      s.ledger.GrownAlike (s.share payer total group).2.ledger
        (s'.share payer total group).2.ledger := by
  unfold share
  rw [hdirectory]
  cases s.directory.terms payer total group with
  | error e =>
    dsimp only
    rw [hledger]
    exact ⟨rfl, .refl _⟩
  | ok terms =>
    obtain ⟨debtors, amount⟩ := terms
    dsimp only
    obtain ⟨hloans, hgrown⟩ := lend_alike payer amount debtors s s' hledger
    refine ⟨?_, hgrown⟩
    -- The loans are the only part of the expense that comes from recording.
    have houtline : ∀ r : Except Error (List LoanRecord),
        (r.map fun loans => (⟨group, payer, total, amount, debtors, loans⟩ : Expense)).map
            Expense.outline =
          (r.map (List.map LoanRecord.toLoan)).map fun loans =>
            (group, payer, total, amount, debtors, loans) := by
      intro r
      cases r <;> rfl
    rw [houtline, houtline, hloans]

end Store

/-! ## Two engines that differ in their caches -/

namespace Engine

variable {b : Backends Store} (hb : b.Realizes) (settings : EngineSettings)
include hb

/-- Without a deadline, recording loans gives what the store gives. -/
theorem addLoans_eq_lend (lender : UserId) (amount : Int) (debtors : List UserId)
    (e : Engine Store) :
    (addLoans b settings lender amount debtors none e).outcome.value? =
        some (e.store.lend lender amount debtors).1 ∧
      (addLoans b settings lender amount debtors none e).state.store.ledger =
        (e.store.lend lender amount debtors).2.ledger := by
  have hleaves := triple_addLoans_lend hb settings lender amount debtors e.store none e rfl
  obtain ⟨r, hr, rfl, hsame⟩ := hleaves.exists_value?
  exact ⟨hr, hsame.ledger⟩

/-- Without a deadline, sharing an expense gives what the store gives. -/
theorem shareExpense_eq_share (payer : UserId) (total : Int) (group : GroupId)
    (e : Engine Store) :
    (shareExpense b settings payer total group none e).outcome.value? =
        some (e.store.share payer total group).1 ∧
      (shareExpense b settings payer total group none e).state.store.ledger =
        (e.store.share payer total group).2.ledger := by
  have hleaves := triple_shareExpense_share hb settings payer total group e.store none e rfl
  obtain ⟨r, hr, rfl, hsame⟩ := hleaves.exists_value?
  exact ⟨hr, hsame.ledger⟩

/-- Under any deadline, no operation on balances shows an error of cache work. -/
theorem shielded_of_value? (e : Engine Store) (budget : Option Nat) :
    (∀ lender amount debtors r,
      (addLoans b settings lender amount debtors budget e).outcome.value? = some r →
        Shielded r) ∧
    (∀ payer total group r,
      (shareExpense b settings payer total group budget e).outcome.value? = some r →
        Shielded r) ∧
    (∀ user r, (balanceOf b settings user budget e).outcome.value? = some r → Shielded r) ∧
    (∀ user r, (balanceLinesOf b settings user budget e).outcome.value? = some r →
      Shielded r) := by
  refine ⟨fun lender amount debtors r hr => ?_, fun payer total group r hr => ?_,
    fun user r hr => ?_, fun user r hr => ?_⟩
  · have hleaves := triple_addLoans_lend hb settings lender amount debtors e.store budget e rfl
    rw [(hleaves.of_value? r hr).1]
    exact e.store.shielded_lend lender amount debtors
  · have hleaves := triple_shareExpense_share hb settings payer total group e.store budget e rfl
    rw [(hleaves.of_value? r hr).1]
    exact e.store.shielded_share payer total group
  · have hleaves := triple_balanceOf_served hb settings user e.store budget e rfl
    rw [(hleaves.of_value? r hr).1]
    exact e.store.shielded_served user
  · have hleaves := triple_balanceLinesOf_served hb settings user e.store budget e rfl
    rw [(hleaves.of_value? r hr).1]
    exact (e.store.shielded_served user).map Balance.lines

omit hb in
/-- **The cache has no say in writing, and its errors reach nobody.** Two engines have the same
ledger and the same groups; their caches, the waits of their operations and their settings may be
any. Then loans recorded and expenses shared give the same in both, but for identifiers and times,
and leave the ledgers alike. A balance that is not given is one that the ledger does not give. -/
theorem cache_has_no_say (l : Ledger) (d : Directory) (cache cache' : Cache)
    (supply supply' : Supply) (counters counters' : Counters) (w w' : Store.Waits)
    (settings settings' : EngineSettings) :
    let e : Engine Store := ⟨⟨l, cache, d, supply⟩, counters⟩
    let e' : Engine Store := ⟨⟨l, cache', d, supply'⟩, counters'⟩
    (∀ lender amount debtors,
      let ran := addLoans (Store.backends w) settings lender amount debtors none e
      let ran' := addLoans (Store.backends w') settings' lender amount debtors none e'
      ∃ r r', ran.outcome.value? = some r ∧ ran'.outcome.value? = some r' ∧
        r.map (List.map LoanRecord.toLoan) = r'.map (List.map LoanRecord.toLoan) ∧
        l.GrownAlike ran.state.store.ledger ran'.state.store.ledger) ∧
    (∀ payer total group,
      let ran := shareExpense (Store.backends w) settings payer total group none e
      let ran' := shareExpense (Store.backends w') settings' payer total group none e'
      ∃ r r', ran.outcome.value? = some r ∧ ran'.outcome.value? = some r' ∧
        r.map Expense.outline = r'.map Expense.outline ∧
        l.GrownAlike ran.state.store.ledger ran'.state.store.ledger) ∧
    (∀ user, ∃ r, (balanceOf (Store.backends w) settings user none e).outcome.value? = some r ∧
      ∀ err, r = .error err → (l.computeBalance user).1 = .error err) ∧
    (∀ budget,
      (∀ lender amount debtors r,
        (addLoans (Store.backends w) settings lender amount debtors budget e).outcome.value? =
          some r → Shielded r) ∧
      (∀ payer total group r,
        (shareExpense (Store.backends w) settings payer total group budget e).outcome.value? =
          some r → Shielded r) ∧
      (∀ user r, (balanceOf (Store.backends w) settings user budget e).outcome.value? = some r →
        Shielded r) ∧
      (∀ user r, (balanceLinesOf (Store.backends w) settings user budget e).outcome.value? =
        some r → Shielded r)) := by
  intro e e'
  have hb := Store.realizes_backends w
  have hb' := Store.realizes_backends w'
  refine ⟨fun lender amount debtors => ?_, fun payer total group => ?_, fun user => ?_,
    fun budget => shielded_of_value? hb settings e budget⟩
  · obtain ⟨hvalue, hledger⟩ := addLoans_eq_lend hb settings lender amount debtors e
    obtain ⟨hvalue', hledger'⟩ := addLoans_eq_lend hb' settings' lender amount debtors e'
    obtain ⟨hresult, hgrown⟩ := Store.lend_alike lender amount debtors e.store e'.store rfl
    refine ⟨_, _, hvalue, hvalue', hresult, ?_⟩
    rw [hledger, hledger']
    exact hgrown
  · obtain ⟨hvalue, hledger⟩ := shareExpense_eq_share hb settings payer total group e
    obtain ⟨hvalue', hledger'⟩ := shareExpense_eq_share hb' settings' payer total group e'
    obtain ⟨hresult, hgrown⟩ := Store.share_alike payer total group e.store e'.store rfl rfl
    refine ⟨_, _, hvalue, hvalue', hresult, ?_⟩
    rw [hledger, hledger']
    exact hgrown
  · have hleaves := triple_balanceOf_served hb settings user e.store none e rfl
    obtain ⟨r, hr, rfl, -⟩ := hleaves.exists_value?
    exact ⟨_, hr, e.store.computeBalance_of_served_error user⟩

end Engine

end ExpenseLedger
