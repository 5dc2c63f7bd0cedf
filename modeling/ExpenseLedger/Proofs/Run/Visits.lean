import ExpenseLedger.Proofs.Run.Staleness
import ExpenseLedger.Proofs.Web.Counting
/-!
# The tally of a run of requests

A service that has just been started answers requests, one after the other, and is disturbed in
between in whatever way, so long as nobody else writes to the ledger. The clients keep a list of
their requests and of the answers. The tally of the service and this list always agree. Main
statements:

* `Visit.tallied_run`: the tally and the records after a run, from those before it;
* `Visit.tally_agrees`: the same from a fresh start.
-/

open ExpenseLedger.Task

namespace ExpenseLedger

open Web

/-! ## Runs -/

/-- What can happen in a run. -/
inductive Visit where
  /-- A request. Somebody else may always be the first to delete a group. -/
  | request (c : Conditions) (outrun : Bool) (request : Request)
  /-- Whatever else happens to the store, in and out of service. Only the records of loans stay. -/
  | disturb (s : Store)

namespace Visit

/-- The operations of the store. -/
def backends (c : Conditions) (outrun : Bool) : Backends Store :=
  if outrun then (Store.backends c.waits).outrun else Store.backends c.waits

/-- They are those of the store, whatever its waits. -/
theorem realizes_backends (c : Conditions) (outrun : Bool) : (backends c outrun).Realizes := by
  cases outrun with
  | false => exact Store.realizes_backends c.waits
  | true => exact (Store.realizes_backends c.waits).outrun

/-- The request, if there is one. -/
def request? : Visit → Option Request
  | request _ _ r => some r
  | disturb _ => none

/-- The site afterwards. -/
def site (x : Site Store) : Visit → Site Store
  | request c outrun r => (Site.handle (backends c outrun) c.settings c.timeout r none x).state
  | disturb s =>
    let ledger := { s.ledger with records := x.engine.store.ledger.records }
    { x with engine := { x.engine with store := { s with ledger } } }

/-- The request and its answer, if there is one. -/
def exchange? (x : Site Store) : Visit → Option Exchange
  | request c outrun r =>
    (Site.handle (backends c outrun) c.settings c.timeout r none x).outcome.value?.map
      fun response => ⟨r, response, Site.isLate (backends c outrun) c.settings c.timeout r x⟩
  | disturb _ => none

/-- The site after a run. -/
def run (x : Site Store) : List Visit → Site Store
  | [] => x
  | v :: visits => run (v.site x) visits

/-- The requests of a run and their answers. -/
def exchanges (x : Site Store) : List Visit → List Exchange
  | [] => []
  | v :: visits => (v.exchange? x).toList ++ exchanges (v.site x) visits

/-! ## What the clients have seen -/

/-- What the tally and the records are after some exchanges, from what they were before. -/
structure Tallied (x x' : Site Store) (seen : List Exchange) : Prop where
  /-- The shared expenses are those that have been answered with 200. -/
  expenses : x'.tally.expenses = x.tally.expenses + seen.countP Exchange.shares
  /-- The loans are those that their answers list. -/
  loans : x'.tally.loans = x.tally.loans + (seen.map Exchange.loans).sum
  /-- All of these have been recorded, and others only where an expense has been dropped. -/
  records : ∃ batch, x'.engine.store.ledger.records = x.engine.store.ledger.records ++ batch ∧
    (seen.map Exchange.loans).sum ≤ batch.length ∧
    ((∀ q ∈ seen, q.request.endpoint? = some .shareExpense → q.late = false) →
      batch.length = (seen.map Exchange.loans).sum)
  /-- The samples are the numbers of the exchanges with their labels. -/
  requests : ∀ counted, Tally.Holds x.tally.requests counted →
    Tally.Holds x'.tally.requests (counted ++ seen.filterMap Exchange.counted?)
  /-- A call that has been dropped has been answered with 504. -/
  late : ∀ q ∈ seen, q.late = true → q.response.status = 504

/-- Nothing has been seen. -/
theorem Tallied.of_same {x x' : Site Store} (htally : x'.tally = x.tally)
    (hrecords : x'.engine.store.ledger.records = x.engine.store.ledger.records) :
    Tallied x x' [] where
  expenses := congrArg Tally.expenses htally
  loans := congrArg Tally.loans htally
  records := ⟨[], by rw [hrecords, List.append_nil], Nat.le_refl _, fun _ => rfl⟩
  requests counted h := by
    rw [htally]
    simpa using h
  late q hq := by contradiction

/-- One exchange has been seen. -/
theorem Tallied.of_exchanged {x x' : Site Store} {q : Exchange} (h : Site.Exchanged x x' q) :
    Tallied x x' [q] where
  expenses := by
    rw [h.expenses, List.countP_singleton]
  loans := by simpa using h.loans
  records := by
    obtain ⟨batch, hbatch, hle, heq⟩ := h.records
    refine ⟨batch, hbatch, ?_, fun hlate => ?_⟩
    · simpa using hle
    · simpa using heq (hlate q List.mem_cons_self)
  requests counted hcounted := by
    have hrequests := h.requests
    cases hq : q.counted? with
    | none =>
      rw [hq] at hrequests
      rw [hrequests, List.filterMap_cons_none hq]
      simpa using hcounted
    | some p =>
      obtain ⟨e, status⟩ := p
      rw [hq] at hrequests
      rw [hrequests.2, List.filterMap_cons_some hq]
      exact hcounted.countRequest e status hrequests.1
  late q' hq' := by
    rw [List.mem_singleton.1 hq']
    exact h.late

/-- What has been seen of two parts of a run. -/
theorem Tallied.trans {x x' x'' : Site Store} {seen more : List Exchange}
    (h : Tallied x x' seen) (h' : Tallied x' x'' more) : Tallied x x'' (seen ++ more) where
  expenses := by
    rw [h'.expenses, h.expenses, List.countP_append, Nat.add_assoc]
  loans := by
    rw [h'.loans, h.loans, List.map_append, List.sum_append, Nat.add_assoc]
  records := by
    obtain ⟨batch, hbatch, hle, heq⟩ := h.records
    obtain ⟨batch', hbatch', hle', heq'⟩ := h'.records
    refine ⟨batch ++ batch', ?_, ?_, fun hlate => ?_⟩
    · rw [hbatch', hbatch, List.append_assoc]
    · rw [List.map_append, List.sum_append, List.length_append]
      omega
    · have hfirst := heq fun q hq => hlate q (List.mem_append_left _ hq)
      have hrest := heq' fun q hq => hlate q (List.mem_append_right _ hq)
      rw [List.map_append, List.sum_append, List.length_append, hfirst, hrest]
  requests counted hcounted := by
    rw [List.filterMap_append, ← List.append_assoc]
    exact h'.requests _ (h.requests counted hcounted)
  late q hq := by
    rcases List.mem_append.1 hq with hq | hq
    · exact h.late q hq
    · exact h'.late q hq

/-- What happens once. -/
theorem tallied_site (x : Site Store) (v : Visit) :
    Tallied x (v.site x) (v.exchange? x).toList ∧
      (v.exchange? x).map Exchange.request = v.request? := by
  cases v with
  | request c outrun r =>
    obtain ⟨response, spent, hdone, hexchanged⟩ :=
      Site.exchanged_handle (realizes_backends c outrun) c.settings c.timeout r x
    unfold site exchange?
    dsimp only
    rw [hdone]
    exact ⟨.of_exchanged hexchanged, rfl⟩
  | disturb s => exact ⟨.of_same rfl rfl, rfl⟩

/-- **The tally and the records after a run.** -/
theorem tallied_run (x : Site Store) (visits : List Visit) :
    Tallied x (run x visits) (exchanges x visits) ∧
      (exchanges x visits).map Exchange.request = visits.filterMap request? := by
  induction visits generalizing x with
  | nil => exact ⟨.of_same rfl rfl, rfl⟩
  | cons v visits ih =>
    obtain ⟨hfirst, hrequest⟩ := tallied_site x v
    obtain ⟨hrest, hrequests⟩ := ih (v.site x)
    refine ⟨hfirst.trans hrest, ?_⟩
    unfold exchanges
    rw [List.map_append, hrequests]
    cases hq : v.exchange? x with
    | none =>
      rw [hq] at hrequest
      rw [List.filterMap_cons_none hrequest.symm]
      rfl
    | some q =>
      rw [hq] at hrequest
      rw [List.filterMap_cons_some hrequest.symm]
      rfl

/-- Loans are counted for those exchanges alone in which an expense has been shared. -/
theorem sum_loans (seen : List Exchange) :
    (seen.map Exchange.loans).sum =
      ((seen.filter Exchange.shares).map fun q => q.response.content.listedLoans).sum := by
  induction seen with
  | nil => rfl
  | cons q seen ih =>
    rw [List.map_cons, List.sum_cons, ih]
    unfold Exchange.loans
    cases hq : q.shares with
    | true =>
      rw [List.filter_cons_of_pos hq]
      rfl
    | false =>
      rw [List.filter_cons_of_neg (by simp [hq])]
      exact Nat.zero_add _

/-- **The tally agrees with what the clients have seen.** A service that has just been started has
answered some requests, whatever was wrong with the store and however long it waited. All requests
have been answered. The shared expenses are the answers with 200 to requests for an expense, and the
loans are the loans that these answers list; they have been recorded, and they are all that has been
recorded if the call of no request for an expense has been dropped at the deadline. Calls that have
been dropped have been answered with 504. For every route and status there is one sample with the
number of requests that asked for a call on that route and were answered with that status, and none
if there were no such requests; there are no other samples. -/
theorem tally_agrees (supply : Supply) (visits : List Visit) :
    let x := run (.fresh (Store.empty supply)) visits
    let seen := exchanges (.fresh (Store.empty supply)) visits
    seen.map Exchange.request = visits.filterMap request? ∧
    x.tally.expenses = (seen.countP fun q =>
      q.request.endpoint? = some .shareExpense ∧ q.response.status = 200) ∧
    x.tally.loans = ((seen.filter fun q =>
      q.request.endpoint? = some .shareExpense ∧ q.response.status = 200).map
        fun q => q.response.content.listedLoans).sum ∧
    x.tally.loans ≤ x.engine.store.ledger.records.length ∧
    ((∀ q ∈ seen, q.request.endpoint? = some .shareExpense → q.late = false) →
      x.tally.loans = x.engine.store.ledger.records.length) ∧
    (∀ q ∈ seen, q.late = true → q.response.status = 504) ∧
    (∀ (e : Endpoint) (status : Nat),
      let number := seen.countP fun q =>
        (q.request.call?.map fun c => c.2.endpoint) = some e ∧ q.response.status = status
      (x.tally.requestCounts.filter fun c => c.route = e.name ∧ c.status = toString status) =
        if number = 0 then [] else [⟨e.name, toString status, number⟩]) ∧
    ∀ c ∈ x.tally.requestCounts, ∃ (e : Endpoint) (status : Nat),
      c.route = e.name ∧ c.status = toString status := by
  intro x seen
  obtain ⟨h, hanswered⟩ := tallied_run (.fresh (Store.empty supply)) visits
  have hshares : Exchange.shares = fun q : Exchange => decide
      (q.request.endpoint? = some .shareExpense ∧ q.response.status = 200) := by
    funext q
    rw [Exchange.shares, Bool.decide_and]
  have hloans : x.tally.loans = (seen.map Exchange.loans).sum := h.loans.trans (Nat.zero_add _)
  obtain ⟨batch, hbatch, hle, heq⟩ := h.records
  have hrecords : x.engine.store.ledger.records = batch := hbatch
  have hholds : Tally.Holds x.tally.requests (seen.filterMap Exchange.counted?) :=
    h.requests [] Tally.holds_zero
  refine ⟨hanswered, ?_, ?_, ?_, fun hlate => ?_, h.late, fun e status => ?_, fun c hc => ?_⟩
  · rw [← hshares]
    exact h.expenses.trans (Nat.zero_add _)
  · rw [hloans, ← hshares]
    exact sum_loans seen
  · rw [hloans, hrecords]
    exact hle
  · rw [hloans, hrecords]
    exact (heq hlate).symm
  · -- Exchanges that are counted with these labels are those that asked for a call there.
    have hnumber : (seen.filterMap Exchange.counted?).count (e, status) = seen.countP fun q =>
        (q.request.call?.map fun c => c.2.endpoint) = some e ∧ q.response.status = status := by
      rw [List.count_filterMap]
      refine List.countP_congr fun q _ => ?_
      cases hcall : q.request.call? with
      | none => simp [Exchange.counted?, hcall]
      | some c => simp [Exchange.counted?, hcall]
    rw [← hnumber]
    exact hholds.filter_requestCounts e status
  · obtain ⟨p, -, hroute, hstatus⟩ := hholds.exists_of_mem_requestCounts hc
    exact ⟨p.1, p.2, hroute, hstatus⟩

end Visit

namespace Sample

/-- Alice creates a group, lets Bob in and shares an expense with him; then the ledger is out of
service. -/
def outing : List Visit :=
  [.request calm false (post "/api/v1/groups" "\x7b\"name\": \"flat\"\x7d"),
    .request calm false (post ("/api/v1/groups/" ++ flat.id.text ++ "/members")
      ("\x7b\"ids\": [\"" ++ bob.text ++ "\"]\x7d")),
    .request calm true (post ("/api/v1/groups/" ++ flat.id.text ++ "/expenses")
      "\x7b\"amount\": 200\x7d"),
    .disturb { Store.empty supply with ledger := { Ledger.empty with failing := true } },
    .request calm false ⟨"GET", "/api/v1/balance", [("X-User-Id", alice.text)], ""⟩]

end Sample

open Sample Visit

/-- The general statement about a run in which no call is dropped. -/
theorem Visit.tally_agrees_outing :
    (run (.fresh (Store.empty supply)) outing).tally.loans =
      (run (.fresh (Store.empty supply)) outing).engine.store.ledger.records.length :=
  (tally_agrees supply outing).2.2.2.2.1 (by decide +kernel)

/-- When a call is dropped, its loans can be recorded without being counted. -/
example :
    (run (.fresh (Store.empty supply)) (abandoned.map fun q => .request q.1 false q.2)).tally.loans
      = 0 ∧
    (run (.fresh (Store.empty supply))
      (abandoned.map fun q => .request q.1 false q.2)).engine.store.ledger.records.length = 1 := by
  decide +kernel

end ExpenseLedger
