import ExpenseLedger.Proofs.Run.Soundness
/-!
# How stale a cached balance can be

After any run, a cache entry that can be read is the balance of exactly the batches that are not
lost to its user. So a balance that is read from the cache is that of the ledger exactly if what is
lost to the user cancels out. Main statements:

* `aggregate_kept_of_entry`: what an entry holds;
* `aggregate_eq_served_iff`: when a balance that is served is that of the ledger;
* `aggregate_of_settled`: nothing is lost while entries can be dropped and requests are answered.

Runs that end with an entry left behind stand after the general statements: one with an outage of
the cache, and one with a request that is dropped at its deadline.
-/

open ExpenseLedger.Task

namespace ExpenseLedger

open History Web

/-! ## After a run -/

/-- The site that keeps its history, after a run from the empty store. -/
def journaled (supply : Supply) (steps : List Step) : Web.Site Journaled :=
  World.journaled.run (Site.fresh (Journaled.start supply)) steps

/-- Forgetting the history gives the site that the run reaches. -/
theorem map_journaled (supply : Supply) (steps : List Step) :
    (journaled supply steps).map Journaled.store = reached supply steps :=
  World.forget_run _ steps

/-- The store beside the history is the store that the run reaches. -/
theorem store_journaled (supply : Supply) (steps : List Step) :
    (journaled supply steps).engine.store.store = stored supply steps :=
  congrArg (fun x => x.engine.store) (map_journaled supply steps)

/-- The store is sound after a run, on the assumption that entries can be dropped in time throughout
and no request is answered with a timeout. -/
theorem sound_journaled (supply : Supply) (steps : List Step) :
    (journaled supply steps).engine.store.Sound ((∀ st ∈ steps, st.Clears) ∧
      504 ∉ World.plain.statuses (Site.fresh (Store.empty supply)) steps) := by
  have hstart : (Site.fresh (Journaled.start supply)).engine.store.Sound True :=
    Journaled.sound_start supply True
  have hsame := World.forget_statuses (Site.fresh (Journaled.start supply)) steps
  refine (World.sound_run _ steps hstart).mono ?_
  rintro ⟨hclears, hstatuses⟩
  rw [hsame]
  exact ⟨trivial, hclears, hstatuses⟩

/-- A run records its batches in the ledger, and nothing else. -/
theorem committed_history (supply : Supply) (steps : List Step) :
    committed (history supply steps) = (stored supply steps).ledger.records := by
  rw [← store_journaled]
  exact (sound_journaled supply steps).coherent.records.symm

/-- An entry that can be read holds the balance of the records kept for its user. -/
theorem aggregate_kept_of_entry (supply : Supply) (steps : List Step) (user : UserId)
    (fields : Cache.Fields) (m : Balance)
    (hentry : (stored supply steps).cache.entryOf user = some fields)
    (hdecode : Cache.decode fields = .ok m) :
    Ledger.aggregate user (kept user (history supply steps)) = .ok m := by
  rw [← store_journaled] at hentry
  exact (sound_journaled supply steps).coherent.decode_eq _ user fields m hentry hdecode

/-- **A marked entry that decodes holds exactly the batches that are not lost to its user.** The
history is that of the run, it tells all records of the ledger, and each of them is either kept or
lost, and only once. -/
theorem decoded_eq_aggregate_kept (supply : Supply) (steps : List Step) (user : UserId) :
    (journaled supply steps).map Journaled.store = reached supply steps ∧
    committed (history supply steps) = (stored supply steps).ledger.records ∧
    (kept user (history supply steps) ++ lost user (history supply steps)).Perm
      (committed (history supply steps)) ∧
    ∀ m, (stored supply steps).cache.isMarked user = true →
      Cache.decode (((stored supply steps).cache.fields? user).getD Table.empty) = .ok m →
      Ledger.aggregate user (kept user (history supply steps)) = .ok m := by
  refine ⟨map_journaled supply steps, committed_history supply steps,
    kept_append_lost_perm user _, fun m hmarked hdecode => ?_⟩
  exact aggregate_kept_of_entry supply steps user _ m (if_pos hmarked) hdecode

/-! ## Served balances -/

/-- What is known of a task that keeps its history, when it ends after a run, is known of the task
that it mirrors. -/
theorem of_done_reached {α : Type} (supply : Supply) (steps : List Step)
    {t : Task (Engine Journaled) α} {u : Task (Engine Store) α} {A : Prop} {Q : α → Prop}
    {R : Engine Journaled → Prop} (hmirrors : Mirrors (Engine.map Journaled.store) t u)
    (htriple : Triple
      (fun e => e.store.Sound False ∧ e.store.store = stored supply steps) t
      (fun a e => e.store.Sound A ∧ Q a) R)
    (budget : Option Nat) (a : α) (spent : Nat)
    (h : (u budget (reached supply steps).engine).outcome = .done a spent) : Q a := by
  have hmap : (journaled supply steps).engine.map Journaled.store = (reached supply steps).engine :=
    congrArg Site.engine (map_journaled supply steps)
  have hsound : (journaled supply steps).engine.store.Sound False :=
    (sound_journaled supply steps).mono False.elim
  rw [← hmap, ← hmirrors.outcome_eq] at h
  have hleaves := htriple budget (journaled supply steps).engine
    ⟨hsound, store_journaled supply steps⟩
  exact (hleaves.done a spent h).2

/-- The balance that is read after a run is what the store holds. -/
theorem balanceOf_eq_served (supply : Supply) (steps : List Step) (w : Store.Waits)
    (settings : EngineSettings) (budget : Option Nat) (user : UserId) (r : Except Error Balance)
    (spent : Nat)
    (h : (Engine.balanceOf (Store.backends w) settings user budget
      (reached supply steps).engine).outcome = .done r spent) :
    r = (stored supply steps).served user := by
  have hmirrors := Engine.mirrors_balanceOf (Journaled.backends_mirrors w) settings user
  exact of_done_reached supply steps hmirrors (Engine.triple_balanceOf user _) budget r spent h

/-- The lines that are read after a run are those of what the store holds. -/
theorem balanceLinesOf_eq_served (supply : Supply) (steps : List Step) (w : Store.Waits)
    (settings : EngineSettings) (budget : Option Nat) (user : UserId)
    (r : Except Error (List BalanceEntry)) (spent : Nat)
    (h : (Engine.balanceLinesOf (Store.backends w) settings user budget
      (reached supply steps).engine).outcome = .done r spent) :
    r = ((stored supply steps).served user).map Balance.lines := by
  have hmirrors := Engine.mirrors_balanceLinesOf (Journaled.backends_mirrors w) settings user
  exact of_done_reached supply steps hmirrors (Engine.triple_balanceLinesOf user _) budget r spent h

/-- A balance is served from an entry that can be read, and else it is that of the ledger. -/
theorem served_cases (supply : Supply) (steps : List Step) (user : UserId) (m : Balance)
    (h : (stored supply steps).served user = .ok m) :
    (((stored supply steps).cache.lookup user).1 = .ok (.hit m) ∧
      Ledger.aggregate user (kept user (history supply steps)) = .ok m) ∨
    (((stored supply steps).cache.lookup user).1 ≠ .ok (.hit m) ∧
      Ledger.aggregate user (stored supply steps).ledger.records = .ok m) := by
  unfold Store.served at h
  split at h
  · rename_i balance hhit
    cases h
    obtain ⟨-, fields, hentry, hdecode⟩ := (Cache.lookup_eq_hit_iff user _ m).1 hhit
    exact .inl ⟨hhit, aggregate_kept_of_entry supply steps user fields m hentry hdecode⟩
  · rename_i hmiss
    exact .inr ⟨hmiss m, Ledger.aggregate_of_computeBalance user _ m h⟩

/-- A served balance is that of the ledger exactly if it is not read from an entry that lacks
something that matters. -/
theorem aggregate_eq_served_iff (supply : Supply) (steps : List Step) (user : UserId) (m : Balance)
    (h : (stored supply steps).served user = .ok m) :
    Ledger.aggregate user (stored supply steps).ledger.records = .ok m ↔
      (((stored supply steps).cache.lookup user).1 = .ok (.hit m) →
        (∃ n, Ledger.aggregate user (stored supply steps).ledger.records = .ok n) ∧
          Immaterial user (history supply steps)) := by
  rw [← committed_history]
  -- The entry has what is kept, the ledger has what is kept and what is lost.
  rcases served_cases supply steps user m h with ⟨hhit, hkept⟩ | ⟨hmiss, hledger⟩
  · constructor
    · intro hm _
      exact ⟨⟨m, hm⟩, (aggregate_kept_eq_iff user _ m m hkept hm).1 rfl⟩
    · intro himp
      obtain ⟨⟨n, hn⟩, himmaterial⟩ := himp hhit
      rw [(aggregate_kept_eq_iff user _ m n hkept hn).2 himmaterial]
      exact hn
  · rw [← committed_history] at hledger
    exact ⟨fun _ hhit => absurd hhit hmiss, fun _ => hledger⟩

/-- A served balance is that of the ledger if entries could be dropped in time throughout the run
and no request has been answered with a timeout. -/
theorem aggregate_of_settled (supply : Supply) (steps : List Step) (user : UserId) (m : Balance)
    (h : (stored supply steps).served user = .ok m)
    (hsettled : (∀ st ∈ steps, st.Clears) ∧
      504 ∉ World.plain.statuses (Site.fresh (Store.empty supply)) steps) :
    Ledger.aggregate user (stored supply steps).ledger.records = .ok m := by
  rcases served_cases supply steps user m h with ⟨-, hkept⟩ | ⟨-, hledger⟩
  · have hcomplete := (sound_journaled supply steps).complete hsettled user
    have hall : kept user (history supply steps) = committed (history supply steps) :=
      kept_eq_committed user _ hcomplete
    rw [hall, committed_history] at hkept
    exact hkept
  · exact hledger

/-- **After any run, a served balance is that of the ledger exactly if it is not read from an entry,
or what is lost to the user is immaterial.** -/
theorem served_eq_aggregate_iff (supply : Supply) (steps : List Step) (w : Store.Waits)
    (settings : EngineSettings) (budget : Option Nat) (user : UserId) (m : Balance) (spent : Nat)
    (h : (Engine.balanceOf (Store.backends w) settings user budget
      (reached supply steps).engine).outcome = .done (.ok m) spent) :
    Ledger.aggregate user (stored supply steps).ledger.records = .ok m ↔
      (((stored supply steps).cache.lookup user).1 = .ok (.hit m) →
        (∃ n, Ledger.aggregate user (stored supply steps).ledger.records = .ok n) ∧
          Immaterial user (history supply steps)) := by
  have hserved := balanceOf_eq_served supply steps w settings budget user (.ok m) spent h
  exact aggregate_eq_served_iff supply steps user m hserved.symm

/-! ## An outage of the cache -/

namespace Sample

/-- A user. -/
def alice : UserId := ⟨Id.ofNat 1⟩

/-- Another user. -/
def bob : UserId := ⟨Id.ofNat 2⟩

/-- A supply of identifiers and times. -/
def supply : Supply := ⟨100, ⟨1700000000, 0⟩⟩

/-- Nothing waits. -/
def calm : Conditions := ⟨Store.Waits.none, EngineSettings.standard, 5000⟩

/-- Alice's entry is filled, and the cache is out of service while a loan is recorded. -/
def outage : List Step :=
  [.call calm (.balanceOf alice), .fault (.cache true), .call calm (.addLoans alice 100 [bob]),
    .fault (.cache false)]

end Sample

open Sample

/-- After the outage the cache serves an entry without the loan, which is then not immaterial. -/
theorem served_eq_aggregate_iff_outage :
    Ledger.aggregate alice (stored supply outage).ledger.records = .ok Table.empty ↔
      (((stored supply outage).cache.lookup alice).1 = .ok (.hit Table.empty) →
        (∃ n, Ledger.aggregate alice (stored supply outage).ledger.records = .ok n) ∧
          Immaterial alice (history supply outage)) :=
  served_eq_aggregate_iff supply outage Store.Waits.none EngineSettings.standard none alice
    Table.empty 0 (by decide +kernel)

/-- **An outage of the cache can leave an entry behind for good.** The failed update is followed by
a failed attempt to drop the entry, so the entry stays, and it is served when the cache is back. -/
theorem stale_after_outage :
    (Engine.balanceOf (Store.backends Store.Waits.none) EngineSettings.standard alice none
      (reached supply outage).engine).outcome = .done (.ok Table.empty) 0 ∧
    Ledger.aggregate alice (stored supply outage).ledger.records =
      .ok (Table.empty.insert bob 100) := by
  decide +kernel

/-! ## Sessions of requests -/

/-- A session of requests, each under conditions of its own. -/
def session (requests : List (Conditions × Request)) : List Step :=
  requests.map fun q => .request q.1 q.2

/-- **After a session in which dropping an entry never waits, a served balance is that of the ledger
if no request has been answered with a timeout, and otherwise exactly if it is not read from an
entry, or what is lost to the user is immaterial.** -/
theorem session_served_iff (supply : Supply) (requests : List (Conditions × Request))
    (hclear : ∀ q ∈ requests, q.1.waits.clear = 0) (w : Store.Waits) (settings : EngineSettings)
    (budget : Option Nat) (user : UserId) (m : Balance) (spent : Nat)
    (h : (Engine.balanceOf (Store.backends w) settings user budget
      (reached supply (session requests)).engine).outcome = .done (.ok m) spent) :
    (504 ∉ World.plain.statuses (Site.fresh (Store.empty supply)) (session requests) →
      Ledger.aggregate user (stored supply (session requests)).ledger.records = .ok m) ∧
    (Ledger.aggregate user (stored supply (session requests)).ledger.records = .ok m ↔
      (((stored supply (session requests)).cache.lookup user).1 = .ok (.hit m) →
        (∃ n, Ledger.aggregate user (stored supply (session requests)).ledger.records = .ok n) ∧
          Immaterial user (history supply (session requests)))) := by
  have hserved := balanceOf_eq_served supply _ w settings budget user (.ok m) spent h
  refine ⟨fun hstatuses => ?_, aggregate_eq_served_iff supply _ user m hserved.symm⟩
  refine aggregate_of_settled supply _ user m hserved.symm ⟨fun st hst => ?_, hstatuses⟩
  obtain ⟨q, hq, rfl⟩ := List.mem_map.1 hst
  change q.1.waits.clear ≤ q.1.settings.cacheUpdateTimeout
  rw [hclear q hq]
  exact Nat.zero_le _

namespace Sample

/-- A request by Alice with a message. -/
def post (target message : String) : Request :=
  ⟨"POST", target, [("X-User-Id", alice.text), ("Content-Type", "application/json")], message⟩

/-- The group that is created first. -/
def flat : GroupId := ⟨Id.ofNat 100⟩

/-- Asking for an entry takes longer than there is time for a request. -/
def slow : Conditions := ⟨{ Store.Waits.none with hasEntry := 200 }, EngineSettings.standard, 100⟩

/-- Alice shares an expense with Bob when her entry is filled, and the request is dropped after the
loan has been recorded. -/
def abandoned : List (Conditions × Request) :=
  [(calm, post "/api/v1/groups" "\x7b\"name\": \"flat\"\x7d"),
    (calm, post ("/api/v1/groups/" ++ flat.id.text ++ "/members")
      ("\x7b\"ids\": [\"" ++ bob.text ++ "\"]\x7d")),
    (calm, ⟨"GET", "/api/v1/balance", [("X-User-Id", alice.text)], ""⟩),
    (slow, post ("/api/v1/groups/" ++ flat.id.text ++ "/expenses") "\x7b\"amount\": 200\x7d")]

end Sample

/-- The general statement about the session with the dropped request. -/
theorem session_served_iff_abandoned :
    (504 ∉ World.plain.statuses (Site.fresh (Store.empty supply)) (session abandoned) →
      Ledger.aggregate alice (stored supply (session abandoned)).ledger.records =
        .ok Table.empty) ∧
    (Ledger.aggregate alice (stored supply (session abandoned)).ledger.records =
        .ok Table.empty ↔
      (((stored supply (session abandoned)).cache.lookup alice).1 = .ok (.hit Table.empty) →
        (∃ n, Ledger.aggregate alice (stored supply (session abandoned)).ledger.records = .ok n) ∧
          Immaterial alice (history supply (session abandoned)))) :=
  session_served_iff supply abandoned (by decide) Store.Waits.none EngineSettings.standard none
    alice Table.empty 0 (by decide +kernel)

/-- **A request that is dropped after its loan has been recorded can leave an entry behind.** -/
theorem stale_after_timeout :
    World.plain.statuses (Site.fresh (Store.empty supply)) (session abandoned) =
      [201, 204, 200, 504] ∧
    (Engine.balanceOf (Store.backends Store.Waits.none) EngineSettings.standard alice none
      (reached supply (session abandoned)).engine).outcome = .done (.ok Table.empty) 0 ∧
    Ledger.aggregate alice (stored supply (session abandoned)).ledger.records =
      .ok (Table.empty.insert bob 100) := by
  decide +kernel

end ExpenseLedger
