import ExpenseLedger.Proofs.Engine.Healing
import ExpenseLedger.Proofs.Run.Staleness
import ExpenseLedger.Proofs.Web.Keeping
/-!
# Reads heal the cache, and then agree

One read makes an entry that can be read of whatever the cache held before. From then on the balance
is read from the cache, and every read gives the same, until loans are recorded or something is done
to the cache itself: however many balances are read in between, by whom, under which deadlines, and
whether the ledger is in service or not. Main statements:

* `World.offers_run`: the entry of a user stays as it is through all steps that spare it;
* `reads_heal`: the first read, and all that follow.
-/

open ExpenseLedger.Task

namespace ExpenseLedger

open Web

/-! ## Steps that spare the entries -/

/-- The fault does nothing to the content of the cache, and does not take it out of service. -/
def Fault.Spares : Fault → Prop
  | cache failing => failing = false
  | damage _ _ _ _ => False
  | _ => True

/-- The step records nothing, drops no entry and does nothing to the cache: balances and groups are
read, groups are administered, the ledger or the directory goes out of service or comes back. -/
def Step.Spares : Step → Prop
  | call _ asked => asked.Spares
  | request _ r => r.endpoint? ≠ some .shareExpense
  | fault f => f.Spares

/-! ## An entry that can be read stays -/

/-- The cache is in service, and these are the fields of a user's entry. -/
def Store.Offers (user : UserId) (fields : Cache.Fields) (s : Store) : Prop :=
  s.cache.failing = false ∧ s.cache.entryOf user = some fields

section Offers

variable {user : UserId} {fields : Cache.Fields}

namespace Store.Offers

/-- Nothing but the cache matters. -/
theorem of_cache {s s' : Store} (h : s.Offers user fields) (hcache : s'.cache = s.cache) :
    s'.Offers user fields := by
  unfold Offers
  rw [hcache]
  exact h

/-- A look-up hits what can be read, and changes nothing. -/
theorem lookup_eq {s : Store} (h : s.Offers user fields) {m : Balance}
    (hm : Cache.decode fields = .ok m) : s.cache.lookup user = (.ok (.hit m), s.cache) := by
  obtain ⟨hservice, hentry⟩ := h
  rw [Cache.entryOf_eq] at hentry
  cases hmarked : s.cache.isMarked user with
  | false =>
    rw [hmarked] at hentry
    contradiction
  | true =>
    rw [hmarked] at hentry
    cases hentry
    exact Cache.lookupIn_of_decodeIn .ascending user s.cache hservice hmarked hm

/-- Looking up somebody else's entry. -/
theorem lookup {s : Store} (h : s.Offers user fields) {other : UserId} (hother : user ≠ other) :
    (Store.onCache (Cache.lookup other) s).2.Offers user fields := by
  obtain ⟨hservice, hentry⟩ := h
  refine ⟨(Cache.failing_lookup other s.cache).trans hservice, ?_⟩
  change (s.cache.lookup other).2.entryOf user = some fields
  rcases Cache.lookup_cases other s.cache with ⟨-, -, h⟩ | ⟨-, _, _, -, -, -, h⟩ |
    ⟨-, -, -, h⟩ | ⟨-, _, -, -, -, h⟩
  · rw [h]
    exact hentry
  · rw [h]
    exact hentry
  · rw [h]
    exact hentry
  · rw [h, Cache.entryOf_remove, if_neg hother]
    exact hentry

/-- Filling somebody else's entry. -/
theorem populate {s : Store} (h : s.Offers user fields) {other : UserId} (hother : user ≠ other)
    (m : Balance) : (Store.onCache (Cache.populate other m) s).2.Offers user fields := by
  obtain ⟨hservice, hentry⟩ := h
  rcases Cache.populate_cases other m s.cache with ⟨hfailing, -, -⟩ | ⟨-, -, hservice', hentries⟩
  · rw [hservice] at hfailing
    contradiction
  · refine ⟨hservice', ?_⟩
    change (s.cache.populate other m).2.entryOf user = some fields
    rw [hentries, if_neg hother]
    exact hentry

/-- Dropping somebody else's entry. -/
theorem clear {s : Store} (h : s.Offers user fields) {other : UserId} (hother : user ≠ other) :
    (Store.onCache (Cache.clear other) s).2.Offers user fields := by
  obtain ⟨hservice, hentry⟩ := h
  rcases Cache.clear_cases other s.cache with ⟨hfailing, -, -⟩ | ⟨-, -, hremove⟩
  · rw [hservice] at hfailing
    contradiction
  · change (s.cache.clear other).2.failing = false ∧ (s.cache.clear other).2.entryOf user = _
    rw [hremove]
    refine ⟨hservice, ?_⟩
    rw [Cache.entryOf_remove, if_neg hother]
    exact hentry

end Store.Offers

namespace World

variable {b : Backends Store} (hb : b.Realizes) (settings : EngineSettings) {m : Balance}
  (hm : Cache.decode fields = .ok m)
include hb hm

/-- Reading any balance keeps an entry that can be read. -/
theorem triple_balanceOf_offers (other : UserId) :
    Triple (fun e => e.store.Offers user fields) (Engine.balanceOf b settings other)
      (fun _ e => e.store.Offers user fields) fun e => e.store.Offers user fields := by
  by_cases hother : user = other
  · -- The user's own entry hits, so nothing is written at all.
    subst hother
    refine Triple.of_forall fun e he => ?_
    refine (Engine.triple_balanceOf_hit hb settings user (he.lookup_eq hm)).conseq ?_ ?_ ?_
    · rintro e' rfl
      rfl
    · rintro r e' ⟨-, hsame⟩
      rw [hsame]
      exact he
    · intro e' hsame
      rw [hsame]
      exact he
  · refine Engine.triple_balanceOf_keeps (P := Store.Offers user fields) ?_ ?_ ?_ fun m => ?_
    · exact (hb.clear other).keeps fun _ hs => hs.clear hother
    · exact (hb.lookup other).keeps fun _ hs => hs.lookup hother
    · exact (hb.computeBalance other).keeps fun _ hs => hs.of_cache rfl
    · exact (hb.populate other m).keeps fun _ hs => hs.populate hother m

/-- Reading balances and administering groups keep an entry that can be read. -/
theorem readingKeeps_offers : b.ReadingKeeps settings (Store.Offers user fields) where
  toDirectoryKeeps := hb.directoryKeeps fun _ _ hsame hs => hs.of_cache hsame.cache
  balanceOf := triple_balanceOf_offers hb settings hm

omit hb in
/-- A step that spares the entries keeps an entry that can be read. -/
theorem offers_step {x : Site Store} (h : x.engine.store.Offers user fields) (st : Step)
    (hst : st.Spares) : (plain.step x st).engine.store.Offers user fields := by
  have hkeeps (c : Conditions) :
      (Store.backends c.waits).ReadingKeeps c.settings (Store.Offers user fields) :=
    readingKeeps_offers (Store.realizes_backends c.waits) c.settings hm
  cases st with
  | call c call =>
    have hleaves := Site.triple_onEngine (triple_perform_spares (hkeeps c) call hst) none x h
    exact hleaves.state (fun _ _ h => h) fun _ h => h
  | request c r =>
    have hhandle := Site.triple_handle_keeps c.timeout r fun actor call hcall =>
      Site.triple_perform_reading (hkeeps c) actor call fun hshare => hst <| by
        rw [r.endpoint?_of_call? actor call hcall, hshare]
    exact (hhandle none x h).state (fun _ _ h => h) fun _ h => h
  | fault f =>
    cases f with
    | ledger failing => exact h.of_cache rfl
    | directory failing => exact h.of_cache rfl
    | updates failing => exact ⟨h.1, (Cache.entryOf_congr user _ _ rfl rfl).trans h.2⟩
    | cache failing => exact ⟨hst, (Cache.entryOf_congr user _ _ rfl rfl).trans h.2⟩
    | damage other field value hrejects => contradiction

omit hb in
/-- **An entry that can be read stays through all steps that spare it.** -/
theorem offers_run {x : Site Store} (h : x.engine.store.Offers user fields) (steps : List Step)
    (hsteps : ∀ st ∈ steps, st.Spares) :
    (plain.run x steps).engine.store.Offers user fields := by
  induction steps generalizing x with
  | nil => exact h
  | cons st steps ih =>
    have hfirst := offers_step hm h st (hsteps st List.mem_cons_self)
    exact ih hfirst fun d hd => hsteps d (List.mem_cons_of_mem st hd)

end World

/-! ## One read and those after it -/

/-- Reading an entry that can be read, without a deadline. -/
theorem Store.Offers.balanceOf_eq {e : Engine Store} (h : e.store.Offers user fields) {m : Balance}
    (hm : Cache.decode fields = .ok m) (c : Conditions) :
    (Engine.balanceOf (Store.backends c.waits) c.settings user none e).outcome.value? =
        some (.ok m) ∧
      (Engine.balanceOf (Store.backends c.waits) c.settings user none e).state.store = e.store := by
  have hhit := Engine.triple_balanceOf_hit (Store.realizes_backends c.waits) c.settings user
    (h.lookup_eq hm)
  obtain ⟨r, hr, rfl, hsame⟩ := (hhit none e rfl).exists_value?
  exact ⟨hr, hsame⟩

end Offers

/-- The first read when there is no entry that can be read. -/
theorem Engine.balanceOf_of_miss (user : UserId) (e : Engine Store) (c : Conditions)
    (hcache : e.store.cache.failing = false) (hledger : e.store.ledger.failing = false)
    (htime : c.waits.populate ≤ c.settings.populateTimeout) {m : Balance}
    (hm : Ledger.aggregate user e.store.ledger.records = .ok m)
    (hmiss : (e.store.cache.lookup user).1 = .ok .notCached) :
    let first := balanceOf (Store.backends c.waits) c.settings user none e
    first.outcome.value? = some (.ok m) ∧
      first.state.store = { e.store with
        ledger := { e.store.ledger with scans := e.store.ledger.scans + 1 }
        cache := first.state.store.cache } ∧
      Cache.Renewed user m e.store.cache first.state.store.cache ∧
      first.state.store.Offers user (Cache.Fields.ofBalance m) := by
  intro first
  obtain ⟨d, e', hread, hstore⟩ :=
    takes_balanceOf_miss c.waits c.settings user htime e hcache hledger hm hmiss
  have hfirst : first = ⟨e', .done (.ok m) d⟩ := hread.run
  have hcache' : e'.store.cache = ((e.store.cache.lookup user).2.populate user m).2 := by
    rw [hstore]
  rw [hfirst]
  refine ⟨rfl, ?_, ?_, ?_⟩
  · dsimp only
    rw [hcache']
    exact hstore
  · dsimp only
    rw [hcache']
    exact Cache.renewed_populate user m hcache
  · have hservice := (Cache.failing_lookup user e.store.cache).trans hcache
    unfold Store.Offers
    dsimp only
    rw [hcache']
    rcases Cache.populate_cases user m (e.store.cache.lookup user).2 with
      ⟨hfailing, -, -⟩ | ⟨-, -, hservice', hentries⟩
    · rw [hservice] at hfailing
      contradiction
    · exact ⟨hservice', (hentries user).trans (if_pos rfl)⟩

/-- A look-up that does not hit finds no entry that can be read. -/
theorem Cache.lookup_notCached_iff (user : UserId) {c : Cache} (hservice : c.failing = false) :
    (c.lookup user).1 = .ok .notCached ↔
      c.isMarked user = false ∨ ∃ e, decode (c.hashOf user) = .error e := by
  cases hmarked : c.isMarked user with
  | false => simp [lookup, lookupIn_of_unmarked .ascending user c hservice hmarked]
  | true =>
    cases hread : decode (c.hashOf user) with
    | ok balance => simp [lookup, lookupIn_of_decodeIn .ascending user c hservice hmarked hread]
    | error e => simp [lookup, lookupIn_of_decodeIn_error .ascending user c hservice hmarked hread]

/-- **Reads heal the cache, and then agree.** Ledger and cache are in service, the balance of the
user can be stored, and filling an entry ends in time; what the cache holds is all one. If the user
has no marker, or a hash that cannot be read, the first read gives the balance of the ledger, which
it scans once, and makes the entry anew. Otherwise it gives what the hash holds and changes nothing.
In either case, after any steps that spare the entries and under any conditions, the next read gives
the same balance and changes nothing, and the entry is still that of the first read. -/
theorem reads_heal (user : UserId) (x : Site Store) (c : Conditions)
    (hcache : x.engine.store.cache.failing = false)
    (hledger : x.engine.store.ledger.failing = false)
    (hfits : ∃ m, Ledger.aggregate user x.engine.store.ledger.records = .ok m)
    (htime : c.waits.populate ≤ c.settings.populateTimeout) :
    let s := x.engine.store
    let first := Engine.balanceOf (Store.backends c.waits) c.settings user none x.engine
    let s' := first.state.store
    ∃ m, first.outcome.value? = some (.ok m) ∧
      ((s.cache.isMarked user = false ∨ ∃ e, Cache.decode (s.cache.hashOf user) = .error e) →
        Ledger.aggregate user s.ledger.records = .ok m ∧
        s' = { s with
          ledger := { s.ledger with scans := s.ledger.scans + 1 }
          cache := s'.cache } ∧
        Cache.Renewed user m s.cache s'.cache) ∧
      (∀ m', s.cache.isMarked user = true → Cache.decode (s.cache.hashOf user) = .ok m' →
        m = m' ∧ s' = s) ∧
      ∀ steps, (∀ st ∈ steps, st.Spares) → ∀ c' : Conditions,
        let y := World.plain.run { x with engine := first.state } steps
        let again := Engine.balanceOf (Store.backends c'.waits) c'.settings user none y.engine
        again.outcome.value? = some (.ok m) ∧ again.state.store = y.engine.store ∧
          y.engine.store.cache.entryOf user = s'.cache.entryOf user := by
  intro s first s'
  -- All later reads follow from the entry that the first one leaves.
  have hlater (fields : Cache.Fields) (m : Balance) (hm : Cache.decode fields = .ok m)
      (hoffers : s'.Offers user fields) (steps : List Step) (hsteps : ∀ st ∈ steps, st.Spares)
      (c' : Conditions) :
      let y := World.plain.run { x with engine := first.state } steps
      let again := Engine.balanceOf (Store.backends c'.waits) c'.settings user none y.engine
      again.outcome.value? = some (.ok m) ∧ again.state.store = y.engine.store ∧
        y.engine.store.cache.entryOf user = s'.cache.entryOf user := by
    intro y again
    have hy : y.engine.store.Offers user fields := World.offers_run hm hoffers steps hsteps
    obtain ⟨hvalue, hsame⟩ := hy.balanceOf_eq hm c'
    exact ⟨hvalue, hsame, hy.2.trans hoffers.2.symm⟩
  by_cases hmiss : (s.cache.lookup user).1 = .ok .notCached
  · -- The entry is that of the balance, whatever the look-up has found instead.
    obtain ⟨m, hm⟩ := hfits
    obtain ⟨hvalue, hscanned, hrenewed, hoffers⟩ :=
      Engine.balanceOf_of_miss user x.engine c hcache hledger htime hm hmiss
    refine ⟨m, hvalue, fun _ => ⟨hm, hscanned, hrenewed⟩, fun m' hmarked hm' => ?_, ?_⟩
    · rcases (Cache.lookup_notCached_iff user hcache).1 hmiss with hunmarked | ⟨e, he⟩
      · rw [hmarked] at hunmarked
        contradiction
      · rw [hm'] at he
        contradiction
    · exact hlater _ m (Cache.decode_ofBalance m (Ledger.allStorable_aggregate user _ m hm)) hoffers
  · -- The entry could be read from the start, so the first read is already one of the later ones.
    have hreadable := mt (Cache.lookup_notCached_iff user hcache).2 hmiss
    rw [not_or, Bool.not_eq_false] at hreadable
    obtain ⟨hmarked, hdecodes⟩ := hreadable
    cases hm : Cache.decode (s.cache.hashOf user) with
    | error e => exact absurd ⟨e, hm⟩ hdecodes
    | ok m =>
      have hoffers : s.Offers user (s.cache.hashOf user) := ⟨hcache, if_pos hmarked⟩
      obtain ⟨hvalue, hsame⟩ := hoffers.balanceOf_eq hm c
      refine ⟨m, hvalue, ?_, ?_, hlater _ m hm (hoffers.of_cache (congrArg Store.cache hsame))⟩
      · rintro (hunmarked | ⟨e, he⟩)
        · rw [hmarked] at hunmarked
          contradiction
        · cases he
      · rintro m' - ⟨⟩
        exact ⟨rfl, hsame⟩

namespace Sample

/-- Alice has lent Bob 100. Her entry has a field of no meaning and an amount of long ago. -/
def spoiled : Site Store :=
  Site.fresh { Store.empty supply with
    ledger := ⟨[⟨⟨alice, bob, 100⟩, Id.ofNat 50, ⟨1600000000, 0⟩⟩], 0, false⟩
    cache := (((Cache.empty.insertRaw alice "junk" "x").insertRaw alice bob.text "7").mark alice) }

end Sample

open Sample

/-- Alice reads her balance, then the ledger goes out of service and Bob tries to read his. She is
still told what the ledger had to say. -/
theorem reads_heal_spoiled :
    spoiled.engine.store.cache.failing = false ∧ spoiled.engine.store.ledger.failing = false ∧
    calm.waits.populate ≤ calm.settings.populateTimeout ∧
    ∃ m, Ledger.aggregate alice spoiled.engine.store.ledger.records = .ok m ∧
      let first := Engine.balanceOf (Store.backends calm.waits) calm.settings alice none
        spoiled.engine
      let y := World.plain.run { spoiled with engine := first.state }
        [.fault (.ledger true), .call calm (.balanceOf bob)]
      (Engine.balanceOf (Store.backends calm.waits) calm.settings alice none
        y.engine).outcome.value? = some (.ok m) := by
  have hfits : ∃ m, Ledger.aggregate alice spoiled.engine.store.ledger.records = .ok m :=
    ⟨Table.empty.insert bob 100, by decide +kernel⟩
  obtain ⟨m, -, hmiss, -, hlater⟩ := reads_heal alice spoiled calm rfl rfl hfits (by decide)
  have hunreadable : ∃ e, Cache.decode (spoiled.engine.store.cache.hashOf alice) = .error e :=
    ⟨.badCounterparty "junk", by decide +kernel⟩
  refine ⟨rfl, rfl, by decide, m, (hmiss (.inr hunreadable)).1, ?_⟩
  refine (hlater [.fault (.ledger true), .call calm (.balanceOf bob)] ?_ calm).1
  rintro st (_ | ⟨_, _ | ⟨_, ⟨⟩⟩⟩)
  · trivial
  · trivial

end ExpenseLedger
