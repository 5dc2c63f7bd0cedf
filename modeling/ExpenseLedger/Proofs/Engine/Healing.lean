import ExpenseLedger.Proofs.Cache.Updates
import ExpenseLedger.Proofs.Engine.Duration
/-!
# One read heals an entry

Whatever the cache holds for a user, a look-up either hits, and then reading changes nothing, or it
does not, and then the entry is made anew from the ledger and nothing is left of what was there.
Main statements:

* `Cache.renewed_populate`: what filling an entry after a look-up leaves in the cache;
* `Engine.triple_balanceOf_hit`: reading an entry that can be read;
* `Engine.takes_balanceOf_miss`: reading when there is no such entry.
-/

open ExpenseLedger.Task

namespace ExpenseLedger

namespace Cache

/-! ## What an operation on one entry leaves alone -/

/-- The caches differ in the hash and the marker of a user at most. -/
structure Apart (user : UserId) (c c' : Cache) : Prop where
  /-- All other hashes are the same. -/
  hashes : ∀ key, key ≠ balanceKey user → c'.hashes.get? key = c.hashes.get? key
  /-- All other markers are the same. -/
  markers : ∀ key, key ≠ cachedKey user → c'.markers.get? key = c.markers.get? key

namespace Apart

variable {user : UserId} {c c' c'' : Cache}

/-- A cache does not differ from itself. -/
theorem refl (user : UserId) (c : Cache) : Apart user c c := ⟨fun _ _ => rfl, fun _ _ => rfl⟩

/-- Differences in one entry add up to differences in that entry. -/
theorem trans (h : Apart user c c') (h' : Apart user c' c'') : Apart user c c'' where
  hashes key hkey := (h'.hashes key hkey).trans (h.hashes key hkey)
  markers key hkey := (h'.markers key hkey).trans (h.markers key hkey)

/-- Removing the data of a user. -/
theorem remove (user : UserId) (c : Cache) : Apart user c (c.remove user) where
  hashes _ hkey := Table.get?_erase_of_ne _ hkey
  markers _ hkey := Table.get?_erase_of_ne _ hkey

/-- Storing the hash of a user. -/
theorem setFields (user : UserId) (fields : Fields) (c : Cache) :
    Apart user c (c.setFields user fields) where
  hashes _ hkey := Table.get?_insert_of_ne _ _ hkey
  markers _ _ := rfl

/-- Setting the marker of a user. -/
theorem mark (user : UserId) (c : Cache) : Apart user c (c.mark user) where
  hashes _ _ := rfl
  markers _ hkey := Table.get?_insert_of_ne _ _ hkey

/-- A look-up drops the entry of its own user if any. -/
theorem lookup (user : UserId) (c : Cache) : Apart user c (c.lookup user).2 := by
  rcases lookup_cases user c with ⟨-, -, h⟩ | ⟨-, _, _, -, -, -, h⟩ | ⟨-, -, -, h⟩ |
    ⟨-, _, -, -, -, h⟩
  · rw [h]
    exact refl user c
  · rw [h]
    exact refl user c
  · rw [h]
    exact refl user c
  · rw [h]
    exact remove user c

end Apart

/-! ## Entries made anew -/

/-- The entry of a user has been made from a balance. Nothing is left of what the user had before,
and nobody else's data have changed. -/
structure Renewed (user : UserId) (m : Balance) (c c' : Cache) : Prop where
  /-- The marker is set. -/
  marked : c'.isMarked user = true
  /-- The fields are the amounts of the balance in decimal, and there is no other field. -/
  fields : ∀ name value, (c'.hashOf user).get? name = some value ↔
    ∃ other a, m.get? other = some a ∧ other.text = name ∧ Amount.text a = value
  /-- An empty balance has no hash. -/
  absent : c'.fields? user = none ↔ m = Table.empty
  /-- The other hashes and markers are the same. -/
  apart : Apart user c c'

/-- What filling an entry stores. -/
theorem fields?_populate (user : UserId) (m : Balance) {c : Cache} (hservice : c.failing = false) :
    (c.populate user m).2.fields? user =
      if m.isEmpty then none else some (Fields.ofBalance m) := by
  unfold populate
  rw [hservice]
  cases hempty : m.isEmpty with
  | true => exact Table.get?_erase_self c.hashes (balanceKey user)
  | false =>
    exact Table.get?_insert_self (c.remove user).hashes (balanceKey user) (Fields.ofBalance m)

/-- Filling an entry leaves the data of others alone. -/
theorem Apart.populate (user : UserId) (m : Balance) {c : Cache} (hservice : c.failing = false) :
    Apart user c (c.populate user m).2 := by
  unfold Cache.populate
  rw [hservice]
  cases hempty : m.isEmpty with
  | true => exact (Apart.remove user c).trans (Apart.mark user _)
  | false =>
    exact (Apart.remove user c).trans
      ((Apart.setFields user (Fields.ofBalance m) _).trans (Apart.mark user _))

/-- A look-up leaves the cache in service. -/
theorem failing_lookup (user : UserId) (c : Cache) : (c.lookup user).2.failing = c.failing := by
  rcases lookup_cases user c with ⟨-, -, h⟩ | ⟨-, _, _, -, -, -, h⟩ | ⟨-, -, -, h⟩ |
    ⟨-, _, -, -, -, h⟩
  · rw [h]
  · rw [h]
  · rw [h]
  · rw [h]
    rfl

/-- **Filling an entry after a look-up makes it anew**, whatever the look-up has dropped. -/
theorem renewed_populate (user : UserId) (m : Balance) {c : Cache} (hservice : c.failing = false) :
    Renewed user m c ((c.lookup user).2.populate user m).2 := by
  have hlookup : (c.lookup user).2.failing = false := (failing_lookup user c).trans hservice
  have hmarked := isMarked_populate user user m _ hlookup
  have hhash := hashOf_populate user user m _ hlookup
  rw [if_pos rfl] at hmarked hhash
  refine ⟨hmarked, fun name value => ?_, ?_,
    (Apart.lookup user c).trans (Apart.populate user m hlookup)⟩
  · rw [hhash]
    exact get?_ofBalance_eq_some_iff m name value
  · have hempty : m.isEmpty = true ↔ m = Table.empty := by
      constructor
      · exact fun h => Table.eq_of_entries (List.isEmpty_iff.1 h)
      · rintro rfl
        rfl
    rw [fields?_populate user m hlookup, ← hempty]
    cases m.isEmpty with
    | true => simp
    | false => simp

end Cache

namespace Engine

/-! ## Reading an entry that can be read -/

/-- **Reading an entry that can be read gives what it holds, and changes nothing**, dropped or
not. -/
theorem triple_balanceOf_hit {b : Backends Store} (hb : b.Realizes) (settings : EngineSettings)
    (user : UserId) {s : Store} {m : Balance}
    (hhit : s.cache.lookup user = (.ok (.hit m), s.cache)) :
    Triple (fun e => e.store = s) (balanceOf b settings user)
      (fun r e => r = .ok m ∧ e.store = s) fun e => e.store = s := by
  have hstore : Store.onCache (Cache.lookup user) s = (.ok (.hit m), s) := by
    unfold Store.onCache
    rw [hhit]
  have hlookup : Triple (fun s' => s' = s) (b.lookup user)
      (fun r s' => r = .ok (.hit m) ∧ s' = s) fun s' => s' = s := by
    refine ((hb.lookup user) s).conseq (fun _ h => h) ?_ fun _ h => h
    intro r s' h
    rw [hstore] at h
    exact Prod.mk.inj h
  refine (triple_onStore hlookup).bind fun r => Triple.of_forall fun e he => ?_
  obtain ⟨rfl, hs⟩ := he
  refine (triple_count .hit (P := fun s' : Store => s' = s)).bind (fun _ => .pure ?_) |>.conseq ?_
    (fun _ _ h => h) fun _ h => h
  · exact fun _ h => ⟨rfl, h⟩
  · rintro e' rfl
    exact hs

/-! ## Reading without such an entry -/

section Miss

variable (w : Store.Waits) (settings : EngineSettings) (user : UserId) {m : Balance}
  (htime : w.populate ≤ settings.populateTimeout)
include htime

/-- An entry is filled if the cache is in service and in time. -/
theorem takes_fillEntry_inTime (e : Engine Store) (hcache : e.store.cache.failing = false) :
    ∃ e', Takes (fillEntry (Store.backends w) settings user m) e w.populate () e' ∧
      e'.store = { e.store with cache := (e.store.cache.populate user m).2 } := by
  have hfill := takes_withDeadline
    (takes_onStore_after w.populate (Store.onCache (Cache.populate user m)) e) htime
  have hok : (Store.onCache (Cache.populate user m) e.store).1 = .ok () := by
    change (e.store.cache.populate user m).1 = .ok ()
    unfold Cache.populate
    rw [hcache]
    rfl
  rw [hok] at hfill
  exact ⟨_, hfill.bind_instant (Takes.act _ _), rfl⟩

/-- After a miss the balance comes from the ledger, which is scanned once, and goes to the cache. -/
theorem takes_balanceFromLedger_inTime (e : Engine Store)
    (hcache : e.store.cache.failing = false) (hledger : e.store.ledger.failing = false)
    (hm : Ledger.aggregate user e.store.ledger.records = .ok m) :
    ∃ d e', Takes (balanceFromLedger (Store.backends w) settings user) e d (.ok m) e' ∧
      e'.store = { e.store with
        ledger := { e.store.ledger with scans := e.store.ledger.scans + 1 }
        cache := (e.store.cache.populate user m).2 } := by
  have hscan : e.store.ledger.computeBalance user =
      (.ok m, { e.store.ledger with scans := e.store.ledger.scans + 1 }) := by
    unfold Ledger.computeBalance
    rw [if_neg (by simp [hledger]), hm]
  obtain ⟨asked, hasked, hscanned⟩ : ∃ asked : Engine Store,
      Takes (onStore ((Store.backends w).computeBalance user))
        { e with counters := e.counters.record .miss } w.computeBalance (.ok m) asked ∧
      asked.store = { e.store with
        ledger := { e.store.ledger with scans := e.store.ledger.scans + 1 } } := by
    have hafter := takes_onStore_after w.computeBalance
      (Store.onLedger (Ledger.computeBalance user)) { e with counters := e.counters.record .miss }
    unfold Store.onLedger at hafter
    rw [hscan] at hafter
    exact ⟨_, hafter, rfl⟩
  -- The scan leaves the cache alone, so it is still in service when the entry is filled.
  obtain ⟨e', hfill, hstore⟩ := takes_fillEntry_inTime w settings user htime (m := m)
    { asked with counters := asked.counters.record .ledgerScan } (by rw [hscanned]; exact hcache)
  dsimp only at hstore
  rw [hscanned] at hstore
  refine ⟨w.computeBalance + w.populate, e', ?_, hstore⟩
  refine (Takes.act _ e).instant_bind (hasked.bind ((Takes.act _ asked).instant_bind ?_))
  exact hfill.bind_instant (.pure _ e')

/-- **Reading without an entry that can be read gives the balance of the ledger, after one scan, and
fills the entry.** -/
theorem takes_balanceOf_miss (e : Engine Store) (hcache : e.store.cache.failing = false)
    (hledger : e.store.ledger.failing = false)
    (hm : Ledger.aggregate user e.store.ledger.records = .ok m)
    (hmiss : (e.store.cache.lookup user).1 = .ok .notCached) :
    ∃ d e', Takes (balanceOf (Store.backends w) settings user) e d (.ok m) e' ∧
      e'.store = { e.store with
        ledger := { e.store.ledger with scans := e.store.ledger.scans + 1 }
        cache := ((e.store.cache.lookup user).2.populate user m).2 } := by
  have hlookup := takes_onStore_after w.lookup (Store.onCache (Cache.lookup user)) e
  have hresult : (Store.onCache (Cache.lookup user) e.store).1 = .ok .notCached := hmiss
  rw [hresult] at hlookup
  obtain ⟨d, e', hread, hstore⟩ := takes_balanceFromLedger_inTime w settings user htime (m := m)
    { e with store := (Store.onCache (Cache.lookup user) e.store).2 }
    ((Cache.failing_lookup user e.store.cache).trans hcache) hledger hm
  exact ⟨_, e', hlookup.bind hread, hstore⟩

end Miss

end Engine

end ExpenseLedger
