import ExpenseLedger.Proofs.History.Coherence
/-!
# What the operations do to a store and its history

There is one rule for each operation: what must be shown for each way in which it can end. An
operation that is dropped while it waits has done nothing.
-/

open ExpenseLedger.Task

namespace ExpenseLedger

/-! ## Changes of stores -/

namespace Store

/-- A store with the same records and the same cache is alike. -/
theorem alike_of_eq {s s' : Store} (hrecords : s'.ledger.records = s.ledger.records)
    (hcache : s'.cache = s.cache) : s.Alike s' :=
  ⟨hrecords, congrArg Cache.failing hcache, fun v => congrArg (Cache.entryOf v) hcache⟩

/-- Removing the data of a user sets the entry to none. -/
theorem sets_remove (user : UserId) (s : Store) :
    s.Sets user none { s with cache := s.cache.remove user } :=
  ⟨rfl, rfl, fun v => Cache.entryOf_remove user v s.cache⟩

end Store

namespace Journaled

variable {w : Store.Waits} {P R : Journaled → Prop}

/-! ## The cache -/

/-- Asking for an entry. -/
theorem triple_hasEntry {Q : Except Error Bool → Journaled → Prop} (user : UserId)
    (hR : ∀ j, P j → R j) (herror : ∀ j e, P j → Q (.error e) j)
    (hok : ∀ j, P j → Q (.ok (j.store.cache.entryOf user).isSome) j) :
    Triple P ((backends w).hasEntry user) Q R := by
  refine triple_silently (Store.atomic_after _ _) hR fun j hj => ?_
  obtain ⟨hstate, ⟨-, hresult⟩ | ⟨-, hresult⟩⟩ := Cache.hasEntry_cases user j.store.cache
  · change Q (j.store.cache.hasEntry user).1
      ⟨{ j.store with cache := (j.store.cache.hasEntry user).2 }, j.history⟩
    rw [hresult, hstate]
    exact herror j _ hj
  · change Q (j.store.cache.hasEntry user).1
      ⟨{ j.store with cache := (j.store.cache.hasEntry user).2 }, j.history⟩
    rw [hresult, hstate]
    exact hok j hj

/-- Reading an entry. One that cannot be read is dropped. -/
theorem triple_lookup {Q : Except Error Cache.Lookup → Journaled → Prop} (user : UserId)
    (hR : ∀ j, P j → R j) (hsame : ∀ j, P j → Q (j.store.cache.lookup user).1 j)
    (hdrop : ∀ j s, P j → j.store.Sets user none s → s.ledger = j.store.ledger →
      Q (j.store.cache.lookup user).1 ⟨s, j.history ++ [.cleared user]⟩) :
    Triple P ((backends w).lookup user) Q R := by
  refine triple_noting (Store.atomic_after _ _) hR fun j hj => ?_
  have hq := hsame j hj
  change Q (j.store.cache.lookup user).1 ⟨{ j.store with cache := (j.store.cache.lookup user).2 },
    j.history ++ noted _ j.store (j.store.cache.lookup user).1⟩
  rcases Cache.lookup_cases user j.store.cache with ⟨-, hresult, hstate⟩ |
    ⟨-, fields, m, -, -, hresult, hstate⟩ | ⟨-, hentry, hresult, hstate⟩ |
    ⟨-, fields, hentry, -, hresult, hstate⟩
  -- The cache is out of service, the entry is read, there is none, or it cannot be read.
  · rw [hresult] at hq ⊢
    rw [hstate, noted, List.append_nil]
    exact hq
  · rw [hresult] at hq ⊢
    rw [hstate, noted, if_neg (by simp), List.append_nil]
    exact hq
  · have hmark : ¬ j.store.cache.isMarked user = true := by
      rw [← Cache.isSome_entryOf, hentry]
      decide
    rw [hresult] at hq ⊢
    rw [hstate, noted, if_neg (fun h => hmark h.2), List.append_nil]
    exact hq
  · have hmark : j.store.cache.isMarked user = true := by
      rw [← Cache.isSome_entryOf, hentry]
      rfl
    have hd := hdrop j _ hj (Store.sets_remove user j.store) rfl
    rw [hresult] at hd ⊢
    rw [hstate, noted, if_pos ⟨rfl, hmark⟩]
    exact hd

/-- Filling an entry. -/
theorem triple_populate {Q : Except Error Unit → Journaled → Prop} (user : UserId)
    (balance : Balance) (hR : ∀ j, P j → R j) (herror : ∀ j e, P j → Q (.error e) j)
    (hok : ∀ j s, P j → j.store.Sets user (some (Cache.Fields.ofBalance balance)) s →
      Q (.ok ()) ⟨s, j.history ++ [.filled user]⟩) :
    Triple P ((backends w).populate user balance) Q R := by
  refine triple_noting (Store.atomic_after _ _) hR fun j hj => ?_
  change Q (j.store.cache.populate user balance).1
    ⟨{ j.store with cache := (j.store.cache.populate user balance).2 },
      j.history ++ noted _ j.store (j.store.cache.populate user balance).1⟩
  rcases Cache.populate_cases user balance j.store.cache with ⟨-, hresult, hstate⟩ |
    ⟨hf, hresult, hf', hentries⟩
  · rw [hresult, hstate, noted, List.append_nil]
    exact herror j _ hj
  · rw [hresult]
    exact hok j _ hj ⟨rfl, hf'.trans hf.symm, hentries⟩

/-- Updating an entry. -/
theorem triple_applyDeltas {Q : Except Error Cache.DeltaOutcome → Journaled → Prop}
    (user : UserId) (deltas : List (UserId × Int)) (hR : ∀ j, P j → R j)
    (herror : ∀ j s e, P j → j.store.Alike s → Q (.error e) ⟨s, j.history⟩)
    (hskipped : ∀ j, P j → j.store.cache.entryOf user = none → Q (.ok .skipped) j)
    (happlied : ∀ j s fields next, P j → j.store.cache.entryOf user = some fields →
      Cache.addDeltas fields deltas = .ok next → j.store.Sets user (some next) s →
      Q (.ok .applied) ⟨s, j.history ++ [.updated user deltas]⟩) :
    Triple P ((backends w).applyDeltas user deltas) Q R := by
  refine triple_noting (Store.atomic_after _ _) hR fun j hj => ?_
  change Q (j.store.cache.applyDeltas user deltas).1
    ⟨{ j.store with cache := (j.store.cache.applyDeltas user deltas).2 },
      j.history ++ noted _ j.store (j.store.cache.applyDeltas user deltas).1⟩
  obtain ⟨hf, ⟨⟨e, hresult⟩, hentries⟩ | ⟨hresult, hentry, hstate⟩ |
    ⟨hresult, fields, next, hentry, hadd, hentries⟩⟩ :=
      Cache.applyDeltas_cases user deltas j.store.cache
  · rw [hresult, noted, List.append_nil]
    exact herror j _ e hj ⟨rfl, hf, hentries⟩
  · rw [hresult, hstate, noted, if_neg (by decide), List.append_nil]
    exact hskipped j hj hentry
  · rw [hresult, noted, if_pos rfl]
    exact happlied j _ fields next hj hentry hadd ⟨rfl, hf, hentries⟩

/-- Dropping an entry. -/
theorem triple_clear {Q : Except Error Unit → Journaled → Prop} (user : UserId)
    (hR : ∀ j, P j → R j) (herror : ∀ j e, P j → j.store.cache.failing = true → Q (.error e) j)
    (hok : ∀ j s, P j → j.store.Sets user none s →
      Q (.ok ()) ⟨s, j.history ++ [.cleared user]⟩) :
    Triple P ((backends w).clear user) Q R := by
  refine triple_noting (Store.atomic_after _ _) hR fun j hj => ?_
  change Q (j.store.cache.clear user).1 ⟨{ j.store with cache := (j.store.cache.clear user).2 },
    j.history ++ noted _ j.store (j.store.cache.clear user).1⟩
  rcases Cache.clear_cases user j.store.cache with ⟨hf, hresult, hstate⟩ | ⟨-, hresult, hstate⟩
  · rw [hresult, hstate, noted, List.append_nil]
    exact herror j _ hj hf
  · rw [hresult, hstate, noted]
    exact hok j _ hj (Store.sets_remove user j.store)

/-! ## The ledger -/

/-- Recording a batch. -/
theorem triple_append {Q : Except Error (List LoanRecord) → Journaled → Prop} (loans : List Loan)
    (hR : ∀ j, P j → R j) (herror : ∀ j s e, P j → j.store.Alike s → Q (.error e) ⟨s, j.history⟩)
    (hok : ∀ j s first now, P j → s.cache = j.store.cache →
      s.ledger.records = j.store.ledger.records ++ Ledger.recordAll first now loans →
      Q (.ok (Ledger.recordAll first now loans))
        ⟨s, j.history ++ [.committed (Ledger.recordAll first now loans) j.store.cache]⟩) :
    Triple P ((backends w).append loans) Q R := by
  refine triple_noting (Store.atomic_after _ _) hR fun j hj => ?_
  have hresult : (Store.append loans j.store).1 =
      (j.store.ledger.append loans j.store.supply.next j.store.supply.now).1 := rfl
  have hledger : (Store.append loans j.store).2.ledger =
      (j.store.ledger.append loans j.store.supply.next j.store.supply.now).2 := rfl
  rcases Ledger.append_cases loans j.store.supply.next j.store.supply.now j.store.ledger with
    ⟨⟨e, he⟩, hsame⟩ | ⟨hbatch, hrecords⟩
  · rw [hresult, he, noted, List.append_nil]
    refine herror j _ e hj (Store.alike_of_eq ?_ rfl)
    rw [hledger, hsame]
  · rw [hresult, hbatch, noted]
    refine hok j _ _ _ hj rfl ?_
    rw [hledger, hrecords]

/-- Computing a balance. -/
theorem triple_computeBalance {Q : Except Error Balance → Journaled → Prop} (user : UserId)
    (hR : ∀ j, P j → R j)
    (h : ∀ j s, P j → j.store.Alike s → Q (j.store.ledger.computeBalance user).1 ⟨s, j.history⟩) :
    Triple P ((backends w).computeBalance user) Q R := by
  refine triple_silently (Store.atomic_after _ _) hR fun j hj => ?_
  refine h j _ hj (Store.alike_of_eq ?_ rfl)
  change (j.store.ledger.computeBalance user).2.records = j.store.ledger.records
  unfold Ledger.computeBalance
  cases j.store.ledger.failing <;> rfl

/-! ## The directory -/

/-- An operation that leaves records and cache alone keeps what depends on them alone. -/
theorem triple_directory {α : Type} {t : Task Store (Except Error α)}
    {f : Store → Except Error α × Store} (ht : Store.Atomic f t)
    (hf : ∀ s : Store, s.Alike (f s).2) (hP : ∀ j s, P j → j.store.Alike s → P ⟨s, j.history⟩) :
    Triple P (silently t) (fun _ => P) P :=
  triple_silently ht (fun _ hj => hj) fun j hj => hP j _ hj (hf j.store)

end Journaled

end ExpenseLedger
