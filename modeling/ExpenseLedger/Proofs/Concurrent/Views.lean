import ExpenseLedger.Proofs.Cache.Entries
import ExpenseLedger.Proofs.Concurrent.Asks
import ExpenseLedger.Proofs.Concurrent.Protocol
/-!
# What operations do to a view

A user sees the records and the own entry of a store. An operation about one user changes nothing
for another, and no operation puts the cache in or out of service.
-/

namespace ExpenseLedger

/-- What there is to see of a store for a user. -/
def Store.view (user : UserId) (s : Store) : View := ⟨s.ledger.records, s.cache.entryOf user⟩

namespace Operation

/-- The user whom an operation is about. -/
def subject : Operation → Option UserId
  | computeBalance user | hasEntry user | lookup user | populate user _ | applyDeltas user _
  | clear user => some user
  | _ => none

/-- The operation fills the entry of a user. -/
def Fills (user : UserId) : Operation → Prop
  | populate v _ => v = user
  | _ => False

/-- The operation is part of bringing the entry of a user up to date. -/
def Updates (user : UserId) : Operation → Prop
  | hasEntry v | applyDeltas v _ | clear v => v = user
  | _ => False

instance (user : UserId) : (o : Operation) → Decidable (o.Fills user)
  | populate v _ => inferInstanceAs (Decidable (v = user))
  | append _ | computeBalance _ | hasEntry _ | lookup _ | applyDeltas _ _ | clear _
  | createGroup _ _ | findGroup _ | deleteGroup _ | addMembers _ _ | removeMember _ _ | members _
  | groupsOf _ => inferInstanceAs (Decidable False)

instance (user : UserId) : (o : Operation) → Decidable (o.Updates user)
  | hasEntry v | applyDeltas v _ | clear v => inferInstanceAs (Decidable (v = user))
  | append _ | computeBalance _ | lookup _ | populate _ _ | createGroup _ _ | findGroup _
  | deleteGroup _ | addMembers _ _ | removeMember _ _ | members _ | groupsOf _ =>
    inferInstanceAs (Decidable False)

/-- No operation puts the cache in or out of service. -/
theorem failing_perform (o : Operation) (s : Store) :
    (o.perform s).2.cache.failing = s.cache.failing := by
  cases o with
  | hasEntry user => exact congrArg Cache.failing (Cache.hasEntry_cases user s.cache).1
  | lookup user =>
    change (s.cache.lookup user).2.failing = _
    rcases Cache.lookup_cases user s.cache with ⟨-, -, hstate⟩ | ⟨-, _, _, -, -, -, hstate⟩ |
      ⟨-, -, -, hstate⟩ | ⟨-, _, -, -, -, hstate⟩
    · rw [hstate]
    · rw [hstate]
    · rw [hstate]
    · rw [hstate, Cache.remove]
  | populate user balance =>
    change (s.cache.populate user balance).2.failing = _
    rcases Cache.populate_cases user balance s.cache with ⟨-, -, hstate⟩ | ⟨hf, -, hf', -⟩
    · rw [hstate]
    · rw [hf, hf']
  | applyDeltas user deltas => exact (Cache.applyDeltas_cases user deltas s.cache).1
  | clear user =>
    change (s.cache.clear user).2.failing = _
    rcases Cache.clear_cases user s.cache with ⟨-, -, hstate⟩ | ⟨-, -, hstate⟩
    · rw [hstate]
    · rw [hstate, Cache.remove]
  | _ => rfl

/-- Computing a balance changes nothing that users see. -/
theorem view_computeBalance (user v : UserId) (s : Store) :
    ((computeBalance v).perform s).2.view user = s.view user := by
  refine congrArg (fun records => View.mk records (s.cache.entryOf user)) ?_
  change (s.ledger.computeBalance v).2.records = s.ledger.records
  unfold Ledger.computeBalance
  cases s.ledger.failing <;> rfl

/-- An operation about one user changes nothing for another. -/
theorem view_perform_of_ne {o : Operation} {user v : UserId} (ho : o.subject = some v)
    (hne : user ≠ v) (s : Store) : (o.perform s).2.view user = s.view user := by
  have hview : ∀ c : Cache, c.entryOf user = s.cache.entryOf user →
      Store.view user { s with cache := c } = s.view user :=
    fun c hc => congrArg (View.mk s.ledger.records) hc
  have hremove : (s.cache.remove v).entryOf user = s.cache.entryOf user := by
    rw [Cache.entryOf_remove, if_neg hne]
  cases o with
  | computeBalance _ => exact view_computeBalance user _ s
  | hasEntry _ =>
    cases ho
    exact hview _ (congrArg (Cache.entryOf user) (Cache.hasEntry_cases v s.cache).1)
  | lookup _ =>
    cases ho
    refine hview (s.cache.lookup v).2 ?_
    rcases Cache.lookup_cases v s.cache with ⟨-, -, hstate⟩ | ⟨-, _, _, -, -, -, hstate⟩ |
      ⟨-, -, -, hstate⟩ | ⟨-, _, -, -, -, hstate⟩
    · rw [hstate]
    · rw [hstate]
    · rw [hstate]
    · rw [hstate, hremove]
  | populate _ balance =>
    cases ho
    refine hview (s.cache.populate v balance).2 ?_
    rcases Cache.populate_cases v balance s.cache with ⟨-, -, hstate⟩ | ⟨-, -, -, hentries⟩
    · rw [hstate]
    · rw [hentries, if_neg hne]
  | applyDeltas _ deltas =>
    cases ho
    refine hview (s.cache.applyDeltas v deltas).2 ?_
    obtain ⟨-, ⟨-, hentries⟩ | ⟨-, -, hstate⟩ | ⟨-, _, _, -, -, hentries⟩⟩ :=
      Cache.applyDeltas_cases v deltas s.cache
    · rw [hentries]
    · rw [hstate]
    · rw [hentries, if_neg hne]
  | clear _ =>
    cases ho
    refine hview (s.cache.clear v).2 ?_
    rcases Cache.clear_cases v s.cache with ⟨-, -, hstate⟩ | ⟨-, -, hstate⟩
    · rw [hstate]
    · rw [hstate, hremove]
  | _ => contradiction

end Operation

/-- Dropping the entry of a user is about this user only. -/
theorem subject_of_mem_dropAsks {a : Answers} {user : UserId} {o : Operation}
    (ho : o ∈ dropAsks a user) : o.subject = some user := by
  unfold dropAsks at ho
  split at ho
  · rw [List.mem_singleton.1 ho]
    rfl
  · contradiction

end ExpenseLedger
