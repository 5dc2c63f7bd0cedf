import ExpenseLedger.Proofs.Cache.Entries
/-!
# Two keys of the cache

Asking for an entry, updating and dropping it read and write the two keys of one user and nothing
else (`Cache.Confined`). What is done to the keys of one user and what is done to those of another
therefore ends in the same cache, whichever comes first (`Cache.eq_of_changedAt`).
-/

namespace ExpenseLedger.Cache

variable {α : Type}

/-! ## The part of one user -/

/-- Both caches hold the same under the two keys of a user, and have the same faults. -/
structure SameAt (user : UserId) (c d : Cache) : Prop where
  /-- The hash is the same. -/
  hash : c.fields? user = d.fields? user
  /-- The marker is the same. -/
  marker : c.isMarked user = d.isMarked user
  /-- Both are in service or none. -/
  failing : c.failing = d.failing
  /-- Both take updates or none. -/
  failingUpdates : c.failingUpdates = d.failingUpdates

/-- The second cache differs from the first under the two keys of some users at most. -/
structure ChangedAt (users : List UserId) (c d : Cache) : Prop where
  /-- Other hashes are left alone. -/
  hashes : ∀ key, (∀ user ∈ users, key ≠ balanceKey user) →
    d.hashes.get? key = c.hashes.get? key
  /-- Other markers are left alone. -/
  markers : ∀ key, (∀ user ∈ users, key ≠ cachedKey user) →
    d.markers.get? key = c.markers.get? key
  /-- The cache is not put in or out of service. -/
  failing : d.failing = c.failing
  /-- Nor are updates. -/
  failingUpdates : d.failingUpdates = c.failingUpdates

/-- A cache is the same as itself. -/
theorem SameAt.refl (user : UserId) (c : Cache) : c.SameAt user c := ⟨rfl, rfl, rfl, rfl⟩

/-- Sameness can be turned around. -/
theorem SameAt.symm {user : UserId} {c d : Cache} (h : c.SameAt user d) : d.SameAt user c :=
  ⟨h.hash.symm, h.marker.symm, h.failing.symm, h.failingUpdates.symm⟩

/-- What is the same as the same is the same. -/
theorem SameAt.trans {user : UserId} {c d e : Cache} (h : c.SameAt user d) (h' : d.SameAt user e) :
    c.SameAt user e :=
  ⟨h.hash.trans h'.hash, h.marker.trans h'.marker, h.failing.trans h'.failing,
    h.failingUpdates.trans h'.failingUpdates⟩

/-- A cache is its own change. -/
theorem ChangedAt.refl (users : List UserId) (c : Cache) : c.ChangedAt users c :=
  ⟨fun _ _ => rfl, fun _ _ => rfl, rfl, rfl⟩

/-- A change of a change. -/
theorem ChangedAt.trans {users : List UserId} {c d e : Cache} (h : c.ChangedAt users d)
    (h' : d.ChangedAt users e) : c.ChangedAt users e :=
  ⟨fun key hkey => (h'.hashes key hkey).trans (h.hashes key hkey),
    fun key hkey => (h'.markers key hkey).trans (h.markers key hkey),
    h'.failing.trans h.failing, h'.failingUpdates.trans h.failingUpdates⟩

/-- A change at some users is one at more of them. -/
theorem ChangedAt.mono {users others : List UserId} {c d : Cache} (h : c.ChangedAt users d)
    (hsub : users ⊆ others) : c.ChangedAt others d :=
  ⟨fun key hkey => h.hashes key fun user huser => hkey user (hsub huser),
    fun key hkey => h.markers key fun user huser => hkey user (hsub huser), h.failing,
    h.failingUpdates⟩

/-- A change at some users is none at another. -/
theorem ChangedAt.sameAt {users : List UserId} {c d : Cache} (h : c.ChangedAt users d)
    {other : UserId} (hother : other ∉ users) : c.SameAt other d := by
  have hhash := h.hashes (balanceKey other) fun user huser he =>
    hother (balanceKey_injective he ▸ huser)
  have hmarker := h.markers (cachedKey other) fun user huser he =>
    hother (cachedKey_injective he ▸ huser)
  refine ⟨hhash.symm, ?_, h.failing.symm, h.failingUpdates.symm⟩
  unfold isMarked Table.contains
  rw [hmarker]

/-- A marker is set or not, and that is all. -/
theorem get?_markers_of_isMarked {user : UserId} {c d : Cache}
    (h : c.isMarked user = d.isMarked user) :
    c.markers.get? (cachedKey user) = d.markers.get? (cachedKey user) := by
  unfold isMarked Table.contains at h
  cases hc : c.markers.get? (cachedKey user) with
  | none =>
    cases hd : d.markers.get? (cachedKey user) with
    | none => rfl
    | some _ =>
      rw [hc, hd] at h
      contradiction
  | some _ =>
    cases hd : d.markers.get? (cachedKey user) with
    | none =>
      rw [hc, hd] at h
      contradiction
    | some _ => rfl

/-- **What has been changed at some users, and holds the same for each of them, is the same.** -/
theorem eq_of_changedAt {users : List UserId} {c d e : Cache} (hd : c.ChangedAt users d)
    (he : c.ChangedAt users e) (hsame : ∀ user ∈ users, d.SameAt user e) : d = e := by
  have hhashes : d.hashes = e.hashes := by
    refine Table.ext_get? fun key => ?_
    by_cases hkey : ∃ user ∈ users, key = balanceKey user
    · obtain ⟨user, huser, rfl⟩ := hkey
      exact (hsame user huser).hash
    · have hnone : ∀ user ∈ users, key ≠ balanceKey user :=
        fun user huser heq => hkey ⟨user, huser, heq⟩
      rw [hd.hashes key hnone, he.hashes key hnone]
  have hmarkers : d.markers = e.markers := by
    refine Table.ext_get? fun key => ?_
    by_cases hkey : ∃ user ∈ users, key = cachedKey user
    · obtain ⟨user, huser, rfl⟩ := hkey
      exact get?_markers_of_isMarked (hsame user huser).marker
    · have hnone : ∀ user ∈ users, key ≠ cachedKey user :=
        fun user huser heq => hkey ⟨user, huser, heq⟩
      rw [hd.markers key hnone, he.markers key hnone]
  have hfailing := hd.failing.trans he.failing.symm
  have hupdates := hd.failingUpdates.trans he.failingUpdates.symm
  obtain ⟨hashes, markers, failing, failingUpdates⟩ := d
  obtain ⟨hashes', markers', failing', failingUpdates'⟩ := e
  cases hhashes
  cases hmarkers
  cases hfailing
  cases hupdates
  rfl

/-! ## Operations -/

/-- The operation reads and writes the two keys of a user and nothing else of the cache. -/
structure Confined (user : UserId) (f : Cache → α × Cache) : Prop where
  /-- It writes nothing else. -/
  writes : ∀ c : Cache, c.ChangedAt [user] (f c).2
  /-- It reads nothing else. -/
  reads : ∀ c d : Cache, c.SameAt user d → (f c).1 = (f d).1 ∧ (f c).2.SameAt user (f d).2

/-- Asking for an entry. -/
theorem confined_hasEntry (user : UserId) : Confined user (hasEntry user) := by
  refine ⟨fun c => ?_, fun c d h => ?_⟩
  · rw [(hasEntry_cases user c).1]
    exact .refl _ c
  · rw [(hasEntry_cases user c).1, (hasEntry_cases user d).1]
    refine ⟨?_, h⟩
    unfold hasEntry
    rw [h.failing, h.marker]
    split
    · rfl
    · rfl

/-- Removing an entry. -/
theorem changedAt_remove (user : UserId) (c : Cache) : c.ChangedAt [user] (c.remove user) :=
  ⟨fun _ hkey => Table.get?_erase_of_ne _ (hkey user (List.mem_singleton_self user)),
    fun _ hkey => Table.get?_erase_of_ne _ (hkey user (List.mem_singleton_self user)), rfl, rfl⟩

/-- Storing a hash. -/
theorem changedAt_setFields (user : UserId) (fields : Fields) (c : Cache) :
    c.ChangedAt [user] (c.setFields user fields) :=
  ⟨fun _ hkey => Table.get?_insert_of_ne _ _ (hkey user (List.mem_singleton_self user)),
    fun _ _ => rfl, rfl, rfl⟩

/-- Storing the same hash. -/
theorem SameAt.setFields {user : UserId} {c d : Cache} (h : c.SameAt user d) (fields : Fields) :
    (c.setFields user fields).SameAt user (d.setFields user fields) := by
  refine ⟨?_, h.marker, h.failing, h.failingUpdates⟩
  unfold fields? Cache.setFields
  rw [Table.get?_insert_self, Table.get?_insert_self]

/-- Dropping an entry. -/
theorem confined_clear (user : UserId) : Confined user (clear user) := by
  refine ⟨fun c => ?_, fun c d h => ?_⟩
  · rcases clear_cases user c with ⟨-, -, hc⟩ | ⟨-, -, hc⟩
    · rw [hc]
      exact .refl _ c
    · rw [hc]
      exact changedAt_remove user c
  · unfold clear
    rw [h.failing]
    split
    · exact ⟨rfl, h⟩
    · refine ⟨rfl, ?_, ?_, h.failing, h.failingUpdates⟩
      · unfold fields? remove
        rw [Table.get?_erase_self, Table.get?_erase_self]
      · rw [isMarked_remove, isMarked_remove, if_pos rfl, if_pos rfl]

/-- Updating an entry. -/
theorem confined_applyDeltas (user : UserId) (deltas : List (UserId × Int)) :
    Confined user (applyDeltas user deltas) := by
  refine ⟨fun c => ?_, fun c d h => ?_⟩
  · unfold applyDeltas
    split
    · exact .refl _ c
    · split
      · exact .refl _ c
      · split
        · dsimp only
          split
          · exact changedAt_setFields user _ c
          · exact changedAt_setFields user _ c
        · exact .refl _ c
  · unfold applyDeltas
    rw [h.failing, h.failingUpdates, h.marker, h.hash]
    split
    · exact ⟨rfl, h⟩
    · split
      · exact ⟨rfl, h⟩
      · split
        · dsimp only
          split
          · exact ⟨rfl, h.setFields _⟩
          · exact ⟨rfl, h.setFields _⟩
        · exact ⟨rfl, h⟩

end ExpenseLedger.Cache
