import ExpenseLedger.Proofs.Cache.Codec
/-!
# The cache as one entry per user

A user has an entry exactly when the marker is set, and the entry is what the hash holds then. Each
operation of the cache is described by what it does to the entries: it reads or writes the entry of
its own user and leaves those of all other users alone. What each operation can do is said once,
in `Cache.lookup_cases`, `Cache.populate_cases`, `Cache.applyDeltas_cases` and
`Cache.clear_cases`.
-/

namespace ExpenseLedger.Cache

/-! ## Keys -/

/-- Distinct users have distinct hashes. -/
theorem balanceKey_injective : Function.Injective balanceKey := fun _ _ h =>
  UserId.text_injective (String.append_right_inj "balance:" |>.1 h)

/-- Distinct users have distinct markers. -/
theorem cachedKey_injective : Function.Injective cachedKey := fun _ _ h =>
  UserId.text_injective (String.append_right_inj "cached:" |>.1 h)

/-! ## Entries -/

/-- The fields of a user's entry, if there is one. An absent hash counts as an empty one. -/
def entryOf (user : UserId) (c : Cache) : Option Fields :=
  if c.isMarked user then some ((c.fields? user).getD Table.empty) else none

/-- A user has an entry exactly when the marker is set. -/
theorem isSome_entryOf (user : UserId) (c : Cache) : (c.entryOf user).isSome = c.isMarked user := by
  unfold entryOf
  split <;> simp_all

/-- Entries are all that hashes and markers tell. -/
theorem entryOf_congr (user : UserId) (c d : Cache) (hh : c.hashes = d.hashes)
    (hm : c.markers = d.markers) : c.entryOf user = d.entryOf user := by
  unfold entryOf isMarked fields?
  rw [hh, hm]

/-- Removing a user's data removes that user's entry. -/
theorem entryOf_remove (u v : UserId) (c : Cache) :
    (c.remove u).entryOf v = if v = u then none else c.entryOf v := by
  unfold entryOf isMarked fields? remove Table.contains
  by_cases h : v = u
  · subst h
    simp
  · have hb : balanceKey v ≠ balanceKey u := fun he => h (balanceKey_injective he)
    have hc : cachedKey v ≠ cachedKey u := fun he => h (cachedKey_injective he)
    simp [Table.get?_erase_of_ne _ hb, Table.get?_erase_of_ne _ hc, h]

/-- Storing a hash sets the fields of an entry that there is. -/
theorem entryOf_setFields (u v : UserId) (fields : Fields) (c : Cache) :
    (c.setFields u fields).entryOf v =
      if v = u then (c.entryOf u).map fun _ => fields else c.entryOf v := by
  unfold entryOf isMarked fields? setFields
  by_cases h : v = u
  · subst h
    by_cases hm : c.markers.contains (cachedKey v) = true <;> simp [hm]
  · have hb : balanceKey v ≠ balanceKey u := fun he => h (balanceKey_injective he)
    simp [Table.get?_insert_of_ne _ _ hb, h]

/-- Setting the marker makes an entry of the hash. -/
theorem entryOf_mark (u v : UserId) (c : Cache) :
    (c.mark u).entryOf v =
      if v = u then some ((c.fields? u).getD Table.empty) else c.entryOf v := by
  unfold entryOf isMarked fields? mark KeySet.add Table.contains
  by_cases h : v = u
  · subst h
    simp
  · have hc : cachedKey v ≠ cachedKey u := fun he => h (cachedKey_injective he)
    simp [Table.get?_insert_of_ne _ _ hc, h]

/-- A raw write changes a field of an entry that there is, and makes none. -/
theorem entryOf_insertRaw (u v : UserId) (field value : String) (c : Cache) :
    (c.insertRaw u field value).entryOf v =
      if v = u then (c.entryOf u).map fun fields => fields.insert field value
      else c.entryOf v := by
  unfold insertRaw
  rw [entryOf_setFields]
  by_cases h : v = u
  · subst h
    unfold entryOf
    by_cases hm : c.isMarked v = true <;> simp [hm]
  · rw [if_neg h, if_neg h]

/-! ## What the operations do to the entries -/

/-- Asking for an entry tells whether there is one, and changes nothing. -/
theorem hasEntry_cases (u : UserId) (c : Cache) :
    (c.hasEntry u).2 = c ∧
      ((c.failing = true ∧ (c.hasEntry u).1 = .error .cacheUnavailable) ∨
        (c.failing = false ∧ (c.hasEntry u).1 = .ok (c.entryOf u).isSome)) := by
  unfold hasEntry
  rw [isSome_entryOf]
  cases c.failing <;> simp

/-- A look-up hits an entry that can be read, and drops one that cannot. -/
theorem lookup_cases (u : UserId) (c : Cache) :
    (c.failing = true ∧ (c.lookup u).1 = .error .cacheUnavailable ∧ (c.lookup u).2 = c) ∨
    (c.failing = false ∧ ∃ fields balance, c.entryOf u = some fields ∧
      decode fields = .ok balance ∧ (c.lookup u).1 = .ok (.hit balance) ∧ (c.lookup u).2 = c) ∨
    (c.failing = false ∧ c.entryOf u = none ∧ (c.lookup u).1 = .ok .notCached ∧
      (c.lookup u).2 = c) ∨
    (c.failing = false ∧ ∃ fields, c.entryOf u = some fields ∧ Unreadable fields ∧
      (c.lookup u).1 = .ok .notCached ∧ (c.lookup u).2 = c.remove u) := by
  unfold lookup lookupIn
  cases hf : c.failing with
  | true => exact .inl ⟨rfl, rfl, rfl⟩
  | false =>
    refine .inr ?_
    unfold entryOf
    by_cases hm : c.isMarked u = true
    · cases hd : decodeIn .ascending ((c.fields? u).getD Table.empty) with
      | ok balance => exact .inl ⟨rfl, _, balance, if_pos hm, hd, by simp [hm]⟩
      | error e =>
        exact .inr (.inr ⟨rfl, _, if_pos hm, (decode_eq_error_iff _).1 ⟨e, hd⟩, by simp [hm]⟩)
    · exact .inr (.inl ⟨rfl, if_neg hm, by simp [hm]⟩)

/-- A look-up of an available cache hits what the entry is decoded to. -/
theorem lookup_eq_hit_iff (u : UserId) (c : Cache) (m : Balance) :
    (c.lookup u).1 = .ok (.hit m) ↔
      c.failing = false ∧ ∃ fields, c.entryOf u = some fields ∧ decode fields = .ok m := by
  rcases lookup_cases u c with ⟨hf, hr, -⟩ | ⟨hf, fields, b, he, hd, hr, -⟩ | ⟨hf, he, hr, -⟩ |
    ⟨hf, fields, he, hu, hr, -⟩
  · rw [hr, hf]
    simp
  · rw [hr, hf, he]
    simp [hd]
  · rw [hr, hf, he]
    simp
  · rw [hr, hf, he]
    simp only [Except.ok.injEq, reduceCtorEq, true_and, Option.some.injEq, exists_eq_left',
      false_iff]
    exact fun hd => not_unreadable_of_decode fields m hd hu

/-- Filling replaces the entry as a whole. -/
theorem populate_cases (u : UserId) (balance : Balance) (c : Cache) :
    (c.failing = true ∧ (c.populate u balance).1 = .error .cacheUnavailable ∧
      (c.populate u balance).2 = c) ∨
    (c.failing = false ∧ (c.populate u balance).1 = .ok () ∧
      (c.populate u balance).2.failing = false ∧
      ∀ v, (c.populate u balance).2.entryOf v =
        if v = u then some (Fields.ofBalance balance) else c.entryOf v) := by
  unfold populate
  cases hf : c.failing with
  | true => exact .inl ⟨rfl, rfl, rfl⟩
  | false =>
    refine .inr ⟨rfl, rfl, ?_, fun v => ?_⟩
    · by_cases hb : balance.isEmpty = true <;> simp [hb, mark, remove, setFields, hf]
    · simp only [Bool.false_eq_true, if_false]
      rw [entryOf_mark]
      by_cases hv : v = u
      · subst hv
        rw [if_pos rfl, if_pos rfl]
        by_cases hb : balance.isEmpty = true
        · -- No hash is stored for an empty balance, and none is left of an earlier entry.
          have he : balance = Table.empty := Table.eq_of_entries (List.isEmpty_iff.1 hb)
          rw [if_pos hb, he, ofBalance_empty]
          simp [remove, fields?]
        · simp [hb, setFields, fields?]
      · rw [if_neg hv, if_neg hv]
        by_cases hb : balance.isEmpty = true
        · simp [hb, entryOf_remove, hv]
        · simp [hb, entryOf_setFields, entryOf_remove, hv]

/-- Filling succeeds in a cache in service, which stays in service. -/
theorem populate_of_service (u : UserId) (balance : Balance) (c : Cache)
    (hservice : c.failing = false) :
    (c.populate u balance).1 = .ok () ∧ (c.populate u balance).2.failing = false := by
  rcases populate_cases u balance c with ⟨hf, -⟩ | ⟨-, hdone, hf, -⟩
  · rw [hservice] at hf
    contradiction
  · exact ⟨hdone, hf⟩

/-- An update changes the entry as a whole or not at all. -/
theorem applyDeltas_cases (u : UserId) (ds : List (UserId × Int)) (c : Cache) :
    (c.applyDeltas u ds).2.failing = c.failing ∧
    (((∃ e, (c.applyDeltas u ds).1 = .error e) ∧
        ∀ v, (c.applyDeltas u ds).2.entryOf v = c.entryOf v) ∨
      ((c.applyDeltas u ds).1 = .ok .skipped ∧ c.entryOf u = none ∧
        (c.applyDeltas u ds).2 = c) ∨
      ((c.applyDeltas u ds).1 = .ok .applied ∧ ∃ fields next, c.entryOf u = some fields ∧
        addDeltas fields ds = .ok next ∧
        ∀ v, (c.applyDeltas u ds).2.entryOf v = if v = u then some next else c.entryOf v)) := by
  unfold applyDeltas
  cases hf : c.failing with
  | true => exact ⟨hf, .inl ⟨⟨_, rfl⟩, fun _ => rfl⟩⟩
  | false =>
    cases hu : c.failingUpdates with
    | true => exact ⟨hf, .inl ⟨⟨_, rfl⟩, fun _ => rfl⟩⟩
    | false =>
      simp only [Bool.false_eq_true, if_false]
      by_cases hm : c.isMarked u = true
      · rw [if_pos hm]
        have he : c.entryOf u = some ((c.fields? u).getD Table.empty) := if_pos hm
        cases hd : addDeltas ((c.fields? u).getD Table.empty) ds with
        | error e =>
          -- The hash is stored all the same, with the fields it had.
          refine ⟨hf, .inl ⟨⟨e, rfl⟩, fun v => ?_⟩⟩
          rw [entryOf_setFields, he]
          split <;> simp_all
        | ok next =>
          refine ⟨hf, .inr (.inr ⟨rfl, _, next, he, hd, fun v => ?_⟩)⟩
          rw [entryOf_setFields, he]
          rfl
      · rw [if_neg hm]
        exact ⟨hf, .inr (.inl ⟨rfl, if_neg hm, rfl⟩)⟩

/-- Clearing removes the entry. -/
theorem clear_cases (u : UserId) (c : Cache) :
    (c.failing = true ∧ (c.clear u).1 = .error .cacheUnavailable ∧ (c.clear u).2 = c) ∨
    (c.failing = false ∧ (c.clear u).1 = .ok () ∧ (c.clear u).2 = c.remove u) := by
  unfold clear
  cases hf : c.failing with
  | true => exact .inl ⟨rfl, rfl, rfl⟩
  | false => exact .inr ⟨rfl, rfl, rfl⟩

/-! ## Hashes and markers apart -/

/-- The hash of a user, of which an absent one is like an empty one. -/
def hashOf (user : UserId) (c : Cache) : Fields := (c.fields? user).getD Table.empty

/-- The entry is the hash, if the marker is set. -/
theorem entryOf_eq (user : UserId) (c : Cache) :
    c.entryOf user = if c.isMarked user then some (c.hashOf user) else none := rfl

/-- A look-up without a marker. -/
theorem lookupIn_of_unmarked (order : Fields.Order) (user : UserId) (c : Cache)
    (hservice : c.failing = false) (hmarked : c.isMarked user = false) :
    c.lookupIn order user = (.ok .notCached, c) := by
  unfold lookupIn
  rw [hservice, hmarked]
  rfl

/-- A look-up of a hash that can be read. -/
theorem lookupIn_of_decodeIn (order : Fields.Order) (user : UserId) (c : Cache)
    (hservice : c.failing = false) (hmarked : c.isMarked user = true) {balance : Balance}
    (hread : decodeIn order (c.hashOf user) = .ok balance) :
    c.lookupIn order user = (.ok (.hit balance), c) := by
  unfold hashOf at hread
  unfold lookupIn
  rw [hservice, hmarked, hread]
  rfl

/-- A look-up of a hash that cannot be read. -/
theorem lookupIn_of_decodeIn_error (order : Fields.Order) (user : UserId) (c : Cache)
    (hservice : c.failing = false) (hmarked : c.isMarked user = true) {e : Error}
    (hread : decodeIn order (c.hashOf user) = .error e) :
    c.lookupIn order user = (.ok .notCached, c.remove user) := by
  unfold hashOf at hread
  unfold lookupIn
  rw [hservice, hmarked, hread]
  rfl

/-- Removing a user's data removes the hash of that user. -/
theorem hashOf_remove (user other : UserId) (c : Cache) :
    (c.remove user).hashOf other = if other = user then Table.empty else c.hashOf other := by
  unfold hashOf fields? remove
  by_cases h : other = user
  · subst h
    simp
  · have hkey : balanceKey other ≠ balanceKey user := fun he => h (balanceKey_injective he)
    simp [Table.get?_erase_of_ne _ hkey, h]

/-- Removing a user's data removes the marker of that user. -/
theorem isMarked_remove (user other : UserId) (c : Cache) :
    (c.remove user).isMarked other = if other = user then false else c.isMarked other := by
  unfold isMarked remove Table.contains
  by_cases h : other = user
  · subst h
    simp
  · have hkey : cachedKey other ≠ cachedKey user := fun he => h (cachedKey_injective he)
    simp [Table.get?_erase_of_ne _ hkey, h]

/-- Storing fields sets the hash of the user. -/
theorem hashOf_setFields (user other : UserId) (fields : Fields) (c : Cache) :
    (c.setFields user fields).hashOf other = if other = user then fields else c.hashOf other := by
  unfold hashOf fields? setFields
  by_cases h : other = user
  · subst h
    simp
  · have hkey : balanceKey other ≠ balanceKey user := fun he => h (balanceKey_injective he)
    simp [Table.get?_insert_of_ne _ _ hkey, h]

/-- Setting the marker of a user leaves those of the others. -/
theorem isMarked_mark (user other : UserId) (c : Cache) :
    (c.mark user).isMarked other = if other = user then true else c.isMarked other := by
  unfold isMarked mark KeySet.add Table.contains
  by_cases h : other = user
  · subst h
    simp
  · have hkey : cachedKey other ≠ cachedKey user := fun he => h (cachedKey_injective he)
    simp [Table.get?_insert_of_ne _ _ hkey, h]

/-- Replacing an entry sets the hash of the user. -/
theorem hashOf_populate (user other : UserId) (balance : Balance) (c : Cache)
    (hservice : c.failing = false) :
    (c.populate user balance).2.hashOf other =
      if other = user then Fields.ofBalance balance else c.hashOf other := by
  have hset (d : Cache) : ((d.setFields user (Fields.ofBalance balance)).mark user).hashOf other =
      if other = user then Fields.ofBalance balance else d.hashOf other :=
    hashOf_setFields user other _ d
  simp only [populate, hservice, Bool.false_eq_true, if_false]
  by_cases hempty : balance.isEmpty = true
  · have hnone : balance = Table.empty := Table.eq_of_entries (List.isEmpty_iff.1 hempty)
    rw [if_pos hempty, hnone, ofBalance_empty]
    exact hashOf_remove user other c
  · rw [if_neg hempty, hset, hashOf_remove]
    split <;> rfl

/-- Replacing an entry sets the marker of the user. -/
theorem isMarked_populate (user other : UserId) (balance : Balance) (c : Cache)
    (hservice : c.failing = false) :
    (c.populate user balance).2.isMarked other =
      if other = user then true else c.isMarked other := by
  have hremoved := isMarked_remove user other c
  simp only [populate, hservice, Bool.false_eq_true, if_false]
  rw [isMarked_mark]
  by_cases h : other = user
  · rw [if_pos h, if_pos h]
  · rw [if_neg h, if_neg h]
    rw [if_neg h] at hremoved
    split
    · exact hremoved
    · exact hremoved

end ExpenseLedger.Cache
