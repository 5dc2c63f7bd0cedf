import ExpenseLedger.Table

/-!
# Look-ups in tables

Each operation on a table is described by what a look-up finds afterwards. The main statement is
`Table.ext_get?`: a table is determined by its look-ups.
-/

namespace ExpenseLedger.Table

variable {κ α : Type} [OrderedKey κ]

/-! ## Look-up and entries -/

/-- A key below every key of a list has no entry there. -/
theorem find_eq_none_of_lt (k : κ) (l : List (κ × α)) (h : ∀ e ∈ l, k < e.1) :
    find k l = none := by
  induction l with
  | nil => rfl
  | cons hd rest ih =>
    have hne : k ≠ hd.1 := fun heq => OrderedKey.irrefl k (by
      have := h hd List.mem_cons_self
      rwa [← heq] at this)
    simp only [find, if_neg hne]
    exact ih fun e he => h e (List.mem_cons_of_mem _ he)

/-- In an ascending list, a look-up finds exactly the entries. -/
theorem find_eq_some_iff (k : κ) (v : α) (l : List (κ × α)) (h : Ascending l) :
    find k l = some v ↔ (k, v) ∈ l := by
  induction l with
  | nil => simp [find]
  | cons hd rest ih =>
    obtain ⟨k', v'⟩ := hd
    have hhd := (List.pairwise_cons.1 h).1
    by_cases heq : k = k'
    · subst heq
      have hrest : (k, v) ∉ rest := fun he => OrderedKey.irrefl k (hhd _ he)
      simp [find, hrest, eq_comm]
    · simp [find, heq, ih (List.pairwise_cons.1 h).2]

/-- A look-up finds exactly the entries of the table. -/
theorem get?_eq_some_iff (t : Table κ α) (k : κ) (v : α) :
    t.get? k = some v ↔ (k, v) ∈ t.entries :=
  find_eq_some_iff k v t.entries t.ascending

/-- A key without an entry has no value. -/
theorem get?_eq_none_iff (t : Table κ α) (k : κ) :
    t.get? k = none ↔ ∀ v, (k, v) ∉ t.entries := by
  constructor
  · intro h v hv
    rw [(t.get?_eq_some_iff k v).2 hv] at h
    contradiction
  · intro h
    cases hg : t.get? k with
    | none => rfl
    | some v => exact absurd ((t.get?_eq_some_iff k v).1 hg) (h v)

/-- The empty map has no value anywhere. -/
@[simp] theorem get?_empty (k : κ) : (empty : Table κ α).get? k = none := rfl

/-! ## Writing and erasing -/

/-- A look-up after a write finds the written value at its key and the old value elsewhere. -/
theorem find_put (k q : κ) (v : α) (l : List (κ × α)) (h : Ascending l) :
    find q (put k v l) = if q = k then some v else find q l := by
  induction l with
  | nil => simp [put, find]
  | cons hd rest ih =>
    obtain ⟨k', v'⟩ := hd
    have hrest := (List.pairwise_cons.1 h).2
    unfold put
    split
    · simp only [find]
    · split
      · rename_i heq
        subst heq
        simp only [find]
        split <;> rfl
      · rename_i hnlt hne
        simp only [find, ih hrest]
        split
        · rename_i hq
          subst hq
          rw [if_neg (Ne.symm hne)]
        · rfl

/-- A write changes the value at its own key only. -/
theorem get?_insert (t : Table κ α) (k q : κ) (v : α) :
    (t.insert k v).get? q = if q = k then some v else t.get? q :=
  find_put k q v t.entries t.ascending

/-- The written value is found. -/
@[simp] theorem get?_insert_self (t : Table κ α) (k : κ) (v : α) :
    (t.insert k v).get? k = some v := by
  simp [get?_insert]

/-- Other keys keep their values. -/
theorem get?_insert_of_ne (t : Table κ α) {k q : κ} (v : α) (h : q ≠ k) :
    (t.insert k v).get? q = t.get? q := by
  simp [get?_insert, h]

/-- Erasing a key changes the value at that key only. -/
theorem get?_erase (t : Table κ α) (k q : κ) :
    (t.erase k).get? q = if q = k then none else t.get? q := by
  have hmem : ∀ v, (q, v) ∈ (t.erase k).entries ↔ (q, v) ∈ t.entries ∧ q ≠ k := by
    intro v
    simp [erase]
  split
  · rename_i heq
    exact (get?_eq_none_iff _ _).2 fun v hv => ((hmem v).1 hv).2 heq
  · rename_i hne
    cases hg : t.get? q with
    | none =>
      exact (get?_eq_none_iff _ _).2 fun v hv => (get?_eq_none_iff t q).1 hg v ((hmem v).1 hv).1
    | some v =>
      exact (get?_eq_some_iff _ _ _).2 ((hmem v).2 ⟨(get?_eq_some_iff t q v).1 hg, hne⟩)

/-- An erased key has no value. -/
@[simp] theorem get?_erase_self (t : Table κ α) (k : κ) : (t.erase k).get? k = none := by
  simp [get?_erase]

/-- Other keys keep their values. -/
theorem get?_erase_of_ne (t : Table κ α) {k q : κ} (h : q ≠ k) :
    (t.erase k).get? q = t.get? q := by
  simp [get?_erase, h]

/-- A key is contained exactly when it has a value. -/
theorem contains_iff (t : Table κ α) (k : κ) : t.contains k = true ↔ ∃ v, t.get? k = some v := by
  simp [contains, Option.isSome_iff_exists]

/-- The keys are those that are contained. -/
theorem mem_keys_iff (t : Table κ α) (k : κ) : k ∈ t.keys ↔ t.contains k = true := by
  rw [contains_iff, keys, List.mem_map]
  constructor
  · rintro ⟨⟨k', v⟩, he, rfl⟩
    exact ⟨v, (t.get?_eq_some_iff k' v).2 he⟩
  · rintro ⟨v, hv⟩
    exact ⟨(k, v), (t.get?_eq_some_iff k v).1 hv, rfl⟩

/-- The default stands in for a missing value only. -/
theorem getD_eq (t : Table κ α) (k : κ) (d : α) : t.getD k d = (t.get? k).getD d := rfl

/-! ## Tables are determined by their look-ups -/

/-- Ascending lists with the same entries are equal. -/
theorem eq_of_ascending_of_mem (l m : List (κ × α)) (hl : Ascending l) (hm : Ascending m)
    (h : ∀ e, e ∈ l ↔ e ∈ m) : l = m := by
  induction l generalizing m with
  | nil =>
    cases m with
    | nil => rfl
    | cons b m => exact absurd ((h b).2 List.mem_cons_self) (by simp)
  | cons a l ih =>
    cases m with
    | nil => exact absurd ((h a).1 List.mem_cons_self) (by simp)
    | cons b m =>
      have hal := (List.pairwise_cons.1 hl).1
      have hbm := (List.pairwise_cons.1 hm).1
      have hab : a = b := by
        rcases List.mem_cons.1 ((h a).1 List.mem_cons_self) with heq | ham
        · exact heq
        · rcases List.mem_cons.1 ((h b).2 List.mem_cons_self) with heq | hbl
          · exact heq.symm
          · exact absurd (OrderedKey.trans (hbm a ham) (hal b hbl)) (OrderedKey.irrefl _)
      subst hab
      congr 1
      refine ih m (List.pairwise_cons.1 hl).2 (List.pairwise_cons.1 hm).2 fun e => ?_
      constructor
      · intro he
        rcases List.mem_cons.1 ((h e).1 (List.mem_cons_of_mem _ he)) with heq | hem
        · exact absurd (heq ▸ hal e he) (OrderedKey.irrefl _)
        · exact hem
      · intro he
        rcases List.mem_cons.1 ((h e).2 (List.mem_cons_of_mem _ he)) with heq | hel
        · exact absurd (heq ▸ hbm e he) (OrderedKey.irrefl _)
        · exact hel

/-- Tables with the same look-ups are equal. -/
theorem ext_get? {s t : Table κ α} (h : ∀ k, s.get? k = t.get? k) : s = t := by
  refine eq_of_entries (eq_of_ascending_of_mem _ _ s.ascending t.ascending fun e => ?_)
  obtain ⟨k, v⟩ := e
  rw [← get?_eq_some_iff, ← get?_eq_some_iff, h]

/-- Erasing a key that has no value changes nothing. -/
theorem erase_of_get?_eq_none (t : Table κ α) (k : κ) (h : t.get? k = none) : t.erase k = t := by
  refine ext_get? fun q => ?_
  rw [get?_erase]
  split
  · rename_i hq
    rw [hq, h]
  · rfl

/-- Writing the value that a key has changes nothing. -/
theorem insert_of_get?_eq_some (t : Table κ α) (k : κ) (v : α) (h : t.get? k = some v) :
    t.insert k v = t := by
  refine ext_get? fun q => ?_
  rw [get?_insert]
  split
  · rename_i hq
    rw [hq, h]
  · rfl

/-! ## Tables from lists -/

/-- Adding entries to a table leaves the keys alone that the list does not name. -/
theorem get?_foldl_insert_of_not_mem (l : List (κ × α)) (t : Table κ α) (k : κ)
    (h : ∀ v, (k, v) ∉ l) :
    (l.foldl (fun t e => t.insert e.1 e.2) t).get? k = t.get? k := by
  induction l generalizing t with
  | nil => rfl
  | cons e l ih =>
    have hne : k ≠ e.1 := fun heq => h e.2 (by rw [heq]; exact List.mem_cons_self)
    rw [List.foldl_cons, ih _ fun v hv => h v (List.mem_cons_of_mem _ hv),
      get?_insert_of_ne _ _ hne]

/-- Adding entries to a table makes an entry found whose key has no other value in the list. -/
theorem get?_foldl_insert_of_mem (l : List (κ × α)) (t : Table κ α) (k : κ) (v : α)
    (hsole : ∀ w, (k, w) ∈ l → w = v) (h : (k, v) ∈ l) :
    (l.foldl (fun t e => t.insert e.1 e.2) t).get? k = some v := by
  induction l generalizing t with
  | nil => simp at h
  | cons e l ih =>
    rw [List.foldl_cons]
    by_cases hlater : (k, v) ∈ l
    · exact ih _ (fun w hw => hsole w (List.mem_cons_of_mem _ hw)) hlater
    · -- No later entry has the key, for it would have the same value.
      have hnone : ∀ w, (k, w) ∉ l := fun w hw =>
        hlater (hsole w (List.mem_cons_of_mem _ hw) ▸ hw)
      rcases List.mem_cons.1 h with heq | hmem
      · subst heq
        rw [get?_foldl_insert_of_not_mem _ _ _ hnone, get?_insert_self]
      · exact absurd hmem hlater

/-- A table made from a list whose entries with one key have one value holds exactly the entries of
the list. -/
theorem get?_ofList_eq_some_iff_of_sole (l : List (κ × α)) (k : κ) (v : α)
    (hsole : ∀ w w', (k, w) ∈ l → (k, w') ∈ l → w = w') :
    (ofList l).get? k = some v ↔ (k, v) ∈ l := by
  constructor
  · intro h
    by_cases hk : ∀ w, (k, w) ∉ l
    · rw [ofList, get?_foldl_insert_of_not_mem _ _ _ hk] at h
      simp at h
    · obtain ⟨w, hw⟩ := Classical.not_forall.1 hk
      have hw := Classical.not_not.1 hw
      rw [ofList, get?_foldl_insert_of_mem _ _ _ w (fun w' hw' => hsole w' w hw' hw) hw] at h
      cases h
      exact hw
  · exact fun h => get?_foldl_insert_of_mem l empty k v (fun w hw => hsole w v hw h) h

/-- A table made from a list with distinct keys holds exactly the entries of the list. -/
theorem get?_ofList_eq_some_iff (l : List (κ × α)) (hd : (l.map (·.1)).Nodup) (k : κ) (v : α) :
    (ofList l).get? k = some v ↔ (k, v) ∈ l := by
  have hne : l.Pairwise fun e f => e.1 ≠ f.1 := List.pairwise_map.1 hd
  have hsame : ∀ ⦃e⦄, e ∈ l → ∀ ⦃f⦄, f ∈ l → e.1 = f.1 → e.2 = f.2 :=
    List.Pairwise.forall_of_forall_of_flip (fun _ _ _ => rfl)
      (hne.imp fun h heq => absurd heq h) (hne.imp fun h heq => absurd heq.symm h)
  exact get?_ofList_eq_some_iff_of_sole l k v fun w w' hw hw' => hsame hw hw' rfl

/-- Keys ascend strictly. -/
theorem pairwise_keys (t : Table κ α) : t.keys.Pairwise (· < ·) :=
  List.pairwise_map.2 t.ascending

/-- Distinct keys are what an ascending list has. -/
theorem nodup_keys (t : Table κ α) : t.keys.Nodup := by
  refine List.pairwise_map.2 (t.ascending.imp fun {a b} h heq => ?_)
  rw [heq] at h
  exact OrderedKey.irrefl _ h

/-- A table is rebuilt from its entries. -/
theorem ofList_entries (t : Table κ α) : ofList t.entries = t := by
  refine ext_get? fun k => Option.ext fun v => ?_
  rw [get?_ofList_eq_some_iff _ t.nodup_keys, get?_eq_some_iff]

end ExpenseLedger.Table
