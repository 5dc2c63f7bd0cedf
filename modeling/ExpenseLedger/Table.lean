/-!
# Finite maps in key order

A `Table κ α` is a finite map kept as a list of entries whose keys ascend strictly. The list is
determined by the map, so two tables with the same look-ups are equal, and the order in which
entries were added leaves no trace.
-/

namespace ExpenseLedger

/-! ## Keys -/

/-- Keys whose `<` is a strict total order. -/
class OrderedKey (κ : Type) extends LT κ where
  /-- The order can be decided. -/
  decidableLT : DecidableRel (α := κ) (· < ·)
  /-- Equality of keys can be decided. -/
  decidableEq : DecidableEq κ
  /-- No key is below itself. -/
  irrefl : ∀ a : κ, ¬ a < a
  /-- The order is transitive. -/
  trans : ∀ {a b c : κ}, a < b → b < c → a < c
  /-- Any two keys are comparable. -/
  total : ∀ a b : κ, a < b ∨ a = b ∨ b < a

instance OrderedKey.decidableBelow (κ : Type) [OrderedKey κ] :
    DecidableRel (α := κ) (· < ·) :=
  OrderedKey.decidableLT

instance (priority := low) (κ : Type) [OrderedKey κ] : DecidableEq κ :=
  OrderedKey.decidableEq

/-- Texts are ordered by their code points. -/
instance : OrderedKey String where
  decidableLT := fun a b => inferInstanceAs (Decidable (a < b))
  decidableEq := inferInstance
  irrefl := String.lt_irrefl
  trans := String.lt_trans
  total a b := by
    by_cases hab : a < b
    · exact .inl hab
    · by_cases hba : b < a
      · exact .inr (.inr hba)
      · exact .inr (.inl (String.le_antisymm (String.not_lt.1 hba) (String.not_lt.1 hab)))

/-- Words are ordered as numbers. -/
instance OrderedKey.ofWord : OrderedKey UInt64 where
  decidableLT := fun a b => inferInstanceAs (Decidable (a < b))
  decidableEq := inferInstance
  irrefl := UInt64.lt_irrefl
  trans := UInt64.lt_trans
  total a b := by
    simp only [UInt64.lt_iff_toNat_lt, ← UInt64.toNat_inj]
    omega

/-! ## Entry lists -/

variable {κ α : Type} [OrderedKey κ]

/-- The value that the first entry for `k` holds. -/
def Table.find (k : κ) : List (κ × α) → Option α
  | [] => none
  | (k', v) :: rest => if k = k' then some v else Table.find k rest

/-- Writes `v` for `k` at its place in an ascending list. -/
def Table.put (k : κ) (v : α) : List (κ × α) → List (κ × α)
  | [] => [(k, v)]
  | (k', v') :: rest =>
    if k < k' then (k, v) :: (k', v') :: rest
    else if k = k' then (k, v) :: rest
    else (k', v') :: Table.put k v rest

/-- Keys ascend strictly along the list. -/
def Table.Ascending (l : List (κ × α)) : Prop :=
  l.Pairwise fun a b => a.1 < b.1

/-- An entry of a list after a write is the written one or an old one. -/
theorem Table.mem_put (k : κ) (v : α) (l : List (κ × α)) (e : κ × α)
    (h : e ∈ Table.put k v l) : e = (k, v) ∨ e ∈ l := by
  induction l with
  | nil => simpa [Table.put] using h
  | cons hd rest ih =>
    obtain ⟨k', v'⟩ := hd
    unfold Table.put at h
    split at h
    · simpa using h
    · split at h
      · rcases List.mem_cons.1 h with h | h
        · exact .inl h
        · exact .inr (List.mem_cons_of_mem _ h)
      · rcases List.mem_cons.1 h with h | h
        · exact .inr (h ▸ List.mem_cons_self)
        · rcases ih h with h | h
          · exact .inl h
          · exact .inr (List.mem_cons_of_mem _ h)

/-- A write keeps the keys ascending. -/
theorem Table.ascending_put (k : κ) (v : α) (l : List (κ × α)) (h : Table.Ascending l) :
    Table.Ascending (Table.put k v l) := by
  induction l with
  | nil => simp [Table.put, Table.Ascending]
  | cons hd rest ih =>
    obtain ⟨k', v'⟩ := hd
    have hhd := (List.pairwise_cons.1 h).1
    have htl := (List.pairwise_cons.1 h).2
    unfold Table.put
    split
    · rename_i hlt
      refine List.pairwise_cons.2 ⟨fun e he => ?_, h⟩
      rcases List.mem_cons.1 he with rfl | he
      · exact hlt
      · exact OrderedKey.trans hlt (hhd e he)
    · split
      · rename_i heq
        subst heq
        exact List.pairwise_cons.2 ⟨hhd, htl⟩
      · rename_i hnlt hne
        refine List.pairwise_cons.2 ⟨fun e he => ?_, ih htl⟩
        rcases Table.mem_put k v rest e he with rfl | he
        · rcases OrderedKey.total k k' with h | h | h
          · exact absurd h hnlt
          · exact absurd h hne
          · exact h
        · exact hhd e he

/-! ## Tables -/

/-- A finite map from `κ` to `α`. -/
structure Table (κ α : Type) [OrderedKey κ] where
  /-- The entries, in ascending order of their keys. -/
  entries : List (κ × α)
  /-- Keys ascend strictly, so each key has one entry. -/
  ascending : Table.Ascending entries

namespace Table

/-- Tables with the same entries are equal. -/
theorem eq_of_entries {s t : Table κ α} (h : s.entries = t.entries) : s = t := by
  cases s
  cases t
  simpa using h

instance [DecidableEq α] : DecidableEq (Table κ α) := fun s t =>
  if h : s.entries = t.entries then isTrue (eq_of_entries h)
  else isFalse fun hst => h (hst ▸ rfl)

/-- The map without entries. -/
def empty : Table κ α := ⟨[], List.Pairwise.nil⟩

instance : EmptyCollection (Table κ α) := ⟨empty⟩

instance : Inhabited (Table κ α) := ⟨empty⟩

/-- The value at a key, if it has one. -/
def get? (t : Table κ α) (k : κ) : Option α := find k t.entries

/-- The value at a key, or a default. -/
def getD (t : Table κ α) (k : κ) (default : α) : α := (t.get? k).getD default

/-- Whether a key has a value. -/
def contains (t : Table κ α) (k : κ) : Bool := (t.get? k).isSome

/-- Whether the map has no entry. -/
def isEmpty (t : Table κ α) : Bool := t.entries.isEmpty

/-- Gives a key a value, in place of the one it may have. -/
def insert (t : Table κ α) (k : κ) (v : α) : Table κ α :=
  ⟨put k v t.entries, ascending_put k v t.entries t.ascending⟩

/-- Takes a key out of the map. -/
def erase (t : Table κ α) (k : κ) : Table κ α :=
  ⟨t.entries.filter fun e => e.1 ≠ k, t.ascending.filter _⟩

/-- The map of a list of entries, of which a later one replaces an earlier one. -/
def ofList (l : List (κ × α)) : Table κ α :=
  l.foldl (fun t e => t.insert e.1 e.2) empty

/-- The keys, ascending. -/
def keys (t : Table κ α) : List κ := t.entries.map (·.1)

/-- The values, in the order of their keys. -/
def values (t : Table κ α) : List α := t.entries.map (·.2)

end Table

/-! ## Sets of keys -/

/-- A finite set of keys, kept ascending. -/
abbrev KeySet (κ : Type) [OrderedKey κ] : Type := Table κ Unit

/-- The set with one more key. -/
def KeySet.add (s : KeySet κ) (k : κ) : KeySet κ := s.insert k ()

/-- The set with all keys of a list added. -/
def KeySet.addAll (s : KeySet κ) (ks : List κ) : KeySet κ := ks.foldl KeySet.add s

end ExpenseLedger
