import ExpenseLedger.Proofs.Cache.Grammar
/-!
# Fields in any order

Nothing is known of the order in which the fields of a hash are visited. Whether they can be read
does not depend on it. What they are read as does, where two names spell the same identifier: the
field that is visited later counts. Main statement: `Cache.settled_iff`, hence an order does not
matter exactly if such fields hold the same amount.
-/

namespace ExpenseLedger.Cache

/-! ## Fields that all orders agree on -/

/-- Nothing is read from the fields, or those whose names spell the same identifier hold the same
amount. -/
def Fields.Settled (fields : Fields) : Prop := Unreadable fields ∨ fields.Coherent

/-- **Fields are read in all orders or in none**, and settled ones are read alike. -/
theorem decodeIn_cases (order order' : Fields.Order) (fields : Fields) :
    (Unreadable fields ∧ (∃ e, decodeIn order fields = .error e) ∧
      ∃ e, decodeIn order' fields = .error e) ∨
    ∃ b b', decodeIn order fields = .ok b ∧ decodeIn order' fields = .ok b' ∧
      (fields.Settled → b = b') := by
  by_cases hu : Unreadable fields
  · exact .inl ⟨hu, (decodeIn_eq_error_iff order fields).2 hu,
      (decodeIn_eq_error_iff order' fields).2 hu⟩
  · obtain ⟨b, hb⟩ := exists_decodeIn order hu
    obtain ⟨b', hb'⟩ := exists_decodeIn order' hu
    refine .inr ⟨b, b', hb, hb', fun hsettled => ?_⟩
    have hcoherent : fields.Coherent := hsettled.resolve_left hu
    refine Table.ext_get? fun user => Option.ext fun n => ?_
    rw [hcoherent.get?_decodeIn hb, hcoherent.get?_decodeIn hb']

/-! ## The order that visits a field last -/

/-- The order in which the field of a name comes after all others, if there is one. -/
def Fields.Order.last (name : String) : Fields.Order where
  visit fields :=
    match fields.get? name with
    | none => fields.entries
    | some value => (fields.erase name).entries ++ [(name, value)]
  perm fields := by
    split
    · exact .refl _
    · rename_i value hvalue
      have herased : (name, value) ∉ (fields.erase name).entries := by
        rw [← Table.get?_eq_some_iff, Table.get?_erase_self]
        simp
      refine (List.perm_ext_iff_of_nodup ?_ (.of_map _ fields.nodup_keys)).2 fun p => ?_
      · rw [← List.concat_eq_append]
        exact (List.Nodup.of_map _ (fields.erase name).nodup_keys).concat herased
      · obtain ⟨name', value'⟩ := p
        rw [List.mem_append, List.mem_singleton, ← Table.get?_eq_some_iff,
          ← Table.get?_eq_some_iff, Table.get?_erase]
        by_cases hname : name' = name
        · subst hname
          simp [hvalue, eq_comm]
        · simp [hname]

/-- **The field that is visited last counts.** -/
theorem get?_decodeIn_last {fields : Fields} {name value : String}
    (hvalue : fields.get? name = some value) {user : UserId} {n : Int}
    (hread : readField name value = .ok (user, n)) {b : Balance}
    (hb : decodeIn (.last name) fields = .ok b) : b.get? user = some n := by
  obtain ⟨es, hes, rfl⟩ := (readFields_eq_ok_iff _ _ _).1 hb
  have hvisit : (Fields.Order.last name).visit fields =
      (fields.erase name).entries ++ [(name, value)] := by
    simp only [Fields.Order.last, hvalue]
  rw [hvisit, List.map_append] at hes
  obtain ⟨before, after, rfl, -, hafter⟩ := List.map_eq_append_iff.1 hes.symm
  have hlast : after = [(user, n)] := by
    rw [List.map_singleton, hread] at hafter
    exact List.map_injective_iff.2 (fun _ _ => Except.ok.inj) hafter
  rw [hlast, List.foldl_append, List.foldl_cons, List.foldl_nil, Table.get?_insert_self]

/-- **Fields are read alike in all orders exactly if they are settled.** -/
theorem settled_iff (fields : Fields) :
    fields.Settled ↔ ∀ order order' b b', decodeIn order fields = .ok b →
      decodeIn order' fields = .ok b' → b = b' := by
  constructor
  · intro hsettled order order' b b' hb hb'
    rcases decodeIn_cases order order' fields with ⟨-, ⟨e, he⟩, -⟩ | ⟨c, c', hc, hc', heq⟩
    · rw [hb] at he
      contradiction
    · rw [hb] at hc
      rw [hb'] at hc'
      cases hc
      cases hc'
      exact heq hsettled
  · intro hall
    refine or_iff_not_imp_left.2 fun hu => ?_
    intro name value name' value' hvalue hvalue' a n n' hspells hspells' hdenotes hdenotes'
    -- Each of the two fields is read last in an order of its own.
    obtain ⟨b, hb⟩ := exists_decodeIn (.last name) hu
    obtain ⟨b', hb'⟩ := exists_decodeIn (.last name') hu
    have hn := get?_decodeIn_last hvalue
      ((readField_eq_ok_iff_spells name value (⟨a⟩, n)).2 ⟨hspells, hdenotes⟩) hb
    have hn' := get?_decodeIn_last hvalue'
      ((readField_eq_ok_iff_spells name' value' (⟨a⟩, n')).2 ⟨hspells', hdenotes'⟩) hb'
    rw [hall _ _ b b' hb hb', hn'] at hn
    exact (Option.some.inj hn).symm

/-- The fields of a balance are settled. -/
theorem Fields.settled_ofBalance (b : Balance) (h : b.AllStorable) :
    (Fields.ofBalance b).Settled := by
  refine (settled_iff _).2 fun order order' m m' hm hm' => ?_
  rw [decodeIn_ofBalance order b h] at hm
  rw [decodeIn_ofBalance order' b h] at hm'
  cases hm
  cases hm'
  rfl

/-! ## Entries that all orders agree on -/

/-- All entries have settled fields. -/
def Settled (c : Cache) : Prop :=
  ∀ user fields, c.entryOf user = some fields → fields.Settled

/-- Dropping an entry leaves the others. -/
theorem Settled.remove {c : Cache} (h : c.Settled) (user : UserId) : (c.remove user).Settled := by
  intro other fields hentry
  rw [entryOf_remove] at hentry
  split at hentry
  · contradiction
  · exact h other fields hentry

/-- A balance that is put in has settled fields. -/
theorem Settled.populate {c : Cache} (h : c.Settled) (user : UserId) (balance : Balance)
    (hbalance : balance.AllStorable) : (c.populate user balance).2.Settled := by
  intro other fields hentry
  rcases populate_cases user balance c with ⟨-, -, hsame⟩ | ⟨-, -, -, hentries⟩
  · rw [hsame] at hentry
    exact h other fields hentry
  · rw [hentries] at hentry
    split at hentry
    · cases hentry
      exact Fields.settled_ofBalance balance hbalance
    · exact h other fields hentry

end ExpenseLedger.Cache
