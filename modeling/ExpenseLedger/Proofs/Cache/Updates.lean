import ExpenseLedger.Proofs.Cache.Entries
import ExpenseLedger.Proofs.Cache.Spelling
/-!
# Updates of any hash

A hash can hold anything: names that are nobody's, texts that are no amounts, amounts with blanks
around them. An update reads the fields of its counterparties only. Either all of them can be read
and take what is to be added to them, or nothing is changed. Main statements:

* `Cache.exists_error_addDeltas_iff`: what keeps an update from succeeding;
* `Cache.get?_addDeltas`: what the fields hold after an update;
* `Cache.applyDeltas_atomic`: updates of any cache.
-/

namespace ExpenseLedger.Cache

variable {fields next : Fields} {ds : List (UserId × Int)}

/-- What keeps amounts from being added to the field of a counterparty. -/
inductive Obstacle (fields : Fields) (ds : List (UserId × Int)) (other : UserId) : Prop where
  /-- The field holds no amount. Blanks around one are not tolerated. -/
  | illegible (raw : String) (flaw : Text.IntegerFlaw) (hraw : fields.get? other.text = some raw)
      (hflaw : Amount.ofText raw = .error flaw)
  /-- A sum on the way leaves the storable range. -/
  | overflow (amount d : Int) (before after : List (UserId × Int))
      (hamount : fieldAmount fields other.text = .ok amount)
      (hds : ds = before ++ (other, d) :: after)
      (hsum : ¬ Amount.Storable (amount + Ledger.sumToward other before + d))

/-! ## One amount -/

/-- There is an obstacle when the field gives no amount, or one that does not take what is added. -/
theorem obstacle_iff (fields : Fields) (ds : List (UserId × Int)) (other : UserId) :
    Obstacle fields ds other ↔
      (∃ e, fieldAmount fields other.text = .error e) ∨
        ∃ amount d before after, fieldAmount fields other.text = .ok amount ∧
          ds = before ++ (other, d) :: after ∧
          ¬ Amount.Storable (amount + Ledger.sumToward other before + d) := by
  constructor
  · rintro (⟨raw, flaw, hraw, hflaw⟩ | ⟨amount, d, before, after, hamount, hds, hsum⟩)
    · refine .inl ⟨.fieldNotInteger other.text flaw, ?_⟩
      unfold fieldAmount
      rw [hraw]
      dsimp only
      rw [hflaw]
    · exact .inr ⟨amount, d, before, after, hamount, hds, hsum⟩
  · rintro (⟨e, he⟩ | ⟨amount, d, before, after, hamount, hds, hsum⟩)
    · unfold fieldAmount at he
      cases hraw : fields.get? other.text with
      | none =>
        rw [hraw] at he
        contradiction
      | some raw =>
        rw [hraw] at he
        dsimp only at he
        cases hflaw : Amount.ofText raw with
        | error flaw => exact .illegible raw flaw hraw hflaw
        | ok amount =>
          rw [hflaw] at he
          contradiction
    · exact .overflow amount d before after hamount hds hsum

/-- Every counterparty has what is meant for it added to its amount, be it nothing. -/
theorem fieldAmount_addDelta {d : UserId × Int} (h : addDelta fields d = .ok next)
    (other : UserId) : fieldAmount next other.text =
      (fieldAmount fields other.text).map (· + Ledger.sumToward other [d]) := by
  obtain ⟨a, ha, hstorable, rfl⟩ := (addDelta_eq_ok_iff fields next d).1 h
  by_cases hother : d.1 = other
  · subst hother
    have hsum : Ledger.sumToward d.1 [d] = d.2 := by simp [Ledger.sumToward]
    rw [ha, hsum]
    unfold fieldAmount
    rw [Table.get?_insert_self]
    dsimp only
    rw [Amount.ofText_text _ hstorable]
    rfl
  · have hsum : Ledger.sumToward other [d] = 0 := by simp [Ledger.sumToward, hother]
    have hname : other.text ≠ d.1.text := fun heq => hother (UserId.text_injective heq).symm
    rw [hsum]
    unfold fieldAmount
    rw [Table.get?_insert_of_ne _ _ hname]
    cases fields.get? other.text with
    | none => rfl
    | some raw =>
      cases hraw : Amount.ofText raw with
      | error flaw => simp [hraw, Except.map]
      | ok amount => simp [hraw, Except.map]

/-- An amount that cannot be added meets with an obstacle. -/
theorem obstacle_of_addDelta {d : UserId × Int} {e : Error} (h : addDelta fields d = .error e) :
    Obstacle fields (d :: ds) d.1 := by
  rw [obstacle_iff]
  cases hamount : fieldAmount fields d.1.text with
  | error e' => exact .inl ⟨e', rfl⟩
  | ok amount =>
    refine .inr ⟨amount, d.2, [], ds, rfl, rfl, fun hsum => ?_⟩
    have hstorable : Amount.Storable (amount + d.2) := by simpa [Ledger.sumToward] using hsum
    have hok := (addDelta_eq_ok_iff fields _ d).2 ⟨amount, hamount, hstorable, rfl⟩
    rw [hok] at h
    contradiction

/-- Once an amount has been added, the obstacles to adding the others are those that there were to
adding all. -/
theorem obstacle_cons_iff {d : UserId × Int} (h : addDelta fields d = .ok next) (other : UserId) :
    Obstacle fields (d :: ds) other ↔ Obstacle next ds other := by
  rw [obstacle_iff, obstacle_iff, fieldAmount_addDelta h other]
  cases hamount : fieldAmount fields other.text with
  | error e => simp [Except.map]
  | ok amount =>
    have hsum (before : List (UserId × Int)) : amount + Ledger.sumToward other (d :: before) =
        amount + Ledger.sumToward other [d] + Ledger.sumToward other before := by
      rw [Int.add_assoc, ← Ledger.sumToward_append, List.singleton_append]
    constructor
    · rintro (⟨e, he⟩ | ⟨_, c, before, after, ⟨⟩, hds, hoverflow⟩)
      · contradiction
      · rcases before with _ | ⟨_, before⟩
        · -- The first amount has been added, so its sum can be stored.
          cases hds
          obtain ⟨a, ha, hstorable, -⟩ := (addDelta_eq_ok_iff fields next _).1 h
          cases hamount.symm.trans ha
          exact absurd (by simpa [Ledger.sumToward] using hstorable) hoverflow
        · cases hds
          rw [hsum] at hoverflow
          exact .inr ⟨_, c, before, after, rfl, rfl, hoverflow⟩
    · rintro (⟨e, he⟩ | ⟨_, c, before, after, ⟨⟩, rfl, hoverflow⟩)
      · contradiction
      · rw [← hsum] at hoverflow
        exact .inr ⟨amount, c, d :: before, after, rfl, rfl, hoverflow⟩

/-! ## Several amounts -/

/-- **What keeps an update from succeeding**, wherever in the list it comes up. -/
theorem exists_error_addDeltas_iff (fields : Fields) (ds : List (UserId × Int)) :
    (∃ e, addDeltas fields ds = .error e) ↔
      ∃ other, Ledger.Named other ds ∧ Obstacle fields ds other := by
  induction ds generalizing fields with
  | nil => simp [addDeltas, Ledger.Named]
  | cons d ds ih =>
    unfold addDeltas
    cases hd : addDelta fields d with
    | error e =>
      have hnamed : Ledger.Named d.1 (d :: ds) := (Ledger.named_cons_iff _ _ _).2 (.inl rfl)
      exact ⟨fun _ => ⟨d.1, hnamed, obstacle_of_addDelta hd⟩, fun _ => ⟨e, rfl⟩⟩
    | ok next =>
      dsimp only
      rw [ih]
      constructor
      · rintro ⟨other, hnamed, hobstacle⟩
        exact ⟨other, (Ledger.named_cons_iff _ _ _).2 (.inr hnamed),
          (obstacle_cons_iff hd other).2 hobstacle⟩
      · rintro ⟨other, hnamed, hobstacle⟩
        rw [obstacle_cons_iff hd other] at hobstacle
        refine ⟨other, ?_, hobstacle⟩
        -- The field of the first counterparty is legible after the first amount, so what stands in
        -- the way is another amount for the same counterparty.
        rcases (Ledger.named_cons_iff _ _ _).1 hnamed with rfl | hlater
        · obtain ⟨a, ha, -, -⟩ := (addDelta_eq_ok_iff fields next d).1 hd
          rw [obstacle_iff, fieldAmount_addDelta hd, ha] at hobstacle
          rcases hobstacle with ⟨e, he⟩ | ⟨_, c, before, after, -, rfl, -⟩
          · contradiction
          · exact ⟨(d.1, c), by simp, rfl⟩
        · exact hlater

/-- **What the fields hold after an update.** -/
theorem get?_addDeltas (h : addDeltas fields ds = .ok next) :
    (∀ other, Ledger.Named other ds → ∃ old, fieldAmount fields other.text = .ok old ∧
      next.get? other.text = some (Amount.text (old + Ledger.sumToward other ds))) ∧
    ∀ name, (∀ other, Ledger.Named other ds → other.text ≠ name) →
      next.get? name = fields.get? name := by
  induction ds generalizing fields with
  | nil =>
    cases h
    exact ⟨fun _ ⟨_, hc, _⟩ => absurd hc List.not_mem_nil, fun _ _ => rfl⟩
  | cons d ds ih =>
    unfold addDeltas at h
    cases hd : addDelta fields d with
    | error e =>
      rw [hd] at h
      contradiction
    | ok mid =>
      rw [hd] at h
      obtain ⟨hnamed, hothers⟩ := ih h
      obtain ⟨a, ha, -, hmid⟩ := (addDelta_eq_ok_iff fields mid d).1 hd
      have hsum (other : UserId) : Ledger.sumToward other (d :: ds) =
          Ledger.sumToward other [d] + Ledger.sumToward other ds :=
        Ledger.sumToward_append other [d] ds
      refine ⟨fun other hother => ?_, fun name hname => ?_⟩
      · by_cases hlater : Ledger.Named other ds
        · obtain ⟨old, hold, hget⟩ := hnamed other hlater
          rw [fieldAmount_addDelta hd other] at hold
          cases hbefore : fieldAmount fields other.text with
          | error e =>
            rw [hbefore] at hold
            contradiction
          | ok before =>
            rw [hbefore] at hold
            cases hold
            exact ⟨before, rfl, by rw [hget, hsum, ← Int.add_assoc]⟩
        · -- The first amount is the only one for this counterparty.
          obtain rfl : d.1 = other := ((Ledger.named_cons_iff _ _ _).1 hother).resolve_right hlater
          have hrest := hothers d.1.text fun c hc heq => hlater (UserId.text_injective heq ▸ hc)
          refine ⟨a, ha, ?_⟩
          rw [hrest, hmid, Table.get?_insert_self, hsum, Ledger.sumToward_eq_zero _ ds hlater]
          simp [Ledger.sumToward]
      · have hfirst := hname d.1 ((Ledger.named_cons_iff _ _ _).2 (.inl rfl))
        have hlater (c : UserId) (hc : Ledger.Named c ds) : c.text ≠ name :=
          hname c ((Ledger.named_cons_iff _ _ _).2 (.inr hc))
        rw [hothers name hlater, hmid]
        exact Table.get?_insert_of_ne _ _ hfirst.symm

/-! ## The cache -/

/-- Both caches hold the same. An absent hash counts as an empty one. -/
structure SameContent (c c' : Cache) : Prop where
  /-- The same markers are set. -/
  markers : c'.markers = c.markers
  /-- Every hash has the same fields. -/
  hashes : ∀ key, (c'.hashes.get? key).getD Table.empty = (c.hashes.get? key).getD Table.empty

/-- Amounts have been added to fields of a user's hash, and nothing else has been done. -/
structure Updated (user : UserId) (ds : List (UserId × Int)) (c c' : Cache) : Prop where
  /-- The same markers are set. -/
  markers : c'.markers = c.markers
  /-- All other hashes are the same. -/
  others : ∀ key, key ≠ balanceKey user → c'.hashes.get? key = c.hashes.get? key
  /-- Every counterparty's field holds what it held and all that is meant for it. -/
  named : ∀ other, Ledger.Named other ds →
    ∃ old, fieldAmount (c.hashOf user) other.text = .ok old ∧
      (c'.hashOf user).get? other.text =
        some (Amount.text (old + Ledger.sumToward other ds))
  /-- All other fields of the hash are the same. -/
  unnamed : ∀ name, (∀ other, Ledger.Named other ds → other.text ≠ name) →
    (c'.hashOf user).get? name = (c.hashOf user).get? name

/-- Storing a hash again changes nothing, but that it need not have been there. -/
theorem sameContent_setFields (user : UserId) (c : Cache) :
    SameContent c (c.setFields user (c.hashOf user)) where
  markers := rfl
  hashes key := by
    unfold setFields hashOf fields?
    by_cases hkey : key = balanceKey user
    · subst hkey
      rw [Table.get?_insert_self, Option.getD_some]
    · rw [Table.get?_insert_of_ne _ _ hkey]

/-- The hash of a user is replaced by one with the amounts added. -/
theorem updated_setFields (user : UserId) {c : Cache}
    (h : addDeltas (c.hashOf user) ds = .ok next) :
    Updated user ds c (c.setFields user next) where
  markers := rfl
  others _ hkey := Table.get?_insert_of_ne _ _ hkey
  named := by
    rw [hashOf_setFields, if_pos rfl]
    exact (get?_addDeltas h).1
  unnamed := by
    rw [hashOf_setFields, if_pos rfl]
    exact (get?_addDeltas h).2

/-- Amounts are added to the balance that a hash in standard spelling holds. -/
theorem decode_addDeltas (user : UserId) {m : Balance} (hstandard : Standard fields)
    (hm : decode fields = .ok m) (h : addDeltas fields ds = .ok next) :
    ∃ m', decode next = .ok m' ∧ ∀ other, m'.get? other =
      if Ledger.Named other ds then some (m.getD other 0 + Ledger.sumToward other ds)
      else m.get? other := by
  obtain ⟨m', hadd, hspells⟩ := (spells_of_decode fields m hstandard hm).addDeltas user ds h
  exact ⟨m', hspells.decode_eq, Ledger.get?_addAll user m m' ds hadd⟩

/-- What an update of a cache in service does. -/
theorem applyDeltas_of_inService (user : UserId) (ds : List (UserId × Int)) {c : Cache}
    (hservice : c.failing = false) (hupdates : c.failingUpdates = false) :
    c.applyDeltas user ds =
      if c.isMarked user then
        match addDeltas (c.hashOf user) ds with
        | .error e => (.error e, c.setFields user (c.hashOf user))
        | .ok next => (.ok .applied, c.setFields user next)
      else (.ok .skipped, c) := by
  unfold applyDeltas
  rw [hservice, hupdates]
  rfl

/-- **Updates are atomic, whatever the cache holds.** A user without a marker has no entry to
update, and nothing happens. A user with one has the entry updated, unless the field of a
counterparty is illegible or a sum on the way to its new amount cannot be stored; then nothing is
changed anywhere. An update changes the fields of its counterparties and nothing else, so a hash in
standard spelling then holds the balance that it held with the amounts added. -/
theorem applyDeltas_atomic (user : UserId) (ds : List (UserId × Int)) (c : Cache)
    (hservice : c.failing = false) (hupdates : c.failingUpdates = false) :
    let ran := c.applyDeltas user ds
    (c.isMarked user = false → ran = (.ok .skipped, c)) ∧
    (c.isMarked user = true →
      ((∃ e, ran.1 = .error e) ↔
        ∃ other, Ledger.Named other ds ∧ Obstacle (c.hashOf user) ds other) ∧
      ((∃ e, ran.1 = .error e) → SameContent c ran.2) ∧
      ((¬ ∃ e, ran.1 = .error e) →
        ran.1 = .ok .applied ∧ Updated user ds c ran.2 ∧
        ∀ m, Standard (c.hashOf user) → decode (c.hashOf user) = .ok m →
          ∃ m', decode (ran.2.hashOf user) = .ok m' ∧ ∀ other, m'.get? other =
            if Ledger.Named other ds then some (m.getD other 0 + Ledger.sumToward other ds)
            else m.get? other)) := by
  intro ran
  have hran : ran = _ := applyDeltas_of_inService user ds hservice hupdates
  refine ⟨fun hmarked => ?_, fun hmarked => ?_⟩
  · rw [hran, hmarked]
    rfl
  · rw [hmarked, if_pos rfl] at hran
    have hobstacle := exists_error_addDeltas_iff (c.hashOf user) ds
    cases hadd : addDeltas (c.hashOf user) ds with
    | error e =>
      rw [hadd] at hran hobstacle
      have hfails : ∃ e, ran.1 = .error e := ⟨e, congrArg Prod.fst hran⟩
      refine ⟨iff_of_true hfails (hobstacle.1 ⟨e, rfl⟩), fun _ => ?_, fun h => absurd hfails h⟩
      rw [hran]
      exact sameContent_setFields user c
    | ok next =>
      rw [hadd] at hran hobstacle
      have happlied : ran.1 = .ok .applied := congrArg Prod.fst hran
      have hfine : ¬ ∃ e, ran.1 = .error e := by
        rintro ⟨e, he⟩
        cases happlied.symm.trans he
      have hclear : ¬ ∃ other, Ledger.Named other ds ∧ Obstacle (c.hashOf user) ds other := by
        rw [← hobstacle]
        rintro ⟨e, he⟩
        cases he
      refine ⟨iff_of_false hfine hclear, fun h => absurd h hfine, fun _ => ⟨happlied, ?_, ?_⟩⟩
      · rw [hran]
        exact updated_setFields user hadd
      · intro m hstandard hm
        rw [hran, hashOf_setFields, if_pos rfl]
        exact decode_addDeltas user hstandard hm hadd

namespace Sample

/-- A user with a number. -/
def partner (n : Nat) : UserId := ⟨Id.ofNat n⟩

/-- The entry of the first user has an amount, an amount after a blank and a field of no meaning. -/
def tattered : Cache :=
  ((((Cache.empty.insertRaw (partner 1) (partner 2).text "100").insertRaw (partner 1)
    (partner 3).text " 5").insertRaw (partner 1) "junk" "x").mark (partner 1))

end Sample

open ExpenseLedger.Cache.Sample

/-- Two amounts for one counterparty cancel out, but the sum on the way is too large. With two small
amounts there is an update, and it leaves the fields alone that nobody reads. -/
theorem applyDeltas_atomic_tattered :
    let large := tattered.applyDeltas (partner 1)
      [(partner 2, Amount.highest), (partner 2, -Amount.highest)]
    let small := tattered.applyDeltas (partner 1) [(partner 2, 50), (partner 2, -20)]
    tattered.failing = false ∧ tattered.failingUpdates = false ∧
    ((∃ e, large.1 = .error e) ∧ SameContent tattered large.2) ∧
    small.1 = .ok .applied ∧ (small.2.hashOf (partner 1)).get? "junk" = some "x" := by
  intro large small
  have hmarked : tattered.isMarked (partner 1) = true := by decide +kernel
  obtain ⟨hfails, hsame, -⟩ := (applyDeltas_atomic (partner 1)
    [(partner 2, Amount.highest), (partner 2, -Amount.highest)] tattered rfl rfl).2 hmarked
  have hlarge : ∃ e, large.1 = .error e := by
    refine hfails.2 ⟨partner 2, ⟨_, List.mem_cons_self, rfl⟩, ?_⟩
    exact .overflow 100 Amount.highest [] [(partner 2, -Amount.highest)] rfl rfl
      (by decide +kernel)
  obtain ⟨-, -, hupdates⟩ := (applyDeltas_atomic (partner 1) [(partner 2, 50), (partner 2, -20)]
    tattered rfl rfl).2 hmarked
  have hsmall : small.1 = .ok .applied := rfl
  obtain ⟨happlied, hupdated, -⟩ := hupdates fun ⟨e, he⟩ => nomatch hsmall.symm.trans he
  refine ⟨rfl, rfl, ⟨hlarge, hsame hlarge⟩, happlied, ?_⟩
  rw [hupdated.unnamed "junk" fun other ⟨c, hc, hother⟩ hname => ?_]
  · decide +kernel
  · have hpartner : other = partner 2 := by
      simp at hc
      rcases hc with rfl | rfl
      · exact hother.symm
      · exact hother.symm
    rw [hpartner] at hname
    revert hname
    decide +kernel

end ExpenseLedger.Cache
