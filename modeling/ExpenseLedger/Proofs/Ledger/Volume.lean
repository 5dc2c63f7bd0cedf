import ExpenseLedger.Proofs.Ledger.Symmetry
/-!
# How far balances can go

A record moves a net by its amount, so no net is larger than the volume, the sum of all amounts.
While the volume can be stored, every balance can be computed, and so could it be after any of the
records before. Main statements:

* `Ledger.exists_addRecords`: adding records keeps all nets within the volume;
* `Ledger.volume_bounds`: the volume of a number of valid records.
-/

namespace ExpenseLedger

/-- No amount of the balance is larger than a bound. -/
def Balance.Within (b : Balance) (v : Int) : Prop :=
  ∀ other, -v ≤ b.getD other 0 ∧ b.getD other 0 ≤ v

namespace Balance

/-- Nothing is owed in the balance without lines. -/
theorem within_empty : Within Table.empty 0 := by
  intro other
  rw [Table.getD_eq, Table.get?_empty, Option.getD_none]
  omega

/-- A larger bound holds as well. -/
theorem Within.mono {b : Balance} {v w : Int} (h : b.Within v) (hvw : v ≤ w) : b.Within w := by
  intro other
  obtain ⟨hlow, hhigh⟩ := h other
  omega

/-- An amount within storable bounds can be stored. -/
theorem storable_of_bounds {a v : Int} (hlow : -v ≤ a) (hhigh : a ≤ v) (hv : v ≤ Amount.highest) :
    Amount.Storable a := by
  unfold Amount.Storable Amount.lowest
  unfold Amount.highest at hv ⊢
  omega

/-- A balance within storable bounds can be stored. -/
theorem Within.allStorable {b : Balance} {v : Int} (h : b.Within v) (hv : v ≤ Amount.highest) :
    b.AllStorable := by
  intro other a ha
  obtain ⟨hlow, hhigh⟩ := h other
  rw [Table.getD_eq, ha, Option.getD_some] at hlow hhigh
  exact storable_of_bounds hlow hhigh hv

/-- Writing an amount within the bound keeps the balance within the bound. -/
theorem Within.insert {b : Balance} {v : Int} (h : b.Within v) (other : UserId) (a : Int)
    (hlow : -v ≤ a) (hhigh : a ≤ v) : Within (b.insert other a) v := by
  intro c
  rw [Table.getD_eq, Table.get?_insert]
  split
  · exact ⟨hlow, hhigh⟩
  · exact h c

end Balance

/-- What a loan contributes is its amount, to one side or the other. -/
theorem Loan.contribution_bounds (l : Loan) (hpos : 0 < l.amount) (user : UserId)
    (c : UserId × Int) (h : l.contribution user = some c) : -l.amount ≤ c.2 ∧ c.2 ≤ l.amount := by
  unfold Loan.contribution at h
  split at h
  · cases h
    dsimp only
    omega
  · split at h
    · cases h
      dsimp only
      omega
    · contradiction

namespace Ledger

/-! ## The volume -/

/-- The sum of the amounts of all records. -/
def volume (rs : List LoanRecord) : Int := (rs.map fun r => r.amount).sum

/-- A first record adds its amount. -/
theorem volume_cons (r : LoanRecord) (rs : List LoanRecord) :
    volume (r :: rs) = r.amount + volume rs :=
  List.sum_cons

/-- The volume of a joined list is the sum of the volumes. -/
theorem volume_append (rs ss : List LoanRecord) : volume (rs ++ ss) = volume rs + volume ss := by
  unfold volume
  rw [List.map_append, List.sum_append]

/-- The volume does not depend on the order. -/
theorem volume_perm {rs ss : List LoanRecord} (h : rs.Perm ss) : volume rs = volume ss :=
  (h.map _).sum_eq

/-- The volume of recorded loans is the sum of their amounts. -/
theorem volume_recordAll (first : Nat) (now : Timestamp) (loans : List Loan) :
    volume (recordAll first now loans) = (loans.map Loan.amount).sum := by
  have hloans := congrArg (List.map Loan.amount) (map_toLoan_recordAll first now loans)
  rw [List.map_map] at hloans
  exact congrArg List.sum hloans

/-- Valid records have a volume between zero and their number times the greatest amount. -/
theorem volume_bounds (rs : List LoanRecord) (h : ∀ r ∈ rs, r.toLoan.Valid) :
    0 ≤ volume rs ∧ volume rs ≤ rs.length * Amount.limit := by
  induction rs with
  | nil => exact ⟨Int.le_refl 0, Int.le_refl 0⟩
  | cons r rs ih =>
    obtain ⟨hpos, hlimit, -⟩ := h r List.mem_cons_self
    obtain ⟨hlow, hhigh⟩ := ih fun s hs => h s (List.mem_cons_of_mem r hs)
    rw [volume_cons, List.length_cons]
    push_cast
    rw [Int.add_mul, Int.one_mul]
    omega

/-- A number of loans whose sum can be stored, whatever the amounts. -/
def safeLength : Nat := 9223372

/-- It is the greatest such number. -/
theorem safeLength_eq : (safeLength : Int) = Amount.highest / Amount.limit := rfl

/-- The volume of so many records can be stored. -/
theorem volume_le_highest {rs : List LoanRecord} (h : ∀ r ∈ rs, r.toLoan.Valid)
    (hlength : rs.length ≤ safeLength) : volume rs ≤ Amount.highest := by
  have hvolume := (volume_bounds rs h).2
  unfold safeLength at hlength
  unfold Amount.limit at hvolume
  unfold Amount.highest
  omega

/-- The volume of some of the first records. -/
theorem volume_le_append (rs ss : List LoanRecord) (h : ∀ r ∈ ss, r.toLoan.Valid) :
    volume rs ≤ volume (rs ++ ss) := by
  have hrest := (volume_bounds ss h).1
  rw [volume_append]
  omega

/-! ## Balances within the volume -/

/-- **Adding valid records succeeds while the bound can be stored, and it moves the bound by the
volume.** -/
theorem exists_addRecords (user : UserId) (b : Balance) (rs : List LoanRecord) (v : Int)
    (hvalid : ∀ r ∈ rs, r.toLoan.Valid) (hb : b.Within v) (hv : v + volume rs ≤ Amount.highest) :
    ∃ m, addRecords user b rs = .ok m ∧ m.Within (v + volume rs) := by
  induction rs generalizing b v with
  | nil => exact ⟨b, rfl, hb.mono (by simp [volume])⟩
  | cons r rs ih =>
    obtain ⟨hpos, -, -⟩ := hvalid r List.mem_cons_self
    have hrest : ∀ s ∈ rs, s.toLoan.Valid := fun s hs => hvalid s (List.mem_cons_of_mem r hs)
    have hvolume := (volume_bounds rs hrest).1
    rw [volume_cons, ← Int.add_assoc] at hv ⊢
    unfold addRecords
    cases hc : r.contribution user with
    | none => exact ih b (v + r.amount) hrest (hb.mono (by omega)) hv
    | some c =>
      obtain ⟨hlow, hhigh⟩ := r.contribution_bounds hpos user c hc
      obtain ⟨hlow', hhigh'⟩ := hb c.1
      have hstorable : Amount.Storable (b.getD c.1 0 + c.2) :=
        Balance.storable_of_bounds (v := v + r.amount) (by omega) (by omega) (by omega)
      have hadd := (addContribution_eq_ok_iff user b _ c).2 ⟨hstorable, rfl⟩
      dsimp only
      rw [hadd]
      exact ih _ (v + r.amount) hrest
        ((hb.mono (by omega)).insert c.1 _ (by omega) (by omega)) hv

/-- **A balance can be computed while the volume can be stored.** -/
theorem exists_aggregate (user : UserId) (rs : List LoanRecord)
    (hvalid : ∀ r ∈ rs, r.toLoan.Valid) (hv : volume rs ≤ Amount.highest) :
    ∃ m, aggregate user rs = .ok m ∧ m.Within (volume rs) := by
  have hsum := exists_addRecords user Table.empty rs 0 hvalid Balance.within_empty (by omega)
  rwa [Int.zero_add] at hsum

end Ledger

end ExpenseLedger
