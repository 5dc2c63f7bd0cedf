import ExpenseLedger.Proofs.Ledger.Volume
/-!
# What a balance says

The balance of a user has a line for everyone with whom there is a loan, in either direction, and
the line says what the user lent to them less what they lent to the user. Main statement:
`Ledger.computeBalance_eq_lent_sub_lent`, which also says that the order of the records does not
matter and that the balances of two lists add up to that of the joined list.
-/

namespace ExpenseLedger

/-- The loan is between the two users, in either direction. -/
def Loan.Between (l : Loan) (a b : UserId) : Prop :=
  (l.lender = a ∧ l.debtor = b) ∨ (l.lender = b ∧ l.debtor = a)

instance (l : Loan) (a b : UserId) : Decidable (l.Between a b) :=
  inferInstanceAs (Decidable (_ ∨ _))

/-- A balance has the lines of two others, and its amounts are the sums of theirs. -/
def Balance.IsSum (m a b : Balance) : Prop :=
  ∀ other, (m.contains other = true ↔ a.contains other = true ∨ b.contains other = true) ∧
    m.getD other 0 = a.getD other 0 + b.getD other 0

namespace Ledger

/-- The sum of what one user lent to another. -/
def lent (lender debtor : UserId) (rs : List LoanRecord) : Int :=
  ((rs.filter fun r => r.lender = lender ∧ r.debtor = debtor).map fun r => r.amount).sum

/-- A first record adds its amount to what its lender lent to its debtor. -/
theorem lent_cons (lender debtor : UserId) (r : LoanRecord) (rs : List LoanRecord) :
    lent lender debtor (r :: rs) =
      (if r.lender = lender ∧ r.debtor = debtor then r.amount else 0) + lent lender debtor rs := by
  unfold lent
  rw [List.filter_cons]
  by_cases h : r.lender = lender ∧ r.debtor = debtor
  · rw [if_pos (decide_eq_true h), if_pos h, List.map_cons, List.sum_cons]
  · rw [if_neg (by rw [decide_eq_true_iff]; exact h), if_neg h, Int.zero_add]

/-- Among valid records, those that deal with two users are the loans between them. -/
theorem deals_iff_between (user other : UserId) (rs : List LoanRecord)
    (h : ∀ r ∈ rs, r.toLoan.Valid) : Deals user other rs ↔ ∃ r ∈ rs, r.Between user other := by
  induction rs with
  | nil => simp [Deals, Named, contributions]
  | cons r rs ih =>
    have hne : r.lender ≠ r.debtor := (h r List.mem_cons_self).2.2
    have hone : Deals user other [r] ↔ r.Between user other := by
      rw [deals_singleton]
      unfold Loan.Between
      constructor
      · rintro (h | ⟨hlender, hdebtor, -⟩)
        · exact .inl h
        · exact .inr ⟨hlender, hdebtor⟩
      · rintro (h | ⟨hlender, hdebtor⟩)
        · exact .inl h
        · exact .inr ⟨hlender, hdebtor, fun he => hne (he.trans hdebtor.symm)⟩
    rw [deals_cons, hone, ih fun s hs => h s (List.mem_cons_of_mem r hs)]
    simp only [List.mem_cons, exists_eq_or_imp]

/-- **The net of two users is what the one lent to the other less what the other lent to the one.**
-/
theorem net_eq_lent_sub_lent (user other : UserId) (rs : List LoanRecord)
    (h : ∀ r ∈ rs, r.toLoan.Valid) :
    net user other rs = lent user other rs - lent other user rs := by
  rcases Classical.em (user = other) with rfl | hne
  · rw [net_eq_zero user user rs (not_deals_self user rs h)]
    omega
  · induction rs with
    | nil => rfl
    | cons r rs ih =>
      rw [net_cons, net_singleton user other r hne, lent_cons, lent_cons,
        ih fun s hs => h s (List.mem_cons_of_mem r hs)]
      -- A loan goes one way only, so one of the two sums is left alone.
      by_cases hto : r.lender = user ∧ r.debtor = other
      · have hback : ¬ (r.lender = other ∧ r.debtor = user) :=
          fun hback => hne (hto.1.symm.trans hback.1)
        rw [if_pos hto, if_pos hto, if_neg hback]
        omega
      · rw [if_neg hto, if_neg hto]
        split <;> omega

/-- A balance in the words of what was lent. -/
theorem get?_aggregate_eq_lent (user : UserId) (rs : List LoanRecord)
    (h : ∀ r ∈ rs, r.toLoan.Valid) (m : Balance) (hm : aggregate user rs = .ok m)
    (other : UserId) :
    m.get? other =
      if ∃ r ∈ rs, r.Between user other then some (lent user other rs - lent other user rs)
      else none := by
  rw [get?_aggregate user rs m hm other, net_eq_lent_sub_lent user other rs h]
  simp only [deals_iff_between user other rs h]

/-- Records in another order give the same balance. -/
theorem aggregate_perm (user : UserId) {rs ss : List LoanRecord} (h : rs.Perm ss) (m n : Balance)
    (hm : aggregate user rs = .ok m) (hn : aggregate user ss = .ok n) : m = n :=
  (aggregate_eq_iff user rs ss m n hm hn).2 fun other =>
    ⟨deals_perm user other h, net_perm user other h⟩

/-- **The balances of two lists add up to that of the joined list.** -/
theorem isSum_aggregate_append (user : UserId) (rs ss : List LoanRecord) (m a b : Balance)
    (hm : aggregate user (rs ++ ss) = .ok m) (ha : aggregate user rs = .ok a)
    (hb : aggregate user ss = .ok b) : m.IsSum a b := by
  intro other
  have hget := get?_aggregate user (rs ++ ss) m hm other
  have hgetL := get?_aggregate user rs a ha other
  have hgetR := get?_aggregate user ss b hb other
  have happend := deals_append user other rs ss
  have hleft := net_eq_zero user other rs
  have hright := net_eq_zero user other ss
  rw [net_append] at hget
  unfold Table.contains
  rw [Table.getD_eq, Table.getD_eq, Table.getD_eq, hget, hgetL, hgetR]
  by_cases hl : Deals user other rs
  · rw [if_pos (happend.2 (.inl hl)), if_pos hl]
    by_cases hr : Deals user other ss
    · rw [if_pos hr]
      exact ⟨by simp, rfl⟩
    · rw [if_neg hr, hright hr]
      exact ⟨by simp, rfl⟩
  · rw [if_neg hl]
    by_cases hr : Deals user other ss
    · rw [if_pos (happend.2 (.inr hr)), if_pos hr, hleft hl]
      exact ⟨by simp, rfl⟩
    · rw [if_neg fun hd => (happend.1 hd).elim hl hr, if_neg hr]
      exact ⟨by simp, rfl⟩

/-- In service, a balance is computed from the records, and only the count of scans changes. -/
theorem computeBalance_of_aggregate (l : Ledger) (hservice : l.failing = false) (user : UserId)
    (m : Balance) (h : aggregate user l.records = .ok m) :
    l.computeBalance user = (.ok m, { l with scans := l.scans + 1 }) := by
  unfold computeBalance
  rw [hservice, h]
  rfl

/-- **A balance says what the user lent less what was lent to the user.** The ledger is in service,
its records are valid and their amounts add up to something that can be stored. Then there is a
line for each user with whom there is a loan, also where everything is settled, and none for
others. Records in another order give the same balance, the balances of two parts of the records add
up, and nothing changes but the count of scans. -/
theorem computeBalance_eq_lent_sub_lent (l : Ledger) (hservice : l.failing = false)
    (hvalid : ∀ r ∈ l.records, r.toLoan.Valid) (hvolume : Amount.Storable (volume l.records))
    (user : UserId) :
    ∃ m : Balance,
      l.computeBalance user = (.ok m, { l with scans := l.scans + 1 }) ∧
      (∀ other, m.get? other =
        if ∃ r ∈ l.records, r.Between user other
        then some (lent user other l.records - lent other user l.records) else none) ∧
      (∀ rs, rs.Perm l.records →
        { l with records := rs }.computeBalance user =
          (.ok m, { l with records := rs, scans := l.scans + 1 })) ∧
      (∀ rs ss, l.records = rs ++ ss → ∃ a b,
        { l with records := rs }.computeBalance user =
          (.ok a, { l with records := rs, scans := l.scans + 1 }) ∧
        { l with records := ss }.computeBalance user =
          (.ok b, { l with records := ss, scans := l.scans + 1 }) ∧
        m.IsSum a b) := by
  obtain ⟨m, hm, -⟩ := exists_aggregate user l.records hvalid hvolume.2
  refine ⟨m, computeBalance_of_aggregate l hservice user m hm,
    get?_aggregate_eq_lent user l.records hvalid m hm, fun rs hperm => ?_, fun rs ss happend => ?_⟩
  · obtain ⟨n, hn, -⟩ := exists_aggregate user rs (fun r hr => hvalid r (hperm.mem_iff.1 hr))
      (by rw [volume_perm hperm]; exact hvolume.2)
    have hsame : m = n := aggregate_perm user hperm.symm m n hm hn
    rw [hsame]
    exact computeBalance_of_aggregate { l with records := rs } hservice user n hn
  · rw [happend] at hvalid hvolume hm
    have hleft : ∀ r ∈ rs, r.toLoan.Valid := fun r hr => hvalid r (List.mem_append_left ss hr)
    have hright : ∀ r ∈ ss, r.toLoan.Valid := fun r hr => hvalid r (List.mem_append_right rs hr)
    have hsum := hvolume.2
    rw [volume_append] at hsum
    -- Neither part has more volume than the whole.
    have hlow := (volume_bounds rs hleft).1
    have hlow' := (volume_bounds ss hright).1
    obtain ⟨a, ha, -⟩ := exists_aggregate user rs hleft (by omega)
    obtain ⟨b, hb, -⟩ := exists_aggregate user ss hright (by omega)
    exact ⟨a, b, computeBalance_of_aggregate { l with records := rs } hservice user a ha,
      computeBalance_of_aggregate { l with records := ss } hservice user b hb,
      isSum_aggregate_append user rs ss m a b hm ha hb⟩

namespace Sample

/-- A lender. -/
def lender : UserId := ⟨Id.ofNat 1⟩

/-- Someone who borrows and pays back. -/
def neighbour : UserId := ⟨Id.ofNat 2⟩

/-- Someone who owes. -/
def cousin : UserId := ⟨Id.ofNat 3⟩

/-- A loan that has been paid back, and one that has not. -/
def repaid : Ledger where
  records :=
    [⟨⟨lender, neighbour, 30⟩, Id.ofNat 10, ⟨0, 0⟩⟩, ⟨⟨neighbour, lender, 30⟩, Id.ofNat 11, ⟨5, 0⟩⟩,
      ⟨⟨lender, cousin, 8⟩, Id.ofNat 12, ⟨9, 0⟩⟩]
  scans := 4
  failing := false

end Sample

open ExpenseLedger.Ledger.Sample

/-- Where a loan has been paid back, the line stays and says zero. -/
theorem computeBalance_eq_lent_sub_lent_repaid :
    (∀ r ∈ repaid.records, r.toLoan.Valid) ∧ Amount.Storable (volume repaid.records) ∧
    ∃ m : Balance,
      repaid.computeBalance lender = (.ok m, { repaid with scans := 5 }) ∧
      m.get? neighbour = some 0 ∧ m.get? cousin = some 8 ∧ m.get? lender = none := by
  have hvalid : ∀ r ∈ repaid.records, r.toLoan.Valid := by decide
  have hvolume : Amount.Storable (volume repaid.records) := by decide
  obtain ⟨m, hm, hlines, -⟩ := computeBalance_eq_lent_sub_lent repaid rfl hvalid hvolume lender
  refine ⟨hvalid, hvolume, m, hm, ?_, ?_, ?_⟩
  · rw [hlines]
    decide
  · rw [hlines]
    decide
  · rw [hlines]
    decide

end Ledger

end ExpenseLedger
