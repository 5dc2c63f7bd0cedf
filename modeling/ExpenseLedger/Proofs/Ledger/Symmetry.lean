import ExpenseLedger.Proofs.Ledger.Nets
import Mathlib.Algebra.BigOperators.Group.Finset.Piecewise
import Mathlib.Algebra.Ring.Int.Defs
/-!
# Both sides of a loan

What a loan contributes to the balance of one party it takes from that of the other. So the balances
that a list of valid records gives to all users are mutual (`Ledger.mutual_of_aggregate`): each is
the mirror image of the others, nobody owes anything to themselves, and everything adds up to zero.
-/

namespace ExpenseLedger

/-! ## Sums of values -/

namespace Table

variable {κ : Type} [OrderedKey κ]

/-- A write replaces one of the summands. -/
theorem sum_put (k : κ) (v : Int) (l : List (κ × Int)) (h : Ascending l) :
    ((put k v l).map (·.2)).sum = (l.map (·.2)).sum - (find k l).getD 0 + v := by
  induction l with
  | nil => simp [put, find]
  | cons hd rest ih =>
    obtain ⟨k', v'⟩ := hd
    have hhd := (List.pairwise_cons.1 h).1
    have hrest := (List.pairwise_cons.1 h).2
    unfold put
    split
    · rename_i hlt
      have hnone : find k ((k', v') :: rest) = none := by
        refine find_eq_none_of_lt k _ fun e he => ?_
        rcases List.mem_cons.1 he with rfl | he
        · exact hlt
        · exact OrderedKey.trans hlt (hhd e he)
      rw [hnone, Option.getD_none, List.map_cons, List.sum_cons]
      omega
    · split
      · rename_i heq
        have hsome : find k ((k', v') :: rest) = some v' := by
          rw [find, if_pos heq]
        rw [hsome, Option.getD_some, List.map_cons, List.map_cons, List.sum_cons, List.sum_cons]
        omega
      · rename_i hnlt hne
        have hfind : find k ((k', v') :: rest) = find k rest := by
          rw [find, if_neg hne]
        rw [hfind, List.map_cons, List.map_cons, List.sum_cons, List.sum_cons, ih hrest]
        omega

/-- Giving a key a value replaces one of the summands. -/
theorem sum_values_insert (t : Table κ Int) (k : κ) (v : Int) :
    (t.insert k v).values.sum = t.values.sum - t.getD k 0 + v :=
  sum_put k v t.entries t.ascending

end Table

/-! ## Mutual balances -/

/-- The balances of all users mirror each other. -/
structure Balance.Mutual (balance : UserId → Balance) : Prop where
  /-- What one user is owed by another, the other owes the one. -/
  antisymm : ∀ a b, a ≠ b → (balance a).getD b 0 = -(balance b).getD a 0
  /-- A user is a counterparty of their counterparties. -/
  symm : ∀ a b, (balance a).contains b = (balance b).contains a
  /-- Nobody is their own counterparty. -/
  irrefl : ∀ a, (balance a).contains a = false
  /-- All amounts of all users add up to zero: those of some users, and the others have none. -/
  sum_eq_zero : ∃ users : Finset UserId, (∀ user, user ∉ users → balance user = Table.empty) ∧
    ∑ user ∈ users, (balance user).values.sum = 0

namespace Ledger

/-! ## Pairs of users -/

/-- A first record adds to the net of the others. -/
theorem net_cons (user other : UserId) (r : LoanRecord) (rs : List LoanRecord) :
    net user other (r :: rs) = net user other [r] + net user other rs :=
  net_append user other [r] rs

/-- A first record may be a loan between the two, or one of the others is. -/
theorem deals_cons (user other : UserId) (r : LoanRecord) (rs : List LoanRecord) :
    Deals user other (r :: rs) ↔ Deals user other [r] ∨ Deals user other rs :=
  deals_append user other [r] rs

/-- The net of one record, seen from one side. -/
theorem net_singleton (user other : UserId) (r : LoanRecord) (h : user ≠ other) :
    net user other [r] =
      if r.lender = user ∧ r.debtor = other then r.amount
      else if r.lender = other ∧ r.debtor = user then -r.amount else 0 := by
  unfold net contributions
  rw [List.filterMap_cons, List.filterMap_nil]
  unfold Loan.contribution
  by_cases hlender : r.lender = user
  · have hne : r.lender ≠ other := fun he => h (hlender.symm.trans he)
    by_cases hdebtor : r.debtor = other
    · simp [hlender, hdebtor, sumToward]
    · simp [hlender, hdebtor, h, sumToward]
  · by_cases hdebtor : r.debtor = user
    · by_cases hother : r.lender = other
      · simp [hother, hdebtor, Ne.symm h, sumToward]
      · simp [hlender, hdebtor, hother, sumToward]
    · simp [hlender, hdebtor, sumToward]

/-- **The nets of two users toward each other cancel out.** -/
theorem net_swap (a b : UserId) (rs : List LoanRecord) (h : a ≠ b) :
    net a b rs = -net b a rs := by
  induction rs with
  | nil => rfl
  | cons r rs ih =>
    rw [net_cons a b, net_cons b a, ih, net_singleton a b r h, net_singleton b a r (Ne.symm h)]
    by_cases hab : r.lender = a ∧ r.debtor = b
    · have hba : ¬ (r.lender = b ∧ r.debtor = a) := fun hba => h (hab.1.symm.trans hba.1)
      rw [if_pos hab, if_neg hba, if_pos hab]
      omega
    · rw [if_neg hab, if_neg hab]
      split <;> omega

/-- A record is a loan between two users exactly if they are its parties. -/
theorem deals_singleton (user other : UserId) (r : LoanRecord) :
    Deals user other [r] ↔
      (r.lender = user ∧ r.debtor = other) ∨ (r.lender = other ∧ r.debtor = user ∧
        r.lender ≠ user) := by
  unfold Deals Named contributions
  rw [List.filterMap_cons, List.filterMap_nil]
  unfold Loan.contribution
  by_cases hlender : r.lender = user
  · simp [hlender]
  · by_cases hdebtor : r.debtor = user
    · simp [hlender, hdebtor]
    · simp [hlender, hdebtor]

/-- **There are loans between one user and another if there are between the other and the one.** -/
theorem deals_swap (a b : UserId) (rs : List LoanRecord) : Deals a b rs ↔ Deals b a rs := by
  rcases Classical.em (a = b) with rfl | hne
  · exact Iff.rfl
  · induction rs with
    | nil =>
      constructor
      · rintro ⟨c, hc, -⟩
        contradiction
      · rintro ⟨c, hc, -⟩
        contradiction
    | cons r rs ih =>
      rw [deals_cons a b, deals_cons b a, ih, deals_singleton, deals_singleton]
      constructor
      · rintro ((⟨hl, hd⟩ | ⟨hl, hd, -⟩) | h)
        · exact .inl (.inr ⟨hl, hd, fun he => hne (hl.symm.trans he)⟩)
        · exact .inl (.inl ⟨hl, hd⟩)
        · exact .inr h
      · rintro ((⟨hl, hd⟩ | ⟨hl, hd, -⟩) | h)
        · exact .inl (.inr ⟨hl, hd, fun he => hne (he.symm.trans hl)⟩)
        · exact .inl (.inl ⟨hl, hd⟩)
        · exact .inr h

/-- Nobody lends to themselves. -/
theorem not_deals_self (user : UserId) (rs : List LoanRecord) (h : ∀ r ∈ rs, r.toLoan.Valid) :
    ¬ Deals user user rs := by
  induction rs with
  | nil =>
    rintro ⟨c, hc, -⟩
    contradiction
  | cons r rs ih =>
    rw [deals_cons, deals_singleton]
    have hne : r.lender ≠ r.debtor := (h r List.mem_cons_self).2.2
    rintro ((⟨hl, hd⟩ | ⟨hl, -, hn⟩) | hrest)
    · exact hne (hl.trans hd.symm)
    · exact hn hl
    · exact ih (fun s hs => h s (List.mem_cons_of_mem r hs)) hrest

/-! ## Sums -/

/-- The sum of what some records contribute to a user's balance. -/
def total (user : UserId) (rs : List LoanRecord) : Int :=
  ((contributions user rs).map (·.2)).sum

/-- Adding contributions adds to the sum of a balance. -/
theorem sum_values_addAll (user : UserId) (b m : Balance) (cs : List (UserId × Int))
    (h : addAll user b cs = .ok m) : m.values.sum = b.values.sum + (cs.map (·.2)).sum := by
  induction cs generalizing b with
  | nil =>
    cases h
    rw [List.map_nil, List.sum_nil, Int.add_zero]
  | cons c cs ih =>
    obtain ⟨b', hc, hcs⟩ := (addAll_cons_eq_ok_iff user b m c cs).1 h
    obtain ⟨-, rfl⟩ := (addContribution_eq_ok_iff user b b' c).1 hc
    rw [ih _ hcs, Table.sum_values_insert, List.map_cons, List.sum_cons]
    omega

/-- The amounts of a balance add up to what the records contribute. -/
theorem sum_values_aggregate (user : UserId) (rs : List LoanRecord) (m : Balance)
    (h : aggregate user rs = .ok m) : m.values.sum = total user rs := by
  unfold aggregate at h
  rw [addRecords_eq_addAll] at h
  have hsum := sum_values_addAll user Table.empty m _ h
  have hzero : (Table.empty : Balance).values.sum = 0 := rfl
  rw [hsum, hzero, Int.zero_add]
  rfl

/-- A first record adds its amount for the lender and takes it from the debtor. -/
theorem total_cons (user : UserId) (r : LoanRecord) (rs : List LoanRecord)
    (h : r.toLoan.Valid) :
    total user (r :: rs) =
      ((if r.lender = user then r.amount else 0) + (if r.debtor = user then -r.amount else 0)) +
        total user rs := by
  have hne : r.lender ≠ r.debtor := h.2.2
  unfold total contributions
  rw [List.filterMap_cons]
  unfold Loan.contribution
  by_cases hlender : r.lender = user
  · have hdebtor : r.debtor ≠ user := fun hd => hne (hlender.trans hd.symm)
    rw [if_pos hlender, if_pos hlender, if_neg hdebtor, Int.add_zero]
    exact List.sum_cons
  · by_cases hdebtor : r.debtor = user
    · rw [if_neg hlender, if_neg hlender, if_pos hdebtor, if_pos hdebtor, Int.zero_add]
      exact List.sum_cons
    · rw [if_neg hlender, if_neg hlender, if_neg hdebtor, if_neg hdebtor]
      exact (Int.zero_add _).symm

/-- The parties of some records. -/
def parties (rs : List LoanRecord) : Finset UserId :=
  (rs.flatMap fun r => [r.lender, r.debtor]).toFinset

/-- Who is no party is concerned by none of the records. -/
theorem not_concerns_of_not_mem_parties (user : UserId) (rs : List LoanRecord)
    (h : user ∉ parties rs) : ∀ r ∈ rs, ¬ r.Concerns user := by
  rintro r hr (rfl | rfl)
  · exact h (List.mem_toFinset.2 (List.mem_flatMap.2 ⟨r, hr, by simp⟩))
  · exact h (List.mem_toFinset.2 (List.mem_flatMap.2 ⟨r, hr, by simp⟩))

/-- A user whom no record concerns has an empty balance. -/
theorem aggregate_of_not_concerns (user : UserId) (rs : List LoanRecord)
    (h : ∀ r ∈ rs, ¬ r.Concerns user) : aggregate user rs = .ok Table.empty :=
  aggregate_append_of_not_concerns user [] rs h

/-- **What records contribute adds up to zero over all users among whom are the parties.** -/
theorem sum_total_eq_zero (rs : List LoanRecord) (h : ∀ r ∈ rs, r.toLoan.Valid)
    (users : Finset UserId) (hparties : ∀ r ∈ rs, r.lender ∈ users ∧ r.debtor ∈ users) :
    ∑ user ∈ users, total user rs = 0 := by
  induction rs with
  | nil => exact Finset.sum_eq_zero fun _ _ => rfl
  | cons r rs ih =>
    have hr := h r List.mem_cons_self
    obtain ⟨hlender, hdebtor⟩ := hparties r List.mem_cons_self
    have hrest : ∑ user ∈ users, total user rs = 0 :=
      ih (fun s hs => h s (List.mem_cons_of_mem r hs))
        fun s hs => hparties s (List.mem_cons_of_mem r hs)
    have hboth : ∑ user ∈ users,
        ((if r.lender = user then r.amount else 0) +
          (if r.debtor = user then -r.amount else 0)) = 0 := by
      rw [Finset.sum_add_distrib, Finset.sum_ite_eq, Finset.sum_ite_eq, if_pos hlender,
        if_pos hdebtor]
      omega
    calc ∑ user ∈ users, total user (r :: rs)
        = ∑ user ∈ users,
            (((if r.lender = user then r.amount else 0) +
              (if r.debtor = user then -r.amount else 0)) + total user rs) :=
          Finset.sum_congr rfl fun user _ => total_cons user r rs hr
      _ = 0 := by
          rw [Finset.sum_add_distrib, hboth, hrest]
          rfl

/-! ## Balances of all users -/

/-- **The balances that valid records give are mutual.** -/
theorem mutual_of_aggregate (rs : List LoanRecord) (h : ∀ r ∈ rs, r.toLoan.Valid)
    (balance : UserId → Balance) (hbalance : ∀ user, aggregate user rs = .ok (balance user)) :
    Balance.Mutual balance := by
  have hget : ∀ user other, (balance user).get? other =
      if Deals user other rs then some (net user other rs) else none :=
    fun user other => get?_aggregate user rs (balance user) (hbalance user) other
  have hcontains : ∀ user other, (balance user).contains other = decide (Deals user other rs) := by
    intro user other
    unfold Table.contains
    rw [hget]
    by_cases hdeals : Deals user other rs
    · rw [if_pos hdeals, decide_eq_true hdeals]
      rfl
    · rw [if_neg hdeals, decide_eq_false hdeals]
      rfl
  have hgetD : ∀ user other, (balance user).getD other 0 = net user other rs := by
    intro user other
    rw [Table.getD_eq, hget]
    by_cases hdeals : Deals user other rs
    · rw [if_pos hdeals, Option.getD_some]
    · rw [if_neg hdeals, Option.getD_none, net_eq_zero user other rs hdeals]
  refine ⟨fun a b hne => ?_, fun a b => ?_, fun a => ?_, parties rs, fun user huser => ?_, ?_⟩
  · rw [hgetD, hgetD, net_swap a b rs hne]
  · rw [hcontains, hcontains]
    exact decide_eq_decide.2 (deals_swap a b rs)
  · rw [hcontains]
    exact decide_eq_false (not_deals_self a rs h)
  · have hnone := not_concerns_of_not_mem_parties user rs huser
    have hempty := hbalance user
    rw [aggregate_of_not_concerns user rs hnone] at hempty
    exact (Except.ok.inj hempty).symm
  · have hsum : ∀ user, (balance user).values.sum = total user rs :=
      fun user => sum_values_aggregate user rs (balance user) (hbalance user)
    rw [Finset.sum_congr rfl fun user _ => hsum user]
    refine sum_total_eq_zero rs h (parties rs) fun r hr => ?_
    constructor
    · exact List.mem_toFinset.2 (List.mem_flatMap.2 ⟨r, hr, by simp⟩)
    · exact List.mem_toFinset.2 (List.mem_flatMap.2 ⟨r, hr, by simp⟩)

end Ledger

end ExpenseLedger
