import ExpenseLedger.Ledger
import ExpenseLedger.Table.Lemmas
/-!
# What a balance is made of

To a user, a list of loan records is a list of contributions, and the balance is the result of
adding them one after the other. Main statements:

* `Ledger.aggregate_append`: more records are added to the balance of the records before them;
* `Ledger.get?_aggregate`: a balance holds, for each counterparty that the records name, the sum of
  what they contribute, and nothing else.
-/

namespace ExpenseLedger

/-! ## Whom a loan concerns -/

/-- The user is a party to the loan. -/
def Loan.Concerns (l : Loan) (user : UserId) : Prop := l.lender = user ∨ l.debtor = user

instance (l : Loan) (user : UserId) : Decidable (l.Concerns user) :=
  inferInstanceAs (Decidable (_ ∨ _))

/-- A loan contributes nothing exactly to those whom it does not concern. -/
theorem Loan.contribution_eq_none_iff (l : Loan) (user : UserId) :
    l.contribution user = none ↔ ¬ l.Concerns user := by
  unfold Loan.contribution Loan.Concerns
  by_cases hl : l.lender = user
  · simp [hl]
  · by_cases hd : l.debtor = user <;> simp [hl, hd]

/-- All amounts of a balance can be stored. -/
def Balance.AllStorable (b : Balance) : Prop := ∀ c a, b.get? c = some a → Amount.Storable a

/-- The balance without lines. -/
theorem Balance.allStorable_empty : Balance.AllStorable Table.empty := by
  intro c a h
  rw [Table.get?_empty] at h
  contradiction

/-- Writing a storable amount keeps all amounts storable. -/
theorem Balance.allStorable_insert (b : Balance) (h : b.AllStorable) (other : UserId) (a : Int)
    (ha : Amount.Storable a) : AllStorable (b.insert other a) := by
  intro c x hx
  rw [Table.get?_insert] at hx
  split at hx
  · cases hx
    exact ha
  · exact h c x hx

namespace Ledger

/-! ## Contributions -/

/-- What some records contribute to a user's balance, in their order. -/
def contributions (user : UserId) (rs : List LoanRecord) : List (UserId × Int) :=
  rs.filterMap fun r => r.contribution user

/-- Contributions of a joined list. -/
@[simp] theorem contributions_append (user : UserId) (rs ss : List LoanRecord) :
    contributions user (rs ++ ss) = contributions user rs ++ contributions user ss :=
  List.filterMap_append

/-- Records that do not concern a user contribute nothing. -/
theorem contributions_eq_nil (user : UserId) (rs : List LoanRecord)
    (h : ∀ r ∈ rs, ¬ r.Concerns user) : contributions user rs = [] := by
  refine List.filterMap_eq_nil_iff.2 fun r hr => ?_
  exact (Loan.contribution_eq_none_iff r.toLoan user).2 (h r hr)

/-- Adds contributions to a user's balance, from the first to the last. -/
def addAll (user : UserId) (b : Balance) : List (UserId × Int) → Except Error Balance
  | [] => .ok b
  | c :: cs =>
    match addContribution user b c with
    | .error e => .error e
    | .ok b' => addAll user b' cs

/-- Adding several contributions succeeds by adding the first and then the others. -/
theorem addAll_cons_eq_ok_iff (user : UserId) (b m : Balance) (c : UserId × Int)
    (cs : List (UserId × Int)) :
    addAll user b (c :: cs) = .ok m ↔
      ∃ b', addContribution user b c = .ok b' ∧ addAll user b' cs = .ok m := by
  simp only [addAll]
  cases addContribution user b c with
  | error e => simp
  | ok b' => simp

/-- Adding records is adding what they contribute. -/
theorem addRecords_eq_addAll (user : UserId) (b : Balance) (rs : List LoanRecord) :
    addRecords user b rs = addAll user b (contributions user rs) := by
  induction rs generalizing b with
  | nil => rfl
  | cons r rs ih =>
    simp only [addRecords, contributions, List.filterMap_cons]
    cases r.contribution user with
    | none => exact ih b
    | some c =>
      simp only [addAll]
      cases addContribution user b c with
      | error e => rfl
      | ok b' => exact ih b'

/-- Contributions are added in two goes. -/
theorem addAll_append (user : UserId) (b m : Balance) (cs ds : List (UserId × Int))
    (h : addAll user b cs = .ok m) : addAll user b (cs ++ ds) = addAll user m ds := by
  induction cs generalizing b with
  | nil =>
    cases h
    rfl
  | cons c cs ih =>
    obtain ⟨b', hc, hcs⟩ := (addAll_cons_eq_ok_iff user b m c cs).1 h
    simp only [List.cons_append, addAll, hc]
    exact ih b' hcs

/-- **More records are added to the balance of the records before them.** -/
theorem aggregate_append (user : UserId) (rs ss : List LoanRecord) (m : Balance)
    (h : aggregate user rs = .ok m) :
    aggregate user (rs ++ ss) = addAll user m (contributions user ss) := by
  unfold aggregate at h ⊢
  rw [addRecords_eq_addAll] at h ⊢
  rw [contributions_append]
  exact addAll_append user Table.empty m _ _ h

/-- Records that do not concern a user do not change the balance. -/
theorem aggregate_append_of_not_concerns (user : UserId) (rs ss : List LoanRecord)
    (h : ∀ r ∈ ss, ¬ r.Concerns user) : aggregate user (rs ++ ss) = aggregate user rs := by
  unfold aggregate
  rw [addRecords_eq_addAll, addRecords_eq_addAll, contributions_append,
    contributions_eq_nil user ss h, List.append_nil]

/-! ## Amounts in balances -/

/-- A contribution is added by writing the storable sum in place of the old amount. -/
theorem addContribution_eq_ok_iff (user : UserId) (b m : Balance) (c : UserId × Int) :
    addContribution user b c = .ok m ↔
      Amount.Storable (b.getD c.1 0 + c.2) ∧ m = b.insert c.1 (b.getD c.1 0 + c.2) := by
  unfold addContribution
  cases ha : Amount.add? (b.getD c.1 0) c.2 with
  | none =>
    have hn := (Amount.add?_eq_none_iff _ _).1 ha
    simp [hn]
  | some net =>
    obtain ⟨hs, rfl⟩ := (Amount.add?_eq_some_iff _ _ _).1 ha
    simp [hs, eq_comm]

/-- All that can go wrong with a balance is that a net leaves the storable range. -/
theorem exists_overflow_of_addRecords (user : UserId) (b : Balance) (rs : List LoanRecord)
    (e : Error) (h : addRecords user b rs = .error e) :
    ∃ other, e = .balanceOverflow user other := by
  induction rs generalizing b with
  | nil => contradiction
  | cons r rs ih =>
    rw [addRecords] at h
    cases hr : r.contribution user with
    | none =>
      rw [hr] at h
      exact ih b h
    | some c =>
      rw [hr] at h
      dsimp only at h
      cases hc : addContribution user b c with
      | error e' =>
        rw [hc] at h
        cases h
        unfold addContribution at hc
        split at hc
        · contradiction
        · cases hc
          exact ⟨c.1, rfl⟩
      | ok b' =>
        rw [hc] at h
        exact ih b' h

/-- Adding a contribution keeps all amounts storable. -/
theorem allStorable_addContribution (user : UserId) (b m : Balance) (c : UserId × Int)
    (hb : b.AllStorable) (h : addContribution user b c = .ok m) : m.AllStorable := by
  obtain ⟨hs, rfl⟩ := (addContribution_eq_ok_iff user b m c).1 h
  exact b.allStorable_insert hb c.1 _ hs

/-- Adding contributions keeps all amounts storable. -/
theorem allStorable_addAll (user : UserId) (b m : Balance) (cs : List (UserId × Int))
    (hb : b.AllStorable) (h : addAll user b cs = .ok m) : m.AllStorable := by
  induction cs generalizing b with
  | nil =>
    cases h
    exact hb
  | cons c cs ih =>
    obtain ⟨b', hc, hcs⟩ := (addAll_cons_eq_ok_iff user b m c cs).1 h
    exact ih b' (allStorable_addContribution user b b' c hb hc) hcs

/-- A computed balance holds storable amounts only. -/
theorem allStorable_aggregate (user : UserId) (rs : List LoanRecord) (m : Balance)
    (h : aggregate user rs = .ok m) : m.AllStorable := by
  unfold aggregate at h
  rw [addRecords_eq_addAll] at h
  exact allStorable_addAll user Table.empty m _ Balance.allStorable_empty h

/-! ## Nets -/

/-- The sum of the contributions toward a counterparty. -/
def sumToward (other : UserId) : List (UserId × Int) → Int
  | [] => 0
  | c :: cs => if c.1 = other then c.2 + sumToward other cs else sumToward other cs

/-- The sum over a joined list is the sum of the sums. -/
theorem sumToward_append (other : UserId) (cs ds : List (UserId × Int)) :
    sumToward other (cs ++ ds) = sumToward other cs + sumToward other ds := by
  induction cs with
  | nil =>
    rw [List.nil_append, sumToward]
    omega
  | cons c cs ih =>
    rw [List.cons_append, sumToward, sumToward, ih]
    split <;> omega

/-- The sum does not depend on the order. -/
theorem sumToward_perm (other : UserId) {cs ds : List (UserId × Int)} (h : cs.Perm ds) :
    sumToward other cs = sumToward other ds := by
  induction h with
  | nil => rfl
  | cons c _ ih => rw [sumToward, sumToward, ih]
  | swap c d cs =>
    simp only [sumToward]
    split <;> split <;> omega
  | trans _ _ ih ih' => rw [ih, ih']

/-- A counterparty is named by a contribution. -/
def Named (other : UserId) (cs : List (UserId × Int)) : Prop := ∃ c ∈ cs, c.1 = other

/-- The first contribution names its own counterparty. -/
theorem named_cons_iff (other : UserId) (c : UserId × Int) (cs : List (UserId × Int)) :
    Named other (c :: cs) ↔ c.1 = other ∨ Named other cs := by
  simp only [Named, List.mem_cons, exists_eq_or_imp]

/-- Who is not named gets nothing. -/
theorem sumToward_eq_zero (other : UserId) (cs : List (UserId × Int)) (h : ¬ Named other cs) :
    sumToward other cs = 0 := by
  induction cs with
  | nil => rfl
  | cons c cs ih =>
    rw [named_cons_iff, not_or] at h
    rw [sumToward, if_neg h.1, ih h.2]

instance (other : UserId) (cs : List (UserId × Int)) : Decidable (Named other cs) :=
  inferInstanceAs (Decidable (∃ c ∈ cs, _))

/-- What some records owe a user from a counterparty, all in all. -/
def net (user other : UserId) (rs : List LoanRecord) : Int :=
  sumToward other (contributions user rs)

/-- Some record is a loan between a user and a counterparty. -/
def Deals (user other : UserId) (rs : List LoanRecord) : Prop :=
  Named other (contributions user rs)

instance (user other : UserId) (rs : List LoanRecord) : Decidable (Deals user other rs) :=
  inferInstanceAs (Decidable (Named _ _))

/-- The net of a joined list is the sum of the nets. -/
theorem net_append (user other : UserId) (rs ss : List LoanRecord) :
    net user other (rs ++ ss) = net user other rs + net user other ss := by
  unfold net
  rw [contributions_append, sumToward_append]

/-- A joined list deals with whom one of the two deals with. -/
theorem deals_append (user other : UserId) (rs ss : List LoanRecord) :
    Deals user other (rs ++ ss) ↔ Deals user other rs ∨ Deals user other ss := by
  simp only [Deals, Named, contributions_append, List.mem_append]
  constructor
  · rintro ⟨c, hc | hc, h⟩
    · exact .inl ⟨c, hc, h⟩
    · exact .inr ⟨c, hc, h⟩
  · rintro (⟨c, hc, h⟩ | ⟨c, hc, h⟩)
    · exact ⟨c, .inl hc, h⟩
    · exact ⟨c, .inr hc, h⟩

/-- What a look-up finds after contributions have been added. -/
theorem get?_addAll (user : UserId) (b m : Balance) (cs : List (UserId × Int))
    (h : addAll user b cs = .ok m) (other : UserId) :
    m.get? other =
      if Named other cs then some (b.getD other 0 + sumToward other cs) else b.get? other := by
  induction cs generalizing b with
  | nil =>
    cases h
    simp [Named]
  | cons c cs ih =>
    obtain ⟨b', hc, hcs⟩ := (addAll_cons_eq_ok_iff user b m c cs).1 h
    obtain ⟨-, rfl⟩ := (addContribution_eq_ok_iff user b b' c).1 hc
    rw [ih _ hcs, sumToward]
    -- The first contribution is to the amount looked up, or it leaves that amount alone.
    by_cases hco : c.1 = other
    · subst hco
      have hnamed : Named c.1 (c :: cs) := (named_cons_iff c.1 c cs).2 (.inl rfl)
      rw [if_pos hnamed, if_pos rfl, Table.get?_insert_self, Table.getD_eq,
        Table.get?_insert_self, Option.getD_some]
      by_cases hn : Named c.1 cs
      · rw [if_pos hn, Int.add_assoc]
      · rw [if_neg hn, sumToward_eq_zero c.1 cs hn, Int.add_zero]
    · have hiff : Named other (c :: cs) ↔ Named other cs := by
        rw [named_cons_iff, or_iff_right hco]
      rw [if_neg hco, Table.getD_eq, Table.getD_eq, Table.get?_insert_of_ne _ _ (Ne.symm hco)]
      simp only [hiff, Table.getD_eq]

/-- **A balance holds the nets of the counterparties with whom there are loans.** -/
theorem get?_aggregate (user : UserId) (rs : List LoanRecord) (m : Balance)
    (h : aggregate user rs = .ok m) (other : UserId) :
    m.get? other = if Deals user other rs then some (net user other rs) else none := by
  unfold aggregate at h
  rw [addRecords_eq_addAll] at h
  rw [get?_addAll user Table.empty m _ h other]
  simp only [Table.getD_eq, Table.get?_empty, Option.getD_none, Int.zero_add]
  rfl

/-- The net does not depend on the order of the records. -/
theorem net_perm (user other : UserId) {rs ss : List LoanRecord} (h : rs.Perm ss) :
    net user other rs = net user other ss := by
  have hperm : (contributions user rs).Perm (contributions user ss) := h.filterMap _
  exact sumToward_perm other hperm

/-- Whom some records deal with does not depend on their order. -/
theorem deals_perm (user other : UserId) {rs ss : List LoanRecord} (h : rs.Perm ss) :
    Deals user other rs ↔ Deals user other ss := by
  unfold Deals Named contributions
  simp only [(h.filterMap _).mem_iff]

/-- Where there are no loans, the net is zero. -/
theorem net_eq_zero (user other : UserId) (rs : List LoanRecord) (h : ¬ Deals user other rs) :
    net user other rs = 0 :=
  sumToward_eq_zero other (contributions user rs) h

/-- **Two balances are the same if they deal with the same counterparties and have the same nets.**
-/
theorem aggregate_eq_iff (user : UserId) (rs ss : List LoanRecord) (m n : Balance)
    (hm : aggregate user rs = .ok m) (hn : aggregate user ss = .ok n) :
    m = n ↔ ∀ other, (Deals user other rs ↔ Deals user other ss) ∧
      net user other rs = net user other ss := by
  constructor
  · rintro rfl other
    have hr := get?_aggregate user rs m hm other
    have hs := get?_aggregate user ss m hn other
    rw [hr] at hs
    by_cases h : Deals user other rs
    · by_cases h' : Deals user other ss
      · simp only [h, h', if_true, Option.some.injEq] at hs
        exact ⟨⟨fun _ => h', fun _ => h⟩, hs⟩
      · simp [h, h'] at hs
    · by_cases h' : Deals user other ss
      · simp [h, h'] at hs
      · rw [net_eq_zero user other rs h, net_eq_zero user other ss h']
        exact ⟨⟨fun hd => absurd hd h, fun hd => absurd hd h'⟩, rfl⟩
  · intro h
    refine Table.ext_get? fun other => ?_
    obtain ⟨hdeals, hnet⟩ := h other
    rw [get?_aggregate user rs m hm other, get?_aggregate user ss n hn other]
    simp only [hdeals, hnet]

/-! ## Recording -/

/-- What is recorded are the loans. -/
@[simp] theorem map_toLoan_recordAll (first : Nat) (now : Timestamp) (loans : List Loan) :
    (recordAll first now loans).map LoanRecord.toLoan = loans := by
  induction loans generalizing first with
  | nil => rfl
  | cons l ls ih => rw [recordAll, List.map_cons, ih (first + 1)]

/-- Recorded loans obey the rules if they did before. -/
theorem valid_recordAll (first : Nat) (now : Timestamp) {loans : List Loan}
    (h : ∀ l ∈ loans, l.Valid) : ∀ r ∈ recordAll first now loans, r.toLoan.Valid := by
  intro r hr
  refine h r.toLoan ?_
  rw [← map_toLoan_recordAll first now loans]
  exact List.mem_map.2 ⟨r, hr, rfl⟩

/-- All of a batch is recorded at one instant. -/
theorem createdAt_of_mem_recordAll (first : Nat) (now : Timestamp) (loans : List Loan) :
    ∀ r ∈ recordAll first now loans, r.createdAt = now := by
  induction loans generalizing first with
  | nil => simp [recordAll]
  | cons l ls ih =>
    intro r hr
    rcases List.mem_cons.1 hr with rfl | hr
    · rfl
    · exact ih (first + 1) r hr

/-- What is recorded contributes as the loans do. -/
theorem contributions_recordAll (user : UserId) (first : Nat) (now : Timestamp)
    (loans : List Loan) :
    contributions user (recordAll first now loans) =
      loans.filterMap fun l => l.contribution user := by
  induction loans generalizing first with
  | nil => rfl
  | cons l ls ih =>
    have hrest := ih (first + 1)
    unfold contributions at hrest ⊢
    rw [recordAll, List.filterMap_cons, List.filterMap_cons, hrest]

/-- The parties of what is recorded are the parties of the loans. -/
theorem concerns_recordAll_iff (user : UserId) (first : Nat) (now : Timestamp)
    (loans : List Loan) :
    (∃ r ∈ recordAll first now loans, r.Concerns user) ↔ ∃ l ∈ loans, l.Concerns user := by
  induction loans generalizing first with
  | nil => simp [recordAll]
  | cons l ls ih =>
    simp only [recordAll, List.mem_cons, exists_eq_or_imp]
    rw [ih (first + 1)]

/-- A ledger that is in service records valid loans, and does nothing else. -/
theorem append_cases (loans : List Loan) (first : Nat) (now : Timestamp) (l : Ledger) :
    ((∃ e, (l.append loans first now).1 = .error e) ∧ (l.append loans first now).2 = l) ∨
      ((l.append loans first now).1 = .ok (recordAll first now loans) ∧
        (l.append loans first now).2.records = l.records ++ recordAll first now loans) := by
  unfold append
  cases l.failing with
  | true => exact .inl ⟨⟨_, rfl⟩, rfl⟩
  | false =>
    cases Loan.checkAll loans with
    | error e => exact .inl ⟨⟨e, rfl⟩, rfl⟩
    | ok _ => exact .inr ⟨rfl, rfl⟩

/-- What has been recorded obeys the rules. -/
theorem valid_of_append {loans : List Loan} {first : Nat} {now : Timestamp} {l : Ledger}
    {batch : List LoanRecord} (h : (l.append loans first now).1 = .ok batch) :
    ∀ loan ∈ loans, loan.Valid := by
  rw [← Loan.checkAll_eq_ok_iff]
  unfold append at h
  split at h
  · contradiction
  · split at h
    · contradiction
    · assumption

end Ledger

end ExpenseLedger
