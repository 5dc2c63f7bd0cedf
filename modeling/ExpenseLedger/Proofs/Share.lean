import ExpenseLedger.Share
import Mathlib.Algebra.Order.Group.Abs
import Mathlib.Algebra.Order.Ring.Abs
import Mathlib.Tactic.Linarith
import Mathlib.Tactic.Ring
/-!
# Rounded shares

What it means that a share is rounded to the nearest amount, a half going away from zero, is said by
`IsNearestShare` without any division. For totals that are not negative the nearest share is one
quotient of integers, and it turns around with the sign of the total. Main statements:

* `isNearestShare_iff`: there is one nearest share, and it is the one that is computed;
* `share_rounds`: its size, its symmetry, that it grows with the total, and what it leaves to the
  payer.
-/

namespace ExpenseLedger

variable {total s : Int} {members : Nat}

/-- All members together are as near to the total as equal integer shares can come. If there are
two such shares, it is the one that is further from zero. -/
structure IsNearestShare (total : Int) (members : Nat) (s : Int) : Prop where
  /-- No member is more than half a unit off. -/
  near : 2 * |total - s * members| ≤ members
  /-- Where it is just half a unit, the shares exceed the total. -/
  away : 2 * |total - s * members| = members → |total| < |s * members|

/-- What the payer bears in the end: the total without the shares of all others. -/
def payerCost (total : Int) (members : Nat) : Int :=
  total - share total members * (members - 1)

/-! ## The sign of the total -/

/-- A share turns around with the sign of the total. -/
theorem share_neg (total : Int) (members : Nat) :
    share (-total) members = -share total members := by
  unfold share
  rcases Int.lt_trichotomy total 0 with hneg | rfl | hpos
  · rw [if_pos (by omega), if_neg (by omega), ← Int.neg_tdiv]
    congr 1
    omega
  · -- Half of the members is less than all of them, so nothing becomes of it.
    have hhalf : Int.tdiv (members / 2 : Nat) members = 0 := by
      rw [← Int.ofNat_tdiv, Nat.div_div_eq_div_mul]
      rcases Nat.eq_zero_or_pos members with rfl | hpos
      · rfl
      · rw [Nat.div_eq_of_lt (by omega)]
        rfl
    rw [Int.neg_zero, if_pos le_rfl, Int.zero_add, hhalf, Int.neg_zero]
  · rw [if_neg (by omega), if_pos (by omega), ← Int.neg_tdiv]
    congr 1
    omega

/-- So does what is nearest. -/
theorem IsNearestShare.neg (h : IsNearestShare total members s) :
    IsNearestShare (-total) members (-s) := by
  have hdistance : |-total - -s * members| = |total - s * members| := by
    rw [← abs_neg]
    congr 1
    ring
  have hshares : |-s * members| = |s * members| := by rw [neg_mul, abs_neg]
  refine ⟨?_, fun htie => ?_⟩
  · rw [hdistance]
    exact h.near
  · rw [hdistance] at htie
    rw [abs_neg, hshares]
    exact h.away htie

/-! ## Totals that are not negative -/

/-- The share of a total that is not negative, between bounds without any division. -/
theorem eq_share_iff_of_nonneg (hmembers : 0 < members) (htotal : 0 ≤ total) :
    s = share total members ↔
      2 * (s * members) ≤ 2 * total + members ∧
        2 * total + members < 2 * (s * members) + 2 * members := by
  have hsum : 0 ≤ total + (members / 2 : Nat) := by omega
  have hpos : (0 : Int) < members := by omega
  unfold share
  rw [if_pos htotal, Int.tdiv_eq_ediv_of_nonneg hsum, eq_comm, Int.ediv_eq_iff_of_pos hpos]
  omega

/-- What is nearest to a total that is not negative lies between the same bounds. -/
theorem isNearestShare_iff_of_nonneg (hmembers : 0 < members) (htotal : 0 ≤ total) :
    IsNearestShare total members s ↔
      2 * (s * members) ≤ 2 * total + members ∧
        2 * total + members < 2 * (s * members) + 2 * members := by
  constructor
  · intro h
    have hnear : |2 * (total - s * members)| ≤ members := by
      rw [abs_mul]
      exact h.near
    obtain ⟨hle, hge⟩ := abs_le.1 hnear
    refine ⟨by omega, lt_of_le_of_ne (by omega) fun htie => ?_⟩
    -- Half a unit below the total there is a share that exceeds it only if it is negative.
    have hbelow : 2 * (total - s * members) = members := by omega
    have haway : total < |s * members| := by
      have h := h.away (by rw [abs_of_nonneg (by omega)]; exact hbelow)
      rwa [abs_of_nonneg htotal] at h
    rcases lt_or_ge s 0 with hs | hs
    · have hunit : s * members ≤ -1 * members :=
        Int.mul_le_mul_of_nonneg_right (by omega) (by omega)
      omega
    · rw [abs_of_nonneg (Int.mul_nonneg hs (by omega))] at haway
      omega
  · rintro ⟨hle, hlt⟩
    refine ⟨?_, fun htie => ?_⟩
    · have habs : |2 * (total - s * members)| ≤ members := abs_le.2 ⟨by omega, by omega⟩
      rw [abs_mul] at habs
      exact habs
    · rcases abs_choice (total - s * members) with habs | habs
      · rw [habs] at htie
        omega
      · rw [habs] at htie
        rw [abs_of_nonneg htotal, abs_of_nonneg (by omega)]
        omega

/-! ## The nearest share -/

/-- **There is one nearest share, and it is the one that is computed.** -/
theorem isNearestShare_iff (hmembers : 0 < members) :
    IsNearestShare total members s ↔ s = share total members := by
  rcases Int.le_total 0 total with htotal | htotal
  · rw [isNearestShare_iff_of_nonneg hmembers htotal, eq_share_iff_of_nonneg hmembers htotal]
  · have hopposite : IsNearestShare (-total) members (-s) ↔ -s = share (-total) members := by
      have hnonneg : 0 ≤ -total := by omega
      rw [isNearestShare_iff_of_nonneg hmembers hnonneg, eq_share_iff_of_nonneg hmembers hnonneg]
    rw [share_neg, neg_inj] at hopposite
    rw [← hopposite]
    refine ⟨IsNearestShare.neg, fun h => ?_⟩
    have hback := h.neg
    rwa [neg_neg, neg_neg] at hback

/-! ## Its size -/

/-- The share of a total that is not negative is not negative. -/
theorem share_nonneg (hmembers : 0 < members) (htotal : 0 ≤ total) : 0 ≤ share total members := by
  obtain ⟨-, hlt⟩ := (eq_share_iff_of_nonneg hmembers htotal).1 rfl
  have habove : -1 * (members : Int) < share total members * members := by omega
  have hshare := lt_of_mul_lt_mul_right habove (by omega)
  omega

/-- The share of a total that is not negative does not exceed it. -/
theorem share_le (hmembers : 0 < members) (htotal : 0 ≤ total) : share total members ≤ total := by
  obtain ⟨hle, -⟩ := (eq_share_iff_of_nonneg hmembers htotal).1 rfl
  have hall : total ≤ total * members := le_mul_of_one_le_right htotal (by omega)
  have hbelow : share total members * members < (total + 1) * members := by
    rw [add_mul]
    omega
  have hshare := lt_of_mul_lt_mul_right hbelow (by omega)
  omega

/-- No share is further from zero than the total. -/
theorem abs_share_le (hmembers : 0 < members) : |share total members| ≤ |total| := by
  rcases Int.le_total 0 total with htotal | htotal
  · rw [abs_of_nonneg htotal, abs_of_nonneg (share_nonneg hmembers htotal)]
    exact share_le hmembers htotal
  · have hnonneg : 0 ≤ -total := by omega
    rw [← abs_neg, ← share_neg, ← abs_neg total, abs_of_nonneg hnonneg,
      abs_of_nonneg (share_nonneg hmembers hnonneg)]
    exact share_le hmembers hnonneg

/-- The share of an amount that can be stored can be stored. -/
theorem storable_share (hmembers : 0 < members) (h : Amount.Storable total) :
    Amount.Storable (share total members) := by
  have hsize : |share total members| ≤ |total| := abs_share_le hmembers
  unfold Amount.Storable Amount.lowest Amount.highest at *
  rcases Int.le_total 0 total with htotal | htotal
  · have hshare := share_nonneg hmembers htotal
    rw [abs_of_nonneg htotal, abs_of_nonneg hshare] at hsize
    omega
  · have hshare := share_nonneg hmembers (show 0 ≤ -total by omega)
    rw [share_neg] at hshare
    rw [abs_of_nonpos htotal, abs_of_nonpos (by omega)] at hsize
    omega

/-- An expense leaves a share for everybody from half a unit for each member on. -/
theorem share_pos_iff (hmembers : 0 < members) (htotal : 0 ≤ total) :
    0 < share total members ↔ (members : Int) ≤ 2 * total := by
  obtain ⟨hle, hlt⟩ := (eq_share_iff_of_nonneg hmembers htotal).1 rfl
  constructor
  · intro hpos
    have hunit : (members : Int) ≤ share total members * members :=
      le_mul_of_one_le_left (by omega) hpos
    omega
  · intro hhalf
    have habove : 0 * (members : Int) < share total members * members := by omega
    exact lt_of_mul_lt_mul_right habove (by omega)

/-- Larger totals do not have smaller shares, as long as they are not negative. -/
theorem share_le_share_of_nonneg {larger : Int} (hmembers : 0 < members) (htotal : 0 ≤ total)
    (h : total ≤ larger) : share total members ≤ share larger members := by
  obtain ⟨hle, -⟩ := (eq_share_iff_of_nonneg hmembers htotal).1 rfl
  have hlarger : 0 ≤ larger := htotal.trans h
  obtain ⟨-, hlt⟩ := (eq_share_iff_of_nonneg hmembers hlarger).1 rfl
  have hbelow : share total members * members < (share larger members + 1) * members := by
    rw [add_mul]
    omega
  have hshare := lt_of_mul_lt_mul_right hbelow (by omega)
  omega

/-- Shares grow with the total. -/
theorem share_le_share {larger : Int} (hmembers : 0 < members) (h : total ≤ larger) :
    share total members ≤ share larger members := by
  rcases Int.le_total 0 total with htotal | htotal
  · exact share_le_share_of_nonneg hmembers htotal h
  · rcases Int.le_total 0 larger with hlarger | hlarger
    · have hless := share_nonneg hmembers (show 0 ≤ -total by omega)
      have hmore := share_nonneg hmembers hlarger
      rw [share_neg] at hless
      omega
    · have hopposite := share_le_share_of_nonneg hmembers (show 0 ≤ -larger by omega)
        (show -larger ≤ -total by omega)
      rw [share_neg, share_neg] at hopposite
      omega

/-! ## What is left to the payer -/

/-- What the payer bears differs from the exact share by what the rounding leaves of each of the
others. -/
theorem mul_payerCost_sub (total : Int) (members : Nat) :
    members * payerCost total members - total =
      (members - 1) * (total - share total members * members) := by
  unfold payerCost
  ring

/-- The payer is off the exact share by at most half a unit for each of the others. -/
theorem payerCost_near (hmembers : 0 < members) :
    2 * |members * payerCost total members - total| ≤ members * (members - 1) := by
  have hnearest : IsNearestShare total members (share total members) :=
    (isNearestShare_iff hmembers).2 rfl
  have hnear := hnearest.near
  have hothers : (0 : Int) ≤ members - 1 := by omega
  calc 2 * |members * payerCost total members - total|
      = (members - 1) * (2 * |total - share total members * members|) := by
        rw [mul_payerCost_sub, abs_mul, abs_of_nonneg hothers]
        ring
    _ ≤ (members - 1) * members := Int.mul_le_mul_of_nonneg_left hnear hothers
    _ = members * (members - 1) := Int.mul_comm _ _

/-- The payer gains nothing when the exact share is at least half a unit for each of the others. -/
theorem payerCost_nonneg (hmembers : 0 < members)
    (h : (members : Int) * (members - 1) ≤ 2 * total) : 0 ≤ payerCost total members := by
  have hnear : |2 * (members * payerCost total members - total)| ≤ members * (members - 1) := by
    rw [abs_mul]
    exact payerCost_near hmembers
  have hbelow := (abs_le.1 hnear).1
  have habove : (members : Int) * -1 < members * payerCost total members := by omega
  have hcost := lt_of_mul_lt_mul_left habove (by omega)
  omega

/-- **How shares are rounded.** The share is the one nearest share, a half going away from zero. It
is not further from zero than the total, so it can be stored if the total can; it turns around with
the sign of the total, and grows with the total. The payer of an expense bears the exact share, but
for at most half a unit for each of the others, and never less than nothing where the exact share is
as large as that. -/
theorem share_rounds (members : Nat) (hmembers : 0 < members) :
    (∀ total s, IsNearestShare total members s ↔ s = share total members) ∧
    (∀ total, |share total members| ≤ |total|) ∧
    (∀ total, Amount.Storable total → Amount.Storable (share total members)) ∧
    (∀ total, share (-total) members = -share total members) ∧
    (∀ total larger, total ≤ larger → share total members ≤ share larger members) ∧
    ∀ total, 2 * |members * payerCost total members - total| ≤ members * (members - 1) ∧
      ((members : Int) * (members - 1) ≤ 2 * total → 0 ≤ payerCost total members) :=
  ⟨fun _ _ => isNearestShare_iff hmembers, fun _ => abs_share_le hmembers,
    fun _ => storable_share hmembers, fun total => share_neg total members,
    fun _ _ => share_le_share hmembers,
    fun _ => ⟨payerCost_near hmembers, payerCost_nonneg hmembers⟩⟩

/-- Two members who share the greatest amount, or its opposite, bear a half of it that is rounded
away from zero. -/
theorem share_rounds_two :
    0 < 2 ∧ IsNearestShare Amount.highest 2 4611686018427387904 ∧
    share (-Amount.highest) 2 = -4611686018427387904 ∧
    2 * |2 * payerCost Amount.highest 2 - Amount.highest| ≤ 2 ∧
    0 ≤ payerCost Amount.highest 2 := by
  obtain ⟨hnearest, -, -, hneg, -, hpayer⟩ := share_rounds 2 (by decide)
  obtain ⟨hnear, hnonneg⟩ := hpayer Amount.highest
  refine ⟨by decide, (hnearest _ _).2 (by decide), ?_, hnear, hnonneg (by decide)⟩
  rw [hneg]
  decide

end ExpenseLedger
