import ExpenseLedger.Proofs.Cache.Codec
import ExpenseLedger.Proofs.Cache.Entries
import ExpenseLedger.Proofs.Ledger.Volume
/-!
# How far cached balances can go

Adding amounts to a cached balance moves its nets by no more than the sum of their magnitudes, in
whatever order they come and however they cancel out. So while the entries are within bounds that
leave room for that sum, an update does not overflow (`Cache.WithinBounds.applyDeltas`). Filling an
entry needs a balance within its bound, and nothing else can break a bound.
-/

namespace ExpenseLedger

/-- The error says that a sum cannot be stored. -/
def Error.isOverflow : Error → Bool
  | balanceOverflow _ _ | fieldOverflow _ => true
  | _ => false

namespace Cache

/-! ## Amounts to be added -/

/-- The sum of the magnitudes of some amounts. -/
def extent (ds : List (UserId × Int)) : Int := (ds.map fun d => (d.2.natAbs : Int)).sum

/-- A first amount adds its magnitude. -/
theorem extent_cons (d : UserId × Int) (ds : List (UserId × Int)) :
    extent (d :: ds) = d.2.natAbs + extent ds :=
  List.sum_cons

/-- A sum of magnitudes is not negative. -/
theorem extent_nonneg (ds : List (UserId × Int)) : 0 ≤ extent ds := by
  induction ds with
  | nil => exact Int.le_refl 0
  | cons d ds ih =>
    rw [extent_cons]
    omega

/-- **Adding amounts succeeds while there is room for their magnitudes, and takes up no more.** -/
theorem exists_addDeltas (m : Balance) (ds : List (UserId × Int)) (v : Int) (hm : m.Within v)
    (hv : v + extent ds ≤ Amount.highest) :
    ∃ m', addDeltas (Fields.ofBalance m) ds = .ok (Fields.ofBalance m') ∧
      m'.Within (v + extent ds) := by
  induction ds generalizing m v with
  | nil => exact ⟨m, rfl, hm.mono (by simp [extent])⟩
  | cons d ds ih =>
    have hrest := extent_nonneg ds
    rw [extent_cons, ← Int.add_assoc] at hv ⊢
    have hstorable : m.AllStorable := hm.allStorable (by omega)
    obtain ⟨hlow, hhigh⟩ := hm d.1
    have hsum : Amount.Storable (m.getD d.1 0 + d.2) :=
      Balance.storable_of_bounds (v := v + d.2.natAbs) (by omega) (by omega) (by omega)
    have hadd : addDelta (Fields.ofBalance m) d =
        .ok (Fields.ofBalance (m.insert d.1 (m.getD d.1 0 + d.2))) := by
      rw [addDelta_eq_ok_iff, fieldAmount_ofBalance m hstorable]
      exact ⟨_, rfl, hsum, ofBalance_insert _ _ _⟩
    rw [addDeltas, hadd]
    exact ih _ (v + d.2.natAbs) ((hm.mono (by omega)).insert d.1 _ (by omega) (by omega)) hv

/-! ## Entries -/

/-- Every entry holds a balance within the bound for its user. -/
def WithinBounds (bound : UserId → Int) (c : Cache) : Prop :=
  ∀ user fields, c.entryOf user = some fields →
    ∃ m, fields = Fields.ofBalance m ∧ m.Within (bound user)

namespace WithinBounds

variable {bound bound' : UserId → Int} {c c' : Cache}

/-- Where there are no entries they are within any bounds. -/
theorem empty (bound : UserId → Int) : Cache.empty.WithinBounds bound := by
  intro user fields h
  contradiction

/-- Fewer entries are within the same bounds, and within larger ones. -/
theorem mono (h : c.WithinBounds bound) (hbound : ∀ user, bound user ≤ bound' user)
    (hentries : ∀ user fields, c'.entryOf user = some fields → c.entryOf user = some fields) :
    c'.WithinBounds bound' := by
  intro user fields hentry
  obtain ⟨m, hfields, hm⟩ := h user fields (hentries user fields hentry)
  exact ⟨m, hfields, hm.mono (hbound user)⟩

/-- Replacing an entry by a balance within its bound. -/
theorem populate (h : c.WithinBounds bound) {user : UserId} {m : Balance}
    (hm : m.Within (bound user)) : (c.populate user m).2.WithinBounds bound := by
  rcases populate_cases user m c with ⟨-, -, hsame⟩ | ⟨-, -, -, hentries⟩
  · rw [hsame]
    exact h
  · intro v fields hentry
    rw [hentries v] at hentry
    by_cases hv : v = user
    · rw [if_pos hv] at hentry
      cases hentry
      exact ⟨m, rfl, hv ▸ hm⟩
    · rw [if_neg hv] at hentry
      exact h v fields hentry

/-- **An update does not overflow where its bound leaves room**, and stays within the bound then. -/
theorem applyDeltas (h : c.WithinBounds bound) (user : UserId) (ds : List (UserId × Int))
    (hroom : bound user + extent ds ≤ bound' user) (hothers : ∀ v, v ≠ user → bound v ≤ bound' v)
    (hstorable : bound' user ≤ Amount.highest) :
    (c.applyDeltas user ds).2.WithinBounds bound' ∧
      ∀ e, (c.applyDeltas user ds).1 = .error e → e.isOverflow = false := by
  have hextent := extent_nonneg ds
  have hmono : c.WithinBounds bound' := by
    refine h.mono (fun v => ?_) fun _ _ hentry => hentry
    by_cases hv : v = user
    · rw [hv]
      omega
    · exact hothers v hv
  unfold Cache.applyDeltas
  split
  · refine ⟨hmono, fun e he => ?_⟩
    cases he
    rfl
  · split
    · refine ⟨hmono, fun e he => ?_⟩
      cases he
      rfl
    · split
      · rename_i hmarked
        -- The entry is the text of a balance, to which the amounts are added.
        have hentry : c.entryOf user = some ((c.fields? user).getD Table.empty) := by
          unfold entryOf
          rw [if_pos hmarked]
        obtain ⟨m, hfields, hm⟩ := h user _ hentry
        obtain ⟨m', hadd, hm'⟩ := exists_addDeltas m ds (bound user) hm (by omega)
        dsimp only
        rw [hfields, hadd]
        refine ⟨fun v fields hv => ?_, fun e he => ?_⟩
        · change (c.setFields user (Fields.ofBalance m')).entryOf v = some fields at hv
          rw [entryOf_setFields] at hv
          by_cases hvu : v = user
          · rw [if_pos hvu, hentry] at hv
            cases hv
            exact ⟨m', rfl, hvu ▸ hm'.mono hroom⟩
          · rw [if_neg hvu] at hv
            exact hmono v fields hv
        · contradiction
      · refine ⟨hmono, fun e he => ?_⟩
        contradiction

end WithinBounds

end Cache

end ExpenseLedger
