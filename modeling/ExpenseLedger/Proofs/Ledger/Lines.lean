import ExpenseLedger.Balance
import ExpenseLedger.Table.Lemmas
import Mathlib.Data.List.Nodup
/-!
# The lines of a balance

A balance is a map, and the entries of a map can be gone through in any order. Whatever the order,
the lines that are sorted by their counterparties are the same, and they are the lines of the
balance: the only list of lines that ascends strictly and holds exactly the entries. So the list
tells the balance. Main statements:

* `Balance.eq_lines_iff`: the one ascending list of the entries;
* `Balance.filter_lines`: what the list holds of each counterparty;
* `BalanceEntry.ofVisits_unique`: the sorted list, for every order of the entries.
-/

namespace ExpenseLedger

namespace BalanceEntry

/-! ## Ascending lists of lines -/

/-- The counterparties of the lines ascend strictly. -/
def Ascending (lines : List BalanceEntry) : Prop :=
  lines.Pairwise fun l l' => l.counterparty < l'.counterparty

instance (lines : List BalanceEntry) : Decidable (Ascending lines) :=
  inferInstanceAs (Decidable (List.Pairwise _ _))

/-- No line stands twice in an ascending list. -/
theorem Ascending.nodup {lines : List BalanceEntry} (h : Ascending lines) : lines.Nodup := by
  refine List.Pairwise.imp ?_ h
  rintro l l' hlt rfl
  exact OrderedKey.irrefl _ hlt

/-- **Ascending lists with the same lines are equal.** -/
theorem Ascending.eq_of_mem_iff {lines lines' : List BalanceEntry} (h : Ascending lines)
    (h' : Ascending lines') (hmem : ∀ l, l ∈ lines ↔ l ∈ lines') : lines = lines' := by
  have hperm : lines.Perm lines' := (List.perm_ext_iff_of_nodup h.nodup h'.nodup).2 hmem
  refine List.Perm.eq_of_pairwise ?_ h h' hperm
  intro l l' _ _ hlt hgt
  exact absurd (OrderedKey.trans hlt hgt) (OrderedKey.irrefl _)

end BalanceEntry

/-! ## The lines of a balance -/

namespace Balance

variable (b : Balance)

/-- The lines ascend. -/
theorem ascending_lines : BalanceEntry.Ascending b.lines :=
  List.pairwise_map.2 b.ascending

/-- The lines are the entries. -/
theorem mem_lines_iff (l : BalanceEntry) :
    l ∈ b.lines ↔ b.get? l.counterparty = some l.amount := by
  rw [Table.get?_eq_some_iff, lines, List.mem_map]
  constructor
  · rintro ⟨e, he, rfl⟩
    exact he
  · exact fun h => ⟨(l.counterparty, l.amount), h, rfl⟩

/-- **The lines are the only ascending list that holds exactly the entries.** -/
theorem eq_lines_iff (lines : List BalanceEntry) :
    lines = b.lines ↔ BalanceEntry.Ascending lines ∧
      ∀ l, l ∈ lines ↔ b.get? l.counterparty = some l.amount := by
  constructor
  · rintro rfl
    exact ⟨b.ascending_lines, b.mem_lines_iff⟩
  · rintro ⟨hascending, hmem⟩
    refine hascending.eq_of_mem_iff b.ascending_lines fun l => ?_
    rw [hmem, mem_lines_iff]

/-- **A counterparty has one line if the balance has an entry, and none otherwise.** -/
theorem filter_lines (user : UserId) :
    b.lines.filter (fun l => l.counterparty = user) =
      ((b.get? user).map (BalanceEntry.mk user)).toList := by
  refine BalanceEntry.Ascending.eq_of_mem_iff (b.ascending_lines.filter _) ?_ fun l => ?_
  · cases b.get? user with
    | none => exact List.Pairwise.nil
    | some amount => exact List.pairwise_singleton _ _
  · rw [List.mem_filter, mem_lines_iff, Option.mem_toList, Option.map_eq_some_iff]
    simp only [decide_eq_true_eq]
    constructor
    · rintro ⟨h, rfl⟩
      exact ⟨l.amount, h, rfl⟩
    · rintro ⟨amount, h, rfl⟩
      exact ⟨h, rfl⟩

/-- **Balances with the same lines are the same map.** -/
theorem lines_eq_iff (b b' : Balance) :
    b.lines = b'.lines ↔ ∀ user, b.get? user = b'.get? user := by
  constructor
  · intro h user
    refine Option.ext fun amount => ?_
    rw [← b.mem_lines_iff ⟨user, amount⟩, h, b'.mem_lines_iff]
  · intro h
    rw [Table.ext_get? h]

/-! ## Going through a balance -/

/-- The list goes through the entries of the balance, in whatever order: each counterparty that has
an entry stands in it once, and with its amount. -/
structure VisitedBy (visits : List (UserId × Int)) : Prop where
  /-- Each counterparty stands in the list once. -/
  once : (visits.map (·.1)).Nodup
  /-- What stands in the list are the entries. -/
  entries : ∀ user amount, (user, amount) ∈ visits ↔ b.get? user = some amount

/-- The orders in which a balance is gone through are those of its entries. -/
theorem visitedBy_iff_perm (visits : List (UserId × Int)) :
    b.VisitedBy visits ↔ visits.Perm b.entries := by
  constructor
  · intro h
    refine (List.perm_ext_iff_of_nodup (List.Nodup.of_map _ h.once)
      (List.Nodup.of_map _ b.nodup_keys)).2 fun e => ?_
    rw [← Table.get?_eq_some_iff b e.1 e.2]
    exact h.entries e.1 e.2
  · intro h
    refine ⟨(h.map _).nodup_iff.2 b.nodup_keys, fun user amount => ?_⟩
    rw [h.mem_iff, Table.get?_eq_some_iff]

end Balance

namespace BalanceEntry

/-- The entries of a balance, in the order in which they are visited, as lines that are then sorted
by their counterparties. -/
def ofVisits (visits : List (UserId × Int)) : List BalanceEntry :=
  (visits.map fun e => ⟨e.1, e.2⟩).mergeSort fun l l' => !decide (l'.counterparty < l.counterparty)

variable {b : Balance} {visits : List (UserId × Int)}

/-- In the sorted lines no line stands behind a greater one. -/
theorem pairwise_ofVisits (visits : List (UserId × Int)) :
    (ofVisits visits).Pairwise fun l l' => ¬ l'.counterparty < l.counterparty := by
  refine (List.pairwise_mergeSort ?_ ?_ _).imp ?_
  · intro l l' l'' h h'
    simp only [Bool.not_eq_true', decide_eq_false_iff_not] at h h' ⊢
    intro hlt
    rcases OrderedKey.total l'.counterparty l''.counterparty with hc | hc | hc
    · exact h (OrderedKey.trans hc hlt)
    · exact h (hc ▸ hlt)
    · exact h' hc
  · intro l l'
    simp only [Bool.or_eq_true, Bool.not_eq_true', decide_eq_false_iff_not]
    by_cases hlt : l'.counterparty < l.counterparty
    · exact .inr fun hgt => OrderedKey.irrefl _ (OrderedKey.trans hlt hgt)
    · exact .inl hlt
  · intro l l' h
    simpa using h

/-- **In whatever order the entries are visited**, sorting makes the lines of the balance of them. -/
theorem ofVisits_eq_lines (h : b.VisitedBy visits) : ofVisits visits = b.lines := by
  have hperm : (ofVisits visits).Perm b.lines :=
    (List.mergeSort_perm _ _).trans (((b.visitedBy_iff_perm visits).1 h).map _)
  have hlines : b.lines.Pairwise fun l l' => ¬ l'.counterparty < l.counterparty :=
    b.ascending_lines.imp fun hlt hgt => OrderedKey.irrefl _ (OrderedKey.trans hlt hgt)
  refine List.Perm.eq_of_pairwise ?_ (pairwise_ofVisits visits) hlines hperm
  intro l l' hl hl' hle hge
  -- Neither is greater, so they belong to one counterparty, who has one entry.
  have huser : l.counterparty = l'.counterparty := by
    rcases OrderedKey.total l.counterparty l'.counterparty with hc | hc | hc
    · exact absurd hc hge
    · exact hc
    · exact absurd hc hle
  have hamount : l.amount = l'.amount := by
    have hentry := (b.mem_lines_iff l').1 hl'
    rw [← huser, (b.mem_lines_iff l).1 (hperm.subset hl)] at hentry
    exact Option.some.inj hentry
  cases l
  cases l'
  rw [BalanceEntry.mk.injEq]
  exact ⟨huser, hamount⟩

/-- **The sorted lines are the one sorted form of a balance.** In whatever order the entries of the
balance are visited, the lines are the same; their counterparties ascend strictly; a counterparty
with an entry has one line with the amount of the entry, be it zero, and others have none; no other
list is like that; and the lines of two balances are the same only if the balances are. -/
theorem ofVisits_unique (b : Balance) (visits : List (UserId × Int)) (h : b.VisitedBy visits) :
    ofVisits visits = b.lines ∧ Ascending (ofVisits visits) ∧
      (∀ user, (ofVisits visits).filter (fun l => l.counterparty = user) =
        ((b.get? user).map (BalanceEntry.mk user)).toList) ∧
      (∀ lines, lines = ofVisits visits ↔
        Ascending lines ∧ ∀ l, l ∈ lines ↔ b.get? l.counterparty = some l.amount) ∧
      ∀ (b' : Balance) (visits' : List (UserId × Int)), b'.VisitedBy visits' →
        (ofVisits visits' = ofVisits visits ↔ ∀ user, b'.get? user = b.get? user) := by
  rw [ofVisits_eq_lines h]
  refine ⟨rfl, b.ascending_lines, b.filter_lines, b.eq_lines_iff, fun b' visits' h' => ?_⟩
  rw [ofVisits_eq_lines h', Balance.lines_eq_iff]

namespace Sample

/-- A balance with three counterparties, with one of whom all is settled. -/
def settled : Balance :=
  ((Table.empty.insert ⟨Id.ofNat 11⟩ 5).insert ⟨Id.ofNat 12⟩ 0).insert ⟨Id.ofNat 13⟩ (-7)

/-- Its entries in another order. -/
def disorder : List (UserId × Int) := [(⟨Id.ofNat 13⟩, -7), (⟨Id.ofNat 11⟩, 5), (⟨Id.ofNat 12⟩, 0)]

end Sample

open ExpenseLedger.BalanceEntry.Sample in
/-- The general statement about entries out of order. -/
theorem ofVisits_unique_disorder :
    settled.VisitedBy disorder ∧
      ofVisits disorder = settled.lines ∧ Ascending (ofVisits disorder) ∧
      (∀ user, (ofVisits disorder).filter (fun l => l.counterparty = user) =
        ((settled.get? user).map (BalanceEntry.mk user)).toList) ∧
      (∀ lines, lines = ofVisits disorder ↔
        Ascending lines ∧ ∀ l, l ∈ lines ↔ settled.get? l.counterparty = some l.amount) ∧
      ∀ (b' : Balance) (visits' : List (UserId × Int)), b'.VisitedBy visits' →
        (ofVisits visits' = ofVisits disorder ↔ ∀ user, b'.get? user = settled.get? user) := by
  have hvisits : settled.VisitedBy disorder :=
    (settled.visitedBy_iff_perm disorder).2 (by decide +kernel)
  exact ⟨hvisits, ofVisits_unique settled disorder hvisits⟩

end BalanceEntry

end ExpenseLedger
