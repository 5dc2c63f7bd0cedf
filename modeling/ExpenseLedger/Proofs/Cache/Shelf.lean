import ExpenseLedger.Proofs.Cache.Entries
import ExpenseLedger.Proofs.Transcript
/-!
# The cache as a map from users to balances

The cache keeps texts under keys, in hashes and markers. Seen from outside it is a shelf, which has
at most one balance for each user: no entry, an empty one and a full one are told apart by what is
answered, and adding amounts is arithmetic on the balance. Main statements:

* `Cache.holds_perform`: one call does to the cache what it does to the shelf;
* `Cache.transcript_eq_shelf`: so all calls are answered alike, and a user gets the same answers
  whatever the others do.
-/

namespace ExpenseLedger

/-! ## Adding amounts -/

namespace Balance

/-- The balance with amounts added to it, whatever they come to. -/
def plus (b : Balance) (ds : List (UserId × Int)) : Balance :=
  ds.foldl (fun b d => b.insert d.1 (b.getD d.1 0 + d.2)) b

/-- The first counterparty whose running sum leaves the storable range. -/
def overflow? (b : Balance) : List (UserId × Int) → Option UserId
  | [] => none
  | d :: ds =>
    if Amount.Storable (b.getD d.1 0 + d.2) then
      overflow? (b.insert d.1 (b.getD d.1 0 + d.2)) ds
    else some d.1

/-- All running sums stay in the storable range when amounts are added one after the other. -/
def Takes (b : Balance) (ds : List (UserId × Int)) : Prop :=
  ∀ before d after, ds = before ++ d :: after →
    Amount.Storable (b.getD d.1 0 + Ledger.sumToward d.1 (before ++ [d]))

/-- The first amount is added, and then the others. -/
theorem plus_cons (b : Balance) (d : UserId × Int) (ds : List (UserId × Int)) :
    b.plus (d :: ds) = plus (b.insert d.1 (b.getD d.1 0 + d.2)) ds := rfl

/-- Adding an amount changes the amount of its counterparty. -/
theorem getD_insert_add (b : Balance) (d : UserId × Int) (other : UserId) :
    (b.insert d.1 (b.getD d.1 0 + d.2)).getD other 0 =
      b.getD other 0 + Ledger.sumToward other [d] := by
  rw [Table.getD_eq, Table.get?_insert, Ledger.sumToward, Ledger.sumToward]
  by_cases h : d.1 = other
  · subst h
    rw [if_pos rfl, if_pos rfl, Option.getD_some]
    omega
  · rw [if_neg (Ne.symm h), if_neg h, Table.getD_eq]
    omega

/-- **All amounts are added, counterparty by counterparty, and who is not named keeps theirs.** -/
theorem get?_plus (b : Balance) (ds : List (UserId × Int)) (other : UserId) :
    (b.plus ds).get? other =
      if Ledger.Named other ds then some (b.getD other 0 + Ledger.sumToward other ds)
      else b.get? other := by
  induction ds generalizing b with
  | nil => simp [plus, Ledger.Named]
  | cons d ds ih =>
    have hsum : Ledger.sumToward other (d :: ds) =
        Ledger.sumToward other [d] + Ledger.sumToward other ds :=
      Ledger.sumToward_append other [d] ds
    have hnamed := Ledger.named_cons_iff other d ds
    rw [plus_cons, ih, getD_insert_add, hsum]
    by_cases hds : Ledger.Named other ds
    · rw [if_pos hds, if_pos (hnamed.2 (.inr hds)), Int.add_assoc]
    · rw [if_neg hds, Table.get?_insert]
      by_cases hd : d.1 = other
      · rw [if_pos hd.symm, if_pos (hnamed.2 (.inl hd)), Ledger.sumToward_eq_zero other ds hds,
          Ledger.sumToward, if_pos hd, Ledger.sumToward, hd]
        congr 1
        omega
      · have hnone : ¬ Ledger.Named other (d :: ds) := fun h => (hnamed.1 h).elim hd hds
        rw [if_neg (Ne.symm hd), if_neg hnone]

/-- What is added without overflow leaves storable amounts. -/
theorem allStorable_plus (b : Balance) (h : b.AllStorable) (ds : List (UserId × Int))
    (hds : b.overflow? ds = none) : (b.plus ds).AllStorable := by
  induction ds generalizing b with
  | nil => exact h
  | cons d ds ih =>
    rw [overflow?] at hds
    split at hds
    · rename_i hd
      exact ih _ (allStorable_insert b h d.1 _ hd) hds
    · contradiction

/-- **Nothing overflows exactly if all running sums can be stored.** -/
theorem overflow?_eq_none_iff (b : Balance) (ds : List (UserId × Int)) :
    b.overflow? ds = none ↔ b.Takes ds := by
  unfold Takes
  induction ds generalizing b with
  | nil => simp [overflow?]
  | cons d ds ih =>
    have hfirst : b.getD d.1 0 + Ledger.sumToward d.1 [d] = b.getD d.1 0 + d.2 := by
      simp [Ledger.sumToward]
    rw [overflow?]
    constructor
    · intro h
      split at h
      · rename_i hd
        rintro (_ | ⟨c, before⟩) e after heq
        · cases heq
          rw [List.nil_append, hfirst]
          exact hd
        · cases heq
          have hrest := (ih _).1 h before e after rfl
          rw [getD_insert_add, Int.add_assoc, ← Ledger.sumToward_append] at hrest
          exact hrest
      · contradiction
    · intro h
      have hd := h [] d ds rfl
      rw [List.nil_append, hfirst] at hd
      rw [if_pos hd, ih]
      rintro before e after rfl
      have hrest := h (d :: before) e after rfl
      rw [getD_insert_add, Int.add_assoc, ← Ledger.sumToward_append]
      exact hrest

end Balance

/-! ## Calls -/

namespace Cache

/-- What every kind of cache can be asked for. A balance that is put in has storable amounts. -/
inductive Access where
  /-- Whether a user has an entry. -/
  | hasEntry (user : UserId)
  /-- The entry of a user. -/
  | lookup (user : UserId)
  /-- Replacing the entry of a user. -/
  | populate (user : UserId) (balance : Balance) (h : balance.AllStorable)
  /-- Dropping the entry of a user. -/
  | clear (user : UserId)

/-- What can be asked of the cache in memory, and what can be done to it. -/
inductive Call where
  /-- Reading, replacing and dropping entries. -/
  | access (a : Access)
  /-- Adding amounts to the entry of a user. -/
  | applyDeltas (user : UserId) (deltas : List (UserId × Int))
  /-- The cache goes out of service or comes back. -/
  | setFailing (failing : Bool)
  /-- The cache begins or ceases to refuse updates. -/
  | setFailingUpdates (failing : Bool)

/-- What a call that succeeds is answered. -/
inductive Answer where
  /-- Whether there is an entry. -/
  | present (found : Bool)
  /-- What a look-up finds. -/
  | found (result : Lookup)
  /-- What an update did. -/
  | changed (outcome : DeltaOutcome)
  /-- It is done. -/
  | done
deriving DecidableEq

/-- The user whose entry is asked for. -/
def Access.user : Access → UserId
  | hasEntry user | lookup user | populate user _ _ | clear user => user

/-- Performs an access on the cache in memory. -/
def Access.perform : Access → Cache → Except Error Answer × Cache
  | hasEntry user, c => ((c.hasEntry user).1.map .present, (c.hasEntry user).2)
  | lookup user, c => ((c.lookup user).1.map .found, (c.lookup user).2)
  | populate user balance _, c =>
    ((c.populate user balance).1.map fun _ => .done, (c.populate user balance).2)
  | clear user, c => ((c.clear user).1.map fun _ => .done, (c.clear user).2)

/-- Performs a call on the cache in memory. -/
def Call.perform : Call → Cache → Except Error Answer × Cache
  | access a, c => a.perform c
  | applyDeltas user deltas, c =>
    ((c.applyDeltas user deltas).1.map .changed, (c.applyDeltas user deltas).2)
  | setFailing failing, c => (.ok .done, { c with failing })
  | setFailingUpdates failing, c => (.ok .done, { c with failingUpdates := failing })

/-- The call is made for a user. -/
def Call.isOf (user : UserId) : Call → Bool
  | access a => a.user = user
  | applyDeltas v _ => v = user
  | setFailing _ | setFailingUpdates _ => false

/-- The call is made for a user or for nobody in particular. -/
def Call.matters (user : UserId) : Call → Bool
  | access a => a.user = user
  | applyDeltas v _ => v = user
  | setFailing _ | setFailingUpdates _ => true

/-- The calls made for a user, each with its answer. -/
def answersTo (user : UserId) (calls : List Call) (answers : List (Except Error Answer)) :
    List (Call × Except Error Answer) :=
  (calls.zip answers).filter fun e => e.1.isOf user

end Cache

/-! ## The shelf -/

/-- A shelf has at most one balance for each user. It can be out of service, or refuse updates. -/
structure Shelf where
  /-- The balances. -/
  entry : UserId → Option Balance
  /-- Every operation fails. -/
  failing : Bool
  /-- Every update fails. -/
  failingUpdates : Bool

namespace Shelf

open Cache

/-- The shelf without balances. -/
def empty : Shelf := ⟨fun _ => none, false, false⟩

/-- Puts a balance in the place of a user, or leaves that place empty. -/
def put (user : UserId) (balance? : Option Balance) (s : Shelf) : Shelf :=
  { s with entry := fun v => if v = user then balance? else s.entry v }

/-- Performs an access on a shelf that is in service. -/
def access : Access → Shelf → Answer × Shelf
  | .hasEntry user, s => (.present (s.entry user).isSome, s)
  | .lookup user, s =>
    (.found (match s.entry user with
      | some balance => .hit balance
      | none => .notCached), s)
  | .populate user balance _, s => (.done, s.put user (some balance))
  | .clear user, s => (.done, s.put user none)

/-- Adds amounts to the balance of a user on a shelf that takes updates: all of them, or none if a
running sum leaves the storable range. -/
def applyDeltas (user : UserId) (deltas : List (UserId × Int)) (s : Shelf) :
    Except Error Answer × Shelf :=
  match s.entry user with
  | none => (.ok (.changed .skipped), s)
  | some balance =>
    match balance.overflow? deltas with
    | some counterparty => (.error (.fieldOverflow counterparty.text), s)
    | none => (.ok (.changed .applied), s.put user (some (balance.plus deltas)))

/-- What comes of adding amounts to the balance of a user: nothing where there is none, all of them
at once if all running sums can be stored, and otherwise an error that leaves the shelf alone. -/
inductive Addition (user : UserId) (deltas : List (UserId × Int)) (s : Shelf) :
    Except Error Answer × Shelf → Prop where
  /-- There is no balance. -/
  | skipped (hentry : s.entry user = none) : Addition user deltas s (.ok (.changed .skipped), s)
  /-- All amounts are added, and who is not named keeps theirs. -/
  | applied (balance sum : Balance) (hentry : s.entry user = some balance)
      (htakes : balance.Takes deltas)
      (hsum : ∀ other, sum.get? other =
        if Ledger.Named other deltas then
          some (balance.getD other 0 + Ledger.sumToward other deltas)
        else balance.get? other) :
      Addition user deltas s (.ok (.changed .applied), s.put user (some sum))
  /-- A running sum leaves the storable range. -/
  | refused (balance : Balance) (counterparty : UserId) (hentry : s.entry user = some balance)
      (htakes : ¬ balance.Takes deltas) :
      Addition user deltas s (.error (.fieldOverflow counterparty.text), s)

/-- **Amounts are added all at once or not at all.** -/
theorem addition_applyDeltas (user : UserId) (deltas : List (UserId × Int)) (s : Shelf) :
    Addition user deltas s (s.applyDeltas user deltas) := by
  unfold applyDeltas
  cases hentry : s.entry user with
  | none => exact .skipped hentry
  | some balance =>
    have hiff := balance.overflow?_eq_none_iff deltas
    cases hover : balance.overflow? deltas with
    | none =>
      simp only [hover]
      exact .applied balance _ hentry (hiff.1 hover) (balance.get?_plus deltas)
    | some counterparty =>
      simp only [hover]
      refine .refused balance counterparty hentry fun htakes => ?_
      rw [hiff.2 htakes] at hover
      contradiction

/-- Performs a call on a shelf. -/
def perform : Call → Shelf → Except Error Answer × Shelf
  | .access a, s =>
    if s.failing then (.error .cacheUnavailable, s) else (.ok (s.access a).1, (s.access a).2)
  | .applyDeltas user deltas, s =>
    if s.failing then (.error .cacheUnavailable, s)
    else if s.failingUpdates then (.error .updateRefused, s)
    else s.applyDeltas user deltas
  | .setFailing failing, s => (.ok .done, { s with failing })
  | .setFailingUpdates failing, s => (.ok .done, { s with failingUpdates := failing })

end Shelf

namespace Cache

/-! ## One call -/

/-- The cache holds what is on the shelf: an entry for each balance, with the fields in which the
balance is written, and no other entries. -/
structure Holds (c : Cache) (s : Shelf) : Prop where
  /-- The entries are the balances as they are written. -/
  entries : ∀ user, c.entryOf user = (s.entry user).map Fields.ofBalance
  /-- All amounts can be stored. -/
  storable : ∀ user balance, s.entry user = some balance → balance.AllStorable
  /-- Both are in service, or neither is. -/
  failing : c.failing = s.failing
  /-- Both take updates, or neither does. -/
  failingUpdates : c.failingUpdates = s.failingUpdates

/-- The empty cache holds what is on the empty shelf. -/
theorem holds_empty : Holds empty Shelf.empty := by
  refine ⟨fun user => rfl, fun user balance h => ?_, rfl, rfl⟩
  contradiction

/-- What an operation that changes one entry makes of the cache is what it makes of the shelf. -/
theorem Holds.put {c c' : Cache} {s : Shelf} (h : Holds c s) (user : UserId)
    (balance? : Option Balance) (hstorable : ∀ balance, balance? = some balance →
      balance.AllStorable)
    (hentries : ∀ v, c'.entryOf v =
      if v = user then balance?.map Fields.ofBalance else c.entryOf v)
    (hfailing : c'.failing = c.failing) (hupdates : c'.failingUpdates = c.failingUpdates) :
    Holds c' (s.put user balance?) := by
  refine ⟨fun v => ?_, fun v balance hv => ?_, hfailing.trans h.failing,
    hupdates.trans h.failingUpdates⟩
  · rw [hentries, h.entries]
    unfold Shelf.put
    dsimp only
    split <;> rfl
  · unfold Shelf.put at hv
    dsimp only at hv
    split at hv
    · exact hstorable balance hv
    · exact h.storable v balance hv

/-- An access does not switch anything on or off. -/
theorem failing_perform (a : Access) (c : Cache) :
    (a.perform c).2.failing = c.failing ∧
      (a.perform c).2.failingUpdates = c.failingUpdates := by
  cases a with
  | hasEntry user =>
    have hsame : (c.hasEntry user).2 = c := (hasEntry_cases user c).1
    simp only [Access.perform, hsame, and_self]
  | lookup user =>
    rcases lookup_cases user c with ⟨-, -, hc⟩ | ⟨-, _, _, -, -, -, hc⟩ | ⟨-, -, -, hc⟩ |
      ⟨-, _, -, -, -, hc⟩
    · simp only [Access.perform, hc, and_self]
    · simp only [Access.perform, hc, and_self]
    · simp only [Access.perform, hc, and_self]
    · simp only [Access.perform, hc, remove, and_self]
  | populate user balance hbalance =>
    simp only [Access.perform, populate]
    by_cases hf : c.failing = true
    · rw [if_pos hf]
      exact ⟨rfl, rfl⟩
    · rw [if_neg hf]
      by_cases hempty : balance.isEmpty = true <;> simp [hempty, mark, setFields, remove]
  | clear user =>
    rcases clear_cases user c with ⟨-, -, hc⟩ | ⟨-, -, hc⟩
    · simp only [Access.perform, hc, and_self]
    · simp only [Access.perform, hc, remove, and_self]

/-- A cache that is out of service refuses every access and does nothing. -/
theorem perform_of_failing (a : Access) (c : Cache) (h : c.failing = true) :
    a.perform c = (.error .cacheUnavailable, c) := by
  cases a with
  | hasEntry user => simp [Access.perform, hasEntry, h, Except.map]
  | lookup user => simp [Access.perform, lookup, lookupIn, h, Except.map]
  | populate user balance hbalance => simp [Access.perform, populate, h, Except.map]
  | clear user => simp [Access.perform, clear, h, Except.map]

/-- An access does to the cache what it does to the shelf. -/
theorem holds_access (a : Access) (c : Cache) (s : Shelf) (h : Holds c s)
    (hservice : c.failing = false) :
    (a.perform c).1 = .ok (s.access a).1 ∧ Holds (a.perform c).2 (s.access a).2 := by
  obtain ⟨hfailing, hupdates⟩ := failing_perform a c
  cases a with
  | hasEntry user =>
    obtain ⟨hsame, ⟨hf, -⟩ | ⟨-, hanswer⟩⟩ := hasEntry_cases user c
    · rw [hservice] at hf
      contradiction
    · have hsome : (c.entryOf user).isSome = (s.entry user).isSome := by
        rw [h.entries, Option.isSome_map]
      simp only [Access.perform, hanswer, hsome, hsame]
      exact ⟨rfl, h⟩
  | lookup user =>
    -- On the shelf every balance can be read, so the cache never drops an entry.
    have hentry := h.entries user
    cases hs : s.entry user with
    | none =>
      rw [hs] at hentry
      have hmiss : c.lookup user = (.ok .notCached, c) := by
        rcases lookup_cases user c with ⟨hf, -⟩ | ⟨-, _, _, he, -⟩ | ⟨-, -, hr, hc⟩ |
          ⟨-, _, he, -⟩
        · rw [hservice] at hf
          contradiction
        · rw [hentry] at he
          contradiction
        · exact Prod.ext hr hc
        · rw [hentry] at he
          contradiction
      simp only [Access.perform, Shelf.access, hmiss, hs]
      exact ⟨rfl, h⟩
    | some balance =>
      rw [hs] at hentry
      have hread := decode_ofBalance balance (h.storable user balance hs)
      have hhit : c.lookup user = (.ok (.hit balance), c) := by
        rcases lookup_cases user c with ⟨hf, -⟩ | ⟨-, fields, b, he, hd, hr, hc⟩ |
          ⟨-, he, -⟩ | ⟨-, fields, he, hu, -⟩
        · rw [hservice] at hf
          contradiction
        · rw [hentry] at he
          cases he
          rw [hread] at hd
          cases hd
          exact Prod.ext hr hc
        · rw [hentry] at he
          contradiction
        · rw [hentry] at he
          cases he
          exact absurd hu (not_unreadable_of_decode _ balance hread)
      simp only [Access.perform, Shelf.access, hhit, hs]
      exact ⟨rfl, h⟩
  | populate user balance hbalance =>
    rcases populate_cases user balance c with ⟨hf, -⟩ | ⟨-, hanswer, -, hentries⟩
    · rw [hservice] at hf
      contradiction
    · constructor
      · simp only [Access.perform, hanswer]
        rfl
      · refine h.put user (some balance) ?_ hentries hfailing hupdates
        rintro b ⟨⟩
        exact hbalance
  | clear user =>
    rcases clear_cases user c with ⟨hf, -⟩ | ⟨-, hanswer, hstate⟩
    · rw [hservice] at hf
      contradiction
    · constructor
      · simp only [Access.perform, hanswer]
        rfl
      · refine h.put user none (fun b hb => by contradiction) (fun v => ?_) hfailing hupdates
        simp only [Access.perform, hstate]
        exact entryOf_remove user v c

/-- Adding amounts to the fields of a balance is adding them to the balance, and it fails with the
first running sum that cannot be stored. -/
theorem addDeltas_ofBalance (b : Balance) (h : b.AllStorable) (ds : List (UserId × Int)) :
    addDeltas (Fields.ofBalance b) ds =
      match b.overflow? ds with
      | some counterparty => .error (.fieldOverflow counterparty.text)
      | none => .ok (Fields.ofBalance (b.plus ds)) := by
  induction ds generalizing b with
  | nil => rfl
  | cons d ds ih =>
    rw [addDeltas, addDelta_eq_bind, fieldAmount_ofBalance b h, Balance.overflow?]
    simp only [Except.bind]
    by_cases hd : Amount.Storable (b.getD d.1 0 + d.2)
    · have hadd : Amount.add? (b.getD d.1 0) d.2 = some (b.getD d.1 0 + d.2) :=
        (Amount.add?_eq_some_iff _ _ _).2 ⟨hd, rfl⟩
      rw [hadd, if_pos hd, Option.elim_some, ← ofBalance_insert]
      exact ih _ (Balance.allStorable_insert b h d.1 _ hd)
    · have hadd : Amount.add? (b.getD d.1 0) d.2 = none := (Amount.add?_eq_none_iff _ _).2 hd
      rw [hadd, if_neg hd]
      rfl

/-- Adding amounts does to the cache what it does to the shelf. -/
theorem holds_applyDeltas (user : UserId) (ds : List (UserId × Int)) (c : Cache) (s : Shelf)
    (h : Holds c s) (hservice : c.failing = false) (hupdates : c.failingUpdates = false) :
    ((c.applyDeltas user ds).1.map Answer.changed = (s.applyDeltas user ds).1) ∧
      Holds (c.applyDeltas user ds).2 (s.applyDeltas user ds).2 := by
  have hentry := h.entries user
  unfold Cache.applyDeltas Shelf.applyDeltas
  simp only [hservice, hupdates, Bool.false_eq_true, if_false]
  cases hs : s.entry user with
  | none =>
    rw [hs] at hentry
    have hmarked : c.isMarked user = false := by
      rw [← isSome_entryOf, hentry]
      rfl
    simp only [hmarked, Bool.false_eq_true, if_false]
    exact ⟨rfl, h⟩
  | some balance =>
    rw [hs] at hentry
    have hstorable := h.storable user balance hs
    have hmarked : c.isMarked user = true := by
      rw [← isSome_entryOf, hentry]
      rfl
    have hfields : (c.fields? user).getD Table.empty = Fields.ofBalance balance := by
      unfold entryOf at hentry
      rw [if_pos hmarked] at hentry
      exact Option.some.inj hentry
    simp only [hmarked, if_true, hfields, addDeltas_ofBalance balance hstorable ds]
    -- In both cases the hash is stored, with the fields it had or with new ones.
    have hset : ∀ (fields : Fields) (v : UserId), (c.setFields user fields).entryOf v =
        if v = user then some fields else c.entryOf v := by
      intro fields v
      rw [entryOf_setFields, hentry]
      rfl
    cases hover : balance.overflow? ds with
    | some counterparty =>
      refine ⟨rfl, ⟨fun v => ?_, h.storable, h.failing, h.failingUpdates⟩⟩
      rw [hset]
      by_cases hv : v = user
      · rw [if_pos hv, hv, hs]
        rfl
      · rw [if_neg hv]
        exact h.entries v
    | none =>
      refine ⟨rfl, h.put user (some (balance.plus ds)) ?_ (hset _) rfl rfl⟩
      rintro b ⟨⟩
      exact Balance.allStorable_plus balance hstorable ds hover

/-- **A call does to the cache what it does to the shelf, and is answered alike.** -/
theorem holds_perform (call : Call) (c : Cache) (s : Shelf) (h : Holds c s) :
    (call.perform c).1 = (s.perform call).1 ∧ Holds (call.perform c).2 (s.perform call).2 := by
  cases call with
  | access a =>
    cases hc : c.failing with
    | true =>
      have hs : s.failing = true := h.failing.symm.trans hc
      simp only [Call.perform, Shelf.perform, perform_of_failing a c hc, hs, if_true]
      exact ⟨trivial, h⟩
    | false =>
      have hs : s.failing = false := h.failing.symm.trans hc
      simp only [Call.perform, Shelf.perform, hs, Bool.false_eq_true, if_false]
      exact holds_access a c s h hc
  | applyDeltas user deltas =>
    cases hc : c.failing with
    | true =>
      have hs : s.failing = true := h.failing.symm.trans hc
      simp only [Call.perform, Shelf.perform, Cache.applyDeltas, hc, hs, if_true]
      exact ⟨rfl, h⟩
    | false =>
      have hs : s.failing = false := h.failing.symm.trans hc
      cases hu : c.failingUpdates with
      | true =>
        have hsu : s.failingUpdates = true := h.failingUpdates.symm.trans hu
        simp only [Call.perform, Shelf.perform, Cache.applyDeltas, hc, hs, hu, hsu, if_true,
          Bool.false_eq_true, if_false]
        exact ⟨rfl, h⟩
      | false =>
        have hsu : s.failingUpdates = false := h.failingUpdates.symm.trans hu
        simp only [Call.perform, Shelf.perform, hs, hsu, Bool.false_eq_true, if_false]
        exact holds_applyDeltas user deltas c s h hc hu
  | setFailing failing => exact ⟨rfl, ⟨h.entries, h.storable, rfl, h.failingUpdates⟩⟩
  | setFailingUpdates failing => exact ⟨rfl, ⟨h.entries, h.storable, h.failing, rfl⟩⟩

end Cache

/-! ## What one user observes -/

namespace Shelf

open Cache

/-- Two shelves have the same in the place of a user, and the same faults. -/
structure SameFor (user : UserId) (s t : Shelf) : Prop where
  /-- The place holds the same. -/
  entry : s.entry user = t.entry user
  /-- Both are in service, or neither is. -/
  failing : s.failing = t.failing
  /-- Both take updates, or neither does. -/
  failingUpdates : s.failingUpdates = t.failingUpdates

/-- Putting something in the place of another user makes no difference. -/
theorem SameFor.put_of_ne {user other : UserId} {s t : Shelf} (h : SameFor user s t)
    (hne : other ≠ user) (balance? : Option Balance) : SameFor user (s.put other balance?) t :=
  ⟨(if_neg (Ne.symm hne)).trans h.entry, h.failing, h.failingUpdates⟩

/-- Putting the same in the place of the user keeps the places the same. -/
theorem SameFor.put {user : UserId} {s t : Shelf} (h : SameFor user s t)
    (balance? : Option Balance) : SameFor user (s.put user balance?) (t.put user balance?) :=
  ⟨(if_pos rfl).trans (if_pos rfl).symm, h.failing, h.failingUpdates⟩

/-- An access of another user makes no difference. -/
theorem SameFor.access_of_ne {user : UserId} {s t : Shelf} (h : SameFor user s t) (a : Access)
    (hne : a.user ≠ user) : SameFor user (s.access a).2 t := by
  cases a with
  | hasEntry other => exact h
  | lookup other => exact h
  | populate other balance hbalance => exact h.put_of_ne hne _
  | clear other => exact h.put_of_ne hne _

/-- An access of the user is answered alike. -/
theorem SameFor.access_self {s t : Shelf} (a : Access) (h : SameFor a.user s t) :
    (s.access a).1 = (t.access a).1 ∧ SameFor a.user (s.access a).2 (t.access a).2 := by
  have hentry := h.entry
  cases a with
  | hasEntry user => exact ⟨congrArg (fun e => Answer.present (Option.isSome e)) hentry, h⟩
  | lookup user =>
    refine ⟨?_, h⟩
    simp only [access]
    rw [show s.entry user = t.entry user from hentry]
  | populate user balance hbalance => exact ⟨rfl, h.put _⟩
  | clear user => exact ⟨rfl, h.put _⟩

/-- Amounts added for another user make no difference. -/
theorem SameFor.applyDeltas_of_ne {user other : UserId} {s t : Shelf} (h : SameFor user s t)
    (hne : other ≠ user) (deltas : List (UserId × Int)) :
    SameFor user (s.applyDeltas other deltas).2 t := by
  unfold applyDeltas
  split
  · exact h
  · split
    · exact h
    · exact h.put_of_ne hne _

/-- Amounts are added for the user alike. -/
theorem SameFor.applyDeltas_self {user : UserId} {s t : Shelf} (h : SameFor user s t)
    (deltas : List (UserId × Int)) :
    (s.applyDeltas user deltas).1 = (t.applyDeltas user deltas).1 ∧
      SameFor user (s.applyDeltas user deltas).2 (t.applyDeltas user deltas).2 := by
  unfold applyDeltas
  rw [h.entry]
  cases t.entry user with
  | none => exact ⟨rfl, h⟩
  | some balance =>
    cases hover : balance.overflow? deltas with
    | some counterparty =>
      simp only [hover]
      exact ⟨trivial, h⟩
    | none =>
      simp only [hover]
      exact ⟨trivial, h.put _⟩

/-- A call made for somebody else makes no difference to a user. -/
theorem SameFor.perform_other {user : UserId} {s t : Shelf} (h : SameFor user s t) (call : Call)
    (hcall : call.matters user = false) : SameFor user (s.perform call).2 t := by
  cases call with
  | access a =>
    simp only [Shelf.perform]
    split
    · exact h
    · exact h.access_of_ne a (of_decide_eq_false hcall)
  | applyDeltas other deltas =>
    simp only [Shelf.perform]
    split
    · exact h
    · split
      · exact h
      · exact h.applyDeltas_of_ne (of_decide_eq_false hcall) deltas
  | setFailing failing => contradiction
  | setFailingUpdates failing => contradiction

/-- A call made for the user, or for nobody in particular, is answered alike. -/
theorem SameFor.perform_self {user : UserId} {s t : Shelf} (h : SameFor user s t) (call : Call)
    (hcall : call.matters user = true) :
    (s.perform call).1 = (t.perform call).1 ∧
      SameFor user (s.perform call).2 (t.perform call).2 := by
  cases call with
  | access a =>
    have hof : a.user = user := of_decide_eq_true hcall
    subst hof
    obtain ⟨hanswer, hnext⟩ := SameFor.access_self a h
    simp only [Shelf.perform, h.failing]
    split
    · exact ⟨rfl, h⟩
    · exact ⟨congrArg Except.ok hanswer, hnext⟩
  | applyDeltas other deltas =>
    have hof : other = user := of_decide_eq_true hcall
    subst hof
    simp only [Shelf.perform, h.failing, h.failingUpdates]
    split
    · exact ⟨rfl, h⟩
    · split
      · exact ⟨rfl, h⟩
      · exact h.applyDeltas_self deltas
  | setFailing failing => exact ⟨rfl, h.entry, rfl, h.failingUpdates⟩
  | setFailingUpdates failing => exact ⟨rfl, h.entry, h.failing, rfl⟩

/-- A user gets the answers that the calls of this user alone would get. -/
theorem answersTo_filter (user : UserId) (calls : List Call) (s t : Shelf)
    (h : SameFor user s t) :
    answersTo user calls (transcript perform calls s).1 =
      answersTo user (calls.filter (Call.matters user))
        (transcript perform (calls.filter (Call.matters user)) t).1 := by
  induction calls generalizing s t with
  | nil => rfl
  | cons call calls ih =>
    cases hcall : call.matters user with
    | false =>
      have hof : call.isOf user = false := by
        cases call with
        | access a => exact hcall
        | applyDeltas other deltas => exact hcall
        | setFailing failing => contradiction
        | setFailingUpdates failing => contradiction
      have hrest := ih _ t (h.perform_other call hcall)
      simp only [List.filter_cons, hcall, Bool.false_eq_true, if_false]
      rw [← hrest]
      simp only [transcript, answersTo, List.zip_cons_cons, List.filter_cons, hof,
        Bool.false_eq_true, if_false]
    | true =>
      obtain ⟨hanswer, hnext⟩ := h.perform_self call hcall
      have hrest := ih _ _ hnext
      unfold answersTo at hrest ⊢
      simp only [List.filter_cons, hcall, if_true, transcript, List.zip_cons_cons, hanswer, hrest]

end Shelf

namespace Cache

/-- **The cache is a map from users to balances**: from the start on, whatever is asked of it in
whatever order, and whenever it fails, it answers as the shelf does and holds what is on the shelf,
and a user gets the answers that the calls of this user alone would get. On the shelf amounts are
added to a balance all at once, or not at all if a running sum leaves the storable range. -/
theorem transcript_eq_shelf (calls : List Call) :
    (transcript Call.perform calls empty).1 = (transcript Shelf.perform calls Shelf.empty).1 ∧
      Holds (transcript Call.perform calls empty).2
        (transcript Shelf.perform calls Shelf.empty).2 ∧
      (∀ user, answersTo user calls (transcript Call.perform calls empty).1 =
        answersTo user (calls.filter (Call.matters user))
          (transcript Call.perform (calls.filter (Call.matters user)) empty).1) ∧
      ∀ user deltas s, Shelf.Addition user deltas s (s.applyDeltas user deltas) := by
  have hsame (cs : List Call) :=
    transcript_simulates holds_perform cs empty Shelf.empty holds_empty
  obtain ⟨hanswers, hholds⟩ := hsame calls
  refine ⟨hanswers, hholds, fun user => ?_, Shelf.addition_applyDeltas⟩
  rw [hanswers, (hsame (calls.filter (Call.matters user))).1]
  exact Shelf.answersTo_filter user calls _ _ ⟨rfl, rfl, rfl⟩

end Cache

end ExpenseLedger
