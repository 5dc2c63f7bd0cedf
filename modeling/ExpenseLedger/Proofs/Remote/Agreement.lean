import ExpenseLedger.Proofs.Cache.Orders
import ExpenseLedger.Proofs.Cache.Shelf
import ExpenseLedger.Proofs.Remote.Entries
import ExpenseLedger.Remote.Rehearsal
import Mathlib.Control.Monad.Basic
/-!
# The cache in memory and the remote one agree

Both caches hold hashes and markers, and write and drop them in ways of their own: the one in memory
changes its tables, the remote one sends commands. If both hold the same, then they go on holding
the same whatever is asked for. They answer alike as well, unless the amounts that are looked up
depend on an order in which the caches visit fields, for each has an order of its own
(`Remote.transcript_eq_remote`).
-/

namespace ExpenseLedger

namespace Remote

open Cache (balanceKey cachedKey)

/-! ## Agreement -/

/-- Both caches hold the same hashes, where an absent one is like an empty one, and the same
markers, whatever stands in for a marker. -/
structure Agrees (c : Cache) (s : Keyspace) : Prop where
  /-- The cache in memory is in service. -/
  inService : c.failing = false
  /-- The hashes are the same. -/
  hashes : ∀ user, s.fieldsAt? (balanceKey user) = some (c.hashOf user)
  /-- The markers are the same. -/
  markers : ∀ user, s.contains (cachedKey user) = c.isMarked user

/-- Dropping an entry from both keeps them in agreement. -/
theorem Agrees.remove {c : Cache} {s : Keyspace} (h : Agrees c s) (user : UserId) :
    Agrees (c.remove user) (s.without user) := by
  refine ⟨h.inService, fun other => ?_, fun other => ?_⟩
  · have hhash := h.hashes other
    rw [Cache.hashOf_remove]
    unfold Keyspace.fieldsAt? at hhash ⊢
    rw [Keyspace.get?_without]
    by_cases ho : other = user
    · rw [if_pos ho, if_pos (.inl (congrArg balanceKey ho))]
    · have hkeys : ¬ (balanceKey other = balanceKey user ∨ balanceKey other = cachedKey user) :=
        not_or.2 ⟨fun he => ho (Cache.balanceKey_injective he),
          Cache.balanceKey_ne_cachedKey other user⟩
      rw [if_neg ho, if_neg hkeys]
      exact hhash
  · have hmarker := h.markers other
    rw [Cache.isMarked_remove]
    unfold Table.contains at hmarker ⊢
    rw [Keyspace.get?_without]
    by_cases ho : other = user
    · rw [if_pos ho, if_pos (.inr (congrArg cachedKey ho))]
      rfl
    · have hkeys : ¬ (cachedKey other = balanceKey user ∨ cachedKey other = cachedKey user) :=
        not_or.2 ⟨(Cache.balanceKey_ne_cachedKey user other).symm,
          fun he => ho (Cache.cachedKey_injective he)⟩
      rw [if_neg ho, if_neg hkeys]
      exact hmarker

/-- Replacing an entry in both keeps them in agreement. -/
theorem Agrees.populate {c : Cache} {s : Keyspace} (h : Agrees c s) (user : UserId)
    (balance : Balance) : Agrees (c.populate user balance).2 (s.holding user balance) := by
  obtain ⟨-, hservice⟩ := Cache.populate_of_service user balance c h.inService
  refine ⟨hservice, fun other => ?_, fun other => ?_⟩
  · rw [Cache.hashOf_populate user other balance c h.inService]
    by_cases ho : other = user
    · rw [if_pos ho, ho]
      exact Keyspace.fieldsAt?_holding user balance s
    · have hhash := h.hashes other
      rw [if_neg ho]
      unfold Keyspace.fieldsAt? at hhash ⊢
      rw [Keyspace.get?_holding, if_neg (Cache.balanceKey_ne_cachedKey other user),
        if_neg fun he => ho (Cache.balanceKey_injective he)]
      exact hhash
  · rw [Cache.isMarked_populate user other balance c h.inService]
    by_cases ho : other = user
    · rw [if_pos ho, ho]
      exact Keyspace.contains_holding user balance s
    · have hmarker := h.markers other
      rw [if_neg ho]
      unfold Table.contains at hmarker ⊢
      rw [Keyspace.get?_holding, if_neg fun he => ho (Cache.cachedKey_injective he),
        if_neg (Cache.balanceKey_ne_cachedKey user other).symm]
      exact hmarker

/-! ## One access -/

/-- Performs an access on the cache in memory, which visits the fields of a hash in an order. -/
def performInMemory (order : Cache.Fields.Order) :
    Cache.Access → Cache → Except Error Cache.Answer × Cache
  | .lookup user, c => ((c.lookupIn order user).1.map .found, (c.lookupIn order user).2)
  | a, c => a.perform c

/-- An access to the remote cache, which visits the fields of a hash in an order. -/
def dialogue (order : Cache.Fields.Order) (lifetime : Option Nat) :
    Cache.Access → Dialogue (Except Error Cache.Answer)
  | .hasEntry user => do return (← hasEntry user).map .present
  | .lookup user => do return (← lookupIn order user).map .found
  | .populate user balance _ => do return (← populate lifetime user balance).map fun _ => .done
  | .clear user => do return (← clear user).map fun _ => .done

/-- An access to both caches, and the orders in which they visit the fields of a hash meanwhile. -/
structure Visit where
  /-- What is asked for. -/
  access : Cache.Access
  /-- The order of the cache in memory. -/
  near : Cache.Fields.Order
  /-- The order of the remote cache. -/
  far : Cache.Fields.Order

/-- Makes the visit to the cache in memory. -/
def Visit.inMemory (v : Visit) (c : Cache) : Except Error Cache.Answer × Cache :=
  performInMemory v.near v.access c

/-- Makes the visit to the remote cache, by holding a dialogue with a server. -/
def Visit.remotely {σ : Type} (lifetime : Option Nat) (serve : Request → σ → Reply × σ) (v : Visit)
    (s : σ) : Except Error Cache.Answer × σ :=
  (dialogue v.far lifetime v.access).hold serve s

/-- **Caches that hold the same go on holding the same**, and answer a visit alike if all orders
agree on their entries, as they go on doing. -/
theorem agrees_visit (lifetime : Option Nat) (hlifetime : lifetime ≠ some 0) (v : Visit) (c : Cache)
    (s : Keyspace) (h : Agrees c s) :
    Agrees (v.inMemory c).2 (v.remotely lifetime Keyspace.serve s).2 ∧
      (c.Settled → (v.inMemory c).1 = (v.remotely lifetime Keyspace.serve s).1 ∧
        (v.inMemory c).2.Settled) := by
  obtain ⟨a, near, far⟩ := v
  unfold Visit.inMemory Visit.remotely
  cases a with
  | hasEntry user =>
    have hasked : c.hasEntry user = (.ok (c.isMarked user), c) := by
      simp only [Cache.hasEntry, h.inService, Bool.false_eq_true, if_false]
    simp only [performInMemory, Cache.Access.perform, dialogue, Dialogue.hold_bind, hold_hasEntry,
      hasked, h.markers]
    exact ⟨h, fun hsettled => ⟨rfl, hsettled⟩⟩
  | lookup user =>
    simp only [performInMemory, dialogue, Dialogue.hold_bind,
      hold_lookupIn far user s _ (h.hashes user), h.markers]
    cases hmarked : c.isMarked user with
    | false =>
      rw [Cache.lookupIn_of_unmarked near user c h.inService hmarked]
      exact ⟨h, fun hsettled => ⟨rfl, hsettled⟩⟩
    | true =>
      have hentry : c.entryOf user = some (c.hashOf user) := if_pos hmarked
      rcases Cache.decodeIn_cases near far (c.hashOf user) with
        ⟨-, ⟨e, hnear⟩, e', hfar⟩ | ⟨b, b', hnear, hfar, hsame⟩
      · rw [Cache.lookupIn_of_decodeIn_error near user c h.inService hmarked hnear]
        simp only [if_true, hfar]
        exact ⟨h.remove user, fun hsettled => ⟨rfl, hsettled.remove user⟩⟩
      · rw [Cache.lookupIn_of_decodeIn near user c h.inService hmarked hnear]
        simp only [if_true, hfar]
        refine ⟨h, fun hsettled => ⟨?_, hsettled⟩⟩
        rw [hsame (hsettled user _ hentry)]
        rfl
  | populate user balance hbalance =>
    obtain ⟨hdone, -⟩ := Cache.populate_of_service user balance c h.inService
    simp only [performInMemory, Cache.Access.perform, dialogue, Dialogue.hold_bind,
      hold_populate lifetime hlifetime, hdone]
    exact ⟨h.populate user balance, fun hsettled =>
      ⟨rfl, hsettled.populate user balance hbalance⟩⟩
  | clear user =>
    have hcleared : c.clear user = (.ok (), c.remove user) := by
      simp only [Cache.clear, h.inService, Bool.false_eq_true, if_false]
    simp only [performInMemory, Cache.Access.perform, dialogue, Dialogue.hold_bind, hold_clear,
      hcleared]
    exact ⟨h.remove user, fun hsettled => ⟨rfl, hsettled.remove user⟩⟩

/-! ## All accesses -/

/-- Makes visits to the remote cache over one connection with a server, if a connection comes
about. -/
def session? {σ : Type} (server : Server σ) (lifetime : Option Nat) (visits : List Visit) (s : σ) :
    Option (List (Except Error Cache.Answer) × σ) :=
  server.connect?.map fun serve => transcript (Visit.remotely lifetime serve) visits s

/-- What is put in is looked up from both caches, in any orders and whatever was stored before. -/
theorem visit_populate_lookup (lifetime : Option Nat) (hlifetime : lifetime ≠ some 0)
    (user : UserId) (balance : Balance) (hbalance : balance.AllStorable)
    (near far near' far' : Cache.Fields.Order) (c : Cache) (hservice : c.failing = false)
    (s : Keyspace) :
    let visits : List Visit :=
      [⟨.populate user balance hbalance, near, far⟩, ⟨.lookup user, near', far'⟩]
    (transcript Visit.inMemory visits c).1 = [.ok .done, .ok (.found (.hit balance))] ∧
    (transcript (Visit.remotely lifetime Keyspace.serve) visits s).1 =
      [.ok .done, .ok (.found (.hit balance))] := by
  constructor
  · obtain ⟨hdone, hstays⟩ := Cache.populate_of_service user balance c hservice
    have hfound : (c.populate user balance).2.lookupIn near' user =
        (.ok (.hit balance), (c.populate user balance).2) := by
      refine Cache.lookupIn_of_decodeIn near' user _ hstays ?_ ?_
      · rw [Cache.isMarked_populate user user balance c hservice, if_pos rfl]
      · rw [Cache.hashOf_populate user user balance c hservice, if_pos rfl]
        exact Cache.decodeIn_ofBalance near' balance hbalance
    simp only [transcript, Visit.inMemory, performInMemory, Cache.Access.perform, hdone, hfound]
    rfl
  · simp only [transcript, Visit.remotely, dialogue, Dialogue.hold_bind,
      hold_populate lifetime hlifetime, Dialogue.hold, pure]
    rw [hold_lookupIn far' user _ _ (Keyspace.fieldsAt?_holding user balance s),
      Keyspace.contains_holding, if_pos rfl, Cache.decodeIn_ofBalance far' balance hbalance]
    rfl

/-- An entry that cannot be read is not found, and it is gone after the look-up: the one in memory
and both keys of the remote one, and no others. -/
theorem visit_unreadable (lifetime : Option Nat) (user : UserId) (near far : Cache.Fields.Order)
    (c : Cache) (s : Keyspace) (h : Agrees c s) (fields : Cache.Fields)
    (hentry : c.entryOf user = some fields) (hu : Cache.Unreadable fields) :
    Visit.inMemory ⟨.lookup user, near, far⟩ c = (.ok (.found .notCached), c.remove user) ∧
    Visit.remotely lifetime Keyspace.serve ⟨.lookup user, near, far⟩ s =
      (.ok (.found .notCached), s.without user) := by
  obtain ⟨e, hnear⟩ := (Cache.decodeIn_eq_error_iff near fields).2 hu
  obtain ⟨e', hfar⟩ := (Cache.decodeIn_eq_error_iff far fields).2 hu
  rw [Cache.entryOf_eq] at hentry
  split at hentry
  · rename_i hmarked
    cases hentry
    constructor
    · simp only [Visit.inMemory, performInMemory,
        Cache.lookupIn_of_decodeIn_error near user c h.inService hmarked hnear]
      rfl
    · simp only [Visit.remotely, dialogue, Dialogue.hold_bind,
        hold_lookupIn far user s _ (h.hashes user), h.markers, hmarked, if_true, hfar]
      rfl
  · contradiction

/-- If the caches answer look-ups alike in all orders, then the entries are settled. -/
theorem settled_of_lookup (lifetime : Option Nat) (c : Cache) (s : Keyspace) (h : Agrees c s)
    (hlookup : ∀ user near far, (Visit.inMemory ⟨.lookup user, near, far⟩ c).1 =
      (Visit.remotely lifetime Keyspace.serve ⟨.lookup user, near, far⟩ s).1) : c.Settled := by
  intro user fields hentry
  refine (Cache.settled_iff fields).2 fun near far b b' hnear hfar => ?_
  rw [Cache.entryOf_eq] at hentry
  split at hentry
  · rename_i hmarked
    cases hentry
    have hanswer := hlookup user near far
    simp only [Visit.inMemory, performInMemory, Visit.remotely, dialogue, Dialogue.hold_bind,
      Cache.lookupIn_of_decodeIn near user c h.inService hmarked hnear,
      hold_lookupIn far user s _ (h.hashes user), h.markers, hmarked, if_true, hfar] at hanswer
    cases hanswer
    rfl
  · contradiction

/-- **The cache in memory and the remote one agree**, over a connection with a server that keeps
keys and with any lifetime of entries. If they hold the same hashes and markers, then they go on
holding the same, whatever that is and in whatever orders they visit fields. They answer all
accesses alike in all orders exactly if no entry that can be read has two names of one identifier
with different amounts. A balance that is put in is found, whatever was stored before, and an entry
that cannot be read leaves neither hash nor marker behind. -/
theorem transcript_eq_remote (server : Server Keyspace)
    (hserver : server.connect? = some Keyspace.serve) (lifetime : Option Nat)
    (hlifetime : lifetime ≠ some 0) (c : Cache) (s : Keyspace) (h : Agrees c s) :
    (∀ visits, ∃ answers t, session? server lifetime visits s = some (answers, t) ∧
      Agrees (transcript Visit.inMemory visits c).2 t) ∧
    (c.Settled ↔ ∀ visits, ∃ t,
      session? server lifetime visits s = some ((transcript Visit.inMemory visits c).1, t)) ∧
    (∀ user balance (hbalance : balance.AllStorable) near far near' far' (d : Cache) t,
      d.failing = false →
      let visits : List Visit :=
        [⟨.populate user balance hbalance, near, far⟩, ⟨.lookup user, near', far'⟩]
      (transcript Visit.inMemory visits d).1 = [.ok .done, .ok (.found (.hit balance))] ∧
      ∃ t', session? server lifetime visits t =
        some ([.ok .done, .ok (.found (.hit balance))], t')) ∧
    ∀ user near far d t fields, Agrees d t → d.entryOf user = some fields →
      Cache.Unreadable fields →
      transcript Visit.inMemory [⟨.lookup user, near, far⟩] d =
        ([.ok (.found .notCached)], d.remove user) ∧
      ∃ t', session? server lifetime [⟨.lookup user, near, far⟩] t =
          some ([.ok (.found .notCached)], t') ∧
        ∀ key, t'.get? key =
          if key = balanceKey user ∨ key = cachedKey user then none else t.get? key := by
  have hsession (visits : List Visit) (t : Keyspace) : session? server lifetime visits t =
      some (transcript (Visit.remotely lifetime Keyspace.serve) visits t) := by
    unfold session?
    rw [hserver]
    rfl
  simp only [hsession, Option.some.injEq]
  refine ⟨fun visits => ⟨_, _, rfl, ?_⟩, ⟨fun hsettled visits => ⟨_, Prod.ext ?_ rfl⟩,
    fun hall => ?_⟩, fun user balance hbalance near far near' far' d t hservice => ?_,
    fun user near far d t fields hd hentry hu => ?_⟩
  · exact transcript_keeps (fun v c s h => (agrees_visit lifetime hlifetime v c s h).1) visits c s h
  · -- All orders agree on the entries from the first visit to the last.
    refine (transcript_simulates (R := fun c s => Agrees c s ∧ c.Settled) ?_ visits c s
      ⟨h, hsettled⟩).1.symm
    rintro v c s ⟨h, hsettled⟩
    obtain ⟨hagrees, hrest⟩ := agrees_visit lifetime hlifetime v c s h
    obtain ⟨hanswer, hnext⟩ := hrest hsettled
    exact ⟨hanswer, hagrees, hnext⟩
  · refine settled_of_lookup lifetime c s h fun user near far => ?_
    obtain ⟨t, ht⟩ := hall [⟨.lookup user, near, far⟩]
    exact (List.cons.inj (congrArg Prod.fst ht)).1.symm
  · obtain ⟨hnear, hfar⟩ := visit_populate_lookup lifetime hlifetime user balance hbalance near far
      near' far' d hservice t
    exact ⟨hnear, _, Prod.ext hfar rfl⟩
  · obtain ⟨hnear, hfar⟩ := visit_unreadable lifetime user near far d t hd fields hentry hu
    simp only [transcript, hnear, hfar]
    exact ⟨trivial, _, rfl, Keyspace.get?_without user t⟩

namespace Sample

/-- A user. -/
def alice : UserId := ⟨Id.ofNat 1⟩

/-- A user that others have entries about. -/
def bob : UserId := ⟨Id.ofNat 2⟩

/-- A user with another entry. -/
def dave : UserId := ⟨Id.ofNat 3⟩

/-- Bob's identifier without its hyphens. -/
def bobInOne : String := "00000000000000000000000000000002"

/-- A hash that names Bob twice. -/
def namingBob (amount other : String) : Cache.Fields :=
  (Table.empty.insert bob.text amount).insert bobInOne other

/-- A balance with Bob alone. -/
def withBob (amount : Int) : Balance := Table.empty.insert bob amount

/-- The cache in memory with a further entry. -/
def entered (user : UserId) (fields : Cache.Fields) (c : Cache) : Cache :=
  (c.setFields user fields).mark user

/-- The remote cache with a further entry, which has some text for a marker. -/
def enteredKeys (user : UserId) (fields : Cache.Fields) (s : Keyspace) : Keyspace :=
  Table.insert (Table.insert s (balanceKey user) (.hash fields)) (cachedKey user) (.text "yes")

/-- Two empty caches hold the same. -/
theorem agrees_empty : Agrees Cache.empty Table.empty := ⟨rfl, fun _ => rfl, fun _ => rfl⟩

/-- Caches with the same further entry hold the same. -/
theorem agrees_entered {c : Cache} {s : Keyspace} (h : Agrees c s) (user : UserId)
    (fields : Cache.Fields) : Agrees (entered user fields c) (enteredKeys user fields s) := by
  refine ⟨h.inService, fun other => ?_, fun other => ?_⟩
  · have hhash := h.hashes other
    change _ = some ((c.setFields user fields).hashOf other)
    rw [Cache.hashOf_setFields]
    unfold enteredKeys
    unfold Keyspace.fieldsAt? at hhash ⊢
    rw [Table.get?_insert_of_ne _ _ (Cache.balanceKey_ne_cachedKey other user),
      Table.get?_insert]
    by_cases ho : other = user
    · rw [if_pos ho, if_pos (congrArg balanceKey ho)]
    · rw [if_neg ho, if_neg fun he => ho (Cache.balanceKey_injective he)]
      exact hhash
  · have hmarker := h.markers other
    unfold entered
    rw [Cache.isMarked_mark]
    unfold enteredKeys
    unfold Table.contains at hmarker ⊢
    rw [Table.get?_insert,
      Table.get?_insert_of_ne _ _ (Cache.balanceKey_ne_cachedKey user other).symm]
    by_cases ho : other = user
    · rw [if_pos ho, if_pos (congrArg cachedKey ho)]
      rfl
    · rw [if_neg ho, if_neg fun he => ho (Cache.cachedKey_injective he)]
      exact hmarker

/-- In memory, Alice has an entry that names Bob twice with one amount, and Dave one that cannot be
read. -/
def twofold : Cache :=
  entered dave (Table.empty.insert "x" "1") (entered alice (namingBob "5" "+05") Cache.empty)

/-- The same in the remote cache. -/
def twofoldKeys : Keyspace :=
  enteredKeys dave (Table.empty.insert "x" "1")
    (enteredKeys alice (namingBob "5" "+05") Table.empty)

/-- The two hold the same. -/
theorem agrees_twofold : Agrees twofold twofoldKeys :=
  agrees_entered (agrees_entered agrees_empty alice _) dave _

/-- Both amounts of Bob are the same number. -/
theorem coherent_namingBob : (namingBob "5" "+05").Coherent := by
  have hfive : ∀ name value, (namingBob "5" "+05").get? name = some value →
      ∀ n, Amount.Denotes value n → n = 5 := by
    intro name value hvalue n hn
    rw [← Amount.ofText_trim_eq_ok_iff] at hn
    unfold namingBob at hvalue
    rw [Table.get?_insert, Table.get?_insert] at hvalue
    split at hvalue
    · cases hvalue
      have hread : Amount.ofText (Text.trim "+05") = .ok 5 := by decide +kernel
      rw [hread] at hn
      exact (Except.ok.inj hn).symm
    · split at hvalue
      · cases hvalue
        have hread : Amount.ofText (Text.trim "5") = .ok 5 := by decide +kernel
        rw [hread] at hn
        exact (Except.ok.inj hn).symm
      · contradiction
  intro name value name' value' hvalue hvalue' a n n' _ _ hn hn'
  rw [hfive name value hvalue n hn, hfive name' value' hvalue' n' hn']

/-- A further entry with settled fields. -/
theorem settled_entered {c : Cache} (h : c.Settled) (user : UserId) {fields : Cache.Fields}
    (hfields : fields.Settled) : (entered user fields c).Settled := by
  intro other found hentry
  unfold entered at hentry
  rw [Cache.entryOf_mark] at hentry
  split at hentry
  · have hhash : (c.setFields user fields).hashOf user = fields := by
      rw [Cache.hashOf_setFields, if_pos rfl]
    unfold Cache.hashOf at hhash
    rw [hhash] at hentry
    cases hentry
    exact hfields
  · rename_i hother
    rw [Cache.entryOf_setFields, if_neg hother] at hentry
    exact h other found hentry

/-- All orders agree on the entries of Alice and Dave. -/
theorem settled_twofold : twofold.Settled := by
  have hempty : Cache.empty.Settled := fun user fields h => by
    have hnone : Cache.empty.entryOf user = none := rfl
    rw [hnone] at h
    contradiction
  have hstray : Cache.Rejects "x" "1" := by decide +kernel
  exact settled_entered (settled_entered hempty alice (.inr coherent_namingBob)) dave
    (.inl (Cache.unreadable_insert Table.empty "x" "1" hstray))

/-- A server that keeps keys. -/
def keeper : Server Keyspace := .serving Keyspace.serve

/-- Bob's amounts can be stored. -/
theorem allStorable_withBob : (withBob (-250)).AllStorable :=
  Balance.allStorable_insert _ Balance.allStorable_empty _ _ (by decide)

/-- Looking at both entries, where the two caches visit Bob's names in different orders, replacing
Alice's entry and looking again. -/
def visits : List Visit :=
  [⟨.lookup alice, .last bob.text, .last bobInOne⟩, ⟨.lookup dave, .ascending, .last "x"⟩,
    ⟨.hasEntry dave, .ascending, .ascending⟩,
    ⟨.populate alice (withBob (-250)) allStorable_withBob, .ascending, .ascending⟩,
    ⟨.lookup alice, .ascending, .last bob.text⟩]

end Sample

open ExpenseLedger.Remote.Sample

/-- Alice's entry is found with either name of Bob first, and as it is after it has been replaced.
Dave's is dropped by the look at it. -/
theorem transcript_eq_remote_twofold :
    keeper.connect? = some Keyspace.serve ∧ Agrees twofold twofoldKeys ∧ twofold.Settled ∧
    (∃ t, session? keeper (some 600) visits twofoldKeys =
        some ((transcript Visit.inMemory visits twofold).1, t)) ∧
    (transcript Visit.inMemory visits twofold).1 =
      [.ok (.found (.hit (withBob 5))), .ok (.found .notCached), .ok (.present false), .ok .done,
        .ok (.found (.hit (withBob (-250))))] := by
  obtain ⟨-, hsettled, -⟩ :=
    transcript_eq_remote keeper rfl (some 600) (by decide) twofold twofoldKeys agrees_twofold
  exact ⟨rfl, agrees_twofold, settled_twofold, hsettled.1 settled_twofold visits,
    by decide +kernel⟩

/-- **With two amounts for one identifier, the caches can answer a look-up differently**, though
they hold the same: which of the two amounts counts depends on the order in which the fields are
visited. The remote cache can even answer two look-ups in a row differently. -/
theorem transcript_depends_on_order :
    let c := entered alice (namingBob "1" "2") Cache.empty
    let s := enteredKeys alice (namingBob "1" "2") Table.empty
    let visits : List Visit :=
      [⟨.lookup alice, .last bob.text, .last bob.text⟩,
        ⟨.lookup alice, .last bob.text, .last bobInOne⟩]
    Agrees c s ∧
    (transcript Visit.inMemory visits c).1 =
      [.ok (.found (.hit (withBob 1))), .ok (.found (.hit (withBob 1)))] ∧
    (session? keeper none visits s).map (·.1) =
      some [.ok (.found (.hit (withBob 1))), .ok (.found (.hit (withBob 2)))] := by
  refine ⟨agrees_entered agrees_empty alice _, ?_, ?_⟩
  · decide +kernel
  · decide +kernel

end Remote

end ExpenseLedger
