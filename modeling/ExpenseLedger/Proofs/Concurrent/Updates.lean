import ExpenseLedger.Proofs.Concurrent.Views
import ExpenseLedger.Proofs.Engine.Confined
/-!
# The updates of one batch

A batch that passes the check has distinct parties, and each of their entries is brought up to date
by an update that keeps to the keys of its user. So the updates of a batch do the same in every
order, and also if their operations take turns in any way; what goes wrong with one of them is
nothing to the others; and all of them together take no longer than one. Main statement:
`Engine.updatesIndependent`.
-/

open ExpenseLedger.Task

namespace ExpenseLedger

/-! ## Turns -/

/-- The operations of an update keep to the keys of its user. -/
theorem Operation.confined_perform {user : UserId} {o : Operation} (h : o.Updates user) :
    Store.Confined user o.perform := by
  cases o with
  | hasEntry v =>
    cases h
    exact Store.confined_onCache (Cache.confined_hasEntry user)
  | applyDeltas v deltas =>
    cases h
    exact Store.confined_onCache (Cache.confined_applyDeltas user deltas)
  | clear v =>
    cases h
    exact Store.confined_onCache (Cache.confined_clear user)
  | _ => exact h.elim

namespace Store

/-- Performs operations, from the first to the last. -/
def performAll (s : Store) (ops : List Operation) : Store :=
  ops.foldl (fun t o => (o.perform t).2) s

/-- One more operation. -/
theorem performAll_concat (s : Store) (ops : List Operation) (o : Operation) :
    s.performAll (ops ++ [o]) = (o.perform (s.performAll ops)).2 := by
  unfold performAll
  rw [List.foldl_append]
  rfl

/-- Operations of updates change what the cache holds for the users concerned. -/
theorem changedAt_performAll {users : List UserId} {ops : List Operation}
    (h : ∀ o ∈ ops, ∃ user ∈ users, o.Updates user) (s : Store) :
    s.ChangedAt users (s.performAll ops) := by
  induction ops generalizing s with
  | nil => exact .refl users s
  | cons o ops ih =>
    obtain ⟨user, huser, ho⟩ := h o List.mem_cons_self
    have hfirst := ((Operation.confined_perform ho).writes s).mono
      (List.cons_subset.2 ⟨huser, List.nil_subset _⟩)
    exact hfirst.trans (ih (fun o' ho' => h o' (List.mem_cons_of_mem o ho')) (o.perform s).2)

/-- **What becomes of the entry of a user depends on the user's own operations alone.** -/
theorem sameAt_performAll {ops : List Operation} (h : ∀ o ∈ ops, ∃ v, o.Updates v) (user : UserId)
    {s t : Store} (hsame : s.cache.SameAt user t.cache) :
    (s.performAll ops).cache.SameAt user
      (t.performAll (ops.filter fun o => o.Updates user)).cache := by
  induction ops generalizing s t with
  | nil => exact hsame
  | cons o ops ih =>
    have hops : ∀ o' ∈ ops, ∃ v, o'.Updates v := fun o' ho' => h o' (List.mem_cons_of_mem o ho')
    by_cases ho : o.Updates user
    · rw [List.filter_cons, if_pos (decide_eq_true ho)]
      exact ih hops ((Operation.confined_perform ho).reads s t hsame).2
    · rw [List.filter_cons, if_neg (by rw [decide_eq_true_iff]; exact ho)]
      obtain ⟨v, hv⟩ := h o List.mem_cons_self
      have hne : user ∉ [v] := fun hmem => ho (List.mem_singleton.1 hmem ▸ hv)
      have hwrites := ((Operation.confined_perform hv).writes s).1.sameAt hne
      exact ih hops (hwrites.symm.trans hsame)

end Store

/-! ## What an update performs -/

/-- A store, and the operations that have been performed on it. -/
structure Traced where
  /-- The store. -/
  store : Store
  /-- The operations, from the first to the last. -/
  performed : List Operation

namespace Traced

/-- Performs an operation and keeps it in mind. -/
def perform (o : Operation) (x : Traced) : o.Reply × Traced :=
  let r := o.perform x.store
  (r.1, ⟨r.2, x.performed ++ [o]⟩)

/-- Waits, then performs an operation. -/
def after (duration : Nat) (o : Operation) : Task Traced o.Reply := do
  Task.wait duration
  Task.act (perform o)

/-- The operations of the store, kept in mind. -/
def backendsBy (w : Store.Waits) (own : UserId → Store.Waits) : Backends Traced where
  append loans := after w.append (.append loans)
  computeBalance user := after w.computeBalance (.computeBalance user)
  hasEntry user := after (own user).hasEntry (.hasEntry user)
  lookup user := after w.lookup (.lookup user)
  populate user balance := after w.populate (.populate user balance)
  applyDeltas user deltas := after (own user).applyDeltas (.applyDeltas user deltas)
  clear user := after (own user).clear (.clear user)
  createGroup name owner := after 0 (.createGroup name owner)
  findGroup group := after w.findGroup (.findGroup group)
  deleteGroup group := after 0 (.deleteGroup group)
  addMembers group users := after 0 (.addMembers group users)
  removeMember group user := after 0 (.removeMember group user)
  members group := after 0 (.members group)
  groupsOf user := after 0 (.groupsOf user)

/-- What is kept in mind has no influence. -/
theorem alike_after (duration : Nat) (o : Operation) :
    Task.Alike (fun (x : Traced) (s : Store) => x.store = s) (after duration o)
      (Store.after duration o.perform) := by
  refine (Task.Alike.wait _ duration).bind fun _ => Task.Alike.act ?_
  rintro x s rfl
  exact ⟨rfl, rfl⟩

/-- The store is what the operations make of another one, and all of them are of the update of one
user. -/
def Tells (user : UserId) (s : Store) (x : Traced) : Prop :=
  x.store = s.performAll x.performed ∧ ∀ o ∈ x.performed, o.Updates user

/-- Performing an operation of the update. -/
theorem triple_after {user : UserId} {o : Operation} (ho : o.Updates user) (duration : Nat)
    (s : Store) :
    Triple (Tells user s) (after duration o) (fun _ => Tells user s) (Tells user s) := by
  refine (Triple.wait duration).bind fun _ => Triple.act fun x hx => ⟨?_, fun o' ho' => ?_⟩
  · change (o.perform x.store).2 = s.performAll (x.performed ++ [o])
    rw [Store.performAll_concat, hx.1]
  · rcases List.mem_append.1 ho' with ho' | ho'
    · exact hx.2 o' ho'
    · rw [List.mem_singleton.1 ho']
      exact ho

end Traced

namespace Engine

variable (w : Store.Waits) (own : UserId → Store.Waits) (settings : EngineSettings)

/-- The operations that the update of a user performs, if it is alone. -/
def performedBy (user : UserId) (deltas : List (UserId × Int)) (budget : Option Nat)
    (e : Engine Store) : List Operation :=
  (updateEntry (Traced.backendsBy w own) settings user deltas budget
    ⟨⟨e.store, []⟩, e.counters⟩).state.store.performed

/-- These operations are of the update of the user, and they make of a store what the update does.
-/
theorem performAll_performedBy (user : UserId) (deltas : List (UserId × Int))
    (budget : Option Nat) (e : Engine Store) :
    e.store.performAll (performedBy w own settings user deltas budget e) =
        (updateEntry (Store.backendsBy w own) settings user deltas budget e).state.store ∧
      ∀ o ∈ performedBy w own settings user deltas budget e, o.Updates user := by
  have hkeeps : Triple (fun x => Traced.Tells user e.store x.store)
      (updateEntry (Traced.backendsBy w own) settings user deltas)
      (fun _ x => Traced.Tells user e.store x.store)
      fun x => Traced.Tells user e.store x.store :=
    triple_updateEntry_of_applyDeltas
      (Traced.triple_after (o := .clear user) rfl (own user).clear e.store)
      (Traced.triple_after (o := .hasEntry user) rfl (own user).hasEntry e.store)
      (Traced.triple_after (o := .applyDeltas user deltas) rfl (own user).applyDeltas e.store)
  obtain ⟨htold, hops⟩ := (hkeeps budget ⟨⟨e.store, []⟩, e.counters⟩
    ⟨rfl, fun _ h => absurd h List.not_mem_nil⟩).state (fun _ _ h => h) fun _ h => h
  have halike : Task.Alike (Related (fun x s => x.store = s) Eq)
      (updateEntry (Traced.backendsBy w own) settings user deltas)
      (updateEntry (Store.backendsBy w own) settings user deltas) :=
    alike_updateEntry (fun _ _ _ h => congrArg (Counters.record · _) h) settings
      (Traced.alike_after (own user).hasEntry (.hasEntry user))
      (Traced.alike_after (own user).applyDeltas (.applyDeltas user deltas))
      (Traced.alike_after (own user).clear (.clear user))
  have hstore := (halike budget ⟨⟨e.store, []⟩, e.counters⟩ e ⟨rfl, rfl⟩).2.1
  exact ⟨htold.symm.trans hstore, hops⟩

/-! ## How long the updates take -/

/-- After the loans have been recorded, or refused by the ledger, all updates together take no
longer than one. -/
theorem takes_addLoans (lender : UserId) (amount : Int) (debtors : List UserId)
    (hcheck : checkBatch lender amount debtors = .ok ()) (e : Engine Store) :
    ∃ d r e', Takes (addLoans (Store.backendsBy w own) settings lender amount debtors) e
      (w.append + d) r e' ∧ d ≤ 2 * settings.cacheUpdateTimeout := by
  have hpunctual := Store.punctual_backendsBy w own
  have hupdates := EndsWithin.all (fun c : UserId × List (UserId × Int) =>
    endsWithin_updateEntry hpunctual settings c.1 c.2) (changes lender amount debtors)
  have hrecord : Takes (onStore ((Store.backendsBy w own).append (loansTo lender amount debtors))) e
      w.append _ _ := takes_onStore_after w.append (Store.append (loansTo lender amount debtors)) e
  unfold addLoans
  rw [hcheck]
  dsimp only
  cases hr : (Store.append (loansTo lender amount debtors) e.store).1 with
  | error failure =>
    rw [hr] at hrecord
    exact ⟨0, _, _, hrecord.bind (Takes.pure _ _), Nat.zero_le _⟩
  | ok records =>
    rw [hr] at hrecord
    obtain ⟨d, _, e', htakes, hd⟩ :=
      hupdates ⟨(Store.append (loansTo lender amount debtors) e.store).2, e.counters⟩
    have hbound : d ≤ settings.cacheUpdateTimeout + settings.cacheUpdateTimeout := by
      exact_mod_cast hd
    exact ⟨d, _, _, hrecord.bind (htakes.bind_instant (Takes.pure _ _)), by omega⟩

/-! ## Independence -/

/-- The updates of a batch are independent of each other, and take a bounded time. The cache work
for each user may have waits of its own (`Store.backendsBy_const`). -/
structure UpdatesIndependent (lender : UserId) (amount : Int) (debtors : List UserId) : Prop where
  /-- No entry is updated twice. -/
  nodup : ((changes lender amount debtors).map (·.1)).Nodup
  /-- An update reads and writes the two keys of its user, and nothing else of the store. -/
  confined : ∀ c ∈ changes lender amount debtors,
    Confined c.1 (updateEntry (Store.backendsBy w own) settings c.1 c.2)
  /-- In every order the updates leave the same store and the same counters, after the same time. -/
  anyOrder : ∀ order : List (UserId × List (UserId × Int)),
    order.Perm (changes lender amount debtors) →
    Task.all (order.map fun c => updateEntry (Store.backendsBy w own) settings c.1 c.2) =
      updateEntries (Store.backendsBy w own) settings lender amount debtors
  /-- Whatever the entries of the others are and however long the work on them takes, an update ends
  as it does alone, and so does the entry of its user. -/
  undisturbed : ∀ (before : List (UserId × List (UserId × Int))) c after,
    (before ++ c :: after).Perm (changes lender amount debtors) →
    ∀ own' : UserId → Store.Waits, own' c.1 = own c.1 →
    ∀ budget (e f : Engine Store), f.store.cache.SameAt c.1 e.store.cache →
      (attempt (Store.backendsBy w own') settings c.1 c.2 budget
          (Task.all (before.map fun x =>
            updateEntry (Store.backendsBy w own') settings x.1 x.2) budget f).state).outcome =
        (attempt (Store.backendsBy w own) settings c.1 c.2 budget e).outcome ∧
      (updateEntries (Store.backendsBy w own') settings lender amount debtors budget
          f).state.store.cache.SameAt c.1
        (updateEntry (Store.backendsBy w own) settings c.1 c.2 budget e).state.store.cache
  /-- If the operations of the updates take turns in any way, then every operation is replied to as
  if the update were alone, and the same store is left. -/
  interleaved : ∀ budget (e : Engine Store) (turns : List Operation),
    (∀ o ∈ turns, ∃ c ∈ changes lender amount debtors, o.Updates c.1) →
    (∀ c ∈ changes lender amount debtors, (turns.filter fun o => o.Updates c.1) =
      performedBy w own settings c.1 c.2 budget e) →
      e.store.performAll turns =
          (updateEntries (Store.backendsBy w own) settings lender amount debtors budget
            e).state.store ∧
        ∀ (before : List Operation) o after user, turns = before ++ o :: after → o.Updates user →
          (o.perform (e.store.performAll before)).1 =
            (o.perform (e.store.performAll (before.filter fun o' => o'.Updates user))).1
  /-- All of them together take no longer than two deadlines, however many debtors there are. -/
  timely : ∀ e, ∃ d r e', Takes (addLoans (Store.backendsBy w own) settings lender amount debtors) e
    (w.append + d) r e' ∧ d ≤ 2 * settings.cacheUpdateTimeout

/-- **The updates of a batch that passes the check are independent of each other.** -/
theorem updatesIndependent (lender : UserId) (amount : Int) (debtors : List UserId)
    (hcheck : checkBatch lender amount debtors = .ok ()) :
    UpdatesIndependent w own settings lender amount debtors := by
  have hnodup := nodup_map_changes lender amount debtors hcheck
  have hconfined (own' : UserId → Store.Waits) (c : UserId × List (UserId × Int)) :
      Confined c.1 (updateEntry (Store.backendsBy w own') settings c.1 c.2) :=
    confined_updateEntry w own' settings c.1 c.2
  refine ⟨hnodup, fun c _ => hconfined own c, fun order hperm => ?_, ?_, ?_,
    takes_addLoans w own settings lender amount debtors hcheck⟩
  · exact all_perm (hconfined own) hperm ((hperm.map _).nodup_iff.2 hnodup)
  · intro before c after hperm own' hown budget e f hsame
    have hc : c ∈ changes lender amount debtors := hperm.subset (by simp)
    have hbefore : c.1 ∉ before.map (·.1) := by
      have hall := (hperm.map (·.1)).nodup_iff.2 hnodup
      rw [List.map_append, List.map_cons] at hall
      exact fun hmem => (List.nodup_append.1 hall).2.2 _ hmem _ List.mem_cons_self rfl
    -- Those who came before have left the entry alone.
    have hpassed := (changedAt_all (hconfined own') before budget f).1.sameAt hbefore
    have hattempt := alike_attempt_own w settings hown c.2 (fun _ _ => True) budget _ e
      ⟨hpassed.symm.trans hsame, trivial⟩
    have halone := alike_updateEntry_own w settings hown c.2 f.counters e.counters budget f e
      ⟨hsame, [], rfl, rfl⟩
    exact ⟨hattempt.1, (sameAt_all (hconfined own') hnodup hc budget f).trans halone.2.1⟩
  · intro budget e turns hturns hown
    have hsome : ∀ o ∈ turns, ∃ user, o.Updates user := by
      intro o ho
      obtain ⟨c, -, hc⟩ := hturns o ho
      exact ⟨c.1, hc⟩
    refine ⟨?_, ?_⟩
    · have hparties : ∀ o ∈ turns, ∃ user ∈ (changes lender amount debtors).map (·.1),
          o.Updates user := by
        intro o ho
        obtain ⟨c, hc, hoc⟩ := hturns o ho
        exact ⟨c.1, List.mem_map_of_mem hc, hoc⟩
      refine Store.eq_of_changedAt (Store.changedAt_performAll hparties e.store)
        (changedAt_all (hconfined own) _ budget e) fun user huser => ?_
      obtain ⟨c, hc, rfl⟩ := List.mem_map.1 huser
      have hturn := Store.sameAt_performAll hsome c.1 (Cache.SameAt.refl c.1 e.store.cache)
      rw [hown c hc, (performAll_performedBy w own settings c.1 c.2 budget e).1] at hturn
      exact hturn.trans (sameAt_all (hconfined own) hnodup hc budget e).symm
    · rintro before o after user rfl ho
      have hbefore : ∀ o' ∈ before, ∃ v, o'.Updates v :=
        fun o' ho' => hsome o' (List.mem_append_left _ ho')
      have hsame := Store.sameAt_performAll hbefore user (Cache.SameAt.refl user e.store.cache)
      exact ((Operation.confined_perform ho).reads _ _ hsame).1

namespace Sample

/-- A lender who has an entry. -/
def cook : UserId := ⟨Id.ofNat 4⟩

/-- A debtor whose entry cannot be updated. -/
def guest : UserId := ⟨Id.ofNat 5⟩

/-- A debtor whose cache work takes too long. -/
def latecomer : UserId := ⟨Id.ofNat 6⟩

/-- What the guest owes the cook is spoiled in the guest's entry. -/
def kitchen : Engine Store where
  store := { Store.empty ⟨100, ⟨1700000000, 0⟩⟩ with
    cache := ((Cache.empty.mark cook).mark guest).insertRaw guest cook.text "much" }
  counters := Counters.zero

/-- Asking for an entry takes a minute for the latecomer, and no time for the others. -/
def tardy (user : UserId) : Store.Waits :=
  if user = latecomer then { Store.Waits.none with hasEntry := 60000 } else Store.Waits.none

end Sample

open ExpenseLedger.Engine.Sample

/-- Of three updates one succeeds, one finds a spoiled entry and drops it, and one takes too long.
-/
theorem updatesIndependent_kitchen :
    checkBatch cook 250 [guest, latecomer] = .ok () ∧
    UpdatesIndependent Store.Waits.none tardy EngineSettings.standard cook 250
      [guest, latecomer] ∧
    (updateEntries (Store.backendsBy Store.Waits.none tardy) EngineSettings.standard cook 250
        [guest, latecomer] none kitchen).state.counters =
      { Counters.zero with deltaUpdates := 1, updateFailures := 2 } := by
  have hcheck : checkBatch cook 250 [guest, latecomer] = .ok () := by decide
  exact ⟨hcheck, updatesIndependent Store.Waits.none tardy EngineSettings.standard cook 250
    [guest, latecomer] hcheck, by decide +kernel⟩

end Engine

end ExpenseLedger
