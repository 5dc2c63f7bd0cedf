import ExpenseLedger.Proofs.Cache.Bounds
import ExpenseLedger.Proofs.Run.Audit
import ExpenseLedger.Proofs.Run.Effects
/-!
# Room for every sum

The volume of the ledger bounds every balance that is computed, and every entry of the cache as
well, however much of the ledger an entry has missed: it holds a sum over some of the records. While
the cache work of a batch is under way, the entries that are still to be updated leave room for the
amounts that are to be added. So no sum overflows while the volume can be stored. Main statements:

* `Audited.Roomy`: the invariant, with the work that is still to be done;
* `Audited.triple_addLoans`: recording loans makes room for its own cache work;
* `Audited.serviceKeeps_roomy`: the services keep the invariant.
-/

open ExpenseLedger.Task

namespace ExpenseLedger

/-! ## Operations -/

/-- A loan that is refused breaks a rule. -/
theorem Loan.isOverflow_checkAll (loans : List Loan) (e : Error)
    (h : Loan.checkAll loans = .error e) : e.isOverflow = false := by
  induction loans with
  | nil => contradiction
  | cons l ls ih =>
    unfold checkAll at h
    cases hl : l.check with
    | ok _ =>
      rw [hl] at h
      exact ih h
    | error e' =>
      rw [hl] at h
      cases h
      unfold Loan.check at hl
      grind [Error.isOverflow]

namespace Operation

/-- The operation adds amounts up. -/
def AddsUp : Operation → Prop
  | computeBalance _ | applyDeltas _ _ => True
  | _ => False

/-- **No other operation reports an overflow.** -/
theorem isOverflow_perform {o : Operation} (ho : ¬ o.AddsUp) (s : Store) (e : Error)
    (h : (o.perform s).1 = .error e) : e.isOverflow = false := by
  cases o with
  | append loans =>
    change (s.ledger.append loans _ _).1 = _ at h
    unfold Ledger.append at h
    grind [Error.isOverflow, Loan.isOverflow_checkAll]
  | computeBalance user => exact absurd trivial ho
  | applyDeltas user deltas => exact absurd trivial ho
  | hasEntry user =>
    change (s.cache.hasEntry user).1 = _ at h
    grind [Error.isOverflow, Cache.hasEntry]
  | lookup user =>
    change (s.cache.lookup user).1 = _ at h
    grind [Error.isOverflow, Cache.lookup, Cache.lookupIn]
  | populate user balance =>
    change (s.cache.populate user balance).1 = _ at h
    grind [Error.isOverflow, Cache.populate]
  | clear user =>
    change (s.cache.clear user).1 = _ at h
    grind [Error.isOverflow, Cache.clear]
  | createGroup name owner =>
    change (s.directory.create _).1 = _ at h
    grind [Error.isOverflow, Directory.create]
  | findGroup group =>
    change s.directory.find group = _ at h
    grind [Error.isOverflow, Directory.find, Directory.query]
  | deleteGroup group =>
    change (s.directory.delete group).1 = _ at h
    grind [Error.isOverflow, Directory.delete]
  | addMembers group users =>
    change (s.directory.addMembers group users).1 = _ at h
    grind [Error.isOverflow, Directory.addMembers]
  | removeMember group user =>
    change (s.directory.removeMember group user).1 = _ at h
    grind [Error.isOverflow, Directory.removeMember]
  | members group =>
    change s.directory.members group = _ at h
    grind [Error.isOverflow, Directory.members, Directory.query]
  | groupsOf user =>
    change s.directory.groupsOf user = _ at h
    grind [Error.isOverflow, Directory.groupsOf, Directory.query]

/-- A quiet operation records nothing. -/
theorem IsQuiet.records {o : Operation} (ho : o.IsQuiet) (s : Store) :
    (o.perform s).2.ledger.records = s.ledger.records := by
  cases o with
  | append loans => contradiction
  | computeBalance user =>
    change (s.ledger.computeBalance user).2.records = _
    unfold Ledger.computeBalance
    split
    · rfl
    · rfl
  | _ => rfl

/-- A quiet operation writes no entry. -/
theorem IsQuiet.entryOf {o : Operation} (ho : o.IsQuiet) (s : Store) (user : UserId)
    (fields : Cache.Fields) (h : (o.perform s).2.cache.entryOf user = some fields) :
    s.cache.entryOf user = some fields := by
  have hremove (v : UserId) (he : (s.cache.remove v).entryOf user = some fields) :
      s.cache.entryOf user = some fields := by
    rw [Cache.entryOf_remove] at he
    split at he
    · contradiction
    · exact he
  cases o with
  | populate v balance => contradiction
  | applyDeltas v deltas => contradiction
  | hasEntry v =>
    change (s.cache.hasEntry v).2.entryOf user = _ at h
    rwa [(Cache.hasEntry_cases v s.cache).1] at h
  | lookup v =>
    change (s.cache.lookup v).2.entryOf user = _ at h
    rcases Cache.lookup_cases v s.cache with ⟨-, -, hs⟩ | ⟨-, _, _, -, -, -, hs⟩ |
      ⟨-, -, -, hs⟩ | ⟨-, _, -, -, -, hs⟩
    · rwa [hs] at h
    · rwa [hs] at h
    · rwa [hs] at h
    · rw [hs] at h
      exact hremove v h
  | clear v =>
    change (s.cache.clear v).2.entryOf user = _ at h
    rcases Cache.clear_cases v s.cache with ⟨-, -, hs⟩ | ⟨-, -, hs⟩
    · rwa [hs] at h
    · rw [hs] at h
      exact hremove v h
  | _ => exact h

end Operation

/-! ## Work to be done -/

namespace Engine

/-- How much is still to be added to the entry of a user, by magnitude. -/
def load (user : UserId) : List (UserId × List (UserId × Int)) → Int
  | [] => 0
  | c :: work => (if c.1 = user then Cache.extent c.2 else 0) + load user work

/-- What is still to be added is not negative. -/
theorem load_nonneg (user : UserId) (work : List (UserId × List (UserId × Int))) :
    0 ≤ load user work := by
  induction work with
  | nil => exact Int.le_refl 0
  | cons c work ih =>
    have hextent := Cache.extent_nonneg c.2
    unfold load
    split
    · omega
    · omega

/-- The work for the debtors is for each of them at most the sum of all amounts. -/
theorem load_debtors (user lender : UserId) (amount : Int) (hpos : 0 < amount)
    (debtors : List UserId) :
    load user (debtors.map fun d => (d, [(lender, -amount)])) ≤ debtors.length * amount ∧
      (user ∉ debtors → load user (debtors.map fun d => (d, [(lender, -amount)])) = 0) := by
  induction debtors with
  | nil => exact ⟨by simp [load], fun _ => rfl⟩
  | cons d ds ih =>
    obtain ⟨hle, hzero⟩ := ih
    have hone : Cache.extent [(lender, -amount)] = amount := by
      simp [Cache.extent]
      omega
    rw [List.map_cons, load, hone, List.length_cons]
    push_cast
    rw [Int.add_mul, Int.one_mul]
    refine ⟨?_, fun hmem => ?_⟩
    · split
      · omega
      · omega
    · rw [List.mem_cons, not_or] at hmem
      rw [if_neg (Ne.symm hmem.1), hzero hmem.2]
      rfl

/-- **A batch adds no more to any entry than the sum of its amounts.** -/
theorem load_changes (user lender : UserId) (amount : Int) (debtors : List UserId)
    (hcheck : checkBatch lender amount debtors = .ok ()) :
    load user (changes lender amount debtors) ≤
      ((loansTo lender amount debtors).map Loan.amount).sum := by
  obtain ⟨hne, -, hvalid⟩ := (checkBatch_eq_ok_iff lender amount debtors).1 hcheck
  obtain ⟨d, hd⟩ := List.exists_mem_of_ne_nil debtors hne
  have hpos : 0 < amount := (hvalid ⟨lender, d, amount⟩ (List.mem_map.2 ⟨d, hd, rfl⟩)).1
  have hsum : (debtors.map fun _ => amount).sum = debtors.length * amount := by
    rw [List.map_const', List.sum_replicate_int]
  obtain ⟨hle, hzero⟩ := load_debtors user lender amount hpos debtors
  unfold changes loansTo
  rw [List.map_map, load]
  change _ ≤ (debtors.map fun _ => amount).sum
  dsimp only
  by_cases huser : lender = user
  · -- The lender is none of the debtors, and gets the amount of each of them.
    subst huser
    have hextent : Cache.extent (debtors.map fun d => (d, amount)) = debtors.length * amount := by
      unfold Cache.extent
      rw [List.map_map]
      change (debtors.map fun _ => (amount.natAbs : Int)).sum = _
      rw [Int.natAbs_of_nonneg (by omega), hsum]
    rw [if_pos rfl, hextent, hsum, hzero (lender_not_mem lender amount debtors hvalid)]
    omega
  · rw [if_neg huser, hsum]
    omega

end Engine

namespace Audited

/-- The sum of the amounts of all records. -/
def volume (x : Audited) : Int := Ledger.volume x.store.ledger.records

/-- While the volume can be stored, there is room for all that is still to be added to entries, and
no overflow has been reported. -/
structure Roomy (work : List (UserId × List (UserId × Int))) (x : Audited) : Prop where
  /-- All recorded loans obey the rules. -/
  lawful : x.store.Lawful
  /-- Every entry leaves room below the volume. -/
  entries : x.volume ≤ Amount.highest →
    x.store.cache.WithinBounds fun user => x.volume - Engine.load user work
  /-- No overflow has been reported. -/
  reported : x.volume ≤ Amount.highest → ∀ e ∈ x.reported, e.isOverflow = false

/-- A balance is within the volume, if that can be stored. -/
def Fits (m : Balance) (x : Audited) : Prop := x.volume ≤ Amount.highest → m.Within x.volume

/-- There is room in the beginning. -/
theorem roomy_start (supply : Supply) : (start supply).Roomy [] where
  lawful _ hr := absurd hr List.not_mem_nil
  entries _ := .empty _
  reported _ _ he := absurd he List.not_mem_nil

variable {x : Audited} {work : List (UserId × List (UserId × Int))} {o : Operation}

/-- The error of a reply is one of those reported. -/
theorem forall_errors {α : Type} {errors' : List Error} {r : Except Error α}
    (h : ∀ e ∈ errors', e.isOverflow = false) (hr : ∀ e, r = .error e → e.isOverflow = false) :
    ∀ e ∈ errors' ++ errors r, e.isOverflow = false := by
  intro e he
  rcases List.mem_append.1 he with he | he
  · exact h e he
  · cases r with
    | ok a => contradiction
    | error e' =>
      rw [List.mem_singleton.1 he]
      exact hr e' rfl

namespace Roomy

/-- Work that is given up leaves room. -/
theorem tail {c : UserId × List (UserId × Int)} (h : x.Roomy (c :: work)) : x.Roomy work where
  lawful := h.lawful
  entries hv := by
    refine (h.entries hv).mono (fun user => ?_) fun _ _ he => he
    have hextent := Cache.extent_nonneg c.2
    rw [Engine.load]
    split
    · omega
    · omega
  reported := h.reported

/-- An operation that records nothing leaves room if it does so in the cache and does not report an
overflow. -/
theorem perform {work' : List (UserId × List (UserId × Int))} (h : x.Roomy work)
    (hrecords : (o.perform x.store).2.ledger.records = x.store.ledger.records)
    (hcache : x.volume ≤ Amount.highest →
      ((o.perform x.store).2.cache.WithinBounds fun user => x.volume - Engine.load user work') ∧
        ∀ e, (o.perform x.store).1 = .error e → e.isOverflow = false) :
    (Audited.perform o x).2.Roomy work' := by
  have hvolume : (Audited.perform o x).2.volume = x.volume := congrArg Ledger.volume hrecords
  refine ⟨h.lawful.of_records hrecords, ?_, ?_⟩
  · rw [hvolume]
    exact fun hv => (hcache hv).1
  · rw [hvolume]
    exact fun hv => forall_errors (h.reported hv) (hcache hv).2

/-- Computing a balance does not overflow, and gives one that fits. -/
theorem fits (h : x.Roomy work) (user : UserId) (hv : x.volume ≤ Amount.highest) :
    (∀ m, (x.store.ledger.computeBalance user).1 = .ok m → m.Within x.volume) ∧
      ∀ e, (x.store.ledger.computeBalance user).1 = .error e → e.isOverflow = false := by
  obtain ⟨m, hm, hwithin⟩ := Ledger.exists_aggregate user _ h.lawful hv
  unfold Ledger.computeBalance
  split
  · refine ⟨fun _ hr => by contradiction, fun e he => ?_⟩
    cases he
    rfl
  · dsimp only
    rw [hm]
    refine ⟨fun m' hm' => ?_, fun _ he => by contradiction⟩
    cases hm'
    exact hwithin

/-- **A quiet operation leaves room.** -/
theorem quiet (h : x.Roomy work) (ho : o.IsQuiet) : (Audited.perform o x).2.Roomy work := by
  refine h.perform (ho.records x.store) fun hv => ⟨?_, fun e he => ?_⟩
  · exact (h.entries hv).mono (fun _ => Int.le_refl _) (ho.entryOf x.store)
  · by_cases hsum : o.AddsUp
    · cases o with
      | computeBalance user => exact (h.fits user hv).2 e he
      | applyDeltas user deltas => contradiction
      | _ => contradiction
    · exact Operation.isOverflow_perform hsum x.store e he

/-- Filling an entry with a balance that fits leaves room. -/
theorem populate (h : x.Roomy []) (user : UserId) {m : Balance} (hm : Fits m x) :
    (Audited.perform (.populate user m) x).2.Roomy [] := by
  refine h.perform rfl fun hv => ⟨?_, fun e he => ?_⟩
  · refine (h.entries hv).populate ?_
    change m.Within (x.volume - 0)
    rw [Int.sub_zero]
    exact hm hv
  · exact Operation.isOverflow_perform id x.store e he

/-- **An update takes up the room that was left for it**, and no more. -/
theorem applyDeltas {c : UserId × List (UserId × Int)} (h : x.Roomy (c :: work)) :
    (Audited.perform (.applyDeltas c.1 c.2) x).2.Roomy work := by
  refine h.perform rfl fun hv => ?_
  have hload := Engine.load_nonneg c.1 work
  refine (h.entries hv).applyDeltas c.1 c.2 ?_ (fun v hne => ?_) ?_
  · rw [Engine.load, if_pos rfl]
    omega
  · rw [Engine.load, if_neg (Ne.symm hne)]
    omega
  · omega

/-- **Recording makes room for work that adds no more than the loans.** -/
theorem append (h : x.Roomy []) (loans : List Loan)
    (hwork : 0 ≤ (loans.map Loan.amount).sum →
      ∀ user, Engine.load user work ≤ (loans.map Loan.amount).sum) :
    (Audited.perform (.append loans) x).2.Roomy
      (if (Audited.perform (.append loans) x).1.isOk then work else []) := by
  have hreply : (Audited.perform (.append loans) x).1 =
      (x.store.ledger.append loans x.store.supply.next x.store.supply.now).1 := rfl
  rcases Ledger.append_cases loans x.store.supply.next x.store.supply.now x.store.ledger with
    ⟨⟨e, he⟩, hsame⟩ | ⟨hbatch, hrecords⟩
  · rw [hreply, he]
    refine h.perform (congrArg Ledger.records hsame) fun hv => ⟨h.entries hv, ?_⟩
    exact Operation.isOverflow_perform id x.store
  · rw [hreply, hbatch]
    have hvalid : ∀ r ∈ Ledger.recordAll x.store.supply.next x.store.supply.now loans,
        r.toLoan.Valid := Ledger.valid_recordAll _ _ (Ledger.valid_of_append hbatch)
    have hvolume : (Audited.perform (.append loans) x).2.volume =
        x.volume + (loans.map Loan.amount).sum := by
      change Ledger.volume (x.store.ledger.append loans _ _).2.records = _
      rw [hrecords, Ledger.volume_append, Ledger.volume_recordAll]
      rfl
    have hgrows := (Ledger.volume_bounds _ hvalid).1
    rw [Ledger.volume_recordAll] at hgrows
    refine ⟨fun r hr => ?_, fun hv => ?_, fun hv => ?_⟩
    · change r ∈ (x.store.ledger.append loans _ _).2.records at hr
      rw [hrecords] at hr
      rcases List.mem_append.1 hr with hr | hr
      · exact h.lawful r hr
      · exact hvalid r hr
    · rw [hvolume] at hv ⊢
      refine (h.entries (by omega)).mono (fun user => ?_) fun _ _ he => he
      have hload := hwork hgrows user
      change x.volume - 0 ≤ x.volume + _ - Engine.load user work
      omega
    · rw [hvolume] at hv
      refine forall_errors (h.reported (by omega)) ?_
      exact Operation.isOverflow_perform id x.store

end Roomy

/-! ## Tasks -/

variable {w : Store.Waits} {settings : EngineSettings}

/-- Quiet operations leave room, performed or not. -/
theorem triple_quiet (ho : o.IsQuiet) :
    Triple (Roomy work) (o.task (backends w)) (fun _ => Roomy work) (Roomy work) :=
  triple_task w (fun _ hx => hx) fun _ hx => hx.quiet ho

/-- Filling an entry with a balance that fits leaves room. -/
theorem triple_fillEntry (user : UserId) (m : Balance) :
    Triple (fun e => e.store.Roomy [] ∧ Fits m e.store)
      (Engine.fillEntry (backends w) settings user m)
      (fun _ e => e.store.Roomy []) fun e => e.store.Roomy [] := by
  have hclear : Triple (fun x => x.Roomy [] ∧ Fits m x) ((backends w).clear user)
      (fun _ x => x.Roomy [] ∧ Fits m x) fun x => x.Roomy [] ∧ Fits m x := by
    refine triple_task w (o := .clear user) (fun _ hx => hx) fun x hx => ⟨hx.1.quiet trivial, ?_⟩
    exact hx.2
  have hpopulate : Triple (fun x => x.Roomy [] ∧ Fits m x) ((backends w).populate user m)
      (fun _ x => x.Roomy [] ∧ Fits m x) fun x => x.Roomy [] ∧ Fits m x :=
    triple_task w (o := .populate user m) (fun _ hx => hx) fun _ hx =>
      ⟨hx.1.populate user hx.2, hx.2⟩
  exact (Engine.triple_fillEntry_of_populate hclear hpopulate).conseq (fun _ he => he)
    (fun _ _ he => he.1) fun _ he => he.1

/-- Reading a balance leaves room. -/
theorem triple_balanceOf (user : UserId) :
    Triple (fun e => e.store.Roomy []) (Engine.balanceOf (backends w) settings user)
      (fun _ e => e.store.Roomy []) fun e => e.store.Roomy [] := by
  have hcompute : Triple (Roomy []) ((backends w).computeBalance user)
      (fun r x => x.Roomy [] ∧ ∀ m, r = .ok m → Fits m x) (Roomy []) := by
    refine triple_task w (o := .computeBalance user) (fun _ hx => hx) fun x hx =>
      ⟨hx.quiet trivial, fun m hm hv => ?_⟩
    have hvolume : (perform (.computeBalance user) x).2.volume = x.volume :=
      congrArg Ledger.volume (Operation.IsQuiet.records (o := .computeBalance user) trivial x.store)
    rw [hvolume] at hv ⊢
    exact (hx.fits user hv).1 m hm
  have hmiss : Triple (fun e => e.store.Roomy [])
      (Engine.balanceFromLedger (backends w) settings user) (fun _ e => e.store.Roomy [])
      fun e => e.store.Roomy [] := by
    refine (Engine.triple_count _ (P := Roomy [])).bind fun _ => ?_
    refine (Engine.triple_onStore hcompute).bind_except (fun _ => .pure fun _ he => he.1) ?_
    intro m
    have hrest : Triple (fun e => e.store.Roomy [] ∧ Fits m e.store) (do
          Engine.count .ledgerScan
          Engine.fillEntry (backends w) settings user m
          return .ok m)
        (fun (_ : Except Error Balance) e => e.store.Roomy []) fun e => e.store.Roomy [] := by
      refine (Engine.triple_count _ (P := fun x => Roomy [] x ∧ Fits m x)).bind fun _ => ?_
      exact (triple_fillEntry user m).bind fun _ => .pure fun _ he => he
    exact hrest.conseq (fun _ he => ⟨he.1, he.2 m rfl⟩) (fun _ _ he => he) fun _ he => he
  refine (Engine.triple_onStore (triple_quiet (o := .lookup user) trivial)).bind_except
    (fun _ => hmiss) ?_
  rintro (m | _)
  · exact (Engine.triple_count _ (P := Roomy [])).bind fun _ => .pure fun _ he => he
  · exact hmiss

/-- **Bringing an entry up to date does the work that there is room for.** -/
theorem triple_updateEntry (c : UserId × List (UserId × Int)) :
    Triple (fun e => e.store.Roomy (c :: work)) (Engine.updateEntry (backends w) settings c.1 c.2)
      (fun _ e => e.store.Roomy work) fun e => e.store.Roomy work := by
  refine Engine.triple_updateEntry_of_tryUpdate
    (triple_quiet (o := .clear c.1) trivial) ?_
  have hask : Triple (Roomy (c :: work)) ((backends w).hasEntry c.1) (fun _ => Roomy (c :: work))
      (Roomy work) :=
    triple_task w (o := .hasEntry c.1) (fun _ hx => hx.tail) fun _ hx => hx.quiet trivial
  refine hask.bind_except (fun _ => .pure fun _ hx => hx.tail) ?_
  rintro (_ | _)
  · exact .pure fun _ hx => hx.tail
  · exact triple_task w (o := .applyDeltas c.1 c.2) (fun _ hx => hx.tail) fun _ hx => hx.applyDeltas

/-- **Recording loans leaves room**, also if its cache work fails or is dropped. -/
theorem triple_addLoans (lender : UserId) (amount : Int) (debtors : List UserId) :
    Triple (fun e => e.store.Roomy [])
      (Engine.addLoans (backends w) settings lender amount debtors)
      (fun _ e => e.store.Roomy []) fun e => e.store.Roomy [] := by
  unfold Engine.addLoans
  cases hcheck : Engine.checkBatch lender amount debtors with
  | error e => exact .pure fun _ he => he
  | ok _ =>
    have happend : Triple (Roomy [])
        ((backends w).append (Engine.loansTo lender amount debtors))
        (fun r x => x.Roomy (if r.isOk then Engine.changes lender amount debtors else []))
        (Roomy []) :=
      triple_task w (o := .append (Engine.loansTo lender amount debtors)) (fun _ hx => hx)
        fun _ hx => hx.append _ fun _ user => Engine.load_changes user lender amount debtors hcheck
    refine (Engine.triple_onStore happend).bind_except (fun _ => .pure fun _ he => he) fun _ => ?_
    have hupdates : Triple
        (fun e => e.store.Roomy (Engine.changes lender amount debtors))
        (Engine.updateEntries (backends w) settings lender amount debtors)
        (fun _ e => e.store.Roomy []) fun e => e.store.Roomy [] :=
      Triple.all (A := fun cs (e : Engine Audited) => e.store.Roomy cs)
        (B := fun cs (e : Engine Audited) => e.store.Roomy cs)
        (fun c _ => triple_updateEntry c) (fun c _ => triple_updateEntry c) _
    exact hupdates.bind fun _ => .pure fun _ he => he

/-- **The services leave room.** -/
theorem serviceKeeps_roomy : (backends w).ServiceKeeps settings (Roomy []) where
  toDirectoryKeeps := directoryKeeps w fun _ ho _ hx => hx.quiet ho
  balanceOf := triple_balanceOf
  addLoans := triple_addLoans
  clear user := triple_quiet (o := .clear user) trivial

end Audited

end ExpenseLedger
