import ExpenseLedger.Proofs.Engine.Headroom
import ExpenseLedger.Proofs.Run.Staleness
/-!
# No sum overflows below a number of records

In a run in which amounts are written into the cache by the engine alone, no sum can overflow as
long as there are no more records than `Ledger.safeLength`, whatever their amounts and whoever the
parties: neither where a balance is computed nor where an entry is updated, not even an entry that
has missed some of the records (`overflowFree`).
-/

open ExpenseLedger.Task

namespace ExpenseLedger

open Web

/-! ## Runs leave room -/

namespace World

/-- A fault other than damage leaves room. -/
theorem roomy_strike (f : Fault) (x : Audited) (h : x.Roomy [])
    (hproper : (Action.step (.fault f)).isProper) :
    Audited.Roomy [] { x with store := f.strike x.store } := by
  have halike (c : Cache) (hhashes : c.hashes = x.store.cache.hashes)
      (hmarkers : c.markers = x.store.cache.markers) (hv : x.volume ≤ Amount.highest) :
      c.WithinBounds fun user => x.volume - Engine.load user [] := by
    refine (h.entries hv).mono (fun _ => Int.le_refl _) fun user fields he => ?_
    rwa [Cache.entryOf_congr user c x.store.cache hhashes hmarkers] at he
  cases f with
  | ledger failing => exact ⟨h.lawful, h.entries, h.reported⟩
  | directory failing => exact ⟨h.lawful, h.entries, h.reported⟩
  | cache failing => exact ⟨h.lawful, halike _ rfl rfl, h.reported⟩
  | updates failing => exact ⟨h.lawful, halike _ rfl rfl, h.reported⟩
  | damage user field value hrejects => contradiction

/-- An action leaves room. -/
theorem roomy_act (x : Site Audited) (a : Action) (hproper : a.isProper)
    (h : x.engine.store.Roomy []) : (audited.act x a).engine.store.Roomy [] := by
  cases a with
  | step st =>
    refine step_keeps (P := Audited.Roomy []) x st h (fun c => Audited.serviceKeeps_roomy) ?_
    rintro f y rfl hy
    exact roomy_strike f y hy hproper
  | direct o =>
    have hperform : ∀ y, Audited.Roomy [] y → Audited.Roomy [] (Audited.perform o y).2 := by
      intro y hy
      cases o with
      | append loans =>
        -- Nothing is to be done in the cache, whether the loans have been recorded or not.
        have happend : Audited.Roomy
            (if (Audited.perform (.append loans) y).1.isOk then [] else [])
            (Audited.perform (.append loans) y).2 := hy.append loans fun hsum _ => hsum
        rwa [ite_self] at happend
      | populate user balance => contradiction
      | applyDeltas user deltas => contradiction
      | _ => exact hy.quiet trivial
    have htask : Triple (Audited.Roomy []) (o.task (Audited.backends .none))
        (fun _ => Audited.Roomy []) (Audited.Roomy []) :=
      Audited.triple_task Store.Waits.none (fun _ hy => hy) hperform
    have hleaves := Site.triple_onEngine (Engine.triple_onStore htask) none x h
    exact hleaves.state (fun _ _ h => h) fun _ h => h

/-- **A run leaves room.** -/
theorem roomy_acts (x : Site Audited) (actions : List Action)
    (hproper : ∀ a ∈ actions, a.isProper) (h : x.engine.store.Roomy []) :
    (audited.acts x actions).engine.store.Roomy [] := by
  induction actions generalizing x with
  | nil => exact h
  | cons a actions ih =>
    have hfirst := roomy_act x a (hproper a List.mem_cons_self) h
    exact ih (audited.act x a) (fun b hb => hproper b (List.mem_cons_of_mem a hb)) hfirst

end World

/-! ## What is left of it -/

/-- The store after some actions from the beginning. -/
def worked (supply : Supply) (actions : List Action) : Store :=
  (World.plain.acts (Site.fresh (Store.empty supply)) actions).engine.store

/-- The same under audit. -/
def auditOf (supply : Supply) (actions : List Action) : Audited :=
  (World.audited.acts (Site.fresh (Audited.start supply)) actions).engine.store

/-- No sum has overflowed in a run, and none can overflow where a balance is computed after it. -/
structure OverflowFree (supply : Supply) (actions : List Action) : Prop where
  /-- The audit is of this very run. -/
  faithful : (auditOf supply actions).store = worked supply actions
  /-- No operation has ever reported an overflow: neither has computing a balance, nor has bringing
  an entry up to date, whatever the entry has missed. -/
  reported : ∀ e ∈ (auditOf supply actions).reported, e.isOverflow = false
  /-- After every record that is added to a balance, for any user, every net amount can be stored,
  and its negative as well. -/
  sums : ∀ (user : UserId) (rs : List LoanRecord), rs <+: (worked supply actions).ledger.records →
    ∃ m, Ledger.aggregate user rs = .ok m ∧
      ∀ other, Amount.Storable (m.getD other 0) ∧ Amount.Storable (-m.getD other 0)
  /-- So can the negative of every amount that is recorded. -/
  amounts : ∀ r ∈ (worked supply actions).ledger.records, Amount.Storable (-r.amount)

/-- **Up to a number of records no sum overflows**, whatever happens to the cache, as long as
amounts are written into it by the engine alone. -/
theorem overflowFree (supply : Supply) (actions : List Action)
    (hproper : ∀ a ∈ actions, a.isProper)
    (hlength : (worked supply actions).ledger.records.length ≤ Ledger.safeLength) :
    OverflowFree supply actions := by
  have hfaithful : (auditOf supply actions).store = worked supply actions :=
    congrArg (fun x : Site Store => x.engine.store)
      (World.forget_acts (Site.fresh (Audited.start supply)) actions)
  obtain ⟨hlawful, -, hreported⟩ := World.roomy_acts (Site.fresh (Audited.start supply)) actions
    hproper (Audited.roomy_start supply)
  change (auditOf supply actions).store.Lawful at hlawful
  rw [hfaithful] at hlawful
  have hvolume := Ledger.volume_le_highest hlawful hlength
  refine ⟨hfaithful, hreported ?_, fun user rs hrs => ?_, fun r hr => ?_⟩
  · change Ledger.volume (auditOf supply actions).store.ledger.records ≤ Amount.highest
    rw [hfaithful]
    exact hvolume
  · obtain ⟨rest, hrest⟩ := hrs
    have hvalid : ∀ r ∈ rs ++ rest, r.toLoan.Valid := hrest ▸ hlawful
    have hprefix := Ledger.volume_le_append rs rest
      fun r hr => hvalid r (List.mem_append_right rs hr)
    rw [hrest] at hprefix
    have hrs : Ledger.volume rs ≤ Amount.highest := by omega
    obtain ⟨m, hm, hwithin⟩ := Ledger.exists_aggregate user rs
      (fun r hr => hvalid r (List.mem_append_left rest hr)) hrs
    refine ⟨m, hm, fun other => ?_⟩
    obtain ⟨hlow, hhigh⟩ := hwithin other
    exact ⟨Balance.storable_of_bounds hlow hhigh hrs,
      Balance.storable_of_bounds (Int.neg_le_neg hhigh) (by omega) hrs⟩
  · obtain ⟨hpos, hlimit, -⟩ := hlawful r hr
    refine Balance.storable_of_bounds (v := Amount.limit) (by omega) (by omega) ?_
    decide

/-! ## A stale entry -/

namespace Sample

/-- After the outage Alice's entry lacks a loan, and another loan is added to it. A third one is
recorded directly, and goes past the cache altogether. -/
def overtaken : List Action :=
  (outage ++ [Step.call calm (.addLoans alice Amount.limit [bob])]).map .step ++
    [.direct (.append [⟨alice, bob, Amount.limit⟩])]

end Sample

open Sample

/-- Alice's entry is brought up to date though it lacks a loan, and no sum overflows. -/
theorem overflowFree_overtaken :
    (∀ a ∈ overtaken, a.isProper) ∧
    (worked supply overtaken).ledger.records.length ≤ Ledger.safeLength ∧
    (worked supply overtaken).served alice = .ok (Table.empty.insert bob Amount.limit) ∧
    Ledger.aggregate alice (worked supply overtaken).ledger.records =
      .ok (Table.empty.insert bob (100 + Amount.limit + Amount.limit)) ∧
    (auditOf supply overtaken).reported = List.replicate 4 .cacheUnavailable ∧
    OverflowFree supply overtaken := by
  have hproper : ∀ a ∈ overtaken, a.isProper := by decide
  have hlength : (worked supply overtaken).ledger.records.length ≤ Ledger.safeLength := by
    decide +kernel
  exact ⟨hproper, hlength, by decide +kernel, by decide +kernel, by decide +kernel,
    overflowFree supply overtaken hproper hlength⟩

end ExpenseLedger
