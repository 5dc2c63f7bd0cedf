import ExpenseLedger.Proofs.Run.Keeping
/-!
# Runs keep the store sound

Whatever happens in a run, the store is coherent with its history. If entries can be dropped in time
throughout and no request is answered with a timeout, then nothing is lost (`World.sound_run`).
-/

open ExpenseLedger.Task

namespace ExpenseLedger

open Web

/-- At the step nothing keeps an entry from being dropped in time. -/
def Step.Clears : Step → Prop
  | call c _ => c.waits.clear ≤ c.settings.cacheUpdateTimeout
  | request c _ => c.waits.clear ≤ c.settings.cacheUpdateTimeout
  | fault (.cache failing) => failing = false
  | fault _ => True

/-- Whether an entry can be dropped in time at a step can be decided. -/
instance : DecidablePred Step.Clears
  | .call _ _ | .request _ _ => inferInstanceAs (Decidable (_ ≤ _))
  | .fault (.cache _) => inferInstanceAs (Decidable (_ = _))
  | .fault (.ledger _) | .fault (.updates _) | .fault (.directory _) | .fault (.damage _ _ _ _) =>
    inferInstanceAs (Decidable True)

namespace World

open Journaled

variable {assumption : Prop}

/-- Reading a balance keeps the store sound. -/
theorem triple_read {α : Type} {t : Task (Engine Journaled) α} {Q : Store → α → Prop}
    (h : ∀ s, Triple (fun e => e.store.Sound assumption ∧ e.store.store = s) t
      (fun a e => e.store.Sound assumption ∧ Q s a) fun e => e.store.Sound assumption) :
    Triple (fun e => e.store.Sound assumption) t (fun _ e => e.store.Sound assumption)
      fun e => e.store.Sound False := by
  refine Triple.of_forall fun e he => ?_
  refine (h e.store.store).conseq ?_ (fun _ _ h => h.1) fun _ h => h.mono False.elim
  rintro e' rfl
  exact ⟨he, rfl⟩

/-- An operation on the directory keeps the store sound. -/
theorem triple_onDirectory {α : Type} {t : Task Journaled α}
    (h : Triple (Sound assumption) t (fun _ => Sound assumption) (Sound assumption)) :
    Triple (fun e => e.store.Sound assumption) (Engine.onStore t).ignore
      (fun _ e => e.store.Sound assumption) fun e => e.store.Sound False :=
  triple_ignore ((Engine.triple_onStore h).mono_dropped fun _ h => h.mono False.elim)

/-- A call keeps the store sound. -/
theorem triple_perform (c : Conditions)
    (hclear : assumption → c.waits.clear ≤ c.settings.cacheUpdateTimeout) (call : ServiceCall) :
    Triple (fun e => e.store.Sound assumption)
      (call.perform (Journaled.backends c.waits) c.settings)
      (fun _ e => e.store.Sound assumption) fun e => e.store.Sound False := by
  have hkeeps : (Journaled.backends c.waits).DirectoryKeeps (Sound assumption) :=
    Engine.directoryKeeps_sound
  cases call with
  | addLoans lender amount debtors =>
    exact triple_ignore (Engine.triple_addLoans hclear lender amount debtors)
  | balanceOf user => exact triple_ignore (triple_read (Engine.triple_balanceOf user))
  | balanceLinesOf user => exact triple_ignore (triple_read (Engine.triple_balanceLinesOf user))
  | shareExpense payer total group =>
    exact triple_ignore (Engine.triple_shareExpense hclear payer total group)
  | clear user =>
    refine triple_onDirectory (triple_clear user (fun _ hj => hj) (fun _ _ hj _ => hj) ?_)
    exact fun _ _ hj hs => hj.cleared hs
  | createGroup name owner => exact triple_onDirectory (Engine.triple_createGroup hkeeps name owner)
  | groupInfo group => exact triple_onDirectory (Engine.triple_groupInfo hkeeps group)
  | membersOf group => exact triple_onDirectory (Engine.triple_membersOf hkeeps group)
  | groupsOf user => exact triple_onDirectory (hkeeps.groupsOf user)
  | addMembers actor group users =>
    exact triple_onDirectory (Engine.triple_addMembers hkeeps actor group users)
  | removeMember actor group user =>
    exact triple_onDirectory (Engine.triple_removeMember hkeeps actor group user)
  | deleteGroup actor group =>
    exact triple_onDirectory (Engine.triple_deleteGroup hkeeps actor group)

/-- A fault keeps the store sound, unless it takes the cache out of service. -/
theorem sound_strike (j : Journaled) (f : Fault) (h : j.Sound assumption) :
    Sound (assumption ∧ (Step.fault f).Clears) ⟨f.strike j.store, j.history⟩ := by
  have hmono : j.Sound (assumption ∧ (Step.fault f).Clears) := h.mono And.left
  cases f with
  | ledger failing => exact hmono.alike (Store.alike_of_eq rfl rfl)
  | directory failing => exact hmono.alike (Store.alike_of_eq rfl rfl)
  | updates failing =>
    refine hmono.alike ⟨rfl, rfl, fun v => ?_⟩
    exact Cache.entryOf_congr v _ _ rfl rfl
  | cache failing =>
    refine ⟨⟨h.coherent.records, fun user fields hentry => ?_⟩, And.right, hmono.complete⟩
    refine h.coherent.entries user fields ?_
    rw [← hentry]
    exact Cache.entryOf_congr user _ _ rfl rfl
  | damage user field value hrejects =>
    refine ⟨⟨h.coherent.records, fun v fields hentry => ?_⟩, hmono.available, hmono.complete⟩
    change (j.store.cache.insertRaw user field value).entryOf v = some fields at hentry
    rw [Cache.entryOf_insertRaw] at hentry
    by_cases hv : v = user
    · rw [if_pos hv] at hentry
      obtain ⟨old, -, rfl⟩ := Option.map_eq_some_iff.1 hentry
      exact .inl (Cache.unreadable_insert old field value hrejects)
    · rw [if_neg hv] at hentry
      exact h.coherent.entries v fields hentry

/-- **A step keeps the store sound if it lets entries be dropped and is not answered with a
timeout.** -/
theorem sound_step (x : Site Journaled) (st : Step) (h : x.engine.store.Sound assumption) :
    (journaled.step x st).engine.store.Sound
      (assumption ∧ st.Clears ∧ journaled.status? x st ≠ some 504) := by
  cases st with
  | call c call =>
    have hclear : assumption ∧ (Step.call c call).Clears →
        c.waits.clear ≤ c.settings.cacheUpdateTimeout := And.right
    have hmono : x.engine.store.Sound (assumption ∧ (Step.call c call).Clears) :=
      h.mono And.left
    have htriple := triple_perform c hclear call
    obtain ⟨-, -, -, hsound⟩ := (Site.triple_onEngine htriple none x hmono).exists_done
    exact hsound.mono fun ha => ⟨ha.1, ha.2.1⟩
  | request c r =>
    have hclear : assumption ∧ (Step.request c r).Clears →
        c.waits.clear ≤ c.settings.cacheUpdateTimeout := And.right
    have hmono : x.engine.store.Sound (assumption ∧ (Step.request c r).Clears) :=
      h.mono And.left
    have htriple := Site.triple_handle hclear c.timeout r
    obtain ⟨response, spent, hdone, hsound⟩ := (htriple none x hmono).exists_done
    refine hsound.mono fun ha => ⟨⟨ha.1, ha.2.1⟩, fun hstatus => ha.2.2 ?_⟩
    rw [journaled.status?_request hdone, hstatus]
  | fault f => exact (sound_strike _ f h).mono fun ha => ⟨ha.1, ha.2.1⟩

/-- **A run keeps the store sound if entries can be dropped in time throughout and no request is
answered with a timeout.** -/
theorem sound_run (x : Site Journaled) (steps : List Step)
    (h : x.engine.store.Sound assumption) :
    (journaled.run x steps).engine.store.Sound
      (assumption ∧ (∀ st ∈ steps, st.Clears) ∧ 504 ∉ journaled.statuses x steps) := by
  -- Along the run the assumption collects what has to hold of the steps.
  induction steps generalizing x assumption with
  | nil => exact h.mono And.left
  | cons st steps ih =>
    refine (ih (journaled.step x st) (sound_step x st h)).mono ?_
    rintro ⟨ha, hclears, hstatuses⟩
    rw [statuses, List.mem_append, not_or] at hstatuses
    refine ⟨⟨ha, hclears st List.mem_cons_self, fun hst => hstatuses.1 ?_⟩,
      fun d hd => hclears d (List.mem_cons_of_mem st hd), hstatuses.2⟩
    rw [hst]
    exact List.mem_singleton.2 rfl

end World

end ExpenseLedger
