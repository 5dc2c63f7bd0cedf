import ExpenseLedger.Proofs.Concurrent.Batches
import ExpenseLedger.Proofs.Concurrent.Reads
import ExpenseLedger.Proofs.Run.Staleness
import Mathlib.Data.List.Infix
/-!
# Concurrent calls converge

Calls that read balances and calls that record loans take turns in any order. Each turn is a move of
one call for each user (`InFlight.move`), so what the entry of a user lacks is due at any time
(`Traffic.Sound.run`), as long as no read fills the entry while a batch is on its way to it. When
no batch is on its way, the entry lacks nothing (`entry_converges`). Without that proviso a read
could put an older balance in the place of a newer one.
-/

namespace ExpenseLedger

open Ledger

/-! ## Calls -/

/-- The call reads a balance or records loans. -/
def ServiceCall.OfBalances : ServiceCall → Prop
  | addLoans _ _ _ | balanceOf _ => True
  | _ => False

instance : (call : ServiceCall) → Decidable call.OfBalances
  | .addLoans _ _ _ | .balanceOf _ => inferInstanceAs (Decidable True)
  | .balanceLinesOf _ | .shareExpense _ _ _ | .clear _ | .createGroup _ _ | .groupInfo _
  | .membersOf _ | .groupsOf _ | .addMembers _ _ _ | .removeMember _ _ _ | .deleteGroup _ _ =>
    inferInstanceAs (Decidable False)

/-- The call records loans. -/
def ServiceCall.Lends : ServiceCall → Prop
  | addLoans _ _ _ => True
  | _ => False

instance : (call : ServiceCall) → Decidable call.Lends
  | .addLoans _ _ _ => inferInstanceAs (Decidable True)
  | .balanceOf _ | .balanceLinesOf _ | .shareExpense _ _ _ | .clear _ | .createGroup _ _
  | .groupInfo _ | .membersOf _ | .groupsOf _ | .addMembers _ _ _ | .removeMember _ _ _
  | .deleteGroup _ _ => inferInstanceAs (Decidable False)

namespace InFlight

/-- The stage of a call for a user. -/
def stage (user : UserId) (p : InFlight) : Stage :=
  match p.call with
  | .addLoans lender amount debtors => batchStage p.answers user lender amount debtors
  | .balanceOf v => if v = user then readStage p.answers v else .idle
  | _ => .idle

/-- The call reads a balance or records loans, and its replies have come in order. -/
def Orderly (p : InFlight) : Prop :=
  match p.call with
  | .addLoans lender amount debtors => p.answers.BatchOrderly lender amount debtors
  | .balanceOf user => p.answers.ReadOrderly user
  | _ => False

/-- A call that has not begun is in order. -/
theorem orderly_start (call : ServiceCall) (h : call.OfBalances) :
    Orderly ⟨call, fun _ => none⟩ := by
  cases call with
  | addLoans lender amount debtors => exact Answers.BatchOrderly.none
  | balanceOf user => exact Answers.ReadOrderly.none
  | _ => exact h.elim

/-- A call that has not begun is about to do nothing. -/
theorem stage_start (user : UserId) (call : ServiceCall) :
    stage user ⟨call, fun _ => none⟩ = .idle := by
  cases call with
  | addLoans lender amount debtors =>
    change batchStage (fun _ => none) user lender amount debtors = .idle
    exact Answers.BatchOrderly.stage_eq_idle user fun _ => nofun
  | balanceOf v => exact ite_self _
  | _ => rfl

/-- **A turn of a call is a move for every user.** -/
theorem move (settings : EngineSettings) (user : UserId) {p : InFlight} (hp : p.Orderly)
    {o : Operation} (ho : o ∈ p.asks settings) {s : Store} (hs : s.cache.failing = false) :
    (p.answer o (o.perform s).1).Orderly ∧
      Stage.Move user (s.view user) (p.stage user) ((o.perform s).2.view user)
        ((p.answer o (o.perform s).1).stage user) := by
  obtain ⟨call, a⟩ := p
  cases call with
  | addLoans lender amount debtors =>
    rw [asks_addLoans settings] at ho
    exact Answers.BatchOrderly.move hp user ho hs
  | balanceOf v =>
    rw [asks_balanceOf settings] at ho
    obtain ⟨horderly, hmove⟩ := Answers.ReadOrderly.move hp ho hs
    refine ⟨horderly, ?_⟩
    change Stage.Move user _ (if v = user then _ else _) _ (if v = user then _ else _)
    by_cases hv : v = user
    · rw [if_pos hv, if_pos hv, ← hv]
      exact hmove
    · rw [if_neg hv, if_neg hv,
        Operation.view_perform_of_ne (subject_of_mem_readAsks ho) (Ne.symm hv)]
      exact .rest _ _
  | _ => exact hp.elim

/-- A call that is about to fill an entry reads the balance of its user and asks for the filling. -/
theorem exists_mem_asks_of_fills (settings : EngineSettings) {user : UserId} {p : InFlight}
    (hp : p.Orderly) (h : (p.stage user).Fills) :
    p.call = .balanceOf user ∧ ∃ o ∈ p.asks settings, o.Fills user := by
  obtain ⟨call, a⟩ := p
  cases call with
  | addLoans lender amount debtors => exact absurd h (not_fills_batchStage a user _ _ _)
  | balanceOf v =>
    change Stage.Fills (if v = user then readStage a v else .idle) at h
    split at h
    · rename_i hv
      subst hv
      rw [asks_balanceOf settings]
      exact ⟨rfl, Answers.ReadOrderly.exists_mem_readAsks hp h⟩
    · exact h.elim
  | _ => exact hp.elim

/-- A call that is bringing an entry up to date records loans, and asks for something about that. -/
theorem exists_mem_asks_of_updates (settings : EngineSettings) {user : UserId} {p : InFlight}
    (hp : p.Orderly) (h : (p.stage user).Updates) :
    p.call.Lends ∧ ∃ o ∈ p.asks settings, o.Updates user := by
  obtain ⟨call, a⟩ := p
  cases call with
  | addLoans lender amount debtors =>
    rw [asks_addLoans settings]
    exact ⟨trivial, exists_mem_batchAsks h⟩
  | balanceOf v =>
    change Stage.Updates (if v = user then readStage a v else .idle) at h
    split at h
    · exact absurd h (not_updates_readStage a v)
    · exact h.elim
  | _ => exact hp.elim

end InFlight

/-! ## Traffic -/

namespace Traffic

variable (settings : EngineSettings) (user : UserId) (x : Traffic)

/-- A read is about to fill the entry of the user: it has computed the balance. -/
def Filling : Prop := ∃ p ∈ x.calls, ∃ o ∈ p.asks settings, o.Fills user

/-- A batch that concerns the user is on its way to the user's entry: it has been recorded, and what
is to be done to the entry has not been done. -/
def Updating : Prop := ∃ p ∈ x.calls, p.call.Lends ∧ ∃ o ∈ p.asks settings, o.Updates user

/-- A read is about to fill the entry of the user while a batch is on its way to it. -/
def Clashing : Prop := x.Filling settings user ∧ x.Updating settings user

instance : Decidable (x.Filling settings user) :=
  inferInstanceAs (Decidable (∃ p ∈ x.calls, _))

instance : Decidable (x.Updating settings user) :=
  inferInstanceAs (Decidable (∃ p ∈ x.calls, _))

instance : Decidable (x.Clashing settings user) := inferInstanceAs (Decidable (_ ∧ _))

/-- The stages of the calls for a user. -/
def stages : List Stage := x.calls.map (InFlight.stage user)

/-- The cache is in service, and all calls are in order. -/
structure Ready : Prop where
  /-- The cache is in service. -/
  available : x.store.cache.failing = false
  /-- The calls are in order. -/
  orderly : ∀ p ∈ x.calls, p.Orderly

/-- What the entry of the user lacks is due. -/
def Sound : Prop := (x.store.view user).Sound user (x.stages user)

variable {settings user x}

namespace Ready

/-- A turn keeps the calls in order. -/
theorem step (h : x.Ready) (settings : EngineSettings) (turn : Turn) :
    (x.step settings turn).Ready := by
  rcases x.step_cases settings turn with hstep | ⟨l₁, p, l₂, hcalls, ho, hstep⟩
  · rw [hstep]
    exact h
  · have horderly := h.orderly
    rw [hcalls, List.forall_mem_append, List.forall_mem_cons] at horderly
    obtain ⟨hl₁, hp, hl₂⟩ := horderly
    -- For the order of the replies it does not matter to which user the stages refer.
    obtain ⟨hp', -⟩ := p.move settings ⟨Id.ofNat 0⟩ hp ho h.available
    rw [hstep]
    refine ⟨(Operation.failing_perform _ _).trans h.available, ?_⟩
    rw [List.forall_mem_append, List.forall_mem_cons]
    exact ⟨hl₁, hp', hl₂⟩

/-- Turns keep the calls in order. -/
theorem run (h : x.Ready) (settings : EngineSettings) (turns : List Turn) :
    (x.run settings turns).Ready := by
  induction turns generalizing x with
  | nil => exact h
  | cons turn turns ih => exact ih (h.step settings turn)

/-- Stages clash only if a read of the user is about to fill the entry while a batch is on its way
to it. -/
theorem clashing (h : x.Ready) (hclash : Stage.Clash (x.stages user)) :
    .balanceOf user ∈ x.calls.map InFlight.call ∧ x.Clashing settings user := by
  obtain ⟨⟨g, hg, hfills⟩, g', hg', hupdates⟩ := hclash
  obtain ⟨p, hp, rfl⟩ := List.mem_map.1 hg
  obtain ⟨q, hq, rfl⟩ := List.mem_map.1 hg'
  obtain ⟨hcall, hfilling⟩ := p.exists_mem_asks_of_fills settings (h.orderly p hp) hfills
  have hupdating := q.exists_mem_asks_of_updates settings (h.orderly q hq) hupdates
  exact ⟨List.mem_map.2 ⟨p, hp, hcall⟩, ⟨p, hp, hfilling⟩, q, hq, hupdating⟩

/-- What an entry lacks remains due at every turn, if no entry is filled while a batch is on its way
to it. -/
theorem sound_step (h : x.Ready) (hx : x.Sound user) (turn : Turn)
    (hbefore : ¬ Stage.Clash (x.stages user))
    (hafter : ¬ Stage.Clash ((x.step settings turn).stages user)) :
    (x.step settings turn).Sound user := by
  rcases x.step_cases settings turn with hstep | ⟨l₁, p, l₂, hcalls, ho, hstep⟩
  · rw [hstep]
    exact hx
  · obtain ⟨-, hmove⟩ := p.move settings user (h.orderly p (by rw [hcalls]; simp)) ho h.available
    -- The order of the calls does not matter, so let the one whose turn it is come first.
    have hfirst : ∀ q : InFlight, ((l₁ ++ q :: l₂).map (InFlight.stage user)).Perm
        (q.stage user :: (l₁ ++ l₂).map (InFlight.stage user)) :=
      fun q => List.perm_middle.map (InFlight.stage user)
    unfold Sound at hx ⊢
    unfold stages at hx hbefore hafter ⊢
    rw [hcalls] at hx hbefore
    rw [hstep] at hafter ⊢
    have hmoved := (hx.perm (hfirst p)).move hmove
      (fun hclash => hbefore (hclash.perm (hfirst p).symm))
      (fun hclash => hafter (hclash.perm (hfirst _).symm))
    exact hmoved.perm (hfirst _).symm

/-- **What an entry lacks remains due in a run**, if no entry is filled while a batch is on its way
to it. -/
theorem sound_run (h : x.Ready) (hx : x.Sound user) (turns : List Turn)
    (hclash : ∀ before ∈ turns.inits, ¬ Stage.Clash ((x.run settings before).stages user)) :
    (x.run settings turns).Sound user := by
  induction turns generalizing x with
  | nil => exact hx
  | cons turn turns ih =>
    have hbefore := hclash [] ((List.mem_inits _ _).2 List.nil_prefix)
    have hafter := hclash [turn] ((List.mem_inits _ _).2 (List.prefix_append [turn] turns))
    refine ih (h.step settings turn) (h.sound_step hx turn hbefore hafter) fun before hb => ?_
    exact hclash (turn :: before)
      ((List.mem_inits _ _).2 (List.cons_prefix_cons.2 ⟨rfl, (List.mem_inits _ _).1 hb⟩))

end Ready

/-- Calls that have not begun are what they are. -/
theorem map_call_start (s : Store) (calls : List ServiceCall) :
    (start s calls).calls.map InFlight.call = calls := by
  unfold start
  rw [List.map_map]
  exact List.map_id calls

/-- Calls that have not begun are in order. -/
theorem ready_start (s : Store) (calls : List ServiceCall)
    (hcalls : ∀ call ∈ calls, call.OfBalances) (hcache : s.cache.failing = false) :
    (start s calls).Ready := by
  refine ⟨hcache, fun p hp => ?_⟩
  obtain ⟨call, hcall, rfl⟩ := List.mem_map.1 hp
  exact InFlight.orderly_start call (hcalls call hcall)

/-- Before any call has begun, nothing is due and the entry lacks nothing. -/
theorem sound_start (s : Store) (calls : List ServiceCall) (user : UserId)
    (hentry : ∀ fields, s.cache.entryOf user = some fields → ∃ m, Cache.Standard fields ∧
      Cache.decode fields = .ok m ∧ aggregate user s.ledger.records = .ok m) :
    (start s calls).Sound user := by
  have hidle : ∀ g ∈ (start s calls).stages user, g = .idle := by
    intro g hg
    unfold stages start at hg
    rw [List.map_map] at hg
    obtain ⟨call, -, rfl⟩ := List.mem_map.1 hg
    exact InFlight.stage_start user call
  have hdue : ((start s calls).stages user).flatMap Stage.due = [] :=
    List.flatMap_eq_nil_iff.2 fun g hg => congrArg Stage.due (hidle g hg)
  refine ⟨fun m hm => (nomatch hidle _ hm), fun _ fields hfields => ?_⟩
  obtain ⟨m, hstandard, hdecode, hm⟩ := hentry fields hfields
  rw [hdue]
  exact ⟨m, Cache.spells_of_decode fields m hstandard hdecode, .of_aggregate hm⟩

end Traffic

/-- **Concurrent reads and batches converge.** Calls that read balances and record loans take turns
in any order, the entry of the user being at first that of the records, if there is one. No read
fills the entry while a batch is on its way to it; if there are no reads of the user at all, this
need not be asked. Then whenever no batch is on its way, the entry, if there is one, can be read and
is the balance of the records. (Updates come in another order than the records, so it can happen
that the records add up to the entry although a net is out of range somewhere on the way.) -/
theorem entry_converges (settings : EngineSettings) (user : UserId) (s : Store)
    (calls : List ServiceCall) (turns : List Turn)
    (hcalls : ∀ call ∈ calls, call.OfBalances) (hcache : s.cache.failing = false)
    (hentry : ∀ fields, s.cache.entryOf user = some fields → ∃ m, Cache.Standard fields ∧
      Cache.decode fields = .ok m ∧ aggregate user s.ledger.records = .ok m)
    (hspans : .balanceOf user ∉ calls ∨ ∀ before ∈ turns.inits,
      ¬ ((Traffic.start s calls).run settings before).Clashing settings user)
    (x : Traffic) (hx : (Traffic.start s calls).run settings turns = x)
    (hdone : ¬ x.Updating settings user) (fields : Cache.Fields)
    (hfields : x.store.cache.entryOf user = some fields) :
    ∃ m, Cache.decode fields = .ok m ∧
      (∀ other, m.get? other =
        if Deals user other x.store.ledger.records then
          some (net user other x.store.ledger.records)
        else none) ∧
      (aggregate user x.store.ledger.records = .ok m ∨
        ∃ other, aggregate user x.store.ledger.records =
          .error (.balanceOverflow user other)) := by
  have hready := Traffic.ready_start s calls hcalls hcache
  have hclash : ∀ before ∈ turns.inits,
      ¬ Stage.Clash (((Traffic.start s calls).run settings before).stages user) := by
    intro before hbefore hclash
    obtain ⟨hread, hclashing⟩ := (hready.run settings before).clashing hclash
    rcases hspans with hnone | hspans
    · rw [Traffic.map_call_run, Traffic.map_call_start] at hread
      exact hnone hread
    · exact hspans before hbefore hclashing
  have hsound := hready.sound_run (Traffic.sound_start s calls user hentry) turns hclash
  have hready' := hready.run settings turns
  rw [hx] at hsound hready'
  have hidle : ∀ g ∈ x.stages user, ¬ g.Updates := by
    intro g hg hupdates
    obtain ⟨p, hp, rfl⟩ := List.mem_map.1 hg
    exact hdone ⟨p, hp, p.exists_mem_asks_of_updates settings (hready'.orderly p hp) hupdates⟩
  obtain ⟨m, hspells, hawaits⟩ := View.Sound.settled hsound hidle fields hfields
  exact ⟨m, hspells.decode_eq, hawaits.get?_eq, hawaits.aggregate_eq⟩

namespace Sample

/-- A third user. -/
def carol : UserId := ⟨Id.ofNat 3⟩

/-- Alice owes Carol something, and Alice's entry is filled. -/
def warm : Store :=
  stored supply [.call calm (.addLoans carol 5 [alice]), .call calm (.balanceOf alice)]

/-- Alice and Bob lend to each other while Alice's balance is read. -/
def lending : List ServiceCall :=
  [.addLoans alice 100 [bob], .addLoans bob 30 [alice], .balanceOf alice]

/-- The loan that is recorded first gets to Alice's entry last, and the balance is read in between.
-/
def crossing : List Turn :=
  [⟨0, .append [⟨alice, bob, 100⟩]⟩, ⟨1, .append [⟨bob, alice, 30⟩]⟩, ⟨1, .hasEntry alice⟩,
    ⟨0, .hasEntry alice⟩, ⟨1, .applyDeltas alice [(bob, -30)]⟩, ⟨2, .lookup alice⟩,
    ⟨0, .applyDeltas alice [(bob, 100)]⟩]

/-- The balance of Alice in the end. -/
def crossed : Balance := (Table.empty.insert carol (-5)).insert bob 70

/-- Alice has no entry at first. Her balance is computed before a loan is recorded, and her entry is
filled with it afterwards. -/
def outrun : List Turn :=
  [⟨1, .lookup alice⟩, ⟨1, .computeBalance alice⟩, ⟨0, .append [⟨alice, bob, 100⟩]⟩,
    ⟨0, .hasEntry alice⟩, ⟨1, .populate alice Table.empty⟩]

end Sample

open Sample

/-- The updates of Alice's entry converge although they cross. -/
theorem entry_converges_crossing :
    ∃ m, Cache.decode (Cache.Fields.ofBalance crossed) = .ok m ∧
      (∀ other, m.get? other =
        if Deals alice other ((Traffic.start warm lending).run EngineSettings.standard
          crossing).store.ledger.records then
          some (net alice other ((Traffic.start warm lending).run EngineSettings.standard
            crossing).store.ledger.records)
        else none) ∧
      (aggregate alice ((Traffic.start warm lending).run EngineSettings.standard
          crossing).store.ledger.records = .ok m ∨
        ∃ other, aggregate alice ((Traffic.start warm lending).run EngineSettings.standard
          crossing).store.ledger.records = .error (.balanceOverflow alice other)) := by
  refine entry_converges EngineSettings.standard alice warm lending crossing
    (by decide) (by decide +kernel) (fun fields hfields => ?_) (.inr (by decide +kernel)) _ rfl
    (by decide +kernel) _ (by decide +kernel)
  have hm : aggregate alice warm.ledger.records = .ok (Table.empty.insert carol (-5)) := by
    decide +kernel
  have hentry : warm.cache.entryOf alice =
      some (Cache.Fields.ofBalance (Table.empty.insert carol (-5))) := by
    decide +kernel
  rw [hentry] at hfields
  cases hfields
  have hspells := Cache.spells_ofBalance _ (allStorable_aggregate alice _ _ hm)
  exact ⟨_, hspells.standard, hspells.decode_eq, hm⟩

/-- **A read that fills the entry while a batch is on its way to it can leave an older balance there
for good.** -/
theorem stale_after_clash :
    let x := (Traffic.start (Store.empty supply) [.addLoans alice 100 [bob],
      .balanceOf alice]).run EngineSettings.standard outrun
    ¬ x.Updating EngineSettings.standard alice ∧
      x.store.cache.entryOf alice = some (Cache.Fields.ofBalance Table.empty) ∧
      aggregate alice x.store.ledger.records = .ok (Table.empty.insert bob 100) := by
  decide +kernel

end ExpenseLedger
