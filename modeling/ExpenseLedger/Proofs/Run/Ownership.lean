import ExpenseLedger.Proofs.Groups.Ownership
import ExpenseLedger.Proofs.Groups.Runs
import ExpenseLedger.Proofs.Run.Audit
import ExpenseLedger.Proofs.Run.Effects
import ExpenseLedger.Proofs.Web.Duration
/-!
# Owners in runs

A call of a service or a request on the web leaves the groups as they are, or does to them what the
request about groups does that it comes down to (`World.step_changedBy`). Therefore, whatever
happens in a run, a group or its members are changed by their owner alone, and with success. What is
done directly to the directory is beyond the services. Main statement: `only_owner_manages`.
-/

open ExpenseLedger.Task

namespace ExpenseLedger

open Web

variable {α : Type}

/-! ## Changes that are asked for -/

/-- What a call of a service asks to change of the groups. -/
def ServiceCall.change? : ServiceCall → Option GroupCall
  | createGroup name owner => some (.createGroup name owner)
  | addMembers actor group users => some (.addMembers actor group users)
  | removeMember actor group user => some (.removeMember actor group user)
  | deleteGroup actor group => some (.deleteGroup actor group)
  | _ => none

/-- What an actor asks to change of the groups on the web. -/
def Web.Call.change? (actor : UserId) : Call → Option GroupCall
  | createGroup message => some (.createGroup message.name actor)
  | addMembers group message => some (.addMembers actor group message.users)
  | removeMember group user => some (.removeMember actor group user)
  | deleteGroup group => some (.deleteGroup actor group)
  | _ => none

/-- What a step asks to change of the groups. -/
def Step.change? : Step → Option GroupCall
  | call _ asked => asked.change?
  | request _ r => r.call?.bind fun asked => asked.2.change? asked.1
  | fault _ => none

/-! ## What becomes of the groups -/

namespace Store

/-- The groups are as they were, or as the change leaves them that has been asked for. -/
def ChangedBy (change? : Option GroupCall) (s s' : Store) : Prop :=
  s'.directory.entries = s.directory.entries ∨
    ∃ c, change? = some c ∧ s'.directory.entries = (c.settle s).2.directory.entries

variable {change? : Option GroupCall} {s s' : Store}

/-- The groups are as they were. -/
theorem ChangedBy.of_directory (h : s'.directory = s.directory) : s.ChangedBy change? s' :=
  .inl (congrArg Directory.entries h)

/-- An atomic task leads where its operation leads. -/
theorem triple_changedBy_of_atomic {f : Store → α × Store} {t : Task Store α} (h : Atomic f t)
    (hf : s.ChangedBy change? (f s).2) :
    Triple (fun s' => s' = s) t (fun _ s' => s.ChangedBy change? s') (s.ChangedBy change?) := by
  refine (h s).conseq (fun _ h => h) ?_ ?_
  · intro a s' hs'
    rw [show s' = (f s).2 from congrArg Prod.snd hs']
    exact hf
  · rintro s' rfl
    exact .inl rfl

/-- A question changes nothing. -/
theorem triple_changedBy_of_asks {t : Task Store α} (h : Asks t) :
    Triple (fun s' => s' = s) t (fun _ s' => s.ChangedBy change? s') (s.ChangedBy change?) := by
  refine (h.triple s).conseq (fun _ h => h) ?_ ?_
  · rintro a s' rfl
    exact .inl rfl
  · rintro s' rfl
    exact .inl rfl

end Store

namespace Engine

open Store

variable (w : Waits) (s : Store)

/-- Creating a group. -/
theorem triple_createGroup_changedBy (name : String) (owner : UserId) :
    Triple (fun s' => s' = s) (createGroup (backends w) name owner)
      (fun _ s' => s.ChangedBy (some (.createGroup name owner)) s')
      (s.ChangedBy (some (.createGroup name owner))) := by
  unfold createGroup
  cases hname : groupName? name with
  | none => exact triple_changedBy_of_asks (Asks.pure _)
  | some trimmed =>
    refine triple_changedBy_of_atomic ((realizes_backends w).createGroup trimmed owner) ?_
    refine .inr ⟨_, rfl, ?_⟩
    simp only [GroupCall.settle, hname]

/-- Adding members. -/
theorem triple_addMembers_changedBy (actor : UserId) (group : GroupId) (users : List UserId) :
    Triple (fun s' => s' = s) (addMembers (backends w) actor group users)
      (fun _ s' => s.ChangedBy (some (.addMembers actor group users)) s')
      (s.ChangedBy (some (.addMembers actor group users))) :=
  triple_changedBy_of_atomic (atomic_addMembers (realizes_backends w) actor group users)
    (.inr ⟨_, rfl, rfl⟩)

/-- Taking a member out. -/
theorem triple_removeMember_changedBy (actor : UserId) (group : GroupId) (user : UserId) :
    Triple (fun s' => s' = s) (removeMember (backends w) actor group user)
      (fun _ s' => s.ChangedBy (some (.removeMember actor group user)) s')
      (s.ChangedBy (some (.removeMember actor group user))) :=
  triple_changedBy_of_atomic (atomic_removeMember (realizes_backends w) actor group user)
    (.inr ⟨_, rfl, rfl⟩)

/-- Deleting a group. -/
theorem triple_deleteGroup_changedBy (actor : UserId) (group : GroupId) :
    Triple (fun s' => s' = s) (deleteGroup (backends w) actor group)
      (fun _ s' => s.ChangedBy (some (.deleteGroup actor group)) s')
      (s.ChangedBy (some (.deleteGroup actor group))) :=
  triple_changedBy_of_atomic
    (atomic_deleteGroup (realizes_backends w) actor group (atomic_act _)) (.inr ⟨_, rfl, rfl⟩)

variable (settings : EngineSettings)

/-- Reading a balance. -/
theorem triple_balanceLinesOf_changedBy (user : UserId) :
    Triple (fun e => e.store = s) (balanceLinesOf (backends w) settings user)
      (fun _ e => s.ChangedBy none e.store) fun e => s.ChangedBy none e.store :=
  (triple_balanceLinesOf_served (realizes_backends w) settings user s).conseq (fun _ h => h)
    (fun _ _ h => .of_directory h.2.directory) fun _ h => .of_directory h.directory

/-- Sharing an expense. -/
theorem triple_shareExpense_changedBy (payer : UserId) (total : Int) (group : GroupId) :
    Triple (fun e => e.store = s) (shareExpense (backends w) settings payer total group)
      (fun _ e => s.ChangedBy none e.store) fun e => s.ChangedBy none e.store := by
  have hdirectory := (s.share_isBatch payer total group).1
  refine (triple_shareExpense_share (realizes_backends w) settings payer total group s).conseq
    (fun _ h => h) ?_ ?_
  · rintro r e ⟨-, hsame⟩
    exact .of_directory (hsame.directory.trans hdirectory)
  · rintro e (hsame | hsame)
    · rw [hsame]
      exact .inl rfl
    · exact .of_directory (hsame.directory.trans hdirectory)

end Engine

/-- **A call of a service does to the groups what it asks to change, or nothing.** -/
theorem ServiceCall.triple_perform_changedBy (w : Store.Waits) (settings : EngineSettings)
    (call : ServiceCall) (s : Store) :
    Triple (fun e => e.store = s) (call.perform (Store.backends w) settings)
      (fun _ e => s.ChangedBy call.change? e.store) fun e => s.ChangedBy call.change? e.store := by
  have hb := Store.realizes_backends w
  cases call with
  | addLoans lender amount debtors =>
    have hdirectory := (s.lend_cases lender amount debtors).1
    refine World.triple_ignore ((Engine.triple_addLoans_lend hb settings lender amount debtors
      s).conseq (fun _ h => h) ?_ ?_)
    · rintro r e ⟨-, hsame⟩
      exact .of_directory (hsame.directory.trans hdirectory)
    · rintro e (hsame | hsame)
      · rw [hsame]
        exact .inl rfl
      · exact .of_directory (hsame.directory.trans hdirectory)
  | balanceOf user =>
    have hread := Engine.triple_balanceOf_served hb settings user s
    exact World.triple_ignore (hread.conseq (fun _ h => h)
      (fun _ _ h => .of_directory h.2.directory) fun _ h => .of_directory h.directory)
  | balanceLinesOf user =>
    exact World.triple_ignore (Engine.triple_balanceLinesOf_changedBy w s settings user)
  | shareExpense payer total group =>
    exact World.triple_ignore
      (Engine.triple_shareExpense_changedBy w s settings payer total group)
  | clear user =>
    exact World.triple_ignore (Engine.triple_onStore
      (Store.triple_changedBy_of_atomic (hb.clear user) (.inl rfl)))
  | createGroup name owner =>
    exact World.triple_ignore (Engine.triple_onStore
      (Engine.triple_createGroup_changedBy w s name owner))
  | groupInfo group =>
    exact World.triple_ignore (Engine.triple_onStore
      (Store.triple_changedBy_of_asks (Engine.asks_groupInfo hb group)))
  | membersOf group =>
    exact World.triple_ignore (Engine.triple_onStore
      (Store.triple_changedBy_of_asks (Engine.asks_membersOf hb group)))
  | groupsOf user =>
    exact World.triple_ignore (Engine.triple_onStore
      (Store.triple_changedBy_of_asks ⟨_, hb.groupsOf user⟩))
  | addMembers actor group users =>
    exact World.triple_ignore (Engine.triple_onStore
      (Engine.triple_addMembers_changedBy w s actor group users))
  | removeMember actor group user =>
    exact World.triple_ignore (Engine.triple_onStore
      (Engine.triple_removeMember_changedBy w s actor group user))
  | deleteGroup actor group =>
    exact World.triple_ignore (Engine.triple_onStore
      (Engine.triple_deleteGroup_changedBy w s actor group))

namespace Web.Site

/-! ## Requests -/

/-- What a call leads to, it leads to under the deadline of a request. -/
theorem triple_answer_leads {σ : Type} {b : Backends σ} {settings : EngineSettings}
    {P Q : σ → Prop} (timeout : Nat) (actor : UserId) (call : Call)
    (h : Triple (fun x => P x.engine.store) (perform b settings actor call)
      (fun _ x => Q x.engine.store) fun x => Q x.engine.store) :
    Triple (fun x => P x.engine.store) (answer b settings timeout actor call)
      (fun _ x => Q x.engine.store) fun x => Q x.engine.store := by
  refine (h.within_prompt timeout False.elim).bind fun r => ?_
  refine ((triple_count (P := Q) _).conseq ?_ (fun _ _ h => h) fun _ h => h).bind fun _ =>
    .pure fun _ h => h
  intro x hx
  cases r with
  | some response => exact hx
  | none => exact hx.1

variable (w : Store.Waits) (settings : EngineSettings) (s : Store)

/-- A task of the backends of which only the response is of interest. -/
theorem triple_onStore_changedBy {t : Task Store α} {change? : Option GroupCall}
    (f : α → Response)
    (h : Triple (fun s' => s' = s) t (fun _ s' => s.ChangedBy change? s') (s.ChangedBy change?)) :
    Triple (fun x => x.engine.store = s) (do let r ← onStore t; return f r)
      (fun _ x => s.ChangedBy change? x.engine.store) fun x =>
        s.ChangedBy change? x.engine.store :=
  (triple_onEngine (Engine.triple_onStore h)).bind fun _ => .pure fun _ hx => hx

/-- A message that breaks a rule leaves everything as it is. -/
theorem triple_unlessBroken_changedBy {t : Task (Site Store) Response}
    {change? : Option GroupCall} (breach : Option Breach)
    (h : Triple (fun x => x.engine.store = s) t
      (fun _ x => s.ChangedBy change? x.engine.store) fun x =>
        s.ChangedBy change? x.engine.store) :
    Triple (fun x => x.engine.store = s) (unlessBroken breach t)
      (fun _ x => s.ChangedBy change? x.engine.store) fun x =>
        s.ChangedBy change? x.engine.store := by
  cases breach with
  | none => exact h
  | some _ =>
    refine .pure ?_
    rintro x rfl
    exact .inl rfl

/-- Calling the engine for an actor does to the groups what the actor asks to change, or nothing. -/
theorem triple_perform_changedBy (actor : UserId) (call : Call) :
    Triple (fun x => x.engine.store = s) (perform (Store.backends w) settings actor call)
      (fun _ x => s.ChangedBy (call.change? actor) x.engine.store) fun x =>
        s.ChangedBy (call.change? actor) x.engine.store := by
  have hb := Store.realizes_backends w
  cases call with
  | getBalance =>
    have hread := triple_onEngine_counters
      (Engine.triple_balanceLinesOf_changedBy w s settings actor)
    exact hread.bind fun _ => .pure fun _ hx => hx
  | listGroups =>
    exact triple_onStore_changedBy s _ (Store.triple_changedBy_of_asks ⟨_, hb.groupsOf actor⟩)
  | createGroup message =>
    exact triple_unlessBroken_changedBy s _ (triple_onStore_changedBy s _
      (Engine.triple_createGroup_changedBy w s message.name actor))
  | getGroup group =>
    exact triple_onStore_changedBy s _
      (Store.triple_changedBy_of_asks (Engine.asks_groupInfo hb group))
  | deleteGroup group =>
    exact triple_onStore_changedBy s _ (Engine.triple_deleteGroup_changedBy w s actor group)
  | listMembers group =>
    exact triple_onStore_changedBy s _
      (Store.triple_changedBy_of_asks (Engine.asks_membersOf hb group))
  | addMembers group message =>
    exact triple_unlessBroken_changedBy s _ (triple_onStore_changedBy s _
      (Engine.triple_addMembers_changedBy w s actor group message.users))
  | removeMember group user =>
    exact triple_onStore_changedBy s _
      (Engine.triple_removeMember_changedBy w s actor group user)
  | shareExpense group message =>
    have hshare := triple_onEngine_counters
      (Engine.triple_shareExpense_changedBy w s settings actor message.amount group)
    refine triple_unlessBroken_changedBy s _ ?_
    refine hshare.bind_except (fun _ => .pure fun _ hx => hx) fun expense => ?_
    exact (triple_count (P := s.ChangedBy none) _).bind fun _ => .pure fun _ hx => hx

/-- **A request does to the groups what it asks to change, or nothing**, wherever its deadline
falls. -/
theorem triple_handle_changedBy (timeout : Nat) (r : Request) :
    Triple (fun x => x.engine.store = s) (handle (Store.backends w) settings timeout r)
      (fun _ x => s.ChangedBy (r.call?.bind fun asked => asked.2.change? asked.1) x.engine.store)
      fun x =>
        s.ChangedBy (r.call?.bind fun asked => asked.2.change? asked.1) x.engine.store := by
  cases hcall : r.call? with
  | none =>
    have hsame : Triple (fun x => x.engine.store = s)
        (handle (Store.backends w) settings timeout r) (fun _ x => x.engine.store = s)
        fun x => x.engine.store = s := by
      refine triple_handle_keeps (P := fun s' => s' = s) timeout r fun actor call h => ?_
      rw [hcall] at h
      contradiction
    refine hsame.conseq (fun _ h => h) ?_ ?_
    · rintro response x rfl
      exact .inl rfl
    · rintro x rfl
      exact .inl rfl
  | some asked =>
    obtain ⟨actor, call⟩ := asked
    rw [handle_of_call? _ settings timeout r actor call hcall]
    exact triple_answer_leads (P := fun s' => s' = s) (Q := s.ChangedBy (call.change? actor))
      timeout actor call (triple_perform_changedBy w settings s actor call)

end Web.Site

/-! ## Steps -/

namespace World

/-- **A step does to the groups what it asks to change, or nothing.** -/
theorem step_changedBy (x : Site Store) (st : Step) :
    x.engine.store.ChangedBy st.change? (plain.step x st).engine.store := by
  cases st with
  | call c asked =>
    have hcall := asked.triple_perform_changedBy c.waits c.settings x.engine.store
    exact (Site.triple_onEngine_counters hcall none x rfl).state (fun _ _ h => h) fun _ h => h
  | request c r =>
    have hrequest := Site.triple_handle_changedBy c.waits c.settings x.engine.store c.timeout r
    exact (hrequest none x rfl).state (fun _ _ h => h) fun _ h => h
  | fault f =>
    cases f with
    | _ => exact .inl rfl

/-- The step is answered as a success: by the service, if it is a call, and on the web by a status
of success. -/
def Grants (x : Site Store) (change : GroupCall) : Step → Prop
  | .call c _ =>
    ∃ answer, ((GroupStep.call c.waits change).perform x.engine.store).1 = some (.ok answer)
  | .request c r => ∃ status, plain.status? x (.request c r) = some status ∧ Succeeds status
  | .fault _ => False

/-- A request after which the groups are not as before is answered as a success. -/
theorem grants_request {x : Site Store} {c : Conditions} {r : Request} (change : GroupCall)
    (h : (plain.step x (.request c r)).engine.store.directory ≠ x.engine.store.directory) :
    Grants x change (.request c r) := by
  have heffect := Site.effect_handle (Store.realizes_backends c.waits) c.settings c.timeout r none x
  have hstatus : plain.status? x (.request c r) =
      (Site.handle (Store.backends c.waits) c.settings c.timeout r none x).outcome.value?.map
        Response.status := by
    unfold status?
    dsimp only [plain]
    cases (Site.handle (Store.backends c.waits) c.settings c.timeout r none x).outcome with
    | done response spent => rfl
    | dropped => rfl
  by_contra hrefused
  apply h
  apply heffect.directory
  intro status hanswered hsucceeds
  exact hrefused ⟨status, hstatus.trans hanswered, hsucceeds⟩

/-- **Behind a step that changes a group is its owner.** -/
theorem step_byOwner (x : Site Store) (st : Step) (group : GroupId)
    (h : (plain.step x st).engine.store.directory.entries.get? group ≠
      x.engine.store.directory.entries.get? group) :
    ∃ change, st.change? = some change ∧ Grants x change st ∧
      (plain.step x st).engine.store.directory.entries =
        (change.settle x.engine.store).2.directory.entries ∧
      change.ByOwner group x.engine.store := by
  rcases step_changedBy x st with hsame | ⟨change, hchange, hentries⟩
  · rw [hsame] at h
    exact absurd rfl h
  · have howner : change.ByOwner group x.engine.store := by
      apply GroupCall.byOwner_of_settle_ne
      rw [← hentries]
      exact h
    refine ⟨change, hchange, ?_, hentries, howner⟩
    cases st with
    | call c asked =>
      obtain ⟨_, answer, -, hanswer, -⟩ := howner
      refine ⟨answer, ?_⟩
      rw [GroupStep.perform_call, hanswer]
    | request c r =>
      apply grants_request
      intro hsame
      rw [hsame] at h
      exact h rfl
    | fault f => contradiction

/-! ## Runs -/

/-- A moment of a run. -/
structure Moment where
  /-- The site before. -/
  before : Site Store
  /-- What happens. -/
  action : Action
  /-- The site after it. -/
  after : Site Store

/-- The moments of a run, from the first to the last. -/
def moments (x : Site Store) : List Action → List Moment
  | [] => []
  | a :: as => ⟨x, a, plain.act x a⟩ :: moments (plain.act x a) as

namespace Moment

variable (group : GroupId) (m : Moment)

/-- The group or its members change: it begins or ceases to exist, or is not as it was. -/
def Changes : Prop :=
  m.after.engine.store.directory.entries.get? group ≠
    m.before.engine.store.directory.entries.get? group

/-- The directory is used directly. -/
def IsDirect : Prop := ∃ o, m.action = .direct o

/-- A change of the group is asked for by its owner and granted, and it is this change that takes
effect. -/
def ByOwner : Prop :=
  ∃ st change, m.action = .step st ∧ st.change? = some change ∧ Grants m.before change st ∧
    m.after.engine.store.directory.entries =
      (change.settle m.before.engine.store).2.directory.entries ∧
    change.ByOwner group m.before.engine.store

end Moment

/-- **At each moment of a run a group is changed by its owner alone**, or directly. -/
theorem byOwner_of_mem_moments (x : Site Store) (actions : List Action) (group : GroupId)
    (m : Moment) (hm : m ∈ moments x actions) (h : m.Changes group) :
    m.IsDirect ∨ m.ByOwner group := by
  induction actions generalizing x with
  | nil => exact absurd hm List.not_mem_nil
  | cons a actions ih =>
    rcases List.mem_cons.1 hm with rfl | hm
    · cases a with
      | direct o => exact .inl ⟨o, rfl⟩
      | step st =>
        obtain ⟨change, hchange, hgrants, hentries, howner⟩ := step_byOwner x st group h
        exact .inr ⟨st, change, rfl, hchange, hgrants, hentries, howner⟩
    · exact ih (plain.act x a) hm

/-- A group that is not in the end what it was at the start has changed at some moment. -/
theorem exists_changes_of_acts_ne (x : Site Store) (actions : List Action) (group : GroupId)
    (h : (plain.acts x actions).engine.store.directory.entries.get? group ≠
      x.engine.store.directory.entries.get? group) :
    ∃ m ∈ moments x actions, m.Changes group := by
  induction actions generalizing x with
  | nil => exact absurd rfl h
  | cons a actions ih =>
    by_cases hfirst : (plain.act x a).engine.store.directory.entries.get? group =
        x.engine.store.directory.entries.get? group
    · rw [← hfirst] at h
      obtain ⟨m, hm, hchanges⟩ := ih (plain.act x a) h
      exact ⟨m, List.mem_cons_of_mem _ hm, hchanges⟩
    · exact ⟨⟨x, a, plain.act x a⟩, List.mem_cons_self, hfirst⟩

end World

/-- **Only the owner manages a group, and nobody else can probe it.** While the directory is in
service, anybody else who asks to change the group is told no more than whether it exists, after a
time that depends on the directory alone, and nothing else happens; so it is in every store with the
same groups, whoever their members are. The owner adds anybody else, takes out any other member and
deletes the group. In a run, whatever happens in it, the group and its members change when the owner
asks for it, as the owner asks, and at no other moment, unless the directory is used directly. -/
theorem only_owner_manages (w : Store.Waits) (actor : UserId) (group : GroupId) :
    (∀ s : Store, s.directory.failing = false → ¬ s.directory.Owns actor group →
      (s.directory.denial group).kind =
          (if s.directory.entries.contains group then .forbidden else .notFound) ∧
        ∀ c : GroupCall, c.Manages actor group →
          Takes (c.perform (Store.backends w)) s w.findGroup (.error (s.directory.denial group)) s ∧
            ∀ s' : Store, s.directory.SameButMembers s'.directory →
              Takes (c.perform (Store.backends w)) s' w.findGroup
                (.error (s.directory.denial group)) s') ∧
    (∀ s : Store, s.directory.failing = false → s.directory.Owns actor group →
      (∀ users, ((GroupStep.call w (.addMembers actor group users)).perform s).1 =
          some (.ok .done) ↔ users ≠ [] ∧ actor ∉ users) ∧
      (∀ user, ((GroupStep.call w (.removeMember actor group user)).perform s).1 =
          some (.ok .done) ↔
        (∃ e, s.directory.entries.get? group = some e ∧ user ∈ e.members.keys) ∧ user ≠ actor) ∧
      ((GroupStep.call w (.deleteGroup actor group)).perform s).1 = some (.ok .done)) ∧
    ∀ (x : Site Store) (actions : List Action),
      (∀ m ∈ World.moments x actions, m.Changes group → m.IsDirect ∨ m.ByOwner group) ∧
      ((World.plain.acts x actions).engine.store.directory.entries.get? group ≠
          x.engine.store.directory.entries.get? group →
        ∃ m ∈ World.moments x actions, m.Changes group) := by
  refine ⟨fun s hservice hactor => ?_, fun s hservice hactor => ?_, fun x actions => ?_⟩
  · refine ⟨Directory.kind_denial, fun c hc => ⟨?_, fun s' hs' => ?_⟩⟩
    · exact hc.takes_perform_of_not_owns hservice hactor w
    · exact hc.takes_perform_of_sameButMembers hservice hactor w hs'
  · refine ⟨fun users => ?_, fun user => ?_, ?_⟩
    · rw [GroupStep.perform_call, Option.some_inj]
      exact GroupCall.settle_addMembers_eq_ok_iff hservice hactor users
    · rw [GroupStep.perform_call, Option.some_inj]
      exact GroupCall.settle_removeMember_eq_ok_iff hservice hactor user
    · rw [GroupStep.perform_call, Option.some_inj]
      exact GroupCall.settle_deleteGroup_eq_ok hservice hactor
  · constructor
    · exact World.byOwner_of_mem_moments x actions group
    · exact World.exists_changes_of_acts_ne x actions group

namespace Sample

/-- Alice's group before anybody has moved in. -/
def vacant : List Action := [.step (.call calm (.createGroup "flat" alice))]

/-- Bob moves in. -/
def arrival : Action := .step (.call calm (.addMembers alice flat [bob]))

/-- The site after some actions. -/
def siteAfter (actions : List Action) : Site Store :=
  World.plain.acts (.fresh (Store.empty supply)) actions

/-- Alice's group as it was created. -/
def newFlat : Group := ⟨flat, "flat", alice, ⟨1700000000, 0⟩⟩

end Sample

open Sample

/-- Bob may not take Alice out, and cannot find out that he is a member himself. Alice may, and it
was she who let him in. -/
theorem only_owner_manages_flat :
    let s := (siteAfter (vacant ++ [arrival])).engine.store
    let s' := (siteAfter vacant).engine.store
    s.directory.failing = false ∧ ¬ s.directory.Owns bob flat ∧ s.directory.Owns alice flat ∧
    s.directory.SameButMembers s'.directory ∧
    Takes (GroupCall.perform (Store.backends Store.Waits.none) (.removeMember bob flat bob)) s 0
      (.error .notGroupOwner) s ∧
    Takes (GroupCall.perform (Store.backends Store.Waits.none) (.removeMember bob flat bob)) s' 0
      (.error .notGroupOwner) s' ∧
    ((GroupStep.call Store.Waits.none (.deleteGroup alice flat)).perform s).1 =
      some (.ok .done) ∧
    ∃ m ∈ World.moments (siteAfter vacant) [arrival], m.Changes flat ∧
      (m.IsDirect ∨ m.ByOwner flat) := by
  intro s s'
  have hservice : s.directory.failing = false := by decide +kernel
  have hentries : s.directory.entries =
      Table.empty.insert flat ⟨newFlat, KeySet.addAll Table.empty [bob]⟩ := by decide +kernel
  have hentries' : s'.directory.entries = Table.empty.insert flat ⟨newFlat, Table.empty⟩ := by
    decide +kernel
  have halice : s.directory.Owns alice flat := by
    refine ⟨⟨newFlat, KeySet.addAll Table.empty [bob]⟩, ?_, rfl⟩
    rw [hentries, Table.get?_insert_self]
  have hbob : ¬ s.directory.Owns bob flat := by
    rintro ⟨e, he, howner⟩
    rw [hentries, Table.get?_insert_self] at he
    cases he
    exact absurd howner (by decide)
  have hsame : s.directory.SameButMembers s'.directory := by
    refine ⟨fun id => ?_, by decide +kernel⟩
    rw [hentries, hentries', Table.get?_insert, Table.get?_insert]
    split
    · rfl
    · rfl
  have hdenial : s.directory.denial flat = .notGroupOwner := by decide +kernel
  obtain ⟨hothers, -, -⟩ := only_owner_manages Store.Waits.none bob flat
  obtain ⟨-, howner, hruns⟩ := only_owner_manages Store.Waits.none alice flat
  obtain ⟨-, hrefused⟩ := hothers s hservice hbob
  obtain ⟨htakes, hprobe⟩ := hrefused _ (.removeMember bob)
  obtain ⟨hmoments, hchanges⟩ := hruns (siteAfter vacant) [arrival]
  obtain ⟨m, hm, hchange⟩ := hchanges (by decide +kernel)
  rw [hdenial] at htakes hprobe
  exact ⟨hservice, hbob, halice, hsame, htakes, hprobe s' hsame, (howner s hservice halice).2.2,
    m, hm, hchange, hmoments m hm hchange⟩

end ExpenseLedger
