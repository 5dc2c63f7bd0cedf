import ExpenseLedger.Proofs.Engine.Administration
import ExpenseLedger.Web.Site
/-!
# What a request does

Whatever its path, its headers and its body, whatever is wrong with the backends and wherever its
deadline falls: a request adds nothing to the records of loans, or the complete batch of one
expense. Any answer but a success says that nothing has happened to the groups, and any answer but a
success or a timeout that nothing has happened to the records. Main statements:

* `Site.triple_answer_effect`: calls of the engine under the deadline of a request;
* `Site.triple_handle_effect`: requests.
-/

open ExpenseLedger.Task

namespace ExpenseLedger

variable {α : Type}

/-! ## Batches -/

/-- The records are a batch: for each debtor there is one record of a loan, all from one lender and
of one amount. -/
structure Ledger.IsBatch (lender : UserId) (amount : Int) (debtors : List UserId)
    (batch : List LoanRecord) : Prop where
  /-- There is one loan to each debtor. -/
  loans : batch.map LoanRecord.toLoan = Engine.loansTo lender amount debtors
  /-- There are debtors. -/
  nonempty : debtors ≠ []
  /-- No debtor occurs twice. -/
  nodup : debtors.Nodup
  /-- The loans obey the rules. -/
  valid : ∀ r ∈ batch, r.toLoan.Valid

/-- What is recorded after a batch has passed the check is a batch. -/
theorem Ledger.isBatch_recordAll (lender : UserId) (amount : Int) (debtors : List UserId)
    (h : Engine.checkBatch lender amount debtors = .ok ()) (first : Nat) (now : Timestamp) :
    IsBatch lender amount debtors
      (recordAll first now (Engine.loansTo lender amount debtors)) := by
  obtain ⟨hne, hnodup, hvalid⟩ := (Engine.checkBatch_eq_ok_iff lender amount debtors).1 h
  exact ⟨map_toLoan_recordAll _ _ _, hne, hnodup, valid_recordAll first now hvalid⟩

/-! ## Who shares an expense -/

/-- The user owns the group or is one of its members. -/
def Directory.Includes (group : GroupId) (user : UserId) (d : Directory) : Prop :=
  ∃ e, d.entries.get? group = some e ∧ e.involves user = true

/-- Who shares the expenses of a group owns it or is one of its members. -/
theorem Directory.mem_sharers (group : GroupId) (d : Directory) (members : List UserId)
    (h : d.sharers group = .ok members) (user : UserId) :
    user ∈ members ↔ d.Includes group user := by
  unfold sharers require find Directory.members query at h
  by_cases hfailing : d.failing = true
  · simp [hfailing] at h
  · simp only [hfailing] at h
    cases he : d.entries.get? group with
    | none =>
      simp [he] at h
    | some e =>
      simp only [he, Option.map_some, Bool.false_eq_true, if_false, Except.map] at h
      cases h
      have hinvolves : d.Includes group user ↔ e.involves user = true := by
        constructor
        · rintro ⟨e', he', h⟩
          rw [he] at he'
          cases he'
          exact h
        · exact fun h => ⟨e, he, h⟩
      rw [hinvolves]
      unfold Engine.ownerThenMembers Entry.involves
      rw [List.mem_cons, List.mem_filter, Table.mem_keys_iff, Bool.or_eq_true,
        decide_eq_true_eq, decide_eq_true_eq, eq_comm]
      -- The owner is left out of the other members.
      by_cases howner : e.group.owner = user
      · simp [howner]
      · simp [howner, Ne.symm howner]

/-- The debtors of an expense are those who share it, but for the payer. -/
theorem Directory.mem_debtors (payer : UserId) (total : Int) (group : GroupId) (d : Directory)
    (debtors : List UserId) (amount : Int)
    (h : d.terms payer total group = .ok (debtors, amount)) (user : UserId) :
    user ∈ debtors ↔ user ≠ payer ∧ d.Includes group user := by
  unfold terms at h
  split at h
  · contradiction
  · cases hmembers : d.sharers group with
    | error e =>
      rw [hmembers] at h
      contradiction
    | ok members =>
      rw [hmembers] at h
      dsimp only [Engine.split] at h
      split at h
      · contradiction
      · split at h
        · contradiction
        · split at h
          · contradiction
          · cases h
            rw [List.mem_filter, d.mem_sharers group members hmembers, decide_eq_true_eq,
              and_comm]

namespace Store

/-- Recording loans fails and leaves the ledger alone, or adds a batch. -/
theorem lend_isBatch (lender : UserId) (amount : Int) (debtors : List UserId) (s : Store) :
    (s.lend lender amount debtors).2.directory = s.directory ∧
    (((∃ e, (s.lend lender amount debtors).1 = .error e) ∧
        (s.lend lender amount debtors).2.ledger = s.ledger) ∨
      ∃ batch, Ledger.IsBatch lender amount debtors batch ∧
        (s.lend lender amount debtors).1 = .ok batch ∧
        (s.lend lender amount debtors).2.ledger =
          { s.ledger with records := s.ledger.records ++ batch }) := by
  obtain ⟨hdirectory, hrefused | ⟨hcheck, batch, rfl, hvalue, hledger⟩⟩ :=
    lend_cases lender amount debtors s
  · exact ⟨hdirectory, .inl hrefused⟩
  · exact ⟨hdirectory, .inr ⟨_, Ledger.isBatch_recordAll lender amount debtors hcheck _ _,
      hvalue, hledger⟩⟩

/-- Sharing an expense fails and leaves the ledger alone, or adds the batch of the expense. -/
theorem share_isBatch (payer : UserId) (total : Int) (group : GroupId) (s : Store) :
    (s.share payer total group).2.directory = s.directory ∧
    (((∃ e, (s.share payer total group).1 = .error e) ∧
        (s.share payer total group).2.ledger = s.ledger) ∨
      ∃ expense amount debtors, (s.share payer total group).1 = .ok expense ∧
        Ledger.IsBatch payer amount debtors expense.loans ∧
        (∀ user, user ∈ debtors ↔ user ≠ payer ∧ s.directory.Includes group user) ∧
        (s.share payer total group).2.ledger =
          { s.ledger with records := s.ledger.records ++ expense.loans }) := by
  unfold share
  cases hterms : s.directory.terms payer total group with
  | error e => exact ⟨rfl, .inl ⟨⟨e, rfl⟩, rfl⟩⟩
  | ok terms =>
    obtain ⟨debtors, amount⟩ := terms
    dsimp only
    obtain ⟨hdirectory, ⟨⟨e, herror⟩, hledger⟩ | ⟨batch, hbatch, hvalue, hledger⟩⟩ :=
      lend_isBatch payer amount debtors s
    · rw [herror]
      exact ⟨hdirectory, .inl ⟨⟨e, rfl⟩, hledger⟩⟩
    · rw [hvalue]
      refine ⟨hdirectory, .inr ⟨_, amount, debtors, rfl, hbatch, ?_, hledger⟩⟩
      exact s.directory.mem_debtors payer total group debtors amount hterms

end Store

namespace Web

/-! ## Effects -/

/-- The endpoint to which a request goes. -/
def Request.endpoint? (r : Request) : Option Endpoint :=
  match Route.find? r.method r.target with
  | some (.endpoint e _) => some e
  | _ => none

/-- Who calls, and the call that a request asks for. -/
def Request.call? (r : Request) : Option (UserId × Call) :=
  match Route.find? r.method r.target with
  | some (.endpoint e ids) =>
    match r.actor?, readCall e ids r with
    | some actor, .ok call => some (actor, call)
    | _, _ => none
  | _ => none

/-- The call is for an expense, and its batch has been added to the records. The payer has lent one
amount to each of the others who share the expenses of the group. -/
def Recorded (call? : Option (UserId × Call)) (s s' : Store) : Prop :=
  ∃ payer group message amount debtors batch,
    call? = some (payer, .shareExpense group message) ∧
      s'.ledger.records = s.ledger.records ++ batch ∧
      Ledger.IsBatch payer amount debtors batch ∧
      ∀ user, user ∈ debtors ↔ user ≠ payer ∧ s.directory.Includes group user

/-- The status tells a success. -/
def Succeeds (status : Nat) : Prop := 200 ≤ status ∧ status < 300

instance (status : Nat) : Decidable (Succeeds status) := inferInstanceAs (Decidable (_ ∧ _))

/-- What has become of a site when a request has been answered with a status, or dropped. -/
structure Effect (endpoint? : Option Endpoint) (call? : Option (UserId × Call))
    (x x' : Site Store) (status? : Option Nat) : Prop where
  /-- The records are the same, or the batch of the call has been added. -/
  records : x'.engine.store.ledger.records = x.engine.store.ledger.records ∨
    Recorded call? x.engine.store x'.engine.store
  /-- An expense is answered with 200 only if its batch has been added. -/
  recorded : endpoint? = some .shareExpense → status? = some 200 →
    Recorded call? x.engine.store x'.engine.store
  /-- After any answer but 200 and 504 the records are the same. -/
  refused : ∀ status, status? = some status → status ≠ 200 → status ≠ 504 →
    x'.engine.store.ledger.records = x.engine.store.ledger.records
  /-- After any answer that is no success the groups are the same. -/
  directory : (∀ status, status? = some status → ¬ Succeeds status) →
    x'.engine.store.directory = x.engine.store.directory
  /-- The ledger, the cache and the counters are left alone, but for expenses and balances. -/
  apart : endpoint? ≠ some .getBalance → endpoint? ≠ some .shareExpense →
    x.engine.store.SameButGroups x'.engine.store ∧ x'.engine.counters = x.engine.counters

namespace Effect

variable {endpoint? : Option Endpoint} {call? : Option (UserId × Call)} {x x' : Site Store}
  {status? : Option Nat}

/-- Nothing has happened. -/
theorem refl (h : endpoint? = some .shareExpense → status? ≠ some 200) :
    Effect endpoint? call? x x status? :=
  ⟨.inl rfl, fun he hs => absurd hs (h he), fun _ _ _ _ => rfl, fun _ => rfl,
    fun _ _ => ⟨⟨rfl, rfl⟩, rfl⟩⟩

/-- What a call has done when it is dropped at the deadline of requests is what the answer 504
admits. -/
theorem late (h : Effect endpoint? call? x x' none) :
    Effect endpoint? call? x x' (some 504) where
  records := h.records
  recorded _ hs := by contradiction
  refused status hs _ hne := by
    cases hs
    exact absurd rfl hne
  directory _ := h.directory fun status hs => by contradiction
  apart := h.apart

/-- The tally has no part in this. -/
theorem tallied (h : Effect endpoint? call? x x' status?) (tally : Tally) :
    Effect endpoint? call? x { x' with tally } status? :=
  ⟨h.records, h.recorded, h.refused, h.directory, h.apart⟩

/-- Reading a balance has been answered, well or not. -/
theorem of_sameBooks (h : x.engine.store.SameBooks x'.engine.store) :
    Effect (some .getBalance) call? x x' status? :=
  ⟨.inl h.records, fun he _ => by contradiction, fun _ _ _ _ => h.records, fun _ => h.directory,
    fun he _ => absurd rfl he⟩

/-- Administration has been answered, well or not. -/
theorem of_sameButGroups {endpoint : Endpoint} (hexpense : endpoint ≠ .shareExpense)
    (h : x.engine.store.SameButGroups x'.engine.store)
    (hcounters : x'.engine.counters = x.engine.counters)
    (hdirectory : (∀ status, status? = some status → ¬ Succeeds status) →
      x'.engine.store.directory = x.engine.store.directory) :
    Effect (some endpoint) call? x x' status? :=
  ⟨.inl (congrArg Ledger.records h.ledger),
    fun he _ => absurd (Option.some.inj he) hexpense,
    fun _ _ _ _ => congrArg Ledger.records h.ledger, hdirectory, fun _ _ => ⟨h, hcounters⟩⟩

/-- An expense has been refused. -/
theorem of_refused (hrecords : x'.engine.store.ledger.records = x.engine.store.ledger.records)
    (hdirectory : x'.engine.store.directory = x.engine.store.directory)
    (hstatus : status? ≠ some 200) : Effect (some .shareExpense) call? x x' status? :=
  ⟨.inl hrecords, fun _ hs => absurd hs hstatus, fun _ _ _ _ => hrecords, fun _ => hdirectory,
    fun _ he => absurd rfl he⟩

/-- An expense has been recorded. -/
theorem of_recorded (h : Recorded call? x.engine.store x'.engine.store)
    (hdirectory : x'.engine.store.directory = x.engine.store.directory)
    (hstatus : ∀ status, status? = some status → status = 200) :
    Effect (some .shareExpense) call? x x' status? :=
  ⟨.inr h, fun _ _ => h, fun status hs hne _ => absurd (hstatus status hs) hne,
    fun _ => hdirectory, fun _ he => absurd rfl he⟩

end Effect

/-! ## Statuses -/

/-- No error is answered with a success. -/
theorem Failure.le_status_ofError (e : Error) : 400 ≤ (Failure.ofError e).status := by
  unfold Failure.ofError
  cases e.kind with
  | notFound => exact (by decide : 400 ≤ 404)
  | forbidden => exact (by decide : 400 ≤ 403)
  | badRequest => exact (by decide : 400 ≤ 400)
  | timeout => exact (by decide : 400 ≤ 504)
  | storage => exact (by decide : 400 ≤ 500)
  | cache => exact (by decide : 400 ≤ 500)
  | corrupted => exact (by decide : 400 ≤ 500)

namespace Site

/-! ## Calls -/

/-- Tasks of the engine, when its counters matter. -/
theorem triple_onEngine_counters {σ : Type} {P R : Engine σ → Prop} {t : Task (Engine σ) α}
    {Q : α → Engine σ → Prop} (h : Triple P t Q R) :
    Triple (fun x => P x.engine) (onEngine t) (fun a x => Q a x.engine) fun x => R x.engine :=
  h.focus fun _ _ => rfl

/-- Tasks of the backends do not count. -/
theorem triple_onStore_counters {σ : Type} {P R : σ → Prop} {t : Task σ α} {Q : α → σ → Prop}
    (h : Triple P t Q R) (counters : Counters) :
    Triple (fun x => P x.engine.store ∧ x.engine.counters = counters) (onStore t)
      (fun a x => Q a x.engine.store ∧ x.engine.counters = counters)
      fun x => R x.engine.store ∧ x.engine.counters = counters := by
  intro budget x hx
  have hl := h budget x.engine.store hx.1
  refine ⟨fun a spent hr => ⟨hl.done a spent hr, hx.2⟩, fun hr => ?_⟩
  obtain ⟨hb, hR⟩ := hl.dropped hr
  exact ⟨hb, hR, hx.2⟩

variable {b : Backends Store} (hb : b.Realizes) (settings : EngineSettings)

/-- Administration that is answered with a success if it succeeds. -/
theorem triple_administration {t : Task Store (Except Error α)} (h : Store.Administers t)
    (status : Nat) (hstatus : Succeeds status) (content : α → Content) (endpoint : Endpoint)
    (hexpense : endpoint ≠ .shareExpense) (call? : Option (UserId × Call)) (x : Site Store) :
    Triple (fun x' => x' = x) (do let r ← onStore t; return respond status content r)
      (fun response x' => Effect (some endpoint) call? x x' (some response.status))
      fun x' => Effect (some endpoint) call? x x' none := by
  have hstore := triple_onStore_counters (h x.engine.store) x.engine.counters
  refine (hstore.conseq ?_ (fun _ _ h => h) ?_).bind fun r => .pure ?_
  · rintro x' rfl
    exact ⟨rfl, rfl⟩
  · rintro x' ⟨hsame, hcounters⟩
    refine .of_sameButGroups hexpense ⟨?_, ?_⟩ hcounters fun _ => ?_
    · rw [hsame]
    · rw [hsame]
    · rw [hsame]
  · rintro x' ⟨⟨hsame, hdirectory⟩, hcounters⟩
    refine .of_sameButGroups hexpense hsame hcounters fun hfails => hdirectory ?_
    -- A value is answered with a success.
    cases r with
    | error e => rfl
    | ok a => exact absurd hstatus (hfails status rfl)

include hb

/-- Sharing an expense, and counting it. -/
theorem triple_shareExpense_effect (payer : UserId) (group : GroupId) (message : ShareExpense)
    (x : Site Store) :
    Triple (fun x' => x' = x) (shareExpense b settings payer group message.amount)
      (fun response x' => Effect (some .shareExpense)
        (some (payer, .shareExpense group message)) x x' (some response.status))
      fun x' => Effect (some .shareExpense) (some (payer, .shareExpense group message)) x x'
        none := by
  generalize hcall : some (payer, Call.shareExpense group message) = call?
  obtain ⟨hdirectory, hcases⟩ := Store.share_isBatch payer message.amount group x.engine.store
  -- What is known of the store when it has shared the expense is known at any later time.
  have hrecorded : ∀ (x' : Site Store) (expense : Expense),
      (x.engine.store.share payer message.amount group).1 = .ok expense →
      (x.engine.store.share payer message.amount group).2.SameButCache x'.engine.store →
      Recorded call? x.engine.store x'.engine.store := by
    intro x' expense hvalue hsame
    rcases hcases with ⟨⟨e, herror⟩, -⟩ | ⟨expense', amount, debtors, -, hbatch, hdebtors, hledger⟩
    · rw [hvalue] at herror
      contradiction
    · refine ⟨payer, group, message, amount, debtors, _, hcall.symm, ?_, hbatch, hdebtors⟩
      rw [hsame.ledger, hledger]
  have hrefused : ∀ (x' : Site Store) (e : Error),
      (x.engine.store.share payer message.amount group).1 = .error e →
      (x.engine.store.share payer message.amount group).2.SameButCache x'.engine.store →
      x'.engine.store.ledger.records = x.engine.store.ledger.records := by
    intro x' e hvalue hsame
    rcases hcases with ⟨-, hledger⟩ | ⟨expense, amount, debtors, hok, -⟩
    · rw [hsame.ledger, hledger]
    · rw [hvalue] at hok
      contradiction
  have hshare := triple_onEngine_counters
    (Engine.triple_shareExpense_share hb settings payer message.amount group x.engine.store)
  unfold shareExpense
  refine (hshare.conseq ?_ (fun _ _ h => h) ?_).bind_except (fun e => .pure ?_) fun expense => ?_
  · rintro x' rfl
    rfl
  · rintro x' (hsame | hsame)
    · exact .of_refused (by rw [hsame]) (by rw [hsame]) (by simp)
    · have hgroups : x'.engine.store.directory = x.engine.store.directory :=
        hsame.directory.trans hdirectory
      cases hvalue : (x.engine.store.share payer message.amount group).1 with
      | error e => exact .of_refused (hrefused x' e hvalue hsame) hgroups (by simp)
      | ok expense => exact .of_recorded (hrecorded x' expense hvalue hsame) hgroups (by simp)
  · rintro x' ⟨hvalue, hsame⟩
    refine .of_refused (hrefused x' e hvalue.symm hsame) (hsame.directory.trans hdirectory) ?_
    have hle := Failure.le_status_ofError e
    intro hstatus
    have hok : (Failure.ofError e).status = 200 := Option.some.inj hstatus
    omega
  · have hcount : Triple
        (fun x' => .ok expense = (x.engine.store.share payer message.amount group).1 ∧
          (x.engine.store.share payer message.amount group).2.SameButCache x'.engine.store)
        (count fun t => t.countExpense expense.loans.length)
        (fun _ x' => Effect (some .shareExpense) call? x x' (some 200))
        fun x' => Effect (some .shareExpense) call? x x' none := by
      refine Triple.act ?_
      rintro x' ⟨hvalue, hsame⟩
      refine (Effect.of_recorded (hrecorded x' expense hvalue.symm hsame)
        (hsame.directory.trans hdirectory) ?_).tallied _
      rintro status ⟨⟩
      rfl
    exact hcount.bind fun _ => .pure fun _ h => h

omit hb in
/-- A message is checked before anything else happens. -/
theorem triple_unlessBroken_effect {endpoint? : Option Endpoint}
    {call? : Option (UserId × Call)} {t : Task (Site Store) Response} {R : Site Store → Prop}
    (breach : Option Breach) (x : Site Store)
    (h : Triple (fun x' => x' = x) t
      (fun response x' => Effect endpoint? call? x x' (some response.status)) R) :
    Triple (fun x' => x' = x) (unlessBroken breach t)
      (fun response x' => Effect endpoint? call? x x' (some response.status)) R := by
  cases breach with
  | none => exact h
  | some _ =>
    refine .pure ?_
    rintro x' rfl
    refine .refl fun _ hstatus => ?_
    have h200 : 400 = 200 := Option.some.inj hstatus
    contradiction

/-- **What a call of the engine does.** -/
theorem triple_perform_effect (actor : UserId) (call : Call) (x : Site Store) :
    Triple (fun x' => x' = x) (perform b settings actor call)
      (fun response x' =>
        Effect (some call.endpoint) (some (actor, call)) x x' (some response.status))
      fun x' => Effect (some call.endpoint) (some (actor, call)) x x' none := by
  cases call with
  | getBalance =>
    have hread := triple_onEngine_counters
      (Engine.triple_balanceLinesOf_served hb settings actor x.engine.store)
    refine (hread.conseq ?_ (fun _ _ h => h) fun x' h => .of_sameBooks h).bind fun r =>
      .pure fun x' h => .of_sameBooks h.2
    rintro x' rfl
    rfl
  | listGroups =>
    have hasks : Store.Asks (b.groupsOf actor) := ⟨_, hb.groupsOf actor⟩
    exact triple_administration hasks.administers 200 (by decide) _ .listGroups (by decide) _ x
  | createGroup message =>
    exact triple_unlessBroken_effect _ x
      (triple_administration (Engine.administers_createGroup hb message.name actor) 201
        (by decide) _ .createGroup (by decide) _ x)
  | getGroup group =>
    exact triple_administration (Engine.asks_groupInfo hb group).administers 200 (by decide) _
      .getGroup (by decide) _ x
  | deleteGroup group =>
    exact triple_administration (Engine.administers_deleteGroup hb actor group) 204 (by decide) _
      .deleteGroup (by decide) _ x
  | listMembers group =>
    exact triple_administration (Engine.asks_membersOf hb group).administers 200 (by decide) _
      .listMembers (by decide) _ x
  | addMembers group message =>
    exact triple_unlessBroken_effect _ x
      (triple_administration (Engine.administers_addMembers hb actor group message.users) 204
        (by decide) _ .addMembers (by decide) _ x)
  | removeMember group user =>
    exact triple_administration (Engine.administers_removeMember hb actor group user) 204
      (by decide) _ .removeMember (by decide) _ x
  | shareExpense group message =>
    exact triple_unlessBroken_effect _ x
      (triple_shareExpense_effect hb settings actor group message x)

/-- **What a call under the deadline of a request does.** -/
theorem triple_answer_effect (timeout : Nat) (actor : UserId) (call : Call) (x : Site Store) :
    Triple (fun x' => x' = x) (answer b settings timeout actor call)
      (fun response x' =>
        Effect (some call.endpoint) (some (actor, call)) x x' (some response.status))
      fun x' => Effect (some call.endpoint) (some (actor, call)) x x' none := by
  have hwithin :=
    (triple_perform_effect hb settings actor call x).within_prompt timeout False.elim
  -- All that matters of the response at the deadline is its status.
  obtain ⟨late, hlate, hstatus⟩ : ∃ late, Failure.timeout.response = late ∧ late.status = 504 :=
    ⟨_, rfl, rfl⟩
  unfold answer
  rw [hlate]
  refine hwithin.bind fun r => ?_
  have hcount : Triple
      (fun x' => Effect (some call.endpoint) (some (actor, call)) x x'
        (some (r.getD late).status))
      (count fun t => t.countRequest call.endpoint.name (r.getD late).status)
      (fun _ x' => Effect (some call.endpoint) (some (actor, call)) x x'
        (some (r.getD late).status))
      fun x' => Effect (some call.endpoint) (some (actor, call)) x x' none :=
    Triple.act fun x' hx' => hx'.tallied _
  refine (hcount.conseq ?_ (fun _ _ h => h) fun _ h => h).bind fun _ => .pure fun _ h => h
  intro x' hx'
  cases r with
  | some response => exact hx'
  | none =>
    rw [Option.getD_none, hstatus]
    exact hx'.1.late

end Site

/-! ## Requests -/

/-- A request that is rejected is not answered with a success. -/
theorem Reject.status_ne (reject : Reject) : reject.response.status ≠ 200 := by
  cases reject with
  | absent => decide
  | malformed => decide
  | tooLong => decide

/-- Both parts of a result have succeeded. -/
theorem exists_of_bind_eq_ok {ε β : Type} {t : Except ε α} {f : α → Except ε β} {b : β}
    (h : t >>= f = .ok b) : ∃ a, t = .ok a ∧ f a = .ok b := by
  cases t with
  | error e => contradiction
  | ok a => exact ⟨a, rfl, h⟩

/-- The call that is read at an endpoint is one of that endpoint. -/
theorem endpoint_of_readCall (e : Endpoint) (ids : List String) (r : Request) (call : Call)
    (h : readCall e ids r = .ok call) : call.endpoint = e := by
  unfold readCall at h
  split at h
  · cases h
    rfl
  · cases h
    rfl
  · obtain ⟨message, -, h⟩ := exists_of_bind_eq_ok h
    cases h
    rfl
  · obtain ⟨group, -, h⟩ := exists_of_bind_eq_ok h
    cases h
    rfl
  · obtain ⟨group, -, h⟩ := exists_of_bind_eq_ok h
    cases h
    rfl
  · obtain ⟨group, -, h⟩ := exists_of_bind_eq_ok h
    cases h
    rfl
  · obtain ⟨group, -, h⟩ := exists_of_bind_eq_ok h
    obtain ⟨message, -, h⟩ := exists_of_bind_eq_ok h
    cases h
    rfl
  · obtain ⟨group, -, h⟩ := exists_of_bind_eq_ok h
    obtain ⟨user, -, h⟩ := exists_of_bind_eq_ok h
    cases h
    rfl
  · obtain ⟨group, -, h⟩ := exists_of_bind_eq_ok h
    obtain ⟨message, -, h⟩ := exists_of_bind_eq_ok h
    cases h
    rfl
  · contradiction

/-- Expenses have one method and one form of paths. -/
theorem Route.shareExpense_of_ofSegments? (method : String) (rest : List String)
    (ids : List String) (h : ofSegments? method rest = some (.endpoint .shareExpense ids)) :
    method = "POST" ∧ ∃ group, rest = ["groups", group, "expenses"] := by
  unfold ofSegments? at h
  split at h
  · split at h <;> simp at h
  · split at h
    · simp at h
    · split at h <;> simp at h
  · split at h
    · simp at h
    · split at h
      · simp at h
      · split at h <;> simp at h
  · split at h
    · simp at h
    · split at h
      · simp at h
      · split at h <;> simp at h
  · split at h
    · simp at h
    · split at h <;> simp at h
  · rename_i group
    split at h
    · simp at h
    · split at h
      · rename_i hmethod
        exact ⟨hmethod, group, rfl⟩
      · simp at h
  · contradiction

/-- A request that goes to the endpoint of expenses is a POST to the expenses of a group. -/
theorem Request.path_of_endpoint? (r : Request) (h : r.endpoint? = some .shareExpense) :
    r.method = "POST" ∧ ∃ path group, Target.path? r.target = some path ∧
      segments (unescape actsInPath path) = ["", "api", "v1", "groups", group, "expenses"] := by
  unfold endpoint? at h
  split at h
  · rename_i e ids hroute
    cases h
    obtain ⟨path, hpath, hroute⟩ := Option.bind_eq_some_iff.1 hroute
    generalize hsegments : segments (unescape actsInPath path) = parts at hroute
    unfold Route.ofPath? at hroute
    split at hroute
    · split at hroute <;> simp at hroute
    · split at hroute <;> simp at hroute
    · obtain ⟨hmethod, group, rfl⟩ := Route.shareExpense_of_ofSegments? r.method _ ids hroute
      exact ⟨hmethod, path, group, hpath, hsegments⟩
    · contradiction
  · contradiction

/-- A request goes to the endpoint of the call that it asks for. -/
theorem Request.endpoint?_of_call? (r : Request) (actor : UserId) (call : Call)
    (h : r.call? = some (actor, call)) : r.endpoint? = some call.endpoint := by
  unfold call? at h
  unfold endpoint?
  split at h
  · rename_i e ids hroute
    split at h
    · rename_i hread
      cases h
      rw [endpoint_of_readCall e ids r _ hread]
    · contradiction
  · contradiction

/-- **What a request does.** -/
theorem Site.triple_handle_effect {b : Backends Store} (hb : b.Realizes)
    (settings : EngineSettings) (timeout : Nat) (r : Request) (x : Site Store) :
    Triple (fun x' => x' = x) (handle b settings timeout r)
      (fun response x' => Effect r.endpoint? r.call? x x' (some response.status))
      fun x' => Effect r.endpoint? r.call? x x' none := by
  unfold handle Request.endpoint? Request.call?
  have hpure : ∀ (endpoint? : Option Endpoint) (call? : Option (UserId × Call))
      (response : Response), (endpoint? = some .shareExpense → response.status ≠ 200) →
      Triple (fun x' => x' = x) (Pure.pure response)
        (fun response x' => Effect endpoint? call? x x' (some response.status))
        fun x' => Effect endpoint? call? x x' none := by
    intro endpoint? call? response hne
    refine .pure ?_
    rintro x' rfl
    exact .refl fun he hs => hne he (Option.some.inj hs)
  cases Route.find? r.method r.target with
  | none => exact hpure _ _ _ fun he => by contradiction
  | some route =>
    cases route with
    | health => exact hpure _ _ _ fun he => by contradiction
    | metrics =>
      refine Triple.act ?_
      rintro x' rfl
      exact .refl fun he => by contradiction
    | endpoint e ids =>
      dsimp only
      cases r.actor? with
      | none =>
        refine hpure _ _ _ fun _ => ?_
        change 401 ≠ 200
        decide
      | some actor =>
        dsimp only
        cases hcall : readCall e ids r with
        | error reject => exact hpure _ _ _ fun _ => reject.status_ne
        | ok call =>
          have hanswer := triple_answer_effect hb settings timeout actor call x
          rw [endpoint_of_readCall e ids r call hcall] at hanswer
          exact hanswer

end Web

end ExpenseLedger
