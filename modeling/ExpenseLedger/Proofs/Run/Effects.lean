import ExpenseLedger.Proofs.Run.Keeping
import ExpenseLedger.Proofs.Run.Staleness
/-!
# What runs leave in the ledger

Every record that a run has ever added obeys the rules of loans (`valid_stored`), and what a single
request can do to a site, whatever the site and the request, is said in `request_effect`.
-/

open ExpenseLedger.Task

namespace ExpenseLedger

open Web

/-! ## Valid records -/

namespace Store

/-- All recorded loans obey the rules. -/
def Lawful (s : Store) : Prop := ∀ r ∈ s.ledger.records, r.toLoan.Valid

/-- Only the records matter. -/
theorem Lawful.of_records {s s' : Store} (h : s.Lawful)
    (hrecords : s'.ledger.records = s.ledger.records) : s'.Lawful := by
  unfold Lawful
  rw [hrecords]
  exact h

/-- A batch may be added. -/
theorem Lawful.of_isBatch {s s' : Store} (h : s.Lawful) {lender : UserId} {amount : Int}
    {debtors : List UserId} {batch : List LoanRecord}
    (hbatch : Ledger.IsBatch lender amount debtors batch)
    (hrecords : s'.ledger.records = s.ledger.records ++ batch) : s'.Lawful := by
  intro r hr
  rw [hrecords] at hr
  rcases List.mem_append.1 hr with hr | hr
  · exact h r hr
  · exact hbatch.valid r hr

/-- Recording loans keeps the records lawful. -/
theorem Lawful.lend {s : Store} (h : s.Lawful) (lender : UserId) (amount : Int)
    (debtors : List UserId) : (s.lend lender amount debtors).2.Lawful := by
  obtain ⟨-, ⟨-, hledger⟩ | ⟨batch, hbatch, -, hledger⟩⟩ :=
    s.lend_isBatch lender amount debtors
  · exact h.of_records (congrArg Ledger.records hledger)
  · exact h.of_isBatch hbatch (congrArg Ledger.records hledger)

/-- A fault adds no record. -/
theorem Lawful.strike {s : Store} (h : s.Lawful) (f : Fault) : (f.strike s).Lawful := by
  refine h.of_records ?_
  cases f with
  | ledger failing => rfl
  | cache failing => rfl
  | updates failing => rfl
  | directory failing => rfl
  | damage user field value hrejects => rfl

/-- **The services keep the records lawful.** -/
theorem serviceKeeps_lawful {b : Backends Store} (hb : b.Realizes) (settings : EngineSettings) :
    b.ServiceKeeps settings Lawful where
  toDirectoryKeeps := hb.directoryKeeps fun _ _ hsame hs =>
    hs.of_records (congrArg Ledger.records hsame.ledger)
  balanceOf user := by
    refine Triple.of_forall fun e he => ?_
    refine (Engine.triple_balanceOf_served hb settings user e.store).conseq ?_ ?_ ?_
    · rintro e' rfl
      rfl
    · rintro r e' ⟨-, hsame⟩
      exact he.of_records hsame.records
    · rintro e' hsame
      exact he.of_records hsame.records
  addLoans lender amount debtors := by
    refine Triple.of_forall fun e he => ?_
    have hlend := he.lend lender amount debtors
    refine (Engine.triple_addLoans_lend hb settings lender amount debtors e.store).conseq ?_ ?_ ?_
    · rintro e' rfl
      rfl
    · rintro r e' ⟨-, hsame⟩
      exact hlend.of_records hsame.sameBooks.records
    · rintro e' (hsame | hsame)
      · rw [hsame]
        exact he
      · exact hlend.of_records hsame.sameBooks.records
  clear user := (hb.clear user).keeps fun _ hs => hs.of_records rfl

end Store

/-! ## Requests -/

/-- What a request has done to a site, and the status of its response if it has been answered. -/
theorem Web.Site.effect_handle {b : Backends Store} (hb : b.Realizes) (settings : EngineSettings)
    (timeout : Nat) (r : Request) (budget : Option Nat) (x : Site Store) :
    Effect r.endpoint? r.call? x (Site.handle b settings timeout r budget x).state
      ((Site.handle b settings timeout r budget x).outcome.value?.map Response.status) := by
  have hleaves := Site.triple_handle_effect hb settings timeout r x budget x rfl
  cases h : (Site.handle b settings timeout r budget x).outcome with
  | done response spent => exact hleaves.done response spent h
  | dropped => exact (hleaves.dropped h).2

/-- Records stay lawful whatever a request does. -/
theorem Web.Effect.lawful {endpoint? : Option Endpoint} {call? : Option (UserId × Call)}
    {x x' : Site Store} {status? : Option Nat} (h : Effect endpoint? call? x x' status?)
    (hx : x.engine.store.Lawful) : x'.engine.store.Lawful := by
  rcases h.records with hsame | ⟨_, _, _, _, _, _, -, hrecords, hbatch, -⟩
  · exact hx.of_records hsame
  · exact hx.of_isBatch hbatch hrecords

/-! ## Runs -/

/-- **All records of a run obey the rules of loans.** -/
theorem valid_stored (supply : Supply) (steps : List Step) : (stored supply steps).Lawful := by
  have hempty : (Store.empty supply).Lawful := fun r hr => absurd hr List.not_mem_nil
  refine World.run_keeps (P := Store.Lawful) _ steps hempty (fun c => ?_) fun f s hs => hs.strike f
  exact Store.serviceKeeps_lawful (Store.realizes_backends c.waits) c.settings

/-- **What requests do.** The site may be in any state and the backends may be any that do what the
store does, each operation at one instant, before which it may wait for any time, or not at all. They
fail where the store does, and somebody else may always be the first to delete a group. A request is
answered, unless it is given up from outside. It leaves the records as they were or adds one complete
batch, and what its status says about records and groups is true (`Web.Effect`). Only a POST to the
expenses of a group adds records, records that obey the rules go on doing so, and those of any run
do. -/
theorem request_effect {b : Backends Store} (hb : b.Realizes) (settings : EngineSettings)
    (timeout : Nat) (r : Request) (budget : Option Nat) (x : Site Store) :
    let ran := Site.handle b settings timeout r budget x
    (Site.handle b settings timeout r none x).outcome.value?.isSome = true ∧
    Effect r.endpoint? r.call? x ran.state (ran.outcome.value?.map Response.status) ∧
    (ran.state.engine.store.ledger.records ≠ x.engine.store.ledger.records →
      r.method = "POST" ∧ ∃ path group, Target.path? r.target = some path ∧
        segments (unescape actsInPath path) = ["", "api", "v1", "groups", group, "expenses"]) ∧
    (x.engine.store.Lawful → ran.state.engine.store.Lawful) ∧
    ∀ supply steps, (stored supply steps).Lawful := by
  intro ran
  have heffect := Site.effect_handle hb settings timeout r budget x
  refine ⟨?_, heffect, fun hne => ?_, heffect.lawful, valid_stored⟩
  · have hleaves := Site.triple_handle_effect hb settings timeout r x none x rfl
    obtain ⟨response, hvalue, -⟩ := hleaves.exists_value?
    rw [hvalue]
    rfl
  · rcases heffect.records with hsame | ⟨payer, group, message, _, _, _, hcall, -⟩
    · exact absurd hsame hne
    · exact r.path_of_endpoint? (r.endpoint?_of_call? payer _ hcall)

namespace Sample

/-- Members are listed after a while, and recording takes a while. -/
def leisurely : Backends Store :=
  { Store.backends { Store.Waits.none with append := 20 } with
    members := fun group => Store.after 10 (Store.ask (Directory.members group)) }

/-- They do what the store does. -/
theorem realizes_leisurely : leisurely.Realizes :=
  { Store.realizes_backends { Store.Waits.none with append := 20 } with
    members := fun _ => Store.atomic_after _ _ }

/-- Alice has created a group and added Bob. -/
def furnished : Site Store := reached supply (session (abandoned.take 2))

/-- Alice shares an expense. -/
def rent : Request :=
  post ("/api/v1/groups/" ++ flat.id.text ++ "/expenses") "\x7b\"amount\": 200\x7d"

end Sample

open Sample

/-- The general statement about an expense that is shared on backends which take their time: the
answer is 200, so the batch of the expense has been recorded, and all records obey the rules. -/
theorem request_effect_leisurely :
    leisurely.Realizes ∧
      (Site.handle leisurely EngineSettings.standard 5000 rent none furnished).outcome.value?.map
        Response.status = some 200 ∧
      Recorded rent.call? furnished.engine.store
        (Site.handle leisurely EngineSettings.standard 5000 rent none furnished).state.engine.store ∧
      (Site.handle leisurely EngineSettings.standard 5000 rent none
        furnished).state.engine.store.Lawful := by
  have hstatus : (Site.handle leisurely EngineSettings.standard 5000 rent none
      furnished).outcome.value?.map Response.status = some 200 := by decide +kernel
  have hendpoint : rent.endpoint? = some .shareExpense := by decide +kernel
  obtain ⟨-, heffect, -, hlawful, hruns⟩ :=
    request_effect realizes_leisurely EngineSettings.standard 5000 rent none furnished
  exact ⟨realizes_leisurely, hstatus, heffect.recorded hendpoint hstatus,
    hlawful (hruns supply (session (abandoned.take 2)))⟩

end ExpenseLedger
