import ExpenseLedger.Proofs.Engine.Duration
import ExpenseLedger.Proofs.Engine.Independence
import ExpenseLedger.Proofs.Run.Staleness
import ExpenseLedger.Proofs.Web.Effects
/-!
# How long requests take

A request whose call ends before the deadline of requests gets the response of the call, when the
call has ended. Any other gets the answer 504 at the deadline. A slow cache never makes the answer
to an expense a 504. To a balance it does, as the look-up of the entry waits without a deadline:
exactly if the time of reading exceeds that of the request. Main statements:

* `Site.takes_handle`, `Site.takes_handle_late`: the time of a request, from that of its call;
* `Site.slow_cache_tells`: what a slow cache does to requests.
-/

open ExpenseLedger.Task

namespace ExpenseLedger.Web

variable {σ α : Type}

namespace Site

/-! ## Building blocks -/

/-- Tasks of the engine. -/
theorem takes_onEngine {t : Task (Engine σ) α} {x : Site σ} {d : Nat} {a : α} {e' : Engine σ}
    (h : Takes t x.engine d a e') : Takes (onEngine t) x d a { x with engine := e' } := h.focus

/-! ## Requests -/

section Requests

variable (b : Backends σ) (settings : EngineSettings)

/-- A request that asks for a call is answered by that call. -/
theorem handle_of_call? (timeout : Nat) (r : Request) (actor : UserId) (call : Call)
    (h : r.call? = some (actor, call)) :
    handle b settings timeout r = answer b settings timeout actor call := by
  unfold Request.call? at h
  split at h
  · rename_i e ids hroute
    split at h
    · rename_i hactor hread
      cases h
      unfold handle
      rw [hroute]
      dsimp only
      rw [hactor]
      dsimp only
      rw [hread]
    · contradiction
  · contradiction

variable {b settings} {timeout d : Nat} {r : Request} {actor : UserId} {call : Call}
  {x x' : Site σ} {response : Response}

/-- The answer to a call that ends before the deadline. -/
theorem takes_answer (h : Takes (perform b settings actor call) x d response x')
    (hle : d ≤ timeout) :
    Takes (answer b settings timeout actor call) x d response
      { x' with tally := x'.tally.countRequest call.endpoint.name response.status } :=
  (h.within hle).bind_instant ((Takes.act _ x').instant_bind (.pure response _))

/-- The answer to a call that does not end before the deadline. -/
theorem takes_answer_late (h : Takes (perform b settings actor call) x d response x')
    (hlt : timeout < d) :
    ∃ x'', Takes (answer b settings timeout actor call) x timeout Failure.timeout.response x'' :=
  ⟨_, (h.within_late hlt).bind_instant ((Takes.act _ _).instant_bind (.pure _ _))⟩

/-- **A request whose call ends before the deadline of requests has ended when its call has.** -/
theorem takes_handle (hcall : r.call? = some (actor, call))
    (h : Takes (perform b settings actor call) x d response x') (hle : d ≤ timeout) :
    Takes (handle b settings timeout r) x d response
      { x' with tally := x'.tally.countRequest call.endpoint.name response.status } := by
  rw [handle_of_call? b settings timeout r actor call hcall]
  exact takes_answer h hle

/-- **Any other request is answered with 504 at the deadline.** -/
theorem takes_handle_late (hcall : r.call? = some (actor, call))
    (h : Takes (perform b settings actor call) x d response x') (hlt : timeout < d) :
    ∃ x'', Takes (handle b settings timeout r) x timeout Failure.timeout.response x'' := by
  rw [handle_of_call? b settings timeout r actor call hcall]
  exact takes_answer_late h hlt

end Requests

/-! ## Timeouts behind the service -/

/-- What is no error of cache work is not told as a timeout. -/
theorem status_respond_ne_of_shielded {status : Nat} (hstatus : status ≠ 504)
    (content : α → Content) {r : Except Error α} (h : Shielded r) :
    (respond status content r).status ≠ 504 := by
  cases r with
  | ok a => exact hstatus
  | error e =>
    have hkind := h e rfl
    change (Failure.ofError e).status ≠ 504
    unfold Failure.ofError
    cases hk : e.kind with
    | notFound => exact (by decide : 404 ≠ 504)
    | forbidden => exact (by decide : 403 ≠ 504)
    | badRequest => exact (by decide : 400 ≠ 504)
    | storage => exact (by decide : 500 ≠ 504)
    | cache => exact absurd (by rw [hk]; decide) hkind
    | corrupted => exact absurd (by rw [hk]; decide) hkind
    | timeout => exact absurd (by rw [hk]; decide) hkind

/-! ## A slow cache -/

section SlowCache

variable (w : Store.Waits) (settings : EngineSettings)

/-- Reading a balance gives the lines of what the store holds. -/
theorem takes_getBalance (actor : UserId) (x : Site Store) :
    ∃ x', Takes (perform (Store.backends w) settings actor .getBalance) x
      (x.engine.store.readTime w settings actor)
      (respond 200 (fun lines => asJson (BalanceAnswer.mk actor lines))
        ((x.engine.store.served actor).map Balance.lines)) x' := by
  obtain ⟨e', hread⟩ := Engine.takes_balanceLinesOf w settings actor x.engine
  exact ⟨_, (takes_onEngine hread).bind_instant (.pure _ _)⟩

/-- Reading a balance scans the ledger once at most, however it ends. -/
theorem triple_getBalance_scansOnce (timeout : Nat) (actor : UserId) (n : Nat) :
    Triple (fun x => x.engine.store.ledger.scans = n)
      (answer (Store.backends w) settings timeout actor .getBalance)
      (fun _ x => x.engine.store.ledger.scans ≤ n + 1)
      fun x => x.engine.store.ledger.scans ≤ n + 1 := by
  have hlines := triple_onEngine_counters
    (Engine.triple_balanceLinesOf_scansOnce settings (Store.realizes_backends w) actor n)
  have hperform : Triple (fun x => x.engine.store.ledger.scans = n)
      (perform (Store.backends w) settings actor .getBalance)
      (fun _ x => x.engine.store.ledger.scans ≤ n + 1)
      fun x => x.engine.store.ledger.scans ≤ n + 1 := hlines.bind fun _ => .pure fun _ hx => hx
  refine (hperform.within_prompt timeout False.elim).bind fun r => ?_
  have hcount : Triple (fun x : Site Store => x.engine.store.ledger.scans ≤ n + 1)
      (count fun t => t.countRequest Call.getBalance.endpoint.name
        (r.getD Failure.timeout.response).status)
      (fun _ x => x.engine.store.ledger.scans ≤ n + 1)
      fun x => x.engine.store.ledger.scans ≤ n + 1 := Triple.act fun _ hx => hx
  refine (hcount.conseq ?_ (fun _ _ hx => hx) fun _ hx => hx).bind fun _ => .pure fun _ hx => hx
  intro x hx
  cases r with
  | some response => exact hx
  | none => exact hx.1

/-- An expense is shared in no more than two deadlines of cache updates if neither the ledger nor
the directory waits. What is answered has nothing to do with the cache. -/
theorem takes_shareExpense (happend : w.append = 0) (hfind : w.findGroup = 0) (actor : UserId)
    (group : GroupId) (amount : Int) (x : Site Store) :
    ∃ d x', Takes (shareExpense (Store.backends w) settings actor group amount) x d
        (respond 200 asJson (x.engine.store.share actor amount group).1) x' ∧
      d ≤ settings.cacheUpdateTimeout + settings.cacheUpdateTimeout ∧
      x'.engine.store.ledger = (x.engine.store.share actor amount group).2.ledger := by
  have happend : ∀ loans, EndsWithin 0 ((Store.backends w).append loans) := fun loans =>
    (Store.endsWithin_after w.append (Store.append loans)).mono (by simp [happend])
  have hfind : EndsWithin 0 ((Store.backends w).findGroup group) :=
    (Store.endsWithin_after w.findGroup (Store.ask (Directory.find group))).mono (by simp [hfind])
  have hmembers : EndsWithin 0 ((Store.backends w).members group) := .act _
  obtain ⟨d, r, e', hshare, hd⟩ := Engine.endsWithin_shareExpense (Store.punctual_backends w)
    settings group hfind hmembers happend actor amount x.engine
  have hresult := hshare.of_triple (Engine.triple_shareExpense_share (Store.realizes_backends w)
    settings actor amount group x.engine.store) rfl
  rw [zero_add, zero_add, zero_add, ← Nat.cast_add, Nat.cast_le] at hd
  rw [← hresult.1]
  have hon := takes_onEngine (x := x) hshare
  cases r with
  | error e => exact ⟨d, _, hon.bind_instant (.pure _ _), hd, hresult.2.ledger⟩
  | ok expense =>
    exact ⟨d, _, hon.bind_instant ((Takes.act _ _).instant_bind (.pure _ _)), hd,
      hresult.2.ledger⟩

/-- A call to share an expense, whether its message breaks a rule or not. -/
theorem takes_perform_shareExpense (happend : w.append = 0) (hfind : w.findGroup = 0)
    (actor : UserId) (group : GroupId) (message : ShareExpense) (x : Site Store) :
    ∃ d response x', Takes (perform (Store.backends w) settings actor
        (.shareExpense group message)) x d response x' ∧
      d ≤ settings.cacheUpdateTimeout + settings.cacheUpdateTimeout ∧
      response.status ≠ 504 ∧
      x'.engine.store.ledger.scans = x.engine.store.ledger.scans := by
  unfold perform unlessBroken
  dsimp only
  cases message.breach? with
  | some breach =>
    refine ⟨0, _, x, .pure _ x, Nat.zero_le _, ?_, rfl⟩
    exact (by decide : 400 ≠ 504)
  | none =>
    obtain ⟨d, x', hshare, hd, hledger⟩ :=
      takes_shareExpense w settings happend hfind actor group message.amount x
    refine ⟨d, _, x', hshare, hd, ?_, ?_⟩
    · exact status_respond_ne_of_shielded (by decide) _
        (Store.shielded_share actor message.amount group x.engine.store)
    · rw [hledger]
      obtain ⟨-, ⟨-, hsame⟩ | ⟨_, _, _, -, -, -, hsame⟩⟩ :=
        Store.share_isBatch actor message.amount group x.engine.store
      · rw [hsame]
      · rw [hsame]

/-- **When neither the ledger nor the directory waits, a slow cache never turns the answer to an
expense into a 504, and the answer to a balance exactly if the time of reading, which no deadline
bounds before the look-up has ended, exceeds that of the request.** Whatever is answered, the ledger
is scanned once at most. -/
theorem slow_cache_tells (timeout : Nat) (happend : w.append = 0)
    (hcompute : w.computeBalance = 0) (hfind : w.findGroup = 0)
    (htimeout : settings.populateTimeout + 2 * settings.cacheUpdateTimeout < timeout)
    (r : Request) (x : Site Store) :
    (∀ actor group message, r.call? = some (actor, .shareExpense group message) →
      ∃ response x' spent,
        Takes (handle (Store.backends w) settings timeout r) x spent response x' ∧
          response.status ≠ 504 ∧
          x'.engine.store.ledger.scans = x.engine.store.ledger.scans) ∧
    ∀ actor, r.call? = some (actor, .getBalance) →
      ∃ response x' spent,
        Takes (handle (Store.backends w) settings timeout r) x spent response x' ∧
          (response.status = 504 ↔ timeout < x.engine.store.readTime w settings actor) ∧
          x.engine.store.readTime w settings actor ≤
            w.lookup + settings.populateTimeout + settings.cacheUpdateTimeout ∧
          x'.engine.store.ledger.scans ≤ x.engine.store.ledger.scans + 1 := by
  constructor
  · intro actor group message hcall
    obtain ⟨d, response, x', hperform, hd, hstatus, hscans⟩ :=
      takes_perform_shareExpense w settings happend hfind actor group message x
    have hle : d ≤ timeout := by omega
    exact ⟨response, _, d, takes_handle hcall hperform hle, hstatus, hscans⟩
  · intro actor hcall
    obtain ⟨x', hperform⟩ := takes_getBalance w settings actor x
    have htime := x.engine.store.readTime_le w settings actor
    have hscans := triple_getBalance_scansOnce w settings timeout actor x.engine.store.ledger.scans
    rw [← handle_of_call? _ settings timeout r actor .getBalance hcall] at hscans
    rw [hcompute, Nat.add_zero] at htime
    rcases Nat.lt_or_ge timeout (x.engine.store.readTime w settings actor) with hlt | hle
    · obtain ⟨x'', hlate⟩ := takes_handle_late hcall hperform hlt
      refine ⟨_, x'', timeout, hlate, ?_, htime, hlate.of_triple hscans rfl⟩
      exact iff_of_true rfl hlt
    · have hdone := takes_handle hcall hperform hle
      refine ⟨_, _, _, hdone, ?_, htime, hdone.of_triple hscans rfl⟩
      refine iff_of_false ?_ (Nat.not_lt.2 hle)
      exact status_respond_ne_of_shielded (by decide) _
        ((x.engine.store.shielded_served actor).map Balance.lines)

end SlowCache

end ExpenseLedger.Web.Site

namespace ExpenseLedger

open Web

/-! ## A look-up that stalls -/

namespace Sample

/-- Every look-up of an entry waits for six seconds. -/
def stalled : Store.Waits := { Store.Waits.none with lookup := 6000 }

/-- Alice asks for her balance. -/
def ask : Request := ⟨"GET", "/api/v1/balance", [("X-User-Id", alice.text)], ""⟩

/-- The site at the start. -/
def start : Site Store := .fresh (Store.empty supply)

end Sample

open Sample

/-- The general statement about the stalled look-up. -/
theorem slow_cache_tells_stalled :
    ask.call? = some (alice, .getBalance) ∧
      ∃ response x' spent,
        Takes (Site.handle (Store.backends stalled) EngineSettings.standard 5000 ask) start spent
            response x' ∧
          (response.status = 504 ↔
            5000 < start.engine.store.readTime stalled EngineSettings.standard alice) ∧
          start.engine.store.readTime stalled EngineSettings.standard alice ≤ 6000 + 500 + 500 ∧
          x'.engine.store.ledger.scans ≤ 0 + 1 := by
  have hcall : ask.call? = some (alice, .getBalance) := by decide +kernel
  exact ⟨hcall, (Site.slow_cache_tells stalled EngineSettings.standard 5000 rfl rfl rfl
    (by decide) ask start).2 alice hcall⟩

/-- **A look-up that stalls is answered with 504, though the deadlines of cache work all fit into
that of the request.** -/
theorem stalled_lookup_surfaces :
    EngineSettings.standard.populateTimeout + 2 * EngineSettings.standard.cacheUpdateTimeout <
      5000 ∧
    (stalled.append, stalled.computeBalance, stalled.findGroup) = (0, 0, 0) ∧
    World.plain.statuses start [.request ⟨stalled, EngineSettings.standard, 5000⟩ ask] = [504] := by
  decide +kernel

end ExpenseLedger
