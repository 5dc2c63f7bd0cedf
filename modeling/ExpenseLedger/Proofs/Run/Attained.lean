import ExpenseLedger.Proofs.Run.Audit
/-!
# What any sequence of operations leads to

The services touch a store by the operations of its backends alone. So what each of these operations
keeps is kept by every call and every request, however early it is dropped, and what the faults keep
as well holds wherever a run leads (`Web.Site.Attained.keeps`). New identifiers and times may come
from anywhere along the way, so nothing that holds of all these stores can rest on them.
-/

open ExpenseLedger.Task

namespace ExpenseLedger

open Web

/-- Every operation of the backends keeps a property of stores. -/
def Operation.Keep (P : Store → Prop) : Prop :=
  ∀ (o : Operation) (s : Store), P s → P (o.perform s).2

namespace Operation.Keep

variable {P : Store → Prop} (h : Operation.Keep P)
include h

/-- An operation keeps it after any wait, and under any deadline. -/
theorem triple (w : Store.Waits) (o : Operation) :
    Triple P (o.task (Store.backends w)) (fun _ => P) P :=
  (o.atomic_task w).keeps (h o)

/-- **What the operations keep, the services keep.** -/
theorem serviceKeeps (w : Store.Waits) (settings : EngineSettings) :
    (Store.backends w).ServiceKeeps settings P where
  createGroup name owner := h.triple w (.createGroup name owner)
  findGroup group := h.triple w (.findGroup group)
  deleteGroup group := h.triple w (.deleteGroup group)
  addMembers group users := h.triple w (.addMembers group users)
  removeMember group user := h.triple w (.removeMember group user)
  members group := h.triple w (.members group)
  groupsOf user := h.triple w (.groupsOf user)
  balanceOf user := by
    refine Engine.triple_balanceOf_keeps ?_ ?_ ?_ fun balance => ?_
    · exact h.triple w (.clear user)
    · exact h.triple w (.lookup user)
    · exact h.triple w (.computeBalance user)
    · exact h.triple w (.populate user balance)
  addLoans lender amount debtors := by
    have hcache : (Store.backends w).CacheKeeps P :=
      ⟨fun user => h.triple w (.hasEntry user), fun user m => h.triple w (.populate user m),
        fun user deltas => h.triple w (.applyDeltas user deltas),
        fun user => h.triple w (.clear user)⟩
    unfold Engine.addLoans
    cases Engine.checkBatch lender amount debtors with
    | error e => exact .pure fun _ he => he
    | ok _ =>
      have happend := h.triple w (.append (Engine.loansTo lender amount debtors))
      refine (Engine.triple_onStore happend).bind_except (fun _ => .pure fun _ he => he) fun _ => ?_
      exact (Engine.triple_updateEntries_keeps hcache lender amount debtors).bind fun _ =>
        .pure fun _ he => he
  clear user := h.triple w (.clear user)

variable (hfault : ∀ (f : Fault) (s : Store), P s → P (f.strike s))
include hfault

/-- What the faults keep as well, an action keeps. -/
theorem act (x : Site Store) (a : Action) (hx : P x.engine.store) :
    P (World.plain.act x a).engine.store := by
  cases a with
  | step st =>
    apply World.step_keeps x st hx
    · intro c
      exact h.serviceKeeps c.waits c.settings
    · intro f s _
      exact hfault f s
  | direct o =>
    have hleaves := Site.triple_onEngine (Engine.triple_onStore (h.triple .none o)) none x hx
    exact hleaves.state (fun _ _ h => h) fun _ h => h

end Operation.Keep

/-! ## Where runs lead -/

/-- The site when identifiers and times come from elsewhere. -/
def Web.Site.restock (supply : Supply) (x : Site Store) : Site Store :=
  { x with engine := { x.engine with store := { x.engine.store with supply } } }

/-- Some actions lead from the empty store to the site. Identifiers and times may come from
elsewhere after any of them, so they need neither differ nor go forward. -/
inductive Web.Site.Attained : Site Store → Prop where
  /-- Nothing has happened. -/
  | fresh (supply : Supply) : Attained (.fresh (Store.empty supply))
  /-- One more action. -/
  | act (x : Site Store) (a : Action) (hx : Attained x) : Attained (World.plain.act x a)
  /-- From here on identifiers and times come from elsewhere. -/
  | restock (x : Site Store) (supply : Supply) (hx : Attained x) : Attained (x.restock supply)

namespace Web.Site.Attained

variable {x : Site Store}

/-- More actions lead further. -/
theorem acts (hx : x.Attained) (actions : List Action) : (World.plain.acts x actions).Attained := by
  induction actions generalizing x with
  | nil => exact hx
  | cons a actions ih => exact ih (.act x a hx)

/-- **What operations and faults keep holds wherever actions lead**, if it has nothing to do with
identifiers and times to come. -/
theorem keeps {P : Store → Prop} (hx : x.Attained) (h : Operation.Keep P)
    (hempty : ∀ supply, P (Store.empty supply))
    (hfault : ∀ (f : Fault) (s : Store), P s → P (f.strike s))
    (hsupply : ∀ (s : Store) (supply : Supply), P s → P { s with supply }) :
    P x.engine.store := by
  induction hx with
  | fresh supply => exact hempty supply
  | act x a _ ih => exact h.act hfault x a ih
  | restock x supply _ ih => exact hsupply x.engine.store supply ih

end Web.Site.Attained

end ExpenseLedger
