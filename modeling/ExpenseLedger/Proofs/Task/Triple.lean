import ExpenseLedger.Task
/-!
# Reasoning about tasks

A triple says what a task leaves behind, whatever its budget: one condition on the value and the
state if the task ends, another on the state if it is dropped. It also says that a task without a
deadline is never dropped. There is one rule for each way to build a task; the rule for tasks side
by side, `Task.Triple.all`, keeps a strong invariant as long as none of them is dropped and a weak
one from then on.
-/

namespace ExpenseLedger

variable {σ τ α β ι : Type}

/-- An outcome, seen from an earlier instant. -/
def Outcome.later (spent : Nat) : Outcome α → Outcome α
  | .done a more => .done a (spent + more)
  | .dropped => .dropped

namespace Task

/-! ## Running one task after another -/

/-- A dropped task takes what comes after it along. -/
theorem bind_of_dropped {t : Task σ α} {f : α → Task σ β} {budget : Option Nat} {s s' : σ}
    (h : t budget s = ⟨s', .dropped⟩) : (t >>= f) budget s = ⟨s', .dropped⟩ := by
  change Task.bind t f budget s = _
  unfold Task.bind
  rw [h]

/-- A task that ends leaves the rest of the budget to what comes after it. -/
theorem bind_of_done {t : Task σ α} {f : α → Task σ β} {budget : Option Nat} {s s' : σ} {a : α}
    {spent : Nat} (h : t budget s = ⟨s', .done a spent⟩) :
    (t >>= f) budget s =
      ⟨(f a (budget.map (· - spent)) s').state,
        Outcome.later spent (f a (budget.map (· - spent)) s').outcome⟩ := by
  change Task.bind t f budget s = _
  unfold Task.bind
  rw [h]
  dsimp only
  rcases f a (budget.map (· - spent)) s' with ⟨s'', _ | _⟩ <;> rfl

/-! ## Triples -/

/-- What a task run with a budget has left meets a condition on ends or one on drops. -/
structure Leaves (budget : Option Nat) (Q : α → σ → Prop) (R : σ → Prop) (r : Ran σ α) : Prop where
  /-- If the task has ended, the first condition holds. -/
  done : ∀ a spent, r.outcome = .done a spent → Q a r.state
  /-- If the task has been dropped, there was a deadline, and the second condition holds. -/
  dropped : r.outcome = .dropped → budget ≠ none ∧ R r.state

/-- From every state with `P`, the task ends with `Q` or, under a deadline, is dropped with `R`. -/
def Triple (P : σ → Prop) (t : Task σ α) (Q : α → σ → Prop) (R : σ → Prop) : Prop :=
  ∀ budget s, P s → Leaves budget Q R (t budget s)

namespace Leaves

variable {budget : Option Nat} {Q : α → σ → Prop} {R : σ → Prop}

/-- A task has ended. -/
theorem of_done {s : σ} {a : α} {spent : Nat} (h : Q a s) :
    Leaves budget Q R ⟨s, .done a spent⟩ := by
  refine ⟨?_, fun hr => ?_⟩
  · rintro b more hr
    cases hr
    exact h
  · contradiction

/-- A task has been dropped. -/
theorem of_dropped {s : σ} (hb : budget ≠ none) (h : R s) :
    Leaves budget Q R ⟨s, .dropped⟩ := by
  refine ⟨fun b more hr => ?_, fun _ => ⟨hb, h⟩⟩
  contradiction

/-- A condition that follows from either one holds of the state in any case. -/
theorem state {S : σ → Prop} {r : Ran σ α} (h : Leaves budget Q R r) (hQ : ∀ a s, Q a s → S s)
    (hR : ∀ s, R s → S s) : S r.state := by
  cases hr : r.outcome with
  | done a spent => exact hQ a _ (h.done a spent hr)
  | dropped => exact hR _ (h.dropped hr).2

/-- What is left does not depend on when a task began. -/
theorem later {budget' : Option Nat} {r : Ran σ α} (h : Leaves budget' Q R r) (spent : Nat)
    (hb : budget = none → budget' = none) :
    Leaves budget Q R ⟨r.state, Outcome.later spent r.outcome⟩ := by
  cases hr : r.outcome with
  | done a more => exact of_done (h.done a more hr)
  | dropped =>
    obtain ⟨hb', hs⟩ := h.dropped hr
    exact of_dropped (fun hn => hb' (hb hn)) hs

/-- Without a deadline a task ends. -/
theorem exists_done {r : Ran σ α} (h : Leaves none Q R r) :
    ∃ a spent, r.outcome = .done a spent ∧ Q a r.state := by
  cases hr : r.outcome with
  | done a spent => exact ⟨a, spent, rfl, h.done a spent hr⟩
  | dropped => exact absurd rfl (h.dropped hr).1

end Leaves

namespace Triple

variable {P P' : σ → Prop} {Q Q' : α → σ → Prop} {R R' : σ → Prop} {t : Task σ α}

/-- Conditions may be weakened afterwards and strengthened before. -/
theorem conseq (h : Triple P t Q R) (hP : ∀ s, P' s → P s) (hQ : ∀ a s, Q a s → Q' a s)
    (hR : ∀ s, R s → R' s) : Triple P' t Q' R' := by
  intro budget s hs
  have hl := h budget s (hP s hs)
  refine ⟨fun a spent hr => hQ a _ (hl.done a spent hr), fun hr => ?_⟩
  obtain ⟨hb, hd⟩ := hl.dropped hr
  exact ⟨hb, hR _ hd⟩

/-- Less may be said of what a dropped task leaves. -/
theorem mono_dropped (h : Triple P t Q R) (hR : ∀ s, R s → R' s) : Triple P t Q R' :=
  h.conseq (fun _ hs => hs) (fun _ _ hs => hs) hR

/-- A task may be looked at from one state at a time. -/
theorem of_forall (h : ∀ s, P s → Triple (fun s' => s' = s) t Q R) : Triple P t Q R :=
  fun budget s hs => h s hs budget s rfl

/-- Giving a value. -/
theorem pure {a : α} (h : ∀ s, P s → Q a s) : Triple P (Pure.pure a : Task σ α) Q R :=
  fun _ s hs => Leaves.of_done (h s hs)

/-- Waiting leaves the state alone, in time or not. -/
theorem wait (duration : Nat) : Triple P (Task.wait duration) (fun _ => P) P := by
  intro budget s hs
  unfold Task.wait
  split
  · exact Leaves.of_done hs
  · rename_i hfit
    refine Leaves.of_dropped ?_ hs
    rintro rfl
    exact hfit rfl

/-- Acting at once. -/
theorem act {f : σ → α × σ} (h : ∀ s, P s → Q (f s).1 (f s).2) : Triple P (Task.act f) Q R :=
  fun _ s hs => Leaves.of_done (h s hs)

/-- One task after the other. -/
theorem bind {S : β → σ → Prop} {f : α → Task σ β} (ht : Triple P t Q R)
    (hf : ∀ a, Triple (Q a) (f a) S R) : Triple P (t >>= f) S R := by
  intro budget s hs
  have hl := ht budget s hs
  cases hr : t budget s with
  | mk s' outcome =>
    rw [hr] at hl
    cases outcome with
    | dropped =>
      rw [bind_of_dropped hr]
      obtain ⟨hb, hd⟩ := hl.dropped rfl
      exact Leaves.of_dropped hb hd
    | done a spent =>
      rw [bind_of_done hr]
      have hk := hf a (budget.map (· - spent)) s' (hl.done a spent rfl)
      refine hk.later spent ?_
      rintro rfl
      rfl

/-- One task after the other, of which the first gives a result or fails. -/
theorem bind_except {ε : Type} {t : Task σ (Except ε α)} {Q : Except ε α → σ → Prop}
    {S : β → σ → Prop} {f : Except ε α → Task σ β} (ht : Triple P t Q R)
    (herror : ∀ e, Triple (Q (.error e)) (f (.error e)) S R)
    (hok : ∀ a, Triple (Q (.ok a)) (f (.ok a)) S R) : Triple P (t >>= f) S R := by
  refine ht.bind fun r => ?_
  cases r with
  | error e => exact herror e
  | ok a => exact hok a

/-- A task on a part of the state. -/
theorem focus {get : τ → σ} {set : τ → σ → τ} (hset : ∀ x s, get (set x s) = s)
    (h : Triple P t Q R) :
    Triple (fun x => P (get x)) (Task.focus get set t) (fun a x => Q a (get x))
      (fun x => R (get x)) := by
  intro budget x hx
  have hl := h budget (get x) hx
  unfold Task.focus
  refine ⟨fun a spent hr => ?_, fun hr => ?_⟩
  · rw [hset]
    exact hl.done a spent hr
  · rw [hset]
    exact hl.dropped hr

/-! ## Tasks side by side -/

/-- What each task keeps, ended or dropped, all of them keep. -/
theorem all_state {f : ι → Task σ Unit} {B : List ι → σ → Prop}
    (hB : ∀ c cs, Triple (B (c :: cs)) (f c) (fun _ => B cs) (B cs)) (cs : List ι)
    (budget : Option Nat) (s : σ) (hs : B cs s) :
    B [] (Task.all (cs.map f) budget s).state := by
  induction cs generalizing s with
  | nil => exact hs
  | cons c cs ih =>
    have hfirst := (hB c cs budget s hs).state (fun _ _ h => h) fun _ h => h
    exact ih _ hfirst

/-- **Tasks side by side.** While the tasks end they keep the strong invariant `A`, which shrinks
with the list of those still to come; a dropped task leaves the weak invariant `B`, and all others
keep that. -/
theorem all {f : ι → Task σ Unit} {A B : List ι → σ → Prop}
    (hA : ∀ c cs, Triple (A (c :: cs)) (f c) (fun _ => A cs) (B cs))
    (hB : ∀ c cs, Triple (B (c :: cs)) (f c) (fun _ => B cs) (B cs)) (cs : List ι) :
    Triple (A cs) (Task.all (cs.map f)) (fun _ => A []) (B []) := by
  induction cs with
  | nil => exact pure fun s hs => hs
  | cons c cs ih =>
    intro budget s hs
    have hfirst := hA c cs budget s hs
    simp only [List.map_cons, Task.all]
    cases hr : (f c budget s).outcome with
    | dropped =>
      -- The others still run, but all that is kept from here on is the weak invariant.
      obtain ⟨hb, hstate⟩ := hfirst.dropped hr
      exact Leaves.of_dropped hb (all_state hB cs budget _ hstate)
    | done u spent =>
      have hrest := ih budget _ (hfirst.done u spent hr)
      cases hr' : (Task.all (cs.map f) budget (f c budget s).state).outcome with
      | dropped =>
        obtain ⟨hb, hstate⟩ := hrest.dropped hr'
        exact Leaves.of_dropped hb hstate
      | done u' spent' => exact Leaves.of_done (hrest.done u' spent' hr')

end Triple

/-! ## Tasks that end in time -/

/-- The task ends within the duration under every budget into which the duration fits. -/
def Prompt (duration : Nat) (t : Task σ α) : Prop :=
  ∀ budget s, fits duration budget = true →
    ∃ a spent, (t budget s).outcome = .done a spent ∧ spent ≤ duration

/-- Waiting and then acting takes the time of the wait. -/
theorem Prompt.wait_act (duration : Nat) (f : σ → α × σ) :
    Prompt duration (do Task.wait duration; Task.act f) := by
  intro budget s hfit
  refine ⟨(f s).1, duration, ?_, Nat.le_refl _⟩
  change (Task.bind (Task.wait duration) (fun _ => Task.act f) budget s).outcome = _
  unfold Task.bind Task.wait
  rw [if_pos hfit]
  rfl

/-- A part of the state takes no time. -/
theorem Prompt.focus {duration : Nat} {t : Task σ α} (h : Prompt duration t) (get : τ → σ)
    (set : τ → σ → τ) : Prompt duration (Task.focus get set t) :=
  fun budget x hfit => h budget (get x) hfit

/-- **Under a deadline.** If the task ends in time under some assumption, then it is dropped at a
deadline of its own only where the assumption fails. -/
theorem Triple.within_prompt {P : σ → Prop} {Q : α → σ → Prop} {R : σ → Prop} {t : Task σ α}
    {assumption : Prop} (h : Triple P t Q R) (limit : Nat)
    (hp : assumption → ∃ duration ≤ limit, Prompt duration t) :
    Triple P (Task.within limit t)
      (fun o s => o.elim (R s ∧ ¬ assumption) fun a => Q a s) R := by
  intro budget s hs
  unfold Task.within
  -- The deadline of the task or that of its surroundings comes first.
  split
  · have hl := h (some limit) s hs
    cases hr : t (some limit) s with
    | mk s' outcome =>
      rw [hr] at hl
      cases outcome with
      | done a spent => exact Leaves.of_done (hl.done a spent rfl)
      | dropped =>
        refine Leaves.of_done ⟨(hl.dropped rfl).2, fun ha => ?_⟩
        obtain ⟨duration, hle, hprompt⟩ := hp ha
        obtain ⟨a, spent, hdone, -⟩ := hprompt (some limit) s (decide_eq_true hle)
        rw [hr] at hdone
        contradiction
  · have hl := h budget s hs
    cases hr : t budget s with
    | mk s' outcome =>
      rw [hr] at hl
      cases outcome with
      | done a spent => exact Leaves.of_done (hl.done a spent rfl)
      | dropped =>
        obtain ⟨hb, hd⟩ := hl.dropped rfl
        exact Leaves.of_dropped hb hd

end Task

end ExpenseLedger
