import ExpenseLedger.Proofs.Task.Akin
/-!
# Tasks that fare alike

Two tasks fare alike if from related states, under the same budget, they give the same value after
the same time or are dropped at the same deadline, and leave related states. In other words, they are
akin where only equal values are related, and so the rules here come from those for tasks that are
akin. A task that fares like itself between states that agree on some part reads nothing else.
-/

namespace ExpenseLedger

variable {σ τ σ' τ' α β : Type}

namespace Task

/-- Both tasks, run from related states, do the same and leave related states. -/
def Alike (R : τ → σ → Prop) (t : Task τ α) (u : Task σ α) : Prop :=
  ∀ budget x s, R x s →
    (t budget x).outcome = (u budget s).outcome ∧ R (t budget x).state (u budget s).state

namespace Alike

variable {R : τ → σ → Prop} {t : Task τ α} {u : Task σ α}

/-- Tasks that fare alike are akin. -/
theorem akin (h : Alike R t u) : Akin R Eq t u := by
  intro budget x s hs
  obtain ⟨houtcome, hstate⟩ := h budget x s hs
  rw [houtcome]
  exact ⟨.refl _, hstate⟩

/-- Tasks that are akin fare alike if they give the same values. -/
theorem of_akin (h : Akin R Eq t u) : Alike R t u := by
  intro budget x s hs
  obtain ⟨houtcome, hstate⟩ := h budget x s hs
  exact ⟨houtcome.eq, hstate⟩

/-- Giving a value. -/
theorem pure (R : τ → σ → Prop) (a : α) :
    Alike R (Pure.pure a : Task τ α) (Pure.pure a : Task σ α) := of_akin (.pure rfl)

/-- Acting at once. -/
theorem act {f : τ → α × τ} {g : σ → α × σ}
    (h : ∀ x s, R x s → (f x).1 = (g s).1 ∧ R (f x).2 (g s).2) :
    Alike R (Task.act f) (Task.act g) := of_akin (.act h)

/-- Waiting. -/
theorem wait (R : τ → σ → Prop) (duration : Nat) :
    Alike R (Task.wait duration) (Task.wait duration) := of_akin (.wait R duration)

/-- Tasks one after the other. -/
theorem bind {f : α → Task τ β} {g : α → Task σ β} (h : Alike R t u)
    (hf : ∀ a, Alike R (f a) (g a)) : Alike R (t >>= f) (u >>= g) := by
  refine of_akin (h.akin.bind ?_)
  rintro a b rfl
  exact (hf a).akin

/-- Tasks one after the other, of which the first gives a result or fails. -/
theorem bind_except {ε : Type} {t : Task τ (Except ε α)} {u : Task σ (Except ε α)}
    {f : Except ε α → Task τ β} {g : Except ε α → Task σ β} (h : Alike R t u)
    (herror : ∀ e, Alike R (f (.error e)) (g (.error e)))
    (hok : ∀ a, Alike R (f (.ok a)) (g (.ok a))) : Alike R (t >>= f) (u >>= g) := by
  refine h.bind fun r => ?_
  cases r with
  | error e => exact herror e
  | ok a => exact hok a

/-- Tasks under a deadline of their own. -/
theorem within (h : Alike R t u) (limit : Nat) :
    Alike R (Task.within limit t) (Task.within limit u) := by
  refine of_akin ((h.akin.within limit).mono fun r r' hr => ?_)
  cases hr with
  | some hvalue => rw [hvalue]
  | none => rfl

/-- Tasks on a part of the state. -/
theorem focus {R' : τ' → σ' → Prop} {get : τ' → τ} {set : τ' → τ → τ'} {get' : σ' → σ}
    {set' : σ' → σ → σ'} (h : Alike R t u) (hget : ∀ x s, R' x s → R (get x) (get' s))
    (hset : ∀ x s y z, R' x s → R y z → R' (set x y) (set' s z)) :
    Alike R' (Task.focus get set t) (Task.focus get' set' u) :=
  of_akin (h.akin.focus hget hset)

end Alike

end Task

end ExpenseLedger
