import ExpenseLedger.Proofs.Task.Alike
/-!
# Tasks that mirror tasks

A state may hold more than another, such as a record of what has happened to it. A task on the
larger state mirrors one on the smaller if forgetting the surplus turns every run of the one into
the run of the other under the same budget: the same values, the same times, and deadlines that
strike at the same points. In other words, the two fare alike if a state is related to what is left
when the surplus is forgotten, so that the rules here follow from those of tasks that fare alike.
-/

namespace ExpenseLedger

variable {σ τ σ' τ' α β : Type}

/-- What a task has left, seen through a map of states. -/
def Ran.map (forget : τ → σ) (r : Ran τ α) : Ran σ α := ⟨forget r.state, r.outcome⟩

namespace Task

/-- Forgetting the surplus, every run of the first task is the run of the second. -/
def Mirrors (forget : τ → σ) (t : Task τ α) (u : Task σ α) : Prop :=
  ∀ budget x, (t budget x).map forget = u budget (forget x)

namespace Mirrors

variable {forget : τ → σ} {t : Task τ α} {u : Task σ α}

/-- A mirroring task leaves what it mirrors leaves. -/
theorem state_eq (h : Mirrors forget t u) (budget : Option Nat) (x : τ) :
    forget (t budget x).state = (u budget (forget x)).state := by
  rw [← h budget x]
  rfl

/-- A mirroring task fares as what it mirrors. -/
theorem outcome_eq (h : Mirrors forget t u) (budget : Option Nat) (x : τ) :
    (t budget x).outcome = (u budget (forget x)).outcome := by
  rw [← h budget x]
  rfl

/-- Tasks that mirror each other fare alike. -/
theorem alike (h : Mirrors forget t u) : Alike (fun x s => forget x = s) t u := by
  rintro budget x s rfl
  exact ⟨h.outcome_eq budget x, h.state_eq budget x⟩

/-- Tasks that fare alike mirror each other. -/
theorem of_alike (h : Alike (fun x s => forget x = s) t u) : Mirrors forget t u := by
  intro budget x
  obtain ⟨houtcome, hstate⟩ := h budget x (forget x) rfl
  unfold Ran.map
  rw [houtcome, hstate]

/-- Tasks that are akin mirror each other if each state is related to what is left of it, and to
nothing else, and only equal values are related. -/
theorem of_akin {R : τ → σ → Prop} {V : α → α → Prop} (h : Akin R V t u)
    (hself : ∀ x, R x (forget x)) (hR : ∀ x s, R x s → forget x = s)
    (hV : ∀ a b, V a b → a = b) : Mirrors forget t u := by
  intro budget x
  obtain ⟨houtcome, hstate⟩ := h budget x (forget x) (hself x)
  unfold Ran.map
  rw [(houtcome.mono hV).eq, hR _ _ hstate]

/-- A mirroring task is akin to what it mirrors. -/
theorem akin {t : Task τ (Except Error α)} {u : Task σ (Except Error α)} (h : Mirrors forget t u) :
    Akin (fun x s => forget x = s) (ResultAkin Eq) t u := by
  refine h.alike.akin.mono ?_
  rintro r r' rfl
  exact .refl (fun _ => rfl) r

/-- Giving a value mirrors giving it. -/
theorem pure (forget : τ → σ) (a : α) :
    Mirrors forget (Pure.pure a : Task τ α) (Pure.pure a : Task σ α) :=
  of_alike (.pure _ a)

/-- Acting mirrors acting if it gives the same value and does the same to what is not forgotten. -/
theorem act {f : τ → α × τ} {g : σ → α × σ} (hvalue : ∀ x, (f x).1 = (g (forget x)).1)
    (hstate : ∀ x, forget (f x).2 = (g (forget x)).2) :
    Mirrors forget (Task.act f) (Task.act g) := by
  refine of_alike (.act ?_)
  rintro x s rfl
  exact ⟨hvalue x, hstate x⟩

/-- Waiting mirrors waiting. -/
theorem wait (forget : τ → σ) (duration : Nat) :
    Mirrors forget (Task.wait duration) (Task.wait duration) :=
  of_alike (.wait _ duration)

/-- Tasks one after the other. -/
theorem bind {f : α → Task τ β} {g : α → Task σ β} (h : Mirrors forget t u)
    (hf : ∀ a, Mirrors forget (f a) (g a)) : Mirrors forget (t >>= f) (u >>= g) :=
  of_alike (h.alike.bind fun a => (hf a).alike)

/-- Tasks on a part of the state. -/
theorem focus {forget' : τ' → σ'} {get : τ' → τ} {set : τ' → τ → τ'} {get' : σ' → σ}
    {set' : σ' → σ → σ'} (h : Mirrors forget t u)
    (hget : ∀ x, get' (forget' x) = forget (get x))
    (hset : ∀ x s, forget' (set x s) = set' (forget' x) (forget s)) :
    Mirrors forget' (Task.focus get set t) (Task.focus get' set' u) := by
  refine of_alike (h.alike.focus ?_ ?_)
  · rintro x s rfl
    exact (hget x).symm
  · rintro x s y z rfl rfl
    exact hset x y

end Mirrors

end Task

end ExpenseLedger
