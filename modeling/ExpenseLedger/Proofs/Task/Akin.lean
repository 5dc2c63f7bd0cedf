import ExpenseLedger.Error
import ExpenseLedger.Proofs.Task.Triple
/-!
# Tasks that are akin

Two tasks are akin if from related states, under the same budget, they end after the same time with
related values or are dropped at the same deadline, and leave related states. The relations are
parameters: one between the states, and one between the values, which need not be of one type. There
is one rule for each way to build a task.
-/

namespace ExpenseLedger

variable {σ τ σ' τ' α β α' β' ι : Type}

/-- Both outcomes are values, given after the same time, or both tasks have been dropped. -/
inductive Outcome.Akin (V : α → β → Prop) : Outcome α → Outcome β → Prop where
  /-- Both have given values. -/
  | done {a : α} {b : β} (h : V a b) (spent : Nat) : Akin V (.done a spent) (.done b spent)
  /-- Both have been dropped. -/
  | dropped : Akin V .dropped .dropped

namespace Outcome.Akin

variable {V : α → β → Prop}

/-- Outcomes, seen from an earlier instant. -/
theorem later {o : Outcome α} {o' : Outcome β} (h : Akin V o o') (spent : Nat) :
    Akin V (o.later spent) (o'.later spent) := by
  cases h with
  | done h more => exact .done h _
  | dropped => exact .dropped

/-- Values may be related in more ways. -/
theorem mono {V' : α → β → Prop} {o : Outcome α} {o' : Outcome β} (h : Akin V o o')
    (hV : ∀ a b, V a b → V' a b) : Akin V' o o' := by
  cases h with
  | done h spent => exact .done (hV _ _ h) spent
  | dropped => exact .dropped

/-- Outcomes with the same values are the same. -/
theorem eq {o o' : Outcome α} (h : Akin Eq o o') : o = o' := by
  cases h with
  | done h spent => rw [h]
  | dropped => rfl

/-- An outcome is akin to itself. -/
theorem refl (o : Outcome α) : Akin Eq o o := by
  cases o with
  | done a spent => exact .done rfl spent
  | dropped => exact .dropped

end Outcome.Akin

namespace Task

/-- Both tasks, run from related states, end alike and leave related states. -/
def Akin (R : τ → σ → Prop) (V : α → β → Prop) (t : Task τ α) (u : Task σ β) : Prop :=
  ∀ budget x s, R x s →
    Outcome.Akin V (t budget x).outcome (u budget s).outcome ∧
      R (t budget x).state (u budget s).state

namespace Akin

variable {R : τ → σ → Prop} {V : α → β → Prop} {W : α' → β' → Prop} {t : Task τ α} {u : Task σ β}

/-- Giving a value. -/
theorem pure {a : α} {b : β} (h : V a b) :
    Akin R V (Pure.pure a : Task τ α) (Pure.pure b : Task σ β) :=
  fun _ _ _ hs => ⟨.done h 0, hs⟩

/-- A task is akin to itself. -/
theorem refl (t : Task σ β) : Akin Eq Eq t t := by
  rintro budget s s' rfl
  exact ⟨.refl _, rfl⟩

/-- Acting at once. -/
theorem act {f : τ → α × τ} {g : σ → β × σ}
    (h : ∀ x s, R x s → V (f x).1 (g s).1 ∧ R (f x).2 (g s).2) :
    Akin R V (Task.act f) (Task.act g) := by
  intro budget x s hs
  obtain ⟨hvalue, hstate⟩ := h x s hs
  exact ⟨.done hvalue 0, hstate⟩

/-- Waiting. -/
theorem wait (R : τ → σ → Prop) (duration : Nat) :
    Akin R Eq (Task.wait duration) (Task.wait duration) := by
  intro budget x s hs
  unfold Task.wait
  split
  · exact ⟨.done rfl duration, hs⟩
  · exact ⟨.dropped, hs⟩

/-- Values may be related in more ways. -/
theorem mono {V' : α → β → Prop} (h : Akin R V t u) (hV : ∀ a b, V a b → V' a b) :
    Akin R V' t u := by
  intro budget x s hs
  obtain ⟨houtcome, hstate⟩ := h budget x s hs
  exact ⟨houtcome.mono hV, hstate⟩

/-- What can become of two tasks that are akin: both end with related values at one time, or both
are dropped. -/
theorem cases (h : Akin R V t u) (budget : Option Nat) {x : τ} {s : σ} (hs : R x s) :
    (∃ x' s' a b spent, t budget x = ⟨x', .done a spent⟩ ∧ u budget s = ⟨s', .done b spent⟩ ∧
      V a b ∧ R x' s') ∨
    ∃ x' s', t budget x = ⟨x', .dropped⟩ ∧ u budget s = ⟨s', .dropped⟩ ∧ R x' s' := by
  obtain ⟨houtcome, hstate⟩ := h budget x s hs
  rcases ht : t budget x with ⟨x', outcome⟩
  rcases hu : u budget s with ⟨s', outcome'⟩
  rw [ht, hu] at houtcome hstate
  cases houtcome with
  | done hvalue spent => exact .inl ⟨x', s', _, _, spent, rfl, rfl, hvalue, hstate⟩
  | dropped => exact .inr ⟨x', s', rfl, rfl, hstate⟩

/-- Tasks one after the other. -/
theorem bind {f : α → Task τ α'} {g : β → Task σ β'} (h : Akin R V t u)
    (hf : ∀ a b, V a b → Akin R W (f a) (g b)) : Akin R W (t >>= f) (u >>= g) := by
  intro budget x s hs
  rcases h.cases budget hs with ⟨x', s', a, b, spent, ht, hu, hvalue, hstate⟩ |
    ⟨x', s', ht, hu, hstate⟩
  · rw [bind_of_done ht, bind_of_done hu]
    obtain ⟨hnext, hlast⟩ := hf a b hvalue (budget.map (· - spent)) x' s' hstate
    exact ⟨hnext.later spent, hlast⟩
  · rw [bind_of_dropped ht, bind_of_dropped hu]
    exact ⟨.dropped, hstate⟩

/-- A task of which only what is made of its value is of interest. -/
theorem map_left {W : α' → β → Prop} {f : α → α'} (h : Akin R V t u)
    (hf : ∀ a b, V a b → W (f a) b) : Akin R W (t >>= fun a => Pure.pure (f a)) u := by
  intro budget x s hs
  rcases h.cases budget hs with ⟨x', s', a, b, spent, ht, hu, hvalue, hstate⟩ |
    ⟨x', s', ht, hu, hstate⟩
  · rw [bind_of_done ht, hu]
    exact ⟨.done (hf a b hvalue) spent, hstate⟩
  · rw [bind_of_dropped ht, hu]
    exact ⟨.dropped, hstate⟩

/-- Tasks under a deadline of their own. -/
theorem within (h : Akin R V t u) (limit : Nat) :
    Akin R (Option.Rel V) (Task.within limit t) (Task.within limit u) := by
  intro budget x s hs
  unfold Task.within
  -- Both run under the same one of the two deadlines.
  split
  · rcases h.cases (some limit) hs with ⟨x', s', a, b, spent, ht, hu, hvalue, hstate⟩ |
      ⟨x', s', ht, hu, hstate⟩
    · rw [ht, hu]
      exact ⟨.done (.some hvalue) spent, hstate⟩
    · rw [ht, hu]
      exact ⟨.done .none limit, hstate⟩
  · rcases h.cases budget hs with ⟨x', s', a, b, spent, ht, hu, hvalue, hstate⟩ |
      ⟨x', s', ht, hu, hstate⟩
    · rw [ht, hu]
      exact ⟨.done (.some hvalue) spent, hstate⟩
    · rw [ht, hu]
      exact ⟨.dropped, hstate⟩

/-- Tasks on a part of the state. -/
theorem focus {R' : τ' → σ' → Prop} {get : τ' → τ} {set : τ' → τ → τ'} {get' : σ' → σ}
    {set' : σ' → σ → σ'} (h : Akin R V t u) (hget : ∀ x s, R' x s → R (get x) (get' s))
    (hset : ∀ x s y z, R' x s → R y z → R' (set x y) (set' s z)) :
    Akin R' V (Task.focus get set t) (Task.focus get' set' u) := by
  intro budget x s hs
  obtain ⟨houtcome, hstate⟩ := h budget (get x) (get' s) (hget x s hs)
  exact ⟨houtcome, hset x s _ _ hs hstate⟩

/-- Tasks side by side. -/
theorem all {f : ι → Task τ Unit} {g : ι → Task σ Unit} (h : ∀ i, Akin R Eq (f i) (g i))
    (is : List ι) : Akin R Eq (Task.all (is.map f)) (Task.all (is.map g)) := by
  induction is with
  | nil => exact pure rfl
  | cons i is ih =>
    intro budget x s hs
    obtain ⟨hfirst, hnext⟩ := h i budget x s hs
    obtain ⟨hrest, hlast⟩ := ih budget _ _ hnext
    simp only [List.map_cons, Task.all]
    rw [hfirst.eq, hrest.eq]
    exact ⟨.refl _, hlast⟩

end Akin

end Task

/-! ## Results -/

/-- Both results are the same value, or errors that are related. -/
inductive ResultAkin (E : Error → Error → Prop) : Except Error α → Except Error α → Prop where
  /-- The same value. -/
  | ok (a : α) : ResultAkin E (.ok a) (.ok a)
  /-- Related errors. -/
  | error {e e' : Error} (h : E e e') : ResultAkin E (.error e) (.error e')

/-- Results with the same errors are the same. -/
theorem ResultAkin.eq {r r' : Except Error α} (h : ResultAkin Eq r r') : r = r' := by
  cases h with
  | ok a => rfl
  | error h => rw [h]

/-- A result is akin to itself if its errors are related to themselves. -/
theorem ResultAkin.refl {E : Error → Error → Prop} (hE : ∀ e, E e e) (r : Except Error α) :
    ResultAkin E r r := by
  cases r with
  | ok a => exact .ok a
  | error e => exact .error (hE e)

/-- What is made of the values of results. -/
theorem ResultAkin.map {E : Error → Error → Prop} {r r' : Except Error α} (h : ResultAkin E r r')
    (f : α → β) : ResultAkin E (r.map f) (r'.map f) := by
  cases h with
  | ok a => exact .ok (f a)
  | error h => exact .error h

/-- Tasks one after the other, of which the first gives a result or fails. -/
theorem Task.Akin.bind_except {R : τ → σ → Prop} {W : α' → β' → Prop} {E : Error → Error → Prop}
    {t : Task τ (Except Error α)} {u : Task σ (Except Error α)}
    {f : Except Error α → Task τ α'} {g : Except Error α → Task σ β'}
    (h : Akin R (ResultAkin E) t u)
    (herror : ∀ e e', E e e' → Akin R W (f (.error e)) (g (.error e')))
    (hok : ∀ a, Akin R W (f (.ok a)) (g (.ok a))) : Akin R W (t >>= f) (u >>= g) := by
  refine h.bind fun r r' hr => ?_
  cases hr with
  | error he => exact herror _ _ he
  | ok a => exact hok a

end ExpenseLedger
