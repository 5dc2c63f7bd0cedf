import ExpenseLedger.Proofs.Task.Triple
import Mathlib.Data.ENat.Basic
/-!
# How long tasks take

A task that is built from waits and acts takes a time of its own: under every budget into which that
time fits it is the same run, and under every other budget it is dropped (`Task.Takes`). A deadline
cuts off what exceeds it and nothing else, so a task under a deadline takes the lesser of its own
time and the deadline. There is one rule for each way to build a task, once for the exact time and
once for a bound on it (`Task.EndsWithin`).
-/

namespace ExpenseLedger

variable {σ τ α β ι : Type}

namespace Task

/-! ## Budgets -/

/-- Two durations fit one after the other if they fit into what is left each time. -/
theorem fits_add (d e : Nat) (budget : Option Nat) :
    fits (d + e) budget = true ↔
      fits d budget = true ∧ fits e (budget.map (· - d)) = true := by
  cases budget with
  | none => simp [fits]
  | some n =>
    simp only [fits, Option.map_some, decide_eq_true_eq]
    omega

/-- Of two durations the longer fits if both fit. -/
theorem fits_max (d e : Nat) (budget : Option Nat) :
    fits (max d e) budget = true ↔ fits d budget = true ∧ fits e budget = true := by
  cases budget with
  | none => simp [fits]
  | some n =>
    simp only [fits, decide_eq_true_eq]
    omega

/-- What fits leaves room for what takes no longer. -/
theorem fits_mono {d e : Nat} (h : e ≤ d) {budget : Option Nat} (hd : fits d budget = true) :
    fits e budget = true := by
  cases budget with
  | none => rfl
  | some n =>
    simp only [fits, decide_eq_true_eq] at hd ⊢
    omega

/-! ## The time of a run -/

/-- From the state the task takes a time, gives a value and leaves a state. With less time it is
dropped. -/
structure Takes (t : Task σ α) (s : σ) (duration : Nat) (a : α) (s' : σ) : Prop where
  /-- With enough time the task ends. -/
  done : ∀ budget, fits duration budget = true → t budget s = ⟨s', .done a duration⟩
  /-- With less time the task is dropped. -/
  dropped : ∀ budget, fits duration budget = false → (t budget s).outcome = .dropped

namespace Takes

variable {t : Task σ α} {s s' s'' : σ} {d e : Nat} {a : α} {b : β}

/-- Without a deadline the task ends. -/
theorem run (h : Takes t s d a s') : t none s = ⟨s', .done a d⟩ := h.done none rfl

/-- What a triple says of the value and the state. -/
theorem of_triple {P : σ → Prop} {Q : α → σ → Prop} {R : σ → Prop} (h : Takes t s d a s')
    (ht : Triple P t Q R) (hs : P s) : Q a s' := by
  have hleaves := ht none s hs
  rw [h.run] at hleaves
  exact hleaves.done a d rfl

/-- A task has one run. -/
theorem unique {a' : α} (h : Takes t s d a s') (h' : Takes t s e a' s'') :
    d = e ∧ a = a' ∧ s' = s'' := by
  have heq := h.run.symm.trans h'.run
  cases heq
  exact ⟨rfl, rfl, rfl⟩

/-- Giving a value takes no time. -/
theorem pure (a : α) (s : σ) : Takes (Pure.pure a : Task σ α) s 0 a s := by
  refine ⟨fun _ _ => rfl, fun budget h => ?_⟩
  cases budget with
  | none => contradiction
  | some n => simp [fits] at h

/-- Acting takes no time. -/
theorem act (f : σ → α × σ) (s : σ) : Takes (Task.act f) s 0 (f s).1 (f s).2 := by
  refine ⟨fun _ _ => rfl, fun budget h => ?_⟩
  cases budget with
  | none => contradiction
  | some n => simp [fits] at h

/-- Waiting takes its time. -/
theorem wait (duration : Nat) (s : σ) : Takes (Task.wait duration) s duration () s := by
  refine ⟨fun budget h => if_pos h, fun budget h => ?_⟩
  unfold Task.wait
  rw [if_neg (by simp [h])]

/-- One task after the other takes the time of both. -/
theorem bind {f : α → Task σ β} (ht : Takes t s d a s') (hf : Takes (f a) s' e b s'') :
    Takes (t >>= f) s (d + e) b s'' := by
  refine ⟨fun budget h => ?_, fun budget h => ?_⟩
  · obtain ⟨hd, he⟩ := (fits_add d e budget).1 h
    rw [bind_of_done (ht.done budget hd), hf.done _ he]
    rfl
  · cases hd : fits d budget with
    | false =>
      have hdropped := ht.dropped budget hd
      cases hr : t budget s with
      | mk x outcome =>
        rw [hr] at hdropped
        cases hdropped
        rw [bind_of_dropped hr]
    | true =>
      -- The first task ends, so it is the second that finds too little time left.
      have he : fits e (budget.map (· - d)) = false := by
        rw [← Bool.not_eq_true]
        intro he
        rw [(fits_add d e budget).2 ⟨hd, he⟩] at h
        contradiction
      rw [bind_of_done (ht.done budget hd)]
      change Outcome.later d (f a (budget.map (· - d)) s').outcome = .dropped
      rw [hf.dropped _ he]
      rfl

/-- What follows at once takes no more time. -/
theorem bind_instant {f : α → Task σ β} (ht : Takes t s d a s') (hf : Takes (f a) s' 0 b s'') :
    Takes (t >>= f) s d b s'' := ht.bind hf

/-- What is done at once takes no time from what follows. -/
theorem instant_bind {f : α → Task σ β} (ht : Takes t s 0 a s') (hf : Takes (f a) s' e b s'') :
    Takes (t >>= f) s e b s'' := by
  have h := ht.bind hf
  rw [Nat.zero_add] at h
  exact h

/-- A task that ends before its deadline takes its own time. -/
theorem within (h : Takes t s d a s') {limit : Nat} (hle : d ≤ limit) :
    Takes (Task.within limit t) s d (some a) s' := by
  have hlimit := h.done (some limit) (decide_eq_true hle)
  refine ⟨fun budget hfit => ?_, fun budget hfit => ?_⟩
  · unfold Task.within
    split
    · rw [hlimit]
    · rw [h.done budget hfit]
  · unfold Task.within
    split
    · rename_i hroom
      rw [fits_mono hle hroom] at hfit
      contradiction
    · have hdropped := h.dropped budget hfit
      cases hr : t budget s with
      | mk x outcome =>
        rw [hr] at hdropped
        cases hdropped
        rfl

/-- A task that does not end before its deadline takes the time of the deadline. -/
theorem within_late (h : Takes t s d a s') {limit : Nat} (hlt : limit < d) :
    Takes (Task.within limit t) s limit none (t (some limit) s).state := by
  have hlimit := h.dropped (some limit) (decide_eq_false (by omega))
  refine ⟨fun budget hfit => ?_, fun budget hfit => ?_⟩
  · unfold Task.within
    rw [if_pos hfit]
    cases hr : t (some limit) s with
    | mk x outcome =>
      rw [hr] at hlimit
      cases hlimit
      rfl
  · have hd : fits d budget = false := by
      rw [← Bool.not_eq_true] at hfit ⊢
      exact mt (fits_mono (Nat.le_of_lt hlt)) hfit
    have hdropped := h.dropped budget hd
    unfold Task.within
    rw [if_neg (by simp [hfit])]
    cases hr : t budget s with
    | mk x outcome =>
      rw [hr] at hdropped
      cases hdropped
      rfl

/-- A task on a part of the state. -/
theorem focus {get : τ → σ} {set : τ → σ → τ} {x : τ} (h : Takes t (get x) d a s') :
    Takes (Task.focus get set t) x d a (set x s') := by
  refine ⟨fun budget hfit => ?_, fun budget hfit => h.dropped budget hfit⟩
  change (⟨set x (t budget (get x)).state, (t budget (get x)).outcome⟩ : Ran τ α) = _
  rw [h.done budget hfit]

/-- Tasks side by side take the time of the longest. -/
theorem all_cons {t : Task σ Unit} {ts : List (Task σ Unit)} (ht : Takes t s d () s')
    (hts : Takes (Task.all ts) s' e () s'') : Takes (Task.all (t :: ts)) s (max d e) () s'' := by
  refine ⟨fun budget h => ?_, fun budget h => ?_⟩
  · obtain ⟨hd, he⟩ := (fits_max d e budget).1 h
    change (⟨(Task.all ts budget (t budget s).state).state, join (t budget s).outcome
      (Task.all ts budget (t budget s).state).outcome⟩ : Ran σ Unit) = _
    rw [ht.done budget hd, hts.done budget he]
    rfl
  · change join (t budget s).outcome (Task.all ts budget (t budget s).state).outcome = .dropped
    cases hd : fits d budget with
    | false =>
      rw [ht.dropped budget hd]
      rfl
    | true =>
      have he : fits e budget = false := by
        rw [← Bool.not_eq_true]
        intro he
        rw [(fits_max d e budget).2 ⟨hd, he⟩] at h
        contradiction
      rw [ht.done budget hd, hts.dropped budget he]
      rfl

end Takes

/-! ## Bounds -/

/-- From every state the task takes a time of its own, and that time is bounded. The bound is `⊤`
where nothing is known but that the task ends. -/
def EndsWithin (bound : ℕ∞) (t : Task σ α) : Prop :=
  ∀ s, ∃ d a s', Takes t s d a s' ∧ (d : ℕ∞) ≤ bound

namespace EndsWithin

variable {t : Task σ α} {m n : ℕ∞}

/-- A bound can be raised. -/
theorem mono (h : EndsWithin m t) (hle : m ≤ n) : EndsWithin n t := by
  intro s
  obtain ⟨d, a, s', ht, hd⟩ := h s
  exact ⟨d, a, s', ht, hd.trans hle⟩

/-- Giving a value takes no time. -/
theorem pure (a : α) : EndsWithin n (Pure.pure a : Task σ α) :=
  fun s => ⟨0, a, s, .pure a s, by simp⟩

/-- Acting takes no time. -/
theorem act (f : σ → α × σ) : EndsWithin n (Task.act f) :=
  fun s => ⟨0, (f s).1, (f s).2, .act f s, by simp⟩

/-- One task after the other. -/
theorem bind {f : α → Task σ β} (ht : EndsWithin m t) (hf : ∀ a, EndsWithin n (f a)) :
    EndsWithin (m + n) (t >>= f) := by
  intro s
  obtain ⟨d, a, s', ht, hd⟩ := ht s
  obtain ⟨e, b, s'', hf, he⟩ := hf a s'
  refine ⟨d + e, b, s'', ht.bind hf, ?_⟩
  rw [Nat.cast_add]
  exact add_le_add hd he

/-- What follows at once takes no more time. -/
theorem bind_instant {f : α → Task σ β} (ht : EndsWithin m t)
    (hf : ∀ a, EndsWithin 0 (f a)) : EndsWithin m (t >>= f) := by
  have h := ht.bind hf
  rw [add_zero] at h
  exact h

/-- What is done at once takes no time from what follows. -/
theorem instant_bind {f : α → Task σ β} (ht : EndsWithin 0 t)
    (hf : ∀ a, EndsWithin n (f a)) : EndsWithin n (t >>= f) := by
  have h := ht.bind hf
  rw [zero_add] at h
  exact h

/-- Where no bound is asked for, none has to be given. -/
theorem bind_top {f : α → Task σ β} (ht : EndsWithin ⊤ t) (hf : ∀ a, EndsWithin ⊤ (f a)) :
    EndsWithin ⊤ (t >>= f) := ht.bind hf

/-- One task after the other, of which the first gives a result or fails. -/
theorem bind_except {ε : Type} {t : Task σ (Except ε α)} {f : Except ε α → Task σ β}
    (ht : EndsWithin m t) (herror : ∀ e, EndsWithin n (f (.error e)))
    (hok : ∀ a, EndsWithin n (f (.ok a))) : EndsWithin (m + n) (t >>= f) := by
  refine ht.bind fun r => ?_
  cases r with
  | error e => exact herror e
  | ok a => exact hok a

/-- A task under a deadline ends by then. -/
theorem within (h : EndsWithin n t) (limit : Nat) : EndsWithin limit (Task.within limit t) := by
  intro s
  obtain ⟨d, a, s', ht, -⟩ := h s
  rcases Nat.lt_or_ge limit d with hlt | hle
  · exact ⟨limit, none, _, ht.within_late hlt, le_rfl⟩
  · exact ⟨d, some a, s', ht.within hle, Nat.cast_le.2 hle⟩

/-- A deadline makes no task longer. -/
theorem within_le (h : EndsWithin n t) (limit : Nat) : EndsWithin n (Task.within limit t) := by
  intro s
  obtain ⟨d, a, s', ht, hd⟩ := h s
  rcases Nat.lt_or_ge limit d with hlt | hle
  · exact ⟨limit, none, _, ht.within_late hlt, (Nat.cast_le.2 hlt.le).trans hd⟩
  · exact ⟨d, some a, s', ht.within hle, hd⟩

/-- A task on a part of the state. -/
theorem focus (h : EndsWithin n t) (get : τ → σ) (set : τ → σ → τ) :
    EndsWithin n (Task.focus get set t) := by
  intro x
  obtain ⟨d, a, s', ht, hd⟩ := h (get x)
  exact ⟨d, a, set x s', ht.focus, hd⟩

/-- Tasks side by side keep a common bound. -/
theorem all {f : ι → Task σ Unit} (h : ∀ i, EndsWithin n (f i)) (is : List ι) :
    EndsWithin n (Task.all (is.map f)) := by
  induction is with
  | nil => exact pure ()
  | cons i is ih =>
    intro s
    obtain ⟨d, _, s', ht, hd⟩ := h i s
    obtain ⟨e, _, s'', hts, he⟩ := ih s'
    refine ⟨max d e, (), s'', ht.all_cons hts, ?_⟩
    rcases max_choice d e with hmax | hmax
    · rw [hmax]
      exact hd
    · rw [hmax]
      exact he

end EndsWithin

end Task

end ExpenseLedger
