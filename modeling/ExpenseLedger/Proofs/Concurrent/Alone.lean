import ExpenseLedger.Proofs.Concurrent.Convergence
import ExpenseLedger.Proofs.Engine.Batches
/-!
# A call that is alone

A call that reads a balance or records loans and has all turns to itself comes to an end, and the
store is then what it is after the call has been performed in one go. So taking turns is another way
of saying what calls do, and not another thing that they do: `Traffic.alone_comes_to_end`.
-/

open ExpenseLedger.Task

namespace ExpenseLedger

variable {τ α β ι : Type}

/-! ## Performing in one go -/

/-- From the one store the task gives the value and leaves the other store, and no time passes. -/
def Task.Performs (view : τ → Store) (t : Task τ α) (s : Store) (v : α) (s' : Store) : Prop :=
  ∀ budget x, view x = s → ∃ x', t budget x = ⟨x', .done v 0⟩ ∧ view x' = s'

namespace Task.Performs

variable {view : τ → Store} {t : Task τ α} {s s' s'' : Store} {v : α}

/-- Giving a value leaves the store as it is. -/
theorem pure (v : α) (s : Store) : Performs view (Pure.pure v : Task τ α) s v s :=
  fun _ x hx => ⟨x, rfl, hx⟩

/-- Going on after a value. -/
theorem bind {f : α → Task τ β} {w : β} (ht : Performs view t s v s')
    (hf : Performs view (f v) s' w s'') : Performs view (t >>= f) s w s'' := by
  intro budget x hx
  obtain ⟨x', hran, hx'⟩ := ht budget x hx
  obtain ⟨x'', hran', hx''⟩ := hf (budget.map (· - 0)) x' hx'
  refine ⟨x'', ?_, hx''⟩
  rw [bind_of_done hran, hran']
  rfl

/-- Nothing is cut short by a deadline. -/
theorem withDeadline {t : Task τ (Except Error α)} {v : Except Error α}
    (h : Performs view t s v s') (limit : Nat) :
    Performs view (Engine.withDeadline limit t) s v s' := by
  have hwithin : Performs view (Task.within limit t) s (some v) s' := by
    intro budget x hx
    unfold Task.within
    split
    · obtain ⟨x', hran, hx'⟩ := h (some limit) x hx
      exact ⟨x', by rw [hran], hx'⟩
    · obtain ⟨x', hran, hx'⟩ := h budget x hx
      exact ⟨x', by rw [hran], hx'⟩
  exact hwithin.bind (.pure v s')

/-- Tasks of the backends in the engine. -/
theorem onStore {t : Task Store α} (h : Performs id t s v s') :
    Performs Engine.store (Engine.onStore t) s v s' := by
  rintro budget e rfl
  obtain ⟨x', hran, rfl⟩ := h budget e.store rfl
  refine ⟨{ e with store := x' }, ?_, rfl⟩
  change (⟨_, (t budget e.store).outcome⟩ : Ran (Engine Store) α) = _
  rw [hran]

/-- Counting leaves the store as it is. -/
theorem count (event : CacheEvent) (s : Store) :
    Performs Engine.store (Engine.count event) s () s := fun _ _ he => ⟨_, rfl, he⟩

/-- Tasks side by side are performed one after the other. -/
theorem all_cons {ts : List (Task τ Unit)} {t : Task τ Unit} (ht : Performs view t s () s')
    (hts : Performs view (Task.all ts) s' () s'') :
    Performs view (Task.all (t :: ts)) s () s'' := by
  intro budget x hx
  obtain ⟨x', hran, hx'⟩ := ht budget x hx
  obtain ⟨x'', hran', hx''⟩ := hts budget x' hx'
  refine ⟨x'', ?_, hx''⟩
  change (⟨(Task.all ts budget (t budget x).state).state, join (t budget x).outcome
    (Task.all ts budget (t budget x).state).outcome⟩ : Ran τ Unit) = _
  rw [hran, hran']
  rfl

/-- Without waits an operation is performed at once. -/
theorem operation {o : Operation} {s : Store} {r : o.Reply} (hr : (o.perform s).1 = r) :
    Performs id (o.task (Store.backends .none)) s r (o.perform s).2 := by
  subst hr
  have hact : ∀ {α : Type} (f : Store → α × Store), Performs id (Task.act f) s (f s).1 (f s).2 := by
    rintro α f budget _ rfl
    exact ⟨_, rfl, rfl⟩
  have hwait : Performs id (Task.wait 0 : Task Store Unit) s () s := by
    intro budget x hx
    refine ⟨x, if_pos ?_, hx⟩
    cases budget with
    | none => rfl
    | some left => exact decide_eq_true (Nat.zero_le left)
  cases o with
  | createGroup | deleteGroup | addMembers | removeMember | members | groupsOf => exact hact _
  | _ => exact hwait.bind (hact _)

end Task.Performs

/-! ## Turns -/

namespace Traffic

/-- Turns lead from the one to the other. -/
def Reaches (settings : EngineSettings) (x y : Traffic) : Prop :=
  ∃ turns, x.run settings turns = y

variable {settings : EngineSettings} {x y z : Traffic}

/-- Without a turn nothing happens. -/
theorem Reaches.refl (x : Traffic) : x.Reaches settings x := ⟨[], rfl⟩

/-- Turns come after turns. -/
theorem Reaches.trans (hxy : x.Reaches settings y) (hyz : y.Reaches settings z) :
    x.Reaches settings z := by
  obtain ⟨turns, rfl⟩ := hxy
  obtain ⟨turns', rfl⟩ := hyz
  refine ⟨turns ++ turns', ?_⟩
  induction turns generalizing x with
  | nil => rfl
  | cons turn turns ih => exact ih

/-- A call that is alone takes a turn with what it asks. -/
theorem Reaches.ask {s : Store} {p : InFlight} (h : x.Reaches settings ⟨s, [p]⟩) {o : Operation}
    (ho : o ∈ p.asks settings) :
    x.Reaches settings ⟨(o.perform s).2, [p.answer o (o.perform s).1]⟩ := by
  refine h.trans ⟨[⟨0, o⟩], ?_⟩
  change (if o ∈ p.asks settings then _ else _) = _
  rw [if_pos ho]
  rfl

end Traffic

/-! ## Parts of calls -/

/-- A part of a call that is alone, with the operations that it alone asks, comes to an end. What it
asks next, and how the store is before it and after it. -/
structure Plays (settings : EngineSettings) (own : Operation → Prop)
    (asks : Answers → List Operation) (effect : Store → Store → Prop) : Prop where
  /-- What is asked depends on the replies to the own operations only. -/
  congr : ∀ a a' : Answers, (∀ o, own o → a' o = a o) → asks a' = asks a
  /-- If the call asks what the part asks, then turns lead to the end of the part. -/
  play : ∀ (x : Traffic) (call : ServiceCall) (a : Answers) (s : Store),
    x.Reaches settings ⟨s, [⟨call, a⟩]⟩ → (∀ o, own o → a o = none) →
    (∀ a' : Answers, (∀ o, ¬ own o → a' o = a o) →
      ∀ o ∈ asks a', o ∈ (⟨call, a'⟩ : InFlight).asks settings) →
    ∃ (a' : Answers) (s' : Store), (∀ o, ¬ own o → a' o = a o) ∧
      x.Reaches settings ⟨s', [⟨call, a'⟩]⟩ ∧ asks a' = [] ∧ effect s s'

namespace Plays

variable {settings : EngineSettings} {own own' : Operation → Prop}
  {asks asks' : Answers → List Operation} {effect effect' : Store → Store → Prop}

/-- A part that asks nothing. -/
theorem nil (own : Operation → Prop) : Plays settings own (fun _ => []) fun s s' => s' = s :=
  ⟨fun _ _ _ => rfl, fun _ _ a s hx _ _ => ⟨a, s, fun _ _ => rfl, hx, rfl, rfl⟩⟩

/-- More operations can be kept for a part, and less may be said about what it does. -/
theorem mono (h : Plays settings own asks effect) (hown : ∀ o, own o → own' o)
    (heffect : ∀ s s', effect s s' → effect' s s') : Plays settings own' asks effect' where
  congr a a' ha := h.congr a a' fun o ho => ha o (hown o ho)
  play x call a s hx hfresh hasks := by
    obtain ⟨a', s', ha', hreached, hdone, hs'⟩ := h.play x call a s hx
      (fun o ho => hfresh o (hown o ho))
      (fun a' ha' => hasks a' fun o ho => ha' o (mt (hown o) ho))
    exact ⟨a', s', fun o ho => ha' o (mt (hown o) ho), hreached, hdone, heffect s s' hs'⟩

/-- A part that asks one operation and goes on with the reply. -/
theorem ask {o : Operation} (hown : ¬ own o) (hnone : ∀ a : Answers, a o = none → asks a = [o])
    (hsome : ∀ r, ∃ (rest : Answers → List Operation) (effect' : Store → Store → Prop),
      Plays settings own rest effect' ∧ (∀ a : Answers, a o = some r → asks a = rest a) ∧
      ∀ s s', (o.perform s).1 = r → effect' (o.perform s).2 s' → effect s s') :
    Plays settings (fun o' => o' = o ∨ own o') asks effect where
  congr a a' ha := by
    have hreply := ha o (.inl rfl)
    cases h : a o with
    | none => rw [hnone a h, hnone a' (hreply.trans h)]
    | some r =>
      obtain ⟨rest, _, hrest, hasks, -⟩ := hsome r
      rw [hasks a h, hasks a' (hreply.trans h)]
      exact hrest.congr a a' fun o' ho' => ha o' (.inr ho')
  play x call a s hx hfresh hasks := by
    have hasked : asks a = [o] := hnone a (hfresh o (.inl rfl))
    have hreached := hx.ask (hasks a (fun _ _ => rfl) o (hasked ▸ List.mem_singleton_self o))
    obtain ⟨r, hr⟩ : ∃ r, (o.perform s).1 = r := ⟨_, rfl⟩
    rw [hr] at hreached
    obtain ⟨rest, effect', hrest, hrests, heffect⟩ := hsome r
    -- The reply is kept, as the rest of the part does not ask the operation again.
    have hreply : ∀ a' : Answers, (∀ o', ¬ own o' → a' o' = Function.update a o (some r) o') →
        a' o = some r ∧ ∀ o', ¬ (o' = o ∨ own o') → a' o' = a o' := by
      intro a' ha'
      refine ⟨(ha' o hown).trans (Function.update_self _ _ _), fun o' ho' => ?_⟩
      rw [not_or] at ho'
      exact (ha' o' ho'.2).trans (Function.update_of_ne ho'.1 _ _)
    have hfresh' : ∀ o', own o' → Function.update a o (some r) o' = none := by
      intro o' ho'
      have hne : o' ≠ o := fun heq => hown (heq ▸ ho')
      rw [Function.update_of_ne hne]
      exact hfresh o' (.inr ho')
    obtain ⟨a', s', ha', hreached', hdone, hs'⟩ := hrest.play x call _ _ hreached hfresh'
      (fun a' ha' o' ho' => hasks a' (hreply a' ha').2 o'
        (by rw [hrests a' (hreply a' ha').1]; exact ho'))
    refine ⟨a', s', (hreply a' ha').2, hreached', ?_, heffect s s' hr hs'⟩
    rw [hrests a' (hreply a' ha').1, hdone]

/-- Of two parts side by side that ask nothing in common, the one may come to its end first. -/
theorem append (h : Plays settings own asks effect) (h' : Plays settings own' asks' effect')
    (hdisjoint : ∀ o, own o → ¬ own' o) :
    Plays settings (fun o => own o ∨ own' o) (fun a => asks a ++ asks' a)
      (fun s s'' => ∃ s', effect s s' ∧ effect' s' s'') where
  congr a a' ha := by
    rw [h.congr a a' fun o ho => ha o (.inl ho), h'.congr a a' fun o ho => ha o (.inr ho)]
  play x call a s hx hfresh hasks := by
    obtain ⟨a₁, s₁, ha₁, hreached₁, hdone₁, hs₁⟩ := h.play x call a s hx
      (fun o ho => hfresh o (.inl ho))
      (fun a' ha' o ho => hasks a' (fun o' ho' => ha' o' (mt .inl ho')) o
        (List.mem_append_left _ ho))
    have hagree : ∀ a' : Answers, (∀ o, ¬ own' o → a' o = a₁ o) →
        ∀ o, ¬ (own o ∨ own' o) → a' o = a o := by
      intro a' ha' o ho
      rw [not_or] at ho
      exact (ha' o ho.2).trans (ha₁ o ho.1)
    obtain ⟨a₂, s₂, ha₂, hreached₂, hdone₂, hs₂⟩ := h'.play x call a₁ s₁ hreached₁
      (fun o ho => (ha₁ o fun hown => hdisjoint o hown ho).trans (hfresh o (.inr ho)))
      (fun a' ha' o ho => hasks a' (hagree a' ha') o (List.mem_append_right _ ho))
    refine ⟨a₂, s₂, hagree a₂ ha₂, hreached₂, ?_, s₁, hs₁, hs₂⟩
    rw [h.congr a₁ a₂ fun o ho => ha₂ o (hdisjoint o ho), hdone₁, hdone₂, List.append_nil]

/-- Parts side by side, no two of which ask anything in common. -/
theorem all {own : ι → Operation → Prop} {asks : ι → Answers → List Operation}
    {t : ι → Task (Engine Store) Unit}
    (h : ∀ c, Plays settings (own c) (asks c) fun s s' => Performs Engine.store (t c) s () s')
    {cs : List ι} (hdisjoint : cs.Pairwise fun c c' => ∀ o, own c o → ¬ own c' o) :
    Plays settings (fun o => ∃ c ∈ cs, own c o) (fun a => cs.flatMap fun c => asks c a)
      fun s s' => Performs Engine.store (Task.all (cs.map t)) s () s' := by
  induction hdisjoint with
  | nil =>
    refine (nil _).mono (fun _ ho => ho) fun s s' hs' => ?_
    rw [hs']
    exact .pure () s
  | @cons c cs hfirst _ ih =>
    have hrest : ∀ o, own c o → ¬ ∃ c' ∈ cs, own c' o := by
      rintro o ho ⟨c', hc', ho'⟩
      exact hfirst c' hc' o ho ho'
    refine ((h c).append ih hrest).mono ?_ ?_
    · rintro o (ho | ⟨c', hc', ho⟩)
      · exact ⟨c, List.mem_cons_self, ho⟩
      · exact ⟨c', List.mem_cons_of_mem c hc', ho⟩
    · rintro s s' ⟨s₁, hs₁, hs'⟩
      exact hs₁.all_cons hs'

end Plays

/-! ## Reading a balance and recording loans -/

namespace Engine

variable (settings : EngineSettings)

/-- Dropping an entry. -/
theorem plays_dropEntry (user : UserId) :
    Plays settings (fun o => o = .clear user) (fun a => dropAsks a user) fun s s' =>
      Performs Engine.store (dropEntry (Store.backends .none) settings user) s () s' := by
  have hdrop : Plays settings (fun o => o = .clear user ∨ False) (fun a => dropAsks a user)
      fun s s' =>
        Performs Engine.store (dropEntry (Store.backends .none) settings user) s () s' := by
    refine Plays.ask not_false (fun a h => by rw [dropAsks, h]) fun r =>
      ⟨_, _, Plays.nil _, fun a h => by rw [dropAsks, h], fun s s' hr hs' => ?_⟩
    rw [hs']
    exact ((Performs.operation hr).onStore.withDeadline _).bind (.pure () _)
  exact hdrop.mono (fun o ho => ho.resolve_right not_false) fun _ _ hs' => hs'

/-- Filling an entry. -/
theorem plays_fillEntry (user : UserId) (m : Balance) :
    Plays settings (fun o => o = .populate user m ∨ o = .clear user) (fun a => fillAsks a user m)
      fun s s' =>
        Performs Engine.store (fillEntry (Store.backends .none) settings user m) s () s' := by
  refine Plays.ask (by simp) (fun a h => by rw [fillAsks, h]) fun r => ?_
  cases r with
  | ok _ =>
    refine ⟨_, _, Plays.nil _, fun a h => by rw [fillAsks, h], fun s s' hr hs' => ?_⟩
    rw [hs']
    exact ((Performs.operation hr).onStore.withDeadline _).bind (.count _ _)
  | error e =>
    exact ⟨_, _, plays_dropEntry settings user, fun a h => by rw [fillAsks, h],
      fun s s' hr hdrop => ((Performs.operation hr).onStore.withDeadline _).bind
        ((Performs.count _ _).bind hdrop)⟩

/-- Reading a balance after a miss. -/
theorem plays_balanceFromLedger (user : UserId) :
    Plays settings
      (fun o => o = .computeBalance user ∨ (∃ m, o = .populate user m) ∨ o = .clear user)
      (fun a => missAsks a user) fun s s' =>
        ∃ v, Performs Engine.store (balanceFromLedger (Store.backends .none) settings user)
          s v s' := by
  refine Plays.ask (by simp) (fun a h => by rw [missAsks, h]) fun r => ?_
  cases r with
  | error e =>
    refine ⟨_, _, Plays.nil _, fun a h => by rw [missAsks, h], fun s s' hr hs' => ?_⟩
    rw [hs']
    exact ⟨_, (Performs.count _ _).bind ((Performs.operation hr).onStore.bind (.pure _ _))⟩
  | ok m =>
    refine ⟨_, _, (plays_fillEntry settings user m).mono ?_ fun _ _ hs' => hs',
      fun a h => by rw [missAsks, h], fun s s' hr hs' => ?_⟩
    · rintro o (ho | ho)
      · exact .inl ⟨m, ho⟩
      · exact .inr ho
    · exact ⟨_, (Performs.count _ _).bind ((Performs.operation hr).onStore.bind
        ((Performs.count _ _).bind (hs'.bind (.pure _ _))))⟩

/-- Reading a balance. -/
theorem plays_balanceOf (user : UserId) :
    Plays settings (fun o => o.subject = some user) (fun a => readAsks a user) fun s s' =>
      ∃ v, Performs Engine.store (balanceOf (Store.backends .none) settings user) s v s' := by
  have hmiss := plays_balanceFromLedger settings user
  have hread : Plays settings (fun o => o = .lookup user ∨ o = .computeBalance user ∨
      (∃ m, o = .populate user m) ∨ o = .clear user) (fun a => readAsks a user) fun s s' =>
      ∃ v, Performs Engine.store (balanceOf (Store.backends .none) settings user) s v s' := by
    refine Plays.ask (by simp) (fun a h => by rw [readAsks, h]) fun r => ?_
    rcases r with e | (b | _)
    · exact ⟨_, _, hmiss, fun a h => by rw [readAsks, h],
        fun s s' hr ⟨v, hs'⟩ => ⟨v, (Performs.operation hr).onStore.bind hs'⟩⟩
    · refine ⟨_, _, Plays.nil _, fun a h => by rw [readAsks, h], fun s s' hr hs' => ?_⟩
      rw [hs']
      exact ⟨_, (Performs.operation hr).onStore.bind ((Performs.count _ _).bind (.pure _ _))⟩
    · exact ⟨_, _, hmiss, fun a h => by rw [readAsks, h],
        fun s s' hr ⟨v, hs'⟩ => ⟨v, (Performs.operation hr).onStore.bind hs'⟩⟩
  refine hread.mono ?_ fun _ _ hs' => hs'
  rintro o (rfl | rfl | ⟨m, rfl⟩ | rfl) <;> rfl

/-- An update that does not fail is the end of bringing an entry up to date. -/
theorem performs_updateEntry_of_ok {c : UserId × List (UserId × Int)} {s s' : Store}
    {outcome : Cache.DeltaOutcome}
    (h : Performs id (tryUpdate (Store.backends .none) c.1 c.2) s (.ok outcome) s') :
    Performs Engine.store (updateEntry (Store.backends .none) settings c.1 c.2) s () s' := by
  have hdone := h.onStore.withDeadline settings.cacheUpdateTimeout
  cases outcome with
  | applied => exact hdone.bind (.count _ _)
  | skipped => exact hdone.bind (.count _ _)

/-- After an update that fails the entry is dropped. -/
theorem performs_updateEntry_of_error {c : UserId × List (UserId × Int)} {s s₁ s' : Store}
    {e : Error} (h : Performs id (tryUpdate (Store.backends .none) c.1 c.2) s (.error e) s₁)
    (hdrop : Performs Engine.store (dropEntry (Store.backends .none) settings c.1) s₁ () s') :
    Performs Engine.store (updateEntry (Store.backends .none) settings c.1 c.2) s () s' :=
  (h.onStore.withDeadline settings.cacheUpdateTimeout).bind ((Performs.count _ _).bind hdrop)

/-- Bringing an entry up to date, from where it is known that there is one. -/
theorem plays_applyDeltas (c : UserId × List (UserId × Int)) :
    Plays settings (fun o => o = .applyDeltas c.1 c.2 ∨ o = .clear c.1)
      (fun a => match a (.applyDeltas c.1 c.2) with
        | none => [.applyDeltas c.1 c.2]
        | some (.error _) => dropAsks a c.1
        | some (.ok _) => [])
      (fun s₁ s' => ∀ s, Performs id ((Store.backends .none).hasEntry c.1) s (.ok true) s₁ →
        Performs Engine.store (updateEntry (Store.backends .none) settings c.1 c.2) s () s') := by
  refine Plays.ask (by simp) (fun a h => by rw [h]) fun r => ?_
  have hasked : ∀ s s₁, ((Operation.applyDeltas c.1 c.2).perform s₁).1 = r →
      Performs id ((Store.backends .none).hasEntry c.1) s (.ok true) s₁ →
      Performs id (tryUpdate (Store.backends .none) c.1 c.2) s r
        ((Operation.applyDeltas c.1 c.2).perform s₁).2 :=
    fun s s₁ hr h => h.bind (Performs.operation hr)
  cases r with
  | error e =>
    exact ⟨_, _, plays_dropEntry settings c.1, fun a h => by rw [h],
      fun s₁ s' hr hdrop s h => performs_updateEntry_of_error settings (hasked s s₁ hr h) hdrop⟩
  | ok outcome =>
    refine ⟨_, _, Plays.nil _, fun a h => by rw [h], fun s₁ s' hr hs' s h => ?_⟩
    rw [hs']
    exact performs_updateEntry_of_ok settings (hasked s s₁ hr h)

/-- Bringing an entry up to date. -/
theorem plays_updateEntry (c : UserId × List (UserId × Int)) :
    Plays settings (fun o => o.subject = some c.1) (fun a => updateAsks a c) fun s s' =>
      Performs Engine.store (updateEntry (Store.backends .none) settings c.1 c.2) s () s' := by
  have hupdate : Plays settings
      (fun o => o = .hasEntry c.1 ∨ o = .applyDeltas c.1 c.2 ∨ o = .clear c.1)
      (fun a => updateAsks a c) fun s s' =>
        Performs Engine.store (updateEntry (Store.backends .none) settings c.1 c.2) s () s' := by
    refine Plays.ask (by simp) (fun a h => by rw [updateAsks, h]) fun r => ?_
    rcases r with e | (_ | _)
    · exact ⟨_, _, (plays_dropEntry settings c.1).mono (fun _ => .inr) fun _ _ hs' => hs',
        fun a h => by rw [updateAsks, h], fun s s' hr hdrop =>
          performs_updateEntry_of_error settings ((Performs.operation hr).bind (.pure _ _)) hdrop⟩
    · refine ⟨_, _, Plays.nil _, fun a h => by rw [updateAsks, h], fun s s' hr hs' => ?_⟩
      rw [hs']
      exact performs_updateEntry_of_ok settings
        ((Performs.operation hr).bind (.pure (Except.ok Cache.DeltaOutcome.skipped) _))
    · refine ⟨_, _, plays_applyDeltas settings c, fun a h => ?_,
        fun s s' hr hs' => hs' s (Performs.operation hr)⟩
      rcases h' : a (.applyDeltas c.1 c.2) with _ | (_ | _) <;> simp only [updateAsks, h, h']
  refine hupdate.mono ?_ fun _ _ hs' => hs'
  rintro o (rfl | rfl | rfl) <;> rfl

/-- Recording loans. -/
theorem plays_addLoans (lender : UserId) (amount : Int) (debtors : List UserId) :
    Plays settings (fun _ => True) (fun a => batchAsks a lender amount debtors) fun s s' =>
      ∃ v, Performs Engine.store
        (addLoans (Store.backends .none) settings lender amount debtors) s v s' := by
  unfold addLoans batchAsks
  cases hcheck : checkBatch lender amount debtors with
  | error e =>
    refine (Plays.nil _).mono (fun _ ho => ho) fun s s' hs' => ?_
    rw [hs']
    exact ⟨_, .pure _ _⟩
  | ok _ =>
    have hdisjoint : (changes lender amount debtors).Pairwise fun c c' =>
        ∀ o : Operation, o.subject = some c.1 → ¬ o.subject = some c'.1 :=
      (List.pairwise_map.1 (nodup_map_changes lender amount debtors hcheck)).imp
        fun hne o ho ho' => hne (Option.some_inj.1 (ho.symm.trans ho'))
    have hupdates := Plays.all (plays_updateEntry settings) hdisjoint
    generalize hconcerns : (fun o : Operation => ∃ c ∈ changes lender amount debtors,
      o.subject = some c.1) = concerns at hupdates
    have hown : ¬ concerns (.append (loansTo lender amount debtors)) := by
      rw [← hconcerns]
      rintro ⟨c, -, hc⟩
      cases hc
    refine (Plays.ask hown (fun a h => by dsimp only; rw [h]) fun r => ?_).mono
      (fun _ _ => trivial) fun _ _ hs' => hs'
    cases r with
    | error e =>
      refine ⟨_, _, Plays.nil _, fun a h => by dsimp only; rw [h], fun s s' hr hs' => ?_⟩
      rw [hs']
      exact ⟨_, (Performs.operation hr).onStore.bind (.pure _ _)⟩
    | ok records =>
      exact ⟨_, _, hupdates, fun a h => by dsimp only; rw [h],
        fun s s' hr hs' => ⟨_, (Performs.operation hr).onStore.bind (hs'.bind (.pure _ _))⟩⟩

end Engine

/-! ## The whole call -/

namespace Traffic

variable {settings : EngineSettings}

/-- A call that is one part comes to an end. -/
theorem exists_end_of_plays {call : ServiceCall} {own : Operation → Prop}
    {asks : Answers → List Operation} {effect : Store → Store → Prop}
    (h : Plays settings own asks effect)
    (hasks : ∀ a, (⟨call, a⟩ : InFlight).asks settings = asks a) (s : Store) :
    ∃ turns a s', (start s [call]).run settings turns = ⟨s', [⟨call, a⟩]⟩ ∧
      (⟨call, a⟩ : InFlight).asks settings = [] ∧ effect s s' := by
  obtain ⟨a, s', -, ⟨turns, hturns⟩, hdone, hs'⟩ := h.play (start s [call]) call (fun _ => none) s
    (Reaches.refl _) (fun _ _ => rfl) fun a' _ o ho => (hasks a').symm ▸ ho
  exact ⟨turns, a, s', hturns, (hasks a).trans hdone, hs'⟩

/-- **A call that reads a balance or records loans, and that is alone, can take turns until it asks
nothing more, and the store is then what the call leaves when it is performed in one go.** -/
theorem alone_comes_to_end (settings : EngineSettings) (call : ServiceCall) (h : call.OfBalances)
    (s : Store) :
    ∃ turns a s', (start s [call]).run settings turns = ⟨s', [⟨call, a⟩]⟩ ∧
      (⟨call, a⟩ : InFlight).asks settings = [] ∧
      Performs Engine.store (call.perform (Store.backends .none) settings) s () s' := by
  cases call with
  | addLoans lender amount debtors =>
    obtain ⟨turns, a, s', hturns, hdone, v, hs'⟩ := exists_end_of_plays
      (Engine.plays_addLoans settings lender amount debtors)
      (InFlight.asks_addLoans settings · lender amount debtors) s
    exact ⟨turns, a, s', hturns, hdone, hs'.bind (.pure () s')⟩
  | balanceOf user =>
    obtain ⟨turns, a, s', hturns, hdone, v, hs'⟩ := exists_end_of_plays
      (Engine.plays_balanceOf settings user) (InFlight.asks_balanceOf settings · user) s
    exact ⟨turns, a, s', hturns, hdone, hs'.bind (.pure () s')⟩
  | _ => exact h.elim

end Traffic

end ExpenseLedger
