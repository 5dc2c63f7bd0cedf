import ExpenseLedger.Proofs.Concurrent.Interleaving
/-!
# What calls ask next

A call that is under way asks what its task notes in a notebook with the replies that it has got.
There is one rule for each way in which tasks are put together (`Task.Pauses`). What reading a
balance and recording loans ask next is then read off their tasks, step by step:
`InFlight.asks_balanceOf` and `InFlight.asks_addLoans`.
-/

open ExpenseLedger.Task

namespace ExpenseLedger

variable {τ α β ι : Type}

/-! ## Rules -/

/-- With the given answers the task asks some operations, and gives a value or is stopped. -/
structure Task.Pauses (view : τ → Notebook) (a : Answers) (t : Task τ α) (r : Option α)
    (ops : List Operation) : Prop where
  /-- It gives a value at once, or it is stopped. -/
  outcome : ∀ x, (view x).answers = a →
    (t (some 0) x).outcome = r.elim .dropped fun v => .done v 0
  /-- It notes the operations that it asks, and nothing else. -/
  notes : ∀ x, (view x).answers = a →
    view (t (some 0) x).state = ⟨a, (view x).asked ++ ops⟩

namespace Task.Pauses

variable {view : τ → Notebook} {a : Answers} {t : Task τ α} {r : Option α} {ops : List Operation}

/-- Giving a value asks nothing. -/
theorem pure (v : α) : Pauses view a (Pure.pure v : Task τ α) (some v) [] := by
  refine ⟨fun x _ => rfl, fun x hx => ?_⟩
  rw [List.append_nil, ← hx]
  rfl

/-- What has been answered is not asked. -/
theorem ask_some {o : Operation} {v : o.Reply} (h : a o = some v) :
    Pauses id a (Notebook.ask o) (some v) [] := by
  have hask : ∀ n : Notebook, n.answers = a → Notebook.ask o (some 0) n = ⟨n, .done v 0⟩ := by
    intro n hn
    unfold Notebook.ask
    rw [hn, h]
  refine ⟨fun n hn => ?_, fun n hn => ?_⟩
  · rw [hask n hn]
    rfl
  · rw [hask n hn, List.append_nil, ← show n.answers = a from hn]
    rfl

/-- What has not been answered is asked. -/
theorem ask_none {o : Operation} (h : a o = none) :
    Pauses id a (Notebook.ask o) none [o] := by
  have hask : ∀ n : Notebook, n.answers = a →
      Notebook.ask o (some 0) n = ⟨{ n with asked := n.asked ++ [o] }, .dropped⟩ := by
    intro n hn
    unfold Notebook.ask
    rw [hn, h]
  refine ⟨fun n hn => ?_, fun n hn => ?_⟩
  · rw [hask n hn]
    rfl
  · rw [hask n hn, ← show n.answers = a from hn]
    rfl

/-- Going on after a value. -/
theorem bind_some {f : α → Task τ β} {v : α} {r : Option β} {ops' : List Operation}
    (ht : Pauses view a t (some v) ops) (hf : Pauses view a (f v) r ops') :
    Pauses view a (t >>= f) r (ops ++ ops') := by
  have hrun : ∀ x, (view x).answers = a →
      (t >>= f) (some 0) x = f v (some 0) (t (some 0) x).state := by
    intro x hx
    have houtcome := ht.outcome x hx
    cases ht' : t (some 0) x with
    | mk x' outcome =>
      rw [ht'] at houtcome
      change outcome = .done v 0 at houtcome
      subst houtcome
      rw [bind_of_done ht']
      change (⟨(f v (some 0) x').state, Outcome.later 0 (f v (some 0) x').outcome⟩ : Ran τ β) = _
      rcases f v (some 0) x' with ⟨y, ⟨b, spent⟩ | _⟩
      · exact congrArg (fun n => (⟨y, .done b n⟩ : Ran τ β)) (Nat.zero_add spent)
      · rfl
  have hanswers : ∀ x, (view x).answers = a → (view (t (some 0) x).state).answers = a := by
    intro x hx
    rw [ht.notes x hx]
  refine ⟨fun x hx => ?_, fun x hx => ?_⟩
  · rw [hrun x hx]
    exact hf.outcome _ (hanswers x hx)
  · rw [hrun x hx, hf.notes _ (hanswers x hx), ht.notes x hx, List.append_assoc]

/-- What would come after a task that is stopped is not reached. -/
theorem bind_none {f : α → Task τ β} (ht : Pauses view a t none ops) :
    Pauses view a (t >>= f) none ops := by
  have hrun : ∀ x, (view x).answers = a →
      (t >>= f) (some 0) x = ⟨(t (some 0) x).state, .dropped⟩ := by
    intro x hx
    have houtcome := ht.outcome x hx
    cases ht' : t (some 0) x with
    | mk x' outcome =>
      rw [ht'] at houtcome
      change outcome = .dropped at houtcome
      subst houtcome
      exact bind_of_dropped ht'
  refine ⟨fun x hx => ?_, fun x hx => ?_⟩
  · rw [hrun x hx]
    rfl
  · rw [hrun x hx]
    exact ht.notes x hx

/-- What is asked is asked under a deadline, unless that is over from the start. -/
theorem withDeadline {t : Task τ (Except Error α)} {r : Option (Except Error α)} {limit : Nat}
    (hlimit : 0 < limit) (h : Pauses view a t r ops) :
    Pauses view a (Engine.withDeadline limit t) r ops := by
  have hfit : ¬ fits limit (some 0) = true := by
    unfold fits
    rw [decide_eq_true_eq]
    omega
  have hwithin : Pauses view a (Task.within limit t) (r.map some) ops := by
    refine ⟨fun x hx => ?_, fun x hx => ?_⟩
    · have houtcome := h.outcome x hx
      unfold Task.within
      rw [if_neg hfit]
      cases ht : t (some 0) x with
      | mk x' outcome =>
        rw [ht] at houtcome
        change outcome = _ at houtcome
        subst houtcome
        cases r with
        | none => rfl
        | some v => rfl
    · have hnotes := h.notes x hx
      unfold Task.within
      rw [if_neg hfit]
      cases ht : t (some 0) x with
      | mk x' outcome =>
        rw [ht] at hnotes
        cases outcome with
        | done v spent => exact hnotes
        | dropped => exact hnotes
  cases r with
  | none => exact hwithin.bind_none
  | some v =>
    have hdone : Pauses view a (Engine.withDeadline limit t) (some v) (ops ++ []) :=
      hwithin.bind_some (pure v)
    rw [List.append_nil] at hdone
    exact hdone

/-- Tasks of the backends in the engine. -/
theorem onStore {t : Task Notebook α} (h : Pauses id a t r ops) :
    Pauses Engine.store a (Engine.onStore t) r ops :=
  ⟨fun e he => h.outcome e.store he, fun e he => h.notes e.store he⟩

/-- Counting asks nothing. -/
theorem count (event : CacheEvent) :
    Pauses Engine.store a (Engine.count event) (some ()) [] := by
  refine ⟨fun e _ => rfl, fun e he => ?_⟩
  rw [List.append_nil, ← he]
  rfl

/-- Tasks side by side ask what each of them asks. -/
theorem all {f : ι → Task τ Unit} {ops : ι → List Operation}
    (h : ∀ c, ∃ r, Pauses view a (f c) r (ops c)) (cs : List ι) :
    ∃ r, Pauses view a (Task.all (cs.map f)) r (cs.flatMap ops) := by
  induction cs with
  | nil => exact ⟨some (), pure ()⟩
  | cons c cs ih =>
    obtain ⟨r, hfirst⟩ := h c
    obtain ⟨r', hrest⟩ := ih
    have hanswers : ∀ x, (view x).answers = a → (view (f c (some 0) x).state).answers = a := by
      intro x hx
      rw [hfirst.notes x hx]
    refine ⟨r.bind fun _ => r', fun x hx => ?_, fun x hx => ?_⟩
    · change join (f c (some 0) x).outcome (Task.all (cs.map f) (some 0) _).outcome = _
      rw [hfirst.outcome x hx, hrest.outcome _ (hanswers x hx)]
      cases r with
      | none => rfl
      | some _ =>
        cases r' with
        | none => rfl
        | some _ => rfl
    · change view (Task.all (cs.map f) (some 0) (f c (some 0) x).state).state = _
      rw [hrest.notes _ (hanswers x hx), hfirst.notes x hx, List.flatMap_cons, List.append_assoc]

end Task.Pauses

/-! ## What reading and recording ask -/

/-- Dropping an entry asks for that. -/
def dropAsks (a : Answers) (user : UserId) : List Operation :=
  match a (.clear user) with
  | none => [.clear user]
  | some _ => []

/-- Bringing an entry up to date asks whether there is one, then for the update, and for the
dropping of the entry if one of them fails. -/
def updateAsks (a : Answers) (c : UserId × List (UserId × Int)) : List Operation :=
  match a (.hasEntry c.1) with
  | none => [.hasEntry c.1]
  | some (.error _) => dropAsks a c.1
  | some (.ok false) => []
  | some (.ok true) =>
    match a (.applyDeltas c.1 c.2) with
    | none => [.applyDeltas c.1 c.2]
    | some (.error _) => dropAsks a c.1
    | some (.ok _) => []

/-- Recording loans that pass the check asks for that, and then for what bringing the entries of all
parties up to date asks. -/
def batchAsks (a : Answers) (lender : UserId) (amount : Int) (debtors : List UserId) :
    List Operation :=
  match Engine.checkBatch lender amount debtors with
  | .error _ => []
  | .ok _ =>
    match a (.append (Engine.loansTo lender amount debtors)) with
    | none => [.append (Engine.loansTo lender amount debtors)]
    | some (.error _) => []
    | some (.ok _) => (Engine.changes lender amount debtors).flatMap (updateAsks a)

/-- Filling an entry asks for that, and for the dropping of the entry if it fails. -/
def fillAsks (a : Answers) (user : UserId) (m : Balance) : List Operation :=
  match a (.populate user m) with
  | none => [.populate user m]
  | some (.ok _) => []
  | some (.error _) => dropAsks a user

/-- After a miss the ledger is asked, and then for what filling the entry asks. -/
def missAsks (a : Answers) (user : UserId) : List Operation :=
  match a (.computeBalance user) with
  | none => [.computeBalance user]
  | some (.error _) => []
  | some (.ok m) => fillAsks a user m

/-- Reading a balance asks for the entry, and then for what is asked after a miss. -/
def readAsks (a : Answers) (user : UserId) : List Operation :=
  match a (.lookup user) with
  | none => [.lookup user]
  | some (.ok (.hit _)) => []
  | some _ => missAsks a user

namespace Engine

/-- The task asks the operations, whatever it gives. -/
def Inquires (a : Answers) (t : Task (Engine Notebook) α) (ops : List Operation) : Prop :=
  ∃ r, Pauses Engine.store a t r ops

/-- Counting at the end asks nothing more. -/
theorem Inquires.bind_pure {a : Answers} {t : Task (Engine Notebook) α} {ops : List Operation}
    (h : Inquires a t ops) (f : α → β) : Inquires a (do let v ← t; return f v) ops := by
  obtain ⟨_ | v, h⟩ := h
  · exact ⟨none, h.bind_none⟩
  · refine ⟨some (f v), ?_⟩
    have hbind := h.bind_some (f := fun v => Pure.pure (f v)) (Pauses.pure (f v))
    rw [List.append_nil] at hbind
    exact hbind

variable (settings : EngineSettings) (a : Answers)

/-- Postponed deadlines leave time for cache work. -/
theorem postponed_pos :
    0 < settings.postponed.cacheUpdateTimeout ∧ 0 < settings.postponed.populateTimeout :=
  ⟨Nat.succ_pos _, Nat.succ_pos _⟩

/-- Dropping an entry. -/
theorem inquires_dropEntry (user : UserId) :
    Inquires a (dropEntry Notebook.backends settings.postponed user) (dropAsks a user) := by
  have hpos := (postponed_pos settings).1
  refine Inquires.bind_pure (f := fun _ => ()) ?_
  unfold dropAsks
  cases h : a (.clear user) with
  | none => exact ⟨none, (Pauses.ask_none h).onStore.withDeadline hpos⟩
  | some r => exact ⟨some r, (Pauses.ask_some h).onStore.withDeadline hpos⟩

/-- Filling an entry. -/
theorem inquires_fillEntry (user : UserId) (m : Balance) :
    Inquires a (fillEntry Notebook.backends settings.postponed user m) (fillAsks a user m) := by
  have hpos := (postponed_pos settings).2
  unfold fillAsks
  cases h : a (.populate user m) with
  | none => exact ⟨none, ((Pauses.ask_none h).onStore.withDeadline hpos).bind_none⟩
  | some r =>
    have hasked := (Pauses.ask_some h).onStore.withDeadline hpos
    cases r with
    | ok _ => exact ⟨some (), hasked.bind_some (.count _)⟩
    | error e =>
      obtain ⟨r, hdrop⟩ := inquires_dropEntry settings a user
      exact ⟨r, hasked.bind_some ((Pauses.count _).bind_some hdrop)⟩

/-- Reading a balance after a miss. -/
theorem inquires_balanceFromLedger (user : UserId) :
    Inquires a (balanceFromLedger Notebook.backends settings.postponed user) (missAsks a user) := by
  unfold missAsks
  cases h : a (.computeBalance user) with
  | none =>
    exact ⟨none, (Pauses.count _).bind_some (Pauses.ask_none h).onStore.bind_none⟩
  | some r =>
    have hasked := (Pauses.ask_some h).onStore
    cases r with
    | error e =>
      exact ⟨some (.error e), (Pauses.count _).bind_some (hasked.bind_some (.pure _))⟩
    | ok m =>
      obtain ⟨r, hrest⟩ :=
        (inquires_fillEntry settings a user m).bind_pure fun _ => (.ok m : Except Error Balance)
      exact ⟨r, (Pauses.count _).bind_some (hasked.bind_some ((Pauses.count _).bind_some hrest))⟩

/-- Reading a balance. -/
theorem inquires_balanceOf (user : UserId) :
    Inquires a (balanceOf Notebook.backends settings.postponed user) (readAsks a user) := by
  obtain ⟨r', hmiss⟩ := inquires_balanceFromLedger settings a user
  unfold readAsks
  cases h : a (.lookup user) with
  | none => exact ⟨none, (Pauses.ask_none h).onStore.bind_none⟩
  | some r =>
    have hasked := (Pauses.ask_some h).onStore
    rcases r with e | (b | _)
    · exact ⟨r', hasked.bind_some hmiss⟩
    · exact ⟨some (.ok b), hasked.bind_some ((Pauses.count _).bind_some (.pure _))⟩
    · exact ⟨r', hasked.bind_some hmiss⟩

/-- Bringing an entry up to date. -/
theorem inquires_updateEntry (c : UserId × List (UserId × Int)) :
    Inquires a (updateEntry Notebook.backends settings.postponed c.1 c.2) (updateAsks a c) := by
  have hpos := (postponed_pos settings).1
  obtain ⟨r, hdrop⟩ := inquires_dropEntry settings a c.1
  -- If the update fails, the entry is dropped.
  have hfails : ∀ e, Pauses id a (tryUpdate Notebook.backends c.1 c.2) (some (.error e)) [] →
      Inquires a (updateEntry Notebook.backends settings.postponed c.1 c.2) (dropAsks a c.1) :=
    fun e h => ⟨r, (h.onStore.withDeadline hpos).bind_some ((Pauses.count _).bind_some hdrop)⟩
  have hstops : ∀ ops, Pauses id a (tryUpdate Notebook.backends c.1 c.2) none ops →
      Inquires a (updateEntry Notebook.backends settings.postponed c.1 c.2) ops :=
    fun ops h => ⟨none, (h.onStore.withDeadline hpos).bind_none⟩
  have hends : ∀ outcome,
      Pauses id a (tryUpdate Notebook.backends c.1 c.2) (some (.ok outcome)) [] →
      Inquires a (updateEntry Notebook.backends settings.postponed c.1 c.2) [] := by
    intro outcome h
    have hdone := h.onStore.withDeadline hpos
    cases outcome with
    | applied => exact ⟨some (), hdone.bind_some (.count _)⟩
    | skipped => exact ⟨some (), hdone.bind_some (.count _)⟩
  unfold updateAsks
  cases h : a (.hasEntry c.1) with
  | none => exact hstops _ (Pauses.ask_none h).bind_none
  | some r =>
    have hasked := Pauses.ask_some h
    rcases r with e | (_ | _)
    · exact hfails e (hasked.bind_some (.pure _))
    · exact hends .skipped (hasked.bind_some (.pure _))
    · dsimp only
      cases h' : a (.applyDeltas c.1 c.2) with
      | none => exact hstops _ (hasked.bind_some (Pauses.ask_none h'))
      | some r =>
        have happlied : Pauses id a (tryUpdate Notebook.backends c.1 c.2) (some r) [] :=
          hasked.bind_some (Pauses.ask_some h')
        cases r with
        | error e => exact hfails e happlied
        | ok outcome => exact hends outcome happlied

/-- Recording loans. -/
theorem inquires_addLoans (lender : UserId) (amount : Int) (debtors : List UserId) :
    Inquires a (addLoans Notebook.backends settings.postponed lender amount debtors)
      (batchAsks a lender amount debtors) := by
  unfold addLoans batchAsks
  cases checkBatch lender amount debtors with
  | error e => exact ⟨some (.error e), .pure _⟩
  | ok _ =>
    dsimp only
    cases h : a (.append (loansTo lender amount debtors)) with
    | none => exact ⟨none, (Pauses.ask_none h).onStore.bind_none⟩
    | some r =>
      have hasked := (Pauses.ask_some h).onStore
      cases r with
      | error e => exact ⟨some (.error e), hasked.bind_some (.pure _)⟩
      | ok records =>
        have hupdates : Inquires a
            (updateEntries Notebook.backends settings.postponed lender amount debtors)
            ((changes lender amount debtors).flatMap (updateAsks a)) :=
          Pauses.all (fun c => inquires_updateEntry settings a c) (changes lender amount debtors)
        obtain ⟨r, hrest⟩ := hupdates.bind_pure fun _ => (.ok records : Except Error _)
        exact ⟨r, hasked.bind_some hrest⟩

end Engine

namespace InFlight

variable (settings : EngineSettings) (a : Answers)

/-- What a call asks is what its task asks. -/
theorem asks_eq {p : InFlight} {ops : List Operation}
    (h : Engine.Inquires p.answers (p.call.perform Notebook.backends settings.postponed) ops) :
    p.asks settings = ops := by
  obtain ⟨r, h⟩ := h
  exact congrArg Notebook.asked (h.notes ⟨⟨p.answers, []⟩, Counters.zero⟩ rfl)

/-- **What reading a balance asks next.** -/
theorem asks_balanceOf (user : UserId) :
    (⟨.balanceOf user, a⟩ : InFlight).asks settings = readAsks a user :=
  asks_eq settings ((Engine.inquires_balanceOf settings a user).bind_pure fun _ => ())

/-- **What recording loans asks next.** -/
theorem asks_addLoans (lender : UserId) (amount : Int) (debtors : List UserId) :
    (⟨.addLoans lender amount debtors, a⟩ : InFlight).asks settings =
      batchAsks a lender amount debtors :=
  asks_eq settings
    ((Engine.inquires_addLoans settings a lender amount debtors).bind_pure fun _ => ())

end InFlight

end ExpenseLedger
