import ExpenseLedger.Proofs.Concurrent.Views
/-!
# The stages of reads

A call that reads a balance gets first the reply to the look-up, after a miss that of the ledger,
and then that to the filling of the entry. As long as the cache is in service, each turn of such a
call is a move for the user whose balance is read: `Answers.ReadOrderly.move`.
-/

namespace ExpenseLedger

/-! ## Reading a balance -/

/-- A look-up has not been answered, or has given a balance. -/
def Answers.Unmissed (a : Answers) (user : UserId) : Prop :=
  a (.lookup user) = none ∨ ∃ m, a (.lookup user) = some (.ok (.hit m))

/-- The stage of a call that reads a balance. -/
def readStage (a : Answers) (user : UserId) : Stage :=
  match a (.computeBalance user) with
  | some (.ok m) =>
    match a (.populate user m) with
    | none => .filling m
    | some _ => .idle
  | _ => .idle

/-- The replies of a call that reads a balance have come in order. -/
structure Answers.ReadOrderly (a : Answers) (user : UserId) : Prop where
  /-- The balance is computed only after a miss. -/
  missed : a.Unmissed user → a (.computeBalance user) = none
  /-- The entry is filled only with what has been computed. -/
  computed : ∀ m, a (.computeBalance user) ≠ some (.ok m) → a (.populate user m) = none
  /-- The cache has been in service. -/
  filled : ∀ m e, a (.populate user m) ≠ some (.error e)

/-- Reading the balance of a user is about this user only. -/
theorem subject_of_mem_readAsks {a : Answers} {user : UserId} {o : Operation}
    (ho : o ∈ readAsks a user) : o.subject = some user := by
  have hfill : ∀ m, o ∈ fillAsks a user m → o.subject = some user := by
    intro m ho
    unfold fillAsks at ho
    split at ho
    · rw [List.mem_singleton.1 ho]
      rfl
    · contradiction
    · exact subject_of_mem_dropAsks ho
  have hmiss : o ∈ missAsks a user → o.subject = some user := by
    intro ho
    unfold missAsks at ho
    split at ho
    · rw [List.mem_singleton.1 ho]
      rfl
    · contradiction
    · exact hfill _ ho
  unfold readAsks at ho
  split at ho
  · rw [List.mem_singleton.1 ho]
    rfl
  · contradiction
  · exact hmiss ho

namespace Answers.ReadOrderly

variable {a : Answers} {user : UserId}

/-- A call that has not begun is in order. -/
theorem none : ReadOrderly (fun _ => none) user := ⟨fun _ => rfl, fun _ _ => rfl, nofun⟩

/-- Reading the entry is a move. -/
theorem move_lookup (h : a.ReadOrderly user) (hasked : a (.lookup user) = .none) {o : Operation}
    (ho : o = .lookup user) (s : Store) :
    ReadOrderly (Function.update a o (some (o.perform s).1)) user ∧
      Stage.Move user (s.view user) (readStage a user) ((o.perform s).2.view user)
        (readStage (Function.update a o (some (o.perform s).1)) user) := by
  subst ho
  have hcompute : a (.computeBalance user) = .none := h.missed (.inl hasked)
  have hcompute' : Function.update a (.lookup user) (some ((Operation.lookup user).perform s).1)
      (.computeBalance user) = .none := (Function.update_of_ne (by nofun) _ _).trans hcompute
  have hpopulate' : ∀ m, Function.update a (.lookup user)
      (some ((Operation.lookup user).perform s).1) (.populate user m) = .none := fun m =>
    (Function.update_of_ne (by nofun) _ _).trans (h.computed m (by rw [hcompute]; nofun))
  refine ⟨⟨fun _ => hcompute', fun m _ => hpopulate' m, fun m e => ?_⟩, ?_⟩
  · rw [hpopulate']
    nofun
  · rw [readStage, readStage, hcompute, hcompute']
    have hsame : (s.cache.lookup user).2 = s.cache →
        ((Operation.lookup user).perform s).2.view user = s.view user :=
      fun hc => congrArg (fun c : Cache => View.mk s.ledger.records (c.entryOf user)) hc
    rcases Cache.lookup_cases user s.cache with ⟨-, -, hstate⟩ | ⟨-, _, _, -, -, -, hstate⟩ |
      ⟨-, -, -, hstate⟩ | ⟨-, _, -, -, -, hstate⟩
    · rw [hsame hstate]
      exact .rest _ _
    · rw [hsame hstate]
      exact .rest _ _
    · rw [hsame hstate]
      exact .rest _ _
    · change Stage.Move user _ _ ⟨s.ledger.records, (s.cache.lookup user).2.entryOf user⟩ _
      rw [hstate, Cache.entryOf_remove, if_pos rfl]
      exact .lose (s.view user)

/-- Computing the balance is a move. -/
theorem move_computeBalance (h : a.ReadOrderly user) (hmissed : ¬ a.Unmissed user)
    (hasked : a (.computeBalance user) = .none) {o : Operation} (ho : o = .computeBalance user)
    (s : Store) :
    ReadOrderly (Function.update a o (some (o.perform s).1)) user ∧
      Stage.Move user (s.view user) (readStage a user) ((o.perform s).2.view user)
        (readStage (Function.update a o (some (o.perform s).1)) user) := by
  subst ho
  have hself : Function.update a (.computeBalance user)
      (some ((Operation.computeBalance user).perform s).1) (.computeBalance user) =
        some (s.ledger.computeBalance user).1 := Function.update_self _ _ _
  have hlookup' : Function.update a (.computeBalance user)
      (some ((Operation.computeBalance user).perform s).1) (.lookup user) = a (.lookup user) :=
    Function.update_of_ne (by nofun) _ _
  have hpopulate' : ∀ m, Function.update a (.computeBalance user)
      (some ((Operation.computeBalance user).perform s).1) (.populate user m) = .none := fun m =>
    (Function.update_of_ne (by nofun) _ _).trans (h.computed m (by rw [hasked]; nofun))
  refine ⟨⟨fun hnot => ?_, fun m _ => hpopulate' m, fun m e => ?_⟩, ?_⟩
  · unfold Unmissed at hnot
    rw [hlookup'] at hnot
    exact absurd hnot hmissed
  · rw [hpopulate']
    nofun
  · rw [Operation.view_computeBalance, readStage, readStage, hasked, hself]
    cases hm : (s.ledger.computeBalance user).1 with
    | error e => exact .rest _ _
    | ok m =>
      dsimp only
      rw [hpopulate']
      refine .compute _ m ?_
      unfold Ledger.computeBalance at hm
      split at hm
      · contradiction
      · exact hm

/-- Filling the entry is a move. -/
theorem move_populate (h : a.ReadOrderly user) {m : Balance} (hmissed : ¬ a.Unmissed user)
    (hcomputed : a (.computeBalance user) = some (.ok m)) (hasked : a (.populate user m) = .none)
    {o : Operation} (ho : o = .populate user m) {s : Store} (hs : s.cache.failing = false) :
    ReadOrderly (Function.update a o (some (o.perform s).1)) user ∧
      Stage.Move user (s.view user) (readStage a user) ((o.perform s).2.view user)
        (readStage (Function.update a o (some (o.perform s).1)) user) := by
  subst ho
  obtain ⟨hreply, hentry⟩ : (s.cache.populate user m).1 = .ok () ∧
      (s.cache.populate user m).2.entryOf user = some (Cache.Fields.ofBalance m) := by
    rcases Cache.populate_cases user m s.cache with ⟨hf, -, -⟩ | ⟨-, hreply, -, hentries⟩
    · rw [hs] at hf
      contradiction
    · exact ⟨hreply, by rw [hentries, if_pos rfl]⟩
  have hself : Function.update a (.populate user m)
      (some ((Operation.populate user m).perform s).1) (.populate user m) = some (.ok ()) :=
    (Function.update_self _ _ _).trans (congrArg some hreply)
  have hlookup' : Function.update a (.populate user m)
      (some ((Operation.populate user m).perform s).1) (.lookup user) = a (.lookup user) :=
    Function.update_of_ne (by nofun) _ _
  have hcompute' : Function.update a (.populate user m)
      (some ((Operation.populate user m).perform s).1) (.computeBalance user) = some (.ok m) :=
    (Function.update_of_ne (by nofun) _ _).trans hcomputed
  have hother : ∀ n, n ≠ m → Function.update a (.populate user m)
      (some ((Operation.populate user m).perform s).1) (.populate user n) = .none := by
    intro n hne
    have hnot : a (.computeBalance user) ≠ some (.ok n) := by
      rw [hcomputed]
      exact fun he => hne (Except.ok.inj (Option.some.inj he)).symm
    exact (Function.update_of_ne (fun he => hne (Operation.populate.inj he).2) _ _).trans
      (h.computed n hnot)
  refine ⟨⟨fun hnot => ?_, fun n hn => hother n ?_, fun n e => ?_⟩, ?_⟩
  · unfold Unmissed at hnot
    rw [hlookup'] at hnot
    exact absurd hnot hmissed
  · rintro rfl
    exact hn hcompute'
  · by_cases hne : n = m
    · rw [hne, hself]
      nofun
    · rw [hother n hne]
      nofun
  · change Stage.Move user _ _ ⟨s.ledger.records, (s.cache.populate user m).2.entryOf user⟩ _
    rw [hentry, readStage, readStage, hcomputed, hcompute']
    dsimp only
    rw [hasked, hself]
    exact .fill (s.view user) m

/-- A look-up that has been answered by anything but a hit has missed. -/
theorem not_unmissed {r : Except Error Cache.Lookup} (h : a (.lookup user) = some r)
    (hr : ∀ m, r ≠ .ok (.hit m)) : ¬ a.Unmissed user := by
  rintro (hnone | ⟨m, hm⟩)
  · rw [h] at hnone
    contradiction
  · rw [h] at hm
    exact hr m (Option.some.inj hm)

/-- **A turn of a call that reads a balance is a move**, if it comes after a miss ... -/
theorem move_miss (h : a.ReadOrderly user) (hmissed : ¬ a.Unmissed user) {o : Operation}
    (ho : o ∈ missAsks a user) {s : Store} (hs : s.cache.failing = false) :
    ReadOrderly (Function.update a o (some (o.perform s).1)) user ∧
      Stage.Move user (s.view user) (readStage a user) ((o.perform s).2.view user)
        (readStage (Function.update a o (some (o.perform s).1)) user) := by
  unfold missAsks at ho
  cases hcomputed : a (.computeBalance user) with
  | none =>
    rw [hcomputed] at ho
    exact h.move_computeBalance hmissed hcomputed (List.mem_singleton.1 ho) s
  | some r =>
    rw [hcomputed] at ho
    cases r with
    | error e => contradiction
    | ok m =>
      dsimp only [fillAsks] at ho
      cases hfilled : a (.populate user m) with
      | none =>
        rw [hfilled] at ho
        exact h.move_populate hmissed hcomputed hfilled (List.mem_singleton.1 ho) hs
      | some r =>
        rw [hfilled] at ho
        cases r with
        | ok _ => contradiction
        | error e => exact absurd hfilled (h.filled m e)

/-- **... and before that as well.** -/
theorem move (h : a.ReadOrderly user) {o : Operation} (ho : o ∈ readAsks a user) {s : Store}
    (hs : s.cache.failing = false) :
    ReadOrderly (Function.update a o (some (o.perform s).1)) user ∧
      Stage.Move user (s.view user) (readStage a user) ((o.perform s).2.view user)
        (readStage (Function.update a o (some (o.perform s).1)) user) := by
  unfold readAsks at ho
  cases hlookup : a (.lookup user) with
  | none =>
    rw [hlookup] at ho
    exact h.move_lookup hlookup (List.mem_singleton.1 ho) s
  | some r =>
    rw [hlookup] at ho
    rcases r with e | (b | _)
    · exact h.move_miss (not_unmissed hlookup nofun) ho hs
    · contradiction
    · exact h.move_miss (not_unmissed hlookup nofun) ho hs

/-- While an entry is about to be filled, that is what is asked. -/
theorem exists_mem_readAsks (h : a.ReadOrderly user) (hfills : (readStage a user).Fills) :
    ∃ o ∈ readAsks a user, o.Fills user := by
  unfold readStage at hfills
  cases hcomputed : a (.computeBalance user) with
  | none =>
    rw [hcomputed] at hfills
    exact hfills.elim
  | some r =>
    rw [hcomputed] at hfills
    cases r with
    | error e => exact hfills.elim
    | ok m =>
      dsimp only at hfills
      cases hfilled : a (.populate user m) with
      | some r =>
        rw [hfilled] at hfills
        exact hfills.elim
      | none =>
        have hasks : .populate user m ∈ missAsks a user := by
          unfold missAsks
          rw [hcomputed]
          dsimp only [fillAsks]
          rw [hfilled]
          exact List.mem_singleton_self _
        refine ⟨.populate user m, ?_, rfl⟩
        -- The balance has been computed, so the look-up has missed.
        unfold readAsks
        cases hlookup : a (.lookup user) with
        | none =>
          rw [h.missed (.inl hlookup)] at hcomputed
          contradiction
        | some r =>
          rcases r with e | (b | _)
          · exact hasks
          · rw [h.missed (.inr ⟨b, hlookup⟩)] at hcomputed
            contradiction
          · exact hasks

end Answers.ReadOrderly

/-- Reading a balance is not about bringing an entry up to date. -/
theorem not_updates_readStage (a : Answers) (user : UserId) : ¬ (readStage a user).Updates := by
  unfold readStage
  split
  · split <;> exact id
  · exact id

end ExpenseLedger
