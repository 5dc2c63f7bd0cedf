import ExpenseLedger.Proofs.Cache.Entries
import ExpenseLedger.Proofs.History.Journal
/-!
# Entries and history

A store is coherent with its history if every cache entry that can be read is the balance of the
records that are kept for its user. This holds at every instant, also in the middle of an operation.
A coherent store is sound under an assumption if, under this assumption, nothing is lost at all and
the cache is available.

Between the recording of a batch and the end of its cache work the entries of some users lack the
batch although it can still be added to them. `PendingSince` says what holds then; it is what the
cache work of one user preserves for the users still to come. Main statements:

* `PendingSince.of_commit`: recording a batch leaves its whole cache work pending;
* `PendingSince.updated`, `PendingSince.cleared`: the work for one user is done;
* `PendingSince.sound`: when no work is pending, the store is sound again.
-/

namespace ExpenseLedger

open History

/-! ## How stores differ -/

/-- The stores have the same records and the same entries, and their caches are equally available.
-/
structure Store.Alike (s s' : Store) : Prop where
  /-- The records are the same. -/
  records : s'.ledger.records = s.ledger.records
  /-- The caches are equally available. -/
  failing : s'.cache.failing = s.cache.failing
  /-- The entries are the same. -/
  entries : ∀ v, s'.cache.entryOf v = s.cache.entryOf v

/-- The stores have the same records and the same entries but for that of one user, and their caches
are equally available. -/
structure Store.Sets (user : UserId) (entry : Option Cache.Fields) (s s' : Store) : Prop where
  /-- The records are the same. -/
  records : s'.ledger.records = s.ledger.records
  /-- The caches are equally available. -/
  failing : s'.cache.failing = s.cache.failing
  /-- The entries are the same but for one. -/
  entries : ∀ v, s'.cache.entryOf v = if v = user then entry else s.cache.entryOf v

namespace Journaled

/-! ## Coherence -/

/-- Every entry that can be read is the balance of the records kept for its user. -/
structure Coherent (j : Journaled) : Prop where
  /-- The history tells all records. -/
  records : j.store.ledger.records = committed j.history
  /-- Entries are damaged or lack only what is lost. -/
  entries : ∀ user fields, j.store.cache.entryOf user = some fields →
    Cache.Unreadable fields ∨
      ∃ m, fields = Cache.Fields.ofBalance m ∧ Ledger.aggregate user (kept user j.history) = .ok m

/-- An entry that can be read is decoded to the balance of the records kept for its user. -/
theorem Coherent.decode_eq (j : Journaled) (h : j.Coherent) (user : UserId)
    (fields : Cache.Fields) (m : Balance) (hentry : j.store.cache.entryOf user = some fields)
    (hdecode : Cache.decode fields = .ok m) :
    Ledger.aggregate user (kept user j.history) = .ok m := by
  rcases h.entries user fields hentry with hbad | ⟨m', rfl, hm'⟩
  · exact absurd hbad (Cache.not_unreadable_of_decode fields m hdecode)
  · rw [Cache.decode_ofBalance m' (Ledger.allStorable_aggregate user _ m' hm')] at hdecode
    cases hdecode
    exact hm'

/-- The empty store is coherent. -/
theorem coherent_start (supply : Supply) : (start supply).Coherent where
  records := rfl
  entries user fields h := by
    have hnone : (start supply).store.cache.entryOf user = none := rfl
    rw [hnone] at h
    contradiction

/-- Coherence depends on records and entries alone. -/
theorem Coherent.alike {j : Journaled} {s : Store} (h : j.Coherent) (hs : j.store.Alike s) :
    Coherent ⟨s, j.history⟩ where
  records := hs.records.trans h.records
  entries user fields hentry := by
    rw [hs.entries user] at hentry
    exact h.entries user fields hentry

/-- An event about the entry of one user keeps a store coherent if it does so for this user. -/
theorem Coherent.sets {j : Journaled} {s : Store} {user : UserId} {entry : Option Cache.Fields}
    {e : Event} (h : j.Coherent) (hs : j.store.Sets user entry s) (hcommit : e.isCommit = false)
    (habout : ∀ v, e.About v → v = user)
    (hentry : ∀ fields, entry = some fields → Cache.Unreadable fields ∨
      ∃ m, fields = Cache.Fields.ofBalance m ∧
        Ledger.aggregate user (kept user (j.history ++ [e])) = .ok m) :
    Coherent ⟨s, j.history ++ [e]⟩ where
  records := by
    rw [hs.records, h.records, committed_append_of_not_commit j.history e hcommit]
  entries v fields hv := by
    rw [hs.entries v] at hv
    by_cases hvu : v = user
    · subst hvu
      rw [if_pos rfl] at hv
      exact hentry fields hv
    · rw [if_neg hvu] at hv
      have hsame := kept_append_of_not_about v j.history e hcommit fun ha => hvu (habout v ha)
      change _ ∨ ∃ m, _ ∧ Ledger.aggregate v (kept v (j.history ++ [e])) = .ok m
      rw [hsame]
      exact h.entries v fields hv

/-- A batch is lost to those who have an entry and whom it concerns, until their entries are brought
up to date. -/
theorem Coherent.commit {j : Journaled} {s : Store} {batch : List LoanRecord} (h : j.Coherent)
    (hrecords : s.ledger.records = j.store.ledger.records ++ batch)
    (hcache : s.cache = j.store.cache) :
    Coherent ⟨s, j.history ++ [.committed batch j.store.cache]⟩ where
  records := by
    rw [hrecords, h.records, committed_append]
    simp [committed, Event.records]
  entries user fields hentry := by
    rw [hcache] at hentry
    have hkept := kept_append_committed user j.history batch j.store.cache [] (by simp) (by simp)
    have hmarked : j.store.cache.isMarked user = true := by
      rw [← Cache.isSome_entryOf, hentry]
      rfl
    change _ ∨ ∃ m, _ ∧
      Ledger.aggregate user (kept user (j.history ++ [.committed batch j.store.cache])) = .ok m
    rw [hkept]
    -- The entry lacks the batch, which is lost to the user for the time being or does not matter.
    by_cases hlost : IsLost user batch j.store.cache []
    · rw [if_pos hlost, List.append_nil]
      exact h.entries user fields hentry
    · have hnot : ∀ r ∈ batch, ¬ r.Concerns user := by
        intro r hr hc
        exact hlost ⟨⟨r, hr, hc⟩, hmarked, by simp, by simp [untilCommit]⟩
      rw [if_neg hlost, Ledger.aggregate_append_of_not_concerns user _ batch hnot]
      exact h.entries user fields hentry

/-! ## Soundness -/

/-- The store is coherent and, under the assumption, nothing is lost and the cache is available. -/
structure Sound (assumption : Prop) (j : Journaled) : Prop where
  /-- The store is coherent. -/
  coherent : j.Coherent
  /-- The cache is available. -/
  available : assumption → j.store.cache.failing = false
  /-- Nothing is lost. -/
  complete : assumption → ∀ user, Complete user j.history

variable {assumption : Prop}

/-- Under a stronger assumption a store remains sound. -/
theorem Sound.mono {other : Prop} {j : Journaled} (h : j.Sound assumption)
    (himp : other → assumption) : j.Sound other :=
  ⟨h.coherent, fun ho => h.available (himp ho), fun ho => h.complete (himp ho)⟩

/-- The empty store is sound. -/
theorem sound_start (supply : Supply) (assumption : Prop) : (start supply).Sound assumption :=
  ⟨coherent_start supply, fun _ => rfl, fun _ _ _ hb => absurd hb List.not_mem_nil⟩

/-- Soundness depends on records, entries and the availability of the cache alone. -/
theorem Sound.alike {j : Journaled} {s : Store} (h : j.Sound assumption)
    (hs : j.store.Alike s) : Sound assumption ⟨s, j.history⟩ :=
  ⟨h.coherent.alike hs, fun ha => hs.failing.trans (h.available ha), h.complete⟩

/-- Replacing or dropping an entry keeps a store sound if the new entry is right. -/
theorem Sound.renewed {j : Journaled} {s : Store} {user : UserId} {entry : Option Cache.Fields}
    {e : Event} (h : j.Sound assumption) (hs : j.store.Sets user entry s)
    (hrenews : e.Renews user)
    (hentry : ∀ fields, entry = some fields →
      ∃ m, fields = Cache.Fields.ofBalance m ∧
        Ledger.aggregate user j.store.ledger.records = .ok m) :
    Sound assumption ⟨s, j.history ++ [e]⟩ := by
  have hcommit := e.isCommit_of_renews user hrenews
  have habout : ∀ v, e.About v → v = user := fun v => e.eq_of_about user v hrenews
  -- To this user nothing is lost now, and the verdicts of all other users stand.
  refine ⟨?_, fun ha => hs.failing.trans (h.available ha), fun ha v => ?_⟩
  · refine h.coherent.sets hs hcommit habout fun fields hf => .inr ?_
    rw [kept_eq_committed user _ (complete_append_of_renews user j.history e hrenews),
      committed_append_of_not_commit j.history e hcommit, ← h.coherent.records]
    exact hentry fields hf
  · by_cases hv : v = user
    · rw [hv]
      exact complete_append_of_renews user j.history e hrenews
    · intro b hb
      rw [batches_append_of_not_about v j.history e hcommit fun h => hv (habout v h)] at hb
      exact h.complete ha v b hb

/-- Dropping an entry keeps a store sound. -/
theorem Sound.cleared {j : Journaled} {s : Store} {user : UserId} (h : j.Sound assumption)
    (hs : j.store.Sets user none s) : Sound assumption ⟨s, j.history ++ [.cleared user]⟩ :=
  h.renewed hs rfl fun _ hf => nomatch hf

/-! ## Pending cache work -/

/-- The list holds what the batch contributes to the balances of some users, each of them once. -/
structure Due (batch : List LoanRecord) (work : List (UserId × List (UserId × Int))) : Prop where
  /-- Each user occurs once. -/
  nodup : (work.map (·.1)).Nodup
  /-- The deltas are what the batch contributes. -/
  deltas : ∀ c ∈ work, c.2 = Ledger.contributions c.1 batch
  /-- The batch concerns the users. -/
  concerns : ∀ c ∈ work, ∃ r ∈ batch, r.Concerns c.1

/-- What is due without its first item. -/
theorem Due.tail {batch : List LoanRecord} {c : UserId × List (UserId × Int)}
    {work : List (UserId × List (UserId × Int))} (h : Due batch (c :: work)) : Due batch work where
  nodup := by
    have hnodup := h.nodup
    rw [List.map_cons, List.nodup_cons] at hnodup
    exact hnodup.2
  deltas d hd := h.deltas d (List.mem_cons_of_mem c hd)
  concerns d hd := h.concerns d (List.mem_cons_of_mem c hd)

/-- A last batch has been recorded, and the cache work for some users is pending: since the batch
nothing has happened to their entries. Under the assumption the batch is lost to nobody else. -/
structure PendingSince (assumption : Prop) (before : List Event) (batch : List LoanRecord)
    (cache : Cache) (work : List (UserId × List (UserId × Int))) (after : List Event)
    (j : Journaled) : Prop where
  /-- The store is coherent. -/
  coherent : j.Coherent
  /-- The batch stands in the history. -/
  history : j.history = before ++ .committed batch cache :: after
  /-- It is the last one. -/
  last : ∀ e ∈ after, e.isCommit = false
  /-- The work is what the batch contributes. -/
  due : Due batch work
  /-- Nothing has happened to the entries of the users. -/
  untouched : ∀ c ∈ work, ∀ e ∈ after, ¬ e.About c.1
  /-- The users have entries now if they had entries then. -/
  marked : ∀ c ∈ work, (j.store.cache.entryOf c.1).isSome = cache.isMarked c.1
  /-- The cache is available. -/
  available : assumption → j.store.cache.failing = false
  /-- Nothing was lost before the batch. -/
  complete : assumption → ∀ user, Complete user before
  /-- The batch is lost to nobody whose work is done. -/
  settled : assumption → ∀ user, user ∉ work.map (·.1) → ¬ IsLost user batch cache after

namespace PendingSince

variable {before after : List Event} {batch : List LoanRecord} {cache : Cache}
  {c : UserId × List (UserId × Int)} {work : List (UserId × List (UserId × Int))}
  {j : Journaled} {s : Store}

/-- **Recording a batch leaves its whole cache work pending.** -/
theorem of_commit (h : j.Sound assumption)
    (hrecords : s.ledger.records = j.store.ledger.records ++ batch)
    (hcache : s.cache = j.store.cache) (hdue : Due batch work)
    (hothers : ∀ user, user ∉ work.map (·.1) → ∀ r ∈ batch, ¬ r.Concerns user) :
    PendingSince assumption j.history batch j.store.cache work []
      ⟨s, j.history ++ [.committed batch j.store.cache]⟩ where
  coherent := h.coherent.commit hrecords hcache
  history := rfl
  last := by simp
  due := hdue
  untouched := by simp
  marked d _ := by
    rw [← Cache.isSome_entryOf]
    change (s.cache.entryOf d.1).isSome = _
    rw [hcache]
  available ha := by
    change s.cache.failing = false
    rw [hcache]
    exact h.available ha
  complete := h.complete
  settled _ user huser hlost := by
    obtain ⟨⟨r, hr, hc⟩, -⟩ := hlost
    exact hothers user huser r hr hc

/-- **When no work is pending, the store is sound.** -/
theorem sound (h : PendingSince assumption before batch cache [] after j) :
    j.Sound assumption := by
  refine ⟨h.coherent, h.available, fun ha user => ?_⟩
  rw [h.history]
  exact complete_append_committed user before batch cache after h.last (h.complete ha user)
    (h.settled ha user List.not_mem_nil)

/-- Without the assumption pending work may as well be given up. -/
theorem sound_false (h : PendingSince assumption before batch cache work after j) :
    j.Sound False :=
  ⟨h.coherent, False.elim, False.elim⟩

/-- Under a stronger assumption the work remains pending. -/
theorem mono {other : Prop} (h : PendingSince assumption before batch cache work after j)
    (himp : other → assumption) : PendingSince other before batch cache work after j :=
  { h with
    available := fun ho => h.available (himp ho)
    complete := fun ho => h.complete (himp ho)
    settled := fun ho => h.settled (himp ho) }

/-- Pending work depends on records, entries and the availability of the cache alone. -/
theorem alike (h : PendingSince assumption before batch cache work after j)
    (hs : j.store.Alike s) :
    PendingSince assumption before batch cache work after ⟨s, j.history⟩ where
  coherent := h.coherent.alike hs
  history := h.history
  last := h.last
  due := h.due
  untouched := h.untouched
  marked d hd := by
    rw [← h.marked d hd]
    exact congrArg Option.isSome (hs.entries d.1)
  available ha := hs.failing.trans (h.available ha)
  complete := h.complete
  settled := h.settled

/-- The work for a user is done if the batch is not lost to the user. -/
theorem tail (h : PendingSince assumption before batch cache (c :: work) after j)
    (hlost : assumption → ¬ IsLost c.1 batch cache after) :
    PendingSince assumption before batch cache work after j where
  coherent := h.coherent
  history := h.history
  last := h.last
  due := h.due.tail
  untouched d hd := h.untouched d (List.mem_cons_of_mem c hd)
  marked d hd := h.marked d (List.mem_cons_of_mem c hd)
  available := h.available
  complete := h.complete
  settled ha user huser := by
    by_cases huc : user = c.1
    · rw [huc]
      exact hlost ha
    · refine h.settled ha user ?_
      rw [List.map_cons]
      exact fun hmem => (List.mem_cons.1 hmem).elim huc huser

/-- An event about the entry of a user to whom the batch is not lost any more. -/
theorem step {entry : Option Cache.Fields} {e : Event}
    (h : PendingSince assumption before batch cache (c :: work) after j)
    (hs : j.store.Sets c.1 entry s) (hcommit : e.isCommit = false)
    (habout : ∀ v, e.About v → v = c.1) (hcoherent : Coherent ⟨s, j.history ++ [e]⟩)
    (hlost : assumption → ¬ IsLost c.1 batch cache (after ++ [e])) :
    PendingSince assumption before batch cache work (after ++ [e]) ⟨s, j.history ++ [e]⟩ := by
  -- The event is about no user whose work is still to come.
  have hne : ∀ d ∈ work, d.1 ≠ c.1 := by
    intro d hd he
    have hnodup := h.due.nodup
    rw [List.map_cons, List.nodup_cons, ← he] at hnodup
    exact hnodup.1 (List.mem_map_of_mem hd)
  refine ⟨hcoherent, ?_, ?_, h.due.tail, ?_, ?_, ?_, h.complete, ?_⟩
  · change j.history ++ [e] = _
    rw [h.history, List.append_assoc, List.cons_append]
  · intro d hd
    rcases List.mem_append.1 hd with hd | hd
    · exact h.last d hd
    · rw [List.mem_singleton.1 hd]
      exact hcommit
  · intro d hd e' he'
    rcases List.mem_append.1 he' with he' | he'
    · exact h.untouched d (List.mem_cons_of_mem c hd) e' he'
    · rw [List.mem_singleton.1 he']
      exact fun ha => hne d hd (habout d.1 ha)
  · intro d hd
    rw [← h.marked d (List.mem_cons_of_mem c hd)]
    change (s.cache.entryOf d.1).isSome = _
    rw [hs.entries d.1, if_neg (hne d hd)]
  · exact fun ha => hs.failing.trans (h.available ha)
  · intro ha user huser
    by_cases huc : user = c.1
    · rw [huc]
      exact hlost ha
    · intro hl
      refine h.settled ha user ?_ hl.of_append
      rw [List.map_cons]
      exact fun hmem => (List.mem_cons.1 hmem).elim huc huser

/-- **The work for a user is done by dropping the entry.** -/
theorem cleared (h : PendingSince assumption before batch cache (c :: work) after j)
    (hs : j.store.Sets c.1 none s) :
    PendingSince assumption before batch cache work (after ++ [.cleared c.1])
      ⟨s, j.history ++ [.cleared c.1]⟩ := by
  have hcoherent := (Sound.cleared h.sound_false hs).coherent
  refine h.step hs rfl (fun v hv => hv.symm) hcoherent fun _ => ?_
  refine not_isLost_of_renews c.1 batch cache _ (.cleared c.1) ?_ rfl
  exact List.mem_append_right _ (List.mem_singleton.2 rfl)

/-- **The work for a user is done by updating the entry.** -/
theorem updated (h : PendingSince assumption before batch cache (c :: work) after j)
    {fields next : Cache.Fields} (hentry : j.store.cache.entryOf c.1 = some fields)
    (hadd : Cache.addDeltas fields c.2 = .ok next) (hs : j.store.Sets c.1 (some next) s) :
    PendingSince assumption before batch cache work (after ++ [.updated c.1 c.2])
      ⟨s, j.history ++ [.updated c.1 c.2]⟩ := by
  have hdeltas := h.due.deltas c List.mem_cons_self
  have huntouched := h.untouched c List.mem_cons_self
  have hrenews : ∀ e ∈ after, ¬ e.Renews c.1 :=
    fun e he hr => huntouched e he (e.about_of_renews c.1 hr)
  -- Up to now the entry lacked the batch ...
  have hlost : IsLost c.1 batch cache after := by
    refine ⟨h.due.concerns c List.mem_cons_self, ?_, hrenews, fun hmem => ?_⟩
    · rw [← h.marked c List.mem_cons_self, hentry]
      rfl
    · exact huntouched _ ((List.takeWhile_sublist _).mem hmem) rfl
  have hbefore : kept c.1 j.history = kept c.1 before := by
    rw [h.history, kept_append_committed c.1 before batch cache after h.last hrenews,
      if_pos hlost, List.append_nil]
  -- ... and from now on it does not.
  have hlast : ∀ e ∈ after ++ [.updated c.1 c.2], e.isCommit = false := by
    intro e he
    rcases List.mem_append.1 he with he | he
    · exact h.last e he
    · rw [List.mem_singleton.1 he]
      rfl
  have hfound : ¬ IsLost c.1 batch cache (after ++ [.updated c.1 c.2]) := by
    rintro ⟨-, -, -, hnot⟩
    refine hnot ?_
    rw [← hdeltas, untilCommit_eq_self _ hlast]
    exact List.mem_append_right _ (List.mem_singleton.2 rfl)
  have hafter : kept c.1 (j.history ++ [.updated c.1 c.2]) = kept c.1 before ++ batch := by
    rw [h.history, List.append_assoc, List.cons_append,
      kept_append_committed c.1 before batch cache _ hlast, if_neg hfound]
    intro e he
    rcases List.mem_append.1 he with he | he
    · exact hrenews e he
    · rw [List.mem_singleton.1 he]
      exact fun hr => hr
  refine h.step hs rfl (fun v hv => hv.symm) ?_ fun _ => hfound
  refine h.coherent.sets hs rfl (fun v hv => hv.symm) fun fields' hf => ?_
  cases hf
  rcases h.coherent.entries c.1 fields hentry with hbad | ⟨m, rfl, hm⟩
  · exact .inl (Cache.unreadable_addDeltas fields next c.2 hadd hbad)
  · have hstorable := Ledger.allStorable_aggregate c.1 _ m hm
    obtain ⟨m', hm', rfl⟩ :=
      (Cache.addDeltas_ofBalance_eq_ok_iff c.1 m hstorable c.2 next).1 hadd
    refine .inr ⟨m', rfl, ?_⟩
    rw [hbefore] at hm
    rw [hafter, Ledger.aggregate_append c.1 _ batch m hm, ← hdeltas]
    exact hm'

/-- The work for a user without an entry is done. -/
theorem skipped (h : PendingSince assumption before batch cache (c :: work) after j)
    (hnone : j.store.cache.entryOf c.1 = none) :
    PendingSince assumption before batch cache work after j := by
  refine h.tail fun _ hlost => ?_
  have hmarked := h.marked c List.mem_cons_self
  rw [hnone, hlost.2.1] at hmarked
  contradiction

end PendingSince

/-- A last batch has been recorded, and the cache work for some users is pending. -/
def Pending (assumption : Prop) (work : List (UserId × List (UserId × Int)))
    (j : Journaled) : Prop :=
  ∃ before batch cache after, PendingSince assumption before batch cache work after j

variable {c : UserId × List (UserId × Int)} {work : List (UserId × List (UserId × Int))}
  {j : Journaled}

/-- Without the assumption the work for a user may as well be given up. -/
theorem Pending.give_up (h : j.Pending assumption (c :: work)) (hnot : ¬ assumption) :
    j.Pending assumption work := by
  obtain ⟨before, batch, cache, after, h⟩ := h
  exact ⟨before, batch, cache, after, h.tail fun ha => absurd ha hnot⟩

/-- Under a stronger assumption the work remains pending. -/
theorem Pending.mono {other : Prop} (h : j.Pending assumption work) (himp : other → assumption) :
    j.Pending other work := by
  obtain ⟨before, batch, cache, after, h⟩ := h
  exact ⟨before, batch, cache, after, h.mono himp⟩

/-- A task that is dropped gives up all hope, and the work for a user with it. -/
theorem Pending.dropped (h : j.Pending assumption (c :: work)) : j.Pending False work :=
  (h.mono False.elim).give_up id

end Journaled

end ExpenseLedger
