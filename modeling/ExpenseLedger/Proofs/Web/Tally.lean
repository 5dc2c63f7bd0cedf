import Mathlib.Data.List.Nodup
import ExpenseLedger.Proofs.Web.Effects
/-!
# What the tally of requests shows

A route and a status are told from others by a digest of their joined texts, which is no injection.
On the routes and the statuses of the service it is one (`Tally.requestKey_injective`), so that there
every route and status have a sample of their own. Main statement: `Tally.Holds.filter_requestCounts`,
the samples of a tally are the numbers of the requests that have been counted.
-/

namespace ExpenseLedger.Web

/-! ## Routes and statuses -/

/-- All endpoints. -/
def Endpoint.all : List Endpoint :=
  [.getBalance, .listGroups, .createGroup, .getGroup, .deleteGroup, .listMembers, .addMembers,
    .removeMember, .shareExpense]

/-- There are no other endpoints. -/
theorem Endpoint.mem_all (e : Endpoint) : e ∈ all := by
  cases e <;> decide

/-- The statuses with which calls of the engine are answered. -/
def Call.statuses : List Nat := [200, 201, 204, 400, 403, 404, 500, 504]

/-- Failures of calls have one of these statuses. -/
theorem Failure.status_ofError_mem (e : Error) : (ofError e).status ∈ Call.statuses := by
  unfold ofError
  cases e.kind with
  | notFound => exact (by decide : 404 ∈ Call.statuses)
  | forbidden => exact (by decide : 403 ∈ Call.statuses)
  | badRequest => exact (by decide : 400 ∈ Call.statuses)
  | timeout => exact (by decide : 504 ∈ Call.statuses)
  | storage => exact (by decide : 500 ∈ Call.statuses)
  | cache => exact (by decide : 500 ∈ Call.statuses)
  | corrupted => exact (by decide : 500 ∈ Call.statuses)

/-- Routes have different names. -/
theorem Endpoint.name_injective : Function.Injective name := by
  intro e e' h
  cases e <;> cases e' <;> first | rfl | exact absurd h (by decide)

/-- Numbers have different texts. -/
theorem toString_nat_injective {m n : Nat} (h : toString m = toString n) : m = n := by
  rw [Nat.toString_eq_ofList_toDigits, Nat.toString_eq_ofList_toDigits, String.ofList_inj] at h
  calc m = Nat.ofDigitChars 10 (Nat.toDigits 10 m) 0 := Nat.ofDigitChars_ten_toDigits.symm
    _ = Nat.ofDigitChars 10 (Nat.toDigits 10 n) 0 := by rw [h]
    _ = n := Nat.ofDigitChars_ten_toDigits

namespace Tally

/-- The digests of the routes and statuses of the service. -/
def serviceKeys : List UInt64 :=
  (Endpoint.all.product Call.statuses).map fun p => requestKey p.1.name p.2

/-- There are no collisions among them. -/
theorem nodup_serviceKeys : serviceKeys.Nodup := by
  decide +kernel

/-- **Routes and statuses of the service are told apart by their digests.** -/
theorem requestKey_injective {e e' : Endpoint} {status status' : Nat}
    (hs : status ∈ Call.statuses) (hs' : status' ∈ Call.statuses)
    (h : requestKey e.name status = requestKey e'.name status') : e = e' ∧ status = status' := by
  have hinj := List.inj_on_of_nodup_map nodup_serviceKeys
  have heq : (e, status) = (e', status') :=
    hinj (List.pair_mem_product.2 ⟨e.mem_all, hs⟩) (List.pair_mem_product.2 ⟨e'.mem_all, hs'⟩) h
  exact ⟨congrArg Prod.fst heq, congrArg Prod.snd heq⟩

/-! ## Counted requests -/

/-- The samples after a request depend on those before it alone. -/
theorem requests_countRequest {t t' : Tally} (h : t.requests = t'.requests) (route : String)
    (status : Nat) :
    (t.countRequest route status).requests = (t'.countRequest route status).requests := by
  unfold countRequest
  rw [h]

/-- The samples of a table are the counts of a list of requests, each with its route and status. -/
structure Holds (requests : Table UInt64 RequestCount) (counted : List (Endpoint × Nat)) : Prop where
  /-- Only statuses of the service have been counted. -/
  statuses : ∀ p ∈ counted, p.2 ∈ Call.statuses
  /-- A route and a status that occur have a sample with their number. -/
  sample : ∀ p ∈ counted, requests.get? (requestKey p.1.name p.2) =
    some ⟨p.1.name, toString p.2, counted.count p⟩
  /-- There is no sample of anything else. -/
  counted : ∀ key c, requests.get? key = some c →
    ∃ p ∈ counted, key = requestKey p.1.name p.2

/-- In the beginning there are no samples. -/
theorem holds_zero : Holds zero.requests [] where
  statuses p hp := by contradiction
  sample p hp := by contradiction
  counted key c hc := by
    rw [show zero.requests = Table.empty from rfl, Table.get?_empty] at hc
    contradiction

/-- A route and a status that do not occur have no sample. -/
theorem Holds.get?_eq_none {requests : Table UInt64 RequestCount}
    {counted : List (Endpoint × Nat)} (h : Holds requests counted) {e : Endpoint} {status : Nat}
    (hstatus : status ∈ Call.statuses) (hnew : (e, status) ∉ counted) :
    requests.get? (requestKey e.name status) = none := by
  refine Option.eq_none_iff_forall_ne_some.2 fun c hc => ?_
  obtain ⟨p, hp, hkey⟩ := h.counted _ c hc
  obtain ⟨rfl, rfl⟩ := requestKey_injective hstatus (h.statuses p hp) hkey
  exact hnew hp

/-- **One more request.** -/
theorem Holds.countRequest {t : Tally} {counted : List (Endpoint × Nat)}
    (h : Holds t.requests counted) (e : Endpoint) (status : Nat)
    (hstatus : status ∈ Call.statuses) :
    Holds (t.countRequest e.name status).requests (counted ++ [(e, status)]) := by
  have hcount : (counted ++ [(e, status)]).count (e, status) = counted.count (e, status) + 1 := by
    rw [List.count_append, List.count_singleton_self]
  -- The sample that is raised has the count so far, which is zero for a new one.
  have hseen : t.requests.getD (requestKey e.name status) ⟨e.name, toString status, 0⟩ =
      ⟨e.name, toString status, counted.count (e, status)⟩ := by
    rw [Table.getD_eq]
    by_cases hold : (e, status) ∈ counted
    · rw [h.sample _ hold]
      rfl
    · rw [h.get?_eq_none hstatus hold, List.count_eq_zero.2 hold]
      rfl
  refine ⟨fun p hp => ?_, fun p hp => ?_, fun key c hc => ?_⟩
  · rcases List.mem_append.1 hp with hp | hp
    · exact h.statuses p hp
    · rw [List.mem_singleton.1 hp]
      exact hstatus
  · change (t.requests.insert _ _).get? _ = _
    rw [hseen, Table.get?_insert]
    by_cases heq : p = (e, status)
    · subst heq
      rw [if_pos rfl, hcount]
      rfl
    · have hp' : p ∈ counted := by
        rcases List.mem_append.1 hp with hp | hp
        · exact hp
        · exact absurd (List.mem_singleton.1 hp) heq
      have hkey : requestKey p.1.name p.2 ≠ requestKey e.name status := fun hkey =>
        heq (Prod.ext_iff.2 (requestKey_injective (h.statuses p hp') hstatus hkey))
      rw [if_neg hkey, h.sample p hp', List.count_append, List.count_singleton]
      simp [Ne.symm heq]
  · change (t.requests.insert _ _).get? key = some c at hc
    rw [Table.get?_insert] at hc
    split at hc
    · rename_i hkey
      exact ⟨(e, status), by simp, hkey⟩
    · obtain ⟨p, hp, hkey⟩ := h.counted key c hc
      exact ⟨p, List.mem_append_left _ hp, hkey⟩

/-! ## Samples -/

/-- What is shown are the samples of the table. -/
theorem mem_requestCounts (t : Tally) (c : RequestCount) :
    c ∈ t.requestCounts ↔ ∃ key, t.requests.get? key = some c := by
  unfold requestCounts
  rw [List.mem_mergeSort, Table.values, List.mem_map]
  constructor
  · rintro ⟨⟨key, c⟩, he, rfl⟩
    exact ⟨key, (Table.get?_eq_some_iff _ _ _).2 he⟩
  · rintro ⟨key, hc⟩
    exact ⟨(key, c), (Table.get?_eq_some_iff _ _ _).1 hc, rfl⟩

/-- A sample has a route and a status exactly if they have been counted and it has their key. -/
theorem Holds.labels_iff {requests : Table UInt64 RequestCount} {counted : List (Endpoint × Nat)}
    (h : Holds requests counted) {e : Endpoint} {status : Nat} {key : UInt64} {c : RequestCount}
    (hc : requests.get? key = some c) :
    c.route = e.name ∧ c.status = toString status ↔
      (e, status) ∈ counted ∧ key = requestKey e.name status := by
  obtain ⟨p, hp, rfl⟩ := h.counted key c hc
  rw [h.sample p hp] at hc
  cases hc
  constructor
  · rintro ⟨hroute, htext⟩
    have heq : p = (e, status) :=
      Prod.ext_iff.2 ⟨Endpoint.name_injective hroute, toString_nat_injective htext⟩
    rw [heq] at hp ⊢
    exact ⟨hp, rfl⟩
  · rintro ⟨hmem, hkey⟩
    obtain ⟨h1, h2⟩ := requestKey_injective (h.statuses p hp) (h.statuses _ hmem) hkey
    rw [h1, h2]
    exact ⟨rfl, rfl⟩

/-- What is shown of some samples are these entries of the table, in some order. -/
theorem perm_filter_requestCounts (t : Tally) (shown : RequestCount → Bool) :
    (t.requestCounts.filter shown).Perm
      ((t.requests.entries.filter fun en => shown en.2).map (·.2)) := by
  unfold requestCounts Table.values
  refine ((List.mergeSort_perm _ _).filter _).trans ?_
  rw [List.filter_map]
  exact .refl _

/-- **The samples with a route and a status are one sample with the number of such requests, or none
where there have been no such requests.** -/
theorem Holds.filter_requestCounts {t : Tally} {counted : List (Endpoint × Nat)}
    (h : Holds t.requests counted) (e : Endpoint) (status : Nat) :
    (t.requestCounts.filter fun c => c.route = e.name ∧ c.status = toString status) =
      if counted.count (e, status) = 0 then []
      else [⟨e.name, toString status, counted.count (e, status)⟩] := by
  by_cases hold : (e, status) ∈ counted
  · have hsample := h.sample _ hold
    -- Keys are unique, so that there is a single entry; the order of samples plays no part.
    have hentries : (t.requests.entries.filter fun en => decide (en.2.route = e.name ∧
        en.2.status = toString status)).Perm
        [(requestKey e.name status, ⟨e.name, toString status, counted.count (e, status)⟩)] := by
      refine (List.perm_ext_iff_of_nodup ?_ (List.nodup_singleton _)).2 fun en => ?_
      · exact (List.Nodup.of_map _ t.requests.nodup_keys).filter _
      · rw [List.mem_filter, List.mem_singleton, decide_eq_true_eq]
        constructor
        · rintro ⟨hmem, hlabels⟩
          have hget := (Table.get?_eq_some_iff _ _ _).2 hmem
          obtain ⟨-, hkey⟩ := (h.labels_iff hget).1 hlabels
          rw [hkey, hsample] at hget
          exact Prod.ext_iff.2 ⟨hkey, (Option.some.inj hget).symm⟩
        · rintro rfl
          exact ⟨(Table.get?_eq_some_iff _ _ _).1 hsample, rfl, rfl⟩
    rw [if_neg fun hzero => List.count_eq_zero.1 hzero hold]
    exact List.perm_singleton.1 ((t.perm_filter_requestCounts _).trans (hentries.map _))
  · rw [if_pos (List.count_eq_zero.2 hold), List.filter_eq_nil_iff]
    intro c hc hlabels
    obtain ⟨key, hget⟩ := (t.mem_requestCounts c).1 hc
    exact hold ((h.labels_iff hget).1 (of_decide_eq_true hlabels)).1

/-- Every sample has the labels of a request that has been counted. -/
theorem Holds.exists_of_mem_requestCounts {t : Tally} {counted : List (Endpoint × Nat)}
    (h : Holds t.requests counted) {c : RequestCount} (hc : c ∈ t.requestCounts) :
    ∃ p ∈ counted, c.route = p.1.name ∧ c.status = toString p.2 := by
  obtain ⟨key, hget⟩ := (t.mem_requestCounts c).1 hc
  obtain ⟨p, hp, rfl⟩ := h.counted key c hget
  rw [h.sample p hp] at hget
  cases hget
  exact ⟨p, hp, rfl, rfl⟩

end Tally

end ExpenseLedger.Web
