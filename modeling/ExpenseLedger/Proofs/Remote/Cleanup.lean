import ExpenseLedger.Proofs.Remote.Entries
import ExpenseLedger.Remote.Rehearsal
/-!
# Dropping an entry that cannot be read

A look-up that finds an entry it cannot read removes it by a request of its own, and what is replied
to that request decides how the look-up ends. Main statements:

* `Remote.hold_lookup_unreadable`: with any server, the look-up ends as the removal does;
* `Remote.lookup_eq_notCached_iff`: with a rehearsed server, the entry counts as absent exactly if
  nothing is complained of at the removal.
-/

namespace ExpenseLedger.Remote

open Cache (balanceKey cachedKey)

/-- The request for an entry: its marker and its hash, both at once. -/
def entryRequest (user : UserId) : Request :=
  .together [.contains (cachedKey user), .readHash (balanceKey user)]

/-- The request that removes an entry: its hash and its marker, both at once. -/
def removal (user : UserId) : Request := .one (.delete [balanceKey user, cachedKey user])

/-- A request that nothing is read from succeeds exactly if nothing is complained of. -/
theorem read_unit (reply : Reply) :
    reply.read (fun _ => some ()) =
      match reply.complaint? with
      | some complaint => .error (.reported .cache complaint)
      | none => .ok () := by
  unfold Reply.read
  cases reply.complaint? with
  | some complaint => rfl
  | none => rfl

/-- **With any server, a look-up that finds an entry it cannot read ends as the removal does**, in
whatever order the fields are visited. It passes on the complaint of the server, and only without
one the entry counts as absent. -/
theorem hold_lookup_unreadable {σ : Type} (serve : Request → σ → Reply × σ)
    (order : Cache.Fields.Order) (user : UserId) (s : σ) (fields : Cache.Fields)
    (hfirst : (serve (entryRequest user) s).1.read Reply.entry? = .ok (true, fields))
    (hu : Cache.Unreadable fields) :
    (lookupIn order user).hold serve s =
      (match (serve (removal user) (serve (entryRequest user) s).2).1.complaint? with
        | some complaint => .error (.reported .cache complaint)
        | none => .ok .notCached,
      (serve (removal user) (serve (entryRequest user) s).2).2) := by
  obtain ⟨e, he⟩ := (Cache.decodeIn_eq_error_iff order fields).2 hu
  unfold entryRequest at hfirst ⊢
  unfold lookupIn
  rw [Dialogue.hold_bind, hold_query, hfirst]
  simp only [he]
  rw [Dialogue.hold_bind]
  unfold clear
  rw [hold_query, read_unit]
  unfold removal
  -- What the look-up makes of the removal depends on the complaint alone.
  cases (serve (.one (.delete [balanceKey user, cachedKey user]))
      (serve (.together [.contains (cachedKey user), .readHash (balanceKey user)]) s).2
      ).1.complaint? with
  | some complaint => rfl
  | none => rfl

namespace Rehearsal

/-- What is replied to the next request. -/
def next (s : Rehearsal) : Reply := s.replies.head?.getD (.error "ERR connection closed")

/-- A rehearsed server gives the next reply and notes what it was sent. -/
theorem serve_eq (request : Request) (s : Rehearsal) :
    serve request s = (s.next, ⟨s.sent ++ request.words, s.replies.tail⟩) := by
  obtain ⟨sent, replies⟩ := s
  cases replies with
  | nil => rfl
  | cons reply replies => rfl

end Rehearsal

/-- **An entry that cannot be read counts as absent exactly if nothing is complained of at its
removal.** A complaint about the removal is the answer to the look-up. Whatever is replied, the
entry is asked for once and then removed, both of its keys, and nothing else is sent. -/
theorem lookup_eq_notCached_iff (user : UserId) (sent : List (List String)) (first : Reply)
    (rest : List Reply) (fields : Cache.Fields)
    (hfirst : first.read Reply.entry? = .ok (true, fields)) (hu : Cache.Unreadable fields) :
    let ended := (lookup user).hold Rehearsal.serve ⟨sent, first :: rest⟩
    let atRemoval := Rehearsal.next ⟨sent, rest⟩
    (ended.1 = .ok .notCached ↔ atRemoval.complaint? = none) ∧
    (∀ e, ended.1 = .error e ↔
      ∃ complaint, atRemoval.complaint? = some complaint ∧ e = .reported .cache complaint) ∧
    ended.2.sent = sent ++
      [["MULTI"], ["EXISTS", cachedKey user], ["HGETALL", balanceKey user], ["EXEC"],
        ["DEL", balanceKey user, cachedKey user]] ∧
    ended.2.replies = rest.tail := by
  intro ended atRemoval
  have hasked := Rehearsal.serve_eq (entryRequest user) ⟨sent, first :: rest⟩
  have hremoved := Rehearsal.serve_eq (removal user) ⟨sent ++ (entryRequest user).words, rest⟩
  have hended : ended =
      (match atRemoval.complaint? with
        | some complaint => .error (.reported .cache complaint)
        | none => .ok .notCached,
      ⟨sent ++ (entryRequest user).words ++ (removal user).words, rest.tail⟩) := by
    have hheld := hold_lookup_unreadable Rehearsal.serve .ascending user ⟨sent, first :: rest⟩ fields
      (by rw [hasked]; exact hfirst) hu
    rw [hasked] at hheld
    dsimp only [List.tail_cons] at hheld
    rw [hremoved] at hheld
    exact hheld
  have hwords : sent ++ (entryRequest user).words ++ (removal user).words = sent ++
      [["MULTI"], ["EXISTS", cachedKey user], ["HGETALL", balanceKey user], ["EXEC"],
        ["DEL", balanceKey user, cachedKey user]] :=
    List.append_assoc sent _ _
  rw [hended]
  refine ⟨?_, fun e => ?_, hwords, rfl⟩
  · cases atRemoval.complaint? with
    | some complaint => simp
    | none => simp
  · cases atRemoval.complaint? with
    | some complaint => simp [eq_comm]
    | none => simp

namespace Sample

/-- A user whose entry names a counterparty that is no user. -/
def carol : UserId := ⟨Id.ofNat 3⟩

/-- The marker is there, and the hash has a field that no user writes. -/
def strayField : Reply := .list [.integer 1, .list [.text "not-a-user", .text "12"]]

/-- The fields of that hash. -/
def strayFields : Cache.Fields := Table.empty.insert "not-a-user" "12"

/-- They cannot be read. -/
theorem unreadable_strayFields : Cache.Unreadable strayFields := by
  refine Cache.unreadable_insert Table.empty "not-a-user" "12" ?_
  have hstray : UserId.ofText? "not-a-user" = none := by decide +kernel
  unfold Cache.Rejects Cache.readField
  rw [hstray]
  exact ⟨_, rfl⟩

end Sample

open ExpenseLedger.Remote.Sample

/-- Where the server counts two removed keys, the entry counts as absent. -/
theorem lookup_eq_notCached_iff_removed :
    strayField.read Reply.entry? = .ok (true, strayFields) ∧ Cache.Unreadable strayFields ∧
    ((lookup carol).hold Rehearsal.serve ⟨[], [strayField, .integer 2]⟩).1 = .ok .notCached := by
  have hread : strayField.read Reply.entry? = .ok (true, strayFields) := rfl
  refine ⟨hread, unreadable_strayFields, ?_⟩
  have hiff := (lookup_eq_notCached_iff carol [] strayField [.integer 2] strayFields hread
    unreadable_strayFields).1
  exact hiff.2 rfl

/-- **An entry that cannot be read can be an error.** The server reports the marker and a field that
no user writes, and it refuses the removal. -/
theorem lookup_fails_at_removal :
    strayField.read Reply.entry? = .ok (true, strayFields) ∧ Cache.Unreadable strayFields ∧
    ((lookup carol).hold Rehearsal.serve ⟨[], [strayField, .error "ERR boom"]⟩).1 =
      .error (.reported .cache "ERR boom") := by
  refine ⟨rfl, unreadable_strayFields, ?_⟩
  unfold lookup
  rw [hold_lookup_unreadable Rehearsal.serve .ascending carol _ strayFields rfl
    unreadable_strayFields]
  rfl

end ExpenseLedger.Remote
