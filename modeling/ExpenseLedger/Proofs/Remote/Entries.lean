import ExpenseLedger.Proofs.Cache.Entries
import ExpenseLedger.Remote.Entry
import ExpenseLedger.Remote.Keyspace
/-!
# Entries in a keyspace

What is replied to the dialogues about cache entries by a store that keeps keys, and what becomes of
its keys. Main statements:

* `Remote.pairs?_fieldReplies`: the fields of a hash are read as they were replied;
* `Remote.hold_lookupIn`: an entry that cannot be read is dropped, its hash and its marker;
* `Remote.hold_populate`: the entry is the balance as it is written, whatever was there before.
-/

namespace ExpenseLedger

/-- The key of a hash is never that of a marker. -/
theorem Cache.balanceKey_ne_cachedKey (user other : UserId) :
    balanceKey user ≠ cachedKey other := by
  intro h
  have hhead := congrArg (fun key : String => key.toList.head?) h
  simp [balanceKey, cachedKey] at hhead

namespace Remote

open Cache (balanceKey cachedKey)

/-! ## Keys -/

namespace Keyspace

/-- The fields of the hash under a key, of which there are none if nothing is there. A text is no
hash. -/
def fieldsAt? (key : String) (s : Keyspace) : Option Cache.Fields :=
  match s.get? key with
  | none => some Table.empty
  | some (.hash fields) => some fields
  | some (.text _) => none

/-- The keyspace without the hash and the marker of a user. -/
def without (user : UserId) (s : Keyspace) : Keyspace :=
  Table.erase (Table.erase s (balanceKey user)) (cachedKey user)

/-- The keyspace in which the entry of a user is a balance. An empty balance has no hash. -/
def holding (user : UserId) (balance : Balance) (s : Keyspace) : Keyspace :=
  let cleared := s.without user
  let filled : Keyspace :=
    if balance.isEmpty then cleared
    else Table.insert cleared (balanceKey user) (.hash (Cache.Fields.ofBalance balance))
  Table.insert filled (cachedKey user) (.text "1")

/-- Only the two keys of the user are gone. -/
theorem get?_without (user : UserId) (s : Keyspace) (key : String) :
    (s.without user).get? key =
      if key = balanceKey user ∨ key = cachedKey user then none else s.get? key := by
  unfold without
  rw [Table.get?_erase, Table.get?_erase]
  by_cases hc : key = cachedKey user
  · rw [if_pos hc, if_pos (.inr hc)]
  · rw [if_neg hc]
    by_cases hb : key = balanceKey user
    · rw [if_pos hb, if_pos (.inl hb)]
    · rw [if_neg hb, if_neg (not_or.2 ⟨hb, hc⟩)]

/-- Only the two keys of the user are written. -/
theorem get?_holding (user : UserId) (balance : Balance) (s : Keyspace) (key : String) :
    (s.holding user balance).get? key =
      if key = cachedKey user then some (.text "1")
      else if key = balanceKey user then
        if balance.isEmpty then none else some (.hash (Cache.Fields.ofBalance balance))
      else s.get? key := by
  unfold holding
  rw [Table.get?_insert]
  by_cases hc : key = cachedKey user
  · rw [if_pos hc, if_pos hc]
  · rw [if_neg hc, if_neg hc]
    by_cases hempty : balance.isEmpty = true
    · rw [if_pos hempty, if_pos hempty, get?_without]
      by_cases hb : key = balanceKey user
      · rw [if_pos (.inl hb), if_pos hb]
      · rw [if_neg (not_or.2 ⟨hb, hc⟩), if_neg hb]
    · rw [if_neg hempty, if_neg hempty, Table.get?_insert, get?_without]
      by_cases hb : key = balanceKey user
      · rw [if_pos hb, if_pos hb]
      · rw [if_neg hb, if_neg hb, if_neg (not_or.2 ⟨hb, hc⟩)]

/-- The hash of a balance is under the key of the user, and no hash that was there shows through. -/
theorem fieldsAt?_holding (user : UserId) (balance : Balance) (s : Keyspace) :
    (s.holding user balance).fieldsAt? (balanceKey user) =
      some (Cache.Fields.ofBalance balance) := by
  unfold fieldsAt?
  rw [get?_holding, if_neg (Cache.balanceKey_ne_cachedKey user user), if_pos rfl]
  by_cases hempty : balance.isEmpty = true
  · have hnone : balance = Table.empty := Table.eq_of_entries (List.isEmpty_iff.1 hempty)
    rw [if_pos hempty, hnone, Cache.ofBalance_empty]
  · rw [if_neg hempty]

/-- The marker of the user is set. -/
theorem contains_holding (user : UserId) (balance : Balance) (s : Keyspace) :
    (s.holding user balance).contains (cachedKey user) = true := by
  unfold Table.contains
  rw [get?_holding, if_pos rfl]
  rfl

end Keyspace

/-! ## Replies without complaint -/

/-- Fields that are replied hold no complaint. -/
theorem firstComplaint?_fieldReplies (l : List (String × String)) :
    Reply.firstComplaint? (l.flatMap fun f => [Reply.text f.1, Reply.text f.2]) = none := by
  induction l with
  | nil => rfl
  | cons f l ih =>
    rw [List.flatMap_cons]
    exact ih

/-- Replied fields are read as those fields. -/
theorem pairs?_replies (l : List (String × String)) :
    Reply.pairs? (l.flatMap fun f => [Reply.text f.1, Reply.text f.2]) = some l := by
  induction l with
  | nil => rfl
  | cons f l ih =>
    rw [List.flatMap_cons]
    simp only [List.cons_append, List.nil_append, Reply.pairs?, Reply.text?, ih]
    rfl

/-- **The fields of a hash are read as they were replied.** -/
theorem fields?_fieldReplies (fields : Cache.Fields) :
    Reply.fields? (.list (Keyspace.fieldReplies fields)) = some fields := by
  simp only [Reply.fields?, Keyspace.fieldReplies, pairs?_replies, Option.map_some,
    Table.ofList_entries]

/-! ## Single commands -/

/-- Asking for a key changes nothing. -/
theorem answer_contains (key : String) (s : Keyspace) :
    Keyspace.answer (.contains key) s = (.integer (if s.contains key then 1 else 0), s) := by
  simp only [Keyspace.answer]

/-- Reading a hash replies its fields and changes nothing. -/
theorem answer_readHash (key : String) (s : Keyspace) (fields : Cache.Fields)
    (h : s.fieldsAt? key = some fields) :
    Keyspace.answer (.readHash key) s = (.list (Keyspace.fieldReplies fields), s) := by
  unfold Keyspace.fieldsAt? at h
  cases hvalue : s.get? key with
  | none =>
    rw [hvalue] at h
    cases h
    simp only [Keyspace.answer, hvalue]
    rfl
  | some value =>
    rw [hvalue] at h
    cases value with
    | text value => contradiction
    | hash old =>
      cases h
      simp only [Keyspace.answer, hvalue]

/-- Writing the fields of a balance that has some under a free key makes the hash of the balance. -/
theorem answer_writeHash (key : String) (balance : Balance) (s : Keyspace)
    (hsome : (Cache.encode balance).isEmpty = false) (hfree : s.get? key = none) :
    Keyspace.answer (.writeHash key (Cache.encode balance)) s =
      (.status "OK", s.insert key (.hash (Cache.Fields.ofBalance balance))) := by
  have hwritten : Keyspace.writeFields Table.empty (Cache.encode balance) =
      Cache.Fields.ofBalance balance := by
    unfold Keyspace.writeFields Cache.Fields.ofBalance Table.ofList
    rw [List.foldl_map]
  cases hencode : Cache.encode balance with
  | nil =>
    rw [hencode] at hsome
    contradiction
  | cons f fields =>
    rw [hencode] at hwritten
    simp only [Keyspace.answer, hfree, hwritten]

/-- A lifetime of at least a second removes nothing. -/
theorem answer_expire (key : String) (n : Nat) (hn : n ≠ 0) (s : Keyspace) :
    ∃ value, Keyspace.answer (.expire key n) s = (.integer value, s) := by
  simp only [Keyspace.answer, if_neg hn]
  split
  · exact ⟨1, rfl⟩
  · exact ⟨0, rfl⟩

/-! ## Commands together -/

/-- The commands are carried out without complaint, and lead from a keyspace to another one. -/
structure Leads (commands : List Command) (s t : Keyspace) : Prop where
  /-- Where they end. -/
  state : (Keyspace.answers commands s).2 = t
  /-- No reply is a complaint. -/
  quiet : Reply.firstComplaint? (Keyspace.answers commands s).1 = none

/-- No commands lead nowhere. -/
theorem Leads.nil (s : Keyspace) : Leads [] s s := ⟨rfl, rfl⟩

/-- A command that is replied without complaint comes first. -/
theorem Leads.cons {command : Command} {commands : List Command} {s t u : Keyspace} {reply : Reply}
    (hanswer : Keyspace.answer command s = (reply, t)) (hreply : reply.complaint? = none)
    (h : Leads commands t u) : Leads (command :: commands) s u := by
  constructor
  · simp only [Keyspace.answers, hanswer, h.state]
  · simp only [Keyspace.answers, hanswer, Reply.firstComplaint?, hreply, h.quiet]

/-- Commands lead on from where others have led. -/
theorem Leads.append {first second : List Command} {s t u : Keyspace} (hfirst : Leads first s t)
    (hsecond : Leads second t u) : Leads (first ++ second) s u := by
  induction first generalizing s with
  | nil =>
    obtain ⟨rfl, -⟩ := hfirst
    exact hsecond
  | cons command commands ih =>
    obtain ⟨hstate, hquiet⟩ := hfirst
    simp only [Keyspace.answers, Reply.firstComplaint?] at hstate hquiet
    cases hreply : (Keyspace.answer command s).1.complaint? with
    | some complaint =>
      rw [hreply] at hquiet
      contradiction
    | none =>
      rw [hreply] at hquiet
      exact Leads.cons rfl hreply (ih ⟨hstate, hquiet⟩)

/-- An entry is replaced by removing it, writing the hash if there is one and setting the marker. -/
theorem leads_replace (user : UserId) (balance : Balance) (s : Keyspace) :
    Leads ([.delete [balanceKey user], .delete [cachedKey user]] ++
        (if (Cache.encode balance).isEmpty then []
          else [.writeHash (balanceKey user) (Cache.encode balance)]) ++
        [.set (cachedKey user) 1]) s (s.holding user balance) := by
  have hdelete : Leads [.delete [balanceKey user], .delete [cachedKey user]] s
      (s.without user) := ⟨rfl, rfl⟩
  have hset (t : Keyspace) : Leads [.set (cachedKey user) 1] t
      (Table.insert t (cachedKey user) (.text "1")) := ⟨rfl, rfl⟩
  have hisEmpty : (Cache.encode balance).isEmpty = balance.isEmpty := by
    unfold Cache.encode Table.isEmpty
    rw [List.isEmpty_map]
  unfold Keyspace.holding
  rw [hisEmpty]
  cases hempty : balance.isEmpty with
  | true => exact (hdelete.append (.nil _)).append (hset _)
  | false =>
    have hfree : (s.without user).get? (balanceKey user) = none := by
      rw [Keyspace.get?_without, if_pos (.inl rfl)]
    have hwrite := answer_writeHash (balanceKey user) balance (s.without user)
      (hisEmpty.trans hempty) hfree
    exact (hdelete.append (.cons hwrite rfl (.nil _))).append (hset _)

/-- The commands that replace an entry lead to the keyspace that holds the balance, with or without
a lifetime. -/
theorem leads_populateCommands (lifetime : Option Nat) (hlifetime : lifetime ≠ some 0)
    (user : UserId) (balance : Balance) (s : Keyspace) :
    Leads (populateCommands lifetime user balance) s (s.holding user balance) := by
  have hreplace := leads_replace user balance s
  unfold populateCommands
  cases lifetime with
  | none => exact hreplace.append (.nil _)
  | some n =>
    have hn : n ≠ 0 := fun h => hlifetime (congrArg some h)
    obtain ⟨_, hhash⟩ := answer_expire (balanceKey user) n hn (s.holding user balance)
    obtain ⟨_, hmarker⟩ := answer_expire (cachedKey user) n hn (s.holding user balance)
    exact hreplace.append (.cons hhash rfl (.cons hmarker rfl (.nil _)))

/-! ## Dialogues -/

/-- A query is one request. -/
theorem hold_query {σ α : Type} (serve : Request → σ → Reply × σ) (request : Request)
    (reading? : Reply → Option α) (s : σ) :
    (Dialogue.query request reading?).hold serve s =
      ((serve request s).1.read reading?, (serve request s).2) := rfl

/-- Asking for an entry tells whether the marker is there, and changes nothing. -/
theorem hold_hasEntry (user : UserId) (s : Keyspace) :
    (hasEntry user).hold Keyspace.serve s = (.ok (s.contains (cachedKey user)), s) := by
  unfold hasEntry
  rw [hold_query]
  simp only [Keyspace.serve, answer_contains]
  cases s.contains (cachedKey user) <;> rfl

/-- Clearing removes both keys of the user. -/
theorem hold_clear (user : UserId) (s : Keyspace) :
    (clear user).hold Keyspace.serve s = (.ok (), s.without user) := rfl

/-- **A look-up reads the hash if the marker is there, and an entry that cannot be read is
dropped.** -/
theorem hold_lookupIn (order : Cache.Fields.Order) (user : UserId) (s : Keyspace)
    (fields : Cache.Fields) (h : s.fieldsAt? (balanceKey user) = some fields) :
    (lookupIn order user).hold Keyspace.serve s =
      if s.contains (cachedKey user) then
        match Cache.decodeIn order fields with
        | .ok balance => (.ok (.hit balance), s)
        | .error _ => (.ok .notCached, s.without user)
      else (.ok .notCached, s) := by
  have hreply : Keyspace.serve
      (.together [.contains (cachedKey user), .readHash (balanceKey user)]) s =
        (.list [.integer (if s.contains (cachedKey user) then 1 else 0),
          .list (Keyspace.fieldReplies fields)], s) := by
    simp only [Keyspace.serve, Keyspace.answers, answer_contains, answer_readHash _ s fields h]
  have hread : Reply.read Reply.entry? (.list [.integer (if s.contains (cachedKey user) then 1
      else 0), .list (Keyspace.fieldReplies fields)]) =
        .ok (s.contains (cachedKey user), fields) := by
    unfold Reply.read
    simp only [Reply.complaint?, Reply.firstComplaint?, Keyspace.fieldReplies,
      firstComplaint?_fieldReplies]
    have hfields := fields?_fieldReplies fields
    unfold Keyspace.fieldReplies at hfields
    simp only [Reply.entry?, hfields]
    cases s.contains (cachedKey user) <;> rfl
  unfold lookupIn
  rw [Dialogue.hold_bind, hold_query, hreply, hread]
  cases s.contains (cachedKey user) with
  | false => rfl
  | true =>
    cases hdecode : Cache.decodeIn order fields with
    | ok balance =>
      simp only [hdecode]
      rfl
    | error e =>
      simp only [hdecode]
      rw [Dialogue.hold_bind, hold_clear]
      rfl

/-- **The entry of a user is replaced by a balance, whatever was there before.** -/
theorem hold_populate (lifetime : Option Nat) (hlifetime : lifetime ≠ some 0) (user : UserId)
    (balance : Balance) (s : Keyspace) :
    (populate lifetime user balance).hold Keyspace.serve s =
      (.ok (), s.holding user balance) := by
  obtain ⟨hstate, hquiet⟩ := leads_populateCommands lifetime hlifetime user balance s
  unfold populate
  rw [hold_query]
  simp only [Keyspace.serve, Reply.read, Reply.complaint?, hquiet, hstate]

end Remote

end ExpenseLedger
