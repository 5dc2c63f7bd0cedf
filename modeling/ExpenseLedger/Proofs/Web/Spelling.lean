import ExpenseLedger.Proofs.Web.Tidy
/-!
# The spelling of identifiers

A client may spell the identifiers in a request as it likes, and gets the same answer, in which they
are spelled in one way. Only the lengths of requests have limits, and a spelling that is longer may
exceed one of them. Main statements:

* `Site.spelling_is_immaterial`: any two requests that keep or exceed the same limits;
* `spelling_exceeds_limit`: two requests of which only one keeps the limit for bodies.
-/

namespace ExpenseLedger

/-! ## Blanks behind a text -/

namespace Json

/-- Blanks spell nothing. -/
theorem spells_blanks (n : Nat) : Spells (List.replicate n ' ') [] := by
  intro held
  refine ⟨⟨.gap, held⟩, ?_, rfl⟩
  induction n with
  | zero => rfl
  | succ n ih => exact ih

/-- Blanks can stand behind a spelling. -/
theorem Spells.append_blanks {cs : List Char} {ts : List Token} (h : Spells cs ts) (n : Nat) :
    Spells (cs ++ List.replicate n ' ') ts := by
  cases n with
  | zero => simpa using h
  | succ n =>
    have hblanks : Spells (' ' :: List.replicate n ' ') [] := spells_blanks (n + 1)
    rw [List.replicate_succ, ← List.append_nil ts]
    exact h.append rfl rfl hblanks

/-- The tokens of a text with blanks behind it. -/
theorem tokenize_padded (v : Json) (h : v.IsWhole) (n : Nat) :
    tokenize (v.write ++ String.ofList (List.replicate n ' ')).toList = some v.tokens := by
  unfold write
  rw [String.toList_append, String.toList_ofList, String.toList_ofList]
  exact ((spells_tokens v h).append_blanks n).tokenize

/-- The number of bytes of a text with blanks behind it. -/
theorem utf8ByteSize_padded (v : Json) (n : Nat) :
    (v.write ++ String.ofList (List.replicate n ' ')).utf8ByteSize = v.write.utf8ByteSize + n := by
  rw [String.utf8ByteSize_append]
  induction n with
  | zero => rfl
  | succ n ih =>
    rw [List.replicate_succ', String.ofList_append, String.utf8ByteSize_append, ← Nat.add_assoc, ih]
    rfl

end Json

namespace Web

/-! ## Any spelling -/

/-- **How a client spells identifiers never matters.** Two requests that are the same but for the
spelling of the caller, of the identifiers in their paths and of those in their bodies, of which both
are within each limit of length or neither is, get the same answer after the same time and leave the
same state behind, whatever the state, the waits and the deadline, on any backends. On backends in
memory there is an answer, also if somebody else is always the first to delete a group. Whatever in
its JSON spells an identifier is the identifier's own text, but for names of groups and times, if no
group has more users than a machine word counts. Of the answers to rejected requests only the status
is spoken of here: their texts are the framework's. -/
theorem Site.spelling_is_immaterial (settings : EngineSettings) (timeout : Nat) {r r' : Request}
    (h : r.Respelled r') (hlimits : r.SameLimits r') :
    (∀ (σ : Type) (b : Backends σ), handle b settings timeout r = handle b settings timeout r') ∧
    ∀ (w : Store.Waits) (b : Backends Store),
      b = Store.backends w ∨ b = (Store.backends w).outrun →
      ∀ x, x.engine.store.directory.Countable → ∃ response spent,
        (handle b settings timeout r none x).outcome = .done response spent ∧ response.Tidy := by
  refine ⟨fun σ b => handle_eq_of_respelled b settings timeout h hlimits, fun w b hb x hx => ?_⟩
  have hrealizes : b.Realizes := Store.realizes_of_inMemory hb
  have hakin (amounts : Int → Prop) : b.Akin Eq (Error.SameOwn amounts) b := by
    rcases hb with rfl | rfl
    · exact Store.akin_backends w
    · exact (Store.akin_backends w).outrun
  obtain ⟨response, spent, hrun, hanswered⟩ := exists_answered b settings timeout r x
  exact ⟨response, spent, hrun, tidy_of_answered hrealizes hakin hx hanswered⟩

end Web

open Web

namespace Sample

/-! ## Invitations -/

/-- A message that names a user. -/
def named (user : String) : Json := .record [("ids", .list [.text user])]

/-- A caller adds a user to a group. Blanks stand behind the message. -/
def invitation (caller group user : String) (blanks : Nat) : Request :=
  ⟨"POST", "/api/v1/groups/" ++ group ++ "/members",
    [("X-User-Id", caller), ("Content-Type", "application/json")],
    (named user).write ++ String.ofList (List.replicate blanks ' ')⟩

section Invitations

variable (caller group user : String) (blanks : Nat)

/-- The tokens of a message that names a user. -/
theorem tokenize_named :
    Json.tokenize ((named user).write ++ String.ofList (List.replicate blanks ' ')).toList =
      some [.openObject, .string (some "ids"), .colon, .openList, .string (some user), .closeList,
        .closeObject] :=
  Json.tokenize_padded (named user) ⟨⟨trivial, trivial⟩, trivial⟩ blanks

/-- The path of an invitation, from its segments. -/
theorem toList_target : (invitation caller group user blanks).target.toList =
    [] ++ (joined ["api".toList, "v1".toList, "groups".toList, group.toList, "members".toList] ++
      []) := by
  simp [invitation, joined]

/-- The headers of an invitation. -/
theorem header?_invitation (name : String) : (invitation caller group user blanks).header? name =
    if Request.lowercase "X-User-Id" = Request.lowercase name then some caller
    else if Request.lowercase "Content-Type" = Request.lowercase name then some "application/json"
    else none := by
  unfold Request.header? invitation
  dsimp only
  rw [List.find?_cons, List.find?_cons, List.find?_nil]
  split_ifs <;> simp [*]

/-- The number of bytes of the body of an invitation. -/
theorem size_invitation : (invitation caller group user blanks).body.utf8ByteSize =
    (named user).write.utf8ByteSize + blanks := Json.utf8ByteSize_padded (named user) blanks

/-- A header of a name that is none of the two is missing. -/
theorem visibleHeader?_invitation_of_ne {name : String}
    (hcaller : Request.lowercase "X-User-Id" ≠ Request.lowercase name)
    (htype : Request.lowercase "Content-Type" ≠ Request.lowercase name) :
    (invitation caller group user blanks).visibleHeader? name = none := by
  unfold Request.visibleHeader?
  rw [header?_invitation, if_neg hcaller, if_neg htype]
  rfl

/-- The body is JSON. -/
theorem isJson_invitation :
    ((invitation caller group user blanks).visibleHeader? "Content-Type").any
      MediaType.isJson = true := by
  unfold Request.visibleHeader?
  rw [header?_invitation, if_neg (by decide), if_pos rfl]
  decide

/-- No header tells the length of the body. -/
theorem statedLength?_invitation : (invitation caller group user blanks).statedLength? = none := by
  unfold Request.statedLength?
  rw [visibleHeader?_invitation_of_ne _ _ _ _ (by decide) (by decide)]
  rfl

/-- The body is in no coding. -/
theorem isCoded_invitation : (invitation caller group user blanks).isCoded = false := by
  unfold Request.isCoded
  rw [visibleHeader?_invitation_of_ne _ _ _ _ (by decide) (by decide)]
  rfl

end Invitations

variable {caller caller' group group' user user' : String} {cs cs' : List Char}
  {actor u : UserId} {g : GroupId} {blanks : Nat}

/-- The caller of an invitation. -/
theorem actor?_invitation (h : SpellsCaller caller actor.id) :
    (invitation caller group user blanks).actor? = some actor := by
  unfold Request.actor? Request.visibleHeader?
  rw [header?_invitation, if_pos rfl, Option.filter_some, if_pos h.read.1, Option.bind_some,
    h.read.2]

/-- A message that is short enough is read. -/
theorem readMessage_invitation (huser : Id.Spells user.toList u.id)
    (hsize : (named user).write.utf8ByteSize + blanks ≤ greatestBody) :
    readMessage AddMembers (invitation caller group user blanks) = .ok ⟨[u]⟩ := by
  have hread : UserId.ofText? user = some u := (UserId.ofText?_eq_some_iff user u).2 huser
  have husers : ofJson? (.list [.text user]) = some [u] := by
    change [Json.text user].mapM (ofJson? (α := UserId)) = _
    rw [List.mapM_cons, List.mapM_nil]
    change (UserId.ofText? user).bind _ = _
    rw [hread]
    rfl
  have hmessage : ofJson? (named user) = some (AddMembers.mk [u]) := by
    change ((named user).allFields? ["ids"]).bind _ = _
    unfold named
    rw [Json.allFields?_record [("ids", .list [.text user])] ["ids"] rfl (by simp), Option.bind_some]
    change (ofJson? (.list [.text user])).bind _ = _
    rw [husers]
    rfl
  rw [Request.readMessage_eq_ok_iff]
  refine ⟨isJson_invitation .., ?_, isCoded_invitation .., ?_, ?_⟩
  · rw [statedLength?_invitation]
    simp
  · rwa [size_invitation]
  · unfold decode? Json.read? invitation
    rw [tokenize_named]
    exact hmessage

/-- A message that is too long is not. -/
theorem readMessage_invitation_of_lt
    (hsize : greatestBody < (named user).write.utf8ByteSize + blanks) :
    readMessage AddMembers (invitation caller group user blanks) = .error .tooLong := by
  have hbody : greatestBody < (invitation caller group user blanks).body.utf8ByteSize := by
    rwa [size_invitation]
  unfold readMessage
  rw [isJson_invitation, statedLength?_invitation, isCoded_invitation, if_neg (by simp),
    if_neg (by simp), if_neg (by simp), if_pos hbody]

/-- Two invitations by one caller to one group, of one user. -/
theorem respelled_invitation {a : Id} (hcaller : SpellsCaller caller a)
    (hcaller' : SpellsCaller caller' a)
    (hwrites : Writes group.toList cs) (hwrites' : Writes group'.toList cs')
    (hgroup : Id.Respelled cs cs') (huser : Id.Respelled user.toList user'.toList)
    (hendpoint : (invitation caller group user blanks).endpoint? = some .addMembers) :
    (invitation caller group user blanks).Respelled (invitation caller' group' user' blanks) where
  method := rfl
  target := by
    obtain ⟨g, hg, hg'⟩ := hgroup
    have hword {word : String}
        (h : (word.toList.all fun c => decide (Target.endsAuthority c = false)) = true) :
        ∀ c ∈ word.toList, Target.endsAuthority c = false := List.all_iff_forall_prop.1 h
    have hsegments {segment : List Char} (h : ∀ c ∈ segment, IsOfSegment c) :
        ∀ s ∈ ["api".toList, "v1".toList, "groups".toList, segment, "members".toList],
          ∀ c ∈ s, Target.endsAuthority c = false := by
      rw [List.forall_mem_cons, List.forall_mem_cons, List.forall_mem_cons, List.forall_mem_cons,
        List.forall_mem_singleton]
      exact ⟨hword (by decide), hword (by decide), hword (by decide),
        fun c hc => (h c hc).2, hword (by decide)⟩
    rw [toList_target, toList_target]
    exact .path .nothing (hsegments (hwrites.isOfSegment fun _ => hg.mem_spellingChars))
      (hsegments (hwrites'.isOfSegment fun _ => hg'.mem_spellingChars)) (by simp)
      (.cons (.same _) (.cons (.same _) (.cons (.same _) (.cons
        (.respelled ⟨g, hg, hg'⟩ hwrites hwrites') (.cons (.same _) .nil)))))
  headers := .cons (.caller rfl hcaller hcaller') (.cons (.same _) .nil)
  body := by
    refine .inr ⟨by simp [hendpoint], ?_⟩
    have hname : Json.Token.Respelled (.string (some user)) (.string (some user')) :=
      .string (.some (.inr huser))
    unfold invitation
    rw [tokenize_named, tokenize_named]
    exact .some (.cons (.same _) (.cons (.same _) (.cons (.same _) (.cons (.same _) (.cons hname
      (.cons (.same _) (.cons (.same _) .nil)))))))

/-- What becomes of an invitation. -/
theorem handle_invitation (hcaller : SpellsCaller caller actor.id)
    (hgroup : Id.Spells group.toList g.id)
    (hroute : Route.find? "POST" (invitation caller group user blanks).target =
      some (.endpoint .addMembers [group]))
    {σ : Type} (b : Backends σ) (settings : EngineSettings) (timeout : Nat) :
    Site.handle b settings timeout (invitation caller group user blanks) =
      match readMessage AddMembers (invitation caller group user blanks) with
      | .error reject => pure reject.response
      | .ok message => Site.answer b settings timeout actor (.addMembers g message) := by
  have hwrites : WritesGroup group g := by
    unfold WritesGroup
    rw [identifierText_of_spells hgroup, GroupId.ofText?, (Id.ofText?_eq_some_iff group g.id).2 hgroup]
    rfl
  unfold Site.handle readCall
  rw [show (invitation caller group user blanks).method = "POST" from rfl, hroute,
    actor?_invitation hcaller]
  dsimp only
  rw [Request.readGroup_of_writes hwrites]
  cases readMessage AddMembers (invitation caller group user blanks) <;> rfl

/-! ## Two spellings of Bob -/

/-- Bob without hyphens. -/
def plainBob : String := "00000000000000000000000000000002"

/-- The text spells Bob. -/
theorem spells_plainBob : Id.Spells plainBob.toList bob.id := by
  decide

/-- Both texts spell Bob. -/
theorem respelled_bob : Id.Respelled plainBob.toList bob.text.toList :=
  ⟨bob.id, spells_plainBob, bob.id.spells_text⟩

/-- Both texts are messages, of which one is four bytes longer. -/
theorem utf8ByteSize_named : (named plainBob).write.utf8ByteSize = 44 ∧
    (named bob.text).write.utf8ByteSize = 48 := by
  decide

/-- Alice's text spells her. -/
theorem spellsCaller_alice : SpellsCaller alice.text alice.id :=
  ⟨[], alice.text.toList, [], by simp, alice.id.spells_text, by simp, by simp⟩

/-- Alice adds a user to the flat. -/
def welcome (user : String) (blanks : Nat) : Request :=
  invitation alice.text flat.id.text user blanks

/-- The request goes to the members of the flat. -/
theorem find?_welcome : Route.find? "POST" (welcome user blanks).target =
    some (.endpoint .addMembers [flat.id.text]) := by
  unfold welcome invitation
  dsimp only
  decide

/-- Alice's invitation in another spelling. -/
theorem respelled_welcome (hcaller : SpellsCaller caller alice.id)
    (hwrites : Writes group.toList cs) (hgroup : Id.Spells cs flat.id)
    (huser : Id.Respelled user.toList user'.toList) :
    (welcome user blanks).Respelled (invitation caller group user' blanks) := by
  refine respelled_invitation spellsCaller_alice hcaller (.refl _) hwrites
    ⟨flat.id, flat.id.spells_text, hgroup⟩ huser ?_
  have hroute : Route.find? (welcome user blanks).method (welcome user blanks).target =
      some (.endpoint .addMembers [flat.id.text]) := find?_welcome
  unfold welcome at hroute
  unfold Request.endpoint?
  rw [hroute]

/-- What becomes of a user who is welcomed. -/
theorem handle_welcome {σ : Type} (b : Backends σ) (settings : EngineSettings) (timeout : Nat) :
    Site.handle b settings timeout (welcome user blanks) =
      match readMessage AddMembers (welcome user blanks) with
      | .error reject => pure reject.response
      | .ok message => Site.answer b settings timeout alice (.addMembers flat message) := by
  have hroute := @find?_welcome user blanks
  unfold welcome at hroute ⊢
  exact handle_invitation spellsCaller_alice flat.id.spells_text hroute b settings timeout

end Sample

open Sample

/-- The general statement about one invitation in two spellings. One has the caller with a name space
and after a blank, the group with an escape, and the user without hyphens. The answer tells the group
as it tells all groups. -/
theorem spelling_is_immaterial_invitation :
    (Site.handle (Store.backends Store.Waits.none) EngineSettings.standard 5000
        (invitation " URN:UUID:00000000-0000-0000-0000-000000000001"
          "%300000000000000000000000000000064" plainBob 0) none
        (.fresh (Store.empty supply))).outcome =
        .done (Failure.ofError (.unknownGroup flat)).response 0 ∧
      (Failure.ofError (.unknownGroup flat)).response.Tidy := by
  have hcaller : SpellsCaller " URN:UUID:00000000-0000-0000-0000-000000000001" alice.id :=
    ⟨[' '], "URN:UUID:00000000-0000-0000-0000-000000000001".toList, [], by decide,
      by decide, by simp, by simp⟩
  have hwrites : Writes "%300000000000000000000000000000064".toList
      "00000000000000000000000000000064".toList := .escape rfl rfl rfl (.refl _)
  have hsame : (welcome bob.text 0).Respelled
      (invitation " URN:UUID:00000000-0000-0000-0000-000000000001"
        "%300000000000000000000000000000064" plainBob 0) :=
    respelled_welcome hcaller hwrites (by decide) respelled_bob.symm
  have hlimits : (welcome bob.text 0).SameLimits
      (invitation " URN:UUID:00000000-0000-0000-0000-000000000001"
        "%300000000000000000000000000000064" plainBob 0) := by
    refine ⟨by decide, ?_, ?_⟩
    · unfold welcome
      rw [statedLength?_invitation, statedLength?_invitation]
    · unfold welcome
      rw [size_invitation, size_invitation, utf8ByteSize_named.1, utf8ByteSize_named.2]
      decide
  have hread : readMessage AddMembers (welcome bob.text 0) = .ok ⟨[bob]⟩ :=
    readMessage_invitation bob.id.spells_text (by rw [utf8ByteSize_named.2]; decide)
  have hempty : (Site.fresh (Store.empty supply)).engine.store.directory.Countable := by
    intro group users husers
    cases husers
  obtain ⟨hequal, htidy⟩ :=
    Site.spelling_is_immaterial EngineSettings.standard 5000 hsame hlimits
  have hrun : (Site.handle (Store.backends Store.Waits.none) EngineSettings.standard 5000
      (welcome bob.text 0) none (.fresh (Store.empty supply))).outcome =
        .done (Failure.ofError (.unknownGroup flat)).response 0 := by
    rw [handle_welcome, hread]
    rfl
  obtain ⟨response, spent, hdone, hresponse⟩ := htidy _ _ (.inl rfl) _ hempty
  cases hrun.symm.trans hdone
  -- The other spelling is carried out as this one.
  exact ⟨hequal Store _ ▸ hrun, hresponse⟩

/-- **A longer spelling can exceed a limit.** Two requests differ only in the hyphens of Bob's
identifier. One is carried out and the other, which is too long, is refused. -/
theorem spelling_exceeds_limit :
    (welcome plainBob 2097108).Respelled (welcome bob.text 2097108) ∧
      (Site.handle (Store.backends Store.Waits.none) EngineSettings.standard 5000
        (welcome plainBob 2097108) none home).outcome = .done ⟨204, .none⟩ 0 ∧
      (Site.handle (Store.backends Store.Waits.none) EngineSettings.standard 5000
        (welcome bob.text 2097108) none home).outcome = .done ⟨413, .none⟩ 0 := by
  -- The bodies have 2097152 and 2097156 bytes.
  have hread : readMessage AddMembers (welcome plainBob 2097108) = .ok ⟨[bob]⟩ :=
    readMessage_invitation spells_plainBob (by rw [utf8ByteSize_named.1]; decide)
  have htoolong : readMessage AddMembers (welcome bob.text 2097108) = .error .tooLong :=
    readMessage_invitation_of_lt (by rw [utf8ByteSize_named.2]; decide)
  refine ⟨respelled_welcome spellsCaller_alice (.refl _) flat.id.spells_text respelled_bob, ?_, ?_⟩
  · rw [handle_welcome, hread]
    rfl
  · rw [handle_welcome, htoolong]
    rfl

end ExpenseLedger
