import ExpenseLedger.Proofs.Json.Respelled
import ExpenseLedger.Proofs.Text.Numeral
import ExpenseLedger.Proofs.Web.Effects
import ExpenseLedger.Proofs.Web.Paths
/-!
# Requests with identifiers in other spellings

Two requests may differ only in how they spell the caller, the identifiers in their paths and those
in their bodies. They are answered alike by any backends, unless the spellings make one of them
longer than is allowed. Names of groups are no identifiers, whatever they look like. Main statement:
`Site.handle_eq_of_respelled`.
-/

open ExpenseLedger.Task

namespace ExpenseLedger.Web

/-! ## Headers -/

/-- The value of a header spells an identifier, with spaces and tabs around it. -/
def SpellsCaller (value : String) (a : Id) : Prop :=
  ∃ front cs back, value.toList = front ++ cs ++ back ∧ Id.Spells cs a ∧
    (∀ c ∈ front, c = ' ' ∨ c = '\t') ∧ ∀ c ∈ back, c = ' ' ∨ c = '\t'

/-- What a caller is spelled with can be seen, and it is read without the blanks. -/
theorem SpellsCaller.read {value : String} {a : Id} (h : SpellsCaller value a) :
    value.toList.all Request.isVisible = true ∧
      UserId.ofText? (Text.trim value) = some ⟨a⟩ := by
  obtain ⟨front, cs, back, hvalue, hcs, hfront, hback⟩ := h
  have hseen : ∀ c ∈ Id.spellingChars, Request.isVisible c = true ∧ Text.isBlank c = false :=
    List.all_iff_forall_prop.1 (by decide +kernel)
  have hblanks {l : List Char} (hl : ∀ c ∈ l, c = ' ' ∨ c = '\t') :
      ∀ c ∈ l, Request.isVisible c = true ∧ Text.isBlank c = true := by
    intro c hc
    rcases hl c hc with rfl | rfl
    · decide
    · decide
  constructor
  · rw [hvalue, List.all_append, List.all_append, List.all_eq_true.2 fun c hc => (hblanks hfront c hc).1,
      List.all_eq_true.2 fun c hc => (hseen c (hcs.mem_spellingChars hc)).1,
      List.all_eq_true.2 fun c hc => (hblanks hback c hc).1]
    rfl
  · have hne : cs ≠ [] := by
      rintro rfl
      exact absurd hcs.length_ge (by decide)
    -- No spelling has a blank in it, and so trimming stops at its ends.
    have htrim : Text.trimChars value.toList = cs :=
      (Text.trimChars_eq_iff _ cs hne fun c hc => (hseen c (hcs.mem_spellingChars hc)).2).2
        ⟨front, back, hvalue, fun c hc => (hblanks hfront c hc).2, fun c hc => (hblanks hback c hc).2⟩
    rw [UserId.ofText?_eq_some_iff]
    unfold Text.trim
    rwa [htrim, String.toList_ofList]

/-- Both headers are the same but for the spelling of the caller and the length of the body. -/
inductive HeaderRespelled : String × String → String × String → Prop where
  /-- The same. -/
  | same (h : String × String) : HeaderRespelled h h
  /-- The caller. -/
  | caller {name value value' : String} {a : Id}
    (hname : Request.lowercase name = Request.lowercase "X-User-Id")
    (h : SpellsCaller value a) (h' : SpellsCaller value' a) :
    HeaderRespelled (name, value) (name, value')
  /-- The length of the body. -/
  | length {name : String} (hname : Request.lowercase name = Request.lowercase "Content-Length")
    (value value' : String) : HeaderRespelled (name, value) (name, value')

/-! ## Requests -/

/-- Both requests are the same but for the spelling of identifiers: of the caller, of those in the
path, and of those in the body unless it is the body of a new group, which has a name but no
identifiers. -/
structure Request.Respelled (r r' : Request) : Prop where
  /-- The methods are the same. -/
  method : r.method = r'.method
  /-- The targets are the same but for spellings. -/
  target : TargetRespelled r.target.toList r'.target.toList
  /-- The headers are the same but for spellings, one by one. -/
  headers : List.Forall₂ HeaderRespelled r.headers r'.headers
  /-- The bodies are the same, or their tokens are but for spellings. -/
  body : r.body = r'.body ∨ r.endpoint? ≠ some .createGroup ∧
    Option.Rel (List.Forall₂ Json.Token.Respelled) (Json.tokenize r.body.toList)
      (Json.tokenize r'.body.toList)

/-- Either both requests are too long in one respect, or neither is. -/
structure Request.SameLimits (r r' : Request) : Prop where
  /-- The length of the target. -/
  target : r.target.utf8ByteSize ≤ Target.greatestSize ↔
    r'.target.utf8ByteSize ≤ Target.greatestSize
  /-- The length of the body that a header tells. -/
  stated : r.statedLength?.any (greatestBody < ·) = r'.statedLength?.any (greatestBody < ·)
  /-- The length of the body. -/
  size : greatestBody < r.body.utf8ByteSize ↔ greatestBody < r'.body.utf8ByteSize

namespace Request

variable {r r' : Request}

/-- The first headers of a name. -/
theorem find?_header_respelled {hs hs' : List (String × String)}
    (h : List.Forall₂ HeaderRespelled hs hs') (name : String) :
    Option.Rel HeaderRespelled (hs.find? fun h => lowercase h.1 = lowercase name)
      (hs'.find? fun h => lowercase h.1 = lowercase name) := by
  induction h with
  | nil => exact .none
  | @cons g g' hs hs' hg _ ih =>
    have hsame : g.1 = g'.1 := by
      cases hg <;> rfl
    rw [List.find?_cons, List.find?_cons, ← hsame]
    split
    · exact .some hg
    · exact ih

/-- A header is missing in both requests, or it is there with values that are the same but for
spelling. -/
theorem header?_respelled (h : Respelled r r') (name : String) :
    r.header? name = none ∧ r'.header? name = none ∨
      ∃ g g', r.header? name = some g.2 ∧ r'.header? name = some g'.2 ∧
        lowercase g.1 = lowercase name ∧ HeaderRespelled g g' := by
  have hfind := find?_header_respelled h.headers name
  unfold header?
  cases hfound : r.headers.find? fun h => lowercase h.1 = lowercase name with
  | none =>
    rw [hfound] at hfind
    cases hfound' : r'.headers.find? fun h => lowercase h.1 = lowercase name with
    | none => exact .inl ⟨rfl, rfl⟩
    | some g' =>
      rw [hfound'] at hfind
      contradiction
  | some g =>
    rw [hfound] at hfind
    have hname : lowercase g.1 = lowercase name := by
      simpa using List.find?_some hfound
    cases hfound' : r'.headers.find? fun h => lowercase h.1 = lowercase name with
    | none =>
      rw [hfound'] at hfind
      contradiction
    | some g' =>
      rw [hfound'] at hfind
      cases hfind with
      | some hg => exact .inr ⟨g, g', rfl, rfl, hname, hg⟩

/-- Headers of other names have the same values. -/
theorem visibleHeader?_eq_of_respelled (h : Respelled r r') (name : String)
    (hcaller : lowercase name ≠ lowercase "X-User-Id")
    (hlength : lowercase name ≠ lowercase "Content-Length") :
    r.visibleHeader? name = r'.visibleHeader? name := by
  unfold visibleHeader?
  rcases header?_respelled h name with ⟨hnone, hnone'⟩ | ⟨g, g', hg, hg', hname, hsame⟩
  · rw [hnone, hnone']
  · rw [hg, hg']
    cases hsame with
    | same => rfl
    | caller hcaller' => exact absurd (hname.symm.trans hcaller') hcaller
    | length hlength' => exact absurd (hname.symm.trans hlength') hlength

/-- **The caller is read from either spelling.** -/
theorem actor?_eq_of_respelled (h : Respelled r r') : r.actor? = r'.actor? := by
  unfold actor? visibleHeader?
  rcases header?_respelled h "X-User-Id" with ⟨hnone, hnone'⟩ | ⟨g, g', hg, hg', hname, hsame⟩
  · rw [hnone, hnone']
  · rw [hg, hg']
    cases hsame with
    | same => rfl
    | length hlength =>
      exact absurd (hname.symm.trans hlength) (by decide +kernel)
    | caller _ hv hv' =>
      obtain ⟨hseen, hread⟩ := hv.read
      obtain ⟨hseen', hread'⟩ := hv'.read
      dsimp only
      rw [Option.filter_some, Option.filter_some, if_pos hseen, if_pos hseen', Option.bind_some,
        Option.bind_some, hread, hread']

end Request

/-! ## Bodies -/

section Bodies

variable {j j' : Json}

/-- What is made of a field does not depend on spellings if it does not for one value. -/
theorem bind_allFields?_of_respelled {α : Type} (name : String) (hname : name.length < 32)
    (h : Json.Respelled j j') {next : List Json → Option α}
    (hone : ∀ v v', Json.Respelled v v' → next [v] = next [v'])
    (hnone : ∀ vs, vs.length ≠ 1 → next vs = none) :
    (j.allFields? [name]).bind next = (j'.allFields? [name]).bind next := by
  have hfields := Json.allFields?_respelled hname h
  generalize j.allFields? [name] = vs, j'.allFields? [name] = vs' at hfields
  cases hfields with
  | none => rfl
  | some hvs =>
    rcases hvs with _ | ⟨hv, _ | ⟨hw, hvs⟩⟩
    · rfl
    · exact hone _ _ hv
    · exact (hnone _ (by simp)).trans (hnone _ (by simp)).symm

/-- A message with users is read from either spelling. -/
theorem ofJson?_addMembers_of_respelled (h : Json.Respelled j j') :
    (ofJson? j : Option AddMembers) = ofJson? j' := by
  refine bind_allFields?_of_respelled "ids" (by decide) h (fun v v' hv => ?_)
    fun vs hvs => ?_
  · exact congrArg (Option.bind · fun users => some (AddMembers.mk users))
      (Json.ofJson?_users_of_respelled hv)
  · rcases vs with _ | ⟨v, _ | ⟨w, vs⟩⟩
    · rfl
    · exact absurd rfl hvs
    · rfl

/-- A message with an amount has nothing to do with spellings. -/
theorem ofJson?_shareExpense_of_respelled (h : Json.Respelled j j') :
    (ofJson? j : Option ShareExpense) = ofJson? j' := by
  refine bind_allFields?_of_respelled "amount" (by decide) h (fun v v' hv => ?_)
    fun vs hvs => ?_
  · exact congrArg (Option.bind · fun amount => some (ShareExpense.mk amount))
      (Json.ofJson?_int_of_respelled hv)
  · rcases vs with _ | ⟨v, _ | ⟨w, vs⟩⟩
    · rfl
    · exact absurd rfl hvs
    · rfl

end Bodies

section Messages

variable {r r' : Request} (h : r.Respelled r') (hlimits : r.SameLimits r')
include h hlimits

/-- A message is read from either body if it is the same in both. -/
theorem readMessage_eq_of_respelled {α : Type} [Wire α]
    (hread : (Json.read? r.body).bind (ofJson? (α := α)) = (Json.read? r'.body).bind ofJson?) :
    readMessage α r = readMessage α r' := by
  have htype := Request.visibleHeader?_eq_of_respelled h "Content-Type" (by decide +kernel)
    (by decide +kernel)
  have hcoded : r.isCoded = r'.isCoded := by
    unfold Request.isCoded
    rw [Request.visibleHeader?_eq_of_respelled h _ (by decide +kernel) (by decide +kernel)]
  unfold readMessage
  rw [htype, hlimits.stated, hcoded, hread]
  simp only [hlimits.size]

/-- A message is read from either body if it is read from either spelling. -/
theorem readMessage_eq_of_ofJson? {α : Type} [Wire α]
    (hread : ∀ j j', Json.Respelled j j' → (ofJson? j : Option α) = ofJson? j') :
    readMessage α r = readMessage α r' := by
  refine readMessage_eq_of_respelled h hlimits ?_
  rcases h.body with hbody | ⟨-, hbody⟩
  · rw [hbody]
  · have htrees : Option.Rel Json.Respelled (Json.read? r.body) (Json.read? r'.body) :=
      rel_bind hbody fun _ _ hts => Json.ofTokens?_respelled hts
    generalize Json.read? r.body = v, Json.read? r'.body = v' at htrees
    cases htrees with
    | none => rfl
    | some hv => exact hread _ _ hv

omit h hlimits in
/-- Groups are read from either spelling. -/
theorem readGroup_eq_of_respelled {x x' : String} (h : Text.Respelled x x') :
    readGroup x = readGroup x' := by
  unfold readGroup
  rw [GroupId.ofText?_eq_of_respelled (identifierText_respelled h)]

omit h hlimits in
/-- Users are read from either spelling. -/
theorem readUser_eq_of_respelled {x x' : String} (h : Text.Respelled x x') :
    readUser x = readUser x' := by
  unfold readUser
  rw [UserId.ofText?_eq_of_respelled (identifierText_respelled h)]

/-- **A call is read from either spelling.** -/
theorem readCall_eq_of_respelled {e : Endpoint} {ids ids' : List String}
    (hendpoint : r.endpoint? = some e) (hids : List.Forall₂ Text.Respelled ids ids') :
    readCall e ids r = readCall e ids' r' := by
  have hgroup {α : Type} (next : GroupId → Except Reject α) {g g' : String}
      (hg : Text.Respelled g g') : (readGroup g >>= next) = (readGroup g' >>= next) := by
    rw [readGroup_eq_of_respelled hg]
  cases e with
  | getBalance => rfl
  | listGroups => rfl
  | createGroup =>
    -- A name may look like an identifier, so that this body must not be respelled at all.
    rcases h.body with hbody | ⟨hnot, -⟩
    · have hread := readMessage_eq_of_respelled (α := CreateGroup) h hlimits (by rw [hbody])
      change (readMessage CreateGroup r >>= _) = (readMessage CreateGroup r' >>= _)
      rw [hread]
    · exact absurd hendpoint hnot
  | getGroup =>
    rcases hids with _ | ⟨hg, _ | _⟩
    · rfl
    · exact hgroup _ hg
    · rfl
  | deleteGroup =>
    rcases hids with _ | ⟨hg, _ | _⟩
    · rfl
    · exact hgroup _ hg
    · rfl
  | listMembers =>
    rcases hids with _ | ⟨hg, _ | _⟩
    · rfl
    · exact hgroup _ hg
    · rfl
  -- Where the path has a wrong number of identifiers, it has it in both spellings.
  | addMembers =>
    have hread := readMessage_eq_of_ofJson? (α := AddMembers) h hlimits fun _ _ =>
      ofJson?_addMembers_of_respelled
    rcases hids with _ | ⟨hg, _ | _⟩
    · rfl
    · unfold readCall
      dsimp only
      rw [hread]
      exact hgroup _ hg
    · rfl
  | removeMember =>
    rcases hids with _ | ⟨hg, _ | ⟨hu, _ | _⟩⟩
    · rfl
    · rfl
    · unfold readCall
      dsimp only
      rw [readUser_eq_of_respelled hu]
      exact hgroup _ hg
    · rfl
  | shareExpense =>
    have hread := readMessage_eq_of_ofJson? (α := ShareExpense) h hlimits fun _ _ =>
      ofJson?_shareExpense_of_respelled
    rcases hids with _ | ⟨hg, _ | _⟩
    · rfl
    · unfold readCall
      dsimp only
      rw [hread]
      exact hgroup _ hg
    · rfl

end Messages

/-! ## Answers -/

/-- **Spelling never matters to the answer**, on any backends. Two requests that are the same but for
the spelling of identifiers, of which both are within the limits of length or neither is, are the
same to the service. -/
theorem Site.handle_eq_of_respelled {σ : Type} (b : Backends σ) (settings : EngineSettings)
    (timeout : Nat) {r r' : Request} (h : r.Respelled r') (hlimits : r.SameLimits r') :
    handle b settings timeout r = handle b settings timeout r' := by
  have hroute := Route.find?_respelled r.method h.target hlimits.target
  -- The spelling of what is in the path makes no difference to a call.
  have hendpoint {e : Endpoint} {ids ids' : List String}
      (hfound : Route.find? r.method r.target = some (.endpoint e ids))
      (hids : List.Forall₂ Text.Respelled ids ids') :
      readCall e ids r = readCall e ids' r' := by
    refine readCall_eq_of_respelled h hlimits ?_ hids
    unfold Request.endpoint?
    rw [hfound]
  unfold handle
  rw [← h.method, ← Request.actor?_eq_of_respelled h]
  cases hfound : Route.find? r.method r.target with
  | none =>
    rw [hfound] at hroute
    generalize Route.find? r.method r'.target = route' at hroute
    cases hroute with
    | none => rfl
  | some route =>
    rw [hfound] at hroute
    generalize Route.find? r.method r'.target = route' at hroute
    cases hroute with
    | some hroute =>
      cases hroute with
      | same =>
        cases route with
        | health => rfl
        | metrics => rfl
        | endpoint e ids =>
          dsimp only
          rw [hendpoint hfound (List.forall₂_same.2 fun _ _ => .inl rfl)]
      | endpoint e hids =>
        dsimp only
        rw [hendpoint hfound hids]

end ExpenseLedger.Web
