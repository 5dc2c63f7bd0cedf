import ExpenseLedger.Proofs.Engine.Own
import ExpenseLedger.Proofs.Identifier.Tidy
import ExpenseLedger.Proofs.Web.Discretion
import ExpenseLedger.Proofs.Web.Respelled
/-!
# Answers with identifiers in one spelling

All identifiers in answers are written by the service, errors included, and it writes them in one
way. Names of groups are those that clients have given, whatever they look like. Main statement:
`Site.tidy_of_answered`.
-/

open ExpenseLedger.Task

namespace ExpenseLedger

/-! ## Errors -/

/-- The amounts of valid expenses and of their shares. -/
def Amount.Shared (a : Int) : Prop := 1 ≤ a ∧ a ≤ limit

/-- The text of such an amount is short. -/
theorem Amount.Shared.tidy {a : Int} (h : Amount.Shared a) : Text.Tidy (Amount.text a) := by
  obtain ⟨hleast, hmost⟩ := h
  unfold Amount.limit at hmost
  exact Text.tidy_amount (by omega) (by omega)

namespace Error

/-- **The description of an error is tidy**, if it is one of the service's own and is told to
clients, unless it tells a number of members beyond all that there can be. -/
theorem tidy_detail {e : Error} (hown : e.IsOwn Amount.Shared) (hclient : e.isClientError = true)
    (hmembers : ∀ total members, e = shareVanishes total members → members < 10 ^ 31) :
    Text.Tidy e.detail := by
  have hwords {s : String} (h : ∀ w ∈ s.toList.splitOn ' ', w.length < 32) : Text.Tidy s :=
    Text.tidy_of_short_words h
  have hlimit : Text.Tidy (Amount.text Amount.limit) :=
    Text.tidy_amount (by decide) (by decide)
  unfold detail
  cases e with
  | loanNotPositive a =>
    have ha : Amount.Shared a := hown
    exact (hwords (by decide)).append_of_getLast? ha.tidy (by decide)
  | loanTooLarge a =>
    have ha : Amount.Shared a := hown
    dsimp only
    rw [String.append_assoc, String.append_assoc]
    exact ha.tidy.between₂ hlimit (by decide) (by decide)
  | loanToSelf u =>
    dsimp only
    rw [String.append_assoc]
    exact (Text.tidy_user u).between (by decide) (by decide)
  | noDebtors => exact hwords (by decide)
  | repeatedDebtors => exact hwords (by decide)
  | expenseNotPositive a =>
    have ha : Amount.Shared a := hown
    exact (hwords (by decide)).append_of_getLast? ha.tidy (by decide)
  | expenseTooLarge a =>
    have ha : Amount.Shared a := hown
    dsimp only
    rw [String.append_assoc, String.append_assoc]
    exact ha.tidy.between₂ hlimit (by decide) (by decide)
  | groupTooSmall => exact hwords (by decide)
  | payerNotMember => exact hwords (by decide)
  | shareVanishes total members =>
    have htotal : Amount.Shared total := hown
    have hlast : Text.Tidy (toString members ++ " members") :=
      (Text.tidy_toString (hmembers _ _ rfl)).append_of_head? (hwords (by decide))
        (by decide)
    dsimp only
    rw [String.append_assoc, String.append_assoc, String.append_assoc]
    exact htotal.tidy.between₂ hlast (by decide) (by decide)
  | groupNameLength least most =>
    obtain ⟨rfl, rfl⟩ := hown
    exact hwords (by decide)
  | noMembersNamed => exact hwords (by decide)
  | ownerNamedAsMember => exact hwords (by decide)
  | ownerNotRemovable => exact hwords (by decide)
  | notGroupOwner => exact hwords (by decide)
  | unknownGroup g =>
    dsimp only
    rw [String.append_assoc]
    exact (Text.tidy_group g).between (by decide) (by decide)
  | unknownMember u g =>
    dsimp only
    rw [String.append_assoc, String.append_assoc]
    exact (Text.tidy_user u).between₂ (Text.tidy_group g) (by decide) (by decide)
  | zeroSetting setting =>
    cases setting with
    | cacheUpdateTimeout => exact hwords (by decide)
    | populateTimeout => exact hwords (by decide)
    | balanceLifetime => exact hwords (by decide)
  | reported kind detail => exact hown.elim
  | _ => contradiction

end Error

/-! ## Texts in trees -/

namespace Json

/-- The text stands in the tree, as a string or as the name of a member, but not in the name of a
group or in a time. -/
inductive HasText (s : String) : Json → Prop where
  /-- As a string. -/
  | string : HasText s (.string (some s))
  /-- In an item of a list. -/
  | list {v : Json} {items : List Json} (hv : v ∈ items) (h : HasText s v) : HasText s (.list items)
  /-- As the name of a member. -/
  | name {v : Json} {members : List (Option String × Json)} (hv : (some s, v) ∈ members) :
    HasText s (.object members)
  /-- In the value of a member. -/
  | value {k : Option String} {v : Json} {members : List (Option String × Json)}
    (hv : (k, v) ∈ members) (hk : k ≠ some "name" ∧ k ≠ some "created_at") (h : HasText s v) :
    HasText s (.object members)

/-- All texts in the tree are tidy, but for names of groups and times. -/
def Tidy (j : Json) : Prop := ∀ s, HasText s j → Text.Tidy s

/-- A string is tidy if its text is. -/
theorem tidy_text {s : String} (h : Text.Tidy s) : (text s).Tidy := by
  rintro _ ⟨⟩
  exact h

/-- Numbers are tidy. -/
theorem tidy_int (a : Int) : (int a).Tidy := by
  rintro _ ⟨⟩

/-- A list is tidy if its items are. -/
theorem tidy_list {items : List Json} (h : ∀ v ∈ items, v.Tidy) : (list items).Tidy := by
  intro s hs
  cases hs with
  | list hv hs => exact h _ hv s hs

/-- The member has a short name and a tidy value, if it is no name of a group and no time. -/
def TidyMember (m : String × Json) : Prop :=
  m.1.length < 32 ∧ (m.1 = "name" ∨ m.1 = "created_at" ∨ m.2.Tidy)

/-- A member with a tidy value. -/
theorem Tidy.member {j : Json} (h : j.Tidy) {name : String} (hname : name.length < 32) :
    TidyMember (name, j) := ⟨hname, .inr (.inr h)⟩

/-- The name of a group. -/
theorem tidyMember_name (j : Json) : TidyMember ("name", j) :=
  ⟨(by decide : "name".length < 32), .inl rfl⟩

/-- A time. -/
theorem tidyMember_time (j : Json) : TidyMember ("created_at", j) :=
  ⟨(by decide : "created_at".length < 32), .inr (.inl rfl)⟩

/-- A record is tidy if its members are. -/
theorem tidy_record {ms : List (String × Json)} (h : ∀ m ∈ ms, TidyMember m) :
    (record ms).Tidy := by
  intro s hs
  unfold record at hs
  cases hs with
  | name hv =>
    obtain ⟨m, hm, heq⟩ := List.mem_map.1 hv
    cases heq
    exact Id.tidy_of_length_lt (h m hm).1
  | value hv hk hs =>
    obtain ⟨m, hm, heq⟩ := List.mem_map.1 hv
    cases heq
    rcases (h m hm).2 with hname | htime | htidy
    · exact absurd (congrArg some hname) hk.1
    · exact absurd (congrArg some htime) hk.2
    · exact htidy s hs

/-- A record with one tidy field. -/
theorem Tidy.field {j : Json} (h : j.Tidy) {name : String} (hname : name.length < 32) :
    (record [(name, j)]).Tidy := by
  refine tidy_record fun m hm => ?_
  rw [List.mem_singleton.1 hm]
  exact h.member hname

end Json

/-! ## Values -/

/-- The JSON forms of all values are tidy, but for names of groups and times. -/
def Wire.Tidy (α : Type) [Wire α] : Prop := ∀ a : α, (toJson a).Tidy

namespace Wire

/-- Identifiers. -/
theorem tidy_id : Tidy Id := fun a => Json.tidy_text (Text.tidy_user ⟨a⟩)

/-- Users. -/
theorem tidy_user : Tidy UserId := fun u => Json.tidy_text (Text.tidy_user u)

/-- Identifiers of groups. -/
theorem tidy_groupId : Tidy GroupId := fun g => Json.tidy_text (Text.tidy_group g)

/-- Amounts. -/
theorem tidy_amount : Tidy Int := fun a => Json.tidy_int a

/-- Lists. -/
theorem tidy_list {α : Type} [Wire α] (h : Tidy α) : Tidy (List α) := by
  intro l
  refine Json.tidy_list fun v hv => ?_
  obtain ⟨a, -, rfl⟩ := List.mem_map.1 hv
  exact h a

/-- Records of loans. -/
theorem tidy_loanRecord : Tidy LoanRecord := by
  intro r
  refine Json.tidy_record ?_
  simp only [List.forall_mem_cons]
  exact ⟨(tidy_id r.id).member (by decide), (tidy_user r.lender).member (by decide),
    (tidy_user r.debtor).member (by decide), (tidy_amount r.amount).member (by decide),
    Json.tidyMember_time _, by simp⟩

/-- Lines of balances. -/
theorem tidy_balanceEntry : Tidy BalanceEntry := by
  intro e
  refine Json.tidy_record ?_
  simp only [List.forall_mem_cons]
  exact ⟨(tidy_user e.counterparty).member (by decide), (tidy_amount e.amount).member (by decide),
    by simp⟩

/-- The members that write a group. -/
theorem tidyMember_group (g : Group) : ∀ m ∈ g.members, Json.TidyMember m := by
  simp only [Group.members, List.forall_mem_cons]
  exact ⟨(tidy_groupId g.id).member (by decide), Json.tidyMember_name _,
    (tidy_user g.owner).member (by decide), Json.tidyMember_time _, by simp⟩

/-- Groups. -/
theorem tidy_group : Tidy Group := fun g => Json.tidy_record (tidyMember_group g)

/-- Groups with their members. -/
theorem tidy_groupInfo : Tidy GroupInfo := by
  intro i
  refine Json.tidy_record fun m hm => ?_
  rcases List.mem_append.1 hm with hm | hm
  · exact tidyMember_group i.group m hm
  · rw [List.mem_singleton.1 hm]
    exact (tidy_list tidy_user i.members).member (by decide)

/-- Expenses. -/
theorem tidy_expense : Tidy Expense := by
  intro e
  refine Json.tidy_record ?_
  simp only [List.forall_mem_cons]
  exact ⟨(tidy_groupId e.group).member (by decide), (tidy_user e.payer).member (by decide),
    (tidy_amount e.total).member (by decide), (tidy_amount e.share).member (by decide),
    (tidy_list tidy_user e.debtors).member (by decide),
    (tidy_list tidy_loanRecord e.loans).member (by decide), by simp⟩

end Wire

namespace Web

/-! ## Answers -/

/-- All JSON that the response carries is tidy. -/
def Response.Tidy (r : Response) : Prop := ∀ j, r.content = .json j → j.Tidy

/-- The content of the response to a call. -/
theorem Reply.tidy_content (actor : UserId) (reply : Reply) (status : Nat) :
    Response.Tidy ⟨status, reply.content actor⟩ := by
  rintro j hj
  cases reply with
  | balance m =>
    cases hj
    refine Json.tidy_record ?_
    simp only [List.forall_mem_cons]
    exact ⟨(Wire.tidy_user actor).member (by decide),
      (Wire.tidy_list Wire.tidy_balanceEntry m.lines).member (by decide), by simp⟩
  | groups gs =>
    cases hj
    exact (Wire.tidy_list Wire.tidy_group gs).field (by decide)
  | group g =>
    cases hj
    exact Wire.tidy_group g
  | info i =>
    cases hj
    exact Wire.tidy_groupInfo i
  | members us =>
    cases hj
    exact (Wire.tidy_list Wire.tidy_user us).field (by decide)
  | expense e =>
    cases hj
    exact Wire.tidy_expense e
  | done => contradiction

/-- The answer to a request that fails. -/
theorem Failure.tidy_response {f : Failure} (h : Text.Tidy f.message) : f.response.Tidy := by
  rintro j ⟨⟩
  have htype : Text.Tidy f.type := by
    unfold type
    split <;> exact Text.tidy_of_short_words (by decide)
  have hdetails : ∀ m ∈ [("code", Json.nat f.status), ("message", Json.text f.message),
      ("type", Json.text f.type)], Json.TidyMember m := by
    simp only [List.forall_mem_cons]
    exact ⟨(Json.tidy_int _).member (by decide), (Json.tidy_text h).member (by decide),
      (Json.tidy_text htype).member (by decide), by simp⟩
  exact (Json.tidy_record hdetails).field (by decide)

/-- The answer to an error of the service's own. -/
theorem Failure.tidy_response_ofError {e : Error} (hown : e.IsOwn Amount.Shared)
    (hmembers : ∀ total members, e = .shareVanishes total members → members < 10 ^ 31) :
    (ofError e).response.Tidy := by
  cases hclient : e.isClientError with
  | false =>
    have hinternal : (internal "").response.Tidy :=
      tidy_response (Text.tidy_of_short_words (by decide))
    have htimeout : timeout.response.Tidy :=
      tidy_response (Text.tidy_of_short_words (by decide))
    rw [response_of_not_isClientError hclient]
    split
    · exact htimeout
    · exact hinternal
  | true =>
    have hdetail := Error.tidy_detail hown hclient hmembers
    have hlabel {label : String}
        (h : (∀ w ∈ label.toList.splitOn ' ', w.length < 32) ∧ label.toList.getLast? = some ' ') :
        Text.Tidy (label ++ e.detail) :=
      (Text.tidy_of_short_words h.1).append_of_getLast? hdetail h.2
    -- The label of the kind ends in a blank, which no spelling reaches over.
    unfold Error.isClientError at hclient
    refine tidy_response ?_
    unfold ofError
    cases hkind : e.kind with
    | notFound => exact hlabel (by decide)
    | forbidden => exact hlabel (by decide)
    | badRequest => exact hlabel (by decide)
    | _ =>
      rw [hkind] at hclient
      contradiction

/-! ## Calls -/

section Calls

variable {σ τ α : Type} {R : τ → σ → Prop} {E : Error → Error → Prop} {b : Backends τ}
  {c : Backends σ} {amounts : Int → Prop} (hE : ∀ e : Error, e.IsOwn amounts → E e e)
  (h : b.Akin R E c) (settings : EngineSettings)

/-- A reply that is made of what a task gives. -/
theorem akin_replying {t : Task (Engine τ) (Except Error α)} {u : Task (Engine σ) (Except Error α)}
    (ht : Akin (Engine.AkinTo R) (ResultAkin E) t u) (reply : α → Reply) :
    Akin (Engine.AkinTo R) (ResultAkin E) (replying t reply) (replying u reply) :=
  ht.bind fun _ _ hr => .pure (hr.map reply)

include hE h in
/-- **Valid service calls.** The sharing of an expense alone tells amounts. -/
theorem Call.akin_serve (actor : UserId) (call : Call) (hvalid : call.breach? = none)
    (hamounts : call.endpoint = .shareExpense → ∀ a, 1 ≤ a → a ≤ Amount.limit → amounts a) :
    Akin (Engine.AkinTo R) (ResultAkin E) (call.serve b settings actor)
      (call.serve c settings actor) := by
  cases call with
  | getBalance => exact akin_replying (Engine.akin_balanceOf hE h settings actor) _
  | listGroups => exact akin_replying (Engine.akin_onStore (h.groupsOf actor)) _
  | createGroup message =>
    exact akin_replying (Engine.akin_onStore (Engine.akin_createGroup hE h message.name actor)) _
  | getGroup group => exact akin_replying (Engine.akin_onStore (Engine.akin_groupInfo hE h group)) _
  | deleteGroup group =>
    exact akin_replying (Engine.akin_onStore (Engine.akin_deleteGroup hE h actor group)) _
  | listMembers group =>
    exact akin_replying (Engine.akin_onStore (Engine.akin_membersOf hE h group)) _
  | addMembers group message =>
    have hadd := Engine.akin_addMembers hE h actor group message.users
    exact akin_replying (Engine.akin_onStore hadd) _
  | removeMember group user =>
    exact akin_replying (Engine.akin_onStore (Engine.akin_removeMember hE h actor group user)) _
  | shareExpense group message =>
    exact akin_replying
      (Site.akin_shareExpense_of_valid (hamounts rfl) hE h settings actor group hvalid) _

end Calls

/-- The errors of valid service calls are the service's own. The amounts that the sharing of an
expense tells are those of valid expenses and of their shares, and no other call tells any. -/
theorem Call.isOwn_of_serve {b : Backends Store}
    (hb : ∀ amounts, b.Akin Eq (Error.SameOwn amounts) b) {settings : EngineSettings}
    {actor : UserId} {call : Call} (hvalid : call.breach? = none) {budget : Option Nat}
    {x : Engine Store} {e : Error} {spent : Nat}
    (hserve : (call.serve b settings actor budget x).outcome = .done (.error e) spent) :
    e.IsOwn fun a => call.endpoint = .shareExpense ∧ Amount.Shared a := by
  -- Backends that are akin to themselves give errors of their own only.
  let amounts (a : Int) : Prop := call.endpoint = .shareExpense ∧ Amount.Shared a
  have hown (e : Error) (he : e.IsOwn amounts) : Error.SameOwn amounts e e := ⟨rfl, he⟩
  have hserved := (Call.akin_serve hown (hb amounts) settings actor call hvalid
    (fun hshare a hleast hmost => ⟨hshare, hleast, hmost⟩) budget x x ⟨rfl, rfl⟩).1
  rw [hserve] at hserved
  cases hserved with
  | done hresult =>
    cases hresult with
    | error he => exact he.2

/-- The number of members that a service call tells is that of the users of some group. -/
theorem Call.lt_of_shareVanishes {b : Backends Store} (hb : b.Realizes)
    (hakin : ∀ amounts, b.Akin Eq (Error.SameOwn amounts) b) {settings : EngineSettings}
    {actor : UserId} {call : Call} (hvalid : call.breach? = none) {budget : Option Nat}
    {x : Engine Store} (hx : x.store.directory.Countable) {total : Int} {n : Nat} {spent : Nat}
    (hserve : (call.serve b settings actor budget x).outcome =
      .done (.error (.shareVanishes total n)) spent) : n < 2 ^ 64 := by
  obtain ⟨hshare, -⟩ := Call.isOwn_of_serve hakin hvalid hserve
  cases call with
  | shareExpense group message =>
    have htriple : Triple (fun e => e.store = x.store)
        (replying (Engine.shareExpense b settings actor message.amount group) Reply.expense)
        (fun r _ => r = (x.store.share actor message.amount group).1.map Reply.expense)
        fun _ => True := by
      refine Triple.bind ((Engine.triple_shareExpense_share hb settings actor message.amount group
        x.store).mono_dropped fun _ _ => trivial) fun r => .pure fun e he => ?_
      rw [he.1]
    have hresult := (htriple budget x rfl).done _ spent hserve
    cases hshared : (x.store.share actor message.amount group).1 with
    | ok expense =>
      rw [hshared] at hresult
      cases hresult
    | error e =>
      rw [hshared] at hresult
      cases hresult
      obtain ⟨users, husers, rfl⟩ := Store.exists_sharers_of_share hshared
      exact hx group users husers
  | _ => cases hshare

/-- What a client is told about a breach. -/
theorem Call.tidy_breach {call : Call} {breach : Breach} (h : call.breach? = some breach) :
    Text.Tidy (Failure.validation breach.message).message := by
  have hone {c : Prop} [Decidable c] {broken : Breach}
      (hb : (if c then none else some broken) = some breach) : broken = breach := by
    split at hb
    · contradiction
    · exact Option.some.inj hb
  have hother {c : Prop} [Decidable c] {broken : Breach}
      (hb : (if c then some broken else none) = some breach) : broken = breach := by
    split at hb
    · exact Option.some.inj hb
    · contradiction
  cases call with
  | createGroup message =>
    obtain rfl := hone h
    exact Text.tidy_of_short_words (by decide)
  | addMembers group message =>
    obtain rfl := hother h
    exact Text.tidy_of_short_words (by decide)
  | shareExpense group message =>
    obtain rfl := hone h
    exact Text.tidy_of_short_words (by decide)
  | _ => contradiction

namespace Site

/-- What the service says about its health. -/
theorem tidy_health : health.Tidy := by
  have hword {word : String} (h : ∀ w ∈ word.toList.splitOn ' ', w.length < 32) :
      (Json.text word).Tidy := Json.tidy_text (Text.tidy_of_short_words h)
  refine Json.tidy_record ?_
  simp only [List.forall_mem_cons]
  exact ⟨(hword (by decide)).member (by decide), (hword (by decide)).member (by decide),
    (hword (by decide)).member (by decide), by simp⟩

/-- **Answers are tidy** if no backend gives errors in the words of others. -/
theorem tidy_of_answered {b : Backends Store} (hb : b.Realizes)
    (hakin : ∀ amounts, b.Akin Eq (Error.SameOwn amounts) b) {settings : EngineSettings}
    {timeout : Nat} {x : Site Store} (hx : x.engine.store.directory.Countable) {r : Request}
    {response : Response} (h : Answered b settings timeout x r response) : response.Tidy := by
  cases h with
  | atOnce h =>
    cases h with
    | noRoute h => exact fun j hj => by contradiction
    | health h =>
      intro j hj
      cases hj
      exact tidy_health
    | metrics h text => exact fun j hj => by contradiction
    | unknownCaller e ids h hactor =>
      exact Failure.tidy_response (Text.tidy_of_short_words (by decide))
    | unread e ids reject h hread => exact fun j hj => by contradiction
  | invalid hcall hbreach => exact Failure.tidy_response (Call.tidy_breach hbreach)
  | late hcall hvalid hserve =>
    exact Failure.tidy_response (f := .timeout) (Text.tidy_of_short_words (by decide))
  | @served actor call result spent hcall hvalid hserve =>
    cases result with
    | ok reply => exact reply.tidy_content actor call.success
    | error e =>
      have hown : e.IsOwn Amount.Shared :=
        (Call.isOwn_of_serve hakin hvalid hserve).mono fun a ha => ha.2
      refine Failure.tidy_response_ofError hown fun total members he => ?_
      subst he
      have hcount := Call.lt_of_shareVanishes hb hakin hvalid hx hserve
      omega

end Site

end Web

end ExpenseLedger
