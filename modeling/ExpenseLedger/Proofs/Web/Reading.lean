import ExpenseLedger.Proofs.Web.Effects
import ExpenseLedger.Proofs.Wire.RoundTrip
/-!
# What requests ask for

Each call has one method and one form of paths, and takes its identifiers from the path in the order
in which they stand there. `Request.Addresses` says so call by call, with the message that the body
carries where there is one. Main statements:

* `Request.readMessage_eq_ok_iff`: which bodies carry a message;
* `Request.call?_of_asks`: a request that asks for a call is read as that call.
-/

namespace ExpenseLedger.Web

variable {α : Type} [Wire α]

/-! ## Bodies -/

/-- The body of a request carries a message. -/
structure Request.Carries (r : Request) (message : α) : Prop where
  /-- A header says that the body is JSON. -/
  type : (r.visibleHeader? "Content-Type").any MediaType.isJson = true
  /-- No header says that the body is too long. -/
  stated : ∀ n, r.statedLength? = some n → n ≤ greatestBody
  /-- The body is in no coding. -/
  plain : r.isCoded = false
  /-- The body is not too long. -/
  size : r.body.utf8ByteSize ≤ greatestBody
  /-- The body is a text of the message. -/
  decoded : decode? α r.body = some message

/-- A stated length is too long, or no such length is stated. -/
theorem Request.any_statedLength?_eq_false_iff (r : Request) :
    r.statedLength?.any (greatestBody < ·) = false ↔
      ∀ n, r.statedLength? = some n → n ≤ greatestBody := by
  cases r.statedLength? with
  | none => simp
  | some n => simp

/-- **A message is read exactly from the bodies that carry it.** -/
theorem Request.readMessage_eq_ok_iff (r : Request) (message : α) :
    readMessage α r = .ok message ↔ r.Carries message := by
  unfold readMessage
  constructor
  · intro h
    split at h
    · contradiction
    · rename_i htype
      split at h
      · contradiction
      · rename_i hstated
        split at h
        · contradiction
        · rename_i hplain
          split at h
          · contradiction
          · rename_i hsize
            split at h
            · rename_i hdecoded
              cases h
              rw [Bool.not_eq_true, Bool.not_eq_false'] at htype
              rw [Bool.not_eq_true] at hstated hplain
              exact ⟨htype, r.any_statedLength?_eq_false_iff.1 hstated, hplain,
                Nat.not_lt.1 hsize, hdecoded⟩
            · contradiction
  · intro h
    have hdecoded : (Json.read? r.body).bind ofJson? = some message := h.decoded
    have hstated := r.any_statedLength?_eq_false_iff.2 h.stated
    rw [if_neg (by simp [h.type]), if_neg (by simp [hstated]), if_neg (by simp [h.plain]),
      if_neg (Nat.not_lt.2 h.size), hdecoded]

/-! ## Paths -/

/-- The path of the request has these segments after the name and version of the interface. -/
def Request.Leads (r : Request) (rest : List String) : Prop :=
  ∃ path, Target.path? r.target = some path ∧
    segments (unescape actsInPath path) = "" :: "api" :: "v1" :: rest

/-- The segment of a path writes the group. -/
def WritesGroup (segment : String) (group : GroupId) : Prop :=
  GroupId.ofText? (identifierText segment) = some group

/-- The segment of a path writes the user. -/
def WritesUser (segment : String) (user : UserId) : Prop :=
  UserId.ofText? (identifierText segment) = some user

/-- A segment that writes a group is not empty. -/
theorem WritesGroup.isEmpty_eq {segment : String} {group : GroupId}
    (h : WritesGroup segment group) : segment.isEmpty = false := by
  rw [← Bool.not_eq_true, String.isEmpty_iff]
  rintro rfl
  have hnone : GroupId.ofText? (identifierText "") = none := rfl
  rw [WritesGroup, hnone] at h
  contradiction

/-- A segment that writes a user is not empty. -/
theorem WritesUser.isEmpty_eq {segment : String} {user : UserId}
    (h : WritesUser segment user) : segment.isEmpty = false := by
  rw [← Bool.not_eq_true, String.isEmpty_iff]
  rintro rfl
  have hnone : UserId.ofText? (identifierText "") = none := rfl
  rw [WritesUser, hnone] at h
  contradiction

/-! ## Calls -/

/-- The method, the path and the body of a request are those of a call. -/
inductive Request.Addresses (r : Request) : Call → Prop
  /-- The caller's balance. -/
  | getBalance : r.method = "GET" → r.Leads ["balance"] → r.Addresses .getBalance
  /-- The caller's groups. -/
  | listGroups : r.method = "GET" → r.Leads ["groups"] → r.Addresses .listGroups
  /-- A new group. -/
  | createGroup {message : CreateGroup} : r.method = "POST" → r.Leads ["groups"] →
    r.Carries message → r.Addresses (.createGroup message)
  /-- A group with its members. -/
  | getGroup {group : GroupId} {g : String} : r.method = "GET" → r.Leads ["groups", g] →
    WritesGroup g group → r.Addresses (.getGroup group)
  /-- The end of a group. -/
  | deleteGroup {group : GroupId} {g : String} : r.method = "DELETE" → r.Leads ["groups", g] →
    WritesGroup g group → r.Addresses (.deleteGroup group)
  /-- The members of a group. -/
  | listMembers {group : GroupId} {g : String} : r.method = "GET" →
    r.Leads ["groups", g, "members"] → WritesGroup g group →
    r.Addresses (.listMembers group)
  /-- New members of a group. -/
  | addMembers {group : GroupId} {g : String} {message : AddMembers} : r.method = "POST" →
    r.Leads ["groups", g, "members"] → WritesGroup g group → r.Carries message →
    r.Addresses (.addMembers group message)
  /-- The end of a membership: the group stands before the user. -/
  | removeMember {group : GroupId} {user : UserId} {g u : String} : r.method = "DELETE" →
    r.Leads ["groups", g, "members", u] → WritesGroup g group → WritesUser u user →
    r.Addresses (.removeMember group user)
  /-- An expense that a group shares. -/
  | shareExpense {group : GroupId} {g : String} {message : ShareExpense} : r.method = "POST" →
    r.Leads ["groups", g, "expenses"] → WritesGroup g group → r.Carries message →
    r.Addresses (.shareExpense group message)

/-- The rule that the message of a call breaks. -/
def Call.breach? : Call → Option Breach
  | createGroup message => message.breach?
  | addMembers _ message => message.breach?
  | shareExpense _ message => message.breach?
  | _ => none

/-- The request asks for a call on behalf of an actor. -/
structure Request.Asks (r : Request) (actor : UserId) (call : Call) : Prop where
  /-- The actor calls. -/
  actor : r.actor? = some actor
  /-- The request is about the call. -/
  addresses : r.Addresses call
  /-- The message of the call breaks no rule. -/
  valid : call.breach? = none

/-! ## Reading -/

namespace Request

variable {r : Request} {rest : List String}

/-- The route of a path is that of its last segments. -/
theorem find?_of_leads (h : r.Leads rest) :
    Route.find? r.method r.target = Route.ofSegments? r.method rest := by
  obtain ⟨path, hpath, hsegments⟩ := h
  unfold Route.find?
  rw [hpath]
  change Route.ofPath? r.method (segments (unescape actsInPath path)) = _
  rw [hsegments]
  rfl

/-- A group that is written is read. -/
theorem readGroup_of_writes {group : GroupId} {g : String} (h : WritesGroup g group) :
    readGroup g = .ok group := by
  unfold readGroup
  rw [h]

/-- A user who is written is read. -/
theorem readUser_of_writes {user : UserId} {u : String} (h : WritesUser u user) :
    readUser u = .ok user := by
  unfold readUser
  rw [h]

/-- The route of a request that is about a call, and what is read there. -/
theorem exists_route_of_addresses {call : Call} (h : r.Addresses call) :
    ∃ e ids, Route.find? r.method r.target = some (.endpoint e ids) ∧
      readCall e ids r = .ok call := by
  cases h with
  | getBalance hmethod hpath =>
    refine ⟨.getBalance, [], ?_, rfl⟩
    rw [find?_of_leads hpath, hmethod]
    rfl
  | listGroups hmethod hpath =>
    refine ⟨.listGroups, [], ?_, rfl⟩
    rw [find?_of_leads hpath, hmethod]
    rfl
  | createGroup hmethod hpath hbody =>
    refine ⟨.createGroup, [], ?_, ?_⟩
    · rw [find?_of_leads hpath, hmethod]
      rfl
    · unfold readCall
      dsimp only
      rw [(readMessage_eq_ok_iff r _).2 hbody]
      rfl
  | @getGroup group g hmethod hpath hgroup =>
    refine ⟨.getGroup, [g], ?_, ?_⟩
    · rw [find?_of_leads hpath, hmethod]
      simp [Route.ofSegments?, hgroup.isEmpty_eq]
    · unfold readCall
      dsimp only
      rw [readGroup_of_writes hgroup]
      rfl
  | @deleteGroup group g hmethod hpath hgroup =>
    refine ⟨.deleteGroup, [g], ?_, ?_⟩
    · rw [find?_of_leads hpath, hmethod]
      simp [Route.ofSegments?, hgroup.isEmpty_eq]
    · unfold readCall
      dsimp only
      rw [readGroup_of_writes hgroup]
      rfl
  | @listMembers group g hmethod hpath hgroup =>
    refine ⟨.listMembers, [g], ?_, ?_⟩
    · rw [find?_of_leads hpath, hmethod]
      simp [Route.ofSegments?, hgroup.isEmpty_eq]
    · unfold readCall
      dsimp only
      rw [readGroup_of_writes hgroup]
      rfl
  | @addMembers group g message hmethod hpath hgroup hbody =>
    refine ⟨.addMembers, [g], ?_, ?_⟩
    · rw [find?_of_leads hpath, hmethod]
      simp [Route.ofSegments?, hgroup.isEmpty_eq]
    · unfold readCall
      dsimp only
      rw [readGroup_of_writes hgroup, (readMessage_eq_ok_iff r _).2 hbody]
      rfl
  | @removeMember group user g u hmethod hpath hgroup huser =>
    refine ⟨.removeMember, [g, u], ?_, ?_⟩
    · rw [find?_of_leads hpath, hmethod]
      simp [Route.ofSegments?, hgroup.isEmpty_eq, huser.isEmpty_eq]
    · unfold readCall
      dsimp only
      rw [readGroup_of_writes hgroup, readUser_of_writes huser]
      rfl
  | @shareExpense group g message hmethod hpath hgroup hbody =>
    refine ⟨.shareExpense, [g], ?_, ?_⟩
    · rw [find?_of_leads hpath, hmethod]
      simp [Route.ofSegments?, hgroup.isEmpty_eq]
    · unfold readCall
      dsimp only
      rw [readGroup_of_writes hgroup, (readMessage_eq_ok_iff r _).2 hbody]
      rfl

/-- A request of an actor that is about a call is read as that call, whatever its message says. -/
theorem call?_of_addresses {actor : UserId} {call : Call} (hactor : r.actor? = some actor)
    (h : r.Addresses call) : r.call? = some (actor, call) := by
  obtain ⟨e, ids, hroute, hread⟩ := exists_route_of_addresses h
  unfold call?
  rw [hroute]
  dsimp only
  rw [hactor, hread]

/-- **A request that asks for a call is read as that call.** -/
theorem call?_of_asks {actor : UserId} {call : Call} (h : r.Asks actor call) :
    r.call? = some (actor, call) := call?_of_addresses h.actor h.addresses

end Request

end ExpenseLedger.Web
