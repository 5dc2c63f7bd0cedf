import ExpenseLedger.Proofs.Identifier
import ExpenseLedger.Proofs.Json.Fields
import ExpenseLedger.Proofs.Json.Text
import ExpenseLedger.Proofs.Timestamp.Text
import ExpenseLedger.Web.Messages
/-!
# The laws of JSON forms

Every type of values with a JSON form says which of its values can be told: amounts must be
storable, instants must have a year that can be told, and for all else it is the parts that decide.
What is read from any JSON value can be told, and a value that can be told is read back from its
form (`LawfulWire`). Each type inherits the laws from the types of its fields.
-/

namespace ExpenseLedger

/-- A type of values that obey the laws of JSON forms. -/
class LawfulWire (α : Type) [Wire α] where
  /-- The values that can be told. -/
  Told : α → Prop
  /-- A value that can be told is read back from its form. -/
  ofJson?_toJson : ∀ a, Told a → ofJson? (toJson a) = some a
  /-- Whatever is read can be told. -/
  told_of_ofJson? : ∀ j a, ofJson? j = some a → Told a
  /-- All numbers in the form of a value are those of integers. -/
  isWhole_toJson : ∀ a : α, (toJson a).IsWhole
  /-- The order of the members of an object makes no difference. -/
  ofJson?_perm : ∀ ms ms' : List (Option String × Json), ms.Perm ms' →
    (ofJson? (.object ms) : Option α) = ofJson? (.object ms')

/-- The text of a string that has one. -/
theorem Json.toText?_text (s : String) : (Json.text s).toText? = some s := rfl

/-- A text has no numbers. -/
theorem Json.isWhole_text (s : String) : (Json.text s).IsWhole := trivial

namespace LawfulWire

/-! ## Single values -/

/-- Identifiers. -/
instance : LawfulWire Id where
  Told _ := True
  ofJson?_toJson a _ := Id.ofText?_text a
  told_of_ofJson? _ _ _ := trivial
  isWhole_toJson _ := Json.isWhole_text _
  ofJson?_perm _ _ _ := rfl

/-- Users. -/
instance : LawfulWire UserId where
  Told _ := True
  ofJson?_toJson u _ := UserId.ofText?_text u
  told_of_ofJson? _ _ _ := trivial
  isWhole_toJson _ := Json.isWhole_text _
  ofJson?_perm _ _ _ := rfl

/-- Group identifiers. -/
instance : LawfulWire GroupId where
  Told _ := True
  ofJson?_toJson g _ := by
    change (Id.ofText? g.id.text).map GroupId.mk = some g
    rw [Id.ofText?_text]
    rfl
  told_of_ofJson? _ _ _ := trivial
  isWhole_toJson _ := Json.isWhole_text _
  ofJson?_perm _ _ _ := rfl

/-- Texts. -/
instance : LawfulWire String where
  Told _ := True
  ofJson?_toJson _ _ := rfl
  told_of_ofJson? _ _ _ := trivial
  isWhole_toJson _ := Json.isWhole_text _
  ofJson?_perm _ _ _ := rfl

/-- Amounts can be told if they can be stored. -/
instance : LawfulWire Int where
  Told := Amount.Storable
  ofJson?_toJson a h := by
    have hbounds : Amount.lowest ≤ a ∧ a ≤ Amount.highest := h
    change ((JsonNumber.ofInt a).toInt?).bind _ = _
    rw [JsonNumber.toInt?_ofInt, Option.bind_some, if_pos hbounds]
  told_of_ofJson? j a h := by
    obtain ⟨b, -, h⟩ := Option.bind_eq_some_iff.1 h
    split at h
    · cases h
      assumption
    · contradiction
  isWhole_toJson a := ⟨a, rfl⟩
  ofJson?_perm _ _ _ := rfl

/-- Instants. -/
instance : LawfulWire Timestamp where
  Told := Timestamp.IsTold
  ofJson?_toJson t h := by
    change (Json.text t.text).toText?.bind Timestamp.ofText? = some t
    rw [Json.toText?_text, Option.bind_some, t.ofText?_text h]
  told_of_ofJson? j t h := by
    obtain ⟨s, -, h⟩ := Option.bind_eq_some_iff.1 h
    exact Timestamp.isTold_of_ofText? s t h
  isWhole_toJson t := Json.isWhole_text t.text
  ofJson?_perm _ _ _ := rfl

/-! ## Lists -/

section

variable {α : Type} [Wire α] [LawfulWire α]

/-- The items of a list are read back. -/
theorem mapM_ofJson?_toJson (as : List α) (h : ∀ a ∈ as, Told a) :
    (as.map toJson).mapM ofJson? = some as := by
  have hread := Json.mapM_eq_some _ id as fun a ha => ofJson?_toJson a (h a ha)
  rw [List.map_id] at hread
  rw [List.mapM_map]
  exact hread

/-- All items that are read can be told. -/
theorem told_of_mapM_ofJson? (js : List Json) (as : List α) (h : js.mapM ofJson? = some as) :
    ∀ a ∈ as, Told a := by
  induction js generalizing as with
  | nil =>
    cases h
    simp
  | cons j js ih =>
    rw [List.mapM_cons] at h
    obtain ⟨a, ha, h⟩ := Option.bind_eq_some_iff.1 h
    obtain ⟨as', has, h⟩ := Option.bind_eq_some_iff.1 h
    cases h
    intro b hb
    rcases List.mem_cons.1 hb with rfl | hb
    · exact told_of_ofJson? j b ha
    · exact ih as' has b hb

/-- The items of a list. -/
theorem areWhole_map_toJson (as : List α) : Json.AreWhole (as.map toJson) := by
  induction as with
  | nil => exact trivial
  | cons a as ih => exact ⟨isWhole_toJson a, ih⟩

/-- Lists of values. -/
instance : LawfulWire (List α) where
  Told as := ∀ a ∈ as, Told a
  ofJson?_toJson := mapM_ofJson?_toJson
  told_of_ofJson? j as h := by
    obtain ⟨js, -, h⟩ := Option.bind_eq_some_iff.1 h
    exact told_of_mapM_ofJson? js as h
  isWhole_toJson := areWhole_map_toJson
  ofJson?_perm _ _ _ := rfl

end

/-! ## Records -/

/-- What is made of the fields of an object does not depend on the order of its members. -/
theorem bind_allFields?_perm {α : Type} {ms ms' : List (Option String × Json)} (h : ms.Perm ms')
    (names : List String) (f : List Json → Option α) :
    (Json.allFields? names (.object ms)).bind f = (Json.allFields? names (.object ms')).bind f := by
  rw [Json.allFields?_perm h names]

/-- Loans. -/
instance : LawfulWire Loan where
  Told l := Told l.amount
  ofJson?_toJson l h := by
    have hfields : Json.allFields? ["lender", "debtor", "amount"] (toJson l) =
        some [toJson l.lender, toJson l.debtor, toJson l.amount] :=
      Json.allFields?_record _ _ rfl (by decide)
    change (Json.allFields? ["lender", "debtor", "amount"] (toJson l)).bind _ = _
    rw [hfields]
    simp only [Option.bind_eq_bind, Option.bind_some, ofJson?_toJson l.lender trivial,
      ofJson?_toJson l.debtor trivial, ofJson?_toJson l.amount h]
    rfl
  told_of_ofJson? j l h := by
    obtain ⟨fields, -, h⟩ := Option.bind_eq_some_iff.1 h
    split at h
    · obtain ⟨lender, -, h⟩ := Option.bind_eq_some_iff.1 h
      obtain ⟨debtor, -, h⟩ := Option.bind_eq_some_iff.1 h
      obtain ⟨amount, hamount, h⟩ := Option.bind_eq_some_iff.1 h
      cases h
      exact told_of_ofJson? _ _ hamount
    · contradiction
  isWhole_toJson l := ⟨isWhole_toJson l.lender, isWhole_toJson l.debtor, isWhole_toJson l.amount,
    trivial⟩
  ofJson?_perm _ _ h := bind_allFields?_perm h _ _

/-- Loan records. -/
instance : LawfulWire LoanRecord where
  Told r := Told r.amount ∧ Told r.createdAt
  ofJson?_toJson r h := by
    have hfields : Json.allFields? ["id", "lender", "debtor", "amount", "created_at"] (toJson r) =
        some [toJson r.id, toJson r.lender, toJson r.debtor, toJson r.amount, toJson r.createdAt] :=
      Json.allFields?_record _ _ rfl (by decide)
    change (Json.allFields? ["id", "lender", "debtor", "amount",
      "created_at"] (toJson r)).bind _ = _
    rw [hfields]
    simp only [Option.bind_eq_bind, Option.bind_some, ofJson?_toJson r.lender trivial,
      ofJson?_toJson r.debtor trivial, ofJson?_toJson r.amount h.1, ofJson?_toJson r.id trivial,
      ofJson?_toJson r.createdAt h.2]
    rfl
  told_of_ofJson? j r h := by
    obtain ⟨fields, -, h⟩ := Option.bind_eq_some_iff.1 h
    split at h
    · obtain ⟨lender, -, h⟩ := Option.bind_eq_some_iff.1 h
      obtain ⟨debtor, -, h⟩ := Option.bind_eq_some_iff.1 h
      obtain ⟨amount, hamount, h⟩ := Option.bind_eq_some_iff.1 h
      obtain ⟨id, -, h⟩ := Option.bind_eq_some_iff.1 h
      obtain ⟨createdAt, hcreatedAt, h⟩ := Option.bind_eq_some_iff.1 h
      cases h
      exact ⟨told_of_ofJson? _ _ hamount, told_of_ofJson? _ _ hcreatedAt⟩
    · contradiction
  isWhole_toJson r := ⟨isWhole_toJson r.id, isWhole_toJson r.lender, isWhole_toJson r.debtor,
    isWhole_toJson r.amount, isWhole_toJson r.createdAt, trivial⟩
  ofJson?_perm _ _ h := bind_allFields?_perm h _ _

/-- Lines of balances. -/
instance : LawfulWire BalanceEntry where
  Told e := Told e.amount
  ofJson?_toJson e h := by
    have hfields : Json.allFields? ["user_id", "balance"] (toJson e) =
        some [toJson e.counterparty, toJson e.amount] :=
      Json.allFields?_record _ _ rfl (by decide)
    change (Json.allFields? ["user_id", "balance"] (toJson e)).bind _ = _
    rw [hfields]
    simp only [Option.bind_eq_bind, Option.bind_some, ofJson?_toJson e.counterparty trivial,
      ofJson?_toJson e.amount h]
    rfl
  told_of_ofJson? j e h := by
    obtain ⟨fields, -, h⟩ := Option.bind_eq_some_iff.1 h
    split at h
    · obtain ⟨counterparty, -, h⟩ := Option.bind_eq_some_iff.1 h
      obtain ⟨amount, hamount, h⟩ := Option.bind_eq_some_iff.1 h
      cases h
      exact told_of_ofJson? _ _ hamount
    · contradiction
  isWhole_toJson e := ⟨isWhole_toJson e.counterparty, isWhole_toJson e.amount, trivial⟩
  ofJson?_perm _ _ h := bind_allFields?_perm h _ _

/-- Shared expenses. -/
instance : LawfulWire Expense where
  Told e := Told e.total ∧ Told e.share ∧ Told e.debtors ∧ Told e.loans
  ofJson?_toJson e h := by
    have hfields : Json.allFields? ["group_id", "payer_id", "total_amount", "share", "debtors",
      "loans"] (toJson e) =
        some [toJson e.group, toJson e.payer, toJson e.total, toJson e.share, toJson e.debtors,
          toJson e.loans] :=
      Json.allFields?_record _ _ rfl (by decide)
    change (Json.allFields? ["group_id", "payer_id", "total_amount", "share", "debtors",
      "loans"] (toJson e)).bind _ = _
    rw [hfields]
    simp only [Option.bind_eq_bind, Option.bind_some, ofJson?_toJson e.group trivial,
      ofJson?_toJson e.payer trivial, ofJson?_toJson e.total h.1, ofJson?_toJson e.share h.2.1,
      ofJson?_toJson e.debtors h.2.2.1, ofJson?_toJson e.loans h.2.2.2]
    rfl
  told_of_ofJson? j e h := by
    obtain ⟨fields, -, h⟩ := Option.bind_eq_some_iff.1 h
    split at h
    · obtain ⟨group, -, h⟩ := Option.bind_eq_some_iff.1 h
      obtain ⟨payer, -, h⟩ := Option.bind_eq_some_iff.1 h
      obtain ⟨total, htotal, h⟩ := Option.bind_eq_some_iff.1 h
      obtain ⟨share, hshare, h⟩ := Option.bind_eq_some_iff.1 h
      obtain ⟨debtors, hdebtors, h⟩ := Option.bind_eq_some_iff.1 h
      obtain ⟨loans, hloans, h⟩ := Option.bind_eq_some_iff.1 h
      cases h
      exact ⟨told_of_ofJson? _ _ htotal, told_of_ofJson? _ _ hshare, told_of_ofJson? _ _ hdebtors,
        told_of_ofJson? _ _ hloans⟩
    · contradiction
  isWhole_toJson e := ⟨isWhole_toJson e.group, isWhole_toJson e.payer, isWhole_toJson e.total,
    isWhole_toJson e.share, isWhole_toJson e.debtors, isWhole_toJson e.loans, trivial⟩
  ofJson?_perm _ _ h := bind_allFields?_perm h _ _

/-! ## Groups -/

/-- The fields of a group. -/
theorem ofFields?_group (g : Group) (h : Told g.createdAt) :
    Group.ofFields? [toJson g.id, toJson g.name, toJson g.owner, toJson g.createdAt] = some g := by
  unfold Group.ofFields?
  simp only [Option.bind_eq_bind, Option.bind_some, ofJson?_toJson g.id trivial,
    ofJson?_toJson g.name trivial, ofJson?_toJson g.owner trivial, ofJson?_toJson g.createdAt h]
  rfl

/-- A group that is made of fields has an instant that can be told. -/
theorem told_of_ofFields? (fields : List Json) (g : Group) (h : Group.ofFields? fields = some g) :
    Told g.createdAt := by
  unfold Group.ofFields? at h
  split at h
  · obtain ⟨id, -, h⟩ := Option.bind_eq_some_iff.1 h
    obtain ⟨name, -, h⟩ := Option.bind_eq_some_iff.1 h
    obtain ⟨owner, -, h⟩ := Option.bind_eq_some_iff.1 h
    obtain ⟨createdAt, hcreatedAt, h⟩ := Option.bind_eq_some_iff.1 h
    cases h
    exact told_of_ofJson? _ _ hcreatedAt
  · contradiction

/-- Groups. -/
instance : LawfulWire Group where
  Told g := Told g.createdAt
  ofJson?_toJson g h := by
    have hfields : Json.allFields? Group.fieldNames (toJson g) =
        some [toJson g.id, toJson g.name, toJson g.owner, toJson g.createdAt] :=
      Json.allFields?_record g.members _ rfl (by decide)
    change (Json.allFields? Group.fieldNames (toJson g)).bind Group.ofFields? = _
    rw [hfields, Option.bind_some, ofFields?_group g h]
  told_of_ofJson? j g h := by
    obtain ⟨fields, -, h⟩ := Option.bind_eq_some_iff.1 h
    exact told_of_ofFields? fields g h
  isWhole_toJson g := ⟨isWhole_toJson g.id, isWhole_toJson g.name, isWhole_toJson g.owner,
    isWhole_toJson g.createdAt, trivial⟩
  ofJson?_perm _ _ h := bind_allFields?_perm h _ _

/-- The values that stand beside the members of a group. -/
def beside (ms : List (Option String × Json)) : List (Option String × Json) :=
  ms.filter fun m => m.1 ≠ some "members"

/-- How a group and its members are read from an object. -/
theorem ofJson?_object (ms : List (Option String × Json)) :
    (ofJson? (.object ms) : Option GroupInfo) =
      if (beside ms).all fun m => m.2.isSound GroupInfo.greatestDepth then
        (Json.fieldsOfObject? ["members"] ms).bind fun found =>
          (found.mapM id).bind fun users =>
            (Json.allFields? Group.fieldNames (.object ms)).bind fun fields =>
              (Group.ofFields? fields).bind fun group =>
                match users with
                | [users] => (ofJson? users).bind fun members => some ⟨group, members⟩
                | _ => none
      else none := rfl

/-- Groups with their members beside their fields. -/
instance : LawfulWire GroupInfo where
  Told i := Told i.group.createdAt
  ofJson?_toJson i h := by
    obtain ⟨ms, hms⟩ : ∃ ms, ms = i.group.members ++ [("members", toJson i.members)] := ⟨_, rfl⟩
    have hobject : toJson i = .object (ms.map fun m => (some m.1, m.2)) := by
      rw [hms]
      rfl
    have hnodup : (ms.map Prod.fst).Nodup := by
      rw [hms]
      exact (by decide : (Group.fieldNames ++ ["members"]).Nodup)
    -- What stands beside the members are the texts of the group, which are sound.
    have hbeside : (beside (ms.map fun m => (some m.1, m.2))).all
        (fun m => m.2.isSound GroupInfo.greatestDepth) = true := by
      rw [hms]
      rfl
    have husers : Json.fieldsOfObject? ["members"] (ms.map fun m => (some m.1, m.2)) =
        some [some (toJson i.members)] :=
      Json.fieldsOfObject?_record ms hnodup [("members", toJson i.members)] (by simp [hms])
    have hgroup : Json.allFields? Group.fieldNames (.object (ms.map fun m => (some m.1, m.2))) =
        some [toJson i.group.id, toJson i.group.name, toJson i.group.owner,
          toJson i.group.createdAt] :=
      Json.allFields?_of_mem ms hnodup i.group.members
        (fun m hm => by rw [hms]; exact List.mem_append_left _ hm) _ rfl
    have hone : [some (toJson i.members)].mapM id = some [toJson i.members] := rfl
    rw [hobject, ofJson?_object, if_pos hbeside, husers, hgroup]
    simp only [hone, Option.bind_some, ofFields?_group i.group h,
      ofJson?_toJson i.members fun _ _ => trivial]
  told_of_ofJson? j i h := by
    cases j with
    | object ms =>
      rw [ofJson?_object] at h
      split at h
      · obtain ⟨found, -, h⟩ := Option.bind_eq_some_iff.1 h
        obtain ⟨users, -, h⟩ := Option.bind_eq_some_iff.1 h
        obtain ⟨fields, -, h⟩ := Option.bind_eq_some_iff.1 h
        obtain ⟨group, hgroup, h⟩ := Option.bind_eq_some_iff.1 h
        split at h
        · obtain ⟨members, -, h⟩ := Option.bind_eq_some_iff.1 h
          cases h
          exact told_of_ofFields? fields _ hgroup
        · contradiction
      · contradiction
    | null => contradiction
    | bool b => contradiction
    | number n => contradiction
    | string text => contradiction
    | list items => contradiction
  isWhole_toJson i := ⟨isWhole_toJson i.group.id, isWhole_toJson i.group.name,
    isWhole_toJson i.group.owner, isWhole_toJson i.group.createdAt, isWhole_toJson i.members,
    trivial⟩
  ofJson?_perm ms ms' h := by
    have hbeside : (beside ms).Perm (beside ms') := h.filter _
    rw [ofJson?_object, ofJson?_object, hbeside.all_eq, Json.fieldsOfObject?_perm h,
      Json.allFields?_perm h]

/-! ## Messages -/

/-- Requests for new groups. -/
instance : LawfulWire Web.CreateGroup where
  Told r := True
  ofJson?_toJson r h := by
    have hfields : Json.allFields? ["name"] (toJson r) =
        some [toJson r.name] :=
      Json.allFields?_record _ _ rfl (by decide)
    change (Json.allFields? ["name"] (toJson r)).bind _ = _
    rw [hfields]
    simp only [Option.bind_eq_bind, Option.bind_some, ofJson?_toJson r.name trivial]
    rfl
  told_of_ofJson? j r h := by
    obtain ⟨fields, -, h⟩ := Option.bind_eq_some_iff.1 h
    split at h
    · obtain ⟨name, -, h⟩ := Option.bind_eq_some_iff.1 h
      cases h
      exact trivial
    · contradiction
  isWhole_toJson r := ⟨isWhole_toJson r.name, trivial⟩
  ofJson?_perm _ _ h := bind_allFields?_perm h _ _

/-- Requests for new members. -/
instance : LawfulWire Web.AddMembers where
  Told r := Told r.users
  ofJson?_toJson r h := by
    have hfields : Json.allFields? ["ids"] (toJson r) =
        some [toJson r.users] :=
      Json.allFields?_record _ _ rfl (by decide)
    change (Json.allFields? ["ids"] (toJson r)).bind _ = _
    rw [hfields]
    simp only [Option.bind_eq_bind, Option.bind_some, ofJson?_toJson r.users h]
    rfl
  told_of_ofJson? j r h := by
    obtain ⟨fields, -, h⟩ := Option.bind_eq_some_iff.1 h
    split at h
    · obtain ⟨users, husers, h⟩ := Option.bind_eq_some_iff.1 h
      cases h
      exact told_of_ofJson? _ _ husers
    · contradiction
  isWhole_toJson r := ⟨isWhole_toJson r.users, trivial⟩
  ofJson?_perm _ _ h := bind_allFields?_perm h _ _

/-- Requests to share expenses. -/
instance : LawfulWire Web.ShareExpense where
  Told r := Told r.amount
  ofJson?_toJson r h := by
    have hfields : Json.allFields? ["amount"] (toJson r) =
        some [toJson r.amount] :=
      Json.allFields?_record _ _ rfl (by decide)
    change (Json.allFields? ["amount"] (toJson r)).bind _ = _
    rw [hfields]
    simp only [Option.bind_eq_bind, Option.bind_some, ofJson?_toJson r.amount h]
    rfl
  told_of_ofJson? j r h := by
    obtain ⟨fields, -, h⟩ := Option.bind_eq_some_iff.1 h
    split at h
    · obtain ⟨amount, hamount, h⟩ := Option.bind_eq_some_iff.1 h
      cases h
      exact told_of_ofJson? _ _ hamount
    · contradiction
  isWhole_toJson r := ⟨isWhole_toJson r.amount, trivial⟩
  ofJson?_perm _ _ h := bind_allFields?_perm h _ _

/-- Answers to requests for balances. -/
instance : LawfulWire Web.BalanceAnswer where
  Told a := Told a.lines
  ofJson?_toJson a h := by
    have hfields : Json.allFields? ["user_id", "balance"] (toJson a) =
        some [toJson a.user, toJson a.lines] :=
      Json.allFields?_record _ _ rfl (by decide)
    change (Json.allFields? ["user_id", "balance"] (toJson a)).bind _ = _
    rw [hfields]
    simp only [Option.bind_eq_bind, Option.bind_some, ofJson?_toJson a.user trivial,
      ofJson?_toJson a.lines h]
    rfl
  told_of_ofJson? j a h := by
    obtain ⟨fields, -, h⟩ := Option.bind_eq_some_iff.1 h
    split at h
    · obtain ⟨user, -, h⟩ := Option.bind_eq_some_iff.1 h
      obtain ⟨lines, hlines, h⟩ := Option.bind_eq_some_iff.1 h
      cases h
      exact told_of_ofJson? _ _ hlines
    · contradiction
  isWhole_toJson a := ⟨isWhole_toJson a.user, isWhole_toJson a.lines, trivial⟩
  ofJson?_perm _ _ h := bind_allFields?_perm h _ _

/-- Answers to requests for groups. -/
instance : LawfulWire Web.GroupsAnswer where
  Told a := Told a.groups
  ofJson?_toJson a h := by
    have hfields : Json.allFields? ["groups"] (toJson a) =
        some [toJson a.groups] :=
      Json.allFields?_record _ _ rfl (by decide)
    change (Json.allFields? ["groups"] (toJson a)).bind _ = _
    rw [hfields]
    simp only [Option.bind_eq_bind, Option.bind_some, ofJson?_toJson a.groups h]
    rfl
  told_of_ofJson? j a h := by
    obtain ⟨fields, -, h⟩ := Option.bind_eq_some_iff.1 h
    split at h
    · obtain ⟨groups, hgroups, h⟩ := Option.bind_eq_some_iff.1 h
      cases h
      exact told_of_ofJson? _ _ hgroups
    · contradiction
  isWhole_toJson a := ⟨isWhole_toJson a.groups, trivial⟩
  ofJson?_perm _ _ h := bind_allFields?_perm h _ _

/-- Answers to requests for members. -/
instance : LawfulWire Web.MembersAnswer where
  Told a := Told a.members
  ofJson?_toJson a h := by
    have hfields : Json.allFields? ["members"] (toJson a) =
        some [toJson a.members] :=
      Json.allFields?_record _ _ rfl (by decide)
    change (Json.allFields? ["members"] (toJson a)).bind _ = _
    rw [hfields]
    simp only [Option.bind_eq_bind, Option.bind_some, ofJson?_toJson a.members h]
    rfl
  told_of_ofJson? j a h := by
    obtain ⟨fields, -, h⟩ := Option.bind_eq_some_iff.1 h
    split at h
    · obtain ⟨members, hmembers, h⟩ := Option.bind_eq_some_iff.1 h
      cases h
      exact told_of_ofJson? _ _ hmembers
    · contradiction
  isWhole_toJson a := ⟨isWhole_toJson a.members, trivial⟩
  ofJson?_perm _ _ h := bind_allFields?_perm h _ _

end LawfulWire

end ExpenseLedger
