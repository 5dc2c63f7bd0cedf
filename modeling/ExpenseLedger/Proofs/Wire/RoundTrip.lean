import ExpenseLedger.Proofs.Wire.Laws
/-!
# Values are read back from their text

A value that has been read from any text, however it was spelled there, is read back from the text
that is written for it. So no two values have the same text, writing what has been read a second
time changes nothing, and the order of the members of an object makes no difference. Main
statements:

* `LawfulWire.roundTrips`: the round trip for any type that obeys the laws of JSON forms;
* `wire_types_round_trip`: the types of values that clients and the service send each other.
-/

namespace ExpenseLedger

variable {α : Type} [Wire α]

/-! ## Texts of values -/

/-- The text of a value. -/
def encode (a : α) : String := (toJson a).write

/-- Reads a value from a text. -/
def decode? (α : Type) [Wire α] (s : String) : Option α := (Json.read? s).bind ofJson?

/-- Values of the type survive the way to text and back. -/
structure RoundTrips (α : Type) [Wire α] : Prop where
  /-- A value that has been read from a text is read back from its own. -/
  reread : ∀ s (v : α), decode? α s = some v → decode? α (encode v) = some v
  /-- Values with the same text are equal. -/
  injective : ∀ s s' (v v' : α), decode? α s = some v → decode? α s' = some v' →
    encode v = encode v' → v = v'
  /-- Writing what has been read twice is the same as once. -/
  idempotent : ∀ s t, (decode? α s).map encode = some t → (decode? α t).map encode = some t
  /-- The members of an object can be written in any order. -/
  reorder : ∀ s s' ms ms', Json.read? s = some (.object ms) → Json.read? s' = some (.object ms') →
    ms.Perm ms' → decode? α s = decode? α s'

namespace LawfulWire

variable [LawfulWire α]

/-- A value that can be told is read back from its text. -/
theorem decode?_encode (a : α) (h : Told a) : decode? α (encode a) = some a := by
  unfold decode? encode
  rw [Json.read?_write _ (isWhole_toJson a), Option.bind_some, ofJson?_toJson a h]

/-- A value that has been read can be told. -/
theorem told_of_decode? (s : String) (a : α) (h : decode? α s = some a) : Told a := by
  obtain ⟨j, -, hj⟩ := Option.bind_eq_some_iff.1 h
  exact told_of_ofJson? j a hj

/-- **Values of a type that obeys the laws survive the way to text and back.** -/
theorem roundTrips : RoundTrips α where
  reread s v h := decode?_encode v (told_of_decode? s v h)
  injective s s' v v' h h' heq := by
    have hv := decode?_encode v (told_of_decode? s v h)
    have hv' := decode?_encode v' (told_of_decode? s' v' h')
    rw [heq, hv'] at hv
    exact (Option.some.inj hv).symm
  idempotent s t h := by
    obtain ⟨v, hv, rfl⟩ := Option.map_eq_some_iff.1 h
    rw [decode?_encode v (told_of_decode? s v hv), Option.map_some]
  reorder s s' ms ms' h h' hperm := by
    unfold decode?
    rw [h, h', Option.bind_some, Option.bind_some, ofJson?_perm ms ms' hperm]

end LawfulWire

open Web in
/-- **Whatever clients and the service send each other survives the way to text and back.** -/
theorem wire_types_round_trip :
    RoundTrips UserId ∧ RoundTrips GroupId ∧ RoundTrips Loan ∧ RoundTrips LoanRecord ∧
      RoundTrips BalanceEntry ∧ RoundTrips Group ∧ RoundTrips GroupInfo ∧ RoundTrips Expense ∧
      RoundTrips BalanceAnswer ∧ RoundTrips GroupsAnswer ∧ RoundTrips MembersAnswer ∧
      RoundTrips CreateGroup ∧ RoundTrips AddMembers ∧ RoundTrips ShareExpense := by
  refine ⟨?_, ?_, ?_, ?_, ?_, ?_, ?_, ?_, ?_, ?_, ?_, ?_, ?_, ?_⟩
  all_goals exact LawfulWire.roundTrips

/-- A text that spells the identifier, the instant and a control character in its own way. -/
example : (decode? Group ("\x7b\"created_at\": \"2026-01-02t01:30:05.5+01:30\", " ++
    "\"extra\": null, \"id\": \"\x7bAAAAAAAA-0000-4000-8000-00000000000A\x7d\", " ++
    "\"name\": \"a\\u0009b\", \"owner_id\": \"bbbbbbbb000040008000000000000000\"\x7d")).map encode =
    some ("\x7b\"id\":\"aaaaaaaa-0000-4000-8000-00000000000a\",\"name\":\"a\\tb\"," ++
      "\"owner_id\":\"bbbbbbbb-0000-4000-8000-000000000000\"," ++
      "\"created_at\":\"2026-01-02T00:00:05.500Z\"\x7d") := by
  decide +kernel

end ExpenseLedger
