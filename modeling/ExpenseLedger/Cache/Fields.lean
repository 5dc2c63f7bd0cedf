import ExpenseLedger.Balance
import ExpenseLedger.Text.Blank

/-!
# Cached balances as text

A cached balance is a hash of texts under a key of its own: each field is named by a counterparty
and holds the decimal net amount. A second key, the marker, says that the hash is a whole balance,
and so tells an empty balance from one that was never computed.
-/

namespace ExpenseLedger.Cache

/-- The fields of a hash. -/
abbrev Fields : Type := Table String String

/-! ## Keys -/

/-- The key of a user's hash. -/
def balanceKey (user : UserId) : String := "balance:" ++ user.text

/-- The key of a user's marker. -/
def cachedKey (user : UserId) : String := "cached:" ++ user.text

/-! ## Writing and reading balances -/

/-- The names and amounts of the fields of a balance, in ascending order of the names. -/
def encode (b : Balance) : List (String × Int) := b.entries.map fun e => (e.1.text, e.2)

/-- The hash that holds a balance. -/
def Fields.ofBalance (b : Balance) : Fields :=
  Table.ofList ((encode b).map fun e => (e.1, Amount.text e.2))

/-- Reads one field. Blanks around the amount do not count. -/
def readField (name value : String) : Except Error (UserId × Int) :=
  match UserId.ofText? name with
  | none => .error (.badCounterparty name)
  | some counterparty =>
    match Amount.ofText (Text.trim value) with
    | .error flaw => .error (.badBalance value counterparty flaw)
    | .ok amount => .ok (counterparty, amount)

/-- Reads fields into a balance; of two that name the same counterparty the later one counts. -/
def readFields (b : Balance) : List (String × String) → Except Error Balance
  | [] => .ok b
  | (name, value) :: rest =>
    match readField name value with
    | .error e => .error e
    | .ok (counterparty, amount) => readFields (b.insert counterparty amount) rest

/-- An order in which the fields of a hash are visited, each of them once. Nothing else is known of
it: a store can visit its hashes in one order now and in another one later. -/
structure Fields.Order where
  /-- The fields of a hash as they are visited. -/
  visit : Fields → List (String × String)
  /-- Each field is visited once. -/
  perm : ∀ fields, (visit fields).Perm fields.entries

/-- The order in which the names of the fields ascend. -/
def Fields.Order.ascending : Fields.Order := ⟨fun fields => fields.entries, fun _ => .refl _⟩

/-- Reads the balance that a hash holds, visiting its fields in an order. The order matters only
where two names spell the same counterparty. -/
def decodeIn (order : Fields.Order) (fields : Fields) : Except Error Balance :=
  readFields Table.empty (order.visit fields)

/-- Reads the balance that a hash holds, in ascending order of its names. -/
def decode (fields : Fields) : Except Error Balance := decodeIn .ascending fields

end ExpenseLedger.Cache
