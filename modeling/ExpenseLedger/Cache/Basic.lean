import ExpenseLedger.Cache.Fields

/-!
# The cache of balances

A key-value store with hashes and markers. It is disposable: an entry can be dropped at any time, an
entry that cannot be read drops itself, and an update of several amounts takes effect as a whole or
not at all.
-/

namespace ExpenseLedger

/-- The stored hashes and markers, and the faults of the store. -/
structure Cache where
  /-- The hashes by their keys. -/
  hashes : Table String Cache.Fields
  /-- The markers that are set. -/
  markers : KeySet String
  /-- Every operation fails. -/
  failing : Bool
  /-- Every incremental update fails. -/
  failingUpdates : Bool
deriving DecidableEq

namespace Cache

/-- What a look-up finds. -/
inductive Lookup where
  /-- The whole balance. -/
  | hit (balance : Balance)
  /-- There is no entry. -/
  | notCached
deriving DecidableEq

/-- What an update did. -/
inductive DeltaOutcome where
  /-- All amounts were changed. -/
  | applied
  /-- There was no entry to change. -/
  | skipped
deriving DecidableEq

/-- The store without content. -/
def empty : Cache := ⟨Table.empty, Table.empty, false, false⟩

/-- The hash of a user, if there is one. -/
def fields? (user : UserId) (c : Cache) : Option Fields := c.hashes.get? (balanceKey user)

/-- The user's entry is a whole balance. -/
def isMarked (user : UserId) (c : Cache) : Bool := c.markers.contains (cachedKey user)

/-- Takes out the hash and the marker of a user. -/
def remove (user : UserId) (c : Cache) : Cache :=
  { c with
    hashes := c.hashes.erase (balanceKey user)
    markers := c.markers.erase (cachedKey user) }

/-- Stores the hash of a user. -/
def setFields (user : UserId) (fields : Fields) (c : Cache) : Cache :=
  { c with hashes := c.hashes.insert (balanceKey user) fields }

/-- Sets the marker of a user. -/
def mark (user : UserId) (c : Cache) : Cache :=
  { c with markers := KeySet.add c.markers (cachedKey user) }

/-- Writes one field of a user's hash as it is. -/
def insertRaw (user : UserId) (field value : String) (c : Cache) : Cache :=
  c.setFields user (((c.fields? user).getD Table.empty).insert field value)

/-! ## Operations -/

/-- Whether a user has an entry. -/
def hasEntry (user : UserId) (c : Cache) : Except Error Bool × Cache :=
  if c.failing then (.error .cacheUnavailable, c) else (.ok (c.isMarked user), c)

/-- Reads the entry of a user, visiting its fields in an order. An entry that cannot be read is
dropped and counts as absent. -/
def lookupIn (order : Fields.Order) (user : UserId) (c : Cache) : Except Error Lookup × Cache :=
  if c.failing then (.error .cacheUnavailable, c)
  else if c.isMarked user then
    match decodeIn order ((c.fields? user).getD Table.empty) with
    | .ok balance => (.ok (.hit balance), c)
    | .error _ => (.ok .notCached, c.remove user)
  else (.ok .notCached, c)

/-- Reads the entry of a user, in ascending order of the names of its fields. -/
def lookup (user : UserId) (c : Cache) : Except Error Lookup × Cache := c.lookupIn .ascending user

/-- Replaces the entry of a user. An empty balance has a marker and no hash. -/
def populate (user : UserId) (balance : Balance) (c : Cache) : Except Error Unit × Cache :=
  if c.failing then (.error .cacheUnavailable, c)
  else
    let cleared := c.remove user
    let filled :=
      if balance.isEmpty then cleared else cleared.setFields user (Fields.ofBalance balance)
    (.ok (), filled.mark user)

/-- Adds one amount to the field of a counterparty. -/
def addDelta (fields : Fields) (delta : UserId × Int) : Except Error Fields :=
  let field := delta.1.text
  let current : Except Error Int :=
    match fields.get? field with
    | none => .ok 0
    | some raw =>
      match Amount.ofText raw with
      | .error flaw => .error (.fieldNotInteger field flaw)
      | .ok amount => .ok amount
  match current with
  | .error e => .error e
  | .ok amount =>
    match Amount.add? amount delta.2 with
    | none => .error (.fieldOverflow field)
    | some next => .ok (fields.insert field (Amount.text next))

/-- Adds amounts to the fields of counterparties, from the first to the last. -/
def addDeltas (fields : Fields) : List (UserId × Int) → Except Error Fields
  | [] => .ok fields
  | delta :: rest =>
    match addDelta fields delta with
    | .error e => .error e
    | .ok fields' => addDeltas fields' rest

/-- Adds amounts to the entry of a user, all of them or none. The hash exists afterwards. -/
def applyDeltas (user : UserId) (deltas : List (UserId × Int)) (c : Cache) :
    Except Error DeltaOutcome × Cache :=
  if c.failing then (.error .cacheUnavailable, c)
  else if c.failingUpdates then (.error .updateRefused, c)
  else if c.isMarked user then
    let fields := (c.fields? user).getD Table.empty
    match addDeltas fields deltas with
    | .error e => (.error e, c.setFields user fields)
    | .ok fields' => (.ok .applied, c.setFields user fields')
  else (.ok .skipped, c)

/-- Drops the entry of a user. -/
def clear (user : UserId) (c : Cache) : Except Error Unit × Cache :=
  if c.failing then (.error .cacheUnavailable, c) else (.ok (), c.remove user)

end Cache

end ExpenseLedger
