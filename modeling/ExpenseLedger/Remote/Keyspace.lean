import ExpenseLedger.Remote.Dialogue

/-!
# A store of texts and hashes

What a server with a store of its own replies to commands. It knows no scripts. Nothing expires
while it is watched, except that a lifetime of nothing removes a key at once.
-/

namespace ExpenseLedger.Remote

/-- What is stored under a key. -/
inductive StoredValue where
  /-- A text. -/
  | text (value : String)
  /-- A hash. -/
  | hash (fields : Cache.Fields)
deriving DecidableEq

/-- The values by their keys. -/
abbrev Keyspace : Type := Table String StoredValue

namespace Keyspace

/-- The complaint about a key that holds another kind of value. -/
def wrongKind : Reply :=
  .error "WRONGTYPE Operation against a key holding the wrong kind of value"

/-- The fields of a hash, each followed by its value. -/
def fieldReplies (fields : Cache.Fields) : List Reply :=
  fields.entries.flatMap fun f => [.text f.1, .text f.2]

/-- Writes fields of a hash. -/
def writeFields (old : Cache.Fields) (fields : List (String × Int)) : Cache.Fields :=
  fields.foldl (fun h f => h.insert f.1 (Amount.text f.2)) old

/-- Removes keys, and counts those that were there. -/
def removeAll : List String → Keyspace → Nat × Keyspace
  | [], s => (0, s)
  | key :: keys, s =>
    let r := removeAll keys (s.erase key)
    ((if s.contains key then 1 else 0) + r.1, r.2)

/-- Carries out a command. -/
def answer : Command → Keyspace → Reply × Keyspace
  | .ping, s => (.status "PONG", s)
  | .contains key, s => (.integer (if s.contains key then 1 else 0), s)
  | .readHash key, s =>
    match s.get? key with
    | none => (.list [], s)
    | some (.hash fields) => (.list (fieldReplies fields), s)
    | some (.text _) => (wrongKind, s)
  | .writeHash _ [], s => (.error "ERR wrong number of arguments", s)
  | .writeHash key fields, s =>
    match s.get? key with
    | none => (.status "OK", s.insert key (.hash (writeFields Table.empty fields)))
    | some (.hash old) => (.status "OK", s.insert key (.hash (writeFields old fields)))
    | some (.text _) => (wrongKind, s)
  | .set key value, s => (.status "OK", s.insert key (.text (Amount.text value)))
  | .delete keys, s =>
    let r := removeAll keys s
    (.integer r.1, r.2)
  | .expire key lifetime, s =>
    if s.contains key then (.integer 1, if lifetime = 0 then s.erase key else s)
    else (.integer 0, s)
  | .run _ _ _, s | .load _, s => (.error "ERR unknown command", s)

/-- Carries out commands, from the first to the last. -/
def answers : List Command → Keyspace → List Reply × Keyspace
  | [], s => ([], s)
  | c :: cs, s =>
    let r := answer c s
    let rs := answers cs r.2
    (r.1 :: rs.1, rs.2)

/-- Serves a request. -/
def serve : Request → Keyspace → Reply × Keyspace
  | .one command, s => answer command s
  | .together commands, s =>
    let r := answers commands s
    (.list r.1, r.2)

end Keyspace

end ExpenseLedger.Remote
