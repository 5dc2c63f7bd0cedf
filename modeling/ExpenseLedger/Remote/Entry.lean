import ExpenseLedger.Cache.Basic
import ExpenseLedger.Remote.Dialogue

/-!
# Cache entries in a remote store

The operations of the cache as dialogues. An entry is replaced in one request, so nobody sees half
of it, and it is updated by a script, so the marker cannot go between the look at it and the
writing.
-/

namespace ExpenseLedger.Remote

open Cache (balanceKey cachedKey)

/-- Asks for a sign of life. -/
def ping : Dialogue (Except Error String) := Dialogue.query (.one .ping) Reply.text?

/-- Whether a user has an entry. -/
def hasEntry (user : UserId) : Dialogue (Except Error Bool) :=
  Dialogue.query (.one (.contains (cachedKey user))) Reply.flag?

/-- Drops the entry of a user. -/
def clear (user : UserId) : Dialogue (Except Error Unit) :=
  Dialogue.query (.one (.delete [balanceKey user, cachedKey user])) fun _ => some ()

/-- Reads the entry of a user, visiting its fields in an order of the reader, whatever the order in
which they were replied. An entry that cannot be read is dropped and counts as absent, if it can be
dropped. -/
def lookupIn (order : Cache.Fields.Order) (user : UserId) :
    Dialogue (Except Error Cache.Lookup) := do
  match ← Dialogue.query
      (.together [.contains (cachedKey user), .readHash (balanceKey user)]) Reply.entry? with
  | .error e => return .error e
  | .ok (false, _) => return .ok .notCached
  | .ok (true, fields) =>
    match Cache.decodeIn order fields with
    | .ok balance => return .ok (.hit balance)
    | .error _ =>
      match ← clear user with
      | .error e => return .error e
      | .ok () => return .ok .notCached

/-- Reads the entry of a user, in ascending order of the names of its fields. -/
def lookup (user : UserId) : Dialogue (Except Error Cache.Lookup) := lookupIn .ascending user

/-- The commands that replace the entry of a user. An empty balance has a marker and no hash. -/
def populateCommands (lifetime : Option Nat) (user : UserId) (balance : Balance) : List Command :=
  let fields := Cache.encode balance
  [.delete [balanceKey user], .delete [cachedKey user]] ++
    (if fields.isEmpty then [] else [.writeHash (balanceKey user) fields]) ++
    [.set (cachedKey user) 1] ++
    match lifetime with
    | none => []
    | some n => [.expire (balanceKey user) n, .expire (cachedKey user) n]

/-- Replaces the entry of a user. It stays for a lifetime, if there is one. -/
def populate (lifetime : Option Nat) (user : UserId) (balance : Balance) :
    Dialogue (Except Error Unit) :=
  Dialogue.query (.together (populateCommands lifetime user balance)) fun _ => some ()

/-- Runs a script, and gives the store its source if it does not know the script. -/
def runScript (script : Script) (keys arguments : List String) : Dialogue (Except Error Int) :=
  let run := Request.one (.run script keys arguments)
  .ask run fun reply =>
    if reply.isScriptMissing then do
      match ← Dialogue.query (.one (.load script)) fun _ => some () with
      | .error e => return .error e
      | .ok () => Dialogue.query run Reply.integer?
    else return reply.read Reply.integer?

/-- Adds amounts to the entry of a user, all of them or none. The script answers 0 where there is no
entry, 1 where it has added the amounts, and any other number where a field holds no integer. -/
def applyDeltas (script : Script) (user : UserId) (deltas : List (UserId × Int)) :
    Dialogue (Except Error Cache.DeltaOutcome) := do
  match ← runScript script [balanceKey user, cachedKey user]
      (deltas.flatMap fun d => [d.1.text, Amount.text d.2]) with
  | .error e => return .error e
  | .ok 0 => return .ok .skipped
  | .ok 1 => return .ok .applied
  | .ok _ => return .error (.entryNotInteger user)

end ExpenseLedger.Remote
