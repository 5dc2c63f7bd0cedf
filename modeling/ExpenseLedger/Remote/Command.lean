import ExpenseLedger.Amount

/-!
# Commands to a remote store

A remote store keeps texts and hashes under keys. It is asked by requests: a command alone, or
several commands that it carries out together, with nothing of anyone else in between.
-/

namespace ExpenseLedger.Remote

/-- A script that the store runs by the digest of its source, once it has been given the source. -/
structure Script where
  /-- The digest. -/
  digest : String
  /-- The source. -/
  source : String
deriving DecidableEq

/-- The commands. -/
inductive Command where
  /-- Asks for a sign of life. -/
  | ping
  /-- Asks whether a key is there. -/
  | contains (key : String)
  /-- Reads all fields of a hash. -/
  | readHash (key : String)
  /-- Writes fields of a hash and leaves its others alone. -/
  | writeHash (key : String) (fields : List (String × Int))
  /-- Stores a number as a text, in place of whatever is under the key. -/
  | set (key : String) (value : Int)
  /-- Removes keys. -/
  | delete (keys : List String)
  /-- Limits how long a key stays, in seconds from now. -/
  | expire (key : String) (lifetime : Nat)
  /-- Runs a script on keys and arguments. -/
  | run (script : Script) (keys arguments : List String)
  /-- Gives the source of a script. -/
  | load (script : Script)
deriving DecidableEq

/-- The words of a command. -/
def Command.words : Command → List String
  | ping => ["PING"]
  | contains key => ["EXISTS", key]
  | readHash key => ["HGETALL", key]
  | writeHash key fields => "HMSET" :: key :: fields.flatMap fun f => [f.1, Amount.text f.2]
  | set key value => ["SET", key, Amount.text value]
  | delete keys => "DEL" :: keys
  | expire key lifetime => ["EXPIRE", key, toString lifetime]
  | run script keys arguments =>
    "EVALSHA" :: script.digest :: toString keys.length :: (keys ++ arguments)
  | load script => ["SCRIPT", "LOAD", script.source]

/-- What is asked at once. -/
inductive Request where
  /-- A command. -/
  | one (command : Command)
  /-- Commands that are carried out together, whose replies come as one list. -/
  | together (commands : List Command)
deriving DecidableEq

/-- The commands that are sent for a request, each with its words. -/
def Request.words : Request → List (List String)
  | one command => [command.words]
  | together commands => ["MULTI"] :: commands.map Command.words ++ [["EXEC"]]

end ExpenseLedger.Remote
