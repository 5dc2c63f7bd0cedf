import ExpenseLedger.Settings.Folder
import ExpenseLedger.Settings.Layer

/-!
# Settings from the environment

The settings of the service come from four layers: built-in values, a file, the variables of the
service, and three variables of their own, of which each wins over those before it. The file is the
one that a variable names, or the one of the environment that the service runs in. A file that does
not exist is an empty layer.
-/

namespace ExpenseLedger

/-- Variables with their values, and the folder that the service runs in. -/
structure Environment where
  /-- The variables. -/
  bindings : List (String × String)
  /-- The folder. -/
  folder : Folder

namespace Environment

/-- The value of a variable. -/
def valueOf? (e : Environment) (name : String) : Option String :=
  (e.bindings.find? fun v => v.1 = name).map (·.2)

/-! ## The built-in layer -/

/-- The built-in values. -/
def builtIn : Layer :=
  [("server.host", .text "0.0.0.0"), ("server.port", .int 8080), ("server.workers", .int 4),
    ("server.request_timeout_secs", .int 5), ("database.url", .text ""),
    ("database.max_connections", .int 10), ("database.min_connections", .int 2),
    ("database.run_migrations", .bool true), ("redis.url", .text ""),
    ("engine.cache_update_timeout_ms", .int 500), ("engine.populate_timeout_ms", .int 500),
    ("engine.balance_ttl_secs", .int 86400)]

/-! ## The layer of the file -/

/-- The ending of the names of files of settings. It is assumed that the folder holds no file of
settings in another format: those formats, with endings of their own, are left out. -/
def ending : String := ".json"

/-- The last part of the name has the ending, and something before it. -/
def hasEnding (name : NameParts) : Bool :=
  name.getLast?.any fun last => last.endsWith ending && last ≠ ending

/-- The name with the ending added to its last part that leads on, if that part leads down. -/
def withEnding? (name : NameParts) : Option NameParts :=
  match name.reverse.dropWhile Folder.stays with
  | [] => none
  | last :: before => if last = ".." then none else some ((last ++ ending) :: before).reverse

/-- The name of the file of settings. -/
def fileName (e : Environment) : NameParts :=
  match e.valueOf? "CONFIG_FILE" with
  | some name => Folder.parts name
  | none => Folder.parts ("config/" ++ (e.valueOf? "ENVIRONMENT").getD "development")

/-- The text of the file of settings: the file of the very name, which counts only with the ending,
or else the file of the name with the ending added. Under the assumption of `ending` no other file
is looked for. -/
def settingsText? (e : Environment) : Option String :=
  match e.folder.text? e.fileName with
  | some text => if hasEnding e.fileName then some text else none
  | none => (withEnding? e.fileName).bind e.folder.text?

/-- How deeply the values of a file may be nested. -/
def greatestDepth : Nat := 127

/-- The layer in a text. A text without object is an empty layer. -/
def layerOf? (text : String) : Option Layer := do
  let j ← Json.read? text
  if j.isSound greatestDepth then return (SettingValue.ofJson j).entries else none

/-- The layer of the file of settings, if the file can be read. -/
def fileLayer? (e : Environment) : Option Layer :=
  match e.settingsText? with
  | none => some []
  | some text => layerOf? text

/-! ## The layers of variables -/

/-- What the variables of the service begin with, in lowercase. -/
def serviceMark : List Char := "balance_engine__".toList

/-- Puts a dot in place of each pair of underscores. -/
def dotted : List Char → List Char
  | '_' :: '_' :: cs => '.' :: dotted cs
  | c :: cs => c :: dotted cs
  | [] => []

/-- The lowercase of a character, where it is an ASCII letter: only ASCII letters and the Kelvin
sign have such a lowercase. -/
def lowercase (c : Char) : Char := if c = '\u212a' then 'k' else c.toLower

/-- The key of a variable of the service. -/
def serviceKey? (name : String) : Option String :=
  let cs := name.toList.map lowercase
  if serviceMark.isPrefixOf cs then some (String.ofList (dotted (cs.drop serviceMark.length)))
  else none

/-- The layer of the variables of the service. -/
def serviceLayer (e : Environment) : Layer :=
  e.bindings.filterMap fun v => (serviceKey? v.1).map fun key => (key, .text v.2)

/-- The layer of the variables of their own. -/
def ownLayer (e : Environment) : Layer :=
  [("DATABASE_URL", "database.url"), ("REDIS_URL", "redis.url"),
    ("BALANCE_ENGINE_PORT", "server.port")].filterMap fun v =>
      (e.valueOf? v.1).map fun value => (v.2, .text value)

/-! ## All layers -/

/-- The settings of the service, if the file and all values can be read. -/
def settings? (e : Environment) : Option ServiceSettings := do
  let file ← e.fileLayer?
  SettingValue.settings.service (Layer.stack [builtIn, file, e.serviceLayer, e.ownLayer])

end Environment

end ExpenseLedger
