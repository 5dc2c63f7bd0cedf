import ExpenseLedger.Amount
import ExpenseLedger.Id
import ExpenseLedger.Text.Quoted

/-!
# What can go wrong

An `Error` is a cause. Its kind decides who may hear of it, its detail is the text that describes
it, and its message puts the label of the kind in front of the detail. Business rules are told to
callers as they are; faults of the cache are never told to them.
-/

namespace ExpenseLedger

/-! ## Kinds -/

/-- The kinds of errors. -/
inductive ErrorKind where
  /-- A group or membership is absent. -/
  | notFound
  /-- The actor may not do this. -/
  | forbidden
  /-- The request breaks a business rule. -/
  | badRequest
  /-- The ledger or the group directory failed. -/
  | storage
  /-- The cache failed. -/
  | cache
  /-- A cache entry cannot be read. -/
  | corrupted
  /-- A deadline passed. -/
  | timeout
deriving DecidableEq

/-- The label that opens the messages of a kind. -/
def ErrorKind.label : ErrorKind → String
  | .notFound => "Not found"
  | .forbidden => "Forbidden"
  | .badRequest => "Bad request"
  | .storage => "Storage error"
  | .cache => "Cache error"
  | .corrupted => "Cache entry corrupted"
  | .timeout => "Operation timed out"

/-- The kinds that are told to callers as they are. -/
def ErrorKind.isClientError : ErrorKind → Bool
  | .notFound | .forbidden | .badRequest => true
  | _ => false

/-- The kinds that the cache raises. -/
def ErrorKind.isCacheError : ErrorKind → Bool
  | .cache | .corrupted => true
  | _ => false

/-! ## Settings that must not be zero -/

/-- The settings of the engine that must not be zero. -/
inductive PositiveSetting where
  /-- The deadline of a cache update. -/
  | cacheUpdateTimeout
  /-- The deadline of filling an entry. -/
  | populateTimeout
  /-- The lifetime of an entry, where one is set. -/
  | balanceLifetime
deriving DecidableEq

/-- What is told when the setting is zero. -/
def PositiveSetting.demand : PositiveSetting → String
  | .cacheUpdateTimeout => "cache_update_timeout_ms must be greater than 0"
  | .populateTimeout => "populate_timeout_ms must be greater than 0"
  | .balanceLifetime => "balance_ttl_secs must be greater than 0 when set"

/-! ## Causes -/

/-- The causes of errors. -/
inductive Error where
  /-- A loan of nothing or less. -/
  | loanNotPositive (amount : Int)
  /-- A loan above the greatest amount. -/
  | loanTooLarge (amount : Int)
  /-- A loan to oneself. -/
  | loanToSelf (user : UserId)
  /-- A batch of loans without debtors. -/
  | noDebtors
  /-- A batch of loans that names a debtor twice. -/
  | repeatedDebtors
  /-- An expense of nothing or less. -/
  | expenseNotPositive (amount : Int)
  /-- An expense above the greatest amount. -/
  | expenseTooLarge (amount : Int)
  /-- A group in which nobody could owe the payer. -/
  | groupTooSmall
  /-- The payer does not belong to the group. -/
  | payerNotMember
  /-- An expense whose share rounds to nothing. -/
  | shareVanishes (amount : Int) (members : Nat)
  /-- A group name that is too short or too long. -/
  | groupNameLength (least most : Nat)
  /-- A request to add nobody. -/
  | noMembersNamed
  /-- A request to add the owner. -/
  | ownerNamedAsMember
  /-- A request to remove the owner. -/
  | ownerNotRemovable
  /-- The actor does not own the group. -/
  | notGroupOwner
  /-- There is no such group. -/
  | unknownGroup (group : GroupId)
  /-- The user is no member of the group. -/
  | unknownMember (user : UserId) (group : GroupId)
  /-- The ledger is out of service. -/
  | ledgerUnavailable
  /-- The group directory is out of service. -/
  | groupsUnavailable
  /-- A net amount leaves the storable range. -/
  | balanceOverflow (user counterparty : UserId)
  /-- The cache is out of service. -/
  | cacheUnavailable
  /-- The cache refuses incremental updates. -/
  | updateRefused
  /-- An update would take a field out of the storable range. -/
  | fieldOverflow (field : String)
  /-- An update meets a field that holds no integer. -/
  | fieldNotInteger (field : String) (flaw : Text.IntegerFlaw)
  /-- A field is named by no identifier. -/
  | badCounterparty (field : String)
  /-- A field holds no amount. -/
  | badBalance (value : String) (counterparty : UserId) (flaw : Text.IntegerFlaw)
  /-- A stored entry holds a field that is no integer. -/
  | entryNotInteger (user : UserId)
  /-- A deadline passed. -/
  | deadlinePassed
  /-- A setting that must not be zero is zero. -/
  | zeroSetting (setting : PositiveSetting)
  /-- A cause that another system reports in its own words. -/
  | reported (kind : ErrorKind) (detail : String)
deriving DecidableEq

namespace Error

/-- The kind of a cause. -/
def kind : Error → ErrorKind
  | loanNotPositive _ | loanTooLarge _ | loanToSelf _ | noDebtors | repeatedDebtors
  | expenseNotPositive _ | expenseTooLarge _ | groupTooSmall | shareVanishes _ _
  | groupNameLength _ _ | noMembersNamed | ownerNamedAsMember | ownerNotRemovable
  | zeroSetting _ => .badRequest
  | payerNotMember | notGroupOwner => .forbidden
  | unknownGroup _ | unknownMember _ _ => .notFound
  | ledgerUnavailable | groupsUnavailable | balanceOverflow _ _ => .storage
  | cacheUnavailable | updateRefused | fieldOverflow _ => .cache
  | fieldNotInteger _ _ | badCounterparty _ | badBalance _ _ _ | entryNotInteger _ => .corrupted
  | deadlinePassed => .timeout
  | reported k _ => k

/-- The description of a cause. -/
def detail : Error → String
  | loanNotPositive a => "loan amount must be positive, got " ++ Amount.text a
  | loanTooLarge a =>
    "loan amount " ++ Amount.text a ++ " exceeds the maximum of " ++ Amount.text Amount.limit
  | loanToSelf u => "user " ++ u.text ++ " cannot lend to themselves"
  | noDebtors => "debtor list is empty"
  | repeatedDebtors => "debtor list contains duplicates"
  | expenseNotPositive a => "expense amount must be positive, got " ++ Amount.text a
  | expenseTooLarge a =>
    "expense amount " ++ Amount.text a ++ " exceeds the maximum of " ++ Amount.text Amount.limit
  | groupTooSmall => "group is empty"
  | payerNotMember => "user is not a member of the group"
  | shareVanishes a n =>
    "expense of " ++ Amount.text a ++ " is too small to split between " ++ toString n ++ " members"
  | groupNameLength least most =>
    "group name must be between " ++ toString least ++ " and " ++ toString most ++ " characters"
  | noMembersNamed => "group member list is empty"
  | ownerNamedAsMember => "group owner is already in the group"
  | ownerNotRemovable => "group owner cannot be removed from the group"
  | notGroupOwner => "only the group owner can manage this group"
  | unknownGroup g => "group " ++ g.text ++ " not found"
  | unknownMember u g => "user " ++ u.text ++ " is not a member of group " ++ g.text
  | ledgerUnavailable => "ledger unavailable"
  | groupsUnavailable => "group store unavailable"
  | balanceOverflow u c => "balance of user " ++ u.text ++ " toward " ++ c.text ++ " overflows"
  | cacheUnavailable => "cache unavailable"
  | updateRefused => "delta commit failed"
  | fieldOverflow f => "balance overflow for field " ++ f
  | fieldNotInteger f w => "field " ++ f ++ " is not an integer: " ++ w.message
  | badCounterparty f => "invalid counterparty ID " ++ Text.quote f
  | badBalance v c w =>
    "invalid balance " ++ Text.quote v ++ " for counterparty " ++ c.text ++ ": " ++ w.message
  | entryNotInteger u => "balance entry for user " ++ u.text ++ " holds a non-integer field"
  | deadlinePassed => "deadline has elapsed"
  | zeroSetting s => s.demand
  | reported _ d => d

/-- The whole text of an error. -/
def message (e : Error) : String := e.kind.label ++ ": " ++ e.detail

/-- Whether callers are told the cause as it is. -/
def isClientError (e : Error) : Bool := e.kind.isClientError

/-- Whether the cache raised the error. -/
def isCacheError (e : Error) : Bool := e.kind.isCacheError

end Error

end ExpenseLedger
