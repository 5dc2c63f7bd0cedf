import ExpenseLedger.Table.Lemmas
import ExpenseLedger.Cache.Basic
import ExpenseLedger.Ledger
import ExpenseLedger.Share
import ExpenseLedger.Counters
import ExpenseLedger.Json.Text
import ExpenseLedger.Web.Failure
import ExpenseLedger.Store
import ExpenseLedger.Engine.Expenses
import ExpenseLedger.Wire
import ExpenseLedger.Web.Site
import ExpenseLedger.Settings.Source
import ExpenseLedger.Settings.Environment
import ExpenseLedger.Remote.Entry
import ExpenseLedger.Remote.Keyspace
import ExpenseLedger.Remote.Rehearsal
import ExpenseLedger.Proofs.Run.Equivalence
import ExpenseLedger.Proofs.Run.Effects
import ExpenseLedger.Proofs.Run.Symmetry
import ExpenseLedger.Proofs.Engine.Independence
import ExpenseLedger.Proofs.Concurrent.Alone
import ExpenseLedger.Proofs.Remote.Agreement
import ExpenseLedger.Proofs.Groups.Runs
import ExpenseLedger.Proofs.Run.Sharing
import ExpenseLedger.Proofs.Engine.Duration
import ExpenseLedger.Proofs.Web.Duration
import ExpenseLedger.Proofs.Json.Tokens
import ExpenseLedger.Proofs.Json.Text
import ExpenseLedger.Proofs.Timestamp.Calendar
import ExpenseLedger.Proofs.Timestamp.Text
import ExpenseLedger.Proofs.Json.Fields
import ExpenseLedger.Proofs.Wire.Laws
import ExpenseLedger.Proofs.Wire.RoundTrip
import ExpenseLedger.Proofs.Wire.Store
import ExpenseLedger.Proofs.Web.Reading
import ExpenseLedger.Proofs.Web.Front
import ExpenseLedger.Proofs.Settings.Tables
import ExpenseLedger.Proofs.Settings.Known
import ExpenseLedger.Proofs.Settings.Files
import ExpenseLedger.Proofs.Settings.Layering
import ExpenseLedger.Proofs.Engine.Acceptance
import ExpenseLedger.Proofs.Cache.Updates
import ExpenseLedger.Proofs.Engine.Healing
import ExpenseLedger.Proofs.Run.Healing
import ExpenseLedger.Proofs.Ledger.Lent
import ExpenseLedger.Proofs.Remote.Cleanup
import ExpenseLedger.Proofs.Concurrent.Updates
import ExpenseLedger.Proofs.Run.Headroom
import ExpenseLedger.Proofs.Groups.Membership
import ExpenseLedger.Proofs.Run.Ownership
import ExpenseLedger.Proofs.Web.Validation
import ExpenseLedger.Proofs.Run.Accounts
import ExpenseLedger.Proofs.Cache.Grammar
import ExpenseLedger.Proofs.Run.Visits
import ExpenseLedger.Proofs.Web.Discretion
import ExpenseLedger.Proofs.Web.Spelling
import ExpenseLedger.Proofs.Identifier.Canonical
import ExpenseLedger.Proofs.Ledger.Lines
