import ExpenseLedger.Counters
import ExpenseLedger.Decimal.Shortest
import ExpenseLedger.Web.Tally

/-!
# The exposition text

Counters and gauges are shown as families in the order of their names. A family has a line of help,
a line with its type, and a line for each sample. A family without samples is left out.
-/

namespace ExpenseLedger.Web.Exposition

/-- The types of families. -/
inductive FamilyType where
  /-- A count that only grows. -/
  | counter
  /-- A value that is observed. -/
  | gauge
deriving DecidableEq

/-- A sample: its labels and its value. -/
structure Sample where
  /-- Names and values of the labels. -/
  labels : List (String × String)
  /-- The value. -/
  value : Float

/-- A family of samples. -/
structure Family where
  /-- The name of the family. -/
  name : String
  /-- What the family counts or observes. -/
  help : String
  /-- The type of the family. -/
  type : FamilyType
  /-- The samples. -/
  samples : List Sample

/-- The name of a type. -/
def FamilyType.name : FamilyType → String
  | counter => "counter"
  | gauge => "gauge"

/-- The value of a label, with line ends, quotes and backslashes escaped. -/
def escape (s : String) : String :=
  String.ofList (s.toList.flatMap fun c =>
    if c = '\n' then ['\\', 'n'] else if c = '"' || c = '\\' then ['\\', c] else [c])

/-- The labels of a sample between braces, if it has labels. -/
def labelText (labels : List (String × String)) : String :=
  if labels.isEmpty then ""
  else
    "\x7b" ++ ",".intercalate (labels.map fun l => l.1 ++ "=\"" ++ escape l.2 ++ "\"") ++ "\x7d"

/-- The text of a family. -/
def Family.text (f : Family) : String :=
  if f.samples.isEmpty then ""
  else
    "# HELP " ++ f.name ++ " " ++ f.help ++ "\n# TYPE " ++ f.name ++ " " ++ f.type.name ++ "\n" ++
      String.join (f.samples.map fun s =>
        f.name ++ labelText s.labels ++ " " ++ Decimal.text s.value ++ "\n")

/-- A count as a signed 64-bit word, which is what a gauge of whole numbers holds. -/
def gaugeValue (n : Nat) : Float := (UInt64.ofNat n).toInt64.toFloat

/-- A family with one sample without labels. -/
def single (name help : String) (type : FamilyType) (value : Float) : Family :=
  ⟨name, help, type, [⟨[], value⟩]⟩

/-- The requests by route and status. -/
def requestSamples (t : Tally) : List Sample :=
  t.requestCounts.map fun c =>
    ⟨[("route", c.route), ("status", c.status)], Counters.toFloat c.count⟩

/-- All families, in the order of their names. -/
def families (c : Counters) (t : Tally) : List Family :=
  [single "balance_cache_delta_updates" "Incremental cache updates committed" .gauge
      (gaugeValue c.deltaUpdates),
    single "balance_cache_hit_rate" "Percentage of balance reads served from the cache" .gauge
      c.hitRate,
    single "balance_cache_hits" "Balance reads served from the cache" .gauge (gaugeValue c.hits),
    single "balance_cache_misses" "Balance reads computed from the ledger" .gauge
      (gaugeValue c.misses),
    single "balance_cache_populate_failures" "Cache populations that failed or timed out" .gauge
      (gaugeValue c.populateFailures),
    single "balance_cache_update_failures"
      "Incremental cache updates that failed and cleared the entry" .gauge
      (gaugeValue c.updateFailures),
    single "expenses_shared_total" "Total group expenses shared" .counter
      (Counters.toFloat t.expenses),
    ⟨"http_requests_total", "Total HTTP requests", .counter, requestSamples t⟩,
    single "loans_recorded_total" "Total loan records appended to the ledger" .counter
      (Counters.toFloat t.loans)]

/-- The exposition text of the counters and the tally. -/
def text (c : Counters) (t : Tally) : String := String.join ((families c t).map Family.text)

end ExpenseLedger.Web.Exposition
