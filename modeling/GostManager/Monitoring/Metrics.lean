import GostManager.Lists.Dictionary
import GostManager.Texts.Strings
import GostManager.Monitoring.Points

/-!
# Monitoring: metrics

The metrics of a cycle in `monitoring/models.py`, how `collect_once` brings them together and how
`insert_metric` binds their values. Python's integers have no bound; those of SQLite have 64 bits.
-/

namespace Monitoring.Readers

open Lists Texts

/-- An exception. -/
inductive Raised where
  | osError (message : String)
  | valueError (message : String)
  | overflowError
  deriving DecidableEq, Repr

/-- The value of a metric. -/
inductive MetricValue where
  | integer (n : Int)
  | real (x : ℚ)
  | text (text : Text)
  deriving DecidableEq

/-- `int(b)`. -/
def MetricValue.boolean (b : Bool) : MetricValue := .integer (if b then 1 else 0)

/-- `Metric`. -/
structure Metric where
  scope : String
  name : String
  value : Option MetricValue
  unit : String
  quality : Quality
  labels : List (String × String) := []
  entityType : Option String := none
  entityId : Option String := none
  reset : Bool := false
  gap : Bool := false
  deriving DecidableEq

/-- `text or default`. -/
def textOr (text : Option String) (default : String) : String :=
  match text with
  | none => default
  | some text => if text = "" then default else text

/-- The key under which a metric is stored. -/
def Metric.key (m : Metric) : String × String × String :=
  (textOr m.entityType m.scope, textOr m.entityId m.scope, m.name)

/-- `QUALITY_RANK[metric.quality]`. -/
def Metric.rank (m : Metric) : Nat := m.quality.rank

/-- `_deduplicate_metrics`. -/
def deduplicateMetrics (metrics : List Metric) : List Metric := keepBest Metric.key Metric.rank metrics

/-- `_unavailable`. -/
def unavailable (scope : String) (names : List (String × String)) (entityType entityId : String)
    (labels : List (String × String)) : List Metric :=
  names.map fun name =>
    { scope
      name := name.1
      value := none
      unit := name.2
      quality := .unavailable
      labels
      entityType := some entityType
      entityId := some entityId }

/-! ## Writing -/

/-- The integers that SQLite stores. -/
def Fits (n : Int) : Prop := -2 ^ 63 ≤ n ∧ n < 2 ^ 63

instance (n : Int) : Decidable (Fits n) := inferInstanceAs (Decidable (_ ∧ _))

/-- `Fits`, where there is a number. -/
def FitsIfAny (n : Option Int) : Prop := ∀ m ∈ n, Fits m

instance (n : Option Int) : Decidable (FitsIfAny n) :=
  match n with
  | none => isTrue fun _ h => absurd h (by simp)
  | some n => decidable_of_iff (Fits n) (by simp [FitsIfAny])

/-- If the value of a metric is an integer, then SQLite stores it. -/
def Metric.Binds (m : Metric) : Prop := ∀ n, m.value = some (.integer n) → Fits n

instance (m : Metric) : Decidable m.Binds :=
  match h : m.value with
  | some (.integer n) => decidable_of_iff (Fits n) (by simp [Metric.Binds, h])
  | some (.real _) | some (.text _) | none => isTrue (by simp [Metric.Binds, h])

/-- The words of `SENSITIVE_KEY_RE`, as far as they are single words. -/
def sensitiveWords : List Text :=
  ["pass", "password", "token", "secret", "credential", "auth", "username"].map String.toList

/-- The two words of `gost_user`. -/
def sensitivePair : Text × Text := ("gost".toList, "user".toList)

/-- `SENSITIVE_KEY_RE.search(name)`: one of the words stands between underscores. -/
def isSensitive (name : String) : Bool :=
  let words := splitOn '_' (lower name.toList)
  words.any sensitiveWords.contains || (words.zip words.tail).contains sensitivePair

/-- `insert_metric`: what is in the table after it. -/
def insertMetric (m : Metric) (rows : List Metric) : Except Raised (List Metric) :=
  if isSensitive m.name then .ok rows
  else if m.Binds then .ok (store Metric.key m rows)
  else .error .overflowError

/-- The loop of `collect_once` over the metrics. An exception rolls the cycle back. -/
def writeMetrics (metrics : List Metric) : Except Raised (List Metric) :=
  metrics.foldlM (fun rows m => insertMetric m rows) []

end Monitoring.Readers
