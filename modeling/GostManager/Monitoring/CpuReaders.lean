import Mathlib.Algebra.Field.Rat
import GostManager.Monitoring.CounterReaders
import GostManager.Numbers.Shares

/-!
# Monitoring: readers of the CPU

The counters of `/proc/stat` and their metrics, of `monitoring/proc_readers.py`. The percentages are exact.
-/

namespace Monitoring.Readers

open Numbers Texts

/-- The states of a CPU that the counters are of. -/
inductive CpuField where
  | user | nice | system | idle | iowait | irq | softirq | steal
  deriving DecidableEq

namespace CpuField

/-- The fields in their order. -/
def all : List CpuField := [user, nice, system, idle, iowait, irq, softirq, steal]

/-- The name of a field. -/
def name : CpuField → String
  | user => "user"
  | nice => "nice"
  | system => "system"
  | idle => "idle"
  | iowait => "iowait"
  | irq => "irq"
  | softirq => "softirq"
  | steal => "steal"

end CpuField

/-- `CpuCounters`. -/
structure CpuCounters where
  get : CpuField → Int
  logicalCpus : Int

/-- `CpuCounters.total`. -/
def CpuCounters.total (c : CpuCounters) : Int :=
  c.get .user + c.get .nice + c.get .system + c.get .idle + c.get .iowait + c.get .irq + c.get .softirq +
    c.get .steal

/-! ## Reading -/

/-- What `parse_proc_stat` has found so far: the values of the last row `cpu`, and the number of CPUs. -/
structure ProcStat where
  aggregate : Option (List Int) := none
  logicalCpus : Nat := 0

/-- A row of `/proc/stat`. -/
def parseProcStatRow (digits : Digits) (found : ProcStat) (raw : Text) : Except Raised ProcStat :=
  match split raw with
  | [] => .ok found
  | first :: parts =>
    if first = "cpu".toList then do
      let aggregate ← (parts.take 8).mapM (pyInt digits)
      .ok { found with aggregate := some aggregate }
    else if "cpu".toList.isPrefixOf first && isdigit digits (first.drop 3) then
      .ok { found with logicalCpus := found.logicalCpus + 1 }
    else .ok found

/-- `parse_proc_stat`. -/
def parseProcStat (digits : Digits) (text : Text) : Except Raised CpuCounters := do
  let found ← (splitlines text).foldlM (parseProcStatRow digits) {}
  match found.aggregate with
  | some [user, nice, system, idle, iowait, irq, softirq, steal] =>
    .ok {
      get
        | .user => user
        | .nice => nice
        | .system => system
        | .idle => idle
        | .iowait => iowait
        | .irq => irq
        | .softirq => softirq
        | .steal => steal
      logicalCpus := max 1 found.logicalCpus }
  | _ => .error (.valueError "missing aggregate cpu counters")

/-! ## Metrics -/

/-- A metric of the CPU. -/
def cpuMetric (name : String) (value : Option MetricValue) (unit : String) (quality : Quality)
    (reset gap : Bool) : Metric :=
  { scope := "host"
    name
    value
    unit
    quality
    entityType := some "host"
    entityId := some "local"
    reset
    gap }

/-- `part * 100.0 / total`, or `ZeroDivisionError`. -/
def percentage (part total : Int) : Option ℚ := if total = 0 then none else some (share 100 total part)

/-- The name of a percentage. -/
def CpuField.percentName (field : CpuField) : String := "cpu_" ++ field.name ++ "_percent"

/-- `cpu_metrics`, if it raises no `ZeroDivisionError`. -/
def cpuMetrics (current : CpuCounters) (previous : Option CpuCounters) (elapsed maxGap : Option ℚ) :
    Option (List Metric) := do
  let jiffies := CpuField.all.map fun field =>
    cpuMetric ("cpu_" ++ field.name ++ "_jiffies") (some (.integer (current.get field))) "jiffies" .exact false false
  let totals :=
    [cpuMetric "cpu_jiffies_total" (some (.integer current.total)) "jiffies" .exact false false,
      cpuMetric "cpu_logical_count" (some (.integer current.logicalCpus)) "count" .exact false false]
  let gap := maxGap.any fun maxGap => elapsed.any fun elapsed => maxGap < elapsed
  let reset := previous.any fun previous => CpuField.all.any fun field => current.get field < previous.get field
  match previous.filter fun previous => 0 < current.total - previous.total && !reset && 0 < elapsed.getD 0 with
  | none =>
    let percents := CpuField.all.map fun field =>
      cpuMetric field.percentName none "percent" .unavailable reset gap
    return jiffies ++ totals ++ percents ++
      [cpuMetric "cpu_utilization_percent" none "percent" .unavailable reset gap]
  | some previous =>
    let totalDelta := current.total - previous.total
    let percents ← CpuField.all.mapM fun field => do
      let value ← percentage (current.get field - previous.get field) totalDelta
      return cpuMetric field.percentName (some (.real value)) "percent" .derived reset gap
    let idleDelta := current.get .idle - previous.get .idle
    let iowaitDelta := current.get .iowait - previous.get .iowait
    let utilization ← percentage (totalDelta - idleDelta - iowaitDelta) totalDelta
    return jiffies ++ totals ++ percents ++
      [cpuMetric "cpu_utilization_percent" (some (.real utilization)) "percent" .derived reset gap]

/-! ## What the percentages say -/

/-- The percentages among the metrics. -/
def percentages (metrics : List Metric) : List Metric := metrics.filter (·.unit = "percent")

/-- Some counter has decreased. -/
def CpuCounters.Decreased (current previous : CpuCounters) : Prop := ∃ field, current.get field < previous.get field

/-- No counter has advanced. -/
def CpuCounters.Stalled (current previous : CpuCounters) : Prop := ∀ field, current.get field ≤ previous.get field

/-- The percentages cannot be told. -/
def Withheld (current : CpuCounters) (previous : Option CpuCounters) (elapsed : Option ℚ) : Prop :=
  previous = none ∨ (∀ seconds ∈ elapsed, seconds ≤ 0) ∨
    ∃ last ∈ previous, current.Decreased last ∨ current.Stalled last

end Monitoring.Readers
