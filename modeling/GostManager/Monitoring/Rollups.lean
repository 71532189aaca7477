import Mathlib.Algebra.Order.Floor.Defs
import Mathlib.Data.Rat.Floor
import GostManager.Lists.Groups
import GostManager.Monitoring.Points

/-!
# Monitoring: minute rollups and retention

`rollup_completed_minutes`, `apply_retention` and `run_maintenance` of `monitoring/schema.py`, and how a
reader judges the watermark (`monitoring/query_db.py`). A rollup is a row for one series and one minute;
the watermark is the minute up to which all rollups are written.
-/

namespace Monitoring

/-- `RAW_RETENTION_SECONDS`. -/
def rawRetentionSeconds : Nat := 6 * 60 * 60

/-- `ROLLUP_RETENTION_SECONDS`. -/
def rollupRetentionSeconds : Nat := 24 * 60 * 60

/-- `ROLLUP_BATCH_MINUTES`. -/
def rollupBatchMinutes : Nat := 240

/-! ## Cadences -/

/-- The cadence registry: entries `type:pattern` with seconds. Only positive numbers are read. -/
structure CadenceRegistry where
  entries : List (String × ℚ)
  positive : ∀ entry ∈ entries, 0 < entry.2

theorem positive_nil : ∀ entry ∈ ([] : List (String × ℚ)), 0 < entry.2 := nofun

/-- An entry of the registry is for a metric: its type is the type of the entity, and its pattern is the
metric, or the beginning of the metric and `*`. -/
def cadenceMatches (entityType metricName key : String) : Bool :=
  match key.toList.span (· != ':') with
  | (_, []) => false
  | (registeredType, _ :: pattern) =>
    registeredType == entityType.toList &&
      (pattern.getLast? == some '*' && pattern.dropLast.isPrefixOf metricName.toList ||
        pattern == metricName.toList)

/-- The last entry that matches counts. -/
def CadenceRegistry.lookup (registry : CadenceRegistry) (interval : ℚ) (entityType metricName : String) :
    ℚ :=
  registry.entries.foldl
    (fun cadence entry => if cadenceMatches entityType metricName entry.1 then entry.2 else cadence)
    interval

/-- `max(1, math.ceil(60 / cadence))`. -/
def expectedSamples (cadence : ℚ) : Nat := max 1 ⌈60 / cadence⌉₊

/-! ## Rollups -/

/-- The primary key of `minute_rollups`. -/
structure RollupKey where
  entityPk : Nat
  metricName : String
  minuteStart : Nat
  deriving DecidableEq

/-- The other columns. -/
structure Rollup where
  samples : Nat
  expectedSamples : Nat
  minValue : Option ℚ
  avgValue : Option ℚ
  maxValue : Option ℚ
  unavailableCount : Nat
  resetCount : Nat
  gapCount : Nat
  coverage : ℚ
  unit : String
  quality : Quality
  deriving DecidableEq

/-- The table `minute_rollups`. -/
abbrev Rollups : Type := RollupKey → Option Rollup

/-- The keys by which points are grouped. -/
structure GroupKey where
  entityPk : Nat
  entityType : String
  metricName : String
  minute : Nat
  unit : String
  deriving DecidableEq

/-- What the writer knows: the types of the entities and the cadences. -/
structure RollupConfig where
  /-- The table `entities`. -/
  entityType : Nat → String
  registry : CadenceRegistry
  interval : ℚ := 10
  interval_pos : 0 < interval := by decide

/-- The cadence of a series. -/
def RollupConfig.cadence (config : RollupConfig) (entityPk : Nat) (metricName : String) : ℚ :=
  config.registry.lookup config.interval (config.entityType entityPk) metricName

/-- The group of a point. -/
def RollupConfig.groupKey (config : RollupConfig) (p : PointRow) : GroupKey where
  entityPk := p.entityPk
  entityType := config.entityType p.entityPk
  metricName := p.metricName
  minute := minuteOf p.ts
  unit := p.unit

/-- `values`: the numbers of a group. -/
def numericValues (points : List PointRow) : List ℚ := points.filterMap (·.numericValue)

/-- The average, if there is a number. -/
def average : List ℚ → Option ℚ
  | [] => none
  | values => some (values.sum / values.length)

/-- The row of a group. -/
def rollupOf (expected : Nat) (unit : String) (points : List PointRow) : Rollup where
  samples := points.length
  expectedSamples := expected
  minValue := (numericValues points).min?
  avgValue := average (numericValues points)
  maxValue := (numericValues points).max?
  unavailableCount := points.countP fun p => p.quality = .unavailable
  resetCount := (points.map (·.reset)).sum
  gapCount := (points.map (·.gap)).sum
  coverage := min 1 (points.length / expected)
  unit
  quality := worstQuality (points.map (·.quality))

/-- Where the row of a group goes. -/
def GroupKey.rollupKey (k : GroupKey) : RollupKey := ⟨k.entityPk, k.metricName, k.minute⟩

/-- The row that a group gives. -/
def RollupConfig.rollup (config : RollupConfig) (group : GroupKey × List PointRow) : Rollup :=
  rollupOf (expectedSamples (config.cadence group.1.entityPk group.1.metricName)) group.1.unit group.2

/-- What the writer leaves in the database. -/
structure RollupState where
  rollups : Rollups
  /-- `minute_rollup_watermark`. -/
  watermark : Option Nat

/-- No rollups, and no watermark. -/
def RollupState.empty : RollupState := ⟨fun _ => none, none⟩

/-- Where a call begins: at the watermark, or at the minute of the first point. -/
def rollupStart (points : List PointRow) (watermark : Option Nat) : Nat :=
  let start := watermark.getD 0
  if start = 0 then ((points.map (·.ts)).min?.map minuteOf).getD 0 else start

/-- `SELECT ... WHERE p.ts>=? AND p.ts<?`. -/
def pointsBetween (points : List PointRow) (start stop : Nat) : List PointRow :=
  points.filter fun p => start ≤ p.ts ∧ p.ts < stop

/-- The end of a call, if it has anything to do. -/
def rollupEnd (batchMinutes now : Nat) (points : List PointRow) (watermark : Option Nat) : Nat :=
  min (minuteOf now) (rollupStart points watermark + batchMinutes * 60)

/-- `rollup_completed_minutes`. -/
def rollupCompletedMinutes (config : RollupConfig) (batchMinutes now : Nat) (points : List PointRow)
    (state : RollupState) : RollupState :=
  if points = [] then { state with watermark := some (minuteOf now) }
  else
  let start := rollupStart points state.watermark
  let stop := rollupEnd batchMinutes now points state.watermark
  if stop ≤ start then state
  else
  let groups := Lists.groups config.groupKey (pointsBetween points start stop)
  { rollups := Lists.storeAll (fun group => group.1.rollupKey) config.rollup groups state.rollups
    watermark := some stop }

/-! ## Retention -/

/-- The part of the database that maintenance changes. -/
structure History where
  points : List PointRow
  rollup : RollupState

/-- `apply_retention`, for the points and the rollups. -/
def applyRetention (now : Nat) (history : History) : History where
  points := history.points.filter fun p => now ≤ p.ts + rawRetentionSeconds
  rollup :=
    { history.rollup with
      rollups := fun k =>
        if k.minuteStart + rollupRetentionSeconds < now then none else history.rollup.rollups k }

/-- The first half of `run_maintenance`. -/
def rollUp (config : RollupConfig) (now : Nat) (history : History) : History :=
  { history with
    rollup := rollupCompletedMinutes config rollupBatchMinutes now history.points history.rollup }

/-- `run_maintenance`. -/
def runMaintenance (config : RollupConfig) (now : Nat) (history : History) : History :=
  applyRetention now (rollUp config now history)

/-! ## The watermark as a reader sees it -/

/-- The status of the watermark. -/
inductive WatermarkStatus where
  | valid | missing | invalidNonnumeric | invalidNegative | invalidMisaligned | invalidFuture
  deriving DecidableEq, Repr

/-- `rollup_watermark_status`. The stored text is `none` if there is no row, and `some none` if it is not
a number. -/
def rollupWatermarkStatus (stored : Option (Option Int)) (now : Int) : Option Int × WatermarkStatus :=
  match stored with
  | none => (none, .missing)
  | some none => (none, .invalidNonnumeric)
  | some (some value) =>
    if value < 0 then (none, .invalidNegative)
    else if value % 60 ≠ 0 then (none, .invalidMisaligned)
    else if now / 60 * 60 < value then (none, .invalidFuture)
    else (some value, .valid)

/-- The watermark as it is stored. -/
def RollupState.stored (state : RollupState) : Option (Option Int) :=
  state.watermark.map fun watermark => some (watermark : Int)

end Monitoring
