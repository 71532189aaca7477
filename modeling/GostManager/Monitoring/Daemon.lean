import Mathlib.Data.Rat.Floor
import Mathlib.Logic.Function.Basic
import GostManager.Monitoring.Metrics
import GostManager.Monitoring.Rollups

/-!
# Monitoring: what the daemon records of its cycles

`run_daemon` and `record_cycle_overrun` of `monitoring/scheduler.py`, with what `collect_once` and
`_record_cycle_failure` write to the tables of the cycles, of the samples and of the metrics. A cycle is named
by its second, which is unique in its table; the number that SQLite gives it is left out, and so are rollups,
events and event states. The readings of the clocks are part of a run, and so are the exceptions, which may
come at any place.
-/

namespace Monitoring.Daemon

open Readers

/-- A row of `sample_cycles`. -/
structure CycleRow where
  monotonicStarted : ℚ
  monotonicFinished : ℚ
  durationSeconds : ℚ
  success : Bool
  overrun : Bool
  missedDeadlines : Int
  overrunSeconds : ℚ

/-- A row of `metric_samples`. -/
structure SampleRow where
  serviceState : Nat
  serviceSubstate : Nat
  restartCount : Nat
  listenPortsTotal : Nat
  listenPortsUp : Nat
  configuredMappingsTotal : Nat

/-- The tables, by the second of the cycle, and the state `counter.overrun_count`. -/
structure Database where
  cycles : Int → Option CycleRow
  samples : Int → String → Option SampleRow
  points : Int → String × String × String → Option Metric
  overrunCount : Option Nat

namespace Database

/-- A new database. -/
def empty : Database := ⟨fun _ => none, fun _ _ => none, fun _ _ => none, none⟩

/-- `_cycle`. -/
def cycle (db : Database) (ts : Int) (row : CycleRow) : Database :=
  { db with cycles := Function.update db.cycles ts (some row) }

/-- `insert_sample`, for a tunnel or the host. -/
def insertSample (db : Database) (ts : Int) (tunnelId : Option String) (row : SampleRow) : Database :=
  { db with
    samples := Function.update db.samples ts
      (Function.update (db.samples ts) (textOr tunnelId "host") (some row)) }

/-- `insert_metric`. -/
def insertMetric (db : Database) (ts : Int) (m : Metric) : Database :=
  if isSensitive m.name then db
  else { db with points := Function.update db.points ts (Function.update (db.points ts) m.key (some m)) }

/-- `insert_metric`, for one metric after the other. -/
def insertMetrics (db : Database) (ts : Int) (metrics : List Metric) : Database :=
  metrics.foldl (fun db m => db.insertMetric ts m) db

/-- `apply_retention`. -/
def applyRetention (db : Database) (now : Int) : Database :=
  { db with
    cycles := fun ts => if ts < now - rawRetentionSeconds then none else db.cycles ts
    samples := fun ts => if ts < now - rawRetentionSeconds then fun _ => none else db.samples ts
    points := fun ts => if ts < now - rawRetentionSeconds then fun _ => none else db.points ts }

end Database

/-- A metric of the collector itself. -/
def collectorMetric (name : String) (value : Option Readers.MetricValue) (unit : String)
    (quality : Quality) (labels : List (String × String) := []) : Metric :=
  { scope := "collector"
    name
    value
    unit
    quality
    labels
    entityType := some "collector"
    entityId := some "local" }

/-- The metric `cycle_status`. -/
def cycleStatus (success : Bool) : Metric :=
  collectorMetric "cycle_status" (some (.boolean success)) "boolean" .exact

/-- The sample of the host. -/
def hostSample (state : Nat) : SampleRow := ⟨state, state, 0, 0, 0, 0⟩

/-! ## A cycle -/

/-- What a cycle measures of the clocks and the tables, and where it fails. -/
structure Collection where
  /-- The database can be opened. -/
  opens : Bool
  started : ℚ
  transactionStarted : ℚ
  /-- The durations of the collection, of its transaction and of its maintenance, so far. -/
  durations : ℚ × ℚ × ℚ
  finished : ℚ
  tunnels : Nat
  tunnelSamples : List (String × SampleRow)
  tunnelSamples_named : ∀ sample ∈ tunnelSamples, sample.1 ≠ "" ∧ sample.1 ≠ "host"
  /-- The metrics of the collectors. -/
  metrics : List Metric
  sourceErrors : Nat
  events : Nat
  /-- Whether maintenance is due, and its savepoint is kept. -/
  maintenance : Option Bool
  /-- An exception before the commit. -/
  aborts : Bool
  /-- The frames of the checkpoint, if it succeeds, when it is finished, and whether it is recorded. -/
  checkpoint : Option (Nat × Nat × Nat)
  checkpointDuration : ℚ
  checkpointFinished : ℚ
  checkpointRecorded : Bool
  /-- An exception after the commit. -/
  raisesLater : Bool
  /-- When the exception is handled, and whether the failure can be recorded. -/
  failed : ℚ
  failureRecorded : Bool

namespace Collection

/-- `self_metrics`. -/
def selfMetrics (c : Collection) (ts : Int) (overrunCount : Nat) : List Metric :=
  [cycleStatus true,
    collectorMetric "duration_seconds" (some (.real c.durations.1)) "seconds" .derived,
    collectorMetric "database_transaction_duration_seconds" (some (.real c.durations.2.1)) "seconds" .derived,
    collectorMetric "maintenance_duration_seconds" (some (.real c.durations.2.2)) "seconds" .derived,
    collectorMetric "checkpoint_duration_seconds" none "seconds" .unavailable,
    collectorMetric "tunnels_discovered" (some (.integer c.tunnels)) "count" .exact,
    collectorMetric "missed_deadlines" (some (.integer 0)) "count" .exact,
    collectorMetric "overrun_count" (some (.integer overrunCount)) "count" .exact,
    collectorMetric "last_successful_cycle_timestamp" (some (.integer ts)) "unix_seconds" .exact,
    collectorMetric "source_error_codes" (some (.integer c.sourceErrors)) "count" .exact]

/-- The metrics that `collect_once` inserts. -/
def insertedMetrics (c : Collection) (ts : Int) (overrunCount : Nat) : List Metric :=
  let metrics := deduplicateMetrics (c.metrics ++ c.selfMetrics ts overrunCount)
  let count := metrics.length + 3
  metrics ++
    [collectorMetric "metrics_written" (some (.integer count)) "count" .estimated
        [("scope", "main_transaction_before_checkpoint")],
      collectorMetric "events_written" (some (.integer c.events)) "count" .estimated
        [("scope", "main_transaction_before_checkpoint")],
      collectorMetric "rows_write_attempted"
        (some (.integer (count + c.events + c.tunnelSamples.length + c.tunnels + 2))) "count" .estimated,
      collectorMetric "database_transaction_duration_seconds"
        (some (.real (max 0 (c.finished - c.transactionStarted)))) "seconds" .derived,
      collectorMetric "duration_seconds" (some (.real (max 0 (c.finished - c.started)))) "seconds" .derived]

/-- The row of a cycle that `collect_once` has not failed in. -/
def cycleRow (c : Collection) (finished : ℚ) : CycleRow where
  monotonicStarted := c.started
  monotonicFinished := finished
  durationSeconds := max 0 (finished - c.started)
  success := true
  overrun := false
  missedDeadlines := 0
  overrunSeconds := 0

/-- The transaction of `collect_once`. -/
def transaction (c : Collection) (ts : Int) (db : Database) : Database :=
  let sampled := (db.cycle ts (c.cycleRow c.transactionStarted)).insertSample ts none (hostSample 1)
  let served := c.tunnelSamples.foldl (fun db sample => db.insertSample ts (some sample.1) sample.2) sampled
  let maintained := if c.maintenance = some true then served.applyRetention ts else served
  let overrunCount := maintained.overrunCount.getD 0
  let counted := { maintained with overrunCount := some overrunCount }
  (counted.insertMetrics ts (c.insertedMetrics ts overrunCount)).cycle ts (c.cycleRow c.finished)

/-- The metrics of `_record_checkpoint_result`. -/
def checkpointMetrics (c : Collection) : List Metric :=
  [collectorMetric "checkpoint_duration_seconds" (some (.real c.checkpointDuration)) "seconds" .derived,
    collectorMetric "duration_seconds" (some (.real (max 0 (c.checkpointFinished - c.started)))) "seconds"
      .derived,
    collectorMetric "maintenance_duration_seconds"
      (some (.real (c.durations.2.2 + c.checkpointDuration))) "seconds" .derived] ++
  match c.checkpoint with
  | none => [collectorMetric "checkpoint_success" (some (.integer 0)) "boolean" .exact]
  | some (busy, log, checkpointed) =>
    [collectorMetric "checkpoint_busy" (some (.integer busy)) "count" .exact,
      collectorMetric "checkpoint_log_frames" (some (.integer log)) "count" .exact,
      collectorMetric "checkpointed_frames" (some (.integer checkpointed)) "count" .exact,
      collectorMetric "checkpoint_success" (some (.integer 1)) "boolean" .exact]

/-- `_record_checkpoint_result`. -/
def recordCheckpointResult (c : Collection) (ts : Int) (db : Database) : Database :=
  let recorded := db.insertMetrics ts c.checkpointMetrics
  match recorded.cycles ts with
  | none => recorded
  | some row =>
    recorded.cycle ts
      { row with
        monotonicFinished := c.checkpointFinished
        durationSeconds := max 0 (c.checkpointFinished - c.started) }

/-- `_record_cycle_failure`. -/
def recordCycleFailure (c : Collection) (ts : Int) (db : Database) : Database :=
  ((db.cycle ts
      { monotonicStarted := c.started
        monotonicFinished := c.failed
        durationSeconds := max 0 (c.failed - c.started)
        success := false
        overrun := false
        missedDeadlines := 0
        overrunSeconds := 0 }).insertSample ts none (hostSample 0)).insertMetric ts (cycleStatus false)

/-- How `collect_once` ends. -/
inductive Outcome where
  | collected
  | cycleError
  | raised
  deriving DecidableEq

/-- How a cycle ends. -/
def outcome (c : Collection) : Outcome :=
  if ¬ c.opens then .raised else if c.aborts ∨ c.raisesLater then .cycleError else .collected

/-- `collect_once`. -/
def collectOnce (c : Collection) (ts : Int) (db : Database) : Database :=
  if ¬ c.opens then db
  else
    let committed := if c.aborts then db else c.transaction ts db
    let checked := if ¬ c.aborts ∧ c.maintenance.isSome ∧ c.checkpointRecorded then
      c.recordCheckpointResult ts committed
    else committed
    if (c.aborts ∨ c.raisesLater) ∧ c.failureRecorded then c.recordCycleFailure ts checked else checked

end Collection

/-! ## The daemon -/

/-- `record_cycle_overrun`. -/
def recordCycleOverrun (ts : Int) (finished deadline interval : ℚ) (db : Database) : Database :=
  let overrunSeconds := max 0 (finished - (deadline + interval))
  if overrunSeconds ≤ 0 then db
  else
    let missed := if 0 < interval then ⌈overrunSeconds / interval⌉ else 0
    match db.cycles ts with
    | none => db
    | some row =>
      let overrun := db.cycle ts
        { row with
          overrun := true
          missedDeadlines := missed
          overrunSeconds }
      let sampled := overrun.insertSample ts none (hostSample 1)
      let count : Nat := (db.overrunCount.map (· + 1)).getD 1
      { sampled.insertMetrics ts
          [collectorMetric "missed_deadlines" (some (.integer missed)) "count" .exact,
            collectorMetric "overrun_seconds" (some (.real overrunSeconds)) "seconds" .exact,
            collectorMetric "overrun_count" (some (.integer count)) "count" .exact] with
        overrunCount := some count }

/-- A turn of the loop of `run_daemon` in which a cycle is due. -/
structure Iteration where
  ts : Int
  collection : Collection
  deadline : ℚ
  finished : ℚ
  /-- Whether `record_cycle_overrun` is committed. -/
  overrunRecorded : Bool

/-- The turn of the loop. What is raised is printed. -/
def Iteration.perform (interval : ℚ) (i : Iteration) (db : Database) : Database :=
  let collected := i.collection.collectOnce i.ts db
  match i.collection.outcome with
  | .raised => collected
  | .collected | .cycleError =>
    if i.overrunRecorded then recordCycleOverrun i.ts i.finished i.deadline interval collected else collected

/-- The databases after each turn of the loop. -/
def runDaemon (interval : ℚ) (db : Database) : List Iteration → List Database
  | [] => []
  | i :: iterations => i.perform interval db :: runDaemon interval (i.perform interval db) iterations

/-! ## What the tables tell of a cycle -/

/-- The key of `cycle_status`. -/
def cycleStatusKey : String × String × String := (cycleStatus true).key

/-- Of each cycle with a sample of the host, the sample and `cycle_status` tell the same as its row. -/
def Database.Consistent (db : Database) : Prop :=
  ∀ ts row sample, db.cycles ts = some row → db.samples ts "host" = some sample →
    (sample.serviceState = 1 ↔ row.success) ∧
      ∃ m, db.points ts cycleStatusKey = some m ∧ m.value = some (.boolean row.success)

/-- The cycle overruns its deadline. -/
def Iteration.Overruns (interval : ℚ) (i : Iteration) : Prop := i.deadline + interval < i.finished

/-- The failure of a cycle is recorded, and then its overrun. -/
def Iteration.Overwritten (interval : ℚ) (i : Iteration) : Prop :=
  i.collection.outcome = .cycleError ∧ i.collection.failureRecorded ∧ i.Overruns interval ∧ i.overrunRecorded

end Monitoring.Daemon
