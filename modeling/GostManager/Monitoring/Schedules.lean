import Mathlib.Data.List.Perm.Basic
import GostManager.Monitoring.Rollups

/-!
# Monitoring: schedules of the rollup writer

Calls of `rollup_completed_minutes` at any times and with any batches. What a call finds stored of the
minutes before it is all that there ever will be; of later minutes it may find anything.
-/

namespace Monitoring

/-- A call: its arguments, and the points that are stored when it runs. -/
structure RollupCall where
  batchMinutes : Nat
  now : Nat
  stored : List PointRow

/-- The calls of a schedule, one after the other, from a new database. -/
def runCalls (config : RollupConfig) (calls : List RollupCall) : RollupState :=
  calls.foldl (fun state call => rollupCompletedMinutes config call.batchMinutes call.now call.stored state)
    .empty

/-- The points of a time. -/
def pointsBefore (points : List PointRow) (stop : Nat) : List PointRow :=
  points.filter fun p => p.ts < stop

/-- A schedule for a set of points. -/
structure Schedule (points : List PointRow) (calls : List RollupCall) : Prop where
  order : calls.Pairwise fun call call' => call.now ≤ call'.now
  stored : ∀ call ∈ calls,
    (pointsBefore call.stored (minuteOf call.now)).Perm (pointsBefore points (minuteOf call.now))

/-- Each series has one unit. -/
def OneUnit (points : List PointRow) : Prop :=
  ∀ p ∈ points, ∀ p' ∈ points, p.entityPk = p'.entityPk → p.metricName = p'.metricName → p.unit = p'.unit

/-- The points of a row. -/
def pointsOf (points : List PointRow) (k : RollupKey) : List PointRow :=
  points.filter fun p =>
    p.entityPk = k.entityPk ∧ p.metricName = k.metricName ∧ minuteOf p.ts = k.minuteStart

/-- The rollups of a set of points up to a watermark. -/
def rollupsUpTo (config : RollupConfig) (points : List PointRow) (watermark : Nat) : Rollups := fun k =>
  match pointsOf points k with
  | [] => none
  | p :: ps => if k.minuteStart < watermark then
      some (rollupOf (expectedSamples (config.cadence k.entityPk k.metricName)) p.unit (p :: ps))
    else none

end Monitoring
