import Mathlib.Data.Rat.Defs
import Mathlib.Algebra.Order.Ring.Unbundled.Rat

/-!
# Monitoring: metric points

The table `metric_points` of `monitoring/schema.py`. Times are whole seconds since the epoch, and numbers
are exact: rounding is left out.
-/

namespace Monitoring

/-- The qualities of a point, best first (`QUALITY_RANK`). -/
inductive Quality where
  | exact | derived | estimated | unavailable
  deriving DecidableEq, Repr

/-- `QUALITY_RANK`. -/
def Quality.rank : Quality → Nat
  | .exact => 0
  | .derived => 1
  | .estimated => 2
  | .unavailable => 3

/-- `max(values, key=...)`: the first of the worst. -/
def Quality.worse (q q' : Quality) : Quality := if q.rank < q'.rank then q' else q

/-- `quality_worst`, and `worst_quality` of the query engine. -/
def worstQuality : List Quality → Quality
  | [] => .unavailable
  | q :: qs => qs.foldl Quality.worse q

/-- A row of `metric_points`. A row belongs to one cycle, one entity and one metric. -/
structure PointRow where
  cycleId : Nat
  entityPk : Nat
  metricName : String
  ts : Nat
  numericValue : Option ℚ
  textValue : Option String
  unit : String
  quality : Quality
  reset : Nat := 0
  gap : Nat := 0
  deriving DecidableEq

/-- The `UNIQUE` constraint of the table. -/
def PointRow.SameKey (p p' : PointRow) : Prop :=
  p.cycleId = p'.cycleId ∧ p.entityPk = p'.entityPk ∧ p.metricName = p'.metricName

instance (p p' : PointRow) : Decidable (p.SameKey p') := inferInstanceAs (Decidable (_ ∧ _))

/-- `INSERT ... ON CONFLICT(cycle_id,entity_pk,metric_name) DO UPDATE`. -/
def insertMetric (p : PointRow) (rows : List PointRow) : List PointRow :=
  if rows.any fun p' => p'.SameKey p then rows.map fun p' => if p'.SameKey p then p else p'
  else rows ++ [p]

/-- `(ts // 60) * 60`. -/
def minuteOf (ts : Nat) : Nat := ts / 60 * 60

end Monitoring
