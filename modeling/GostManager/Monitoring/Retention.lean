import GostManager.Monitoring.Rollups

/-!
# Monitoring: retention in the course of time

The table of points while it is filled and maintained. The ledger remembers which points the rollup writer
has read, although the database forgets it.
-/

namespace Monitoring

/-- What happens to the database. Maintenance whose savepoint or transaction is rolled back is not
committed. -/
inductive Activity where
  | insert (p : PointRow)
  | maintain (now : Nat) (committed : Bool)

/-- The time of an activity. -/
def Activity.time : Activity → Nat
  | .insert p => p.ts
  | .maintain now _ => now

/-- The points that the rollup of a maintenance reads. -/
def aggregatedBy (now : Nat) (history : History) : List PointRow :=
  let start := rollupStart history.points history.rollup.watermark
  pointsBetween history.points start
    (rollupEnd rollupBatchMinutes now history.points history.rollup.watermark)

/-- The database, and the points that were rolled up. -/
structure Ledger where
  history : History
  aggregated : List PointRow

/-- A new database. -/
def Ledger.empty : Ledger := ⟨⟨[], .empty⟩, []⟩

/-- One activity. -/
def Ledger.perform (config : RollupConfig) (ledger : Ledger) : Activity → Ledger
  | .insert p =>
    { ledger with history := { ledger.history with points := insertMetric p ledger.history.points } }
  | .maintain _ false => ledger
  | .maintain now true =>
    { history := runMaintenance config now ledger.history
      aggregated := ledger.aggregated ++ aggregatedBy now ledger.history }

/-- The activities, one after the other. -/
def runActivities (config : RollupConfig) (activities : List Activity) : Ledger :=
  activities.foldl (Ledger.perform config) .empty

/-- Time does not run backwards. -/
def Timely (activities : List Activity) : Prop :=
  activities.Pairwise fun activity activity' => activity.time ≤ activity'.time

instance (activities : List Activity) : Decidable (Timely activities) :=
  inferInstanceAs (Decidable (List.Pairwise _ _))

end Monitoring
