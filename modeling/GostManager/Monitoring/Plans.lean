import GostManager.Monitoring.Summaries

/-!
# Monitoring: query plans

`QueryEngine._cost_aware_plan` of `monitoring/query_engine.py`: which part of a window is read from points,
and which from rollups. Of the rollups only those of full minutes are read.
-/

namespace Monitoring

/-- `QueryPlan`. -/
structure QueryPlan where
  sourceMode : SourceMode
  rawStart : Option Int := none
  rawEnd : Option Int := none
  rollupStart : Option Int := none
  rollupEnd : Option Int := none
  estimatedRows : Option Nat := none
  reason : String := "retention"
  streamRaw : Bool := false
  rollupWatermark : Option Int := none
  rollupWatermarkStatus : WatermarkStatus := .missing
  deriving DecidableEq

/-- The limits of `QueryLimits` that planning reads. -/
structure QueryLimits where
  maxQueryRows : Nat := 100000
  maxMaterializedRows : Nat := 110000
  maxStreamScanRows : Nat := 1000000

/-- The tables whose rows are counted. -/
inductive PointSource where
  | raw | rollup
  deriving DecidableEq, Repr

/-- What a plan depends on: the clock, the retention, the stored watermark, and how many rows a query would
find in a table between two times. -/
structure QueryEngine where
  now : Int
  rawSeconds : Int := rawRetentionSeconds
  limits : QueryLimits := {}
  watermark : Option (Option Int)
  rows : PointSource → Int → Int → Nat

/-- `int(math.ceil(ts / 60.0) * 60)`. -/
def ceilMinute (ts : Int) : Int := (ts + 59) / 60 * 60

/-- `int(math.floor(ts / 60.0) * 60)`. -/
def floorMinute (ts : Int) : Int := ts / 60 * 60

namespace QueryEngine

/-- `bounded_point_count`. -/
def boundedPointCount (e : QueryEngine) (source : PointSource) (start stop : Int) (limit : Nat) : Nat :=
  min (e.rows source start stop) (limit + 1)

/-- `now - self.retention.raw_seconds`. -/
def rawCutoff (e : QueryEngine) : Int := e.now - e.rawSeconds

/-- What the points of the raw part cost, and whether they must be streamed. -/
def rawCost (e : QueryEngine) (rawStart : Int) : Option Int → Except String (Nat × Bool)
  | none => .ok (0, false)
  | some rawEnd =>
    let rawCount := e.boundedPointCount .raw rawStart rawEnd e.limits.maxQueryRows
    if rawCount ≤ e.limits.maxQueryRows then .ok (rawCount, false)
    else
      let streamCount := e.boundedPointCount .raw rawStart rawEnd e.limits.maxStreamScanRows
      if e.limits.maxStreamScanRows < streamCount then
        .error ("stream_scan_limit: raw query exceeds the maximum scan budget of " ++
          toString e.limits.maxStreamScanRows ++ " rows")
      else .ok (streamCount, true)

/-- The rollups do not fit beside the points. -/
def rollupOverBudget (e : QueryEngine) (rawCount : Nat) : Option Int → Option Int → Bool
  | some rollupStart, some rollupEnd =>
    let completeStart := ceilMinute rollupStart
    let completeEnd := floorMinute rollupEnd
    let remaining := e.limits.maxMaterializedRows - rawCount
    completeStart < completeEnd ∧
      remaining < e.boundedPointCount .rollup completeStart completeEnd remaining
  | _, _ => false

/-- The reason of a plan that is not raw within the budget. -/
def planReason (watermark : Option Int) (status : WatermarkStatus) (streamRaw : Bool) : String :=
  match watermark with
  | none =>
    let cause := if status = .missing then "missing" else "invalid"
    if streamRaw then cause ++ "_rollup_watermark_streaming" else cause ++ "_rollup_watermark"
  | some _ => if streamRaw then "rollup_watermark_streaming" else "rollup_watermark"

/-- `_cost_aware_plan`, for the window from `start` to `stop`. -/
def costAwarePlan (e : QueryEngine) (start stop : Int) : Except String QueryPlan :=
  let (watermark, status) := rollupWatermarkStatus e.watermark e.now
  let fullRawCount := e.boundedPointCount .raw start stop e.limits.maxQueryRows
  if e.rawCutoff ≤ start ∧ fullRawCount ≤ e.limits.maxQueryRows then
    .ok {
      sourceMode := .raw
      rawStart := some start
      rawEnd := some stop
      estimatedRows := some fullRawCount
      reason := "raw_within_budget"
      rollupWatermark := watermark
      rollupWatermarkStatus := status }
  else
    let finalizedEnd := watermark.elim start fun watermark => min stop (max start watermark)
    let rawStart := watermark.elim start fun _ => max start finalizedEnd
    let rawStart :=
      if watermark.isSome ∧ rawStart < e.rawCutoff then min stop e.rawCutoff else rawStart
    let rollupStart := if watermark.isSome ∧ start < finalizedEnd then some start else none
    let rollupEnd := rollupStart.map fun _ => finalizedEnd
    let rawEnd := if rawStart < stop then some stop else none
    match e.rawCost rawStart rawEnd with
    | .error message => .error message
    | .ok (rawCount, streamRaw) =>
      let streamRaw := streamRaw ||
        (rawEnd.isSome && e.rollupOverBudget rawCount rollupStart rollupEnd)
      .ok {
        sourceMode :=
          if rollupStart.isSome ∧ rawEnd.isSome then .hybrid
          else if rollupStart.isSome then .rollup
          else .raw
        rawStart := rawEnd.map fun _ => rawStart
        rawEnd
        rollupStart
        rollupEnd
        estimatedRows := some rawCount
        reason := planReason watermark status streamRaw
        streamRaw
        rollupWatermark := watermark
        rollupWatermarkStatus := status }

end QueryEngine

/-! ## What a plan reads -/

/-- The second is read from points. -/
def QueryPlan.ReadsRaw (plan : QueryPlan) (ts : Int) : Prop :=
  ∃ rawStart rawEnd, plan.rawStart = some rawStart ∧ plan.rawEnd = some rawEnd ∧
    rawStart ≤ ts ∧ ts < rawEnd

/-- The second is in a full minute that `summary` reads from rollups. -/
def QueryPlan.ReadsRollup (plan : QueryPlan) (ts : Int) : Prop :=
  ∃ rollupStart rollupEnd, plan.rollupStart = some rollupStart ∧ plan.rollupEnd = some rollupEnd ∧
    ceilMinute rollupStart ≤ ts ∧ ts < floorMinute rollupEnd

/-- A plan reads each second of a window once, from the cutoff on, and nothing else. -/
structure QueryPlan.ReadsOnce (plan : QueryPlan) (start stop cutoff : Int) : Prop where
  disjoint : ∀ ts, plan.ReadsRaw ts → ¬ plan.ReadsRollup ts
  within : ∀ ts, plan.ReadsRaw ts ∨ plan.ReadsRollup ts → start ≤ ts ∧ ts < stop
  covered : ∀ ts, start ≤ ts → ts < stop → cutoff ≤ ts → plan.ReadsRaw ts ∨ plan.ReadsRollup ts

end Monitoring
