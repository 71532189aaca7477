import GostManager.Monitoring.Rollups
import GostManager.Monitoring.Semantics

/-!
# Monitoring: summaries of series

`_raw_summary`, `_StreamingRawSummary` and `_rollup_summary` of `monitoring/query_engine.py`: one series over
a window, from points that are all at hand, from points as they come, and from rollups.
-/

namespace Monitoring

/-- The entity and the metric of a series. -/
structure SeriesKey where
  entityType : String
  entityId : String
  metricName : String
  deriving DecidableEq

/-- `MetricPoint`: a point as it is read. -/
structure MetricPoint where
  key : SeriesKey
  ts : Int
  numericValue : Option ℚ
  textValue : Option String
  unit : String
  quality : Quality
  reset : Nat := 0
  gap : Nat := 0
  deriving DecidableEq

/-- A number or a text. -/
inductive MetricValue where
  | number (value : ℚ)
  | text (value : String)
  deriving DecidableEq

/-- `point.numeric_value if point.numeric_value is not None else point.text_value`. -/
def MetricPoint.value (p : MetricPoint) : Option MetricValue :=
  match p.numericValue with
  | some value => some (.number value)
  | none => p.textValue.map .text

/-- Where the points of a summary come from. -/
inductive SourceMode where
  | raw | rollup | hybrid
  deriving DecidableEq, Repr

/-- `SeriesSummary.to_dict()`. -/
structure SeriesRecord where
  key : SeriesKey
  unit : String
  sourceMode : SourceMode
  quality : Quality
  metricSemantics : MetricCategory
  latest : Option MetricValue := none
  latestTimestamp : Option Int := none
  minimum : Option ℚ := none
  average : Option ℚ := none
  maximum : Option ℚ := none
  p95 : Option ℚ := none
  sampleCount : Nat := 0
  expectedSampleCount : Int := 0
  coverage : ℚ := 0
  unavailableCount : Nat := 0
  resetCount : Nat := 0
  gapCount : Nat := 0
  firstTimestamp : Option Int := none
  lastTimestamp : Option Int := none
  transitionCount : Option Nat := none
  dataAgeSeconds : Option Int := none
  numeric : Bool := true
  deriving DecidableEq

/-- `SeriesSummary`. -/
structure SeriesSummary extends SeriesRecord where
  weightedSeconds : ℚ := 0
  deriving DecidableEq

/-- The arguments of a summary. -/
structure SummaryQuery where
  key : SeriesKey
  start : Int
  stop : Int
  cadence : ℚ
  now : Int
  maxGapMultiplier : ℚ := 5 / 2

/-- `cadence * max_gap_multiplier`. -/
def SummaryQuery.maxGap (q : SummaryQuery) : ℚ := q.cadence * q.maxGapMultiplier

/-- `int(...)`. -/
def truncate (q : ℚ) : Int := q.num.tdiv q.den

/-- `max(1, math.ceil(max(0, end - start) / cadence))`. -/
def SummaryQuery.expected (q : SummaryQuery) : Int :=
  max 1 ⌈((max 0 (q.stop - q.start) : Int) : ℚ) / q.cadence⌉

/-- The point is in the window. -/
def SummaryQuery.Inside (q : SummaryQuery) (p : MetricPoint) : Prop := q.start ≤ p.ts ∧ p.ts < q.stop

instance (q : SummaryQuery) (p : MetricPoint) : Decidable (q.Inside p) :=
  inferInstanceAs (Decidable (_ ∧ _))

/-- A point without a value. -/
def MetricPoint.Unavailable (p : MetricPoint) : Prop :=
  p.quality = .unavailable ∨ p.numericValue = none ∧ p.textValue = none

instance (p : MetricPoint) : Decidable p.Unavailable := inferInstanceAs (Decidable (_ ∨ _))

/-! ## All points at hand -/

/-- `weighted_percentile`. -/
def weightedPercentile (values : List (ℚ × ℚ)) (percentile : ℚ) : Option ℚ :=
  let positive := (values.filter fun v => 0 < v.2).mergeSort fun v v' =>
    v.1 < v'.1 ∨ v.1 = v'.1 ∧ v.2 ≤ v'.2
  let total := (positive.map (·.2)).sum
  if positive = [] ∨ total ≤ 0 then none
  else reach (total * percentile) 0 positive
where
  /-- The first value whose cumulative weight reaches the target, else the last. -/
  reach (target cumulative : ℚ) : List (ℚ × ℚ) → Option ℚ
    | [] => none
    | [v] => some v.1
    | v :: vs => if target ≤ cumulative + v.2 then some v.1 else reach target (cumulative + v.2) vs

/-- `ordered[index + 1].ts if index + 1 < len(ordered) else end`, for the points that follow. -/
def SummaryQuery.nextTs (q : SummaryQuery) : List MetricPoint → Int
  | [] => q.stop
  | next :: _ => next.ts

/-- The values and the seconds that they hold: each until the next point, but not over a gap. -/
def weighted (q : SummaryQuery) : List MetricPoint → List (ℚ × Int)
  | [] => []
  | p :: ps =>
    match p.numericValue with
    | none => weighted q ps
    | some value =>
      if p.quality = .unavailable then weighted q ps
      else if p.ts < q.start ∧ q.maxGap < (q.start - p.ts : Int) then weighted q ps
      else
        let segmentStart := max q.start p.ts
        let segmentEnd := min q.stop (min (q.nextTs ps) (truncate (p.ts + q.maxGap)))
        if segmentStart < segmentEnd then (value, segmentEnd - segmentStart) :: weighted q ps
        else weighted q ps

/-- How often neighbours differ. -/
def countChanges : List MetricValue → Nat
  | value :: value' :: values => (if value ≠ value' then 1 else 0) + countChanges (value' :: values)
  | _ => 0

/-- The numbers of the points that have one. -/
def availableValues (inside : List MetricPoint) : List ℚ :=
  inside.filterMap fun p => if p.quality = .unavailable then none else p.numericValue

/-- What `_raw_summary` knows without the values: the first half of the function. -/
def countedSummary (q : SummaryQuery) (inside : List MetricPoint) (unit : String) : SeriesSummary :=
  let semantics := classifyMetric q.key.metricName unit
  { key := q.key
    unit
    sourceMode := .raw
    quality := worstQuality (inside.map (·.quality))
    metricSemantics := semantics.category
    latest := inside.getLast?.bind (·.value)
    latestTimestamp := inside.getLast?.map (·.ts)
    sampleCount := inside.length
    expectedSampleCount := q.expected
    coverage := min 1 (inside.length / q.expected)
    unavailableCount := inside.countP (·.Unavailable)
    resetCount := (inside.map (·.reset)).sum
    gapCount := (inside.map (·.gap)).sum
    firstTimestamp := inside.head?.map (·.ts)
    lastTimestamp := inside.getLast?.map (·.ts)
    transitionCount :=
      if semantics.supportsTransitions then some (countChanges (inside.filterMap (·.value))) else none
    dataAgeSeconds := inside.getLast?.map fun p => max 0 (q.now - p.ts)
    numeric := !inside.any (·.textValue.isSome) }

/-- `_raw_summary`. Without any point there is no unit, and the function fails. -/
def rawSummary (q : SummaryQuery) (allowP95 : Bool) (points : List MetricPoint) : Option SeriesSummary :=
  let ordered := points.mergeSort fun p p' => p.ts ≤ p'.ts
  let inside := ordered.filter fun p => q.Inside p
  match (if inside = [] then ordered else inside).getLast? with
  | none => none
  | some last =>
    let semantics := classifyMetric q.key.metricName last.unit
    let summary := countedSummary q inside last.unit
    if semantics.supportsRange then
      let segments := weighted q ordered
      let totalWeight : ℚ := ((segments.map (·.2)).sum : Int)
      some { summary with
        minimum := (availableValues inside).min?
        maximum := (availableValues inside).max?
        weightedSeconds := totalWeight
        average :=
          if 0 < totalWeight then some ((segments.map fun v => v.1 * (v.2 : ℚ)).sum / totalWeight) else none
        p95 := if 0 < totalWeight ∧ allowP95 ∧ semantics.supportsP95 then
            weightedPercentile (segments.map fun v => (v.1, (v.2 : ℚ))) (95 / 100)
          else none }
    else some summary

/-! ## Points as they come -/

/-- `_StreamingRawSummary`, what changes of it. -/
structure StreamingRawSummary where
  summary : Option SeriesSummary
  previous : Option MetricPoint
  previousTransition : Option MetricValue
  weightedTotal : ℚ

namespace StreamingRawSummary

/-- Nothing has come. -/
def empty : StreamingRawSummary := ⟨none, none, none, 0⟩

/-- `_segment`. It asserts that there is a summary. -/
def segment (q : SummaryQuery) (acc : StreamingRawSummary) (p : MetricPoint) (nextTs : Int) :
    Option StreamingRawSummary :=
  match p.numericValue with
  | none => some acc
  | some value =>
    if p.quality = .unavailable then some acc
    else if p.ts < q.start ∧ q.maxGap < (q.start - p.ts : Int) then some acc
    else
      let segmentStart := max q.start p.ts
      let segmentEnd := min q.stop (min nextTs (truncate (p.ts + q.maxGap)))
      if segmentEnd ≤ segmentStart then some acc
      else
        let seconds : ℚ := (segmentEnd - segmentStart : Int)
        acc.summary.map fun summary =>
          { acc with
            summary := some { summary with weightedSeconds := summary.weightedSeconds + seconds }
            weightedTotal := acc.weightedTotal + value * seconds }

/-- `if self.previous is not None: self._segment(self.previous, ...)`. -/
def closePrevious (q : SummaryQuery) (acc : StreamingRawSummary) (nextTs : Int) :
    Option StreamingRawSummary :=
  match acc.previous with
  | none => some acc
  | some previous => acc.segment q previous nextTs

/-- The summary when the first point comes. -/
def initial (q : SummaryQuery) (p : MetricPoint) : SeriesSummary where
  key := q.key
  unit := p.unit
  sourceMode := .raw
  quality := .unavailable
  metricSemantics := (classifyMetric p.key.metricName p.unit).category
  expectedSampleCount := q.expected
  numeric := p.textValue.isNone

/-- A point in the window. -/
def observe (q : SummaryQuery) (p : MetricPoint) (summary : SeriesSummary) : SeriesSummary :=
  let semantics := classifyMetric p.key.metricName p.unit
  let value := if semantics.supportsRange ∧ ¬ p.Unavailable then p.numericValue else none
  { summary with
    sampleCount := summary.sampleCount + 1
    coverage := min 1 ((summary.sampleCount + 1 : Nat) / summary.expectedSampleCount)
    quality :=
      if summary.sampleCount = 0 then p.quality else worstQuality [summary.quality, p.quality]
    unavailableCount := summary.unavailableCount + if p.Unavailable then 1 else 0
    resetCount := summary.resetCount + p.reset
    gapCount := summary.gapCount + p.gap
    firstTimestamp := summary.firstTimestamp.or (some p.ts)
    lastTimestamp := some p.ts
    latest := p.value
    latestTimestamp := some p.ts
    dataAgeSeconds := some (max 0 (q.now - p.ts))
    minimum := value.elim summary.minimum fun v => some (summary.minimum.elim v (min · v))
    maximum := value.elim summary.maximum fun v => some (summary.maximum.elim v (max · v)) }

/-- The transitions of a point in the window. -/
def transition (p : MetricPoint) (acc : StreamingRawSummary) (summary : SeriesSummary) :
    Option MetricValue × Option Nat :=
  if (classifyMetric p.key.metricName p.unit).supportsTransitions then
    match p.value with
    | none => (acc.previousTransition, summary.transitionCount)
    | some value =>
      if acc.previousTransition ≠ none ∧ some value ≠ acc.previousTransition then
        (some value, some (summary.transitionCount.getD 0 + 1))
      else (some value, some (summary.transitionCount.getD 0))
  else (acc.previousTransition, summary.transitionCount)

/-- `add`. -/
def add (q : SummaryQuery) (acc : StreamingRawSummary) (p : MetricPoint) :
    Option StreamingRawSummary := do
  let acc ← acc.closePrevious q p.ts
  let summary := acc.summary.getD (initial q p)
  if q.Inside p then
    let (previousTransition, transitionCount) := transition p acc summary
    some { acc with
      summary := some { observe q p summary with transitionCount }
      previousTransition
      previous := some p }
  else some { acc with
    summary := some summary
    previous := some p }

/-- `finish`. It asserts that there is a summary. -/
def finish (q : SummaryQuery) (acc : StreamingRawSummary) : Option SeriesSummary := do
  guard acc.summary.isSome
  let acc ← acc.closePrevious q q.stop
  let summary ← acc.summary
  let semantics := classifyMetric summary.key.metricName summary.unit
  some { summary with
    average :=
      if semantics.supportsAverage ∧ summary.weightedSeconds ≠ 0 then
        some (acc.weightedTotal / summary.weightedSeconds)
      else summary.average
    p95 := none }

end StreamingRawSummary

/-- The points are added one by one. -/
def streamingSummary (q : SummaryQuery) (points : List MetricPoint) : Option SeriesSummary := do
  let acc ← points.foldlM (StreamingRawSummary.add q) .empty
  acc.finish q

/-! ## Rollups -/

/-- `RollupPoint`: a rollup as it is read. -/
structure RollupPoint extends Rollup where
  key : SeriesKey
  minuteStart : Int

/-- What the rollups know of the average: the values and the seconds that they cover. -/
def weightedRollups (q : SummaryQuery) (ordered : List RollupPoint) : List (ℚ × ℚ) :=
  ordered.filterMap fun item =>
    let seconds : Int := max 0 (min q.stop (item.minuteStart + 60) - max q.start item.minuteStart)
    let validSamples : Nat := item.samples - item.unavailableCount
    let numericCoverage : ℚ := min 1 ((validSamples : ℚ) / (max 1 item.expectedSamples : Nat))
    let covered := seconds * numericCoverage
    item.avgValue.bind fun avgValue => if 0 < covered then some (avgValue, covered) else none

/-- `_rollup_summary`. Without any row there is no unit, and the function fails. -/
def rollupSummary (q : SummaryQuery) (points : List RollupPoint) : Option SeriesSummary :=
  let ordered := points.mergeSort fun item item' => item.minuteStart ≤ item'.minuteStart
  match ordered.getLast? with
  | none => none
  | some last =>
    let unit := last.unit
    let semantics := classifyMetric q.key.metricName unit
    let missingSeconds : Int := max 0 (q.stop - q.start - ordered.length * 60)
    let represented : Int := ((ordered.map (·.expectedSamples)).sum : Nat)
    let expected := max 1
      (if missingSeconds ≠ 0 then represented + max 1 ⌈(missingSeconds : ℚ) / q.cadence⌉ else represented)
    let samples := (ordered.map (·.samples)).sum
    let summary : SeriesSummary :=
      { key := q.key
        unit
        sourceMode := .rollup
        quality := worstQuality (ordered.map (·.quality))
        metricSemantics := semantics.category
        sampleCount := samples
        expectedSampleCount := expected
        coverage := min 1 (samples / expected)
        unavailableCount := (ordered.map (·.unavailableCount)).sum
        resetCount := (ordered.map (·.resetCount)).sum
        gapCount := (ordered.map (·.gapCount)).sum
        firstTimestamp := ordered.head?.map (·.minuteStart)
        lastTimestamp := some (last.minuteStart + 59) }
    if semantics.supportsRange then
      let segments := weightedRollups q ordered
      let weightedSeconds := (segments.map (·.2)).sum
      some { summary with
        minimum := (ordered.filterMap (·.minValue)).min?
        average :=
          if weightedSeconds ≠ 0 then some ((segments.map fun v => v.1 * v.2).sum / weightedSeconds)
          else none
        maximum := (ordered.filterMap (·.maxValue)).max?
        weightedSeconds }
    else some { summary with
      quality := if semantics.supportsTransitions then .unavailable else summary.quality
      numeric := unit ≠ "state" ∧ unit ≠ "endpoint" ∧ unit ≠ "text" }

/-! ## Rollups and points -/

/-- A row of the table, as it is read. -/
def PointRow.metricPoint (key : SeriesKey) (p : PointRow) : MetricPoint where
  key
  ts := p.ts
  numericValue := p.numericValue
  textValue := p.textValue
  unit := p.unit
  quality := p.quality
  reset := p.reset
  gap := p.gap

/-- `raw_points` for the entity of a query, without a seed. -/
def rawPoints (points : List PointRow) (entityPk : Nat) (q : SummaryQuery) : List MetricPoint :=
  (points.filter fun p => p.entityPk = entityPk ∧ p.metricName = q.key.metricName ∧
    q.start ≤ p.ts ∧ p.ts < q.stop).map (·.metricPoint q.key)

/-- `rollup_points` for the entity of a query. -/
def rollupPoints (rollups : Rollups) (entityPk : Nat) (q : SummaryQuery) : List RollupPoint :=
  (List.range' q.start.toNat (q.stop.toNat - q.start.toNat)).filterMap fun minuteStart =>
    (rollups ⟨entityPk, q.key.metricName, minuteStart⟩).map fun row =>
      { row with
        key := q.key
        minuteStart }

end Monitoring
