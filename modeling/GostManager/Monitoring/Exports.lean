import Mathlib.Data.String.Basic
import GostManager.Monitoring.Plans

/-!
# Monitoring: exports

The rows of an export: `_export_selection`, `_point_rows` and `_count_point_rows` of
`monitoring/exporters.py`, over `iter_export_rows` and `bounded_point_count` of `monitoring/query_db.py`. A
minute is exported from its rollup, or from its points.
-/

namespace Monitoring

/-! ## The database -/

/-- A snapshot of the tables that are exported. -/
structure ExportDatabase where
  points : List PointRow
  rollups : List (RollupKey × Rollup)
  /-- The type and the name of the entity that a row refers to. -/
  entity : Nat → String × String
  /-- The primary key of `minute_rollups`. -/
  rollupKeys : (rollups.map (·.1)).Nodup
  /-- The `UNIQUE` constraint of `entities`. -/
  entityKeys : ∀ pk ∈ points.map (·.entityPk) ++ rollups.map (·.1.entityPk),
    ∀ pk' ∈ points.map (·.entityPk) ++ rollups.map (·.1.entityPk), entity pk = entity pk' → pk = pk'

/-- The filters of an export. No names are no filter. -/
structure ExportFilters where
  entityType : Option String := none
  entityId : Option String := none
  metricNames : List String := []

/-- `SAFE_FILTER_RE`. -/
def isSafeFilter (value : String) : Bool :=
  1 ≤ value.length && value.length ≤ 160 &&
    value.toList.all fun c =>
      'A' ≤ c && c ≤ 'Z' || 'a' ≤ c && c ≤ 'z' || '0' ≤ c && c ≤ '9' || "_.:/-".toList.contains c

/-- `validate_filter`. -/
def validateFilter (value label : String) : Except String Unit :=
  if isSafeFilter value then .ok () else .error ("invalid " ++ label ++ " filter")

/-- `_filter_clause`: what it refuses. -/
def ExportFilters.validate (filters : ExportFilters) : Except String Unit := do
  filters.entityType.forM (validateFilter · "entity type")
  filters.entityId.forM (validateFilter · "entity id")
  if 100 < filters.metricNames.length then
    throw "metric filter exceeds the safe limit of 100 names"
  filters.metricNames.forM (validateFilter · "metric")

/-- `_filter_clause`: what it lets through. -/
def ExportFilters.Matches (filters : ExportFilters) (entity : String × String) (metricName : String) : Prop :=
  (∀ entityType ∈ filters.entityType, entity.1 = entityType) ∧
  (∀ entityId ∈ filters.entityId, entity.2 = entityId) ∧
  (filters.metricNames = [] ∨ metricName ∈ filters.metricNames)

instance (filters : ExportFilters) (entity : String × String) (metricName : String) :
    Decidable (filters.Matches entity metricName) := inferInstanceAs (Decidable (_ ∧ _ ∧ _))

/-- The sources of rows. -/
inductive ExportSource where
  | raw | rollup | rawMinute
  deriving DecidableEq, Repr

namespace ExportDatabase

/-- The points between two times. -/
def selectedPoints (db : ExportDatabase) (filters : ExportFilters) (start stop : Int) : List PointRow :=
  db.points.filter fun p =>
    start ≤ p.ts ∧ (p.ts : Int) < stop ∧ filters.Matches (db.entity p.entityPk) p.metricName

/-- The rollups between two times. -/
def selectedRollups (db : ExportDatabase) (filters : ExportFilters) (start stop : Int) :
    List (RollupKey × Rollup) :=
  db.rollups.filter fun item => start ≤ item.1.minuteStart ∧ (item.1.minuteStart : Int) < stop ∧
    filters.Matches (db.entity item.1.entityPk) item.1.metricName

/-- `GROUP BY entity_pk,metric_name,minute`. -/
def minuteGroups (db : ExportDatabase) (filters : ExportFilters) (start stop : Int) :
    List (RollupKey × List PointRow) :=
  Lists.groups (fun p => ⟨p.entityPk, p.metricName, minuteOf p.ts⟩) (db.selectedPoints filters start stop)

/-- `COUNT(*)` of a source. -/
def rowCount (db : ExportDatabase) (filters : ExportFilters) (source : ExportSource) (start stop : Int) :
    Nat :=
  match source with
  | .raw => (db.selectedPoints filters start stop).length
  | .rollup => (db.selectedRollups filters start stop).length
  | .rawMinute => (db.minuteGroups filters start stop).length

/-- `bounded_point_count`, and `count_export_rows`. -/
def boundedPointCount (db : ExportDatabase) (filters : ExportFilters) (source : ExportSource)
    (start stop : Int) (limit : Nat) : Except String Nat := do
  filters.validate
  return min (db.rowCount filters source start stop) (limit + 1)

end ExportDatabase

/-! ## The rows of a source -/

/-- The columns of a row that are exported as they are read. -/
structure ExportColumns where
  entityType : String
  entityId : String
  metricName : String
  timestamp : Option Nat := none
  minuteStart : Option Nat := none
  numericValue : Option ℚ
  textValue : Option String := none
  unit : String
  quality : Quality
  reset : Nat
  gap : Nat
  samples : Option Nat := none
  expectedSamples : Option Int := none
  coverage : Option ℚ := none
  unavailableCount : Option Nat := none
  minimum : Option ℚ := none
  average : Option ℚ := none
  maximum : Option ℚ := none
  latestTimestamp : Option Nat := none
  sourceMode : ExportSource
  deriving DecidableEq

/-- A row as `iter_export_rows` yields it. -/
structure ExportRow extends ExportColumns where
  latestNumeric : Option ℚ := none
  latestText : Option String := none
  deriving DecidableEq

/-- A row of a point. -/
def rawRow (entity : String × String) (p : PointRow) : ExportRow where
  entityType := entity.1
  entityId := entity.2
  metricName := p.metricName
  timestamp := some p.ts
  numericValue := p.numericValue
  textValue := p.textValue
  unit := p.unit
  quality := p.quality
  reset := p.reset
  gap := p.gap
  latestNumeric := p.numericValue
  latestText := p.textValue
  latestTimestamp := some p.ts
  sourceMode := .raw

/-- A row of a rollup. -/
def rollupRow (entity : String × String) (item : RollupKey × Rollup) : ExportRow where
  entityType := entity.1
  entityId := entity.2
  metricName := item.1.metricName
  minuteStart := some item.1.minuteStart
  numericValue := item.2.avgValue
  unit := item.2.unit
  quality := item.2.quality
  reset := item.2.resetCount
  gap := item.2.gapCount
  samples := some item.2.samples
  expectedSamples := some item.2.expectedSamples
  coverage := some item.2.coverage
  unavailableCount := some item.2.unavailableCount
  minimum := item.2.minValue
  average := item.2.avgValue
  maximum := item.2.maxValue
  sourceMode := .rollup

/-- `CASE MAX(CASE r.quality ...)`: the quality of the greatest rank. -/
def qualityOfRank : Nat → Quality
  | 0 => .exact
  | 1 => .derived
  | 2 => .estimated
  | _ => .unavailable

/-- `CASE WHEN r.quality!='unavailable' THEN r.numeric_value END`. -/
def usableValue (p : PointRow) : Option ℚ := if p.quality = .unavailable then none else p.numericValue

/-- The point with `latest_rank=1`: of the latest time, and of these the last that was stored. -/
def latestPoint (points : List PointRow) : Option PointRow :=
  points.foldl (fun latest p => some (latest.elim p fun p' => if p'.ts ≤ p.ts then p else p')) none

/-- A row of the points of one minute. -/
def minuteRow (entity : String × String) (group : RollupKey × List PointRow) : ExportRow where
  entityType := entity.1
  entityId := entity.2
  metricName := group.1.metricName
  minuteStart := some group.1.minuteStart
  numericValue := average (group.2.filterMap usableValue)
  unit := (group.2.map (·.unit)).max?.getD ""
  quality := qualityOfRank ((group.2.map (·.quality.rank)).max?.getD 0)
  reset := (group.2.map (·.reset)).sum
  gap := (group.2.map (·.gap)).sum
  samples := some group.2.length
  unavailableCount := some (group.2.countP fun p =>
    p.quality = .unavailable ∨ p.numericValue = none ∧ p.textValue = none)
  minimum := (group.2.filterMap usableValue).min?
  average := average (group.2.filterMap usableValue)
  maximum := (group.2.filterMap usableValue).max?
  latestNumeric := (latestPoint group.2).bind (·.numericValue)
  latestText := (latestPoint group.2).bind (·.textValue)
  latestTimestamp := (latestPoint group.2).map (·.ts)
  sourceMode := .rawMinute

/-- `ORDER BY` time, entity and metric. -/
def ExportRow.before (row row' : ExportRow) : Bool :=
  let time := (row.timestamp.or row.minuteStart).getD 0
  let time' := (row'.timestamp.or row'.minuteStart).getD 0
  time < time' || time = time' && (row.entityType < row'.entityType || row.entityType = row'.entityType &&
    (row.entityId < row'.entityId || row.entityId = row'.entityId && row.metricName ≤ row'.metricName))

/-- The rows of a source, in order. -/
def ExportDatabase.exportRows (db : ExportDatabase) (filters : ExportFilters) (source : ExportSource)
    (start stop : Int) : List ExportRow :=
  let rows : List ExportRow :=
    match source with
    | .raw => (db.selectedPoints filters start stop).map fun p => rawRow (db.entity p.entityPk) p
    | .rollup => (db.selectedRollups filters start stop).map fun item =>
        rollupRow (db.entity item.1.entityPk) item
    | .rawMinute => (db.minuteGroups filters start stop).map fun group =>
        minuteRow (db.entity group.1.entityPk) group
  rows.mergeSort ExportRow.before

/-- `iter_export_rows`. -/
def ExportDatabase.iterExportRows (db : ExportDatabase) (filters : ExportFilters) (source : ExportSource)
    (start stop : Int) (maxRows : Nat) : Except String (List ExportRow) := do
  let estimated ← db.boundedPointCount filters source start stop maxRows
  if maxRows < estimated then
    .error ("export estimate " ++ toString estimated ++ " rows exceeds the safe limit " ++ toString maxRows)
  else
    let rows := db.exportRows filters source start stop
    if maxRows < rows.length then .error "export exceeded the safe actual-row limit" else .ok rows

/-! ## The rows of an export -/

/-- `aggregate_kind`. -/
inductive AggregateKind where
  | point | minuteStatistics | minuteLatest | historicalValueUnavailable
  deriving DecidableEq, Repr

/-- A row as `_point_rows` yields it. -/
structure ExportRecord extends ExportColumns where
  metricSemantics : MetricCategory
  recordType : ExportSource
  aggregateKind : AggregateKind
  valueAvailable : Bool
  latest : Option MetricValue
  deriving DecidableEq

/-- `cadence_for`. -/
def cadenceFor (entityType metricName : String) (registry : CadenceRegistry) : ℚ :=
  let cadence :=
    if entityType = "host" ∧ startsWith metricName "tcp_state_" then 30
    else if entityType = "service" ∧
        (metricName = "established_sockets_total" ∨ metricName = "process_open_fds") then
      if metricName = "established_sockets_total" then 30 else 60
    else if entityType = "tunnel" ∧ metricName = "established_remote_sockets" then 30
    else if entityType = "filesystem" ∨ entityType = "collector" ∧ startsWith metricName "database_" then 60
    else if entityType = "collector" ∧ startsWith metricName "checkpoint" then 900
    else 10
  max 1 (registry.lookup cadence entityType metricName)

/-- The columns of a minute of points, with what is expected of the part of it in the window. -/
def minuteColumns (registry : CadenceRegistry) (start stop : Int) (columns : ExportColumns) : ExportColumns :=
  let minute : Int := (columns.minuteStart.getD 0 : Nat)
  let seconds : Int := max 0 (min stop (minute + 60) - max start minute)
  let expected : Int := max 1 ⌈(seconds : ℚ) / cadenceFor columns.entityType columns.metricName registry⌉
  let samples : Nat := columns.samples.getD 0
  { columns with
    expectedSamples := some expected
    coverage := some (min 1 (samples / expected))
    sourceMode := .raw }

/-- What `_point_rows` makes of a row. -/
def pointRecord (registry : CadenceRegistry) (source : ExportSource) (start stop : Int) (row : ExportRow) :
    ExportRecord :=
  let semantics := classifyMetric row.metricName row.unit
  let latest : Option MetricValue := (row.latestNumeric.map .number).or (row.latestText.map .text)
  let columns : ExportColumns :=
    if source = .rawMinute then minuteColumns registry start stop row.toExportColumns
    else row.toExportColumns
  if source = .raw then
    { columns with
      latestTimestamp := row.timestamp
      metricSemantics := semantics.category
      recordType := source
      aggregateKind := .point
      valueAvailable := row.numericValue.isSome || row.textValue.isSome
      latest }
  else if semantics.supportsAverage then
    { columns with
      numericValue := row.average
      textValue := none
      latestTimestamp := if source = .rawMinute then row.latestTimestamp else none
      metricSemantics := semantics.category
      recordType := source
      aggregateKind := if row.average.isSome then .minuteStatistics else .historicalValueUnavailable
      valueAvailable := row.average.isSome
      latest := if source = .rawMinute then latest else none }
  else if source = .rawMinute ∧ latest.isSome then
    { columns with
      numericValue := row.latestNumeric
      textValue := row.latestText
      minimum := none
      average := none
      maximum := none
      metricSemantics := semantics.category
      recordType := source
      aggregateKind := .minuteLatest
      valueAvailable := true
      latest }
  else
    { columns with
      numericValue := none
      textValue := none
      latestTimestamp := none
      minimum := none
      average := none
      maximum := none
      metricSemantics := semantics.category
      recordType := source
      aggregateKind := .historicalValueUnavailable
      valueAvailable := false
      latest := none }

/-- The rows of a part of an export. -/
def ExportDatabase.records (db : ExportDatabase) (filters : ExportFilters) (registry : CadenceRegistry)
    (source : ExportSource) (start stop : Int) : List ExportRecord :=
  (db.exportRows filters source start stop).map (pointRecord registry source start stop)

/-- The entity, the metric and the minute of a row. -/
structure MinuteKey where
  entityType : String
  entityId : String
  metricName : String
  minuteStart : Option Nat
  deriving DecidableEq

/-- What a row is about. -/
def ExportColumns.minuteKey (columns : ExportColumns) : MinuteKey where
  entityType := columns.entityType
  entityId := columns.entityId
  metricName := columns.metricName
  minuteStart := columns.minuteStart

/-- What a row tells of its minute. -/
structure MinuteStatistics where
  samples : Option Nat
  minimum : Option ℚ
  average : Option ℚ
  maximum : Option ℚ
  reset : Nat
  gap : Nat
  unavailableCount : Option Nat
  unit : String
  quality : Quality
  valueAvailable : Bool
  deriving DecidableEq

/-- The statistics of a row. -/
def ExportRecord.statistics (record : ExportRecord) : MinuteStatistics where
  samples := record.samples
  minimum := record.minimum
  average := record.average
  maximum := record.maximum
  reset := record.reset
  gap := record.gap
  unavailableCount := record.unavailableCount
  unit := record.unit
  quality := record.quality
  valueAvailable := record.valueAvailable

/-- A part of an export: a source and its window. -/
abbrev ExportPart : Type := ExportSource × Int × Int

/-- `_point_rows`, after some rows. -/
def pointRowsFrom (db : ExportDatabase) (filters : ExportFilters) (registry : CadenceRegistry)
    (expectedRows : Nat) : Nat → List ExportPart → Except String (List ExportRecord)
  | _, [] => .ok []
  | emitted, (source, start, stop) :: parts => do
    let rows ← db.iterExportRows filters source start stop (expectedRows - emitted)
    let rest ← pointRowsFrom db filters registry expectedRows (emitted + rows.length) parts
    .ok (rows.map (pointRecord registry source start stop) ++ rest)

/-- `_point_rows`. -/
def pointRows (db : ExportDatabase) (filters : ExportFilters) (registry : CadenceRegistry)
    (parts : List ExportPart) (expectedRows : Nat) : Except String (List ExportRecord) :=
  pointRowsFrom db filters registry expectedRows 0 parts

/-- The limits of `QueryLimits` that exports read. -/
structure ExportLimits extends QueryLimits where
  maxExportRows : Nat := 100000

/-- The points of a minute export are counted first, against the scan budget. -/
def checkScanBudget (db : ExportDatabase) (filters : ExportFilters) (limits : ExportLimits) :
    ExportPart → Except String Unit
  | (.rawMinute, start, stop) => do
    let scanned ← db.boundedPointCount filters .raw start stop limits.maxStreamScanRows
    if limits.maxStreamScanRows < scanned then
      throw ("stream_scan_limit: minute export exceeds the maximum scan budget of " ++
        toString limits.maxStreamScanRows ++ " rows")
  | _ => .ok ()

/-- The loop of `_count_point_rows`. It is left when there are too many rows. -/
def countRowsFrom (db : ExportDatabase) (filters : ExportFilters) (limits : ExportLimits) :
    Nat → List ExportPart → Except String Nat
  | count, [] => .ok count
  | count, part :: parts => do
    checkScanBudget db filters limits part
    let value ← db.boundedPointCount filters part.1 part.2.1 part.2.2 (limits.maxExportRows - count)
    if limits.maxExportRows < count + value then .ok (count + value)
    else countRowsFrom db filters limits (count + value) parts

/-- `_count_point_rows`. -/
def countPointRows (db : ExportDatabase) (filters : ExportFilters) (limits : ExportLimits)
    (parts : List ExportPart) : Except String Nat := do
  let count ← countRowsFrom db filters limits 0 parts
  if limits.maxExportRows < count then
    .error ("export estimate " ++ toString count ++ " rows exceeds the safe limit " ++
      toString limits.maxExportRows)
  else .ok count

/-- The granularities of an export of points. -/
inductive Granularity where
  | auto | raw | rollup | minute
  deriving DecidableEq, Repr

/-- The parts of an export of minutes: full minutes of the rollup part, and the raw part. -/
def minuteParts (plan : QueryPlan) : List ExportPart :=
  (match plan.rollupStart, plan.rollupEnd with
    | some rollupStart, some rollupEnd => [(.rollup, ceilMinute rollupStart, floorMinute rollupEnd)]
    | _, _ => []) ++
  (match plan.rawStart, plan.rawEnd with
    | some rawStart, some rawEnd => [(.rawMinute, rawStart, rawEnd)]
    | _, _ => [])

/-- `"watermark" in plan.reason`. -/
def mentionsWatermark (reason : String) : Bool :=
  reason.toList.tails.any fun text => "watermark".toList.isPrefixOf text

/-- `_export_selection`, for the window from `start` to `stop`. -/
def exportSelection (e : QueryEngine) (start stop : Int) (granularity : Granularity) :
    Except String (Granularity × SourceMode × List ExportPart) := do
  let plan ← e.costAwarePlan start stop
  let selected :=
    if granularity = .auto then
      if plan.sourceMode = .raw ∧ ¬ plan.streamRaw ∧ stop - start ≤ 3600 then .raw else .minute
    else granularity
  if selected = .raw ∧ (plan.sourceMode ≠ .raw ∨ plan.streamRaw) then
    if plan.streamRaw ∨ mentionsWatermark plan.reason then
      .error "raw export exceeds the safe row budget; use auto or minute"
    else .error "raw export is unavailable for data outside raw retention"
  else if selected = .raw then .ok (selected, plan.sourceMode, [(.raw, start, stop)])
  else .ok (selected, plan.sourceMode, minuteParts plan)

end Monitoring
