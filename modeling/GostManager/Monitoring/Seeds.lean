import GostManager.Effects.Proofs.ExceptProofs
import GostManager.Lists.Proofs.DictionaryProofs
import GostManager.Monitoring.Exports
import GostManager.Monitoring.Means

/-!
# Monitoring: seeds

A summary of points needs the newest point before its window too: the seed. How far `QueryEngine.summary` of
`monitoring/query_engine.py` looks back for it, and what `raw_points` of `monitoring/query_db.py` returns.
-/

namespace Monitoring

/-! ## Configurations -/

/-- `MonitoringConfig`, the intervals. -/
structure MonitoringConfig where
  sampleInterval : Nat := 10
  tcpInterval : Nat := 30
  slowInterval : Nat := 60
  maintenanceInterval : Nat := 900

/-- The bounds of `_validate_interval`. -/
def validateInterval (key : String) (minimum maximum parsed : Nat) : Except String Unit :=
  if parsed < minimum ∨ maximum < parsed then
    .error (key ++ " must be between " ++ toString minimum ++ " and " ++ toString maximum ++ " seconds")
  else .ok ()

/-- `config_from_mapping`, from the intervals on. -/
def MonitoringConfig.validate (config : MonitoringConfig) : Except String Unit := do
  validateInterval "GOST_MONITOR_SAMPLE_INTERVAL" 5 60 config.sampleInterval
  validateInterval "GOST_MONITOR_TCP_INTERVAL" 10 300 config.tcpInterval
  validateInterval "GOST_MONITOR_SLOW_INTERVAL" 30 900 config.slowInterval
  validateInterval "GOST_MONITOR_MAINTENANCE_INTERVAL" 300 86400 config.maintenanceInterval
  if config.tcpInterval < config.sampleInterval then
    throw "GOST_MONITOR_TCP_INTERVAL may not be less than the sample interval"
  if config.slowInterval < config.sampleInterval then
    throw "GOST_MONITOR_SLOW_INTERVAL may not be less than the sample interval"
  if config.maintenanceInterval < config.slowInterval then
    throw "GOST_MONITOR_MAINTENANCE_INTERVAL may not be less than the slow interval"

/-- A configuration that is admitted. -/
abbrev AdmittedConfig : Type := {config : MonitoringConfig // config.validate = .ok ()}

/-- What a cycle of the collector writes into the cadence registry. -/
def MonitoringConfig.cadences (config : MonitoringConfig) : List (String × ℚ) :=
  [("host:tcp_state_*", config.tcpInterval),
   ("collector_source:source_ss_connections_available", config.tcpInterval),
   ("filesystem:filesystem_*", config.slowInterval),
   ("collector:database_*", config.slowInterval),
   ("collector_source:source_cgroup_memory_*", config.slowInterval),
   ("collector_source:source_process_slow_*", config.slowInterval),
   ("collector_source:source_filesystem_*", config.slowInterval),
   ("collector_source:source_db_size_metrics_available", config.slowInterval)]

theorem validateInterval_eq_ok {key : String} {minimum maximum parsed : Nat} :
    validateInterval key minimum maximum parsed = .ok () ↔ minimum ≤ parsed ∧ parsed ≤ maximum := by
  unfold validateInterval
  by_cases h : parsed < minimum ∨ maximum < parsed
  · rw [if_pos h]
    exact ⟨(fun heq => nomatch heq), fun hbounds => by omega⟩
  · rw [if_neg h]
    exact ⟨fun _ => by omega, fun _ => rfl⟩

theorem MonitoringConfig.cadences_positive {config : MonitoringConfig} (h : config.validate = .ok ()) :
    ∀ entry ∈ config.cadences, 0 < entry.2 := by
  unfold MonitoringConfig.validate at h
  obtain ⟨_, -, h⟩ := Effects.bind_eq_ok.1 h
  obtain ⟨_, htcp, h⟩ := Effects.bind_eq_ok.1 h
  obtain ⟨_, hslow, -⟩ := Effects.bind_eq_ok.1 h
  have htcpPos : (0 : ℚ) < config.tcpInterval := by
    have hle := (validateInterval_eq_ok.1 htcp).1
    exact_mod_cast (by omega : 0 < config.tcpInterval)
  have hslowPos : (0 : ℚ) < config.slowInterval := by
    have hle := (validateInterval_eq_ok.1 hslow).1
    exact_mod_cast (by omega : 0 < config.slowInterval)
  unfold MonitoringConfig.cadences
  simp only [List.forall_mem_cons, htcpPos, hslowPos, List.not_mem_nil, false_imp_iff, implies_true, and_self]

/-- The registry after a cycle: its entries replace those that were stored. -/
def AdmittedConfig.registry (config : AdmittedConfig) (stored : CadenceRegistry) : CadenceRegistry where
  entries := Lists.dictionary Prod.fst (stored.entries ++ config.1.cadences)
  positive entry hentry := by
    rcases List.mem_append.1 (Lists.mem_of_mem_dictionary hentry) with hstored | hcadence
    · exact stored.positive entry hstored
    · exact MonitoringConfig.cadences_positive config.2 entry hcadence

/-! ## The horizon -/

/-- The limits of `QueryLimits` that `summary` reads. -/
structure SummaryLimits extends QueryLimits where
  maxSeries : Nat := 5000
  maxSeedSeconds : Nat := 300
  maxGapMultiplier : ℚ := 5 / 2

/-- `min(max_seed_seconds, int(max(registry.values(), default=60.0) * max_gap_multiplier))`. -/
def SummaryLimits.seedSeconds (limits : SummaryLimits) (registry : CadenceRegistry) : Int :=
  min limits.maxSeedSeconds
    (truncate ((registry.entries.map (·.2)).max?.getD 60 * limits.maxGapMultiplier))

/-! ## The points that are returned -/

/-- `ORDER BY` entity, metric and time. -/
def MetricPoint.before (p p' : MetricPoint) : Bool :=
  p.key.entityType < p'.key.entityType || p.key.entityType = p'.key.entityType &&
    (p.key.entityId < p'.key.entityId || p.key.entityId = p'.key.entityId &&
      (p.key.metricName < p'.key.metricName || p.key.metricName = p'.key.metricName && p.ts ≤ p'.ts))

/-- The filters let the point through. -/
def ExportFilters.MatchesPoint (filters : ExportFilters) (p : MetricPoint) : Prop :=
  filters.Matches (p.key.entityType, p.key.entityId) p.key.metricName

instance (filters : ExportFilters) (p : MetricPoint) : Decidable (filters.MatchesPoint p) :=
  inferInstanceAs (Decidable (filters.Matches _ _))

/-- The points with their entities, and which row of a partition has the first number. -/
structure ReadOnlyDatabase where
  points : List MetricPoint
  /-- `ROW_NUMBER() OVER(ORDER BY ts DESC)` is one: a newest point, of several any. -/
  ranked : List MetricPoint → Option MetricPoint
  ranked_isSome : ∀ partition : List MetricPoint, partition ≠ [] → (ranked partition).isSome = true
  ranked_newest : ∀ partition p, ranked partition = some p → p ∈ partition ∧ ∀ p' ∈ partition, p'.ts ≤ p.ts

/-- `raw_points`. -/
def ReadOnlyDatabase.rawPoints (db : ReadOnlyDatabase) (limits : SummaryLimits) (filters : ExportFilters)
    (start stop seedSeconds : Int) : Except String (List MetricPoint) := do
  filters.validate
  let inWindow := db.points.filter fun p => start ≤ p.ts ∧ p.ts < stop ∧ filters.MatchesPoint p
  let before := db.points.filter fun p =>
    start - seedSeconds ≤ p.ts ∧ p.ts < start ∧ filters.MatchesPoint p
  let seeds := (Lists.groups (·.key) before).filterMap fun group => db.ranked group.2
  let rows := (inWindow ++ seeds).mergeSort MetricPoint.before
  if limits.maxQueryRows + limits.maxSeries < rows.length then
    throw "raw query exceeds the safe row limit"
  return rows

/-- `raw_groups[key]`. -/
def ofSeries (key : SeriesKey) (points : List MetricPoint) : List MetricPoint :=
  points.filter fun p => p.key = key

/-- The summary that is asked for a series. -/
def SummaryLimits.query (limits : SummaryLimits) (registry : CadenceRegistry) (key : SeriesKey)
    (start stop now : Int) : SummaryQuery where
  key
  start
  stop
  cadence := cadenceFor key.entityType key.metricName registry
  now
  maxGapMultiplier := limits.maxGapMultiplier

/-- The summary of the points that are returned is that of all points before the end. -/
def ReadOnlyDatabase.SummarizesAll (db : ReadOnlyDatabase) (q : SummaryQuery) (allowP95 : Bool)
    (rows : List MetricPoint) : Prop :=
  rawSummary q allowP95 (ofSeries q.key rows) =
    rawSummary q allowP95 ((ofSeries q.key db.points).filter fun p => p.ts < q.stop)

/-! ## What may be missed -/

/-- The newest point before the window. -/
def SummaryQuery.IsNewestBefore (q : SummaryQuery) (points : List MetricPoint) (p : MetricPoint) : Prop :=
  p ∈ points ∧ p.ts < q.start ∧ ∀ p' ∈ points, p'.ts < q.start → p'.ts ≤ p.ts

/-- The last point in the window. -/
def SummaryQuery.IsLastInside (q : SummaryQuery) (points : List MetricPoint) (p : MetricPoint) : Prop :=
  p ∈ points ∧ q.Inside p ∧ ∀ p' ∈ points, q.Inside p' → p'.ts ≤ p.ts

/-- A newest point before the window that is out of sight would not be read: there are points in the window,
and no number is carried into it, or the metric has no range. -/
def SeedsSuffice (q : SummaryQuery) (seedSeconds : Int) (points : List MetricPoint) : Prop :=
  ∀ p, q.IsNewestBefore points p → p.ts < q.start - seedSeconds →
    ∃ last, q.IsLastInside points last ∧
      ((classifyMetric q.key.metricName last.unit).supportsRange = true → carriedValue q points = none)

end Monitoring
