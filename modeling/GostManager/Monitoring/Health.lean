import Mathlib.Data.List.Infix
import Mathlib.Data.List.Sort
import Mathlib.Data.Rat.Defs
import GostManager.Lists.Dictionary
import GostManager.Monitoring.Points

/-!
# Monitoring: health

`monitoring/health.py`: from a snapshot of the query engine to the health of the node, of the services and of
the tunnels. A snapshot has the fields that `QueryEngine.snapshot` gives it, as far as they are read here.
Details are the texts that `str` makes of their values, and so are metadata, where a value that counts as
false is the empty text. Percentages in messages are written by `percent`, which stands for the format `.1f`.
-/

namespace Monitoring.Health

open Lists

/-! ## Snapshots -/

/-- A metric of a snapshot. -/
structure SnapshotMetric where
  entityType : String
  entityId : String
  metricName : String
  ts : Int
  numericValue : Option ℚ
  quality : Quality
  stale : Bool
  deriving DecidableEq

/-- An entity of a snapshot. -/
structure SnapshotEntity where
  entityType : String
  entityId : String
  metadata : List (String × String)
  updatedAt : Int

/-- The last cycle. -/
structure SnapshotCycle where
  collectedAt : Int
  success : Bool

/-- An event of a snapshot. -/
structure SnapshotEvent where
  ts : Int
  severity : String
  code : String
  details : List (String × String)

/-- A snapshot. -/
structure Snapshot where
  generatedAt : Int
  cycle : Option SnapshotCycle
  metrics : List SnapshotMetric
  entities : List SnapshotEntity
  healthEvents : List SnapshotEvent
  healthEventsTruncated : Bool
  currentMembershipAuthoritative : Bool
  invalidManagedEnvSources : List String

/-- `HealthPolicy`. -/
structure HealthPolicy where
  staleAfterSeconds : Int := 20
  cpuDegradedPercent : ℚ := 80
  memoryDegradedPercent : ℚ := 85
  filesystemDegradedPercent : ℚ := 85
  filesystemCriticalPercent : ℚ := 95
  conntrackDegradedPercent : ℚ := 85
  conntrackCriticalPercent : ℚ := 95
  fileHandlesDegradedPercent : ℚ := 85
  fileHandlesCriticalPercent : ℚ := 95
  recentEventSeconds : Int := 3600

/-- The key of a metric. -/
def SnapshotMetric.key (m : SnapshotMetric) : String × String × String :=
  (m.entityType, m.entityId, m.metricName)

/-- `details.get(key, "")`. -/
def detail (key : String) (details : List (String × String)) : String := (details.lookup key).getD ""

namespace Snapshot

/-- `_metric_map`. -/
def metricMap (snapshot : Snapshot) : List SnapshotMetric :=
  dictionary SnapshotMetric.key snapshot.metrics

/-- `metrics.get((entity_type, entity_id, metric_name))`. -/
def metric (snapshot : Snapshot) (entityType entityId metricName : String) : Option SnapshotMetric :=
  find SnapshotMetric.key (entityType, entityId, metricName) snapshot.metricMap

/-- The entities of the tunnels. -/
def tunnelEntities (snapshot : Snapshot) : List SnapshotEntity :=
  snapshot.entities.filter (·.entityType = "tunnel")

/-- `_required_services`: the services that tunnels name, each once. -/
def requiredServices (snapshot : Snapshot) : List String :=
  ((snapshot.tunnelEntities.map fun entity => detail "service" entity.metadata).filter (· ≠ "")).dedup

/-- `current_tunnels` of `_required_event_codes`: when a tunnel was updated. -/
def currentTunnel (snapshot : Snapshot) (tunnel : String) : Option Int :=
  (find SnapshotEntity.entityId tunnel (dictionary SnapshotEntity.entityId snapshot.tunnelEntities)).map
    (·.updatedAt)

end Snapshot

/-- `_unavailable`. -/
def isUnavailable : Option SnapshotMetric → Bool
  | none => true
  | some m => m.quality = .unavailable || m.stale

/-! ## Events -/

/-- What is known of the events that were looked at, newest first: the codes of incidents, and what the
newest event of its kind has settled. -/
structure Incidents where
  codes : List String := []
  resolved : List (String × String) := []

namespace Incidents

/-- An event settles its kind; if it is active, its code is that of an incident. -/
def settle (incidents : Incidents) (identity : String × String) (active : Bool) (code : String) :
    Incidents where
  codes := if active then incidents.codes ++ [code] else incidents.codes
  resolved := identity :: incidents.resolved

/-- An incident that nothing settles. -/
def add (incidents : Incidents) (code : String) : Incidents :=
  { incidents with codes := incidents.codes ++ [code] }

end Incidents

/-- `paired`: the codes that begin and end an incident. -/
def paired : List (String × String × Bool) :=
  [("listener_disappeared", "listener", true), ("listener_returned", "listener", false),
    ("metric_source_unavailable", "source", true), ("metric_source_available", "source", false),
    ("collection_failed", "collection", true), ("collection_recovered", "collection", false),
    ("wal_checkpoint_failed", "checkpoint", true), ("wal_checkpoint_recovered", "checkpoint", false),
    ("database_retention_failed", "retention", true), ("database_retention_recovered", "retention", false),
    ("env_parse_error", "managed_env", true), ("env_parse_recovered", "managed_env", false)]

/-- The severities from `warning` on. -/
def severe (severity : String) : Bool :=
  ["warning", "error", "critical"].contains severity.toLower

namespace Snapshot

/-- An event that is too old, or about a tunnel, a service or a source that is not looked at. -/
def skipsEvent (snapshot : Snapshot) (now : Int) (policy : HealthPolicy) (event : SnapshotEvent) : Bool :=
  let service := detail "service" event.details
  let source := detail "source" event.details
  let tunnel := detail "tunnel_id" event.details
  policy.recentEventSeconds < now - event.ts ||
  (tunnel != "" && (snapshot.currentTunnel tunnel).all fun updatedAt => event.ts < updatedAt) ||
  (service != "" && !snapshot.requiredServices.contains service) ||
  (["metric_source_unavailable", "metric_source_available"].contains event.code && source != "" &&
    !(["proc_stat", "proc_meminfo", "filesystem:/"].contains source) &&
    !snapshot.requiredServices.any fun required => decide (required.toList <:+: source.toList))

/-- A metric that has exactly seen the value 1 since an event. -/
def sinceObserved (m : Option SnapshotMetric) (event : SnapshotEvent) : Bool :=
  m.any fun m => m.quality = .exact && m.numericValue = some 1 && event.ts ≤ m.ts

/-- The branch for `service_state_changed`. -/
def serviceStateChanged (snapshot : Snapshot) (event : SnapshotEvent) (incidents : Incidents) : Incidents :=
  let service := detail "service" event.details
  let identity := ("service", if service = "" then "unknown" else service)
  if identity ∈ incidents.resolved then incidents
  else
    let active := severe event.severity &&
      ["failed", "inactive"].contains (detail "current" event.details).toLower
    incidents.settle identity
      (active && !sinceObserved (snapshot.metric "service" service "service_active") event) event.code

/-- The branch for the codes of `paired`. -/
def pairedEvent (snapshot : Snapshot) (event : SnapshotEvent) (family : String) (active : Bool)
    (incidents : Incidents) : Incidents :=
  let service := detail "service" event.details
  let source := detail "source" event.details
  let tunnel := detail "tunnel_id" event.details
  let identity := (family, if tunnel ≠ "" then tunnel else if service ≠ "" then service
    else if source ≠ "" then source else (event.details.lookup "path").getD "global")
  if identity ∈ incidents.resolved then incidents
  else if family = "managed_env" then
    incidents.settle identity (active && snapshot.invalidManagedEnvSources ≠ []) "managed_env_invalid"
  else
    let returned := family = "listener" && tunnel != "" &&
      sinceObserved (snapshot.metric "tunnel" tunnel "listener_ownership_exact") event
    incidents.settle identity (active && !returned) event.code

/-- One turn of the loop in `_required_event_codes`. -/
def lookAt (snapshot : Snapshot) (now : Int) (policy : HealthPolicy) (incidents : Incidents)
    (event : SnapshotEvent) : Incidents :=
  if snapshot.skipsEvent now policy event then incidents
  else if event.code = "service_state_changed" then snapshot.serviceStateChanged event incidents
  else match paired.lookup event.code with
    | some (family, active) => snapshot.pairedEvent event family active incidents
    | none =>
      if event.code = "pid_replaced" || severe event.severity then incidents.add event.code else incidents

/-- `_required_event_codes`. -/
def requiredEventCodes (snapshot : Snapshot) (now : Int) (policy : HealthPolicy) : List String :=
  let events := snapshot.healthEvents.insertionSort fun event event' => event'.ts ≤ event.ts
  (events.foldl (snapshot.lookAt now policy) {}).codes ++
    if snapshot.invalidManagedEnvSources ≠ [] then ["managed_env_invalid"] else []

end Snapshot

/-! ## Results -/

/-- The statuses. -/
inductive Status where
  | healthy | degraded | unknown | critical | down
  deriving DecidableEq

/-- `rank.get(status, 0)`. -/
def Status.rank : Status → Nat
  | .healthy | .down => 0
  | .degraded => 1
  | .unknown => 2
  | .critical => 3

/-- `if status == "healthy": status = "degraded"`. -/
def Status.lower (status : Status) : Status := if status = .healthy then .degraded else status

/-- `if rank[candidate] > rank[status]: status = candidate`. -/
def Status.max (status candidate : Status) : Status :=
  if status.rank < candidate.rank then candidate else status

/-- `HealthResult`, with the codes and the texts of the reasons in pairs. -/
structure HealthResult where
  status : Status
  reasons : List (String × String)
  evaluatedAt : Int
  dataAgeSeconds : Option Int
  sourceQuality : Quality
  entityType : String
  entityId : String

section Evaluation

variable (percent : ℚ → String)

/-- `_threshold_status`. -/
def thresholdStatus (m : Option SnapshotMetric) (degraded critical : ℚ) (code : String) :
    Option (Status × String × String) :=
  match m.bind (·.numericValue) with
  | none => none
  | some value =>
    if critical ≤ value then
      if (m.map (·.quality)).any fun quality => quality = .exact || quality = .derived then
        some (.critical, code ++ "_critical", code ++ " is critically high (" ++ percent value ++ "%)")
      else
        some (.degraded, code ++ "_estimated_high", code ++ " estimate is high (" ++ percent value ++ "%)")
    else if degraded ≤ value then
      some (.degraded, code ++ "_degraded", code ++ " is high (" ++ percent value ++ "%)")
    else none

namespace Snapshot

/-- The metrics that the node is not judged without. -/
def required (snapshot : Snapshot) : List (Option SnapshotMetric) :=
  [snapshot.metric "host" "local" "cpu_utilization_percent",
    snapshot.metric "host" "local" "memory_used_percent",
    snapshot.metric "filesystem" "fs:/" "filesystem_used_percent"]

/-- `checks` of `evaluate_node`: the metrics with their thresholds. -/
def checks (snapshot : Snapshot) (policy : HealthPolicy) :
    List (Option SnapshotMetric × ℚ × ℚ × String) :=
  [(snapshot.metric "host" "local" "cpu_utilization_percent", policy.cpuDegradedPercent, 101, "cpu"),
    (snapshot.metric "host" "local" "memory_used_percent", policy.memoryDegradedPercent, 101, "memory"),
    (snapshot.metric "filesystem" "fs:/" "filesystem_used_percent", policy.filesystemDegradedPercent,
      policy.filesystemCriticalPercent, "filesystem"),
    (snapshot.metric "host" "local" "conntrack_utilization_percent", policy.conntrackDegradedPercent,
      policy.conntrackCriticalPercent, "conntrack"),
    (snapshot.metric "host" "local" "file_handles_utilization_percent", policy.fileHandlesDegradedPercent,
      policy.fileHandlesCriticalPercent, "file_handles")]

/-- What the thresholds say. -/
def exceeded (snapshot : Snapshot) (policy : HealthPolicy) : List (Status × String × String) :=
  (snapshot.checks policy).filterMap fun check => thresholdStatus percent check.1 check.2.1 check.2.2.1
    check.2.2.2

/-- The codes of the incidents that lower the health of the node. -/
def incidentCodes : List String :=
  ["metric_source_unavailable", "service_state_changed", "pid_replaced", "collection_failed",
    "database_retention_failed", "wal_checkpoint_failed", "listener_disappeared", "sampling_gap"]

/-- The status of a node whose last cycle is fine, and the reasons. -/
def observedNode (snapshot : Snapshot) (now : Int) (policy : HealthPolicy) :
    Status × List (String × String) :=
  let exceeded := snapshot.exceeded percent policy
  let status := (exceeded.map Prod.fst).foldl Status.max .healthy
  let missing := snapshot.required.any isUnavailable
  let status := if missing then (if status = .critical then status else .unknown) else status
  let codes := snapshot.requiredEventCodes now policy
  let incident := codes.any incidentCodes.contains
  let status := if incident then status.lower else status
  let invalid := codes.contains "managed_env_invalid"
  let status := if invalid then status.lower else status
  let status := if snapshot.healthEventsTruncated then status.lower else status
  let reasons := exceeded.map Prod.snd ++
    (if missing then
      [("required_data_unavailable", "Required host utilization data is unavailable")] else []) ++
    (if incident then
      [("recent_monitoring_event", "A recent service or source transition was recorded")] else []) ++
    (if invalid then
      [("managed_env_invalid", "A managed tunnel environment source is malformed")] else []) ++
    (if snapshot.healthEventsTruncated then
      [("health_event_overflow", "Health event volume exceeded the bounded evaluation window")] else [])
  (status, if reasons = [] then
    [("observations_current", "Current observations are within configured thresholds")] else reasons)

/-- The metrics of the host in `evaluate_node`. -/
def hostMetrics (snapshot : Snapshot) : List SnapshotMetric :=
  snapshot.metricMap.filter fun m => ["host", "filesystem"].contains m.entityType &&
    ["local", "fs:/", "fs:/var/lib/gost-manager"].contains m.entityId

/-- `evaluate_node`. -/
def evaluateNode (snapshot : Snapshot) (now : Int) (policy : HealthPolicy) : HealthResult :=
  match snapshot.cycle with
  | none =>
    { status := .unknown
      reasons := [("no_data", "No collector cycle is available")]
      evaluatedAt := now
      dataAgeSeconds := none
      sourceQuality := .unavailable
      entityType := "node"
      entityId := "local" }
  | some cycle =>
    let age := max 0 (now - cycle.collectedAt)
    let result := fun status reasons quality =>
      { status
        reasons
        evaluatedAt := now
        dataAgeSeconds := some age
        sourceQuality := quality
        entityType := "node"
        entityId := "local" : HealthResult }
    if policy.staleAfterSeconds < age then
      result .unknown [("stale_data", "Latest sample is " ++ toString age ++ "s old")] .unavailable
    else if !cycle.success then
      result .critical [("collector_cycle_failed", "Latest collector cycle failed")] .exact
    else
      let observed := snapshot.observedNode percent now policy
      result observed.1 observed.2 (worstQuality (snapshot.hostMetrics.map (·.quality)))

/-- The metrics of each entity of a type. -/
def grouped (snapshot : Snapshot) (entityType : String) : List (String × List SnapshotMetric) :=
  let metrics := snapshot.metricMap.filter (·.entityType = entityType)
  (dictionary id (metrics.map (·.entityId))).map fun entityId =>
    (entityId, metrics.filter (·.entityId = entityId))

end Snapshot

end Evaluation

/-- `by_name.get(metric_name)`. -/
def byName (values : List SnapshotMetric) (metricName : String) : Option SnapshotMetric :=
  find SnapshotMetric.metricName metricName (dictionary SnapshotMetric.metricName values)

/-- `metric.get("quality") == "exact"`. -/
def isExact (m : Option SnapshotMetric) : Bool := m.any (·.quality = .exact)

/-- `float(metric.get("numeric_value") or 0)`. -/
def number (m : Option SnapshotMetric) : ℚ := (m.bind (·.numericValue)).getD 0

/-- The status and the reason of a service in `evaluate_services`. -/
def serviceVerdict (values : List SnapshotMetric) : Status × String × String :=
  let active := byName values "service_active"
  let listener := byName values "listener_owned_count"
  let process := byName values "process_rss_bytes"
  if isUnavailable active then
    (.unknown, "service_state_unavailable", "Service state is unavailable")
  else if !isExact active then
    (.unknown, "service_state_not_authoritative", "Service state is not authoritative")
  else if number active = 0 then (.down, "service_inactive", "Service is inactive")
  else if isUnavailable process then
    (.unknown, "process_snapshot_unavailable", "Process snapshot is unavailable")
  else if isUnavailable listener || !isExact listener then
    (.unknown, "listener_ownership_unavailable", "Listener ownership is unavailable")
  else if number listener = 0 then
    (.down, "required_listener_missing", "No listener is owned by the active service")
  else (.healthy, "service_observed", "Service is active and observations are current")

/-- The status and the reason of a tunnel in `evaluate_tunnels`. -/
def tunnelVerdict (values : List SnapshotMetric) : Status × String × String :=
  let ownership := byName values "listener_ownership_exact"
  let active := byName values "service_active"
  if isUnavailable active then
    (.unknown, "service_state_unavailable", "Tunnel service state is unavailable")
  else if isExact active && number active = 0 then
    (.down, "service_inactive", "Tunnel service is inactive")
  else if !isExact active then
    (.unknown, "service_state_not_authoritative", "Tunnel service state is not authoritative")
  else if isUnavailable ownership || !isExact ownership then
    (.unknown, "listener_ownership_unavailable", "Listener ownership is unavailable")
  else if number ownership = 0 then (.down, "listener_missing", "Configured tunnel listener is missing")
  else (.healthy, "tunnel_observed", "Tunnel listener and service are observed")

/-- The result of an entity with metrics. -/
def entityResult (verdict : List SnapshotMetric → Status × String × String) (now : Int)
    (entityType : String) (entity : String × List SnapshotMetric) : HealthResult where
  status := (verdict entity.2).1
  reasons := [(verdict entity.2).2]
  evaluatedAt := now
  dataAgeSeconds := ((entity.2.map (·.ts)).max?).map fun latestTs => max 0 (now - latestTs)
  sourceQuality := worstQuality (entity.2.map (·.quality))
  entityType
  entityId := entity.1

namespace Snapshot

/-- `evaluate_services`. The order in which a set gives the services without metrics is left open; here it is
that of the entities. -/
def evaluateServices (snapshot : Snapshot) (now : Int) : List HealthResult :=
  let results := (snapshot.grouped "service").map (entityResult serviceVerdict now "service")
  results ++
    if snapshot.currentMembershipAuthoritative then
      (snapshot.requiredServices.filter fun service => !(results.map (·.entityId)).contains service).map
        fun service =>
        { status := .unknown
          reasons := [("service_data_unavailable", "Required service observations are unavailable")]
          evaluatedAt := now
          dataAgeSeconds := none
          sourceQuality := .unavailable
          entityType := "service"
          entityId := service }
    else []

/-- `evaluate_tunnels`. -/
def evaluateTunnels (snapshot : Snapshot) (now : Int) : List HealthResult :=
  (snapshot.grouped "tunnel").map (entityResult tunnelVerdict now "tunnel")

end Snapshot

/-- The text of a status. -/
def Status.text : Status → String
  | .healthy => "healthy"
  | .degraded => "degraded"
  | .unknown => "unknown"
  | .critical => "critical"
  | .down => "down"

/-- What `evaluate_snapshot` returns. -/
structure Evaluation where
  overall : HealthResult
  /-- The services, and whether they are required. -/
  services : List (HealthResult × Bool)
  tunnels : List HealthResult

/-- One turn of the loop in `evaluate_snapshot` over the results of entities. -/
def raiseBy (entityType title : String) (overall : Status × List (String × String))
    (result : HealthResult) : Status × List (String × String) :=
  (overall.1.max (if result.status = .down then .critical else result.status),
    if result.status = .healthy then overall.2
    else overall.2 ++ [(entityType ++ "_" ++ result.status.text,
      title ++ " " ++ result.entityId ++ " is " ++ result.status.text)])

/-- `evaluate_snapshot`. -/
def evaluateSnapshot (percent : ℚ → String) (snapshot : Snapshot) (policy : HealthPolicy) : Evaluation :=
  let now := snapshot.generatedAt
  let node := snapshot.evaluateNode percent now policy
  let services := snapshot.evaluateServices now
  let tunnels := snapshot.evaluateTunnels now
  let required := services.filter fun result => snapshot.requiredServices.contains result.entityId
  let overall := required.foldl (raiseBy "service" "Service") (node.status, node.reasons)
  let overall := tunnels.foldl (raiseBy "tunnel" "Tunnel") overall
  let reasons := if (required ++ tunnels).any (·.status ≠ .healthy) then
      overall.2.filter (·.1 ≠ "observations_current")
    else overall.2
  { overall := { node with status := overall.1, reasons }
    services := services.map fun result => (result, snapshot.requiredServices.contains result.entityId)
    tunnels }

/-! ## What healthy stands for -/

/-- A metric is below a bound, if it has a value. -/
def Below (bound : ℚ) (m : Option SnapshotMetric) : Prop :=
  ∀ value ∈ m.bind (·.numericValue), value < bound

/-- A metric that is available, fresh and below a bound. -/
def SeenBelow (bound : ℚ) (m : Option SnapshotMetric) : Prop :=
  isUnavailable m = false ∧ ∃ value ∈ m.bind (·.numericValue), value < bound

/-- A fresh metric that was measured exactly, with such a value. -/
def Exactly (p : ℚ → Prop) (m : Option SnapshotMetric) : Prop :=
  isUnavailable m = false ∧ isExact m = true ∧ ∃ value ∈ m.bind (·.numericValue), p value

namespace Snapshot

section Healthy

variable (percent : ℚ → String) (snapshot : Snapshot) (policy : HealthPolicy)

/-- What an overall status `healthy` promises of a snapshot. -/
structure Sound : Prop where
  cycle : ∃ cycle ∈ snapshot.cycle, cycle.success = true ∧
    snapshot.generatedAt - cycle.collectedAt ≤ policy.staleAfterSeconds
  cpu : SeenBelow policy.cpuDegradedPercent (snapshot.metric "host" "local" "cpu_utilization_percent")
  memory : SeenBelow policy.memoryDegradedPercent (snapshot.metric "host" "local" "memory_used_percent")
  filesystem : SeenBelow policy.filesystemDegradedPercent
    (snapshot.metric "filesystem" "fs:/" "filesystem_used_percent")
  conntrack : Below policy.conntrackDegradedPercent
    (snapshot.metric "host" "local" "conntrack_utilization_percent")
  fileHandles : Below policy.fileHandlesDegradedPercent
    (snapshot.metric "host" "local" "file_handles_utilization_percent")
  services : ∀ service ∈ snapshot.requiredServices,
    (∃ result ∈ (evaluateSnapshot percent snapshot policy).services,
      result.1.entityId = service ∧ result.1.status = .healthy) ∧
    Exactly (· ≠ 0) (snapshot.metric "service" service "service_active") ∧
    Exactly (0 < ·) (snapshot.metric "service" service "listener_owned_count")
  tunnels : ∀ entity ∈ snapshot.tunnelEntities,
    (∃ result ∈ (evaluateSnapshot percent snapshot policy).tunnels,
      result.entityId = entity.entityId ∧ result.status = .healthy) ∧
    Exactly (· ≠ 0) (snapshot.metric "tunnel" entity.entityId "service_active") ∧
    Exactly (· ≠ 0) (snapshot.metric "tunnel" entity.entityId "listener_ownership_exact")
  incidents : ∀ code ∈ incidentCodes, code ∉ snapshot.requiredEventCodes snapshot.generatedAt policy
  environment : snapshot.invalidManagedEnvSources = []
  events : snapshot.healthEventsTruncated = false

/-- What an overall status `healthy` rests on: of the observations that are there, none is bad. -/
structure Observed : Prop where
  cycle : ∃ cycle ∈ snapshot.cycle, cycle.success = true ∧
    max 0 (snapshot.generatedAt - cycle.collectedAt) ≤ policy.staleAfterSeconds
  required : ∀ m ∈ snapshot.required, isUnavailable m = false
  checks : ∀ check ∈ snapshot.checks policy, Below check.2.1 check.1 ∧ Below check.2.2.1 check.1
  services : ∀ service ∈ snapshot.requiredServices,
    Exactly (· ≠ 0) (snapshot.metric "service" service "service_active") ∧
    isUnavailable (snapshot.metric "service" service "process_rss_bytes") = false ∧
    Exactly (· ≠ 0) (snapshot.metric "service" service "listener_owned_count")
  tunnels : ∀ m ∈ snapshot.metrics, m.entityType = "tunnel" →
    Exactly (· ≠ 0) (snapshot.metric "tunnel" m.entityId "service_active") ∧
    Exactly (· ≠ 0) (snapshot.metric "tunnel" m.entityId "listener_ownership_exact")
  incidents : ∀ code ∈ "managed_env_invalid" :: incidentCodes,
    code ∉ snapshot.requiredEventCodes snapshot.generatedAt policy
  events : snapshot.healthEventsTruncated = false

/-- Nothing that is required is missing without a trace: the utilisation that is required has values, each
tunnel has a metric, and no service is said to own less than no listener. -/
structure Traced : Prop where
  required : ∀ m ∈ snapshot.required, (m.bind (·.numericValue)).isSome = true
  tunnels : ∀ entity ∈ snapshot.tunnelEntities,
    ∃ m ∈ snapshot.metrics, m.entityType = "tunnel" ∧ m.entityId = entity.entityId
  listeners : ∀ service ∈ snapshot.requiredServices,
    ∀ value ∈ (snapshot.metric "service" service "listener_owned_count").bind (·.numericValue), 0 ≤ value

end Healthy

end Snapshot

end Monitoring.Health
