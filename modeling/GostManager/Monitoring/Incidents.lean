import GostManager.Lists.Firsts
import GostManager.Monitoring.Health

/-!
# Monitoring: incidents

What the events of a snapshot say of an incident: the newest event that counts tells whether it is still there.
-/

namespace Monitoring.Health

open Lists

/-- `HEALTH_EVENT_CODES`. -/
def healthEventCodes : List String :=
  ["collection_failed", "collection_recovered", "database_retention_failed", "database_retention_recovered",
    "wal_checkpoint_failed", "wal_checkpoint_recovered", "metric_source_unavailable", "metric_source_available",
    "service_state_changed", "pid_replaced", "listener_disappeared", "listener_returned", "sampling_gap",
    "env_parse_error", "env_parse_recovered"]

/-- Events as `health_events` returns them. -/
structure Returned (events : List SnapshotEvent) : Prop where
  sorted : events.Pairwise fun newer older => older.ts ≤ newer.ts
  codes : ∀ event ∈ events, event.code ∈ healthEventCodes

namespace SnapshotEvent

/-- The tunnel, service, source or path that an event is about. -/
def subject (event : SnapshotEvent) : String :=
  if detail "tunnel_id" event.details ≠ "" then detail "tunnel_id" event.details
  else if detail "service" event.details ≠ "" then detail "service" event.details
  else if detail "source" event.details ≠ "" then detail "source" event.details
  else (event.details.lookup "path").getD "global"

/-- The incident that an event belongs to: its family and what it is about. -/
def identity (event : SnapshotEvent) : Option (String × String) :=
  if event.code = "service_state_changed" then
    some ("service",
      if detail "service" event.details = "" then "unknown" else detail "service" event.details)
  else (paired.lookup event.code).map fun entry => (entry.1, event.subject)

/-- A service has gone to a state that is a failure. -/
def Fails (event : SnapshotEvent) : Prop :=
  severe event.severity = true ∧ (detail "current" event.details).toLower ∈ ["failed", "inactive"]

end SnapshotEvent

namespace Snapshot

/-- An event counts: it is recent, its tunnel exists and was not updated since, and its service and its source are
required. -/
structure Relevant (snapshot : Snapshot) (now : Int) (policy : HealthPolicy) (event : SnapshotEvent) : Prop where
  recent : now - event.ts ≤ policy.recentEventSeconds
  tunnel : detail "tunnel_id" event.details ≠ "" →
    ∃ updatedAt, snapshot.currentTunnel (detail "tunnel_id" event.details) = some updatedAt ∧
      updatedAt ≤ event.ts
  service : detail "service" event.details ≠ "" →
    detail "service" event.details ∈ snapshot.requiredServices
  source : event.code ∈ ["metric_source_unavailable", "metric_source_available"] →
    detail "source" event.details ≠ "" →
    detail "source" event.details ∈ ["proc_stat", "proc_meminfo", "filesystem:/"] ∨
      ∃ required ∈ snapshot.requiredServices, required.toList <:+: (detail "source" event.details).toList

/-- The newest event that counts for an incident. -/
def Newest (snapshot : Snapshot) (now : Int) (policy : HealthPolicy) (identity : String × String)
    (event : SnapshotEvent) : Prop :=
  ∃ newer older, snapshot.healthEvents = newer ++ event :: older ∧ snapshot.Relevant now policy event ∧
    event.identity = some identity ∧
    ∀ other ∈ newer, snapshot.Relevant now policy other → other.identity ≠ some identity

/-- A metric has exactly seen since that the listener is owned, or that the service is active. -/
def Overridden (snapshot : Snapshot) (event : SnapshotEvent) : Prop :=
  (event.code = "listener_disappeared" ∧ detail "tunnel_id" event.details ≠ "" ∧
    sinceObserved (snapshot.metric "tunnel" (detail "tunnel_id" event.details) "listener_ownership_exact")
      event = true) ∨
  (event.code = "service_state_changed" ∧
    sinceObserved (snapshot.metric "service" (detail "service" event.details) "service_active") event = true)

/-- The code of the incident that an event reports when it is the newest. -/
def reported (snapshot : Snapshot) (event : SnapshotEvent) : Option String :=
  if event.code = "service_state_changed" then
    if severe event.severity && ["failed", "inactive"].contains (detail "current" event.details).toLower &&
        !sinceObserved (snapshot.metric "service" (detail "service" event.details) "service_active") event then
      some event.code
    else none
  else match paired.lookup event.code with
    | some (family, active) =>
      if family = "managed_env" then
        if active && snapshot.invalidManagedEnvSources ≠ [] then some "managed_env_invalid" else none
      else
        let returned := family = "listener" && detail "tunnel_id" event.details != "" &&
          sinceObserved
            (snapshot.metric "tunnel" (detail "tunnel_id" event.details) "listener_ownership_exact") event
        if active && !returned then some event.code else none
    | none => if event.code = "pid_replaced" || severe event.severity then some event.code else none

end Snapshot

end Monitoring.Health
