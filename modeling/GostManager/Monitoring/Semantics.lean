import Mathlib.Data.List.Basic

/-!
# Monitoring: what statistics a metric has

`monitoring/metric_semantics.py`.
-/

namespace Monitoring

/-- The category of a metric. -/
inductive MetricCategory where
  | gauge | rate | cumulativeCounter | categorical | identity | timestamp | unknown
  deriving DecidableEq, Repr

/-- `MetricSemantics`. -/
structure MetricSemantics where
  category : MetricCategory
  supportsRange : Bool := false
  supportsAverage : Bool := false
  supportsP95 : Bool := false
  supportsTransitions : Bool := false
  deriving DecidableEq, Repr

namespace MetricSemantics

/-- `STATISTICAL`. -/
def statistical : MetricSemantics := ⟨.gauge, true, true, true, false⟩

/-- `RATE_STATISTICAL`. -/
def rateStatistical : MetricSemantics := ⟨.rate, true, true, true, false⟩

/-- `COUNTER`. -/
def counter : MetricSemantics := { category := .cumulativeCounter }

/-- `STATE`. -/
def state : MetricSemantics := { category := .categorical, supportsTransitions := true }

/-- `IDENTIFIER`. -/
def identifier : MetricSemantics := { category := .identity, supportsTransitions := true }

/-- `TIME_VALUE`. -/
def timeValue : MetricSemantics := { category := .timestamp, supportsTransitions := true }

/-- `CONSERVATIVE`. -/
def conservative : MetricSemantics := { category := .unknown }

end MetricSemantics

/-- `_CATEGORICAL_NAMES`. -/
def categoricalNames : List String :=
  ["checkpoint_success", "cycle_status", "env_source_valid", "listener_ownership_exact", "service_active"]

/-- `_IDENTITY_NAMES`. -/
def identityNames : List String := ["service_main_pid", "service_start_monotonic_us"]

/-- `_CUMULATIVE_NAMES`, and the counters of the interfaces. -/
def cumulativeNames : List String :=
  ["cpu_jiffies_total", "overrun_count", "service_restart_count", "source_errors_total",
    "tcp_abort_on_data", "tcp_abort_on_memory", "tcp_active_opens", "tcp_attempt_failures",
    "tcp_established_resets", "tcp_listen_drops", "tcp_listen_overflows", "tcp_outbound_resets",
    "tcp_passive_opens", "tcp_retransmitted_segments", "tcp_timeouts",
    "rx_bytes", "rx_packets", "rx_errors", "rx_drops", "tx_bytes", "tx_packets", "tx_errors", "tx_drops"]

/-- `_CUMULATIVE_SUFFIXES`. -/
def cumulativeSuffixes : List String :=
  ["_cpu_ticks", "_io_time_ms", "_jiffies", "_read_bytes", "_reads_completed", "_written_bytes",
    "_writes_completed"]

/-- `_GAUGE_NAMES`, and the names that `classify_metric` lists itself. -/
def gaugeNames : List String :=
  ["conntrack_count", "conntrack_max", "cpu_logical_count", "events_written", "file_handles_allocated",
    "file_handles_max", "metrics_written", "missed_deadlines", "rows_write_attempted",
    "source_error_codes", "source_errors", "target_count", "tunnels_discovered",
    "load1", "load5", "load15",
    "configured_listener_count", "observed_listener_count", "listener_owned_count",
    "established_remote_sockets", "process_count", "process_threads", "service_tasks"]

/-- `_GAUGE_SUFFIXES` and `_GAUGE_COUNT_SUFFIXES`, and `_percent`. -/
def gaugeSuffixes : List String :=
  ["_current_bytes", "_duration_seconds", "_free_bytes", "_hard_limit", "_max", "_open_fds",
    "_peak_bytes", "_rss_bytes", "_rss_anon_bytes", "_rss_file_bytes", "_size_bytes", "_soft_limit",
    "_state_estab", "_state_syn_recv", "_state_syn_sent", "_state_close_wait", "_state_time_wait",
    "_tasks", "_threads", "_total_bytes", "_used_bytes",
    "_listener_count", "_listener_owned_count", "_process_count", "_socket_count", "_sockets_total",
    "_percent"]

/-- The beginnings of the names of gauges. -/
def gaugeBeginnings : List String :=
  ["filesystem_", "memory_", "swap_", "cgroup_memory_", "tcp_state_"]

/-- `str.startswith`. -/
def startsWith (name beginning : String) : Bool := beginning.toList.isPrefixOf name.toList

/-- `str.endswith`. -/
def endsWith (name ending : String) : Bool := ending.toList.isSuffixOf name.toList

/-- `classify_metric`. -/
def classifyMetric (metricName unit : String) : MetricSemantics :=
  if unit = "state" ∨ unit = "text" then .state
  else if unit = "endpoint" then .identifier
  else if unit = "boolean" ∨ metricName ∈ categoricalNames then .state
  else if unit = "pid" ∨ metricName ∈ identityNames ∨ endsWith metricName "_pid" then .identifier
  else if unit = "unix_seconds" ∨ endsWith metricName "_timestamp" then .timeValue
  else if endsWith metricName "_per_second" ∨ unit = "B/s" ∨ unit = "pps" ∨ unit = "ops/s" then
    .rateStatistical
  else if metricName ∈ cumulativeNames ∨
      startsWith metricName "cpu_" ∧ endsWith metricName "_jiffies" ∨
      startsWith metricName "systemd_ip_" ∧ endsWith metricName "_bytes" ∨
      cumulativeSuffixes.any (endsWith metricName) then .counter
  else if metricName ∈ gaugeNames ∨ gaugeSuffixes.any (endsWith metricName) ∨
      gaugeBeginnings.any (startsWith metricName) then .statistical
  else .conservative

end Monitoring
