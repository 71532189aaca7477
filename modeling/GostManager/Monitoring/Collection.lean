import GostManager.Monitoring.ServiceReaders

/-!
# Monitoring: the metrics of a cycle

What `collect_once` reads from the kernel, the control groups and `systemctl`, and which metrics come out of
it: `_capture_raw`, `_network_metrics`, `_storage_metrics` and `_service_and_tunnel_metrics`. The metrics of
the host, the file systems, the sockets, the tunnels and the collector itself have names of their own and are
left out.
-/

namespace Monitoring.Readers

open Lists Texts

/-- What a cycle reads. -/
structure Sources where
  digits : Digits
  netDev : Except Raised Text
  /-- The files of an interface in `/sys/class/net`. -/
  netLink : String → String → Except Raised Text
  snmp : Except Raised Text
  netstat : Except Raised Text
  diskstats : Except Raised Text
  /-- The managed services, as `discover_managed_services` has found them. -/
  services : List String
  services_nodup : services.Nodup
  services_named : ∀ service ∈ services, service ≠ ""
  systemctlShow : String → Except Raised Text
  cgroupFile : List Text → Except Raised Text
  procStat : Int → Except Raised Text
  procStatus : Int → Except Raised Text
  procLimits : Int → Except Raised Text
  procFds : Int → Except Raised Nat
  pageSize : Nat
  ticksPerSecond : Int
  maxGap : Option ℚ
  slowSourcesDue : Bool
  /-- An exception in what else the collector does, which loses its metrics. -/
  networkRaises : Bool
  storageRaises : Bool
  serviceRaises : String → Bool

/-- What earlier cycles have left in the table of states. -/
structure Previous where
  interfaces : List InterfaceCounters
  interfacesElapsed : Option ℚ
  tcp : Option (List (String × Int))
  tcpElapsed : Option ℚ
  disks : List DiskCounters
  disksElapsed : Option ℚ
  process : String → Option ServiceProcessSnapshot
  processElapsed : String → Option ℚ
  /-- `process_slow_cache`: the identity of the processes, and their values. -/
  processSlow : String → Option (List (Int × Int) × SlowValues)
  /-- `cgroup_memory_cache`: the control group, the identity of the processes, and their memory. -/
  cgroupMemory : String → Option (Text × Text × CgroupMemory)

/-! ## Capture -/

/-- `ServicePidSet`. -/
structure ServicePidSet where
  pids : List Int
  authoritative : Bool

/-- What is read of a service. -/
structure ServiceCapture where
  properties : Properties
  pidSet : ServicePidSet
  fast : List ProcessSnapshot
  slow : List ProcessSlowSnapshot
  cgroupMemory : Option CgroupMemory

namespace Sources

/-- `read_properties`. -/
def readProperties (s : Sources) (service : String) : Except Raised Properties := do
  let properties := parseSystemdProperties (← s.systemctlShow service)
  if properties = [] then .error (.osError "systemd properties unavailable") else .ok properties

/-- The processes of a control group. -/
def cgroupPids (s : Sources) (controlGroup : Text) (mainPid : Int) : Except Raised (List Int) := do
  let pids ← readCgroupPids s.digits controlGroup s.cgroupFile
  if pids = [] ∧ 0 < mainPid then .error (.osError "active cgroup has no processes") else .ok pids

/-- The processes of a service. -/
def servicePids (s : Sources) (controlGroup : Text) (mainPid : Int) : ServicePidSet :=
  let fallback := if 0 < mainPid then [mainPid] else []
  if controlGroup = [] then ⟨fallback, false⟩
  else match s.cgroupPids controlGroup mainPid with
    | .error _ => ⟨fallback, false⟩
    | .ok [] => ⟨fallback, true⟩
    | .ok pids => ⟨pids, true⟩

/-- `read_process_fast_snapshot`. -/
def readProcessFast (s : Sources) (pid : Int) : Except Raised ProcessSnapshot := do
  parseProcessStat s.digits (← s.procStat pid) s.pageSize

/-- `read_process_slow_snapshot`. -/
def readProcessSlow (s : Sources) (pid : Int) : Except Raised ProcessSlowSnapshot :=
  readProcessSlowSnapshot s.digits pid (s.procStatus pid) (s.procLimits pid) (s.procFds pid)

/-- `read_cgroup`. -/
def readCgroup (s : Sources) (controlGroup : Text) : Except Raised CgroupMemory := do
  let memory ← readCgroupMemory s.digits controlGroup s.cgroupFile
  if memory.memoryCurrent = none ∧ memory.memoryPeak = none then
    .error (.osError "cgroup memory unavailable")
  else .ok memory

/-- The service in `_capture_raw`. Each read is isolated; `int(pid_raw)` is not. -/
def captureService (s : Sources) (service : String) : Except Raised (Option ServiceCapture) :=
  match s.readProperties service with
  | .error _ => .ok none
  | .ok properties => do
    let mainPid := (← intProperty s.digits properties "MainPID").getD 0
    let controlGroup := properties.getD "ControlGroup"
    let pidSet := s.servicePids controlGroup mainPid
    .ok (some {
      properties
      pidSet
      fast := pidSet.pids.filterMap fun pid => (s.readProcessFast pid).toOption
      slow := if s.slowSourcesDue then pidSet.pids.filterMap fun pid => (s.readProcessSlow pid).toOption
        else []
      cgroupMemory := if controlGroup ≠ [] ∧ s.slowSourcesDue then (s.readCgroup controlGroup).toOption
        else none })

/-! ## Interfaces, TCP and disks -/

/-- The interfaces, as they are captured. -/
def interfaces (s : Sources) : Except Raised (List InterfaceCounters) := do
  parseNetDev s.digits (← s.netDev)

/-- The link of an interface, as it is captured. -/
def interfaceLink (s : Sources) (name : String) : InterfaceLink :=
  (readInterfaceLink s.digits (s.netLink name)).toOption.getD ⟨none, none, none, none⟩

/-- `_network_metrics`, for the interfaces. -/
def interfacesMetrics (s : Sources) (p : Previous) : List Metric :=
  match s.interfaces with
  | .error _ =>
    unavailable "net.external"
      (InterfaceField.all.flatMap fun field =>
        [(field.name, field.unit), (field.name ++ "_per_second", field.rateUnit)])
      "interface" "interface:external-total" [("interface", "external-total")]
  | .ok current =>
    (sortedBy InterfaceCounters.name current).flatMap (fun counters =>
      interfaceMetrics counters (find InterfaceCounters.name counters.name p.interfaces)
        p.interfacesElapsed (some (s.interfaceLink counters.name)) s.maxGap) ++
    interfaceMetrics (aggregateExternal current)
      (if p.interfaces = [] then none else some (aggregateExternal p.interfaces))
      p.interfacesElapsed none s.maxGap

/-- The counters of TCP in `_network_metrics`. -/
def currentTcp (s : Sources) : List (String × Int) :=
  let table := fun (file : Except Raised Text) required =>
    (do parseRequiredProtocolTable s.digits (← file) required : Except Raised _).toOption.getD []
  selectedTcpCounters (table s.snmp "Tcp") (table s.netstat "TcpExt")

/-- `_network_metrics`. -/
def networkMetrics (s : Sources) (p : Previous) : List Metric :=
  if s.networkRaises then []
  else s.interfacesMetrics p ++
    (tcpCounterMetrics s.currentTcp p.tcp p.tcpElapsed s.maxGap ++ missingTcpMetrics s.currentTcp)

/-- The disks in `_storage_metrics`. -/
def currentDisks (s : Sources) : List DiskCounters :=
  match s.diskstats with
  | .error _ => []
  | .ok text => sortedBy DiskCounters.name (parseDiskstats s.digits text)

/-- `_storage_metrics`. -/
def storageMetrics (s : Sources) (p : Previous) : List Metric :=
  if s.storageRaises then []
  else s.currentDisks.flatMap fun disk =>
    diskMetrics disk (find DiskCounters.name disk.name p.disks) p.disksElapsed s.maxGap

/-! ## Services -/

end Sources

/-- `PROCESS_METRIC_SPECS`. -/
def processMetricSpecs : List (String × String) :=
  [("process_count", "count"), ("process_cpu_ticks", "ticks"), ("process_cpu_percent", "percent"),
    ("process_rss_bytes", "bytes"), ("process_rss_anon_bytes", "bytes"), ("process_rss_file_bytes", "bytes"),
    ("process_threads", "count"), ("process_open_fds", "count"), ("process_fd_soft_limit", "count"),
    ("process_fd_hard_limit", "count")]

/-- `SERVICE_METRIC_SPECS`. -/
def serviceMetricSpecs : List (String × String) :=
  [("service_active", "boolean"), ("service_active_state", "state"), ("service_sub_state", "state"),
    ("service_main_pid", "pid"), ("service_start_monotonic_us", "microseconds"),
    ("service_restart_count", "count"), ("service_tasks", "count"), ("cgroup_memory_current_bytes", "bytes"),
    ("cgroup_memory_peak_bytes", "bytes"), ("systemd_ip_ingress_bytes", "bytes"),
    ("systemd_ip_egress_bytes", "bytes")] ++ processMetricSpecs ++
  [("listener_owned_count", "count"), ("established_sockets_total", "count")] ++
  ["estab", "syn_sent", "syn_recv", "fin_wait_1", "fin_wait_2", "close_wait", "time_wait"].map fun state =>
    ("tcp_state_" ++ state, "count")

/-- `_service_unavailable` and `_process_unavailable`. -/
def serviceUnavailable (specs : List (String × String)) (service : String) : List Metric :=
  unavailable "service" specs "service" service [("service", service)]

/-- `_process_identity`. -/
def processIdentity (startIdentity : Text) (snapshot : ServiceProcessSnapshot) : Text :=
  startIdentity ++ "|".toList ++ (",".intercalate (snapshot.identity.map fun member =>
    toString member.1 ++ ":" ++ toString member.2)).toList

namespace Sources

/-- `_process_slow_values`. -/
def processSlowValues (s : Sources) (p : Previous) (service : String) (current : ServiceProcessSnapshot)
    (slowComplete authoritative : Bool) : ServiceProcessSnapshot × Quality :=
  if s.slowSourcesDue then
    if slowComplete then (current, if authoritative then .exact else .estimated)
    else (current, .unavailable)
  else match p.processSlow service with
    | none => (current, .unavailable)
    | some (identity, values) =>
      if identity = current.identity then ({ current with slow := values }, .estimated)
      else (current, .unavailable)

/-- The processes of a service, if all of them could be read. -/
def serviceSnapshot (s : Sources) (p : Previous) (service : String) (c : ServiceCapture) :
    Except Raised (Option (ServiceProcessSnapshot × Quality)) :=
  if c.pidSet.pids ≠ [] ∧ c.fast.length = c.pidSet.pids.length then do
    let slowComplete := s.slowSourcesDue && c.slow.length = c.pidSet.pids.length
    let snapshot ← aggregateServiceProcesses c.fast (if slowComplete then c.slow else [])
    .ok (some (s.processSlowValues p service snapshot slowComplete c.pidSet.authoritative))
  else .ok none

/-- The metrics of the processes of a service. -/
def processMetrics (s : Sources) (p : Previous) (service : String) (authoritative : Bool)
    (snapshot : Option (ServiceProcessSnapshot × Quality)) : List Metric :=
  match snapshot with
  | none => serviceUnavailable processMetricSpecs service
  | some (snapshot, slowQuality) =>
    serviceProcessMetrics service snapshot (p.process service) (p.processElapsed service) s.ticksPerSecond
      s.maxGap authoritative slowQuality

/-- `_cgroup_memory_values`. -/
def cgroupMemoryValues (s : Sources) (p : Previous) (service : String) (controlGroup : Text)
    (identity : Option Text) (captured : Option CgroupMemory) : List Metric :=
  if s.slowSourcesDue then
    match captured with
    | none => []
    | some captured => cgroupMemoryMetrics service captured
  else
    match identity, p.cgroupMemory service with
    | some identity, some (cachedGroup, cachedIdentity, values) =>
      if cachedGroup = controlGroup ∧ cachedIdentity = identity then
        ((cgroupMemoryMetrics service values).filter fun m => m.value ≠ none).map fun m =>
          { m with quality := .estimated }
      else []
    | _, _ => []

/-- The service in `_service_and_tunnel_metrics`, within its savepoint. -/
def serviceEntity (s : Sources) (p : Previous) (service : String) (captured : Option ServiceCapture) :
    Except Raised (List Metric) :=
  match captured with
  | none => .ok (serviceUnavailable serviceMetricSpecs service)
  | some c => do
    let metrics ← serviceMetrics s.digits service c.properties
    let snapshot ← s.serviceSnapshot p service c
    let identity := snapshot.map fun snapshot =>
      processIdentity (c.properties.getD "ExecMainStartTimestampMonotonic") snapshot.1
    let controlGroup := c.properties.getD "ControlGroup"
    let memory := if controlGroup = [] then []
      else s.cgroupMemoryValues p service controlGroup identity c.cgroupMemory
    .ok (metrics ++ (s.processMetrics p service c.pidSet.authoritative snapshot ++ memory))

/-- The service in `_service_and_tunnel_metrics`. -/
def serviceEntityMetrics (s : Sources) (p : Previous) (service : String)
    (captured : Option ServiceCapture) : List Metric :=
  match s.serviceEntity p service captured with
  | .error _ => serviceUnavailable serviceMetricSpecs service
  | .ok metrics =>
    if s.serviceRaises service then serviceUnavailable serviceMetricSpecs service else metrics

/-! ## The cycle -/

/-- The metrics that `collect_once` passes to `insert_metric`. -/
def collectMetrics (s : Sources) (p : Previous) : Except Raised (List Metric) := do
  let services ← s.services.mapM fun service => do .ok (service, ← s.captureService service)
  .ok (deduplicateMetrics (s.storageMetrics p ++ (s.networkMetrics p ++
    services.flatMap fun service => s.serviceEntityMetrics p service.1 service.2)))

/-- The metrics that are stored, if the cycle is committed. -/
def collectOnce (s : Sources) (p : Previous) : Except Raised (List Metric) := do
  writeMetrics (← s.collectMetrics p)

end Sources

end Monitoring.Readers
