import GostManager.Monitoring.CounterReaders

/-!
# Monitoring: readers of services

`monitoring/systemd_readers.py`, and the processes of `monitoring/proc_readers.py`: the properties of a
service, the memory of its control group and the counters of its processes.
-/

namespace Monitoring.Readers

open Lists Texts

/-! ## Properties -/

/-- The properties of a service. -/
abbrev Properties := List (Text × Text)

/-- `parse_systemd_properties`. -/
def parseSystemdProperties (text : Text) : Properties :=
  dictionary Prod.fst ((splitlines text).filterMap (splitOnce '='))

/-- `properties.get(key, "")`. -/
def Properties.getD (properties : Properties) (key : String) : Text := (properties.lookup key.toList).getD []

/-- `int(value) if value.isdigit() else None`. -/
def intIfDigits (digits : Digits) (value : Text) : Except Raised (Option Int) :=
  if isdigit digits value then some <$> pyInt digits value else .ok none

/-- `_int_property`. -/
def intProperty (digits : Digits) (properties : Properties) (key : String) : Except Raised (Option Int) :=
  intIfDigits digits (properties.getD key)

/-- A property that is read only with accounting. -/
def accountedProperty (digits : Digits) (properties : Properties) (key : String) :
    Except Raised (Option Int) :=
  if lower (properties.getD "IPAccounting") = "yes".toList then intProperty digits properties key
  else .ok none

/-- The metric of a service. -/
def serviceMetric (service name : String) (value : Option MetricValue) (unit : String) : Metric :=
  optionalMetric "service" name value unit [("service", service)] "service" service

/-- `service_metrics`. -/
def serviceMetrics (digits : Digits) (service : String) (properties : Properties) :
    Except Raised (List Metric) := do
  let active := properties.lookup "ActiveState".toList
  let substate := properties.lookup "SubState".toList
  let mainPid ← intProperty digits properties "MainPID"
  let start ← intProperty digits properties "ExecMainStartTimestampMonotonic"
  let restarts ← intProperty digits properties "NRestarts"
  let tasks ← intProperty digits properties "TasksCurrent"
  let memoryCurrent ← intProperty digits properties "MemoryCurrent"
  let memoryPeak ← intProperty digits properties "MemoryPeak"
  let ingress ← accountedProperty digits properties "IPIngressBytes"
  let egress ← accountedProperty digits properties "IPEgressBytes"
  .ok
    [serviceMetric service "service_active"
        (active.map fun active => .boolean (active = "active".toList)) "boolean",
      serviceMetric service "service_active_state" (active.map .text) "state",
      serviceMetric service "service_sub_state" (substate.map .text) "state",
      serviceMetric service "service_main_pid" (mainPid.map .integer) "pid",
      serviceMetric service "service_start_monotonic_us" (start.map .integer) "microseconds",
      serviceMetric service "service_restart_count" (restarts.map .integer) "count",
      serviceMetric service "service_tasks" (tasks.map .integer) "count",
      serviceMetric service "cgroup_memory_current_bytes" (memoryCurrent.map .integer) "bytes",
      serviceMetric service "cgroup_memory_peak_bytes" (memoryPeak.map .integer) "bytes",
      serviceMetric service "systemd_ip_ingress_bytes" (ingress.map .integer) "bytes",
      serviceMetric service "systemd_ip_egress_bytes" (egress.map .integer) "bytes"]

/-! ## Control groups -/

/-- The parts of a path, as `Path` takes it apart. -/
def pathParts (path : Text) : List Text :=
  (splitOn '/' (path.dropWhile (· = '/'))).filter fun part => part ≠ [] ∧ part ≠ ['.']

/-- The memory of a control group. -/
structure CgroupMemory where
  memoryCurrent : Option Int
  memoryPeak : Option Int

/-- `read_number` of `read_cgroup_memory`, of what the file holds. -/
def readNumber (digits : Digits) (file : Except Raised Text) : Except Raised (Option Int) :=
  match file with
  | .error (.osError _) => .ok none
  | .error raised => .error raised
  | .ok text => if strip text = "max".toList then .ok none else intIfDigits digits (strip text)

/-- `read_cgroup_memory`, where the files of the control groups are known by their parts. -/
def readCgroupMemory (digits : Digits) (controlGroup : Text) (read : List Text → Except Raised Text) :
    Except Raised CgroupMemory :=
  let relative := pathParts controlGroup
  if "..".toList ∈ relative then .error (.valueError "unsafe cgroup path")
  else do
    let memoryCurrent ← readNumber digits (read (relative ++ ["memory.current".toList]))
    let memoryPeak ← readNumber digits (read (relative ++ ["memory.peak".toList]))
    .ok {
      memoryCurrent
      memoryPeak }

/-- An entry of `cgroup.procs`. -/
def parsePid (digits : Digits) (value : Text) : Except Raised Int := do
  let pid ← intIfDigits digits value
  match pid with
  | none => .error (.valueError "invalid cgroup.procs entry")
  | some pid => if pid ≤ 0 then .error (.valueError "invalid cgroup.procs entry") else .ok pid

/-- `read_cgroup_pids`. -/
def readCgroupPids (digits : Digits) (controlGroup : Text) (read : List Text → Except Raised Text) :
    Except Raised (List Int) :=
  let relative := pathParts controlGroup
  if "..".toList ∈ relative then .error (.valueError "unsafe cgroup path")
  else do
    let text ← read (relative ++ ["cgroup.procs".toList])
    let pids ← (((splitlines text).map strip).filter (· ≠ [])).mapM (parsePid digits)
    .ok ((dictionary id pids).insertionSort (· ≤ ·))

/-- `cgroup_memory_metrics`. -/
def cgroupMemoryMetrics (service : String) (values : CgroupMemory) : List Metric :=
  [serviceMetric service "cgroup_memory_current_bytes" (values.memoryCurrent.map .integer) "bytes",
    serviceMetric service "cgroup_memory_peak_bytes" (values.memoryPeak.map .integer) "bytes"]

/-! ## Processes -/

/-- `ProcessSnapshot`, as far as a service needs it. -/
structure ProcessSnapshot where
  pid : Int
  startTicks : Int
  cpuTicks : Int
  rssBytes : Int
  threads : Int

/-- `parse_process_stat`. -/
def parseProcessStat (digits : Digits) (text : Text) (pageSize : Nat) : Except Raised ProcessSnapshot :=
  if ')' ∉ text then .error (.valueError "invalid process stat")
  else
    let pidRaw := if ' ' ∈ text then text.takeWhile (· ≠ ' ') else text.dropLast
    -- The fields begin two characters after the last parenthesis.
    let fields := split ((text.reverse.takeWhile (· ≠ ')')).reverse.drop 1)
    if fields.length < 22 then .error (.valueError "short process stat")
    else do
      let pid ← pyInt digits pidRaw
      let startTicks ← pyInt digits (fields.getD 19 [])
      let userTicks ← pyInt digits (fields.getD 11 [])
      let systemTicks ← pyInt digits (fields.getD 12 [])
      let pages ← pyInt digits (fields.getD 21 [])
      let threads ← pyInt digits (fields.getD 17 [])
      .ok {
        pid
        startTicks
        cpuTicks := userTicks + systemTicks
        rssBytes := pages * pageSize
        threads }

/-- `parse_key_values`. -/
def parseKeyValues (digits : Digits) (text : Text) : Counters :=
  dictionary Prod.fst <| (splitlines text).filterMap fun raw =>
    match split raw with
    | key :: value :: _ => (toInt? digits value).map fun n => (key.rdropWhile (· = ':'), n)
    | _ => none

/-- `number` of `parse_open_file_limits`. -/
def limitNumber (digits : Digits) (value : Text) : Except Raised (Option Int) :=
  if value = "unlimited".toList then .ok none else some <$> pyInt digits value

/-- `parse_open_file_limits`. -/
def parseOpenFileLimits (digits : Digits) (text : Text) : Except Raised (Option Int × Option Int) :=
  match (splitlines text).find? fun raw => "Max open files".toList.isPrefixOf raw with
  | none => .ok (none, none)
  | some raw =>
    let parts := split raw
    if parts.length < 5 then .ok (none, none)
    else do
      let soft ← limitNumber digits (parts.getD (parts.length - 3) [])
      let hard ← limitNumber digits (parts.getD (parts.length - 2) [])
      .ok (soft, hard)

/-- What a service has of its processes beside their `stat`. -/
structure SlowValues where
  rssAnonBytes : Option Int
  rssFileBytes : Option Int
  fdCount : Option Int
  fdSoftLimit : Option Int
  fdHardLimit : Option Int

/-- `ProcessSlowSnapshot`, as far as a service needs it. -/
structure ProcessSlowSnapshot extends SlowValues where
  pid : Int

/-- `read_process_slow_snapshot`, of what the files hold and the number of open files. -/
def readProcessSlowSnapshot (digits : Digits) (pid : Int) (status limits : Except Raised Text)
    (fds : Except Raised Nat) : Except Raised ProcessSlowSnapshot := do
  let status := parseKeyValues digits (← status)
  let (soft, hard) ← parseOpenFileLimits digits (← limits)
  let fdCount ← fds
  .ok {
    pid
    rssAnonBytes := (status.lookup "RssAnon".toList).map (· * 1024)
    rssFileBytes := (status.lookup "RssFile".toList).map (· * 1024)
    fdCount := some fdCount
    fdSoftLimit := soft
    fdHardLimit := hard }

/-- `ServiceProcessSnapshot`. -/
structure ServiceProcessSnapshot where
  identity : List (Int × Int)
  processCount : Nat
  cpuTicks : Int
  rssBytes : Int
  threads : Int
  slow : SlowValues

/-- `sum_optional` of `aggregate_service_processes`. -/
def sumOptional (values : List (Option Int)) : Option Int :=
  (values.mapM id).map List.sum

/-- The slow values of all processes. -/
def sumSlowValues (slow : List ProcessSlowSnapshot) : SlowValues where
  rssAnonBytes := sumOptional (slow.map (·.rssAnonBytes))
  rssFileBytes := sumOptional (slow.map (·.rssFileBytes))
  fdCount := sumOptional (slow.map (·.fdCount))
  fdSoftLimit := sumOptional (slow.map (·.fdSoftLimit))
  fdHardLimit := sumOptional (slow.map (·.fdHardLimit))

/-- No slow values. -/
def SlowValues.none : SlowValues := ⟨.none, .none, .none, .none, .none⟩

/-- `aggregate_service_processes`. -/
def aggregateServiceProcesses (fast : List ProcessSnapshot) (slow : List ProcessSlowSnapshot) :
    Except Raised ServiceProcessSnapshot :=
  if fast = [] then .error (.valueError "service process set is empty")
  else
    let ordered := fast.insertionSort fun a b => a.pid ≤ b.pid
    let slowOfPid := ordered.mapM fun snapshot => find ProcessSlowSnapshot.pid snapshot.pid slow
    .ok {
      identity := ordered.map fun snapshot => (snapshot.pid, snapshot.startTicks)
      processCount := ordered.length
      cpuTicks := (ordered.map (·.cpuTicks)).sum
      rssBytes := (ordered.map (·.rssBytes)).sum
      threads := (ordered.map (·.threads)).sum
      slow := match slowOfPid with
        | some slowOfPid => if slow.length = ordered.length then sumSlowValues slowOfPid else .none
        | none => .none }

/-- A metric of the processes in `service_process_metrics`. -/
def processMetric (service name : String) (value : Option MetricValue) (unit : String) (quality : Quality)
    (reset gap : Bool) : Metric :=
  { scope := "service"
    name
    value
    unit
    quality
    labels := [("service", service), ("aggregation", "cgroup_pid_set")]
    entityType := some "service"
    entityId := some service
    reset
    gap }

/-- `service_process_metrics`. -/
def serviceProcessMetrics (service : String) (current : ServiceProcessSnapshot)
    (previous : Option ServiceProcessSnapshot) (elapsed : Option ℚ) (ticksPerSecond : Int)
    (maxGap : Option ℚ) (authoritative : Bool) (slowQuality : Quality) : List Metric :=
  let identityChanged := previous.any fun previous => previous.identity ≠ current.identity
  let delta := counterDelta (if identityChanged then none else previous.map (·.cpuTicks)) current.cpuTicks
    (elapsed.getD 0) maxGap
  let cpuPercent := delta.rate.bind fun rate =>
    if 0 < ticksPerSecond then some (rate * 100 / ticksPerSecond) else none
  let fastQuality : Quality := if authoritative then .exact else .estimated
  let cpuQuality : Quality := if cpuPercent.isSome ∧ ¬ authoritative then .estimated else delta.quality
  let fast := fun name (value : Int) unit =>
    processMetric service name (some (.integer value)) unit fastQuality identityChanged false
  let slow := fun name (value : Option Int) unit =>
    processMetric service name (value.map .integer) unit (if value.isSome then slowQuality else .unavailable)
      identityChanged false
  [fast "process_count" current.processCount "count",
    fast "process_cpu_ticks" current.cpuTicks "ticks",
    processMetric service "process_cpu_percent" (cpuPercent.map .real) "percent" cpuQuality
      (identityChanged || delta.reset) delta.gap,
    fast "process_rss_bytes" current.rssBytes "bytes",
    slow "process_rss_anon_bytes" current.slow.rssAnonBytes "bytes",
    slow "process_rss_file_bytes" current.slow.rssFileBytes "bytes",
    fast "process_threads" current.threads "count",
    slow "process_open_fds" current.slow.fdCount "count",
    slow "process_fd_soft_limit" current.slow.fdSoftLimit "count",
    slow "process_fd_hard_limit" current.slow.fdHardLimit "count"]

end Monitoring.Readers
