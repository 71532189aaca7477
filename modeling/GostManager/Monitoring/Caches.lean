import Mathlib.Logic.Function.Basic
import GostManager.Monitoring.SocketReaders
import GostManager.Monitoring.Collection

/-!
# Monitoring: cached values

Sockets, and what is slow to read, are not read in every cycle. `_service_and_tunnel_metrics` keeps their last
values in the table of states, together with the identity of the processes they were read of, and reports them
as estimated while these processes stay. Each service and each tunnel has a savepoint, and the cycle a
transaction.
-/

namespace Monitoring.Readers

open Texts

/-- `socket_cache.service`. -/
structure ServiceSockets where
  identity : Text
  established : Option Nat
  states : TcpSocketState → Option Nat

/-- `socket_cache.tunnel`. -/
structure TunnelSockets where
  identity : Text
  endpoint : Option Text
  value : Nat

/-- `process_slow_cache`. -/
structure CachedSlowValues where
  identity : List (Int × Int)
  values : SlowValues

/-- `cgroup_memory_cache`. -/
structure CachedCgroupMemory where
  controlGroup : Text
  identity : Text
  values : CgroupMemory

/-- The entries of the table of states that hold values of earlier cycles. -/
structure Caches where
  serviceSockets : String → Option ServiceSockets
  tunnelSockets : String → Option TunnelSockets
  processSlow : String → Option CachedSlowValues
  cgroupMemory : String → Option CachedCgroupMemory

/-- No entries. -/
def Caches.empty : Caches := ⟨fun _ => none, fun _ => none, fun _ => none, fun _ => none⟩

/-- The entries among what earlier cycles have left. -/
def Caches.previous (caches : Caches) (p : Previous) : Previous :=
  { p with
    processSlow := fun service => (caches.processSlow service).map fun entry =>
      (entry.identity, entry.values)
    cgroupMemory := fun service => (caches.cgroupMemory service).map fun entry =>
      (entry.controlGroup, entry.identity, entry.values) }

/-- `Tunnel`, as far as its sockets are counted. -/
structure Tunnel where
  tunnelId : String
  serviceName : String
  remoteEndpoint : Option Text

/-! ## Sockets -/

/-- A metric of the sockets of a service. -/
def socketMetric (service name : String) (value : Option Nat) (quality : Quality) : Metric :=
  { scope := "service"
    name
    value := value.map fun n : Nat => .integer n
    unit := "count"
    quality := if value.isSome then quality else .unavailable
    labels := [("service", service)]
    entityType := some "service"
    entityId := some service }

/-- The metrics of `_service_socket_metrics`. -/
def socketMetrics (service : String) (established : Option Nat) (states : TcpSocketState → Option Nat)
    (quality : Quality) : List Metric :=
  socketMetric service "established_sockets_total" established quality ::
    TcpSocketState.all.map fun state => socketMetric service state.metricName (states state) quality

namespace Caches

/-- `_service_socket_metrics`. -/
def serviceSocketMetrics (service : String) (pids : List Int) (pidsAuthoritative : Bool)
    (processIdentity : Option Text) (fullSocketDue : Bool) (fullRecords : Option (List SocketRecord))
    (caches : Caches) : List Metric × Caches :=
  match decide (pids ≠ []) && pidsAuthoritative, if fullSocketDue then fullRecords else none,
      processIdentity with
  | true, some records, identity =>
    let states := countState records pids
    (socketMetrics service (states .estab) states .exact,
      match identity with
      | none => caches
      | some identity =>
        { caches with
          serviceSockets := Function.update caches.serviceSockets service
            (some ⟨identity, states .estab, states⟩) })
  | true, none, some identity =>
    match caches.serviceSockets service with
    | none => (socketMetrics service none (fun _ => none) .unavailable, caches)
    | some cached =>
      if cached.identity = identity then
        (socketMetrics service cached.established cached.states .estimated, caches)
      else (socketMetrics service none (fun _ => none) .unavailable, caches)
  | _, _, _ => (socketMetrics service none (fun _ => none) .unavailable, caches)

/-- The metric of `_tunnel_remote_socket_metric`. -/
def remoteSocketMetric (tunnel : Tunnel) (value : Option Nat) (quality : Quality) : Metric :=
  { scope := "tunnel"
    name := "established_remote_sockets"
    value := value.map fun n : Nat => .integer n
    unit := "count"
    quality
    entityType := some "tunnel"
    entityId := some tunnel.tunnelId }

/-- `_tunnel_remote_socket_metric`. -/
def tunnelRemoteSocketMetric (digits : Digits) (tunnel : Tunnel) (pids : List Int)
    (pidsAuthoritative : Bool) (processIdentity : Option Text) (fullSocketDue : Bool)
    (fullRecords : Option (List SocketRecord)) (caches : Caches) : Except Raised (Metric × Caches) := do
  match ← numericRemoteEndpoint digits tunnel.remoteEndpoint, decide (pids ≠ []) && pidsAuthoritative,
      if fullSocketDue then fullRecords else none, processIdentity with
  | some (host, port), true, some records, identity =>
    match establishedRemoteSocketCount records pids host port with
    | none => .ok (remoteSocketMetric tunnel none .unavailable, caches)
    | some value =>
      .ok (remoteSocketMetric tunnel (some value) .exact,
        match identity with
        | none => caches
        | some identity =>
          { caches with
            tunnelSockets := Function.update caches.tunnelSockets tunnel.tunnelId
              (some ⟨identity, tunnel.remoteEndpoint, value⟩) })
  | some _, true, none, some identity =>
    match caches.tunnelSockets tunnel.tunnelId with
    | none => .ok (remoteSocketMetric tunnel none .unavailable, caches)
    | some cached =>
      if cached.identity = identity ∧ cached.endpoint = tunnel.remoteEndpoint then
        .ok (remoteSocketMetric tunnel (some cached.value) .estimated, caches)
      else .ok (remoteSocketMetric tunnel none .unavailable, caches)
  | _, _, _, _ => .ok (remoteSocketMetric tunnel none .unavailable, caches)

/-! ## Slow values -/

/-- `_process_slow_values`. -/
def processSlowValues (service : String) (current : ServiceProcessSnapshot)
    (slowSourcesDue slowComplete authoritative : Bool) (caches : Caches) :
    (ServiceProcessSnapshot × Quality) × Caches :=
  if slowSourcesDue then
    if slowComplete then
      ((current, if authoritative then .exact else .estimated),
        { caches with
          processSlow := Function.update caches.processSlow service
            (some ⟨current.identity, current.slow⟩) })
    else ((current, .unavailable), caches)
  else match caches.processSlow service with
    | none => ((current, .unavailable), caches)
    | some cached =>
      if cached.identity = current.identity then
        (({ current with slow := cached.values }, .estimated), caches)
      else ((current, .unavailable), caches)

/-- `_cgroup_memory_values`. -/
def cgroupMemoryValues (service : String) (controlGroup : Text) (processIdentity : Option Text)
    (slowSourcesDue : Bool) (captured : Option CgroupMemory) (caches : Caches) : List Metric × Caches :=
  if slowSourcesDue then
    match captured with
    | none => ([], caches)
    | some captured =>
      (cgroupMemoryMetrics service captured,
        match processIdentity with
        | none => caches
        | some identity =>
          { caches with
            cgroupMemory := Function.update caches.cgroupMemory service
              (some ⟨controlGroup, identity, captured⟩) })
  else
    match processIdentity, caches.cgroupMemory service with
    | some identity, some cached =>
      if cached.controlGroup = controlGroup ∧ cached.identity = identity then
        (((cgroupMemoryMetrics service cached.values).filter fun m => m.value ≠ none).map fun m =>
          { m with quality := .estimated }, caches)
      else ([], caches)
    | _, _ => ([], caches)

end Caches

/-! ## Cycles -/

/-- What the cached values of a cycle depend on. -/
structure Cycle where
  sources : Sources
  fullSocketDue : Bool
  /-- What `ss` lists, if it can be read. -/
  connections : Option (List SocketRecord)
  tunnels : List Tunnel
  /-- An exception in what else is done for a tunnel, which rolls its savepoint back. -/
  tunnelRaises : Tunnel → Bool
  /-- Whether the transaction of the cycle is committed. -/
  commits : Bool

/-- What the functions above report for a service. -/
structure ServiceReport where
  pidSet : ServicePidSet
  processIdentity : Option Text
  slow : Option (ServiceProcessSnapshot × Quality)
  memory : List Metric
  sockets : List Metric

/-- What a cycle reports for its services and its tunnels. -/
structure Reports where
  services : List (String × ServiceReport)
  tunnels : List (Tunnel × Metric)

namespace Cycle

/-- The sockets that are captured. -/
def fullRecords (c : Cycle) : Option (List SocketRecord) := if c.fullSocketDue then c.connections else none

/-- The processes of a service, if all of them could be read, with their slow values. -/
def serviceSnapshot (c : Cycle) (service : String) (captured : ServiceCapture) (caches : Caches) :
    Except Raised (Option (ServiceProcessSnapshot × Quality) × Caches) :=
  if captured.pidSet.pids ≠ [] ∧ captured.fast.length = captured.pidSet.pids.length then do
    let slowComplete := c.sources.slowSourcesDue && captured.slow.length = captured.pidSet.pids.length
    let snapshot ← aggregateServiceProcesses captured.fast (if slowComplete then captured.slow else [])
    let (slow, caches) := caches.processSlowValues service snapshot c.sources.slowSourcesDue slowComplete
      captured.pidSet.authoritative
    .ok (some slow, caches)
  else .ok (none, caches)

/-- The service in `_service_and_tunnel_metrics`, within its savepoint. -/
def serviceEntity (c : Cycle) (service : String) (captured : ServiceCapture) (caches : Caches) :
    Except Raised (ServiceReport × Caches) := do
  let _ ← serviceMetrics c.sources.digits service captured.properties
  let (slow, caches) ← c.serviceSnapshot service captured caches
  let processIdentity := slow.map fun slow =>
    Readers.processIdentity (captured.properties.getD "ExecMainStartTimestampMonotonic") slow.1
  let controlGroup := captured.properties.getD "ControlGroup"
  let (memory, caches) := if controlGroup = [] then ([], caches)
    else caches.cgroupMemoryValues service controlGroup processIdentity c.sources.slowSourcesDue
      captured.cgroupMemory
  let (sockets, caches) := caches.serviceSocketMetrics service captured.pidSet.pids
    captured.pidSet.authoritative processIdentity c.fullSocketDue c.fullRecords
  .ok ({
    pidSet := captured.pidSet
    processIdentity
    slow
    memory
    sockets }, caches)

/-- The loop over the services. -/
def serviceStep (c : Cycle) (state : List (String × ServiceReport) × Caches)
    (captured : String × Option ServiceCapture) : List (String × ServiceReport) × Caches :=
  match captured.2 with
  | none => state
  | some capture =>
    match c.serviceEntity captured.1 capture state.2 with
    | .error _ => state
    | .ok (report, caches) =>
      if c.sources.serviceRaises captured.1 then state else (state.1 ++ [(captured.1, report)], caches)

/-- The loop over the tunnels. -/
def tunnelStep (c : Cycle) (services : List (String × ServiceReport))
    (state : List (Tunnel × Metric) × Caches) (tunnel : Tunnel) : List (Tunnel × Metric) × Caches :=
  let report := services.lookup tunnel.serviceName
  let pidSet := (report.map (·.pidSet)).getD ⟨[], false⟩
  match state.2.tunnelRemoteSocketMetric c.sources.digits tunnel pidSet.pids pidSet.authoritative
      (report.bind (·.processIdentity)) c.fullSocketDue c.fullRecords with
  | .error _ => state
  | .ok (metric, caches) =>
    if c.tunnelRaises tunnel then state else (state.1 ++ [(tunnel, metric)], caches)

/-- What `collect_once` does with the cached values, before its transaction ends. -/
def collect (c : Cycle) (caches : Caches) : Except Raised (Reports × Caches) := do
  let captured ← c.sources.services.mapM fun service => do .ok (service, ← c.sources.captureService service)
  let (services, caches) := captured.foldl c.serviceStep ([], caches)
  let (tunnels, caches) := c.tunnels.foldl (c.tunnelStep services) ([], caches)
  .ok (⟨services, tunnels⟩, caches)

/-- The entries after a cycle. -/
def next (c : Cycle) (caches : Caches) : Caches :=
  match c.collect caches with
  | .error _ => caches
  | .ok (_, after) => if c.commits then after else caches

/-- The entries after some cycles, the first of which finds none. -/
def runAll (cycles : List Cycle) : Caches := cycles.foldl (fun caches c => c.next caches) Caches.empty

end Cycle

end Monitoring.Readers
