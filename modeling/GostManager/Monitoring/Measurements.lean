import GostManager.Monitoring.Caches

/-!
# Monitoring: what a cycle measures

Which processes a service has in a cycle and what is measured of them, from what the cycle reads alone. A
cached value is attributed to the processes it was measured of if an earlier cycle has measured it of them.
-/

namespace Monitoring.Readers

open Texts

/-- What identifies the processes of a service: when its main process was started, and the identifier and the
start of each process. -/
structure ProcessIdentity where
  startIdentity : Text
  members : List (Int × Int)

/-- The text that `_process_identity` makes of it. -/
def ProcessIdentity.text (i : ProcessIdentity) : Text :=
  i.startIdentity ++ "|".toList ++ (",".intercalate (i.members.map fun member =>
    toString member.1 ++ ":" ++ toString member.2)).toList

/-- The processes of a service, if all of them could be read. -/
def ServiceCapture.members (captured : ServiceCapture) : Option (List (Int × Int)) :=
  if captured.pidSet.pids ≠ [] ∧ captured.fast.length = captured.pidSet.pids.length then
    some ((captured.fast.insertionSort fun a b => a.pid ≤ b.pid).map fun snapshot =>
      (snapshot.pid, snapshot.startTicks))
  else none

namespace Cycle

/-- What is captured of a service. -/
def captured (c : Cycle) (service : String) : Option ServiceCapture :=
  if service ∈ c.sources.services then (c.sources.captureService service).toOption.join else none

/-- The identity of the processes of a service. -/
def identity (c : Cycle) (service : String) : Option ProcessIdentity := do
  let captured ← c.captured service
  let members ← captured.members
  some ⟨captured.properties.getD "ExecMainStartTimestampMonotonic", members⟩

/-- The sockets of a service, by their states. -/
def measuredStates (c : Cycle) (service : String) : Option (TcpSocketState → Option Nat) := do
  let captured ← c.captured service
  let records ← c.fullRecords
  if captured.pidSet.pids ≠ [] ∧ captured.pidSet.authoritative then
    some (countState records captured.pidSet.pids)
  else none

/-- The sockets between a tunnel and its remote endpoint. -/
def measuredRemote (c : Cycle) (tunnel : Tunnel) : Option Nat := do
  let captured ← c.captured tunnel.serviceName
  let records ← c.fullRecords
  let (host, port) ← (← (numericRemoteEndpoint c.sources.digits tunnel.remoteEndpoint).toOption)
  if captured.pidSet.pids ≠ [] ∧ captured.pidSet.authoritative then
    establishedRemoteSocketCount records captured.pidSet.pids host port
  else none

/-- The slow values of the processes of a service. -/
def measuredSlow (c : Cycle) (service : String) : Option SlowValues := do
  let captured ← c.captured service
  if c.sources.slowSourcesDue ∧ captured.slow.length = captured.pidSet.pids.length then
    ((aggregateServiceProcesses captured.fast captured.slow).toOption).map (·.slow)
  else none

/-- The memory of the control group of a service. -/
def measuredMemory (c : Cycle) (service : String) : Option CgroupMemory := do
  let captured ← c.captured service
  if c.sources.slowSourcesDue then captured.cgroupMemory else none

/-- Two cycles find the same processes of a service, which are started together. -/
def SameIdentity (c c' : Cycle) (service : String) : Prop :=
  ∃ i, c.identity service = some i ∧ c'.identity service = some i

/-- Two cycles find the same processes of a service. -/
def SameMembers (c c' : Cycle) (service : String) : Prop :=
  ∃ i i', c.identity service = some i ∧ c'.identity service = some i' ∧ i.members = i'.members

end Cycle

/-- The metrics that count sockets in a state. -/
def TcpSocketState.metricNames : TcpSocketState → List String
  | estab => ["established_sockets_total", estab.metricName]
  | state => [state.metricName]

/-- Cached values that a cycle reports for a service were measured in an earlier cycle, which has found the
same processes: in the sense of `same` for the slow values, else also started together. -/
structure ServiceReport.Attributed (same : Cycle → Cycle → String → Prop) (past : List Cycle) (c : Cycle)
    (service : String) (report : ServiceReport) : Prop where
  sockets : ∀ m ∈ report.sockets, m.quality = .estimated → ∀ v, m.value = some v →
    report.pidSet.authoritative ∧ ∃ earlier ∈ past, earlier.SameIdentity c service ∧
      ∃ states, earlier.measuredStates service = some states ∧
        ∃ state n, states state = some n ∧ v = .integer n ∧ m.name ∈ state.metricNames
  /-- With slow sources that are due, the values are new. -/
  slow : ¬ c.sources.slowSourcesDue → ∀ snapshot, report.slow = some (snapshot, .estimated) →
    ∃ earlier ∈ past, same earlier c service ∧ earlier.measuredSlow service = some snapshot.slow
  memory : ∀ m ∈ report.memory, m.quality = .estimated → ∀ v, m.value = some v →
    ∃ earlier ∈ past, earlier.SameIdentity c service ∧
      ∃ memory, earlier.measuredMemory service = some memory ∧
        ∃ m' ∈ cgroupMemoryMetrics service memory, m'.name = m.name ∧ m'.value = some v

/-- Cached values that a cycle reports were measured in an earlier cycle of the same service or tunnel, with
the same processes, and of a tunnel with the same remote endpoint. -/
structure Reports.Attributed (same : Cycle → Cycle → String → Prop) (past : List Cycle) (c : Cycle)
    (reports : Reports) : Prop where
  services : ∀ entry ∈ reports.services, entry.2.Attributed same past c entry.1
  tunnels : ∀ entry ∈ reports.tunnels, entry.2.quality = .estimated → ∀ v, entry.2.value = some v →
    (∃ captured, c.captured entry.1.serviceName = some captured ∧ captured.pidSet.authoritative) ∧
    ∃ earlier ∈ past, ∃ tunnel ∈ earlier.tunnels, tunnel.tunnelId = entry.1.tunnelId ∧
      tunnel.remoteEndpoint = entry.1.remoteEndpoint ∧
      (∃ i, earlier.identity tunnel.serviceName = some i ∧ c.identity entry.1.serviceName = some i) ∧
      ∃ n, earlier.measuredRemote tunnel = some n ∧ v = .integer n

end Monitoring.Readers
