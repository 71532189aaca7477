import GostManager.Monitoring.EventStates

/-!
# Monitoring: a collection cycle

The event states of `collect_once` in `monitoring/collector.py`: which transitions each collector asks for,
how an exception in a collector is isolated, and what is committed. The metrics of the collectors are left
out; an exception may come at any place.
-/

namespace Monitoring

/-! ## The collectors -/

/-- The flags of a device or an interface. -/
structure Flags where
  name : String
  reset : Bool
  gap : Bool

/-- A text as a detail. -/
def Detail.text (value : String) : Detail := .value (.text value)

/-- `_host_metrics`, for the flags of the processors if they could be read. -/
def hostMetrics (cpu : Option (Bool × Bool)) (ts : Nat) : List Transition :=
  match cpu with
  | none => []
  | some (reset, gap) =>
    [recordFlagEvent "cpu.reset" reset ts "counter_reset"
        [("source", .text "proc_stat"), ("entity", .text "host")],
      recordFlagEvent "cpu.gap" gap ts "sampling_gap"
        [("source", .text "proc_stat"), ("entity", .text "host")]]

/-- `_storage_metrics`, for the file systems that are due, and whether they could be read, and the disks. -/
def storageMetrics (filesystems : List (String × Bool)) (disks : List Flags) (ts : Nat) : List Transition :=
  filesystems.map (fun filesystem => availability ("filesystem:" ++ filesystem.1) filesystem.2 ts) ++
  disks.flatMap fun disk =>
    [recordFlagEvent ("disk." ++ disk.name ++ ".reset") disk.reset ts "counter_reset"
        [("source", .text "diskstats"), ("device", .text disk.name)],
      recordFlagEvent ("disk." ++ disk.name ++ ".gap") disk.gap ts "sampling_gap"
        [("source", .text "diskstats"), ("device", .text disk.name)]]

/-- `_network_metrics`, for the interfaces, in order, if they could be read, and the flags of TCP. -/
def networkMetrics (interfaces : Option (List Flags)) (tcp : Bool × Bool) (ts : Nat) : List Transition :=
  interfaces.elim [] (fun interfaces =>
    setTransitions "interfaces" (interfaces.map (·.name)) ts "interface_added" "interface_removed"
      "interface" ::
    interfaces.flatMap fun interface =>
      [recordFlagEvent ("interface." ++ interface.name ++ ".reset") interface.reset ts "counter_reset"
          [("source", .text "proc_net_dev"), ("interface", .text interface.name)],
        recordFlagEvent ("interface." ++ interface.name ++ ".gap") interface.gap ts "sampling_gap"
          [("source", .text "proc_net_dev"), ("interface", .text interface.name)]]) ++
  [recordFlagEvent "tcp.reset" tcp.1 ts "counter_reset" [("source", .text "tcp"), ("entity", .text "host")],
    recordFlagEvent "tcp.gap" tcp.2 ts "sampling_gap" [("source", .text "tcp"), ("entity", .text "host")]]

/-- What a cycle has read of a service: its state, if its properties could be read, the identity and the
number of its processes, if they are known for sure, and whether their counters were reset, if there are
any. -/
structure ServiceInput where
  service : String
  activeState : Option String
  processIdentity : Option (String × Nat)
  processReset : Option Bool

/-- The service in `_service_and_tunnel_metrics`. -/
def serviceMetrics (input : ServiceInput) (ts : Nat) : List Transition :=
  match input.activeState with
  | none => []
  | some activeState =>
    valueTransition ("service.state." ++ input.service) (.text activeState) ts "service_state_changed"
      "Managed service state changed" [("service", .text input.service)]
      (if activeState = "failed" ∨ activeState = "inactive" then "warning" else "info") ::
    input.processIdentity.toList.map (fun identity =>
      valueTransition ("service.pid_identity." ++ input.service) (.text identity.1) ts "pid_replaced"
        "Managed service process set changed"
        [("service", .text input.service), ("process_count", .number identity.2)]) ++
    input.processReset.toList.map fun reset =>
      recordFlagEvent ("process." ++ input.service ++ ".reset") reset ts "counter_reset"
        [("source", .text "process"), ("service", .text input.service)]

/-- The tunnel in `_service_and_tunnel_metrics`: whether its listeners are missing, if that is known. -/
def tunnelMetrics (tunnelId : String) (missing : Option Bool) (ts : Nat) : List Transition :=
  missing.toList.map fun missing => listenerMissing tunnelId missing ts

/-- `_source_status`. -/
def sourceStatus (sources : List (String × SourceState)) (ts : Nat) : List Transition :=
  sources.map fun source =>
    if source.1 = "conntrack" then optionalAvailability source.1 source.2 ts
    else availability source.1 (source.2 = .available) ts

/-! ## Isolation -/

/-- The calls, one after the other: the events that they return, and the entries that they leave. -/
def runTransitions : List Transition → Entries → List Event × Entries
  | [], entries => ([], entries)
  | t :: ts, entries =>
    let (events, entries') := runTransitions ts (t.save entries)
    (t.report entries ++ events, entries')

/-- The transaction of a cycle. -/
structure Transaction where
  entries : Entries
  /-- The list `events`. -/
  events : List Event
  /-- What the calls have returned whose entries are in the transaction. -/
  returned : List Event

/-- Calls that no handler is near. -/
def Transaction.run (transaction : Transaction) (transitions : List Transition) : Transaction :=
  let (events, entries) := runTransitions transitions transaction.entries
  { entries
    events := transaction.events ++ events
    returned := transaction.returned ++ events }

/-- A collector: its calls, and after how many of them it raises, if it does. -/
structure Collector where
  transitions : List Transition
  raisesAfter : Option Nat

/-- `try: ... events.extend(...)`. What the collector has stored before it raises stays in the
transaction. -/
def Transaction.tryPlain (transaction : Transaction) (collector : Collector) : Transaction :=
  match collector.raisesAfter with
  | none => transaction.run collector.transitions
  | some calls =>
    { transaction.run (collector.transitions.take calls) with events := transaction.events }

/-- The same within a savepoint, to which the handler rolls back. -/
def Transaction.trySavepoint (transaction : Transaction) (collector : Collector) : Transaction :=
  match collector.raisesAfter with
  | none => transaction.run collector.transitions
  | some _ => transaction

/-! ## The cycle -/

/-- What a cycle reads, and where it fails. -/
structure Cycle where
  ts : Nat
  cycleId : Nat
  malformedPaths : List String
  cpu : Option (Bool × Bool)
  hostRaisesAfter : Option Nat
  filesystems : List (String × Bool)
  disks : List Flags
  storageRaisesAfter : Option Nat
  interfaces : Option (List Flags)
  tcp : Bool × Bool
  networkRaisesAfter : Option Nat
  services : List (ServiceInput × Option Nat)
  tunnels : List ((String × Option Bool) × Option Nat)
  sources : List (String × SourceState)
  /-- Whether maintenance is due, and succeeds. -/
  maintenance : Option Bool
  /-- An exception that no collector isolates. -/
  aborts : Option String
  /-- The failed cycle can be recorded. -/
  failureRecorded : Bool
  /-- The frames of the checkpoint, if it succeeds, and whether it can be recorded. -/
  checkpoint : Option (Nat × Nat × Nat)
  checkpointRecorded : Bool

namespace Cycle

/-- The host collector. -/
def host (c : Cycle) : Collector := ⟨hostMetrics c.cpu c.ts, c.hostRaisesAfter⟩

/-- The storage collector. -/
def storage (c : Cycle) : Collector := ⟨storageMetrics c.filesystems c.disks c.ts, c.storageRaisesAfter⟩

/-- The network collector. -/
def network (c : Cycle) : Collector := ⟨networkMetrics c.interfaces c.tcp c.ts, c.networkRaisesAfter⟩

/-- The collectors of the services and tunnels. -/
def entities (c : Cycle) : List Collector :=
  c.services.map (fun service => ⟨serviceMetrics service.1 c.ts, service.2⟩) ++
  c.tunnels.map fun tunnel => ⟨tunnelMetrics tunnel.1.1 tunnel.1.2 c.ts, tunnel.2⟩

/-- The transaction of `collect_once`, up to its commit. -/
def transaction (c : Cycle) (entries : Entries) : Transaction :=
  let begun : Transaction := ⟨entries, [], []⟩
  let sampled := (begun.run [malformedEnvPaths c.malformedPaths c.ts]).tryPlain c.host
    |>.tryPlain c.storage |>.tryPlain c.network
  let served := c.entities.foldl Transaction.trySavepoint sampled
  served.run (sourceStatus c.sources c.ts ++ [cycleRecovery c.ts] ++
    c.maintenance.toList.map fun succeeded => maintenanceHealth succeeded c.ts)

/-- What a commit leaves: the entries, the events that were inserted, and the events that `EventState`
returned for these entries. -/
structure Commit where
  entries : Entries
  inserted : List Event
  returned : List Event

/-- A transaction whose events are inserted. -/
def commit (transaction : Transaction) : Commit :=
  ⟨transaction.entries, transaction.events, transaction.returned⟩

/-- The commits of `collect_once`: of the cycle and its checkpoint, or of the record of its failure. -/
def collectOnce (c : Cycle) (entries : Entries) : List Commit :=
  match c.aborts with
  | some reason =>
    if c.failureRecorded then
      [commit (Transaction.run ⟨entries, [], []⟩ [cycleFailure c.cycleId reason c.ts])]
    else []
  | none =>
    let transaction := c.transaction entries
    commit transaction ::
      if c.maintenance.isSome ∧ c.checkpointRecorded then
        [commit (Transaction.run ⟨transaction.entries, [], []⟩ [checkpointHealth c.checkpoint c.ts])]
      else []

end Cycle

end Monitoring
