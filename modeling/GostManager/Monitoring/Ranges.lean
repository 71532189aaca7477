import GostManager.Monitoring.Collection

/-!
# Monitoring: ranges

Which numbers a cycle may read so that all integers among its metrics have 64 bits. A number counts only if
its metric is not replaced by another one with the same name and entity.
-/

namespace Monitoring.Readers

open Lists Texts

/-- SQLite stores all integers among the metrics that remain of these. -/
def AllBind (metrics : List Metric) : Prop := ∀ m ∈ deduplicateMetrics metrics, m.Binds

/-- The metrics are those of one entity. -/
def OfEntity (entityType entityId : String) (metrics : List Metric) : Prop :=
  ∀ m ∈ metrics, m.entityType = some entityType ∧ m.entityId = some entityId

/-- A text that `isdigit` takes for a number, and `int` does not. -/
def Rejected (digits : Digits) (text : Text) : Prop := isdigit digits text ∧ toInt? digits text = none

instance (digits : Digits) (text : Text) : Decidable (Rejected digits text) :=
  inferInstanceAs (Decidable (_ ∧ _))

/-- The number of a text that `isdigit` takes for one. -/
def numberOf (digits : Digits) (text : Text) : Option Int :=
  if isdigit digits text then toInt? digits text else none

/-- The counters of an interface have 64 bits. -/
def InterfaceCounters.InRange (counters : InterfaceCounters) : Prop := ∀ field, Fits (counters.get field)

/-- The numbers of a link have 64 bits. -/
def InterfaceLink.InRange (link : InterfaceLink) : Prop := FitsIfAny link.mtu ∧ FitsIfAny link.speedMbps

/-- The counters of a disk have 64 bits, after a factor of 512 for the sectors. -/
structure DiskCounters.InRange (disk : DiskCounters) : Prop where
  reads : Fits disk.readsCompleted
  sectorsRead : -2 ^ 54 ≤ disk.sectorsRead ∧ disk.sectorsRead < 2 ^ 54
  writes : Fits disk.writesCompleted
  sectorsWritten : -2 ^ 54 ≤ disk.sectorsWritten ∧ disk.sectorsWritten < 2 ^ 54
  io : Fits disk.ioMs

/-- All values have 64 bits. -/
structure SlowValues.InRange (values : SlowValues) : Prop where
  rssAnon : FitsIfAny values.rssAnonBytes
  rssFile : FitsIfAny values.rssFileBytes
  fdCount : FitsIfAny values.fdCount
  fdSoftLimit : FitsIfAny values.fdSoftLimit
  fdHardLimit : FitsIfAny values.fdHardLimit

/-- The sums over the processes of a service have 64 bits. -/
structure ProcessesInRange (processes : List ProcessSnapshot) : Prop where
  count : Fits processes.length
  cpu : Fits (processes.map (·.cpuTicks)).sum
  rss : Fits (processes.map (·.rssBytes)).sum
  threads : Fits (processes.map (·.threads)).sum

/-- The properties that are read as numbers, apart from the memory. -/
def numericProperties (properties : Properties) : List String :=
  ["MainPID", "ExecMainStartTimestampMonotonic", "NRestarts", "TasksCurrent"] ++
  if lower (properties.getD "IPAccounting") = "yes".toList then ["IPIngressBytes", "IPEgressBytes"] else []

/-- `int` raises on a property. The service is then unavailable. -/
def PropertyRejected (digits : Digits) (properties : Properties) : Prop :=
  ∃ key ∈ numericProperties properties ++ ["MemoryCurrent", "MemoryPeak"],
    Rejected digits (properties.getD key)

instance (digits : Digits) (properties : Properties) : Decidable (PropertyRejected digits properties) :=
  inferInstanceAs (Decidable (∃ _ ∈ _, _))

namespace Sources

variable (s : Sources) (p : Previous) (service : String) (c : ServiceCapture)

/-- The slow values of the processes of a service: those of this cycle, if they are due, or else those that
were stored for the same processes. -/
def SlowInRange : Prop :=
  if s.slowSourcesDue then
    c.slow.length = c.pidSet.pids.length →
      ∀ slow, c.fast.mapM (fun process => find ProcessSlowSnapshot.pid process.pid c.slow) = some slow →
        (sumSlowValues slow).InRange
  else
    ∀ identity values, p.processSlow service = some (identity, values) →
      identity = (c.fast.insertionSort fun a b => a.pid ≤ b.pid).map (fun process =>
        (process.pid, process.startTicks)) → values.InRange

/-- The memory that was stored for the same control group and processes. -/
def storedMemory : Option CgroupMemory :=
  match s.serviceSnapshot p service c, p.cgroupMemory service with
  | .ok (some snapshot), some (group, identity, values) =>
    if group = c.properties.getD "ControlGroup" ∧
        identity = processIdentity (c.properties.getD "ExecMainStartTimestampMonotonic") snapshot.1 then
      some values
    else none
  | _, _ => none

/-- The memory of a service: that of its control group, if it is due, before its property, and its property
before what was stored. -/
def memoryNumber (property : String) (field : CgroupMemory → Option Int) : Option Int :=
  let number := numberOf s.digits (c.properties.getD property)
  if c.properties.getD "ControlGroup" = [] then number
  else if s.slowSourcesDue then (c.cgroupMemory.bind field).or number
  else number.or ((s.storedMemory p service c).bind field)

/-- The numbers of a service have 64 bits. -/
structure ServiceInRange : Prop where
  properties : ∀ key ∈ numericProperties c.properties, FitsIfAny (numberOf s.digits (c.properties.getD key))
  memoryCurrent : FitsIfAny (s.memoryNumber p service c "MemoryCurrent" (·.memoryCurrent))
  memoryPeak : FitsIfAny (s.memoryNumber p service c "MemoryPeak" (·.memoryPeak))
  processes : c.pidSet.pids ≠ [] → c.fast.length = c.pidSet.pids.length →
    ProcessesInRange c.fast ∧ s.SlowInRange p service c

/-- No service has a process number that ends the cycle at once. -/
def PidsAccepted : Prop :=
  ∀ service ∈ s.services, ∀ properties, s.readProperties service = .ok properties →
    ¬ Rejected s.digits (properties.getD "MainPID")

/-- The numbers of a cycle have 64 bits. -/
structure InRange : Prop where
  interfaces : s.networkRaises = false → ∀ current, s.interfaces = .ok current →
    ∀ counters ∈ current, counters.name ≠ "external-total" →
      counters.InRange ∧ (s.interfaceLink counters.name).InRange
  external : s.networkRaises = false → ∀ current, s.interfaces = .ok current →
    ∀ field, Fits ((current.filter (·.name ≠ "lo")).map (·.get field)).sum
  tcp : s.networkRaises = false → ∀ counter ∈ s.currentTcp, Fits counter.2
  disks : s.storageRaises = false → ∀ disk ∈ s.currentDisks,
    (∀ disk' ∈ s.currentDisks, disk.name < disk'.name → disk'.identity ≠ disk.identity) → disk.InRange
  services : ∀ service ∈ s.services, s.serviceRaises service = false →
    ∀ c, s.captureService service = .ok (some c) → ¬ PropertyRejected s.digits c.properties →
      s.ServiceInRange p service c

end Sources

end Monitoring.Readers
