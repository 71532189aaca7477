import Mathlib.Data.List.Sort
import GostManager.Monitoring.Metrics

/-!
# Monitoring: readers of counters

`monitoring/network_readers.py`, and the disks of `monitoring/proc_readers.py`: from the texts of the kernel
to counters, and from counters to metrics. Rates are exact. In Python a difference that no float holds raises
`OverflowError`; it is one of the exceptions that lose the metrics of a collector.
-/

namespace Monitoring.Readers

open Lists Texts

/-- `int(text)`. -/
def pyInt (digits : Digits) (text : Text) : Except Raised Int :=
  match toInt? digits text with
  | none => .error (.valueError "invalid literal for int() with base 10")
  | some n => .ok n

/-- `sorted(...)` by a key. -/
def sortedBy {α : Type} (key : α → String) (l : List α) : List α :=
  l.insertionSort fun a b => key a ≤ key b

/-- `CounterDelta`. -/
structure CounterDelta where
  delta : Option Int
  rate : Option ℚ
  quality : Quality
  reset : Bool
  gap : Bool

/-- `counter_delta`. -/
def counterDelta (previous : Option Int) (current : Int) (elapsed : ℚ) (maxGap : Option ℚ) : CounterDelta :=
  let gap := maxGap.any fun maxGap => maxGap < elapsed
  match previous with
  | none => ⟨none, none, .unavailable, false, false⟩
  | some previous =>
    if elapsed ≤ 0 then ⟨none, none, .unavailable, false, false⟩
    else if current < previous then ⟨none, none, .unavailable, true, gap⟩
    else ⟨some (current - previous), some ((current - previous : Int) / elapsed), .derived, false, gap⟩

/-! ## Interfaces -/

/-- `INTERFACE_FIELDS`. -/
inductive InterfaceField where
  | rxBytes | rxPackets | rxErrors | rxDrops | txBytes | txPackets | txErrors | txDrops
  deriving DecidableEq

namespace InterfaceField

/-- The fields in their order. -/
def all : List InterfaceField :=
  [rxBytes, rxPackets, rxErrors, rxDrops, txBytes, txPackets, txErrors, txDrops]

/-- The name of a field. -/
def name : InterfaceField → String
  | rxBytes => "rx_bytes"
  | rxPackets => "rx_packets"
  | rxErrors => "rx_errors"
  | rxDrops => "rx_drops"
  | txBytes => "tx_bytes"
  | txPackets => "tx_packets"
  | txErrors => "tx_errors"
  | txDrops => "tx_drops"

/-- `"bytes" in field`. -/
def inBytes : InterfaceField → Bool
  | rxBytes | txBytes => true
  | _ => false

/-- The unit of a field. -/
def unit (field : InterfaceField) : String := if field.inBytes then "bytes" else "packets"

/-- The unit of its rate. -/
def rateUnit (field : InterfaceField) : String := if field.inBytes then "B/s" else "pps"

end InterfaceField

/-- `InterfaceCounters`. -/
structure InterfaceCounters where
  name : String
  get : InterfaceField → Int

/-- A row of `/proc/net/dev`. -/
def parseNetDevRow (digits : Digits) (nameRaw valuesRaw : Text) : Except Raised InterfaceCounters :=
  let name := strip nameRaw
  let values := split valuesRaw
  if name = [] ∨ values.length < 16 then .error (.valueError "malformed /proc/net/dev row")
  else match (values.take 16).mapM (toInt? digits) with
    | some [rxBytes, rxPackets, rxErrors, rxDrops, _, _, _, _,
        txBytes, txPackets, txErrors, txDrops, _, _, _, _] =>
      .ok {
        name := String.ofList name
        get
          | .rxBytes => rxBytes
          | .rxPackets => rxPackets
          | .rxErrors => rxErrors
          | .rxDrops => rxDrops
          | .txBytes => txBytes
          | .txPackets => txPackets
          | .txErrors => txErrors
          | .txDrops => txDrops }
    | _ => .error (.valueError "malformed /proc/net/dev counter")

/-- `parse_net_dev`. -/
def parseNetDev (digits : Digits) (text : Text) : Except Raised (List InterfaceCounters) :=
  let candidates := (splitlines text).filterMap (splitOnce ':')
  if candidates = [] then .error (.valueError "missing /proc/net/dev interface rows")
  else do
    let interfaces ← candidates.mapM fun row => parseNetDevRow digits row.1 row.2
    .ok (dictionary InterfaceCounters.name interfaces)

/-- `aggregate_external`. -/
def aggregateExternal (interfaces : List InterfaceCounters) : InterfaceCounters :=
  let external := interfaces.filter (·.name ≠ "lo")
  { name := "external-total"
    get := fun field => (external.map (·.get field)).sum }

/-- What `/sys/class/net` has of an interface. -/
structure InterfaceLink where
  state : Option Text
  linkUp : Option Bool
  mtu : Option Int
  speedMbps : Option Int

/-- `read_interface_link`, of what the files hold. -/
def readInterfaceLink (digits : Digits) (read : String → Except Raised Text) : Except Raised InterfaceLink := do
  let optional := fun name => (read name).toOption.map strip
  let state := optional "operstate"
  let mtu ← match optional "mtu" with
    | some mtuRaw => if isdigit digits mtuRaw then some <$> pyInt digits mtuRaw else .ok none
    | none => .ok none
  let speed ← match optional "speed" with
    | some speedRaw =>
      if isdigit digits (speedRaw.dropWhile (· = '-')) then some <$> pyInt digits speedRaw else .ok none
    | none => .ok none
  .ok {
    state
    linkUp := state.map fun state => state = "up".toList
    mtu
    speedMbps := speed.filter fun speed => 0 ≤ speed }

/-- The metric of a value that may be missing. -/
def optionalMetric (scope name : String) (value : Option MetricValue) (unit : String)
    (labels : List (String × String)) (entityType entityId : String) : Metric :=
  { scope
    name
    value
    unit
    quality := if value.isSome then .exact else .unavailable
    labels
    entityType := some entityType
    entityId := some entityId }

/-- The metrics of a field in `interface_metrics`. -/
def interfaceFieldMetrics (current : InterfaceCounters) (previous : Option InterfaceCounters)
    (elapsed maxGap : Option ℚ) (scope entityId : String) (field : InterfaceField) : List Metric :=
  let labels := [("interface", current.name)]
  let delta := counterDelta (previous.map (·.get field)) (current.get field) (elapsed.getD 0) maxGap
  [{ scope
     name := field.name
     value := some (.integer (current.get field))
     unit := field.unit
     quality := .exact
     labels
     entityType := some "interface"
     entityId := some entityId },
   { scope
     name := field.name ++ "_per_second"
     value := delta.rate.map .real
     unit := field.rateUnit
     quality := delta.quality
     labels
     entityType := some "interface"
     entityId := some entityId
     reset := delta.reset
     gap := delta.gap }]

/-- The metrics of the link in `interface_metrics`. -/
def linkMetrics (link : InterfaceLink) (scope entityId : String) (labels : List (String × String)) :
    List Metric :=
  [optionalMetric scope "link_up" (link.linkUp.map .boolean) "boolean" labels "interface" entityId,
    optionalMetric scope "link_state" (link.state.map .text) "state" labels "interface" entityId,
    optionalMetric scope "mtu" (link.mtu.map .integer) "bytes" labels "interface" entityId,
    optionalMetric scope "speed_mbps" (link.speedMbps.map .integer) "Mbit/s" labels "interface" entityId]

/-- `interface_metrics`. -/
def interfaceMetrics (current : InterfaceCounters) (previous : Option InterfaceCounters) (elapsed : Option ℚ)
    (link : Option InterfaceLink) (maxGap : Option ℚ) : List Metric :=
  let scope := if current.name = "lo" then "net.loopback" else "net.external"
  let entityId := "interface:" ++ current.name
  InterfaceField.all.flatMap (interfaceFieldMetrics current previous elapsed maxGap scope entityId) ++
  match link with
  | none => []
  | some link =>
    if current.name = "external-total" then []
    else linkMetrics link scope entityId [("interface", current.name)]

/-! ## TCP -/

/-- The counters of a protocol. -/
abbrev Counters := List (Text × Int)

/-- A header and its values in a protocol table. -/
def parseProtocolPair (digits : Digits) (header values : List Text) : Except Raised (Text × Counters) :=
  match header, values with
  | protocol :: names, protocol' :: rawValues =>
    if protocol ≠ protocol' then .error (.valueError "protocol header/value mismatch")
    else if names.length ≠ rawValues.length then .error (.valueError "protocol counter length mismatch")
    else match rawValues.mapM (toInt? digits) with
      | none => .error (.valueError "invalid protocol counter")
      | some values => .ok (protocol.rdropWhile (· = ':'), dictionary Prod.fst (names.zip values))
  | _, _ => .error (.valueError "protocol header/value mismatch")

/-- The lines of a protocol table, two by two. -/
def parseProtocolLines (digits : Digits) : List (List Text) → Except Raised (List (Text × Counters))
  | header :: values :: lines => do
    let protocol ← parseProtocolPair digits header values
    let protocols ← parseProtocolLines digits lines
    .ok (protocol :: protocols)
  | _ => .ok []

/-- `parse_protocol_table`. -/
def parseProtocolTable (digits : Digits) (text : Text) : Except Raised (List (Text × Counters)) :=
  let lines := ((splitlines text).filter fun line => strip line ≠ []).map split
  if lines = [] ∨ lines.length % 2 = 1 then .error (.valueError "malformed protocol table")
  else do
    let protocols ← parseProtocolLines digits lines
    .ok (dictionary Prod.fst protocols)

/-- `parse_required_protocol_table`. -/
def parseRequiredProtocolTable (digits : Digits) (text : Text) (required : String) :
    Except Raised (List (Text × Counters)) := do
  let table ← parseProtocolTable digits text
  if (table.lookup required.toList).isNone then
    .error (.valueError ("missing " ++ required ++ " protocol table"))
  else .ok table

/-- `TCP_COUNTERS`. -/
def tcpCounters : List (String × String) :=
  [("ActiveOpens", "tcp_active_opens"), ("PassiveOpens", "tcp_passive_opens"),
    ("AttemptFails", "tcp_attempt_failures"), ("EstabResets", "tcp_established_resets"),
    ("CurrEstab", "tcp_current_established"), ("RetransSegs", "tcp_retransmitted_segments"),
    ("OutRsts", "tcp_outbound_resets")]

/-- `TCPEXT_COUNTERS`. -/
def tcpextCounters : List (String × String) :=
  [("ListenOverflows", "tcp_listen_overflows"), ("ListenDrops", "tcp_listen_drops"),
    ("TCPAbortOnData", "tcp_abort_on_data"), ("TCPAbortOnMemory", "tcp_abort_on_memory"),
    ("TCPTimeouts", "tcp_timeouts")]

/-- The counters of a table under the names of their metrics. -/
def selectCounters (names : List (String × String)) (counters : Counters) : List (String × Int) :=
  names.filterMap fun name => (counters.lookup name.1.toList).map fun n => (name.2, n)

/-- `selected_tcp_counters_from_tables`. -/
def selectedTcpCounters (snmp netstat : List (Text × Counters)) : List (String × Int) :=
  selectCounters tcpCounters ((snmp.lookup "Tcp".toList).getD []) ++
  selectCounters tcpextCounters ((netstat.lookup "TcpExt".toList).getD [])

/-- A metric of the host in `tcp_counter_metrics`. -/
def tcpMetric (name : String) (value : Option MetricValue) (unit : String) (quality : Quality)
    (reset gap : Bool) : Metric :=
  { scope := "tcp"
    name
    value
    unit
    quality
    entityType := some "host"
    entityId := some "local"
    reset
    gap }

/-- The metrics of a counter in `tcp_counter_metrics`. -/
def tcpFieldMetrics (previous : Option (List (String × Int))) (elapsed maxGap : Option ℚ)
    (counter : String × Int) : List Metric :=
  let delta := counterDelta (previous.bind (·.lookup counter.1)) counter.2 (elapsed.getD 0) maxGap
  tcpMetric counter.1 (some (.integer counter.2)) "count" .exact false false ::
  if counter.1 = "tcp_current_established" then []
  else [tcpMetric (counter.1 ++ "_per_second") (delta.rate.map .real) "events/s" delta.quality delta.reset
    delta.gap]

/-- `tcp_counter_metrics`. -/
def tcpCounterMetrics (current : List (String × Int)) (previous : Option (List (String × Int)))
    (elapsed maxGap : Option ℚ) : List Metric :=
  (sortedBy Prod.fst current).flatMap (tcpFieldMetrics previous elapsed maxGap)

/-- What `_network_metrics` adds for the counters that are missing. -/
def missingTcpMetrics (current : List (String × Int)) : List Metric :=
  (sortedBy id (((tcpCounters ++ tcpextCounters).map Prod.snd).filter fun name =>
    (current.lookup name).isNone)).flatMap fun name =>
      tcpMetric name none "count" .unavailable false false ::
      if name = "tcp_current_established" then []
      else [tcpMetric (name ++ "_per_second") none "events/s" .unavailable false false]

/-! ## Disks -/

/-- `DiskCounters`. -/
structure DiskCounters where
  major : Int
  minor : Int
  name : String
  readsCompleted : Int
  sectorsRead : Int
  writesCompleted : Int
  sectorsWritten : Int
  ioMs : Int

/-- `DiskCounters.identity`. -/
def DiskCounters.identity (disk : DiskCounters) : String :=
  toString disk.major ++ ":" ++ toString disk.minor

/-- A row of `/proc/diskstats`. Rows that are not understood are skipped. -/
def parseDiskRow (digits : Digits) (raw : Text) : Option DiskCounters :=
  match split raw with
  | major :: minor :: name :: reads :: _ :: sectorsRead :: _ :: writes :: _ :: sectorsWritten :: _ :: _ ::
      ioMs :: _ :: _ => do
    some {
      major := ← toInt? digits major
      minor := ← toInt? digits minor
      name := String.ofList name
      readsCompleted := ← toInt? digits reads
      sectorsRead := ← toInt? digits sectorsRead
      writesCompleted := ← toInt? digits writes
      sectorsWritten := ← toInt? digits sectorsWritten
      ioMs := ← toInt? digits ioMs }
  | _ => none

/-- `parse_diskstats`. -/
def parseDiskstats (digits : Digits) (text : Text) : List DiskCounters :=
  dictionary DiskCounters.name ((splitlines text).filterMap (parseDiskRow digits))

/-- The counters of `disk_metrics`, in the units of their metrics. -/
def DiskCounters.cumulative (disk : DiskCounters) : List (String × Int × String) :=
  [("disk_reads_completed", disk.readsCompleted, "operations"),
    ("disk_read_bytes", disk.sectorsRead * 512, "bytes"),
    ("disk_writes_completed", disk.writesCompleted, "operations"),
    ("disk_written_bytes", disk.sectorsWritten * 512, "bytes"),
    ("disk_io_time_ms", disk.ioMs, "milliseconds")]

/-- The rate of a counter in `disk_metrics`. -/
def diskRateMetric (current : DiskCounters) (previous : Option DiskCounters) (elapsed maxGap : Option ℚ)
    (counter : String × Int × String) : Metric :=
  let replacement := previous.any fun previous => previous.identity ≠ current.identity
  let previousValue := if replacement then none else previous.bind fun previous =>
    (previous.cumulative.lookup counter.1).map Prod.fst
  let delta := counterDelta previousValue counter.2.1 (elapsed.getD 0) maxGap
  let isTime : Bool := counter.1 = "disk_io_time_ms"
  { scope := "disk"
    name := if isTime then "disk_utilization_percent" else counter.1 ++ "_per_second"
    value := (if isTime then delta.rate.map fun rate => min 100 (rate / 10) else delta.rate).map .real
    unit := if isTime then "percent" else if counter.2.2 = "bytes" then "B/s" else "ops/s"
    quality := delta.quality
    labels := [("device", current.name), ("device_id", current.identity)]
    entityType := some "disk"
    entityId := some ("disk:" ++ current.identity)
    reset := replacement || delta.reset
    gap := delta.gap }

/-- `disk_metrics`. -/
def diskMetrics (current : DiskCounters) (previous : Option DiskCounters) (elapsed maxGap : Option ℚ) :
    List Metric :=
  current.cumulative.map (fun counter =>
    { scope := "disk"
      name := counter.1
      value := some (.integer counter.2.1)
      unit := counter.2.2
      quality := .exact
      labels := [("device", current.name), ("device_id", current.identity)]
      entityType := some "disk"
      entityId := some ("disk:" ++ current.identity) }) ++
  current.cumulative.map (diskRateMetric current previous elapsed maxGap)

end Monitoring.Readers
