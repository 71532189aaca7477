import GostManager.Monitoring.Databases

/-!
# Monitoring: migration

`migrate_database` of `monitoring/schema.py`, statement by statement, for databases in the layouts of the versions 1
and 4. What it does only for the layouts between them is left out.
-/

namespace Monitoring.Schema

open Effects Tables Texts

/-! ## Legacy tables -/

/-- Rename a table that has the layout of version 1. The names of the tables are read again then. -/
def renameLegacy (name : TableName) (isLegacy : Database → Bool) (rename : Database → Except Raised Database)
    (names : List TableName) : Script Database Raised (List TableName) :=
  if names.contains name then do
    let legacy ← .query fun db => .ok (isLegacy db)
    if legacy then do
      .update rename
      .query fun db => .ok db.tables
    else pure names
  else pure names

/-- `"cycle_id" not in _columns(conn, "metric_samples")`. -/
def hasLegacySamples (db : Database) : Bool :=
  match db.metricSamples with
  | some (.v4 _) => false
  | _ => true

/-- `"entity_pk" not in _columns(conn, "tunnels")`. -/
def hasLegacyTunnels (db : Database) : Bool :=
  match db.tunnels with
  | some (.v4 _) => false
  | _ => true

/-- The statements of `_v4_statements`. -/
def createTables : List (Database → Database) :=
  [fun db => { db with schemaMigrations := some (db.schemaMigrations.getD []) },
    fun db => { db with sampleCycles := some (db.sampleCycles.getD .empty) },
    fun db => { db with entities := some (db.entities.getD .empty) },
    fun db => { db with tunnels := some (db.tunnels.getD (.v4 [])) },
    fun db => { db with metricSamples := some (db.metricSamples.getD (.v4 [])) },
    fun db => { db with metricPoints := some (db.metricPoints.getD []) },
    fun db => { db with minuteRollups := some (db.minuteRollups.getD []) },
    fun db => { db with events := some (db.events.getD .empty) },
    fun db => { db with collectorState := some (db.collectorState.getD []) }]

/-! ## Rows -/

variable (isWord : Char → Bool)

/-- A row of `tunnels_legacy` is copied. -/
def copyTunnel (now : Int) (row : LegacyTunnel) : Script Database Raised Unit := do
  let entityPk ← ensureEntity isWord "tunnel".toList row.tunnelId (some row.serviceName)
    [("service".toList, .string row.serviceName)] now
  .update (Database.insertTunnel { row with entityPk := some entityPk })

/-- The cycle of a row of `metric_samples_legacy`. -/
def legacyCycle (row : LegacySample) : Cycle where
  collectedAt := row.collectedAt
  monotonicStarted := row.collectedAt
  monotonicFinished := row.collectedAt
  durationSeconds := 0
  success := true
  overrun := false
  missedDeadlines := 0
  overrunSeconds := 0

/-- `None if value == 0 else value`. -/
def nonzero (value : Int) : Option Int := if value = 0 then none else some value

/-- The row that is inserted for a row of `metric_samples_legacy`. -/
def migratedSample (row : LegacySample) (cycleId : Nat) : SampleRow :=
  { row.toSampleValues with
    cycleId
    tunnelId := some row.tunnelId
    sampleIdentity := if row.tunnelId = [] then "host".toList else row.tunnelId
    rxBytes := nonzero row.rxBytes
    txBytes := nonzero row.txBytes }

/-- A row of `metric_samples_legacy` is copied. -/
def copySample (row : LegacySample) : Script Database Raised Unit := do
  let cycleId ← cycle (legacyCycle row)
  .update (Database.insertSample (migratedSample row cycleId))

/-- Do something if a table is there. -/
def ifTable (name : TableName) (script : Script Database Raised Unit) : Script Database Raised Unit := do
  let names ← .query fun db => .ok db.tables
  if names.contains name then script else pure ()

/-- `if "tunnels_legacy" in _tables(conn)`: the tunnels are copied. -/
def copyTunnels (now : Int) : Script Database Raised Unit :=
  ifTable .tunnelsLegacy do
    let rows ← .query fun db => named db.tunnelsLegacy
    .forEach (copyTunnel isWord now) rows

/-- `if "metric_samples_legacy" in _tables(conn)`: the samples are copied. -/
def copySamples : Script Database Raised Unit :=
  ifTable .metricSamplesLegacy do
    let rows ← .query fun db => named db.metricSamplesLegacy
    .forEach copySample rows

/-- The legacy tables are dropped. -/
def dropLegacy : Script Database Raised Unit := do
  ifTable .metricSamplesLegacy (.update fun db => .ok { db with metricSamplesLegacy := none })
  ifTable .tunnelsLegacy (.update fun db => .ok { db with tunnelsLegacy := none })

/-! ## Views and indexes -/

/-- `_ensure_metrics_view`. -/
def ensureMetricsView : Script Database Raised Unit := do
  let view ← .query fun db => .ok db.metricsView
  if view then .update fun db => .ok { db with metricsView := false } else pure ()
  .update fun db => if db.metricsView then .error .operationalError else .ok { db with metricsView := true }

/-- `_required_indexes`. -/
def requiredIndexes : List Index :=
  [⟨"idx_metric_points_lookup", .metricPoints, ["entity_pk", "metric_name", "ts"], false⟩,
    ⟨"idx_metric_points_time", .metricPoints, ["ts"], false⟩,
    ⟨"idx_metric_samples_time", .metricSamples, ["collected_at"], false⟩,
    ⟨"idx_metric_samples_identity", .metricSamples, ["cycle_id", "sample_identity"], true⟩,
    ⟨"idx_events_time", .events, ["ts"], false⟩,
    ⟨"idx_minute_rollups_time", .minuteRollups, ["minute_start"], false⟩]

/-- The tables whose indexes are listed. -/
def listedTables : List TableName := [.metricPoints, .entities, .metricSamples, .events, .minuteRollups]

/-- What is wrong with an index. -/
def indexProblem (listed : List Index) (required : Index) : Option Raised :=
  match listed.find? fun index => index.name = required.name with
  | none => some (.missingIndex required.name)
  | some index =>
    if index.table ≠ required.table then some (.indexOwner required.name index.table required.table)
    else if index.columns ≠ required.columns then some (.indexColumns required.name)
    else if index.unique ≠ required.unique then some (.indexUniqueness required.name)
    else none

/-- `_ensure_indexes`. -/
def ensureIndexes : Script Database Raised Unit := do
  .forEach (fun index => .update (Database.createIndex index)) requiredIndexes
  let listed ← .query fun db => .ok (db.indexes.filter fun index => listedTables.contains index.table)
  .forEach (fun index =>
    match indexProblem listed index with
    | some problem => .raise problem
    | none => pure ()) requiredIndexes

/-! ## Migration -/

/-- `inject_failure`. -/
inductive Injection where
  | afterCreate
  | afterIndexes
  deriving DecidableEq

/-- `SCHEMA_VERSION`. -/
def schemaVersion : Int := 4

/-- The tables whose rows are counted before. -/
def relevant : List TableName := [.tunnels, .metricSamples, .metricPoints, .minuteRollups, .sampleCycles]

/-- The tables whose rows are counted after. -/
def counted : List TableName := [.tunnels, .metricSamples, .metricPoints, .sampleCycles]

/-- `name.endswith("_legacy")`. -/
def TableName.isLegacy : TableName → Bool
  | .tunnelsLegacy | .metricSamplesLegacy => true
  | _ => false

/-- The tables that there have to be. -/
def requiredTables : List TableName :=
  [.schemaMigrations, .sampleCycles, .entities, .tunnels, .metricSamples, .metricPoints, .minuteRollups, .events,
    .collectorState]

/-- The numbers of rows of tables. -/
def countRows (names : List TableName) : Script Database Raised (List (TableName × Nat)) :=
  .collect (fun name => .query fun db => (db.count name).map fun n => (name, n)) names

/-- `counts.get("tunnels", 0)`. -/
def tunnelCount (counts : List (TableName × Nat)) : Nat := (counts.lookup .tunnels).getD 0

/-- Raise an exception where a condition holds. -/
def raiseIf (condition : Bool) (e : Raised) : Script Database Raised Unit := if condition then .raise e else pure ()

/-- The checks at the end. -/
def checkMigrated (preCounts : List (TableName × Nat)) : Script Database Raised Unit := do
  let postCounts ← countRows counted
  raiseIf (tunnelCount preCounts != 0 && tunnelCount postCounts < tunnelCount preCounts) .rowCountDecreased
  let legacyLeft ← .query fun db => .ok (db.tables.filter TableName.isLegacy)
  raiseIf (!legacyLeft.isEmpty) (.staleTables legacyLeft)
  let violated ← .query fun db => .ok db.violatesForeignKeys
  raiseIf violated .foreignKeyCheck
  let missing ← .query fun db => .ok (requiredTables.filter fun name => !db.tables.contains name)
  raiseIf (!missing.isEmpty) (.missingTables missing)
  let version ← version
  raiseIf (version != schemaVersion) .versionPostcondition

/-- The end of the transaction, when the rows are copied. -/
def finishMigration (now : Int) (injectFailure : Option Injection) (preCounts : List (TableName × Nat)) :
    Script Database Raised Unit := do
  dropLegacy
  ensureMetricsView
  .update (Database.recordVersion schemaVersion now)
  .update Database.deleteDuplicates
  ensureIndexes
  raiseIf (injectFailure = some .afterIndexes) .injectedFailure
  checkMigrated preCounts

/-- What `migrate_database` does in its transaction. -/
def migration (now : Int) (injectFailure : Option Injection) : Script Database Raised Unit := do
  let version ← version
  let names ← .query fun db => .ok db.tables
  raiseIf (schemaVersion < version) (.unsupportedVersion version)
  let preCounts ← countRows (names.filter relevant.contains)
  let names ← renameLegacy .metricSamples hasLegacySamples Database.renameSamples names
  let _ ← renameLegacy .tunnels hasLegacyTunnels Database.renameTunnels names
  .forEach (fun create => .update fun db => .ok (create db)) createTables
  raiseIf (injectFailure = some .afterCreate) .injectedFailure
  copyTunnels isWord now
  let _ ← ensureEntity isWord "host".toList "local".toList (some "local host".toList) [] now
  copySamples
  finishMigration now injectFailure preCounts

/-- `migrate_database`, where statements may be made to raise: how it ends, and the database then. -/
def migrateDatabase (now : Int) (injectFailure : Option Injection) (faults : Faults Raised) (db : Database) :
    Except Raised Unit × Database :=
  Script.transaction (migration isWord now injectFailure) faults db

/-! ## What a migration keeps -/

/-- A database of version 1: the rows of its tables, with the constraints on them and the stricter ones of
version 4 on the tunnels. -/
structure VersionOne where
  appliedAt : Int
  tunnels : List LegacyTunnel
  samples : List LegacySample
  tunnelIds : (tunnels.map (·.tunnelId)).Nodup
  serviceNames : (tunnels.map (·.serviceName)).Nodup
  profiles : (tunnels.map fun tunnel => (tunnel.side, tunnel.tunnelNumber)).Nodup
  sides : ∀ tunnel ∈ tunnels, isSide tunnel.side
  sampleIds : (samples.map (·.sampleId)).Nodup
  collected : (samples.map fun sample => (sample.tunnelId, sample.collectedAt)).Nodup
  refers : ∀ sample ∈ samples, ∃ tunnel ∈ tunnels, tunnel.tunnelId = sample.tunnelId

/-- The tables of a database of version 1. -/
def VersionOne.database (source : VersionOne) : Database where
  schemaMigrations := some [(1, source.appliedAt)]
  tunnels := some (.v1 source.tunnels)
  metricSamples := some (.v1 source.samples)

/-- No sample of a tunnel without an id was collected when one of a tunnel `host` was. -/
def VersionOne.HostUnambiguous (source : VersionOne) : Prop :=
  ∀ sample ∈ source.samples, ∀ other ∈ source.samples, sample.collectedAt = other.collectedAt →
    sample.tunnelId = [] → other.tunnelId ≠ "host".toList

/-- A sample after the migration. -/
structure IsMigrated (sample : LegacySample) (row : SampleRow) : Prop where
  values : row.toSampleValues = sample.toSampleValues
  tunnelId : row.tunnelId = some sample.tunnelId
  sampleIdentity : row.sampleIdentity = if sample.tunnelId = [] then "host".toList else sample.tunnelId
  rxBytes : row.rxBytes = if sample.rxBytes = 0 then none else some sample.rxBytes
  txBytes : row.txBytes = if sample.txBytes = 0 then none else some sample.txBytes

/-- A database of version 4 has the rows of one of version 1, and one cycle for each time at which samples were
collected. -/
structure VersionOne.KeptIn (source : VersionOne) (db : Database) : Prop where
  version : db.maxVersion = .ok schemaVersion
  tables : ∀ name, name ∈ db.tables ↔ name.isLegacy = false
  tunnels : ∃ rows, db.tunnels = some (.v4 rows) ∧ rows.map TunnelRow.toLegacyTunnel = source.tunnels
  samples : ∃ rows cycles, db.metricSamples = some (.v4 rows) ∧ db.sampleCycles = some cycles ∧
    List.Forall₂ IsMigrated source.samples rows ∧
    (∀ row ∈ rows, (row.cycleId, row.collectedAt) ∈ cycles.column Cycle.collectedAt) ∧
    (cycles.rows.map fun row => row.2.collectedAt).Nodup ∧
    ∀ collectedAt, collectedAt ∈ cycles.rows.map (fun row => row.2.collectedAt) ↔
      ∃ sample ∈ source.samples, sample.collectedAt = collectedAt

/-- Run `migrate_database` again, any number of times. -/
def migrateAgain (db : Database) (runs : List (Int × Option Injection × Faults Raised)) : Database :=
  runs.foldl (fun db run => (migrateDatabase isWord run.1 run.2.1 run.2.2 db).2) db

end Monitoring.Schema
