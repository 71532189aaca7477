import Mathlib.Data.Rat.Defs
import GostManager.Effects.Transactions
import GostManager.Monitoring.Sanitizing
import GostManager.Tables.Sequences

/-!
# Monitoring: the database

The tables of `monitoring/schema.py`, in the layouts of the versions 1 and 4, and the statements on them. Cells
have the types of their columns.
-/

namespace Monitoring.Schema

open Effects Tables Texts

/-! ## Rows -/

/-- The columns of `tunnels` in version 1. -/
structure LegacyTunnel where
  tunnelId : Text
  side : Text
  tunnelNumber : Int
  serviceName : Text
  envPath : Text
  listenPortsJson : Text
  targetPortsJson : Text
  updatedAt : Int
  deriving DecidableEq

/-- The columns of `tunnels` in version 4. -/
structure TunnelRow extends LegacyTunnel where
  entityPk : Option Nat
  deriving DecidableEq

/-- The columns of `metric_samples` that are the same in both versions. -/
structure SampleValues where
  sampleId : Int
  collectedAt : Int
  serviceState : Int
  serviceSubstate : Int
  restartCount : Int
  listenPortsTotal : Int
  listenPortsUp : Int
  configuredMappingsTotal : Int
  deriving DecidableEq

/-- The columns of `metric_samples` in version 1. -/
structure LegacySample extends SampleValues where
  tunnelId : Text
  rxBytes : Int
  txBytes : Int
  deriving DecidableEq

/-- The columns of `metric_samples` in version 4. -/
structure SampleRow extends SampleValues where
  cycleId : Nat
  tunnelId : Option Text
  sampleIdentity : Text
  rxBytes : Option Int
  txBytes : Option Int
  deriving DecidableEq

/-- The columns of `sample_cycles`, apart from `cycle_id`. -/
structure Cycle where
  collectedAt : Int
  monotonicStarted : ℚ
  monotonicFinished : ℚ
  durationSeconds : ℚ
  success : Bool
  overrun : Bool
  missedDeadlines : Int
  overrunSeconds : ℚ
  deriving DecidableEq

/-- The columns of `entities`, apart from `entity_pk`. -/
structure Entity where
  entityType : Text
  entityId : Text
  displayName : Option Text
  metadataJson : Text
  updatedAt : Int
  deriving DecidableEq

/-- The columns of `metric_points` that refer to other tables. -/
structure PointReferences where
  cycleId : Nat
  entityPk : Nat
  deriving DecidableEq

/-- The columns of `events`, apart from `event_id`. -/
structure EventRow where
  ts : Int
  severity : Text
  code : Text
  message : Text
  detailsJson : Text
  deriving DecidableEq

/-- `Event`. -/
structure Event where
  ts : Int
  severity : Text
  code : Text
  message : Text
  details : List (Text × Json)

/-! ## Tables -/

/-- The rows of a table in the layout of one of the versions. -/
inductive Layout (α β : Type) where
  | v1 (rows : List α)
  | v4 (rows : List β)
  deriving DecidableEq

/-- The names of tables. -/
inductive TableName where
  | schemaMigrations | tunnels | metricSamples | tunnelsLegacy | metricSamplesLegacy | sampleCycles | entities
  | metricPoints | minuteRollups | events | collectorState
  deriving DecidableEq

/-- An index. -/
structure Index where
  name : String
  table : TableName
  columns : List String
  unique : Bool
  deriving DecidableEq

/-- The tables that there are. Of `metric_points` there are the references only, of `minute_rollups` the entities.
What other tables there may be in version 1 is not touched. -/
structure Database where
  schemaMigrations : Option (List (Int × Int)) := none
  tunnels : Option (Layout LegacyTunnel TunnelRow) := none
  metricSamples : Option (Layout LegacySample SampleRow) := none
  tunnelsLegacy : Option (List LegacyTunnel) := none
  metricSamplesLegacy : Option (List LegacySample) := none
  sampleCycles : Option (Sequenced Cycle) := none
  entities : Option (Sequenced Entity) := none
  metricPoints : Option (List PointReferences) := none
  minuteRollups : Option (List Nat) := none
  events : Option (Sequenced EventRow) := none
  collectorState : Option (List (Text × Text)) := none
  indexes : List Index := []
  metricsView : Bool := false

/-- The exceptions: those of SQLite, that of a row that is not there, and `RuntimeError` with what its message
names. -/
inductive Raised where
  | operationalError
  | integrityError
  | typeError
  /-- `unsupported schema version ...` -/
  | unsupportedVersion (version : Int)
  /-- `injected migration failure` -/
  | injectedFailure
  /-- `missing index: ...` -/
  | missingIndex (name : String)
  /-- `index ... is owned by ..., expected ...` -/
  | indexOwner (name : String) (actual expected : TableName)
  /-- `index ... has wrong columns` -/
  | indexColumns (name : String)
  /-- `index ... uniqueness mismatch` -/
  | indexUniqueness (name : String)
  /-- `tunnel migration row count decreased` -/
  | rowCountDecreased
  /-- `stale legacy tables remain: ...` -/
  | staleTables (names : List TableName)
  /-- `foreign key check failed: ...` -/
  | foreignKeyCheck
  /-- `missing required tables: ...` -/
  | missingTables (names : List TableName)
  /-- `schema v4 postcondition failed` -/
  | versionPostcondition
  deriving DecidableEq

/-- A table that a statement names. -/
def named {α : Type} (table : Option α) : Except Raised α :=
  match table with
  | none => .error .operationalError
  | some rows => .ok rows

/-- The first column of a row that was fetched. -/
def fetched {α : Type} (row : Option α) : Except Raised α :=
  match row with
  | none => .error .typeError
  | some a => .ok a

/-! ## Constraints and updates of rows -/

/-- The unique columns of `entities`. -/
def entityKey (entity : Entity) : Text × Text := (entity.entityType, entity.entityId)

/-- What the upsert of `ensure_entity` makes of an entity that there is. -/
def updateEntity (excluded entity : Entity) : Entity :=
  { entity with
    displayName := excluded.displayName
    metadataJson := if excluded.metadataJson = "\x7b\x7d".toList then entity.metadataJson else excluded.metadataJson
    updatedAt := excluded.updatedAt }

/-- What the upsert of `_cycle` makes of a cycle that there is. -/
def updateCycle (excluded cycle : Cycle) : Cycle := { excluded with collectedAt := cycle.collectedAt }

/-- Two tunnels violate `PRIMARY KEY` or `UNIQUE`. -/
def tunnelsConflict (row other : TunnelRow) : Bool :=
  row.tunnelId = other.tunnelId || row.serviceName = other.serviceName ||
    (row.side = other.side && row.tunnelNumber = other.tunnelNumber)

/-- `CHECK(side IN('iran','kharej'))`. -/
def isSide (side : Text) : Bool := side = "iran".toList || side = "kharej".toList

namespace Database

/-- `_tables`. -/
def tables (db : Database) : List TableName :=
  (if db.schemaMigrations.isSome then [.schemaMigrations] else []) ++
  (if db.tunnels.isSome then [.tunnels] else []) ++
  (if db.metricSamples.isSome then [.metricSamples] else []) ++
  (if db.tunnelsLegacy.isSome then [.tunnelsLegacy] else []) ++
  (if db.metricSamplesLegacy.isSome then [.metricSamplesLegacy] else []) ++
  (if db.sampleCycles.isSome then [.sampleCycles] else []) ++
  (if db.entities.isSome then [.entities] else []) ++
  (if db.metricPoints.isSome then [.metricPoints] else []) ++
  (if db.minuteRollups.isSome then [.minuteRollups] else []) ++
  (if db.events.isSome then [.events] else []) ++
  (if db.collectorState.isSome then [.collectorState] else [])

/-- `SELECT COUNT(*)`, of the tables whose rows are counted. -/
def count (name : TableName) (db : Database) : Except Raised Nat :=
  match name with
  | .tunnels => (named db.tunnels).map fun
    | .v1 rows => rows.length
    | .v4 rows => rows.length
  | .metricSamples => (named db.metricSamples).map fun
    | .v1 rows => rows.length
    | .v4 rows => rows.length
  | .metricPoints => (named db.metricPoints).map List.length
  | .minuteRollups => (named db.minuteRollups).map List.length
  | .sampleCycles => (named db.sampleCycles).map fun table => table.rows.length
  | _ => .error .operationalError

/-- `SELECT MAX(version) FROM schema_migrations`, and 0 where there is none. -/
def maxVersion (db : Database) : Except Raised Int :=
  (named db.schemaMigrations).map fun rows => ((rows.map Prod.fst).max?).getD 0

/-! ## Entities, events and cycles -/

/-- The upsert of `ensure_entity`. -/
def upsertEntity (entity : Entity) (db : Database) : Except Raised Database :=
  (named db.entities).map fun table =>
    { db with entities := some (table.upsert entityKey (updateEntity entity) entity) }

/-- `SELECT entity_pk FROM entities WHERE entity_type=? AND entity_id=?`. -/
def entityPk (entityType entityId : Text) (db : Database) : Except Raised Nat := do
  let table ← named db.entities
  fetched (table.keyOf entityKey (entityType, entityId))

/-- The upsert of `_cycle`. -/
def upsertCycle (cycle : Cycle) (db : Database) : Except Raised Database :=
  (named db.sampleCycles).map fun table =>
    { db with sampleCycles := some (table.upsert Cycle.collectedAt (updateCycle cycle) cycle) }

/-- `SELECT cycle_id FROM sample_cycles WHERE collected_at=?`. -/
def cycleId (collectedAt : Int) (db : Database) : Except Raised Nat := do
  let table ← named db.sampleCycles
  fetched (table.keyOf Cycle.collectedAt collectedAt)

/-- The insertion of `insert_event`. -/
def insertEventRow (row : EventRow) (db : Database) : Except Raised Database :=
  (named db.events).map fun table => { db with events := some (table.insert row) }

/-! ## Tunnels and samples -/

/-- The tunnels of version 4. -/
def tunnelRows (db : Database) : Except Raised (List TunnelRow) :=
  match db.tunnels with
  | some (.v4 rows) => .ok rows
  | _ => .error .operationalError

/-- The samples of version 4. -/
def sampleRows (db : Database) : Except Raised (List SampleRow) :=
  match db.metricSamples with
  | some (.v4 rows) => .ok rows
  | _ => .error .operationalError

/-- Whether an entity is there. -/
def hasEntity (pk : Nat) (db : Database) : Bool := db.entities.any fun table => table.rows.any fun row => row.1 = pk

/-- Whether a cycle is there. -/
def hasCycle (id : Nat) (db : Database) : Bool := db.sampleCycles.any fun table => table.rows.any fun row => row.1 = id

/-- Whether a tunnel is there. -/
def hasTunnel (tunnelId : Text) (db : Database) : Bool :=
  match db.tunnels with
  | some (.v4 rows) => rows.any fun row => row.tunnelId = tunnelId
  | _ => false

/-- `INSERT OR IGNORE INTO tunnels`. -/
def insertTunnel (row : TunnelRow) (db : Database) : Except Raised Database := do
  let rows ← db.tunnelRows
  if !isSide row.side || rows.any (tunnelsConflict row) then return db
  if row.entityPk.any fun pk => !db.hasEntity pk then throw .integrityError
  return { db with tunnels := some (.v4 (rows ++ [row])) }

/-- Whether the unique index of the identities is there. -/
def hasIdentityIndex (db : Database) : Bool :=
  db.indexes.any fun index => index.table = .metricSamples && index.unique && index.columns = ["cycle_id", "sample_identity"]

/-- Two samples violate `PRIMARY KEY`, `UNIQUE` or the unique index. -/
def samplesConflict (db : Database) (row other : SampleRow) : Bool :=
  row.sampleId = other.sampleId ||
    (row.cycleId = other.cycleId && row.tunnelId.isSome && row.tunnelId = other.tunnelId) ||
    (db.hasIdentityIndex && row.cycleId = other.cycleId && row.sampleIdentity = other.sampleIdentity)

/-- `INSERT OR IGNORE INTO metric_samples`. -/
def insertSample (row : SampleRow) (db : Database) : Except Raised Database := do
  let rows ← db.sampleRows
  if rows.any (db.samplesConflict row) then return db
  if !db.hasCycle row.cycleId || row.tunnelId.any fun tunnelId => !db.hasTunnel tunnelId then throw .integrityError
  return { db with metricSamples := some (.v4 (rows ++ [row])) }

/-- `DELETE FROM metric_samples WHERE sample_id NOT IN (SELECT MIN(sample_id) FROM metric_samples GROUP BY
cycle_id,sample_identity)`. -/
def deleteDuplicates (db : Database) : Except Raised Database := do
  let rows ← db.sampleRows
  let kept := rows.filter fun row => rows.all fun other =>
    !(other.cycleId = row.cycleId && other.sampleIdentity = row.sampleIdentity) || row.sampleId ≤ other.sampleId
  return { db with metricSamples := some (.v4 kept) }

/-! ## The schema -/

/-- `INSERT OR REPLACE INTO schema_migrations(version,applied_at)`. -/
def recordVersion (version appliedAt : Int) (db : Database) : Except Raised Database :=
  (named db.schemaMigrations).map fun rows =>
    { db with schemaMigrations := some (rows.filter (fun row => row.1 ≠ version) ++ [(version, appliedAt)]) }

/-- `ALTER TABLE metric_samples RENAME TO metric_samples_legacy`. -/
def renameSamples (db : Database) : Except Raised Database :=
  match db.metricSamples, db.metricSamplesLegacy with
  | some (.v1 rows), none => .ok { db with metricSamples := none, metricSamplesLegacy := some rows }
  | _, _ => .error .operationalError

/-- `ALTER TABLE tunnels RENAME TO tunnels_legacy`. -/
def renameTunnels (db : Database) : Except Raised Database :=
  match db.tunnels, db.tunnelsLegacy with
  | some (.v1 rows), none => .ok { db with tunnels := none, tunnelsLegacy := some rows }
  | _, _ => .error .operationalError

/-- `CREATE INDEX IF NOT EXISTS`. A unique one on the identities needs distinct ones. -/
def createIndex (index : Index) (db : Database) : Except Raised Database := do
  if db.indexes.any fun other => other.name = index.name then return db
  if !db.tables.contains index.table then throw .operationalError
  if index.unique then
    let rows ← db.sampleRows
    if !decide ((rows.map fun row => (row.cycleId, row.sampleIdentity)).Nodup) then throw .integrityError
  return { db with indexes := db.indexes ++ [index] }

/-- `PRAGMA foreign_key_check`: whether a reference leads nowhere. -/
def violatesForeignKeys (db : Database) : Bool :=
  (match db.tunnels with
    | some (.v4 rows) => rows.any fun row => row.entityPk.any fun pk => !db.hasEntity pk
    | _ => false) ||
  (match db.metricSamples with
    | some (.v4 rows) => rows.any fun row =>
      !db.hasCycle row.cycleId || row.tunnelId.any fun tunnelId => !db.hasTunnel tunnelId
    | _ => false) ||
  (db.metricPoints.any fun rows => rows.any fun row => !db.hasCycle row.cycleId || !db.hasEntity row.entityPk) ||
  (db.minuteRollups.any fun rows => rows.any fun pk => !db.hasEntity pk)

end Database

/-! ## Functions of the schema -/

variable (isWord : Char → Bool)

/-- `ensure_entity`. -/
def ensureEntity (entityType entityId : Text) (display : Option Text) (metadata : List (Text × Json)) (now : Int) :
    Script Database Raised Nat := do
  .update (Database.upsertEntity {
    entityType
    entityId
    displayName := display
    metadataJson := (Json.object (sanitizeMapping isWord metadata)).dumps
    updatedAt := now })
  .query (Database.entityPk entityType entityId)

/-- `insert_event`. -/
def insertEvent (event : Event) : Script Database Raised Unit :=
  .update (Database.insertEventRow {
    ts := event.ts
    severity := event.severity
    code := event.code
    message := event.message
    detailsJson := (Json.object (sanitizeMapping isWord event.details)).dumps })

/-- `_cycle`. -/
def cycle (row : Cycle) : Script Database Raised Nat := do
  .update (Database.upsertCycle row)
  .query (Database.cycleId row.collectedAt)

/-- `_version`. -/
def version : Script Database Raised Int :=
  .handle (.query Database.maxVersion) fun e => if e = .operationalError then pure 0 else .raise e

end Monitoring.Schema
