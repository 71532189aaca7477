import GostManager.Effects.Proofs.TransactionsProofs
import GostManager.Monitoring.Migration
import GostManager.Tables.Proofs.SequencesProofs

/-!
# Proofs: migration

What each statement does to a database of version 4, from that what the copying of a database of version 1 leaves,
and that another migration leaves it alone.
-/

namespace Monitoring.Schema

open Effects Tables Texts

variable {isWord : Char → Bool} {faults : Faults Raised} {reason : Prop} {now : Int} {db : Database}

/-! ## Databases of version 4 -/

/-- The tables of version 4, apart from legacy ones. -/
structure VersionFour where
  schemaMigrations : List (Int × Int)
  tunnels : List TunnelRow
  metricSamples : List SampleRow
  sampleCycles : Sequenced Cycle
  entities : Sequenced Entity
  metricPoints : List PointReferences
  minuteRollups : List Nat
  events : Sequenced EventRow
  collectorState : List (Text × Text)
  indexes : List Index
  metricsView : Bool

/-- The tables of version 4 and legacy ones. -/
def VersionFour.database (v : VersionFour) (tunnelsLegacy : Option (List LegacyTunnel))
    (metricSamplesLegacy : Option (List LegacySample)) : Database where
  schemaMigrations := some v.schemaMigrations
  tunnels := some (.v4 v.tunnels)
  metricSamples := some (.v4 v.metricSamples)
  tunnelsLegacy
  metricSamplesLegacy
  sampleCycles := some v.sampleCycles
  entities := some v.entities
  metricPoints := some v.metricPoints
  minuteRollups := some v.minuteRollups
  events := some v.events
  collectorState := some v.collectorState
  indexes := v.indexes
  metricsView := v.metricsView

/-- All references lead to rows. -/
structure VersionFour.Intact (v : VersionFour) : Prop where
  tunnels : ∀ tunnel ∈ v.tunnels, ∀ pk ∈ tunnel.entityPk, pk ∈ v.entities.keys
  cycles : ∀ sample ∈ v.metricSamples, sample.cycleId ∈ v.sampleCycles.keys
  samples : ∀ sample ∈ v.metricSamples, ∀ id ∈ sample.tunnelId, ∃ tunnel ∈ v.tunnels, tunnel.tunnelId = id
  points : ∀ point ∈ v.metricPoints, point.cycleId ∈ v.sampleCycles.keys ∧ point.entityPk ∈ v.entities.keys
  rollups : ∀ pk ∈ v.minuteRollups, pk ∈ v.entities.keys

section Statements

variable {v : VersionFour} {tunnelsLegacy : Option (List LegacyTunnel)} {samplesLegacy : Option (List LegacySample)}

theorem hasEntity_database {pk : Nat} :
    (v.database tunnelsLegacy samplesLegacy).hasEntity pk = true ↔ pk ∈ v.entities.keys := by
  simp [Database.hasEntity, VersionFour.database, Sequenced.keys]

theorem hasCycle_database {id : Nat} :
    (v.database tunnelsLegacy samplesLegacy).hasCycle id = true ↔ id ∈ v.sampleCycles.keys := by
  simp [Database.hasCycle, VersionFour.database, Sequenced.keys]

theorem hasTunnel_database {id : Text} :
    (v.database tunnelsLegacy samplesLegacy).hasTunnel id = true ↔ ∃ tunnel ∈ v.tunnels, tunnel.tunnelId = id := by
  simp [Database.hasTunnel, VersionFour.database]

/-- A tunnel without a conflict is inserted. -/
theorem insertTunnel_database {row : TunnelRow} (hside : isSide row.side = true)
    (hconflict : ∀ other ∈ v.tunnels, tunnelsConflict row other = false)
    (hpk : ∀ pk ∈ row.entityPk, pk ∈ v.entities.keys) :
    (v.database tunnelsLegacy samplesLegacy).insertTunnel row =
      .ok ({ v with tunnels := v.tunnels ++ [row] }.database tunnelsLegacy samplesLegacy) := by
  have hany : (v.tunnels.any (tunnelsConflict row)) = false := by
    rw [List.any_eq_false]
    intro other hother
    rw [hconflict other hother]
    exact Bool.false_ne_true
  have hreference : (row.entityPk.any fun pk => !(v.database tunnelsLegacy samplesLegacy).hasEntity pk) = false := by
    cases hrow : row.entityPk with
    | none => rfl
    | some pk =>
      rw [Option.any_some, hasEntity_database.2 (hpk pk hrow)]
      rfl
  have hrows : (v.database tunnelsLegacy samplesLegacy).tunnelRows = .ok v.tunnels := rfl
  unfold Database.insertTunnel
  simp only [hrows, bind, Except.bind, hside, hany, hreference, Bool.not_true, Bool.or_self, Bool.false_eq_true,
    if_false]
  rfl

/-- A sample without a conflict is inserted. -/
theorem insertSample_database (row : SampleRow)
    (hconflict : ∀ other ∈ v.metricSamples,
      Database.samplesConflict (v.database tunnelsLegacy samplesLegacy) row other = false)
    (hcycle : row.cycleId ∈ v.sampleCycles.keys)
    (htunnel : ∀ id ∈ row.tunnelId, ∃ tunnel ∈ v.tunnels, tunnel.tunnelId = id) :
    (v.database tunnelsLegacy samplesLegacy).insertSample row =
      .ok ({ v with metricSamples := v.metricSamples ++ [row] }.database tunnelsLegacy samplesLegacy) := by
  have hrows : (v.database tunnelsLegacy samplesLegacy).sampleRows = .ok v.metricSamples := rfl
  have hany : (v.metricSamples.any ((v.database tunnelsLegacy samplesLegacy).samplesConflict row)) = false := by
    rw [List.any_eq_false]
    intro other hother
    rw [hconflict other hother]
    exact Bool.false_ne_true
  have hreference : (row.tunnelId.any fun id => !(v.database tunnelsLegacy samplesLegacy).hasTunnel id) = false := by
    cases hrow : row.tunnelId with
    | none => rfl
    | some id =>
      rw [Option.any_some, hasTunnel_database.2 (htunnel id hrow)]
      rfl
  unfold Database.insertSample
  simp only [hrows, bind, Except.bind, hany, hreference, hasCycle_database.2 hcycle, Bool.not_true, Bool.or_self,
    Bool.false_eq_true, if_false]
  rfl

/-- Where the identities are distinct, there are no duplicates. -/
theorem deleteDuplicates_database
    (h : (v.metricSamples.map fun row => (row.cycleId, row.sampleIdentity)).Nodup) :
    (v.database tunnelsLegacy samplesLegacy).deleteDuplicates = .ok (v.database tunnelsLegacy samplesLegacy) := by
  have hkept : (v.metricSamples.filter fun row => v.metricSamples.all fun other =>
      !(other.cycleId = row.cycleId && other.sampleIdentity = row.sampleIdentity) ||
        row.sampleId ≤ other.sampleId) = v.metricSamples := by
    rw [List.filter_eq_self]
    intro row hrow
    rw [List.all_eq_true]
    intro other hother
    by_cases hsame : other.cycleId = row.cycleId ∧ other.sampleIdentity = row.sampleIdentity
    · have heq : other = row := List.inj_on_of_nodup_map h hother hrow (Prod.ext hsame.1 hsame.2)
      rw [heq]
      simp
    · have hdistinct : (decide (other.cycleId = row.cycleId) &&
          decide (other.sampleIdentity = row.sampleIdentity)) = false := by
        rw [← Bool.decide_and]
        exact decide_eq_false hsame
      rw [hdistinct]
      rfl
  have hrows : (v.database tunnelsLegacy samplesLegacy).sampleRows = .ok v.metricSamples := rfl
  unfold Database.deleteDuplicates
  simp only [hrows, bind, Except.bind, hkept]
  rfl

/-- No reference leads nowhere. -/
theorem violatesForeignKeys_database (h : v.Intact) :
    (v.database tunnelsLegacy samplesLegacy).violatesForeignKeys = false := by
  have htunnels : (v.tunnels.any fun row =>
      row.entityPk.any fun pk => !(v.database tunnelsLegacy samplesLegacy).hasEntity pk) = false := by
    rw [List.any_eq_false]
    intro row hrow
    cases hpk : row.entityPk with
    | none => exact Bool.false_ne_true
    | some pk =>
      rw [Option.any_some, hasEntity_database.2 (h.tunnels row hrow pk hpk)]
      exact Bool.false_ne_true
  have hsamples : (v.metricSamples.any fun row => !(v.database tunnelsLegacy samplesLegacy).hasCycle row.cycleId ||
      row.tunnelId.any fun id => !(v.database tunnelsLegacy samplesLegacy).hasTunnel id) = false := by
    rw [List.any_eq_false]
    intro row hrow
    rw [hasCycle_database.2 (h.cycles row hrow)]
    cases hid : row.tunnelId with
    | none => exact Bool.false_ne_true
    | some id =>
      rw [Option.any_some, hasTunnel_database.2 (h.samples row hrow id hid)]
      exact Bool.false_ne_true
  have hpoints : (v.metricPoints.any fun row => !(v.database tunnelsLegacy samplesLegacy).hasCycle row.cycleId ||
      !(v.database tunnelsLegacy samplesLegacy).hasEntity row.entityPk) = false := by
    rw [List.any_eq_false]
    intro row hrow
    rw [hasCycle_database.2 (h.points row hrow).1, hasEntity_database.2 (h.points row hrow).2]
    exact Bool.false_ne_true
  have hrollups : (v.minuteRollups.any fun pk => !(v.database tunnelsLegacy samplesLegacy).hasEntity pk) = false := by
    rw [List.any_eq_false]
    intro pk hmem
    rw [hasEntity_database.2 (h.rollups pk hmem)]
    exact Bool.false_ne_true
  change (((v.tunnels.any _ || v.metricSamples.any _) || v.metricPoints.any _) || v.minuteRollups.any _) = false
  rw [htunnels, hsamples, hpoints, hrollups]
  rfl

/-! ## Parts -/

/-- The tables where there are no legacy ones. -/
theorem tables_database : (v.database none none).tables =
    [.schemaMigrations, .tunnels, .metricSamples, .sampleCycles, .entities, .metricPoints, .minuteRollups, .events,
      .collectorState] := by
  simp [Database.tables, VersionFour.database]

theorem contains_tables (name : TableName) : (v.database tunnelsLegacy samplesLegacy).tables.contains name =
    match name with
    | .tunnelsLegacy => tunnelsLegacy.isSome
    | .metricSamplesLegacy => samplesLegacy.isSome
    | _ => true := by
  cases tunnelsLegacy <;> cases samplesLegacy <;> cases name <;> simp [Database.tables, VersionFour.database]

theorem wp_version {n : Int} {Q : Int → Database → Prop} (h : db.maxVersion = .ok n) (hQ : Q n db)
    (hzero : Faulty faults → Q 0 db) : version.wp faults reason Q db := by
  refine Script.wp_handle_query h hQ fun hfaulty e => ?_
  split
  · exact Script.wp_pure (hzero hfaulty)
  · exact Script.wp_raise (.inl hfaulty)

/-- The number of the rows of a table. -/
def rowsIn (db : Database) (name : TableName) : Nat :=
  match db.count name with
  | .ok n => n
  | .error _ => 0

theorem wp_countRows {names : List TableName} {Q : List (TableName × Nat) → Database → Prop}
    (h : ∀ name ∈ names, ∃ n, db.count name = .ok n) (hQ : Q (names.map fun name => (name, rowsIn db name)) db) :
    (countRows names).wp faults reason Q db := by
  refine Script.wp_collect_query (g := fun name => (name, rowsIn db name)) ?_ hQ
  intro name hname
  obtain ⟨n, hn⟩ := h name hname
  rw [rowsIn, hn]
  rfl

theorem wp_ifTable {name : TableName} {script : Script Database Raised Unit} {Q : Unit → Database → Prop}
    (hthere : db.tables.contains name = true → script.wp faults reason Q db)
    (hmissing : db.tables.contains name = false → Q () db) : (ifTable name script).wp faults reason Q db := by
  refine Script.wp_bind (Script.wp_query rfl ?_)
  by_cases h : db.tables.contains name = true
  · rw [if_pos h]
    exact hthere h
  · rw [if_neg h]
    exact Script.wp_pure (hmissing (Bool.eq_false_iff.2 h))

theorem wp_raiseIf {condition : Bool} {e : Raised} {Q : Unit → Database → Prop} (h : condition = true → reason)
    (hQ : Q () db) : (raiseIf condition e).wp faults reason Q db := by
  cases condition with
  | true => exact Script.wp_raise (.inr (h rfl))
  | false => exact Script.wp_pure hQ

theorem entityKey_updateEntity (row other : Entity) (_ : entityKey other = entityKey row) :
    entityKey (updateEntity row other) = entityKey other := rfl

theorem collectedAt_updateCycle (row other : Cycle) (_ : other.collectedAt = row.collectedAt) :
    (updateCycle row other).collectedAt = other.collectedAt := rfl

/-- The entity is there then, and no other is gone. -/
theorem wp_ensureEntity {entityType entityId : Text} {display : Option Text} {metadata : List (Text × Json)}
    {Q : Nat → Database → Prop}
    (h : ∀ pk entities, pk ∈ entities.keys → (∀ k ∈ v.entities.keys, k ∈ entities.keys) →
      Q pk ({ v with entities }.database tunnelsLegacy samplesLegacy)) :
    (ensureEntity isWord entityType entityId display metadata now).wp faults reason Q
      (v.database tunnelsLegacy samplesLegacy) := by
  refine Script.wp_bind (Script.wp_update rfl ?_)
  let entity : Entity := {
    entityType
    entityId
    displayName := display
    metadataJson := (Json.object (sanitizeMapping isWord metadata)).dumps
    updatedAt := now }
  obtain ⟨pk, hpk, hmem⟩ := Sequenced.exists_keyOf_upsert v.entities (entityKey_updateEntity entity)
  refine Script.wp_query (a := pk) ?_ ?_
  · change fetched ((v.entities.upsert entityKey (updateEntity entity) entity).keyOf entityKey (entityKey entity)) =
      .ok pk
    rw [hpk]
    rfl
  · exact h pk _ (Sequenced.mem_keys_iff.2 ⟨_, hmem⟩) fun k hk =>
      Sequenced.keys_subset_upsert (entityKey_updateEntity entity) hk

/-- The cycle of a time is there then. -/
theorem wp_cycle {row : Cycle} {Q : Nat → Database → Prop}
    (h : ∀ id, (id, row.collectedAt) ∈
        (v.sampleCycles.upsert Cycle.collectedAt (updateCycle row) row).column Cycle.collectedAt →
      Q id ({ v with sampleCycles := v.sampleCycles.upsert Cycle.collectedAt (updateCycle row) row }.database
        tunnelsLegacy samplesLegacy)) :
    (cycle row).wp faults reason Q (v.database tunnelsLegacy samplesLegacy) := by
  refine Script.wp_bind (Script.wp_update rfl ?_)
  obtain ⟨id, hid, hmem⟩ := Sequenced.exists_keyOf_upsert v.sampleCycles (collectedAt_updateCycle row)
  refine Script.wp_query (a := id) ?_ (h id hmem)
  change fetched (Sequenced.keyOf Cycle.collectedAt _ _) = .ok id
  rw [hid]
  rfl

theorem contains_tables_of_not_legacy {name : TableName} (h : name.isLegacy = false) :
    (v.database tunnelsLegacy samplesLegacy).tables.contains name = true := by
  rw [contains_tables]
  cases name <;> first | rfl | cases h

theorem wp_ifTable_of_none {script : Script Database Raised Unit} {Q : Unit → Database → Prop} {name : TableName}
    (hname : name.isLegacy = true) (hQ : Q () (v.database none none)) :
    (ifTable name script).wp faults reason Q (v.database none none) := by
  have hmissing : (v.database none none).tables.contains name = false := by
    rw [tables_database]
    cases name <;> first | rfl | cases hname
  refine wp_ifTable (fun hthere => ?_) fun _ => hQ
  rw [hmissing] at hthere
  cases hthere

/-- The indexes are created, unless they are there. -/
theorem wp_createIndexes (hindexes : v.indexes = [] ∨ v.indexes = requiredIndexes)
    (hidentities : (v.metricSamples.map fun row => (row.cycleId, row.sampleIdentity)).Nodup) :
    (Script.forEach (fun index => .update (Database.createIndex index)) requiredIndexes).wp faults reason
      (fun _ db => db = { v with indexes := requiredIndexes }.database tunnelsLegacy samplesLegacy)
      (v.database tunnelsLegacy samplesLegacy) := by
  rcases hindexes with hnone | hall
  · refine Script.wp_forEach
      (I := fun before db => db = { v with indexes := before }.database tunnelsLegacy samplesLegacy) ?_ (by rw [← hnone])
    rintro before index after _ hsplit rfl
    refine Script.wp_update (t := { v with indexes := before ++ [index] }.database tunnelsLegacy samplesLegacy) ?_ rfl
    have hmem : index ∈ requiredIndexes := by
      rw [hsplit]
      exact List.mem_append_right _ List.mem_cons_self
    have htable : index.table.isLegacy = false := (by decide : ∀ index ∈ requiredIndexes, index.table.isLegacy = false) index hmem
    have hnodup : (requiredIndexes.map Index.name).Nodup := by decide
    have hnew : (before.any fun other => other.name = index.name) = false := by
      rw [List.any_eq_false]
      intro other hother hname
      rw [hsplit, List.map_append, List.nodup_append] at hnodup
      exact hnodup.2.2 _ (List.mem_map_of_mem hother) _ (List.mem_map_of_mem List.mem_cons_self)
        (of_decide_eq_true hname)
    have hrows : (VersionFour.database { v with indexes := before } tunnelsLegacy samplesLegacy).sampleRows =
      .ok v.metricSamples := rfl
    unfold Database.createIndex
    change (if (before.any fun other => other.name = index.name) = true then _ else _) = _
    rw [hnew, contains_tables_of_not_legacy htable, hrows]
    simp only [Bool.not_true, Bool.false_eq_true, if_false, bind, Except.bind, decide_eq_true hidentities]
    split <;> rfl
  · refine Script.wp_forEach
      (I := fun _ db => db = { v with indexes := requiredIndexes }.database tunnelsLegacy samplesLegacy) ?_
      (by rw [← hall])
    rintro before index after _ hsplit rfl
    refine Script.wp_update (t := { v with indexes := requiredIndexes }.database tunnelsLegacy samplesLegacy) ?_ rfl
    have hold : (requiredIndexes.any fun other => other.name = index.name) = true := by
      rw [List.any_eq_true]
      refine ⟨index, ?_, decide_eq_true rfl⟩
      rw [hsplit]
      exact List.mem_append_right _ List.mem_cons_self
    unfold Database.createIndex
    change (if (requiredIndexes.any fun other => other.name = index.name) = true then _ else _) = _
    rw [if_pos hold]
    rfl

theorem wp_ensureIndexes (hindexes : v.indexes = [] ∨ v.indexes = requiredIndexes)
    (hidentities : (v.metricSamples.map fun row => (row.cycleId, row.sampleIdentity)).Nodup) :
    ensureIndexes.wp faults reason
      (fun _ db => db = { v with indexes := requiredIndexes }.database tunnelsLegacy samplesLegacy)
      (v.database tunnelsLegacy samplesLegacy) := by
  refine Script.wp_bind (Script.wp_mono (wp_createIndexes hindexes hidentities) ?_)
  rintro _ _ rfl
  refine Script.wp_bind (Script.wp_query rfl ?_)
  have hlisted : (({ v with indexes := requiredIndexes } : VersionFour).database tunnelsLegacy samplesLegacy).indexes.filter
      (fun index => listedTables.contains index.table) = requiredIndexes :=
    (by decide : requiredIndexes.filter (fun index => listedTables.contains index.table) = requiredIndexes)
  change Script.wp faults reason (Script.forEach _ requiredIndexes) _ _
  refine Script.wp_forEach
    (I := fun _ db => db = { v with indexes := requiredIndexes }.database tunnelsLegacy samplesLegacy) ?_ rfl
  rintro before index after _ hsplit rfl
  have hmem : index ∈ requiredIndexes := by
    rw [hsplit]
    exact List.mem_append_right _ List.mem_cons_self
  have hright : indexProblem requiredIndexes index = none :=
    (by decide : ∀ index ∈ requiredIndexes, indexProblem requiredIndexes index = none) index hmem
  rw [hlisted, hright]
  exact Script.wp_pure rfl

theorem wp_dropLegacy : dropLegacy.wp faults reason (fun _ db => db = v.database none none)
    (v.database tunnelsLegacy samplesLegacy) := by
  have hsamples : (ifTable .metricSamplesLegacy (.update fun db => .ok { db with metricSamplesLegacy := none })).wp faults
      reason (fun _ db => db = v.database tunnelsLegacy none) (v.database tunnelsLegacy samplesLegacy) := by
    refine wp_ifTable (fun _ => Script.wp_update rfl rfl) fun hmissing => ?_
    rw [contains_tables] at hmissing
    rw [Option.isSome_eq_false_iff.1 hmissing |> Option.isNone_iff_eq_none.1]
  refine Script.wp_bind (Script.wp_mono hsamples ?_)
  rintro _ _ rfl
  refine wp_ifTable (fun _ => Script.wp_update rfl rfl) fun hmissing => ?_
  rw [contains_tables] at hmissing
  rw [Option.isSome_eq_false_iff.1 hmissing |> Option.isNone_iff_eq_none.1]

theorem wp_ensureMetricsView : ensureMetricsView.wp faults reason
    (fun _ db => db = { v with metricsView := true }.database tunnelsLegacy samplesLegacy)
    (v.database tunnelsLegacy samplesLegacy) := by
  refine Script.wp_bind (Script.wp_query rfl ?_)
  by_cases h : (v.database tunnelsLegacy samplesLegacy).metricsView = true
  · simp only [if_pos h]
    exact Script.wp_bind (Script.wp_update rfl (Script.wp_update rfl rfl))
  · simp only [if_neg h]
    exact Script.wp_update (if_neg h) rfl

theorem wp_checkMigrated {preCounts : List (TableName × Nat)} (hversion : (v.database none none).maxVersion = .ok 4)
    (hcount : tunnelCount preCounts ≤ v.tunnels.length) (hintact : v.Intact) :
    (checkMigrated preCounts).wp faults reason (fun _ db => db = v.database none none) (v.database none none) := by
  refine Script.wp_bind (wp_countRows ?_ ?_)
  · intro name hname
    cases name <;> first | exact ⟨_, rfl⟩ | exact absurd hname (by decide)
  have hpost : tunnelCount (counted.map fun name => (name, rowsIn (v.database none none) name)) = v.tunnels.length := rfl
  refine Script.wp_bind (wp_raiseIf ?_ ?_)
  · rw [hpost, Bool.and_eq_true, decide_eq_true_iff]
    omega
  refine Script.wp_bind (Script.wp_query rfl (Script.wp_bind (wp_raiseIf ?_ ?_)))
  · intro hlegacy
    rw [tables_database] at hlegacy
    cases hlegacy
  refine Script.wp_bind (Script.wp_query rfl (Script.wp_bind (wp_raiseIf ?_ ?_)))
  · rw [violatesForeignKeys_database hintact]
    exact nofun
  refine Script.wp_bind (Script.wp_query rfl (Script.wp_bind (wp_raiseIf ?_ ?_)))
  · intro hmissing
    rw [tables_database] at hmissing
    cases hmissing
  refine Script.wp_bind (wp_version hversion ?_ fun hfaulty => ?_)
  · exact Script.wp_pure rfl
  · exact Script.wp_raise (.inl hfaulty)

/-- A database of version 4 after the end of a migration. -/
def VersionFour.finished (v : VersionFour) (now : Int) : VersionFour :=
  { v with
    schemaMigrations := v.schemaMigrations.filter (fun row => row.1 ≠ schemaVersion) ++ [(schemaVersion, now)]
    indexes := requiredIndexes
    metricsView := true }

/-- What the end of a migration needs. -/
structure VersionFour.Ready (v : VersionFour) : Prop where
  versions : ∀ row ∈ v.schemaMigrations, row.1 ≤ schemaVersion
  indexes : v.indexes = [] ∨ v.indexes = requiredIndexes
  identities : (v.metricSamples.map fun row => (row.cycleId, row.sampleIdentity)).Nodup
  intact : v.Intact

theorem maxVersion_finished (h : ∀ row ∈ v.schemaMigrations, row.1 ≤ schemaVersion) :
    ((v.finished now).database none none).maxVersion = .ok schemaVersion := by
  have hmax : (((v.finished now).schemaMigrations).map Prod.fst).max? = some schemaVersion := by
    rw [List.max?_eq_some_iff]
    constructor
    · exact List.mem_map.2 ⟨(schemaVersion, now), List.mem_append_right _ (List.mem_singleton_self _), rfl⟩
    · intro n hn
      obtain ⟨row, hrow, rfl⟩ := List.mem_map.1 hn
      rcases List.mem_append.1 hrow with hrow | hrow
      · exact h row (List.mem_filter.1 hrow).1
      · rw [List.mem_singleton.1 hrow]
  change Except.ok ((((v.finished now).schemaMigrations).map Prod.fst).max?.getD 0) = _
  rw [hmax]
  rfl

/-- The end of a migration leaves the rows. -/
theorem wp_finishMigration {injectFailure : Option Injection} {preCounts : List (TableName × Nat)} (h : v.Ready)
    (hcount : tunnelCount preCounts ≤ v.tunnels.length) (hreason : injectFailure ≠ none → reason) :
    (finishMigration now injectFailure preCounts).wp faults reason
      (fun _ db => db = (v.finished now).database none none) (v.database tunnelsLegacy samplesLegacy) := by
  refine Script.wp_bind (Script.wp_mono wp_dropLegacy ?_)
  rintro _ _ rfl
  refine Script.wp_bind (Script.wp_mono wp_ensureMetricsView ?_)
  rintro _ _ rfl
  refine Script.wp_bind (Script.wp_update rfl ?_)
  refine Script.wp_bind (Script.wp_update
    (deleteDuplicates_database (v := { (v.finished now) with indexes := v.indexes }) h.identities) ?_)
  refine Script.wp_bind (Script.wp_mono
    (wp_ensureIndexes (v := { (v.finished now) with indexes := v.indexes }) h.indexes h.identities) ?_)
  rintro _ _ rfl
  refine Script.wp_bind (wp_raiseIf ?_ ?_)
  · intro hinject
    apply hreason
    rw [of_decide_eq_true hinject]
    exact Option.some_ne_none _
  · exact wp_checkMigrated (maxVersion_finished h.versions) hcount
      ⟨h.intact.tunnels, h.intact.cycles, h.intact.samples, h.intact.points, h.intact.rollups⟩

end Statements

/-! ## Copying -/

section Copying

variable {v : VersionFour} {source : VersionOne} {tunnelsLegacy : Option (List LegacyTunnel)}
  {samplesLegacy : Option (List LegacySample)}

theorem ne_of_nodup_map {α β : Type} {f : α → β} {before after : List α} {a b : α}
    (h : ((before ++ b :: after).map f).Nodup) (hmem : a ∈ before) : f a ≠ f b := by
  rw [List.map_append, List.nodup_append] at h
  exact h.2.2 _ (List.mem_map_of_mem hmem) _ (List.mem_map_of_mem List.mem_cons_self)

/-- All tunnels are copied. -/
theorem wp_copyTunnels (hv : v.tunnels = []) : (copyTunnels isWord now).wp faults reason
    (fun _ db => ∃ entities tunnels,
      db = { v with entities, tunnels }.database (some source.tunnels) samplesLegacy ∧
      tunnels.map TunnelRow.toLegacyTunnel = source.tunnels ∧
      ∀ tunnel ∈ tunnels, ∀ pk ∈ tunnel.entityPk, pk ∈ entities.keys)
    (v.database (some source.tunnels) samplesLegacy) := by
  refine wp_ifTable (fun _ => Script.wp_bind (Script.wp_query rfl ?_)) fun hmissing => ?_
  · refine Script.wp_forEach
      (I := fun before db => ∃ entities tunnels,
        db = { v with entities, tunnels }.database (some source.tunnels) samplesLegacy ∧
        tunnels.map TunnelRow.toLegacyTunnel = before ∧
        ∀ tunnel ∈ tunnels, ∀ pk ∈ tunnel.entityPk, pk ∈ entities.keys) ?_ ⟨v.entities, [], by rw [← hv], rfl, nofun⟩
    rintro before row after _ hsplit ⟨entities, tunnels, rfl, hcopied, hpks⟩
    refine Script.wp_bind (wp_ensureEntity fun pk entities' hpk hkeys => ?_)
    have hrow : row ∈ source.tunnels := by
      rw [hsplit]
      exact List.mem_append_right _ List.mem_cons_self
    have hconflict : ∀ other ∈ tunnels, tunnelsConflict { row with entityPk := some pk } other = false := by
      intro other hother
      have hbefore : other.toLegacyTunnel ∈ before := hcopied ▸ List.mem_map_of_mem hother
      have hid := ne_of_nodup_map (hsplit ▸ source.tunnelIds) hbefore
      have hservice := ne_of_nodup_map (hsplit ▸ source.serviceNames) hbefore
      have hprofile := ne_of_nodup_map (hsplit ▸ source.profiles) hbefore
      simp only [tunnelsConflict, Bool.or_eq_false_iff, Bool.and_eq_false_iff, decide_eq_false_iff_not]
      refine ⟨⟨hid.symm, hservice.symm⟩, ?_⟩
      by_contra hboth
      rw [not_or, not_not, not_not] at hboth
      exact hprofile (Prod.ext hboth.1.symm hboth.2.symm)
    have hpk' : ∀ k ∈ some pk, k ∈ entities'.keys := by
      rintro k ⟨⟩
      exact hpk
    refine Script.wp_update (insertTunnel_database (v := { v with entities := entities', tunnels })
      (source.sides row hrow) hconflict hpk') ?_
    refine ⟨entities', tunnels ++ [{ row with entityPk := some pk }], rfl, ?_, ?_⟩
    · rw [List.map_append, hcopied]
      rfl
    · intro tunnel htunnel k hk
      rcases List.mem_append.1 htunnel with htunnel | htunnel
      · exact hkeys k (hpks tunnel htunnel k hk)
      · rw [List.mem_singleton.1 htunnel] at hk
        exact hpk' k hk
  · rw [contains_tables] at hmissing
    cases hmissing

/-- The samples that are copied, and their cycles. -/
structure SamplesCopied (copied : List LegacySample) (samples : List SampleRow) (cycles : Sequenced Cycle) : Prop where
  migrated : List.Forall₂ IsMigrated copied samples
  cycle : ∀ row ∈ samples, (row.cycleId, row.collectedAt) ∈ cycles.column Cycle.collectedAt
  distinct : ((cycles.column Cycle.collectedAt).map Prod.snd).Nodup
  times : ∀ time, time ∈ (cycles.column Cycle.collectedAt).map Prod.snd ↔ ∃ sample ∈ copied, sample.collectedAt = time

variable {copied : List LegacySample} {samples : List SampleRow} {cycles : Sequenced Cycle} {row : LegacySample}

theorem isMigrated_migratedSample (row : LegacySample) (id : Nat) : IsMigrated row (migratedSample row id) :=
  ⟨rfl, rfl, rfl, rfl, rfl⟩

theorem samplesCopied_nil : SamplesCopied [] [] .empty where
  migrated := .nil
  cycle _ h := nomatch h
  distinct := List.nodup_nil
  times time := by
    constructor
    · intro h
      cases h
    · rintro ⟨_, h, -⟩
      cases h

/-- One more sample is copied, with its cycle. -/
theorem SamplesCopied.concat {id : Nat} (h : SamplesCopied copied samples cycles)
    (hid : (id, row.collectedAt) ∈
      (cycles.upsert Cycle.collectedAt (updateCycle (legacyCycle row)) (legacyCycle row)).column Cycle.collectedAt) :
    SamplesCopied (copied ++ [row]) (samples ++ [migratedSample row id])
      (cycles.upsert Cycle.collectedAt (updateCycle (legacyCycle row)) (legacyCycle row)) where
  migrated := List.rel_append h.migrated (.cons (isMigrated_migratedSample row id) .nil)
  cycle := by
    intro sample hsample
    rcases List.mem_append.1 hsample with hsample | hsample
    · exact Sequenced.column_subset_upsert (collectedAt_updateCycle _) (h.cycle sample hsample)
    · rw [List.mem_singleton.1 hsample]
      exact hid
  distinct := Sequenced.nodup_values_upsert (collectedAt_updateCycle _) h.distinct
  times time := by
    rw [Sequenced.mem_values_upsert (collectedAt_updateCycle _), h.times]
    constructor
    · rintro (⟨sample, hsample, htime⟩ | htime)
      · exact ⟨sample, List.mem_append_left _ hsample, htime⟩
      · exact ⟨row, List.mem_append_right _ (List.mem_singleton_self _), htime.symm⟩
    · rintro ⟨sample, hsample, htime⟩
      rcases List.mem_append.1 hsample with hsample | hsample
      · exact .inl ⟨sample, hsample, htime⟩
      · rw [List.mem_singleton.1 hsample] at htime
        exact .inr htime.symm

/-- A copied sample is one of those that were there. -/
theorem SamplesCopied.exists_source (h : SamplesCopied copied samples cycles) {sample : SampleRow}
    (hsample : sample ∈ samples) : ∃ source ∈ copied, IsMigrated source sample := by
  obtain ⟨i, hi, rfl⟩ := List.mem_iff_getElem.1 hsample
  have hlt : i < copied.length := h.migrated.length_eq ▸ hi
  exact ⟨copied[i], List.getElem_mem hlt, (List.forall₂_iff_get.1 h.migrated).2 i hlt hi⟩

/-- Samples of one cycle were collected at one time. -/
theorem SamplesCopied.collectedAt_eq (h : SamplesCopied copied samples cycles) {sample other : SampleRow}
    (hsample : sample ∈ samples) (hother : other ∈ samples) (hcycle : sample.cycleId = other.cycleId) :
    sample.collectedAt = other.collectedAt := by
  have hmem := h.cycle sample hsample
  rw [hcycle] at hmem
  exact Sequenced.eq_of_mem_column hmem (h.cycle other hother)

/-- Without the unique index, samples only conflict in their ids, or in cycle and tunnel. -/
theorem samplesConflict_eq_false {row other : SampleRow} (hindexes : v.indexes = [])
    (hid : row.sampleId ≠ other.sampleId) (hsame : ¬ (row.cycleId = other.cycleId ∧ row.tunnelId = other.tunnelId)) :
    (v.database tunnelsLegacy samplesLegacy).samplesConflict row other = false := by
  have hindex : (v.database tunnelsLegacy samplesLegacy).hasIdentityIndex = false := by
    unfold Database.hasIdentityIndex VersionFour.database
    rw [hindexes]
    rfl
  have hpair : (decide (row.cycleId = other.cycleId) && row.tunnelId.isSome && decide (row.tunnelId = other.tunnelId)) =
      false := by
    by_contra hboth
    rw [Bool.not_eq_false, Bool.and_eq_true, Bool.and_eq_true, decide_eq_true_iff, decide_eq_true_iff] at hboth
    exact hsame ⟨hboth.1.1, hboth.2⟩
  unfold Database.samplesConflict
  rw [hindex, hpair, decide_eq_false hid]
  rfl

/-- All samples are copied, each with a cycle of its time. -/
theorem wp_copySamples (hindexes : v.indexes = []) (hsamples : v.metricSamples = []) (hcycles : v.sampleCycles = .empty)
    (htunnels : v.tunnels.map TunnelRow.toLegacyTunnel = source.tunnels) : copySamples.wp faults reason
    (fun _ db => ∃ cycles samples,
      db = { v with sampleCycles := cycles, metricSamples := samples }.database tunnelsLegacy (some source.samples) ∧
      SamplesCopied source.samples samples cycles)
    (v.database tunnelsLegacy (some source.samples)) := by
  refine wp_ifTable (fun _ => Script.wp_bind (Script.wp_query rfl ?_)) fun hmissing => ?_
  · refine Script.wp_forEach
      (I := fun before db => ∃ cycles samples,
        db = { v with sampleCycles := cycles, metricSamples := samples }.database tunnelsLegacy
          (some source.samples) ∧
        SamplesCopied before samples cycles) ?_
      ⟨.empty, [], by rw [← hcycles, ← hsamples], samplesCopied_nil⟩
    rintro before row after _ hsplit ⟨cycles, samples, rfl, hcopied⟩
    refine Script.wp_bind (wp_cycle fun id hid => ?_)
    have hnext := hcopied.concat hid
    have hrow : row ∈ source.samples := by
      rw [hsplit]
      exact List.mem_append_right _ List.mem_cons_self
    have hconflict : ∀ other ∈ samples, Database.samplesConflict
        ({ v with
          sampleCycles := cycles.upsert Cycle.collectedAt (updateCycle (legacyCycle row)) (legacyCycle row)
          metricSamples := samples }.database tunnelsLegacy (some source.samples))
        (migratedSample row id) other = false := by
      intro other hother
      obtain ⟨sample, hsample, hmigrated⟩ := hcopied.exists_source hother
      have hsampleId := ne_of_nodup_map (hsplit ▸ source.sampleIds) hsample
      have hcollected := ne_of_nodup_map (hsplit ▸ source.collected) hsample
      have hsame : ¬ (id = other.cycleId ∧ some row.tunnelId = other.tunnelId) := by
        rintro ⟨hcycle, htunnel⟩
        have hother' := hnext.cycle other (List.mem_append_left _ hother)
        rw [← hcycle] at hother'
        have htime : other.collectedAt = row.collectedAt := Sequenced.eq_of_mem_column hother' hid
        rw [hmigrated.values] at htime
        rw [hmigrated.tunnelId] at htunnel
        exact hcollected (Prod.ext (Option.some.inj htunnel).symm htime)
      refine samplesConflict_eq_false hindexes ?_ hsame
      change row.sampleId ≠ other.sampleId
      rw [hmigrated.values]
      exact hsampleId.symm
    refine Script.wp_update (insertSample_database (migratedSample row id) hconflict ?_ ?_) ?_
    · exact Sequenced.mem_keys_iff.2 ⟨_, hid⟩
    · rintro _ ⟨⟩
      obtain ⟨tunnel, htunnel, hname⟩ := source.refers row hrow
      rw [← htunnels] at htunnel
      obtain ⟨copy, hcopy, rfl⟩ := List.mem_map.1 htunnel
      exact ⟨copy, hcopy, hname⟩
    · exact ⟨_, _, rfl, hnext⟩
  · rw [contains_tables] at hmissing
    cases hmissing

theorem map_eq_map_of_forall₂ {α β γ : Type} {R : α → β → Prop} {f : α → γ} {g : β → γ} {as : List α} {bs : List β}
    (h : List.Forall₂ R as bs) (heq : ∀ a b, R a b → f a = g b) : as.map f = bs.map g := by
  induction h with
  | nil => rfl
  | cons hab _ ih => rw [List.map_cons, List.map_cons, heq _ _ hab, ih]

/-- The identity of a sample and its time tell it apart, unless `host` is ambiguous. -/
theorem nodup_identities (hhost : source.HostUnambiguous) : (source.samples.map fun sample =>
    (sample.collectedAt, if sample.tunnelId = [] then "host".toList else sample.tunnelId)).Nodup := by
  refine List.Nodup.map_on ?_ source.collected.of_map
  intro sample hsample other hother heq
  obtain ⟨htime, hidentity⟩ := Prod.mk.inj heq
  have htunnel : sample.tunnelId = other.tunnelId := by
    by_cases hempty : sample.tunnelId = []
    · by_cases hempty' : other.tunnelId = []
      · rw [hempty, hempty']
      · rw [if_pos hempty, if_neg hempty'] at hidentity
        exact absurd hidentity.symm (hhost sample hsample other hother htime hempty)
    · by_cases hempty' : other.tunnelId = []
      · rw [if_neg hempty, if_pos hempty'] at hidentity
        exact absurd hidentity (hhost other hother sample hsample htime.symm hempty')
      · rwa [if_neg hempty, if_neg hempty'] at hidentity
  exact List.inj_on_of_nodup_map source.collected hsample hother (Prod.ext htunnel htime)

/-- So the copied samples have distinct identities in their cycles. -/
theorem SamplesCopied.identities (h : SamplesCopied source.samples samples cycles) (hhost : source.HostUnambiguous) :
    (samples.map fun row => (row.cycleId, row.sampleIdentity)).Nodup := by
  have hmap : (source.samples.map fun sample =>
      (sample.collectedAt, if sample.tunnelId = [] then "host".toList else sample.tunnelId)) =
      samples.map fun row => (row.collectedAt, row.sampleIdentity) := by
    refine map_eq_map_of_forall₂ h.migrated fun sample row hrow => ?_
    rw [hrow.values, hrow.sampleIdentity]
  have hnodup := nodup_identities hhost
  rw [hmap] at hnodup
  refine List.Nodup.map_on ?_ hnodup.of_map
  intro row hrow other hother heq
  obtain ⟨hcycle, hidentity⟩ := Prod.mk.inj heq
  exact List.inj_on_of_nodup_map hnodup hrow hother (Prod.ext (h.collectedAt_eq hrow hother hcycle) hidentity)

/-! ## Migrations -/

theorem wp_renameLegacy_of_current {name : TableName} {isLegacy : Database → Bool}
    {rename : Database → Except Raised Database} {names : List TableName} {Q : List TableName → Database → Prop}
    (h : isLegacy db = false) (hQ : Q names db) : (renameLegacy name isLegacy rename names).wp faults reason Q db := by
  unfold renameLegacy
  split
  · refine Script.wp_bind (Script.wp_query rfl ?_)
    rw [h]
    exact Script.wp_pure hQ
  · exact Script.wp_pure hQ

theorem wp_renameLegacy_of_legacy {name : TableName} {isLegacy : Database → Bool}
    {rename : Database → Except Raised Database} {names : List TableName} {Q : List TableName → Database → Prop}
    {db' : Database} (hname : names.contains name = true) (h : isLegacy db = true) (hrename : rename db = .ok db')
    (hQ : Q db'.tables db') : (renameLegacy name isLegacy rename names).wp faults reason Q db := by
  unfold renameLegacy
  rw [if_pos hname]
  refine Script.wp_bind (Script.wp_query rfl ?_)
  rw [h, if_pos rfl]
  exact Script.wp_bind (Script.wp_update hrename (Script.wp_query rfl hQ))

/-- The tables of version 4 that are created for a database of version 1. -/
def VersionOne.created (source : VersionOne) : VersionFour where
  schemaMigrations := [(1, source.appliedAt)]
  tunnels := []
  metricSamples := []
  sampleCycles := .empty
  entities := .empty
  metricPoints := []
  minuteRollups := []
  events := .empty
  collectorState := []
  indexes := []
  metricsView := false

/-- A migration of a database of version 1 keeps its rows. -/
theorem wp_migration_versionOne {injectFailure : Option Injection} (hhost : source.HostUnambiguous)
    (hreason : injectFailure ≠ none → reason) : (migration isWord now injectFailure).wp faults reason
    (fun _ db => ∃ v : VersionFour, v.Ready ∧ db = (v.finished now).database none none ∧
      v.tunnels.map TunnelRow.toLegacyTunnel = source.tunnels ∧
      SamplesCopied source.samples v.metricSamples v.sampleCycles) source.database := by
  refine Script.wp_bind (Script.wp_mono (R := fun n db => n ≤ schemaVersion ∧ db = source.database)
    (wp_version (n := 1) rfl ⟨by decide, rfl⟩ fun _ => ⟨by decide, rfl⟩) ?_)
  rintro n _ ⟨hn, rfl⟩
  refine Script.wp_bind (Script.wp_query rfl ?_)
  refine Script.wp_bind (wp_raiseIf (fun hlt => absurd (of_decide_eq_true hlt) (not_lt.2 hn)) ?_)
  have htables : source.database.tables = [.schemaMigrations, .tunnels, .metricSamples] := by
    simp [Database.tables, VersionOne.database]
  have hnames : source.database.tables.filter relevant.contains = [.tunnels, .metricSamples] := by
    rw [htables]
    rfl
  refine Script.wp_bind (wp_countRows ?_ ?_)
  · rw [hnames]
    intro name hname
    rcases List.mem_pair.1 hname with rfl | rfl
    · exact ⟨_, rfl⟩
    · exact ⟨_, rfl⟩
  have hcount : tunnelCount ((source.database.tables.filter relevant.contains).map
      fun name => (name, rowsIn source.database name)) = source.tunnels.length := by
    rw [hnames]
    rfl
  refine Script.wp_bind (wp_renameLegacy_of_legacy rfl rfl rfl ?_)
  refine Script.wp_bind (wp_renameLegacy_of_legacy rfl rfl rfl ?_)
  refine Script.wp_bind (Script.wp_forEach_update ?_)
  refine Script.wp_bind (wp_raiseIf ?_ ?_)
  · intro hinject
    apply hreason
    rw [of_decide_eq_true hinject]
    exact Option.some_ne_none _
  refine Script.wp_bind (Script.wp_mono (wp_copyTunnels (v := source.created) rfl) ?_)
  rintro _ _ ⟨entities, tunnels, rfl, htunnels, hpks⟩
  refine Script.wp_bind (wp_ensureEntity fun pk entities' hpk hkeys => ?_)
  refine Script.wp_bind (Script.wp_mono (wp_copySamples rfl rfl rfl htunnels) ?_)
  rintro _ _ ⟨cycles, samples, rfl, hcopied⟩
  let v : VersionFour := { source.created with
    entities := entities'
    tunnels
    sampleCycles := cycles
    metricSamples := samples }
  have hready : v.Ready := by
    refine ⟨?_, .inl rfl, hcopied.identities hhost, ?_, ?_, ?_, nofun, nofun⟩
    · intro row hrow
      rw [List.mem_singleton.1 hrow]
      exact (by decide : (1 : Int) ≤ schemaVersion)
    · exact fun tunnel htunnel k hk => hkeys k (hpks tunnel htunnel k hk)
    · exact fun sample hsample => Sequenced.mem_keys_iff.2 ⟨_, hcopied.cycle sample hsample⟩
    · intro sample hsample id hid
      obtain ⟨legacy, hlegacy, hmigrated⟩ := hcopied.exists_source hsample
      obtain ⟨tunnel, htunnel, hname⟩ := source.refers legacy hlegacy
      rw [← htunnels] at htunnel
      obtain ⟨copy, hcopy, rfl⟩ := List.mem_map.1 htunnel
      rw [hmigrated.tunnelId] at hid
      cases hid
      exact ⟨copy, hcopy, hname⟩
  have hlength : tunnels.length = source.tunnels.length := by rw [← htunnels, List.length_map]
  refine Script.wp_mono (wp_finishMigration (v := v) hready (by rw [hcount]; exact hlength.ge) hreason) ?_
  rintro _ _ rfl
  exact ⟨v, hready, rfl, htunnels, hcopied⟩

theorem ready_finished (now : Int) (h : v.Ready) : (v.finished now).Ready where
  versions := by
    intro row hrow
    rcases List.mem_append.1 hrow with hrow | hrow
    · exact h.versions row (List.mem_filter.1 hrow).1
    · rw [List.mem_singleton.1 hrow]
  indexes := .inr rfl
  identities := h.identities
  intact := ⟨h.intact.tunnels, h.intact.cycles, h.intact.samples, h.intact.points, h.intact.rollups⟩

/-- The highest version that is recorded. -/
theorem exists_maxVersion (h : ∀ row ∈ v.schemaMigrations, row.1 ≤ schemaVersion) :
    ∃ n, (v.database none none).maxVersion = .ok n ∧ n ≤ schemaVersion := by
  refine ⟨_, rfl, ?_⟩
  change (v.schemaMigrations.map Prod.fst).max?.getD 0 ≤ schemaVersion
  cases hmax : (v.schemaMigrations.map Prod.fst).max? with
  | none => decide
  | some n =>
    obtain ⟨row, hrow, rfl⟩ := List.mem_map.1 (List.max?_eq_some_iff.1 hmax).1
    exact h row hrow

/-- A migration of a database of version 4 leaves its rows. -/
theorem wp_migration_versionFour {injectFailure : Option Injection} (h : v.Ready)
    (hreason : injectFailure ≠ none → reason) : (migration isWord now injectFailure).wp faults reason
    (fun _ db => ∃ w : VersionFour, w.Ready ∧ db = (w.finished now).database none none ∧ w.tunnels = v.tunnels ∧
      w.metricSamples = v.metricSamples ∧ w.sampleCycles = v.sampleCycles) (v.database none none) := by
  obtain ⟨n, hn, hle⟩ := exists_maxVersion h.versions
  refine Script.wp_bind (Script.wp_mono (R := fun n db => n ≤ schemaVersion ∧ db = v.database none none)
    (wp_version hn ⟨hle, rfl⟩ fun _ => ⟨by decide, rfl⟩) ?_)
  rintro n _ ⟨hn, rfl⟩
  refine Script.wp_bind (Script.wp_query rfl ?_)
  refine Script.wp_bind (wp_raiseIf (fun hlt => absurd (of_decide_eq_true hlt) (not_lt.2 hn)) ?_)
  refine Script.wp_bind (wp_countRows ?_ ?_)
  · intro name hname
    have hrelevant := (List.mem_filter.1 hname).2
    cases name <;> first | exact ⟨_, rfl⟩ | exact absurd hrelevant (by decide)
  have hcount : tunnelCount (((v.database none none).tables.filter relevant.contains).map
      fun name => (name, rowsIn (v.database none none) name)) = v.tunnels.length := by
    rw [tables_database]
    rfl
  refine Script.wp_bind (wp_renameLegacy_of_current rfl ?_)
  refine Script.wp_bind (wp_renameLegacy_of_current rfl ?_)
  refine Script.wp_bind (Script.wp_forEach_update ?_)
  refine Script.wp_bind (wp_raiseIf ?_ ?_)
  · intro hinject
    apply hreason
    rw [of_decide_eq_true hinject]
    exact Option.some_ne_none _
  refine Script.wp_bind (wp_ifTable_of_none rfl ?_)
  refine Script.wp_bind (wp_ensureEntity (v := v) fun pk entities hpk hkeys => ?_)
  refine Script.wp_bind (wp_ifTable_of_none rfl ?_)
  let w : VersionFour := { v with entities }
  have hready : w.Ready := by
    refine ⟨h.versions, h.indexes, h.identities, ?_, h.intact.cycles, h.intact.samples, ?_, ?_⟩
    · exact fun tunnel htunnel k hk => hkeys k (h.intact.tunnels tunnel htunnel k hk)
    · exact fun point hpoint => ⟨(h.intact.points point hpoint).1, hkeys _ (h.intact.points point hpoint).2⟩
    · exact fun k hk => hkeys k (h.intact.rollups k hk)
  refine Script.wp_mono (wp_finishMigration (v := w) hready hcount.le hreason) ?_
  rintro _ _ rfl
  exact ⟨w, hready, rfl, rfl, rfl, rfl⟩

/-! ## Runs -/

/-- After any number of migrations a database of version 4 has the rows that it had. -/
theorem migrateAgain_database (isWord : Char → Bool) (h : v.Ready) (runs : List (Int × Option Injection × Faults Raised)) :
    ∃ w : VersionFour, w.Ready ∧ migrateAgain isWord (v.database none none) runs = w.database none none ∧
      w.tunnels = v.tunnels ∧ w.metricSamples = v.metricSamples ∧ w.sampleCycles = v.sampleCycles := by
  induction runs generalizing v with
  | nil => exact ⟨v, h, rfl, rfl, rfl, rfl⟩
  | cons run runs ih =>
    obtain ⟨now, injectFailure, faults⟩ := run
    have hstep : migrateAgain isWord (v.database none none) ((now, injectFailure, faults) :: runs) =
      migrateAgain isWord (migrateDatabase isWord now injectFailure faults (v.database none none)).2 runs := rfl
    rw [hstep]
    have hwp : (migration isWord now injectFailure).wp faults (injectFailure ≠ none) _ (v.database none none) :=
      wp_migration_versionFour h id
    rcases Script.transaction_spec hwp with
      ⟨e, hend, -⟩ | ⟨_, db, hend, w, hw, rfl, htunnels, hsamples, hcycles⟩
    · rw [migrateDatabase, hend]
      exact ih h
    · rw [migrateDatabase, hend]
      obtain ⟨u, hu, heq, hu₁, hu₂, hu₃⟩ := ih (ready_finished now hw)
      exact ⟨u, hu, heq, hu₁.trans htunnels, hu₂.trans hsamples, hu₃.trans hcycles⟩

theorem keptIn_finished (h : v.Ready) (htunnels : v.tunnels.map TunnelRow.toLegacyTunnel = source.tunnels)
    (hcopied : SamplesCopied source.samples v.metricSamples v.sampleCycles) :
    source.KeptIn ((v.finished now).database none none) where
  version := maxVersion_finished h.versions
  tables name := by
    have hcontains : ((v.finished now).database none none).tables.contains name = _ := contains_tables name
    rw [← List.contains_iff_mem, hcontains]
    cases name <;> simp [TableName.isLegacy]
  tunnels := ⟨v.tunnels, rfl, htunnels⟩
  samples := by
    have hvalues : (v.sampleCycles.column Cycle.collectedAt).map Prod.snd =
        v.sampleCycles.rows.map fun row => row.2.collectedAt := by
      rw [Sequenced.column, List.map_map]
      rfl
    refine ⟨v.metricSamples, v.sampleCycles, rfl, rfl, hcopied.migrated, hcopied.cycle, ?_, ?_⟩
    · rw [← hvalues]
      exact hcopied.distinct
    · rw [← hvalues]
      exact hcopied.times

end Copying

/-- A migration of a database of version 1 changes nothing if it raises; if not, it keeps all rows, also when it is
run again any number of times; and it does not raise by itself. -/
theorem migrateDatabase_keeps_rows (isWord : Char → Bool) (source : VersionOne) (hhost : source.HostUnambiguous)
    (now : Int) (injectFailure : Option Injection) (faults : Faults Raised) :
    (∀ e db, migrateDatabase isWord now injectFailure faults source.database = (.error e, db) →
      db = source.database) ∧
    (∀ db, migrateDatabase isWord now injectFailure faults source.database = (.ok (), db) → source.KeptIn db ∧
      ∀ runs, (migrateAgain isWord db runs).tunnels = db.tunnels ∧
        (migrateAgain isWord db runs).metricSamples = db.metricSamples ∧
        (migrateAgain isWord db runs).sampleCycles = db.sampleCycles) ∧
    (injectFailure = none → ¬ Faulty faults →
      ∃ db, migrateDatabase isWord now injectFailure faults source.database = (.ok (), db)) := by
  have hwp : (migration isWord now injectFailure).wp faults (injectFailure ≠ none) _ source.database :=
    wp_migration_versionOne hhost id
  have hspec := Script.transaction_spec hwp
  refine ⟨fun e db h => Script.eq_of_transaction_error h, fun db h => ?_, fun hinject hfaults => ?_⟩
  · rcases hspec with ⟨e, hend, -⟩ | ⟨_, _, hend, v, hv, rfl, htunnels, hcopied⟩
    · exact nomatch (Prod.mk.inj (h.symm.trans hend)).1
    · obtain rfl := (Prod.mk.inj (h.symm.trans hend)).2
      refine ⟨keptIn_finished hv htunnels hcopied, fun runs => ?_⟩
      obtain ⟨w, -, heq, hw₁, hw₂, hw₃⟩ := migrateAgain_database isWord (ready_finished now hv) runs
      rw [heq]
      exact ⟨congrArg (fun rows => some (Layout.v4 rows)) hw₁, congrArg (fun rows => some (Layout.v4 rows)) hw₂,
        congrArg some hw₃⟩
  · rcases hspec with ⟨e, -, hreason | hreason⟩ | ⟨_, db, hend, -⟩
    · exact absurd hreason hfaults
    · exact absurd hinject hreason
    · exact ⟨db, hend⟩

/-- A tunnel of a database of version 1. -/
def legacyTunnel (tunnelId : String) (tunnelNumber : Int) : LegacyTunnel where
  tunnelId := tunnelId.toList
  side := "iran".toList
  tunnelNumber
  serviceName := ("gost-" ++ tunnelId).toList
  envPath := []
  listenPortsJson := "[]".toList
  targetPortsJson := "[]".toList
  updatedAt := 5

/-- A sample of a database of version 1. -/
def legacySample (sampleId : Int) (tunnelId : String) (collectedAt rxBytes : Int) : LegacySample where
  sampleId
  tunnelId := tunnelId.toList
  collectedAt
  serviceState := 1
  serviceSubstate := 1
  restartCount := 0
  listenPortsTotal := 1
  listenPortsUp := 1
  configuredMappingsTotal := 1
  rxBytes
  txBytes := 7

/-- A database of version 1 with two samples of a tunnel. -/
def twoSamples : VersionOne where
  appliedAt := 1
  tunnels := [legacyTunnel "iran-1" 1]
  samples := [legacySample 1 "iran-1" 10 0, legacySample 2 "iran-1" 20 3]
  tunnelIds := by decide
  serviceNames := by decide
  profiles := by decide
  sides := by decide
  sampleIds := by decide
  collected := by decide
  refers := by decide

theorem hostUnambiguous_twoSamples : twoSamples.HostUnambiguous := by
  unfold VersionOne.HostUnambiguous
  decide

theorem migrateDatabase_keeps_rows_twoSamples :
    ∃ db, migrateDatabase (fun _ => false) 99 none (fun _ => none) twoSamples.database = (.ok (), db) ∧
      twoSamples.KeptIn db := by
  have hkeeps := migrateDatabase_keeps_rows (fun _ => false) twoSamples hostUnambiguous_twoSamples 99 none
    fun _ => none
  obtain ⟨db, hend⟩ := hkeeps.2.2 rfl fun ⟨_, h⟩ => nomatch h
  exact ⟨db, hend, (hkeeps.2.1 db hend).1⟩

/-- A database of version 1 with samples of a tunnel without an id and of a tunnel `host`. -/
def ambiguousHost : VersionOne where
  appliedAt := 1
  tunnels := [legacyTunnel "" 1, legacyTunnel "host" 2]
  samples := [legacySample 1 "" 10 0, legacySample 2 "host" 10 3]
  tunnelIds := by decide
  serviceNames := by decide
  profiles := by decide
  sides := by decide
  sampleIds := by decide
  collected := by decide
  refers := by decide

/-- The sample of the tunnel `host` is deleted then. -/
theorem not_migrateDatabase_keeps_samples : ¬ ∀ (source : VersionOne) (db : Database),
    migrateDatabase (fun _ => false) 99 none (fun _ => none) source.database = (.ok (), db) →
      ∃ rows, db.metricSamples = some (.v4 rows) ∧ ∀ sample ∈ source.samples,
        ∃ row ∈ rows, row.sampleId = sample.sampleId ∧ row.sampleIdentity = sample.tunnelId := by
  intro h
  have hend : (migrateDatabase (fun _ => false) 99 none (fun _ => none) ambiguousHost.database).1.toBool = true := by
    decide +kernel
  have hlost : ((migrateDatabase (fun _ => false) 99 none (fun _ => none) ambiguousHost.database).2.sampleRows.toOption.any
      fun rows => rows.any fun row => row.sampleId = 2) = false := by
    decide +kernel
  generalize hresult : migrateDatabase (fun _ => false) 99 none (fun _ => none) ambiguousHost.database = result at hend hlost
  obtain ⟨r, db⟩ := result
  cases r with
  | error e => cases hend
  | ok a =>
    obtain ⟨rows, hrows, hall⟩ := h ambiguousHost db hresult
    obtain ⟨row, hrow, hid, -⟩ := hall (legacySample 2 "host" 10 3) (by decide)
    have hread : db.sampleRows = .ok rows := by
      unfold Database.sampleRows
      rw [hrows]
    rw [hread] at hlost
    exact Bool.eq_false_iff.1 hlost (List.any_eq_true.2 ⟨row, hrow, decide_eq_true hid⟩)

end Monitoring.Schema
