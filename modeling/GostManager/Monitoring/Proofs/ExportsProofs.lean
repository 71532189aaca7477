import GostManager.Effects.Proofs.ExceptProofs
import GostManager.Lists.Proofs.DictionaryProofs
import GostManager.Monitoring.Exports
import GostManager.Monitoring.Proofs.AgreementProofs
import GostManager.Monitoring.Proofs.PlansProofs
import GostManager.Monitoring.Proofs.SummariesProofs

/-!
# Proofs: exports

An export counts its rows, has no minute twice, and tells of a full minute the same from its rollup as from
its points.
-/

namespace Monitoring

open Effects (bind_eq_ok)
open Lists

variable {db : ExportDatabase} {filters : ExportFilters} {registry : CadenceRegistry} {source : ExportSource}
  {start stop : Int} {parts : List ExportPart} {limits : ExportLimits}

/-! ## Counting -/

theorem exportRows_perm : (db.exportRows filters source start stop).Perm (match source with
    | .raw => (db.selectedPoints filters start stop).map fun p => rawRow (db.entity p.entityPk) p
    | .rollup => (db.selectedRollups filters start stop).map fun item =>
        rollupRow (db.entity item.1.entityPk) item
    | .rawMinute => (db.minuteGroups filters start stop).map fun group =>
        minuteRow (db.entity group.1.entityPk) group) := List.mergeSort_perm _ _

theorem length_exportRows :
    (db.exportRows filters source start stop).length = db.rowCount filters source start stop := by
  rw [exportRows_perm.length_eq]
  cases source with
  | raw => exact List.length_map _
  | rollup => exact List.length_map _
  | rawMinute => exact List.length_map _

/-- The rows of all parts. -/
def totalRows (db : ExportDatabase) (filters : ExportFilters) (parts : List ExportPart) : Nat :=
  (parts.map fun part => db.rowCount filters part.1 part.2.1 part.2.2).sum

/-- What is counted, if the filters are valid. -/
theorem boundedPointCount_ok {limit value : Nat}
    (h : db.boundedPointCount filters source start stop limit = .ok value) :
    filters.validate = .ok () ∧ value = min (db.rowCount filters source start stop) (limit + 1) := by
  obtain ⟨⟨⟩, hvalidate, hvalue⟩ := bind_eq_ok.1 h
  exact ⟨hvalidate, (Except.ok.inj hvalue).symm⟩

/-- A count within the limit is the number of rows of all parts. -/
theorem countRowsFrom_ok {count total : Nat} (h : countRowsFrom db filters limits count parts = .ok total)
    (hlimit : total ≤ limits.maxExportRows) :
    total = count + totalRows db filters parts ∧ (parts ≠ [] → filters.validate = .ok ()) := by
  induction parts generalizing count with
  | nil =>
    obtain rfl := Except.ok.inj h
    exact ⟨rfl, fun hne => absurd rfl hne⟩
  | cons part parts ih =>
    obtain ⟨-, -, h⟩ := bind_eq_ok.1 h
    obtain ⟨value, hcount, h⟩ := bind_eq_ok.1 h
    obtain ⟨hvalidate, hvalue⟩ := boundedPointCount_ok hcount
    split at h
    · rename_i hexceeds
      obtain rfl := Except.ok.inj h
      omega
    · obtain ⟨htotal, -⟩ := ih h
      refine ⟨?_, fun _ => hvalidate⟩
      unfold totalRows at htotal ⊢
      rw [List.map_cons, List.sum_cons]
      omega

/-- The rows of a part fit into what is left. -/
theorem iterExportRows_of_le {maxRows : Nat} (hvalidate : filters.validate = .ok ())
    (hle : db.rowCount filters source start stop ≤ maxRows) :
    db.iterExportRows filters source start stop maxRows = .ok (db.exportRows filters source start stop) := by
  have hcount : db.boundedPointCount filters source start stop maxRows =
      .ok (min (db.rowCount filters source start stop) (maxRows + 1)) := by
    unfold ExportDatabase.boundedPointCount
    rw [hvalidate]
    rfl
  have hlength : (db.exportRows filters source start stop).length ≤ maxRows := length_exportRows.trans_le hle
  unfold ExportDatabase.iterExportRows
  rw [hcount]
  show (if maxRows < min (db.rowCount filters source start stop) (maxRows + 1) then _ else _) = _
  rw [if_neg (by omega), if_neg (by omega)]

/-- The rows of all parts, if they are expected. -/
theorem pointRowsFrom_of_le {expectedRows emitted : Nat}
    (hvalidate : parts ≠ [] → filters.validate = .ok ())
    (hle : emitted + totalRows db filters parts ≤ expectedRows) :
    pointRowsFrom db filters registry expectedRows emitted parts =
      .ok (parts.flatMap fun part => db.records filters registry part.1 part.2.1 part.2.2) := by
  induction parts generalizing emitted with
  | nil => rfl
  | cons part parts ih =>
    obtain ⟨source, start, stop⟩ := part
    have hvalid := hvalidate (List.cons_ne_nil _ _)
    unfold totalRows at hle ih
    rw [List.map_cons, List.sum_cons] at hle
    simp only at hle
    have hrows : db.iterExportRows filters source start stop (expectedRows - emitted) =
        .ok (db.exportRows filters source start stop) := iterExportRows_of_le hvalid (by omega)
    have hlength : (db.exportRows filters source start stop).length =
        db.rowCount filters source start stop := length_exportRows
    unfold pointRowsFrom
    rw [hrows]
    show (pointRowsFrom db filters registry expectedRows
      (emitted + (db.exportRows filters source start stop).length) parts >>= _) = _
    rw [ih (fun _ => hvalid) (by omega)]
    rfl

theorem length_records :
    (db.records filters registry source start stop).length = db.rowCount filters source start stop :=
  (List.length_map _).trans length_exportRows

/-- A counted export has as many rows as were counted. -/
theorem pointRows_of_count {count : Nat} (h : countPointRows db filters limits parts = .ok count) :
    pointRows db filters registry parts count =
        .ok (parts.flatMap fun part => db.records filters registry part.1 part.2.1 part.2.2) ∧
      (parts.flatMap fun part => db.records filters registry part.1 part.2.1 part.2.2).length = count := by
  obtain ⟨total, hcount, h⟩ := bind_eq_ok.1 h
  split at h
  · cases h
  · rename_i hlimit
    obtain rfl := Except.ok.inj h
    obtain ⟨htotal, hvalidate⟩ := countRowsFrom_ok hcount (not_lt.1 hlimit)
    refine ⟨pointRowsFrom_of_le hvalidate (by omega), ?_⟩
    rw [List.length_flatMap, htotal, Nat.zero_add]
    unfold totalRows
    exact congrArg List.sum (List.map_congr_left fun part _ => length_records)

/-- The rows of an export are those of its parts. -/
theorem pointRowsFrom_eq {expectedRows emitted : Nat} {rows : List ExportRecord}
    (h : pointRowsFrom db filters registry expectedRows emitted parts = .ok rows) :
    rows = parts.flatMap fun part => db.records filters registry part.1 part.2.1 part.2.2 := by
  induction parts generalizing emitted rows with
  | nil => exact (Except.ok.inj h).symm
  | cons part parts ih =>
    obtain ⟨source, start, stop⟩ := part
    obtain ⟨exported, hexported, h⟩ := bind_eq_ok.1 h
    obtain ⟨rest, hrest, h⟩ := bind_eq_ok.1 h
    have hrows : exported = db.exportRows filters source start stop := by
      obtain ⟨estimated, -, hexported⟩ := bind_eq_ok.1 hexported
      split at hexported
      · cases hexported
      · simp only at hexported
        split at hexported
        · cases hexported
        · exact (Except.ok.inj hexported).symm
    rw [← Except.ok.inj h, ih hrest, hrows]
    rfl

theorem pointRows_eq {expectedRows : Nat} {rows : List ExportRecord}
    (h : pointRows db filters registry parts expectedRows = .ok rows) :
    rows = parts.flatMap fun part => db.records filters registry part.1 part.2.1 part.2.2 :=
  pointRowsFrom_eq h

/-! ## What a row is about -/

theorem minuteColumns_minuteKey {columns : ExportColumns} :
    (minuteColumns registry start stop columns).minuteKey = columns.minuteKey := rfl

/-- A record is about what its row is about. -/
theorem pointRecord_minuteKey {row : ExportRow} :
    (pointRecord registry source start stop row).minuteKey = row.minuteKey := by
  have hcolumns : (if source = .rawMinute then minuteColumns registry start stop row.toExportColumns
      else row.toExportColumns).minuteKey = row.minuteKey := by
    split
    · rfl
    · rfl
  unfold pointRecord
  simp only
  generalize (if source = .rawMinute then minuteColumns registry start stop row.toExportColumns
    else row.toExportColumns) = columns at hcolumns ⊢
  rw [← hcolumns]
  split
  · rfl
  · split
    · rfl
    · split
      · rfl
      · rfl

/-- The entities of stored rows. -/
theorem entity_injective {pk pk' : Nat} (hpk : pk ∈ db.points.map (·.entityPk) ++ db.rollups.map (·.1.entityPk))
    (hpk' : pk' ∈ db.points.map (·.entityPk) ++ db.rollups.map (·.1.entityPk))
    (htype : (db.entity pk).1 = (db.entity pk').1) (hid : (db.entity pk).2 = (db.entity pk').2) : pk = pk' :=
  db.entityKeys pk hpk pk' hpk' (Prod.ext htype hid)

/-- What a stored row of a minute is about. -/
def ExportDatabase.keyOf (db : ExportDatabase) (k : RollupKey) : MinuteKey where
  entityType := (db.entity k.entityPk).1
  entityId := (db.entity k.entityPk).2
  metricName := k.metricName
  minuteStart := some k.minuteStart

theorem keyOf_injective {k k' : RollupKey}
    (hk : k.entityPk ∈ db.points.map (·.entityPk) ++ db.rollups.map (·.1.entityPk))
    (hk' : k'.entityPk ∈ db.points.map (·.entityPk) ++ db.rollups.map (·.1.entityPk))
    (h : db.keyOf k = db.keyOf k') : k = k' := by
  unfold ExportDatabase.keyOf at h
  obtain ⟨htype, hid, hmetric, hminute⟩ := MinuteKey.mk.injEq .. ▸ h
  have hpk := entity_injective hk hk' htype hid
  cases k
  cases k'
  simp_all

/-- The keys of the minutes of a source. -/
def ExportDatabase.minutes (db : ExportDatabase) (filters : ExportFilters) (source : ExportSource)
    (start stop : Int) : List RollupKey :=
  match source with
  | .raw => []
  | .rollup => (db.selectedRollups filters start stop).map (·.1)
  | .rawMinute => (db.minuteGroups filters start stop).map (·.1)

theorem records_minuteKey (hsource : source ≠ .raw) :
    ((db.records filters registry source start stop).map (·.minuteKey)).Perm
      ((db.minutes filters source start stop).map db.keyOf) := by
  unfold ExportDatabase.records
  rw [List.map_map]
  have hkey : ∀ row : ExportRow,
      ((fun record : ExportRecord => record.minuteKey) ∘ pointRecord registry source start stop) row =
        row.minuteKey := fun row => pointRecord_minuteKey
  rw [List.map_congr_left fun row _ => hkey row]
  refine (exportRows_perm.map _).trans (List.Perm.of_eq ?_)
  cases source with
  | raw => exact absurd rfl hsource
  | rollup =>
    show _ = ((db.selectedRollups filters start stop).map (·.1)).map db.keyOf
    rw [List.map_map, List.map_map]
    rfl
  | rawMinute =>
    show _ = ((db.minuteGroups filters start stop).map (·.1)).map db.keyOf
    rw [List.map_map, List.map_map]
    rfl

/-! ## No minute twice -/

theorem mem_selectedPoints {p : PointRow} : p ∈ db.selectedPoints filters start stop ↔
    p ∈ db.points ∧ start ≤ p.ts ∧ (p.ts : Int) < stop ∧
      filters.Matches (db.entity p.entityPk) p.metricName := by
  simp [ExportDatabase.selectedPoints]

theorem mem_selectedRollups {item : RollupKey × Rollup} : item ∈ db.selectedRollups filters start stop ↔
    item ∈ db.rollups ∧ start ≤ item.1.minuteStart ∧ (item.1.minuteStart : Int) < stop ∧
      filters.Matches (db.entity item.1.entityPk) item.1.metricName := by
  simp [ExportDatabase.selectedRollups]

/-- The minute that a point is grouped under. -/
def minuteKeyOf (p : PointRow) : RollupKey := ⟨p.entityPk, p.metricName, minuteOf p.ts⟩

/-- The groups of the points of a window. -/
theorem mem_minuteGroups {k : RollupKey} {ps : List PointRow} :
    (k, ps) ∈ db.minuteGroups filters start stop ↔
      ps = (db.selectedPoints filters start stop).filter (fun p => minuteKeyOf p = k) ∧ ps ≠ [] :=
  (groups_spec minuteKeyOf (db.selectedPoints filters start stop)).mem k ps

/-- A group has a point. -/
theorem exists_point_of_group {k : RollupKey} (hk : k ∈ (db.minuteGroups filters start stop).map (·.1)) :
    ∃ p ∈ db.selectedPoints filters start stop, minuteKeyOf p = k := by
  obtain ⟨⟨k, ps⟩, hgroup, rfl⟩ := List.mem_map.1 hk
  obtain ⟨rfl, hne⟩ := mem_minuteGroups.1 hgroup
  obtain ⟨p, hp⟩ := List.exists_mem_of_ne_nil _ hne
  obtain ⟨hmem, hkey⟩ := List.mem_filter.1 hp
  exact ⟨p, hmem, of_decide_eq_true hkey⟩

/-- The minutes of a source are of stored rows. -/
theorem stored_of_minutes {k : RollupKey} (hk : k ∈ db.minutes filters source start stop) :
    k.entityPk ∈ db.points.map (·.entityPk) ++ db.rollups.map (·.1.entityPk) := by
  cases source with
  | raw => cases hk
  | rollup =>
    obtain ⟨item, hitem, rfl⟩ := List.mem_map.1 hk
    exact List.mem_append_right _ (List.mem_map.2 ⟨item, (mem_selectedRollups.1 hitem).1, rfl⟩)
  | rawMinute =>
    obtain ⟨p, hp, rfl⟩ := exists_point_of_group hk
    exact List.mem_append_left _ (List.mem_map.2 ⟨p, (mem_selectedPoints.1 hp).1, rfl⟩)

theorem minutes_nodup : (db.minutes filters source start stop).Nodup := by
  cases source with
  | raw => exact List.nodup_nil
  | rollup => exact db.rollupKeys.sublist (List.filter_sublist.map _)
  | rawMinute => exact (groups_spec minuteKeyOf (db.selectedPoints filters start stop)).nodup

theorem keyOf_nodup {ks : List RollupKey} (hnodup : ks.Nodup)
    (hstored : ∀ k ∈ ks, k.entityPk ∈ db.points.map (·.entityPk) ++ db.rollups.map (·.1.entityPk)) :
    (ks.map db.keyOf).Nodup :=
  hnodup.map_on fun k hk k' hk' h => keyOf_injective (hstored k hk) (hstored k' hk') h

/-- A source has no minute twice. -/
theorem records_nodup (hsource : source ≠ .raw) :
    ((db.records filters registry source start stop).map (·.minuteKey)).Nodup := by
  rw [(records_minuteKey hsource).nodup_iff]
  exact keyOf_nodup minutes_nodup fun k hk => stored_of_minutes hk

/-- The rollups of a plan end before the minutes of its points begin. -/
theorem minutes_disjoint {rollupStart rollupEnd rawStart rawEnd : Int}
    (h : rollupEnd ≤ rawStart) :
    (db.minutes filters .rollup (ceilMinute rollupStart) (floorMinute rollupEnd)).Disjoint
      (db.minutes filters .rawMinute rawStart rawEnd) := by
  intro k hk hk'
  obtain ⟨item, hitem, rfl⟩ := List.mem_map.1 hk
  obtain ⟨p, hp, hkey⟩ := exists_point_of_group hk'
  have hend := (mem_selectedRollups.1 hitem).2.2.1
  have hstart := (mem_selectedPoints.1 hp).2.1
  have hminute : minuteOf p.ts = item.1.minuteStart := congrArg RollupKey.minuteStart hkey
  rw [← hminute] at hend
  unfold minuteOf floorMinute at hend
  omega

/-- The rollups of a plan are before its points. -/
theorem rollupEnd_le_rawStart {e : QueryEngine} {plan : QueryPlan} (hwindow : start < stop)
    (h : e.costAwarePlan start stop = .ok plan) {rollupStart rollupEnd rawStart rawEnd : Int}
    (hrs : plan.rollupStart = some rollupStart) (hre : plan.rollupEnd = some rollupEnd)
    (hps : plan.rawStart = some rawStart) (hpe : plan.rawEnd = some rawEnd) : rollupEnd ≤ rawStart := by
  cases reads_of_plan hwindow h with
  | raw _ _ _ hnone =>
    rw [hnone] at hrs
    cases hrs
  | split _ watermark _ hraw hnoraw hrollup hnorollup =>
    by_cases hfrom : e.rawFrom start stop watermark < stop
    · by_cases hend : start < finalizedEnd start stop watermark
      · obtain rfl := Option.some.inj ((hraw hfrom).1.symm.trans hps)
        obtain rfl := Option.some.inj ((hrollup hend).2.symm.trans hre)
        unfold QueryEngine.rawFrom finalizedEnd
        split
        · omega
        · omega
      · rw [hnorollup hend] at hrs
        cases hrs
    · rw [hnoraw hfrom] at hpe
      cases hpe

/-- The parts of an export of minutes. -/
theorem minuteParts_cases (plan : QueryPlan) :
    minuteParts plan = [] ∨ (∃ source start stop, source ≠ .raw ∧ minuteParts plan = [(source, start, stop)]) ∨
      ∃ rollupStart rollupEnd rawStart rawEnd, plan.rollupStart = some rollupStart ∧
        plan.rollupEnd = some rollupEnd ∧ plan.rawStart = some rawStart ∧ plan.rawEnd = some rawEnd ∧
        minuteParts plan = [(.rollup, ceilMinute rollupStart, floorMinute rollupEnd),
          (.rawMinute, rawStart, rawEnd)] := by
  unfold minuteParts
  have hrollup : ¬ ExportSource.rollup = .raw := nofun
  have hraw : ¬ ExportSource.rawMinute = .raw := nofun
  rcases plan.rollupStart with _ | rollupStart <;> rcases plan.rollupEnd with _ | rollupEnd <;>
    rcases plan.rawStart with _ | rawStart <;> rcases plan.rawEnd with _ | rawEnd <;>
    simp [hrollup, hraw]

/-- An export of minutes has no minute twice. -/
theorem minuteParts_nodup {e : QueryEngine} {plan : QueryPlan} (hwindow : start < stop)
    (h : e.costAwarePlan start stop = .ok plan) :
    (((minuteParts plan).flatMap fun part =>
      db.records filters registry part.1 part.2.1 part.2.2).map (·.minuteKey)).Nodup := by
  rcases minuteParts_cases plan with hparts | ⟨source, start, stop, hsource, hparts⟩ |
    ⟨rollupStart, rollupEnd, rawStart, rawEnd, hrs, hre, hps, hpe, hparts⟩
  · rw [hparts]
    exact List.nodup_nil
  · rw [hparts, List.flatMap_singleton]
    exact records_nodup hsource
  · -- the minutes of both parts are different, and so are their keys
    have hle := rollupEnd_le_rawStart hwindow h hrs hre hps hpe
    have hkeys : ((((minuteParts plan).flatMap fun part =>
        db.records filters registry part.1 part.2.1 part.2.2).map (·.minuteKey))).Perm
        ((db.minutes filters .rollup (ceilMinute rollupStart) (floorMinute rollupEnd) ++
          db.minutes filters .rawMinute rawStart rawEnd).map db.keyOf) := by
      rw [hparts, List.flatMap_cons, List.flatMap_singleton, List.map_append, List.map_append]
      exact (records_minuteKey (show ExportSource.rollup ≠ .raw by decide)).append
        (records_minuteKey (show ExportSource.rawMinute ≠ .raw by decide))
    rw [hkeys.nodup_iff]
    refine keyOf_nodup (minutes_nodup.append minutes_nodup (minutes_disjoint hle)) fun k hk => ?_
    rcases List.mem_append.1 hk with hk | hk
    · exact stored_of_minutes hk
    · exact stored_of_minutes hk

theorem minuteParts_of_selection {e : QueryEngine} {granularity selected : Granularity}
    {sourceMode : SourceMode} (h : exportSelection e start stop granularity = .ok (selected, sourceMode, parts))
    (hselected : selected ≠ .raw) : ∃ plan, e.costAwarePlan start stop = .ok plan ∧ parts = minuteParts plan := by
  obtain ⟨plan, hplan, h⟩ := bind_eq_ok.1 h
  refine ⟨plan, hplan, ?_⟩
  simp only at h
  generalize (if granularity = .auto then
      if plan.sourceMode = .raw ∧ ¬ plan.streamRaw = true ∧ stop - start ≤ 3600 then Granularity.raw
      else Granularity.minute
    else granularity) = chosen at h
  split at h
  · split at h
    · cases h
    · cases h
  · split at h
    · rename_i hraw
      obtain ⟨rfl, -⟩ := Prod.mk.inj (Except.ok.inj h)
      exact absurd hraw hselected
    · exact (Prod.mk.inj (Prod.mk.inj (Except.ok.inj h)).2).2.symm

/-! ## A minute from its rollup and from its points -/

/-- The ranks of qualities tell the worst of them. -/
theorem qualityOfRank_eq {qs : List Quality} (hne : qs ≠ []) :
    qualityOfRank ((qs.map Quality.rank).max?.getD 0) = worstQuality qs := by
  have hrank : ∀ q : Quality, qualityOfRank q.rank = q := by
    intro q
    cases q <;> rfl
  have hmax : (qs.map Quality.rank).max? = some (worstQuality qs).rank := by
    refine List.max?_eq_some_iff.2 ⟨List.mem_map.2 ⟨_, worstQuality_mem hne, rfl⟩, fun r hr => ?_⟩
    obtain ⟨q, hq, rfl⟩ := List.mem_map.1 hr
    exact rank_le_worstQuality hq
  rw [hmax, Option.getD_some, hrank]

/-- The statistics of a minute. -/
def Rollup.statistics (row : Rollup) : MinuteStatistics where
  samples := some row.samples
  minimum := row.minValue
  average := row.avgValue
  maximum := row.maxValue
  reset := row.resetCount
  gap := row.gapCount
  unavailableCount := some row.unavailableCount
  unit := row.unit
  quality := row.quality
  valueAvailable := row.avgValue.isSome

/-- A record of a metric with an average tells what its row tells. -/
theorem pointRecord_statistics {row : ExportRow} (hsource : source ≠ .raw)
    (hsupports : (classifyMetric row.metricName row.unit).supportsAverage = true) :
    (pointRecord registry source start stop row).statistics =
      { samples := row.samples
        minimum := row.minimum
        average := row.average
        maximum := row.maximum
        reset := row.reset
        gap := row.gap
        unavailableCount := row.unavailableCount
        unit := row.unit
        quality := row.quality
        valueAvailable := row.average.isSome } := by
  unfold pointRecord
  simp only [if_neg hsource, if_pos hsupports]
  cases source with
  | raw => exact absurd rfl hsource
  | rollup => rfl
  | rawMinute => rfl

section Statistics

variable {ps : List PointRow} {entity : String × String} {unit : String} {k : RollupKey}

/-- The points of a minute tell what their rollup tells. -/
theorem minuteRow_statistics (expected : Nat) (hne : ps ≠ []) (hunits : ∀ p ∈ ps, p.unit = unit)
    (hvalues : ∀ p ∈ ps, p.numericValue = none ↔ p.quality = .unavailable)
    (hsupports : (classifyMetric k.metricName unit).supportsAverage = true) :
    (pointRecord registry .rawMinute start stop (minuteRow entity (k, ps))).statistics =
      (rollupOf expected unit ps).statistics := by
  have hunit : ((ps.map (·.unit)).max?.getD "") = unit := by
    have hmax : (ps.map (·.unit)).max? = some unit := by
      obtain ⟨p, hp⟩ := List.exists_mem_of_ne_nil ps hne
      refine List.max?_eq_some_iff.2 ⟨List.mem_map.2 ⟨p, hp, hunits p hp⟩, fun u hu => ?_⟩
      obtain ⟨p', hp', rfl⟩ := List.mem_map.1 hu
      exact (hunits p' hp').le
    rw [hmax, Option.getD_some]
  have husable : ps.filterMap usableValue = numericValues ps := by
    refine List.filterMap_congr fun p hp => ?_
    unfold usableValue
    by_cases hquality : p.quality = .unavailable
    · rw [if_pos hquality, (hvalues p hp).2 hquality]
    · rw [if_neg hquality]
  have hunavailable : (ps.countP fun p => p.quality = .unavailable ∨ p.numericValue = none ∧ p.textValue = none) =
      ps.countP fun p => p.quality = .unavailable := by
    refine List.countP_congr fun p hp => ?_
    have hvalue := hvalues p hp
    simp only [decide_eq_true_eq]
    tauto
  have hquality : qualityOfRank ((ps.map (·.quality.rank)).max?.getD 0) = worstQuality (ps.map (·.quality)) := by
    rw [← qualityOfRank_eq (mt List.map_eq_nil_iff.1 hne), List.map_map]
    rfl
  have hrow : (classifyMetric (minuteRow entity (k, ps)).metricName
      (minuteRow entity (k, ps)).unit).supportsAverage = true := by
    show (classifyMetric k.metricName ((ps.map (·.unit)).max?.getD "")).supportsAverage = true
    rw [hunit]
    exact hsupports
  rw [pointRecord_statistics (by decide) hrow]
  unfold minuteRow Rollup.statistics rollupOf
  simp only [hunit, husable, hunavailable, hquality]

/-- A rollup tells what is in its row. -/
theorem rollupRow_statistics {row : Rollup}
    (hsupports : (classifyMetric k.metricName row.unit).supportsAverage = true) :
    (pointRecord registry .rollup start stop (rollupRow entity (k, row))).statistics = row.statistics := by
  rw [pointRecord_statistics (by decide) hsupports]
  rfl

end Statistics

theorem mem_rollupRecords {record : ExportRecord} : record ∈ db.records filters registry .rollup start stop ↔
    ∃ item ∈ db.selectedRollups filters start stop,
      pointRecord registry .rollup start stop (rollupRow (db.entity item.1.entityPk) item) = record := by
  unfold ExportDatabase.records
  rw [List.mem_map]
  constructor
  · rintro ⟨row, hrow, rfl⟩
    obtain ⟨item, hitem, rfl⟩ := List.mem_map.1 (exportRows_perm.mem_iff.1 hrow)
    exact ⟨item, hitem, rfl⟩
  · rintro ⟨item, hitem, rfl⟩
    exact ⟨_, exportRows_perm.mem_iff.2 (List.mem_map.2 ⟨item, hitem, rfl⟩), rfl⟩

theorem mem_minuteRecords {record : ExportRecord} :
    record ∈ db.records filters registry .rawMinute start stop ↔
      ∃ group ∈ db.minuteGroups filters start stop,
        pointRecord registry .rawMinute start stop (minuteRow (db.entity group.1.entityPk) group) = record := by
  unfold ExportDatabase.records
  rw [List.mem_map]
  constructor
  · rintro ⟨row, hrow, rfl⟩
    obtain ⟨group, hgroup, rfl⟩ := List.mem_map.1 (exportRows_perm.mem_iff.1 hrow)
    exact ⟨group, hgroup, rfl⟩
  · rintro ⟨group, hgroup, rfl⟩
    exact ⟨_, exportRows_perm.mem_iff.2 (List.mem_map.2 ⟨group, hgroup, rfl⟩), rfl⟩

/-- The points of series of numbers, and the rollups that the writer has left of them. -/
structure RolledUp (config : RollupConfig) (calls : List RollupCall) (db : ExportDatabase) : Prop where
  schedule : Schedule db.points calls
  oneUnit : OneUnit db.points
  values : ∀ p ∈ db.points, p.numericValue = none ↔ p.quality = .unavailable
  range : ∀ p ∈ db.points, (classifyMetric p.metricName p.unit).supportsRange = true
  rollups : ∀ k row, (k, row) ∈ db.rollups ↔ (runCalls config calls).rollups k = some row

section RolledUp

variable {config : RollupConfig} {calls : List RollupCall} {k : RollupKey} {watermark : Nat}

/-- A minute that is wholly in the window has all its points. -/
theorem minuteGroup_eq (hstart : start ≤ k.minuteStart) (hstop : (k.minuteStart : Int) + 60 ≤ stop)
    (hmatches : filters.Matches (db.entity k.entityPk) k.metricName) :
    (db.selectedPoints filters start stop).filter (fun p => minuteKeyOf p = k) = pointsOf db.points k := by
  unfold ExportDatabase.selectedPoints pointsOf
  rw [List.filter_filter]
  refine List.filter_congr fun p _ => ?_
  rw [Bool.and_eq_decide, decide_eq_decide]
  simp only [decide_eq_true_eq]
  have hkey : minuteKeyOf p = k ↔
      p.entityPk = k.entityPk ∧ p.metricName = k.metricName ∧ minuteOf p.ts = k.minuteStart := by
    cases k
    unfold minuteKeyOf
    rw [RollupKey.mk.injEq]
  rw [hkey]
  constructor
  · exact fun h => h.1
  · rintro ⟨hpk, hmetric, hminute⟩
    refine ⟨⟨hpk, hmetric, hminute⟩, ?_, ?_, ?_⟩
    · unfold minuteOf at hminute
      omega
    · unfold minuteOf at hminute
      omega
    · rw [hpk, hmetric]
      exact hmatches

variable (registry) in
/-- The row of a minute below the watermark tells what its points tell. -/
theorem RolledUp.statistics_eq (h : RolledUp config calls db)
    (hw : (runCalls config calls).watermark = some watermark) (hstart : start ≤ k.minuteStart)
    (hstop : (k.minuteStart : Int) + 60 ≤ stop) (hbelow : k.minuteStart < watermark)
    (hmatches : filters.Matches (db.entity k.entityPk) k.metricName) (hne : pointsOf db.points k ≠ []) :
    ∃ row statistics, (k, row) ∈ db.rollups ∧
      (∀ start stop, (pointRecord registry .rollup start stop
        (rollupRow (db.entity k.entityPk) (k, row))).statistics = statistics) ∧
      (k, pointsOf db.points k) ∈ db.minuteGroups filters start stop ∧
      (pointRecord registry .rawMinute start stop
        (minuteRow (db.entity k.entityPk) (k, pointsOf db.points k))).statistics = statistics := by
  obtain ⟨p, hp⟩ := List.exists_mem_of_ne_nil _ hne
  obtain ⟨hmem, hpk, hmetric, -⟩ := mem_pointsOf.1 hp
  have hrow : (runCalls config calls).rollups k = some (rollupOf
      (expectedSamples (config.cadence k.entityPk k.metricName)) p.unit (pointsOf db.points k)) := by
    rw [h.schedule.rollups_eq h.oneUnit, hw, Option.getD_some]
    exact rollupsUpTo_of_mem h.oneUnit hp hbelow
  have hsupports : (classifyMetric k.metricName p.unit).supportsAverage = true := by
    rw [← hmetric]
    exact (classifyMetric_of_supportsRange (h.range p hmem)).1
  refine ⟨_, _, (h.rollups k _).2 hrow, fun start stop => rollupRow_statistics hsupports, ?_, ?_⟩
  · exact mem_minuteGroups.2 ⟨(minuteGroup_eq hstart hstop hmatches).symm, hne⟩
  · refine minuteRow_statistics _ hne (fun p' hp' => ?_) (fun p' hp' => ?_) hsupports
    · obtain ⟨hmem', hpk', hmetric', -⟩ := mem_pointsOf.1 hp'
      exact h.oneUnit p' hmem' p hmem (hpk'.trans hpk.symm) (hmetric'.trans hmetric.symm)
    · exact h.values p' (mem_pointsOf.1 hp').1

/-- A rollup is of points. -/
theorem RolledUp.points_ne_nil (h : RolledUp config calls db) {row : Rollup} (hrow : (k, row) ∈ db.rollups) :
    pointsOf db.points k ≠ [] := by
  intro hnil
  have hsome := (h.rollups k row).1 hrow
  rw [h.schedule.rollups_eq h.oneUnit, rollupsUpTo_of_nil hnil] at hsome
  cases hsome

/-- A full minute below the watermark is exported alike from both sources. -/
theorem RolledUp.find_eq (h : RolledUp config calls db)
    (hw : (runCalls config calls).watermark = some watermark) {key : MinuteKey} {minute : Nat}
    (hkey : key.minuteStart = some minute) (hstart : start ≤ minute) (hstop : (minute : Int) + 60 ≤ stop)
    (hbelow : minute < watermark) :
    (find (·.minuteKey) key (db.records filters registry .rollup (ceilMinute start) (floorMinute stop))).map
        (·.statistics) =
      (find (·.minuteKey) key (db.records filters registry .rawMinute start stop)).map (·.statistics) := by
  refine Option.ext fun statistics => ?_
  rw [Option.map_eq_some_iff, Option.map_eq_some_iff]
  simp only [find_eq_some (records_nodup (show ExportSource.rollup ≠ .raw by decide)),
    find_eq_some (records_nodup (show ExportSource.rawMinute ≠ .raw by decide))]
  constructor
  · rintro ⟨record, ⟨hrecord, hrecordKey⟩, rfl⟩
    obtain ⟨⟨k, row⟩, hitem, rfl⟩ := mem_rollupRecords.1 hrecord
    obtain ⟨hrow, -, -, hmatches⟩ := mem_selectedRollups.1 hitem
    rw [pointRecord_minuteKey] at hrecordKey
    obtain rfl : k.minuteStart = minute := Option.some.inj ((congrArg (·.minuteStart) hrecordKey).trans hkey)
    obtain ⟨row', statistics, hrow', hrollup, hgroup, hraw⟩ := h.statistics_eq registry hw
      hstart hstop hbelow hmatches (h.points_ne_nil hrow)
    obtain rfl : row' = row :=
      Option.some.inj (((h.rollups k row').1 hrow').symm.trans ((h.rollups k row).1 hrow))
    refine ⟨_, ⟨mem_minuteRecords.2 ⟨_, hgroup, rfl⟩, ?_⟩, hraw.trans (hrollup _ _).symm⟩
    rw [pointRecord_minuteKey]
    exact hrecordKey
  · rintro ⟨record, ⟨hrecord, hrecordKey⟩, rfl⟩
    obtain ⟨⟨k, ps⟩, hgroup, rfl⟩ := mem_minuteRecords.1 hrecord
    rw [pointRecord_minuteKey] at hrecordKey
    obtain rfl : k.minuteStart = minute := Option.some.inj ((congrArg (·.minuteStart) hrecordKey).trans hkey)
    obtain ⟨p, hp, rfl⟩ := exists_point_of_group (List.mem_map.2 ⟨_, hgroup, rfl⟩)
    have hmatches := (mem_selectedPoints.1 hp).2.2.2
    obtain ⟨rfl, hne⟩ := mem_minuteGroups.1 hgroup
    rw [minuteGroup_eq hstart hstop hmatches] at hne hrecord ⊢
    obtain ⟨row, statistics, hrow, hrollup, -, hraw⟩ := h.statistics_eq registry hw
      hstart hstop hbelow hmatches hne
    refine ⟨_, ⟨mem_rollupRecords.2 ⟨_, mem_selectedRollups.2 ⟨hrow, ?_, ?_, hmatches⟩, rfl⟩, ?_⟩,
      (hrollup _ _).trans hraw.symm⟩
    · show ceilMinute start ≤ (minuteOf p.ts : Nat)
      have hle : start ≤ (minuteOf p.ts : Nat) := hstart
      unfold minuteOf at hle ⊢
      unfold ceilMinute
      omega
    · show ((minuteOf p.ts : Nat) : Int) < floorMinute stop
      have hle : ((minuteOf p.ts : Nat) : Int) + 60 ≤ stop := hstop
      unfold minuteOf at hle ⊢
      unfold floorMinute
      omega
    · rw [pointRecord_minuteKey]
      exact hrecordKey

end RolledUp

/-- **Exports are consistent.** A full minute of the window below the watermark has the same statistics in an
export from rollups and in an export from points, an export of minutes has no minute of a metric twice, and
an export has as many rows as were counted. -/
theorem exports_consistent (db : ExportDatabase) (filters : ExportFilters) (registry : CadenceRegistry) :
    (∀ config calls watermark, RolledUp config calls db →
      (runCalls config calls).watermark = some watermark →
      ∀ (start stop : Int) (key : MinuteKey) (minute : Nat), key.minuteStart = some minute →
        start ≤ minute → (minute : Int) + 60 ≤ stop → minute < watermark →
        (find (·.minuteKey) key
            (db.records filters registry .rollup (ceilMinute start) (floorMinute stop))).map (·.statistics) =
          (find (·.minuteKey) key (db.records filters registry .rawMinute start stop)).map
            (·.statistics)) ∧
    (∀ (e : QueryEngine) (start stop : Int) (granularity selected : Granularity) (sourceMode : SourceMode)
      (parts : List ExportPart) (count : Nat) (rows : List ExportRecord), start < stop →
      exportSelection e start stop granularity = .ok (selected, sourceMode, parts) → selected ≠ .raw →
      pointRows db filters registry parts count = .ok rows → (rows.map (·.minuteKey)).Nodup) ∧
    ∀ (limits : ExportLimits) (parts : List ExportPart) (count : Nat),
      countPointRows db filters limits parts = .ok count →
      ∃ rows, pointRows db filters registry parts count = .ok rows ∧ rows.length = count := by
  refine ⟨?_, ?_, ?_⟩
  · intro config calls watermark h hw start stop key minute hkey hstart hstop hbelow
    exact h.find_eq hw hkey hstart hstop hbelow
  · intro e start stop granularity selected sourceMode parts count rows hwindow hselection hselected hrows
    obtain ⟨plan, hplan, hparts⟩ := minuteParts_of_selection hselection hselected
    rw [pointRows_eq hrows, hparts]
    exact minuteParts_nodup hwindow hplan
  · intro limits parts count hcount
    exact ⟨_, pointRows_of_count hcount⟩

section Load

/-- A point, and its rollup. -/
def loadDatabase : ExportDatabase where
  points := [⟨1, 1, "load1", 61, some 5, none, "count", .exact, 0, 0⟩]
  rollups := [(⟨1, "load1", 60⟩, rollupOf 6 "count" [⟨1, 1, "load1", 61, some 5, none, "count", .exact, 0, 0⟩])]
  entity := fun _ => ("host", "local")
  rollupKeys := by decide
  entityKeys := by decide

theorem loadDatabase_rolledUp :
    RolledUp ⟨fun _ => "host", ⟨[], nofun⟩, 10, by decide⟩ [⟨240, 180, loadDatabase.points⟩] loadDatabase where
  schedule := ⟨by decide, by decide⟩
  oneUnit := by
    unfold OneUnit
    decide
  values := by decide
  range := by decide
  rollups := by
    have hs : Schedule loadDatabase.points [⟨240, 180, loadDatabase.points⟩] := ⟨by decide, by decide⟩
    have hone : OneUnit loadDatabase.points := by
      unfold OneUnit
      decide
    intro k row
    rw [hs.rollups_eq hone]
    by_cases hk : k = ⟨1, "load1", 60⟩
    · subst hk
      have hrow : rollupsUpTo ⟨fun _ => "host", ⟨[], nofun⟩, 10, by decide⟩ loadDatabase.points
          ((runCalls ⟨fun _ => "host", ⟨[], nofun⟩, 10, by decide⟩
            [⟨240, 180, loadDatabase.points⟩]).watermark.getD 0) ⟨1, "load1", 60⟩ =
          some (rollupOf 6 "count" loadDatabase.points) := by decide +kernel
      rw [hrow, Option.some_inj]
      simp [loadDatabase, eq_comm]
    · have hnil : pointsOf loadDatabase.points k = [] := by
        refine List.filter_eq_nil_iff.2 fun p hp => ?_
        obtain rfl := List.mem_singleton.1 hp
        intro heq
        obtain ⟨hpk, hmetric, hminute⟩ := of_decide_eq_true heq
        refine hk ?_
        cases k
        rw [RollupKey.mk.injEq]
        exact ⟨hpk.symm, hmetric.symm, hminute.symm⟩
      rw [rollupsUpTo_of_nil hnil]
      simp [loadDatabase, hk]

/-- The minute of the point, from both sources. -/
theorem exports_consistent_load :
    (∃ rows, pointRows loadDatabase {} ⟨[], nofun⟩ [(.rawMinute, 0, 180)] 1 = .ok rows ∧ rows.length = 1 ∧
      (rows.map (·.minuteKey)).Nodup) ∧
    (find (·.minuteKey) ⟨"host", "local", "load1", some 60⟩
        (loadDatabase.records {} ⟨[], nofun⟩ .rollup (ceilMinute 0) (floorMinute 180))).map (·.statistics) =
      (find (·.minuteKey) ⟨"host", "local", "load1", some 60⟩
        (loadDatabase.records {} ⟨[], nofun⟩ .rawMinute 0 180)).map (·.statistics) := by
  obtain ⟨hminutes, hkeys, hcounts⟩ := exports_consistent loadDatabase {} ⟨[], nofun⟩
  obtain ⟨rows, hrows, hlength⟩ := hcounts {} [(.rawMinute, 0, 180)] 1 (by decide)
  refine ⟨⟨rows, hrows, hlength, ?_⟩, ?_⟩
  · exact hkeys { now := 200, watermark := some (some 180), rows := fun _ _ _ => 0 } 0 180 .minute .minute .raw
      _ _ rows (by decide) rfl (by decide) hrows
  · exact hminutes _ _ 180 loadDatabase_rolledUp (by decide) 0 180 _ 60 rfl (by decide) (by decide) (by decide)

end Load

end Monitoring
