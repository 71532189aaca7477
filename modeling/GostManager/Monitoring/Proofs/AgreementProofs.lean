import GostManager.Monitoring.Proofs.RollupsProofs
import GostManager.Monitoring.Summaries

/-!
# Proofs: summaries from rollups and from points

The rollups of the minutes of a window, taken together, count what one rollup of all points of the window
would count, and so does the summary of the points.
-/

namespace Monitoring

open Lists

/-- What a summary counts. -/
structure Totals where
  sampleCount : Nat
  unavailableCount : Nat
  resetCount : Nat
  gapCount : Nat
  minimum : Option ℚ
  maximum : Option ℚ
  quality : Quality
  deriving DecidableEq

/-- The totals of a summary. -/
def SeriesRecord.totals (record : SeriesRecord) : Totals where
  sampleCount := record.sampleCount
  unavailableCount := record.unavailableCount
  resetCount := record.resetCount
  gapCount := record.gapCount
  minimum := record.minimum
  maximum := record.maximum
  quality := record.quality

/-- The totals of a rollup. -/
def Rollup.totals (row : Rollup) : Totals where
  sampleCount := row.samples
  unavailableCount := row.unavailableCount
  resetCount := row.resetCount
  gapCount := row.gapCount
  minimum := row.minValue
  maximum := row.maxValue
  quality := row.quality

/-- The totals of some rollups together. -/
def mergeTotals (rows : List Rollup) : Totals where
  sampleCount := (rows.map (·.samples)).sum
  unavailableCount := (rows.map (·.unavailableCount)).sum
  resetCount := (rows.map (·.resetCount)).sum
  gapCount := (rows.map (·.gapCount)).sum
  minimum := (rows.filterMap (·.minValue)).min?
  maximum := (rows.filterMap (·.maxValue)).max?
  quality := worstQuality (rows.map (·.quality))

variable {q : SummaryQuery} {expected : Nat} {unit : String} {points ps : List PointRow}
  {config : RollupConfig} {calls : List RollupCall}

/-! ## Merging -/

/-- The order of the rollups does not count. -/
theorem mergeTotals_perm {rows rows' : List Rollup} (h : rows.Perm rows') :
    mergeTotals rows = mergeTotals rows' := by
  unfold mergeTotals
  rw [(h.map _).sum_eq, (h.map (·.unavailableCount)).sum_eq, (h.map (·.resetCount)).sum_eq,
    (h.map (·.gapCount)).sum_eq, min?_congr fun v => (h.filterMap (·.minValue)).mem_iff,
    max?_congr fun v => (h.filterMap (·.maxValue)).mem_iff,
    worstQuality_congr fun quality => (h.map (·.quality)).mem_iff]

/-- The rollups of the parts have the totals of one rollup of all. -/
theorem mergeTotals_rollupOf {parts : List (List PointRow)} (hne : ∀ part ∈ parts, part ≠ []) :
    mergeTotals (parts.map (rollupOf expected unit)) = (rollupOf expected unit parts.flatten).totals := by
  have hqualities : worstQuality (parts.flatten.map (·.quality)) =
      worstQuality (parts.map fun part => worstQuality (part.map (·.quality))) := by
    rw [List.map_flatten, worstQuality_flatten, List.map_map]
    · rfl
    · intro l hl
      obtain ⟨part, hpart, rfl⟩ := List.mem_map.1 hl
      exact mt List.map_eq_nil_iff.1 (hne part hpart)
  have hvalues : numericValues parts.flatten = (parts.map numericValues).flatten :=
    List.filterMap_flatten
  unfold mergeTotals Rollup.totals rollupOf
  rw [hqualities, hvalues]
  simp only [List.map_map, List.filterMap_map, min?_flatten, max?_flatten, List.length_flatten,
    List.countP_flatten, List.map_flatten, List.sum_flatten]
  rfl

/-! ## The summary of the points -/

/-- The points are those of a series of numbers, and exactly the unavailable ones have no value. -/
structure NumericSeries (q : SummaryQuery) (unit : String) (ps : List PointRow) : Prop where
  units : ∀ p ∈ ps, p.unit = unit
  values : ∀ p ∈ ps, p.numericValue = none ↔ p.quality = .unavailable
  range : (classifyMetric q.key.metricName unit).supportsRange = true

/-- The materialized summary has the totals of one rollup of all points. -/
theorem rawSummary_totals (h : NumericSeries q unit ps) (hin : ∀ p ∈ ps, q.start ≤ p.ts ∧ p.ts < q.stop)
    (hne : ps ≠ []) (allowP95 : Bool) :
    (rawSummary q allowP95 (ps.map (·.metricPoint q.key))).map (·.totals) =
      some (rollupOf expected unit ps).totals := by
  have hperm : ((ps.map (·.metricPoint q.key)).mergeSort fun p p' => p.ts ≤ p'.ts).Perm
      (ps.map (·.metricPoint q.key)) := List.mergeSort_perm _ _
  unfold rawSummary
  generalize (ps.map (·.metricPoint q.key)).mergeSort (fun p p' => p.ts ≤ p'.ts) = ordered at hperm
  have hinside : ordered.filter (fun p => q.Inside p) = ordered := by
    refine List.filter_eq_self.2 fun p hp => ?_
    obtain ⟨row, hrow, rfl⟩ := List.mem_map.1 (hperm.mem_iff.1 hp)
    exact decide_eq_true (hin row hrow)
  have hunit : ∀ p ∈ ordered, p.unit = unit := by
    intro p hp
    obtain ⟨row, hrow, rfl⟩ := List.mem_map.1 (hperm.mem_iff.1 hp)
    exact h.units row hrow
  have hordered : ordered ≠ [] := by
    rintro rfl
    exact hne (List.map_eq_nil_iff.1 hperm.symm.eq_nil)
  obtain ⟨last, hlast⟩ := Option.isSome_iff_exists.1 (List.getLast?_isSome.2 hordered)
  obtain rfl := hunit last (List.mem_of_getLast? hlast)
  simp only [hinside, if_neg hordered, hlast, if_pos h.range]
  -- the same values and the same qualities, in another order
  have havailable : (availableValues ordered).Perm (numericValues ps) := by
    refine (hperm.filterMap _).trans (List.Perm.of_eq ?_)
    rw [List.filterMap_map]
    refine List.filterMap_congr fun p hp => ?_
    show (if p.quality = .unavailable then none else p.numericValue) = p.numericValue
    by_cases hquality : p.quality = .unavailable
    · rw [if_pos hquality, (h.values p hp).2 hquality]
    · rw [if_neg hquality]
  have hunavailable : ordered.countP (fun p => p.Unavailable) =
      ps.countP fun p => p.quality = .unavailable := by
    rw [hperm.countP_eq, List.countP_map]
    refine List.countP_congr fun p hp => ?_
    have hvalue := h.values p hp
    simp only [Function.comp_apply, decide_eq_true_eq]
    show p.quality = .unavailable ∨ p.numericValue = none ∧ p.textValue = none ↔ _
    tauto
  have hqualities : ∀ quality, quality ∈ ordered.map (·.quality) ↔ quality ∈ ps.map (·.quality) := by
    intro quality
    rw [(hperm.map _).mem_iff, List.map_map]
    rfl
  have hreset : (ordered.map (·.reset)).sum = (ps.map (·.reset)).sum := by
    rw [(hperm.map _).sum_eq, List.map_map]
    rfl
  have hgap : (ordered.map (·.gap)).sum = (ps.map (·.gap)).sum := by
    rw [(hperm.map _).sum_eq, List.map_map]
    rfl
  have hlength : ordered.length = ps.length := hperm.length_eq.trans (List.length_map _)
  simp only [Option.map_some, SeriesRecord.totals, Rollup.totals, rollupOf, countedSummary,
    min?_congr fun v => havailable.mem_iff, max?_congr fun v => havailable.mem_iff, hunavailable,
    worstQuality_congr hqualities, hreset, hgap, hlength]

/-! ## The summary of the rollups -/

/-- The summary of some rollups has their totals. -/
theorem rollupSummary_totals {items : List RollupPoint} (hunit : ∀ item ∈ items, item.unit = unit)
    (hrange : (classifyMetric q.key.metricName unit).supportsRange = true) (hne : items ≠ []) :
    (rollupSummary q items).map (·.totals) = some (mergeTotals (items.map (·.toRollup))) := by
  have hperm : (items.mergeSort fun item item' => item.minuteStart ≤ item'.minuteStart).Perm items :=
    List.mergeSort_perm _ _
  unfold rollupSummary
  generalize items.mergeSort (fun item item' => item.minuteStart ≤ item'.minuteStart) = ordered at hperm
  have hordered : ordered ≠ [] := by
    rintro rfl
    exact hne hperm.symm.eq_nil
  obtain ⟨last, hlast⟩ := Option.isSome_iff_exists.1 (List.getLast?_isSome.2 hordered)
  obtain rfl := hunit last (hperm.mem_iff.1 (List.mem_of_getLast? hlast))
  rw [← mergeTotals_perm (hperm.map _)]
  simp only [hlast, if_pos hrange, Option.map_some, SeriesRecord.totals, mergeTotals, List.map_map,
    List.filterMap_map]
  rfl

/-! ## What is read -/

/-- The points of the window. -/
def windowPoints (points : List PointRow) (entityPk : Nat) (q : SummaryQuery) : List PointRow :=
  points.filter fun p => p.entityPk = entityPk ∧ p.metricName = q.key.metricName ∧
    q.start ≤ p.ts ∧ p.ts < q.stop

/-- The points of the window, minute by minute. -/
def windowMinutes (points : List PointRow) (entityPk : Nat) (q : SummaryQuery) : List (List PointRow) :=
  ((List.range' q.start.toNat (q.stop.toNat - q.start.toNat)).map fun minuteStart =>
    pointsOf points ⟨entityPk, q.key.metricName, minuteStart⟩).filter (· ≠ [])

theorem mem_windowPoints {entityPk : Nat} {p : PointRow} : p ∈ windowPoints points entityPk q ↔
    p ∈ points ∧ p.entityPk = entityPk ∧ p.metricName = q.key.metricName ∧ q.start ≤ p.ts ∧
      p.ts < q.stop := by
  simp [windowPoints]

/-- A window of full minutes is not cut. -/
theorem windowMinutes_perm {entityPk : Nat} (hstart : 60 ∣ q.start) (hstop : 60 ∣ q.stop) :
    (windowMinutes points entityPk q).flatten.Perm (windowPoints points entityPk q) := by
  unfold windowMinutes
  rw [List.flatten_filter_ne_nil]
  have hseries : (fun minuteStart => pointsOf points ⟨entityPk, q.key.metricName, minuteStart⟩) =
      fun minuteStart => (points.filter fun p => p.entityPk = entityPk ∧
        p.metricName = q.key.metricName).filter fun p => minuteOf p.ts = minuteStart := by
    funext minuteStart
    unfold pointsOf
    rw [List.filter_filter]
    refine List.filter_congr fun p _ => ?_
    rw [Bool.and_eq_decide, decide_eq_decide]
    simp only [decide_eq_true_eq]
    tauto
  have hfibers := flatten_fibers_perm (fun p : PointRow => minuteOf p.ts)
    (points.filter fun p => p.entityPk = entityPk ∧ p.metricName = q.key.metricName)
    q.start.toNat (q.stop.toNat - q.start.toNat)
  rw [hseries]
  refine hfibers.trans (List.Perm.of_eq ?_)
  unfold windowPoints
  rw [List.filter_filter]
  refine List.filter_congr fun p _ => ?_
  rw [Bool.and_eq_decide, decide_eq_decide]
  simp only [decide_eq_true_eq]
  have hwindow : q.start.toNat ≤ minuteOf p.ts ∧
      minuteOf p.ts < q.start.toNat + (q.stop.toNat - q.start.toNat) ↔ q.start ≤ p.ts ∧ p.ts < q.stop := by
    unfold minuteOf
    omega
  rw [hwindow]
  tauto

/-- Below the watermark, the rollups that are read are those of the minutes of the window. -/
theorem rollupPoints_eq (hs : Schedule points calls) (hone : OneUnit points) {watermark : Nat}
    (hw : (runCalls config calls).watermark = some watermark) {entityPk : Nat}
    (hstop : q.stop ≤ watermark)
    (hunits : ∀ p ∈ points, p.entityPk = entityPk → p.metricName = q.key.metricName → p.unit = unit) :
    (rollupPoints (runCalls config calls).rollups entityPk q).map (·.toRollup) =
      (windowMinutes points entityPk q).map
        (rollupOf (expectedSamples (config.cadence entityPk q.key.metricName)) unit) := by
  unfold rollupPoints windowMinutes
  rw [hs.rollups_eq hone, hw, Option.getD_some]
  have hbelow : ∀ minuteStart ∈ List.range' q.start.toNat (q.stop.toNat - q.start.toNat),
      minuteStart < watermark := by
    intro minuteStart hmem
    have hrange := List.mem_range'_1.1 hmem
    omega
  generalize List.range' q.start.toNat (q.stop.toNat - q.start.toNat) = minutes at hbelow
  induction minutes with
  | nil => rfl
  | cons minuteStart minutes ih =>
    have hrest := ih fun m hm => hbelow m (.tail _ hm)
    have hlt : minuteStart < watermark := hbelow minuteStart (.head _)
    rw [List.map_cons]
    by_cases hnil : pointsOf points ⟨entityPk, q.key.metricName, minuteStart⟩ = []
    · -- a minute without points has no row
      rw [List.filterMap_cons_none (by rw [rollupsUpTo_of_nil hnil]; rfl),
        List.filter_cons_of_neg (by simpa using hnil)]
      exact hrest
    · obtain ⟨p, hp⟩ := List.exists_mem_of_ne_nil _ hnil
      obtain ⟨hmem, he, hm, -⟩ := mem_pointsOf.1 hp
      have hrow : rollupsUpTo config points watermark ⟨entityPk, q.key.metricName, minuteStart⟩ = _ :=
        rollupsUpTo_of_mem hone hp hlt
      rw [List.filterMap_cons_some (by rw [hrow]; rfl), List.filter_cons_of_pos (by simpa using hnil),
        List.map_cons, List.map_cons, hrest, hunits p hmem he hm]

/-- **Rollup summaries agree with raw summaries.** For a series of numbers and a window of full minutes below
the watermark, the rollups that the writer left and the points themselves give the same totals. -/
theorem rollup_eq_raw (config : RollupConfig) {points : List PointRow} {calls : List RollupCall}
    (hs : Schedule points calls) (hone : OneUnit points) {watermark : Nat}
    (hw : (runCalls config calls).watermark = some watermark) (entityPk : Nat) (q : SummaryQuery)
    (allowP95 : Bool) {unit : String}
    (hseries : NumericSeries q unit
      (points.filter fun p => p.entityPk = entityPk ∧ p.metricName = q.key.metricName))
    (hstart : 60 ∣ q.start) (hstop : 60 ∣ q.stop) (hbelow : q.stop ≤ watermark) :
    (rollupSummary q (rollupPoints (runCalls config calls).rollups entityPk q)).map (·.totals) =
      (rawSummary q allowP95 (rawPoints points entityPk q)).map (·.totals) := by
  have hmem : ∀ p ∈ windowPoints points entityPk q, p ∈ points.filter fun p =>
      p.entityPk = entityPk ∧ p.metricName = q.key.metricName := by
    intro p hp
    obtain ⟨hmem, he, hm, -, -⟩ := mem_windowPoints.1 hp
    exact List.mem_filter.2 ⟨hmem, decide_eq_true ⟨he, hm⟩⟩
  have hunits : ∀ p ∈ points, p.entityPk = entityPk → p.metricName = q.key.metricName → p.unit = unit :=
    fun p hp he hm => hseries.units p (List.mem_filter.2 ⟨hp, decide_eq_true ⟨he, hm⟩⟩)
  have hrows := rollupPoints_eq hs hone hw hbelow hunits
  have hperm : (windowMinutes points entityPk q).flatten.Perm (windowPoints points entityPk q) :=
    windowMinutes_perm hstart hstop
  have hparts : ∀ part ∈ windowMinutes points entityPk q, part ≠ [] := by
    intro part hpart
    simpa using (List.mem_filter.1 hpart).2
  show _ = (rawSummary q allowP95 ((windowPoints points entityPk q).map (·.metricPoint q.key))).map _
  by_cases hnil : windowPoints points entityPk q = []
  · -- no points, no rows
    have hnone : windowMinutes points entityPk q = [] := by
      refine List.eq_nil_iff_forall_not_mem.2 fun part hpart => hparts part hpart ?_
      rw [hnil] at hperm
      exact List.flatten_eq_nil_iff.1 hperm.eq_nil part hpart
    rw [hnone] at hrows
    rw [hnil, List.map_eq_nil_iff.1 hrows]
    unfold rollupSummary rawSummary
    rw [List.map_nil, List.mergeSort_nil, List.mergeSort_nil]
    rfl
  · have hin : ∀ p ∈ windowPoints points entityPk q, q.start ≤ p.ts ∧ p.ts < q.stop :=
      fun p hp => (mem_windowPoints.1 hp).2.2.2
    have hwindow : NumericSeries q unit (windowPoints points entityPk q) :=
      ⟨fun p hp => hseries.units p (hmem p hp), fun p hp => hseries.values p (hmem p hp), hseries.range⟩
    have hitems : ∀ item ∈ rollupPoints (runCalls config calls).rollups entityPk q, item.unit = unit := by
      intro item hitem
      have hrow : item.toRollup ∈ (windowMinutes points entityPk q).map (rollupOf _ unit) :=
        hrows ▸ List.mem_map.2 ⟨item, hitem, rfl⟩
      obtain ⟨part, -, hpart⟩ := List.mem_map.1 hrow
      rw [← hpart]
      rfl
    have hne : rollupPoints (runCalls config calls).rollups entityPk q ≠ [] := by
      intro hempty
      rw [hempty, List.map_nil] at hrows
      rw [List.map_eq_nil_iff.1 hrows.symm] at hperm
      exact hnil hperm.symm.eq_nil
    rw [rollupSummary_totals hitems hseries.range hne, hrows, mergeTotals_rollupOf hparts,
      rollupOf_perm hperm, ← rawSummary_totals hwindow hin hnil allowP95]

/-- A minute with a value, and a minute without. -/
theorem rollup_eq_raw_load :
    let config : RollupConfig := { entityType := fun _ => "host", registry := ⟨[], nofun⟩ }
    let p : PointRow := ⟨1, 1, "load1", 61, some 5, none, "count", .exact, 0, 0⟩
    let p' : PointRow := ⟨2, 1, "load1", 121, none, none, "count", .unavailable, 0, 1⟩
    let q : SummaryQuery :=
      { key := ⟨"host", "local", "load1"⟩, start := 60, stop := 180, cadence := 10, now := 200 }
    (rollupSummary q (rollupPoints (runCalls config [⟨240, 180, [p, p']⟩]).rollups 1 q)).map (·.totals) =
      (rawSummary q true (rawPoints [p, p'] 1 q)).map (·.totals) := by
  intro config p p' q
  have hone : OneUnit [p, p'] := by
    unfold OneUnit
    decide
  have hs : Schedule [p, p'] [⟨240, 180, [p, p']⟩] := ⟨by decide, by decide⟩
  have hw : (runCalls config [⟨240, 180, [p, p']⟩]).watermark = some 180 := by decide
  have hseries : NumericSeries q "count"
      ([p, p'].filter fun p => p.entityPk = 1 ∧ p.metricName = q.key.metricName) :=
    ⟨by decide, by decide +kernel, by decide +kernel⟩
  exact rollup_eq_raw config hs hone hw 1 q true hseries (by decide) (by decide) (by decide)

end Monitoring
