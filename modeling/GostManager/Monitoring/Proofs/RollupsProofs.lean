import Mathlib.Data.List.Induction
import GostManager.Lists.Proofs.GroupsProofs
import GostManager.Monitoring.Proofs.PointsProofs
import GostManager.Monitoring.Schedules

/-!
# Proofs: minute rollups

However the calls are scheduled, the rollups are those of all points up to the watermark.
-/

namespace Monitoring

open Lists

variable {config : RollupConfig} {points stored : List PointRow} {k : RollupKey} {p : PointRow}

/-! ## The row of a group -/

theorem average_perm {values values' : List ℚ} (h : values.Perm values') :
    average values = average values' := by
  cases values with
  | nil => rw [h.symm.eq_nil]
  | cons q qs =>
    cases values' with
    | nil => cases h.eq_nil
    | cons q' qs' =>
      show some _ = some _
      rw [h.sum_eq, h.length_eq]

/-- The order of the points does not count. -/
theorem rollupOf_perm {expected : Nat} {unit : String} {ps ps' : List PointRow} (h : ps.Perm ps') :
    rollupOf expected unit ps = rollupOf expected unit ps' := by
  have hvalues : (numericValues ps).Perm (numericValues ps') := h.filterMap _
  have hmem : ∀ q, q ∈ numericValues ps ↔ q ∈ numericValues ps' := fun q => hvalues.mem_iff
  unfold rollupOf
  rw [h.length_eq, min?_congr hmem, max?_congr hmem, average_perm hvalues, h.countP_eq, (h.map _).sum_eq,
    (h.map (·.gap)).sum_eq, worstQuality_congr fun q => (h.map (·.quality)).mem_iff]

/-! ## The points of a row -/

theorem mem_pointsOf : p ∈ pointsOf points k ↔ p ∈ points ∧ p.entityPk = k.entityPk ∧
    p.metricName = k.metricName ∧ minuteOf p.ts = k.minuteStart := by
  simp [pointsOf]

/-- Full minutes that were stored are stored. -/
theorem pointsOf_perm {stop : Nat} (h : (pointsBefore stored stop).Perm (pointsBefore points stop))
    (hstop : 60 ∣ stop) (hk : k.minuteStart < stop) : (pointsOf stored k).Perm (pointsOf points k) := by
  have hsub : ∀ l, pointsOf (pointsBefore l stop) k = pointsOf l k := by
    intro l
    unfold pointsOf pointsBefore
    rw [List.filter_filter]
    refine List.filter_congr fun p _ => ?_
    simp only [Bool.and_eq_decide, decide_eq_decide, decide_eq_true_eq]
    constructor
    · exact fun h => h.1
    · exact fun h => ⟨h, (minuteOf_lt_iff hstop).1 (h.2.2 ▸ hk)⟩
  rw [← hsub stored, ← hsub points]
  exact h.filter _

theorem rollupsUpTo_of_le {watermark : Nat} (h : watermark ≤ k.minuteStart) :
    rollupsUpTo config points watermark k = none := by
  unfold rollupsUpTo
  split
  · rfl
  · rw [if_neg (by omega)]

theorem rollupsUpTo_of_nil {watermark : Nat} (h : pointsOf points k = []) :
    rollupsUpTo config points watermark k = none := by
  unfold rollupsUpTo
  rw [h]

/-- The unit of a row is that of any of its points. -/
theorem rollupsUpTo_of_mem {watermark : Nat} (hone : OneUnit points) (hp : p ∈ pointsOf points k)
    (hk : k.minuteStart < watermark) : rollupsUpTo config points watermark k =
      some (rollupOf (expectedSamples (config.cadence k.entityPk k.metricName)) p.unit
        (pointsOf points k)) := by
  unfold rollupsUpTo
  cases hps : pointsOf points k with
  | nil =>
    rw [hps] at hp
    cases hp
  | cons p' ps =>
    have hp' : p' ∈ pointsOf points k := hps ▸ List.mem_cons_self
    obtain ⟨hmem, he, hm, -⟩ := mem_pointsOf.1 hp
    obtain ⟨hmem', he', hm', -⟩ := mem_pointsOf.1 hp'
    have hunit : p'.unit = p.unit := hone p' hmem' p hmem (he'.trans he.symm) (hm'.trans hm.symm)
    simp only [if_pos hk, hunit]

/-! ## A call -/

section Call

variable {start stop : Nat} {rollups : Rollups}

/-- The rows that a call writes between two full minutes. -/
def written (config : RollupConfig) (stored : List PointRow) (start stop : Nat) (rollups : Rollups) :
    Rollups :=
  storeAll (fun group : GroupKey × List PointRow => group.1.rollupKey) config.rollup
    (groups config.groupKey (pointsBetween stored start stop)) rollups

theorem mem_pointsBetween : p ∈ pointsBetween stored start stop ↔
    p ∈ stored ∧ start ≤ p.ts ∧ p.ts < stop := by
  simp [pointsBetween]

/-- No group is stored under another minute, or under a row without points. -/
theorem written_of_not (hstart : 60 ∣ start) (hstop : 60 ∣ stop)
    (h : k.minuteStart < start ∨ stop ≤ k.minuteStart ∨ pointsOf stored k = []) :
    written config stored start stop rollups k = rollups k := by
  refine storeAll_of_ne ?_
  rintro ⟨g, ps⟩ hgroup rfl
  obtain ⟨hps, hne⟩ := ((groups_spec _ _).mem g ps).1 hgroup
  obtain ⟨p, hp⟩ := List.exists_mem_of_ne_nil ps hne
  rw [hps, List.mem_filter, mem_pointsBetween, decide_eq_true_eq] at hp
  obtain ⟨⟨hmem, hlo, hhi⟩, rfl⟩ := hp
  have hlo' : start ≤ minuteOf p.ts := (le_minuteOf_iff hstart).2 hlo
  have hhi' : minuteOf p.ts < stop := (minuteOf_lt_iff hstop).2 hhi
  rcases h with h | h | h
  · exact absurd h (by simpa [GroupKey.rollupKey, RollupConfig.groupKey] using hlo')
  · exact absurd h (by simpa [GroupKey.rollupKey, RollupConfig.groupKey] using hhi')
  · have hpoint : p ∈ pointsOf stored (config.groupKey p).rollupKey := mem_pointsOf.2 ⟨hmem, rfl, rfl, rfl⟩
    rw [h] at hpoint
    cases hpoint

/-- The row of each minute between is that of all points of the minute. -/
theorem written_of_mem (hstart : 60 ∣ start) (hstop : 60 ∣ stop)
    (hone : OneUnit (pointsBetween stored start stop)) (hp : p ∈ pointsOf stored k)
    (hlo : start ≤ k.minuteStart) (hhi : k.minuteStart < stop) :
    written config stored start stop rollups k =
      some (rollupOf (expectedSamples (config.cadence k.entityPk k.metricName)) p.unit
        (pointsOf stored k)) := by
  obtain ⟨hmem, he, hm, hminute⟩ := mem_pointsOf.1 hp
  have hbetween : ∀ p', p' ∈ pointsOf stored k → p' ∈ pointsBetween stored start stop := by
    intro p' hp'
    obtain ⟨hmem', -, -, hminute'⟩ := mem_pointsOf.1 hp'
    refine mem_pointsBetween.2 ⟨hmem', ?_, ?_⟩
    · exact (le_minuteOf_iff hstart).1 (hminute' ▸ hlo)
    · exact (minuteOf_lt_iff hstop).1 (hminute' ▸ hhi)
  -- the points of the row are one group
  have hgroup : (pointsBetween stored start stop).filter
      (fun p' => config.groupKey p' = config.groupKey p) = pointsOf stored k := by
    unfold pointsBetween pointsOf
    rw [List.filter_filter]
    refine List.filter_congr fun p' hp' => ?_
    rw [Bool.and_eq_decide, decide_eq_decide]
    simp only [decide_eq_true_eq]
    constructor
    · rintro ⟨hkey, -⟩
      injection hkey with h1 h2 h3 h4 h5
      exact ⟨h1.trans he, h3.trans hm, h4.trans hminute⟩
    · intro hrow
      have hrow' : p' ∈ pointsOf stored k := mem_pointsOf.2 ⟨hp', hrow⟩
      have hp'between := hbetween p' hrow'
      obtain ⟨h1, h2, h3⟩ := hrow
      have hunit := hone p' hp'between p (hbetween p hp) (h1.trans he.symm) (h2.trans hm.symm)
      refine ⟨?_, (mem_pointsBetween.1 hp'between).2⟩
      unfold RollupConfig.groupKey
      rw [h1, he, h2, hm, h3, hminute, hunit]
  have hkey : (config.groupKey p).rollupKey = k := by
    unfold GroupKey.rollupKey RollupConfig.groupKey
    rw [he, hm, hminute]
  have hmemGroup : (config.groupKey p, pointsOf stored k) ∈
      groups config.groupKey (pointsBetween stored start stop) := by
    refine ((groups_spec _ _).mem _ _).2 ⟨hgroup.symm, ?_⟩
    exact List.ne_nil_of_mem hp
  -- and no other group goes to this row
  have hunique : ∀ group ∈ groups config.groupKey (pointsBetween stored start stop),
      group.1.rollupKey = (config.groupKey p).rollupKey → group = (config.groupKey p, pointsOf stored k) := by
    rintro ⟨g, ps⟩ hg hrow
    obtain ⟨hps, hne⟩ := ((groups_spec _ _).mem g ps).1 hg
    obtain ⟨p', hp'⟩ := List.exists_mem_of_ne_nil ps hne
    rw [hps, List.mem_filter, decide_eq_true_eq] at hp'
    obtain ⟨hp'between, rfl⟩ := hp'
    injection hrow with h1 h2 h3
    have hunit := hone p' hp'between p (hbetween p hp) h1 h2
    have hg : config.groupKey p' = config.groupKey p := by
      unfold RollupConfig.groupKey
      have h1 : p'.entityPk = p.entityPk := h1
      have h2 : p'.metricName = p.metricName := h2
      have h3 : minuteOf p'.ts = minuteOf p.ts := h3
      rw [h1, h2, h3, hunit]
    rw [hps, hg, hgroup]
  have hstored : written config stored start stop rollups (config.groupKey p).rollupKey =
      some (config.rollup (config.groupKey p, pointsOf stored k)) := storeAll_of_mem hmemGroup hunique
  rw [← hkey]
  refine hstored.trans ?_
  unfold RollupConfig.rollup
  rw [hkey]
  show some (rollupOf (expectedSamples (config.cadence p.entityPk p.metricName)) p.unit _) = _
  rw [he, hm]

end Call

/-! ## Schedules -/

/-- The watermark is a full minute that has passed, and the rollups are those of all points before it. -/
structure UpToDate (config : RollupConfig) (points : List PointRow) (now : Nat) (state : RollupState) :
    Prop where
  aligned : ∀ watermark, state.watermark = some watermark → 60 ∣ watermark
  passed : ∀ watermark, state.watermark = some watermark → watermark ≤ minuteOf now
  rollups : state.rollups = rollupsUpTo config points (state.watermark.getD 0)

section Schedules

variable {now : Nat} {state : RollupState} {call : RollupCall} {calls calls' : List RollupCall}

theorem UpToDate.empty : UpToDate config points now .empty := by
  refine ⟨nofun, nofun, ?_⟩
  funext k
  exact (rollupsUpTo_of_le (Nat.zero_le _)).symm

theorem UpToDate.watermark_le (h : UpToDate config points now state) :
    state.watermark.getD 0 ≤ minuteOf now := by
  cases hw : state.watermark with
  | none => exact Nat.zero_le _
  | some watermark => exact h.passed watermark hw

theorem UpToDate.dvd_watermark (h : UpToDate config points now state) :
    60 ∣ state.watermark.getD 0 := by
  cases hw : state.watermark with
  | none => exact Nat.dvd_zero 60
  | some watermark => exact h.aligned watermark hw

theorem UpToDate.later (h : UpToDate config points now state) {later : Nat} (hle : now ≤ later) :
    UpToDate config points later state :=
  ⟨h.aligned, fun watermark hw => (h.passed watermark hw).trans (minuteOf_mono hle), h.rollups⟩

/-- Nothing stored before a full minute, nothing in the rows before it. -/
theorem pointsOf_eq_nil {stop : Nat} (h : (pointsBefore stored stop).Perm (pointsBefore points stop))
    (hstop : 60 ∣ stop) (hk : k.minuteStart < stop) (hnil : pointsOf stored k = []) :
    pointsOf points k = [] := by
  have hperm := pointsOf_perm h hstop hk
  rw [hnil] at hperm
  exact hperm.symm.eq_nil

/-- Where a call begins: at the watermark, or not after any point. -/
theorem rollupStart_or (stored : List PointRow) (watermark : Option Nat) :
    rollupStart stored watermark = watermark.getD 0 ∨
      watermark.getD 0 = 0 ∧ ∀ p ∈ stored, rollupStart stored watermark ≤ p.ts := by
  unfold rollupStart
  by_cases hw : watermark.getD 0 = 0
  · simp only [if_pos hw]
    refine .inr ⟨hw, fun p hp => ?_⟩
    have hmem : p.ts ∈ stored.map (·.ts) := List.mem_map.2 ⟨p, hp, rfl⟩
    obtain ⟨first, hfirst⟩ := Option.isSome_iff_exists.1
      (List.isSome_min?_of_ne_nil (List.ne_nil_of_mem hmem))
    rw [hfirst, Option.map_some, Option.getD_some]
    exact minuteOf_le.trans ((List.min?_eq_some_iff.1 hfirst).2 _ hmem)
  · rw [if_neg hw]
    exact .inl rfl

theorem dvd_rollupStart {watermark : Option Nat} (h : 60 ∣ watermark.getD 0) :
    60 ∣ rollupStart stored watermark := by
  unfold rollupStart
  by_cases hw : watermark.getD 0 = 0
  · simp only [if_pos hw]
    cases (stored.map (·.ts)).min? with
    | none => exact Nat.dvd_zero 60
    | some first => exact dvd_minuteOf
  · simp only [if_neg hw]
    exact h

theorem watermark_le_rollupStart {watermark : Option Nat} :
    watermark.getD 0 ≤ rollupStart stored watermark := by
  rcases rollupStart_or stored watermark with h | ⟨h, -⟩
  · exact h.symm.le
  · rw [h]
    exact Nat.zero_le _

/-- A call ends at a full minute that has passed. -/
theorem rollupEnd_le {batchMinutes : Nat} {watermark : Option Nat} :
    rollupEnd batchMinutes now stored watermark ≤ minuteOf now :=
  Nat.min_le_left _ _

theorem dvd_rollupEnd {batchMinutes : Nat} {watermark : Option Nat} (h : 60 ∣ watermark.getD 0) :
    60 ∣ rollupEnd batchMinutes now stored watermark := by
  unfold rollupEnd
  rcases Nat.le_total (minuteOf now) (rollupStart stored watermark + batchMinutes * 60) with hmin | hmin
  · rw [Nat.min_eq_left hmin]
    exact dvd_minuteOf
  · rw [Nat.min_eq_right hmin]
    exact Nat.dvd_add (dvd_rollupStart h) (Nat.dvd_mul_left 60 _)

/-- One call keeps the rollups up to date. -/
theorem UpToDate.rollUp (h : UpToDate config points now state) (hone : OneUnit points)
    (hnow : now ≤ call.now)
    (hstored : (pointsBefore call.stored (minuteOf call.now)).Perm
      (pointsBefore points (minuteOf call.now))) :
    UpToDate config points call.now
      (rollupCompletedMinutes config call.batchMinutes call.now call.stored state) := by
  have hle : state.watermark.getD 0 ≤ minuteOf call.now := h.watermark_le.trans (minuteOf_mono hnow)
  unfold rollupCompletedMinutes
  by_cases hnil : call.stored = []
  · -- nothing is stored, so no row before the watermark has points
    rw [if_pos hnil]
    refine ⟨?_, ?_, ?_⟩
    · rintro watermark ⟨⟩
      exact dvd_minuteOf
    · rintro watermark ⟨⟩
      exact Nat.le_refl _
    · show state.rollups = rollupsUpTo config points (minuteOf call.now)
      rw [h.rollups]
      funext k
      by_cases hk : k.minuteStart < minuteOf call.now
      · have hempty : pointsOf points k = [] :=
          pointsOf_eq_nil hstored dvd_minuteOf hk (by rw [hnil]; rfl)
        rw [rollupsUpTo_of_nil hempty, rollupsUpTo_of_nil hempty]
      · rw [rollupsUpTo_of_le (by omega), rollupsUpTo_of_le (by omega)]
  rw [if_neg hnil]
  have hdvd : 60 ∣ rollupStart call.stored state.watermark := dvd_rollupStart h.dvd_watermark
  have hge : state.watermark.getD 0 ≤ rollupStart call.stored state.watermark := watermark_le_rollupStart
  have hbefore := rollupStart_or call.stored state.watermark
  by_cases hstop : rollupEnd call.batchMinutes call.now call.stored state.watermark ≤
      rollupStart call.stored state.watermark
  · -- nothing to do
    rw [if_pos hstop]
    exact h.later hnow
  rw [if_neg hstop]
  have hend : rollupEnd call.batchMinutes call.now call.stored state.watermark ≤ minuteOf call.now :=
    rollupEnd_le
  have hdvdEnd : 60 ∣ rollupEnd call.batchMinutes call.now call.stored state.watermark :=
    dvd_rollupEnd h.dvd_watermark
  generalize rollupStart call.stored state.watermark = start at hdvd hge hbefore hstop
  generalize rollupEnd call.batchMinutes call.now call.stored state.watermark = stop at hstop hend hdvdEnd
  refine ⟨?_, ?_, ?_⟩
  · rintro watermark ⟨⟩
    exact hdvdEnd
  · rintro watermark ⟨⟩
    exact hend
  show written config call.stored start stop state.rollups = rollupsUpTo config points stop
  -- what is rolled up is complete
  have hcomplete : ∀ p, p ∈ pointsBetween call.stored start stop → p ∈ points := by
    intro p hp
    obtain ⟨hmem, -, hlt⟩ := mem_pointsBetween.1 hp
    have hbefore : p ∈ pointsBefore call.stored (minuteOf call.now) :=
      List.mem_filter.2 ⟨hmem, decide_eq_true (Nat.lt_of_lt_of_le hlt hend)⟩
    exact (List.mem_filter.1 (hstored.mem_iff.1 hbefore)).1
  have honeBetween : OneUnit (pointsBetween call.stored start stop) :=
    fun p hp p' hp' => hone p (hcomplete p hp) p' (hcomplete p' hp')
  funext k
  by_cases hhi : stop ≤ k.minuteStart
  · rw [written_of_not hdvd hdvdEnd (.inr (.inl hhi)), rollupsUpTo_of_le hhi, h.rollups,
      rollupsUpTo_of_le (by omega)]
  have hk : k.minuteStart < minuteOf call.now := by omega
  have hperm := pointsOf_perm hstored dvd_minuteOf hk
  by_cases hnone : pointsOf call.stored k = []
  · have hempty : pointsOf points k = [] := pointsOf_eq_nil hstored dvd_minuteOf hk hnone
    rw [written_of_not hdvd hdvdEnd (.inr (.inr hnone)), rollupsUpTo_of_nil hempty, h.rollups,
      rollupsUpTo_of_nil hempty]
  obtain ⟨p, hp⟩ := List.exists_mem_of_ne_nil _ hnone
  have hp' : p ∈ pointsOf points k := hperm.mem_iff.1 hp
  rw [rollupsUpTo_of_mem hone hp' (by omega)]
  by_cases hlo : k.minuteStart < start
  · -- a row from before this call
    rw [written_of_not hdvd hdvdEnd (.inl hlo), h.rollups]
    rcases hbefore with rfl | ⟨-, hfirst⟩
    · exact rollupsUpTo_of_mem hone hp' hlo
    · obtain ⟨hmem, -, -, hminute⟩ := mem_pointsOf.1 hp
      have hts := (le_minuteOf_iff hdvd).2 (hfirst p hmem)
      omega
  · rw [written_of_mem hdvd hdvdEnd honeBetween hp (by omega) (by omega), rollupOf_perm hperm]

/-- A part of a schedule from its start. -/
theorem Schedule.init {call : RollupCall} (hs : Schedule points (calls ++ [call])) : Schedule points calls :=
  ⟨(List.pairwise_append.1 hs.order).1, fun c hc => hs.stored c (List.mem_append_left _ hc)⟩

/-- No call of a schedule is later than its last. -/
theorem Schedule.now_le {call : RollupCall} (hs : Schedule points (calls ++ [call])) :
    ∀ c ∈ calls ++ [call], c.now ≤ call.now := by
  intro c hc
  rcases List.mem_append.1 hc with hc | hc
  · exact (List.pairwise_append.1 hs.order).2.2 c hc call (List.mem_singleton_self _)
  · rw [List.mem_singleton.1 hc]

/-- Any schedule keeps the rollups up to date. -/
theorem Schedule.upToDate (hs : Schedule points calls) (hone : OneUnit points) (hlast : ∀ call ∈ calls,
    call.now ≤ now) : UpToDate config points now (runCalls config calls) := by
  induction calls using List.reverseRecOn generalizing now with
  | nil => exact .empty
  | append_singleton calls call ih =>
    have hstate : UpToDate config points call.now (runCalls config calls) :=
      ih hs.init fun c hc => hs.now_le c (List.mem_append_left _ hc)
    have hrun : runCalls config (calls ++ [call]) =
        rollupCompletedMinutes config call.batchMinutes call.now call.stored (runCalls config calls) := by
      unfold runCalls
      rw [List.foldl_append, List.foldl_cons, List.foldl_nil]
    have hmem : call ∈ calls ++ [call] := List.mem_append_right _ (List.mem_singleton_self _)
    have hcall := hstate.rollUp hone (Nat.le_refl _) (hs.stored call hmem)
    rw [hrun]
    exact hcall.later (hlast call hmem)

/-- An aligned watermark that has passed is valid. -/
theorem UpToDate.valid (h : UpToDate config points now state) {watermark later : Nat}
    (hw : state.watermark = some watermark) (hlater : now ≤ later) :
    rollupWatermarkStatus state.stored later = (some (watermark : Int), .valid) := by
  have hdvd := h.aligned watermark hw
  have hle : watermark ≤ minuteOf later := (h.passed watermark hw).trans (minuteOf_mono hlater)
  unfold RollupState.stored rollupWatermarkStatus
  rw [hw]
  unfold minuteOf at hle
  show (if (watermark : Int) < 0 then _ else _) = _
  rw [if_neg (by omega), if_neg (by omega), if_neg (by omega)]

/-- The rollups of a schedule are those of all points up to its watermark. -/
theorem Schedule.rollups_eq (hs : Schedule points calls) (hone : OneUnit points) :
    (runCalls config calls).rollups =
      rollupsUpTo config points ((runCalls config calls).watermark.getD 0) := by
  obtain rfl | ⟨calls, call, rfl⟩ := calls.eq_nil_or_concat'
  · exact (show UpToDate config points 0 .empty from .empty).rollups
  · exact (hs.upToDate hone hs.now_le).rollups

end Schedules

/-- **Rollups do not depend on the schedule.** Two schedules with the same watermark leave the same rows,
the row of a minute below the watermark is that of all its points, and the watermark of each call is valid
ever after. -/
theorem rollups_schedule_independent (config : RollupConfig) {points : List PointRow}
    (hone : OneUnit points) :
    (∀ calls calls', Schedule points calls → Schedule points calls' →
      (runCalls config calls).watermark = (runCalls config calls').watermark →
      (runCalls config calls).rollups = (runCalls config calls').rollups) ∧
    (∀ calls, Schedule points calls → ∀ watermark, (runCalls config calls).watermark = some watermark →
      ∀ k : RollupKey, k.minuteStart < watermark → pointsOf points k ≠ [] →
      ∃ row, (runCalls config calls).rollups k = some row ∧
        row.samples = (pointsOf points k).length ∧
        row.minValue = (numericValues (pointsOf points k)).min? ∧
        row.avgValue = average (numericValues (pointsOf points k)) ∧
        row.maxValue = (numericValues (pointsOf points k)).max? ∧
        row.unavailableCount = ((pointsOf points k).filter fun p => p.quality = .unavailable).length ∧
        row.resetCount = ((pointsOf points k).map (·.reset)).sum ∧
        row.gapCount = ((pointsOf points k).map (·.gap)).sum ∧
        (∃ p ∈ pointsOf points k, p.quality = row.quality) ∧
        (∀ p ∈ pointsOf points k, p.quality.rank ≤ row.quality.rank) ∧
        row.coverage =
          (min 1 (row.samples / (max 1 ⌈60 / config.cadence k.entityPk k.metricName⌉₊ : ℕ)) : ℚ)) ∧
    (∀ calls call, Schedule points (calls ++ [call]) →
      ∀ watermark, (runCalls config (calls ++ [call])).watermark = some watermark →
      ∀ later : Nat, call.now ≤ later →
      rollupWatermarkStatus (runCalls config (calls ++ [call])).stored later =
        (some (watermark : Int), .valid)) := by
  refine ⟨?_, ?_, ?_⟩
  · intro calls calls' hs hs' hw
    rw [hs.rollups_eq hone, hs'.rollups_eq hone, hw]
  · intro calls hs watermark hw k hk hne
    obtain ⟨p, hp⟩ := List.exists_mem_of_ne_nil _ hne
    refine ⟨rollupOf (expectedSamples (config.cadence k.entityPk k.metricName)) p.unit (pointsOf points k),
      ?_, rfl, rfl, rfl, rfl, List.countP_eq_length_filter, rfl, rfl, ?_, ?_, rfl⟩
    · rw [hs.rollups_eq hone, hw]
      exact rollupsUpTo_of_mem hone hp hk
    · exact List.mem_map.1 (worstQuality_mem (mt List.map_eq_nil_iff.1 hne))
    · exact fun p hp => rank_le_worstQuality (List.mem_map.2 ⟨p, hp, rfl⟩)
  · intro calls call hs watermark hw later hlater
    exact (hs.upToDate hone hs.now_le).valid hw hlater

/-- Points of two minutes, rolled up by one call or by a call for each minute. -/
theorem rollups_schedule_independent_twoMinutes :
    let config : RollupConfig := { entityType := fun _ => "tunnel", registry := ⟨[], nofun⟩ }
    let p : PointRow := ⟨1, 1, "rx", 61, some 5, none, "bytes", .exact, 0, 0⟩
    let p' : PointRow := ⟨2, 1, "rx", 121, some 7, none, "bytes", .exact, 0, 0⟩
    (runCalls config [⟨240, 180, [p, p']⟩]).rollups =
      (runCalls config [⟨1, 130, [p', p]⟩, ⟨1, 180, [p, p']⟩]).rollups := by
  intro config p p'
  have hone : OneUnit [p, p'] := by
    unfold OneUnit
    decide
  have hs : Schedule [p, p'] [⟨240, 180, [p, p']⟩] :=
    ⟨by decide, by decide⟩
  have hs' : Schedule [p, p'] [⟨1, 130, [p', p]⟩, ⟨1, 180, [p, p']⟩] :=
    ⟨by decide, by decide⟩
  exact (rollups_schedule_independent config hone).1 _ _ hs hs' (by decide)

end Monitoring
