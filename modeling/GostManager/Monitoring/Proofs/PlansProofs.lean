import Mathlib.Tactic.Push
import GostManager.Monitoring.Plans

/-!
# Proofs: query plans

A plan never reads a second twice. The minutes at both ends of the rollup part are read only if they are
full: what is cut off there is not read from the points either.
-/

namespace Monitoring

variable {e : QueryEngine} {start stop : Int} {plan : QueryPlan}

/-! ## Parts of a plan -/

/-- The raw part of a plan. -/
theorem readsRaw_iff {rawStart rawEnd ts : Int} (h : plan.rawStart = some rawStart)
    (h' : plan.rawEnd = some rawEnd) : plan.ReadsRaw ts ↔ rawStart ≤ ts ∧ ts < rawEnd := by
  constructor
  · rintro ⟨a, b, ha, hb, hts⟩
    obtain rfl := Option.some.inj (h.symm.trans ha)
    obtain rfl := Option.some.inj (h'.symm.trans hb)
    exact hts
  · exact fun hts => ⟨rawStart, rawEnd, h, h', hts⟩

theorem not_readsRaw {ts : Int} (h : plan.rawEnd = none) : ¬ plan.ReadsRaw ts := by
  rintro ⟨a, b, -, hb, -⟩
  rw [h] at hb
  cases hb

/-- The rollup part of a plan. -/
theorem readsRollup_iff {rollupStart rollupEnd ts : Int} (h : plan.rollupStart = some rollupStart)
    (h' : plan.rollupEnd = some rollupEnd) :
    plan.ReadsRollup ts ↔ ceilMinute rollupStart ≤ ts ∧ ts < floorMinute rollupEnd := by
  constructor
  · rintro ⟨a, b, ha, hb, hts⟩
    obtain rfl := Option.some.inj (h.symm.trans ha)
    obtain rfl := Option.some.inj (h'.symm.trans hb)
    exact hts
  · exact fun hts => ⟨rollupStart, rollupEnd, h, h', hts⟩

theorem not_readsRollup {ts : Int} (h : plan.rollupStart = none) : ¬ plan.ReadsRollup ts := by
  rintro ⟨a, b, ha, -, -⟩
  rw [h] at ha
  cases ha

/-! ## The plan that is chosen -/

/-- The end of what the window has of finalized minutes. -/
def finalizedEnd (start stop watermark : Int) : Int := min stop (max start watermark)

/-- Where the points begin behind the finalized minutes. -/
def QueryEngine.rawFrom (e : QueryEngine) (start stop watermark : Int) : Int :=
  if finalizedEnd start stop watermark < e.rawCutoff then min stop e.rawCutoff
  else finalizedEnd start stop watermark

/-- What a plan reads: all points, or finalized minutes and the points behind them. -/
inductive QueryEngine.Reads (e : QueryEngine) (start stop : Int) (plan : QueryPlan) : Prop where
  | raw (cause : e.rawCutoff ≤ start ∧ e.rows .raw start stop ≤ e.limits.maxQueryRows ∨
        (rollupWatermarkStatus e.watermark e.now).1 = none)
      (rawStart : plan.rawStart = some start) (rawEnd : plan.rawEnd = some stop)
      (rollupStart : plan.rollupStart = none)
  | split (overBudget : ¬ (e.rawCutoff ≤ start ∧ e.rows .raw start stop ≤ e.limits.maxQueryRows))
      (watermark : Int) (valid : (rollupWatermarkStatus e.watermark e.now).1 = some watermark)
      (rawPart : e.rawFrom start stop watermark < stop →
        plan.rawStart = some (e.rawFrom start stop watermark) ∧ plan.rawEnd = some stop)
      (noRawPart : ¬ e.rawFrom start stop watermark < stop → plan.rawEnd = none)
      (rollupPart : start < finalizedEnd start stop watermark →
        plan.rollupStart = some start ∧ plan.rollupEnd = some (finalizedEnd start stop watermark))
      (noRollupPart : ¬ start < finalizedEnd start stop watermark → plan.rollupStart = none)

theorem boundedPointCount_le_iff {source : PointSource} {limit : Nat} :
    e.boundedPointCount source start stop limit ≤ limit ↔ e.rows source start stop ≤ limit := by
  unfold QueryEngine.boundedPointCount
  omega

/-- Any plan reads one of these. -/
theorem reads_of_plan (hwindow : start < stop) (h : e.costAwarePlan start stop = .ok plan) :
    e.Reads start stop plan := by
  unfold QueryEngine.costAwarePlan at h
  simp only [boundedPointCount_le_iff] at h
  by_cases hbudget : e.rawCutoff ≤ start ∧ e.rows .raw start stop ≤ e.limits.maxQueryRows
  · rw [if_pos hbudget] at h
    obtain rfl := Except.ok.inj h
    exact .raw (.inl hbudget) rfl rfl rfl
  rw [if_neg hbudget] at h
  cases hw : (rollupWatermarkStatus e.watermark e.now).1 with
  | none =>
    simp only [hw, Option.elim_none, Option.isSome_none, Bool.false_eq_true, false_and, if_false,
      if_pos hwindow] at h
    split at h
    · cases h
    · obtain rfl := Except.ok.inj h
      exact .raw (.inr hw) rfl rfl rfl
  | some watermark =>
    have hfrom : max start (finalizedEnd start stop watermark) = finalizedEnd start stop watermark := by
      unfold finalizedEnd
      omega
    simp only [hw, Option.elim_some, Option.isSome_some, true_and, ← finalizedEnd.eq_1, hfrom,
      ← QueryEngine.rawFrom.eq_1] at h
    split at h
    · cases h
    · obtain rfl := Except.ok.inj h
      refine .split hbudget watermark hw ?_ ?_ ?_ ?_
      · intro hlt
        simp only [if_pos hlt, Option.map_some, and_self]
      · intro hlt
        simp only [if_neg hlt]
      · intro hlt
        simp only [if_pos hlt, Option.map_some, and_self]
      · intro hlt
        simp only [if_neg hlt]

/-! ## What is lost -/

/-- The window is read from points, or what it has of finalized minutes since the cutoff is made of full
minutes. -/
def QueryEngine.NothingCut (e : QueryEngine) (start stop : Int) : Prop :=
  (e.rawCutoff ≤ start ∧ e.rows .raw start stop ≤ e.limits.maxQueryRows) ∨
    ∀ watermark, (rollupWatermarkStatus e.watermark e.now).1 = some watermark →
      finalizedEnd start stop watermark ≤ max start e.rawCutoff ∨
        ceilMinute start ≤ max start e.rawCutoff ∧ 60 ∣ finalizedEnd start stop watermark

/-- Full minutes up to the finalized end, and points from there on. -/
theorem readsOnce_iff {watermark : Int} (hwindow : start < stop)
    (hraw : ∀ ts, plan.ReadsRaw ts ↔ e.rawFrom start stop watermark ≤ ts ∧ ts < stop)
    (hrollup : ∀ ts, plan.ReadsRollup ts ↔ start < finalizedEnd start stop watermark ∧
      ceilMinute start ≤ ts ∧ ts < floorMinute (finalizedEnd start stop watermark)) :
    plan.ReadsOnce start stop e.rawCutoff ↔
      finalizedEnd start stop watermark ≤ max start e.rawCutoff ∨
        ceilMinute start ≤ max start e.rawCutoff ∧ 60 ∣ finalizedEnd start stop watermark := by
  have hbounds : start ≤ finalizedEnd start stop watermark ∧
      finalizedEnd start stop watermark ≤ stop := by
    unfold finalizedEnd
    omega
  have hceil : start ≤ ceilMinute start := by
    unfold ceilMinute
    omega
  have hfloor : floorMinute (finalizedEnd start stop watermark) ≤ finalizedEnd start stop watermark := by
    unfold floorMinute
    omega
  have hdvd : finalizedEnd start stop watermark ≤ floorMinute (finalizedEnd start stop watermark) ↔
      60 ∣ finalizedEnd start stop watermark := by
    unfold floorMinute
    omega
  have hfrom : finalizedEnd start stop watermark ≤ e.rawFrom start stop watermark ∧
      (e.rawFrom start stop watermark = finalizedEnd start stop watermark ∨
        e.rawFrom start stop watermark = min stop e.rawCutoff ∧
          finalizedEnd start stop watermark < e.rawCutoff) := by
    unfold QueryEngine.rawFrom
    split <;> omega
  generalize finalizedEnd start stop watermark = fin at *
  generalize e.rawFrom start stop watermark = rawFrom at *
  constructor
  · intro h
    by_contra hcut
    obtain ⟨hfin, hcut⟩ := not_or.1 hcut
    -- the first second since the cutoff, and the last one that is finalized
    have hfirst := h.covered (max start e.rawCutoff) (by omega) (by omega) (by omega)
    have hlast := h.covered (fin - 1) (by omega) (by omega) (by omega)
    rw [hraw, hrollup] at hfirst hlast
    refine hcut ⟨?_, ?_⟩
    · omega
    · rw [← hdvd]
      omega
  · intro hcut
    refine ⟨?_, ?_, ?_⟩
    · intro ts
      rw [hraw, hrollup]
      omega
    · intro ts
      rw [hraw, hrollup]
      omega
    · intro ts hlo hhi hsince
      rw [hraw, hrollup]
      rw [← hdvd] at hcut
      omega

/-- **Query plans.** A plan reads each second of the window since the cutoff once, and nothing else, if and
only if no minute is cut. -/
theorem plan_readsOnce_iff (e : QueryEngine) {start stop : Int} {plan : QueryPlan} (hwindow : start < stop)
    (h : e.costAwarePlan start stop = .ok plan) :
    plan.ReadsOnce start stop e.rawCutoff ↔ e.NothingCut start stop := by
  cases reads_of_plan hwindow h with
  | raw cause hrawStart hrawEnd hrollup =>
    have hcut : e.NothingCut start stop := by
      rcases cause with hbudget | hnone
      · exact .inl hbudget
      · refine .inr fun watermark hw => ?_
        rw [hnone] at hw
        cases hw
    refine iff_of_true ⟨?_, ?_, ?_⟩ hcut
    · exact fun ts _ => not_readsRollup hrollup
    · intro ts hts
      exact (readsRaw_iff hrawStart hrawEnd).1 (hts.resolve_right (not_readsRollup hrollup))
    · exact fun ts hlo hhi _ => .inl ((readsRaw_iff hrawStart hrawEnd).2 ⟨hlo, hhi⟩)
  | split hbudget watermark valid rawPart noRawPart rollupPart noRollupPart =>
    have hcut : e.NothingCut start stop ↔ finalizedEnd start stop watermark ≤ max start e.rawCutoff ∨
        ceilMinute start ≤ max start e.rawCutoff ∧ 60 ∣ finalizedEnd start stop watermark := by
      constructor
      · rintro (h | h)
        · exact absurd h hbudget
        · exact h watermark valid
      · intro h
        refine .inr fun watermark' hw => ?_
        rw [valid] at hw
        exact Option.some.inj hw ▸ h
    have hraw : ∀ ts, plan.ReadsRaw ts ↔ e.rawFrom start stop watermark ≤ ts ∧ ts < stop := by
      intro ts
      by_cases hlt : e.rawFrom start stop watermark < stop
      · exact readsRaw_iff (rawPart hlt).1 (rawPart hlt).2
      · exact iff_of_false (not_readsRaw (noRawPart hlt)) (by omega)
    have hrollup : ∀ ts, plan.ReadsRollup ts ↔ start < finalizedEnd start stop watermark ∧
        ceilMinute start ≤ ts ∧ ts < floorMinute (finalizedEnd start stop watermark) := by
      intro ts
      by_cases hlt : start < finalizedEnd start stop watermark
      · rw [readsRollup_iff (rollupPart hlt).1 (rollupPart hlt).2]
        exact (and_iff_right hlt).symm
      · exact iff_of_false (not_readsRollup (noRollupPart hlt)) fun h => hlt h.1
    rw [hcut]
    exact readsOnce_iff hwindow hraw hrollup

/-- An hour of the usual series: more points than a query may buffer. -/
def busyEngine : QueryEngine where
  now := 90030
  watermark := some (some 90000)
  rows source start stop :=
    match source with
    | .raw => 542 * ((stop - start) / 10).toNat
    | .rollup => 542 * ((stop - start) / 60).toNat

/-- A window that begins with a full minute loses nothing. -/
theorem plan_readsOnce_iff_fullMinute : ∃ plan, busyEngine.costAwarePlan 86460 90030 = .ok plan ∧
    plan.ReadsOnce 86460 90030 busyEngine.rawCutoff := by
  have hplan : ∃ plan, busyEngine.costAwarePlan 86460 90030 = .ok plan := by
    cases h : busyEngine.costAwarePlan 86460 90030 with
    | error message =>
      have hok : (busyEngine.costAwarePlan 86460 90030).isOk = true := by decide
      rw [h] at hok
      cases hok
    | ok plan => exact ⟨plan, rfl⟩
  obtain ⟨plan, hplan⟩ := hplan
  refine ⟨plan, hplan, (plan_readsOnce_iff busyEngine (by decide) hplan).2 (.inr fun watermark hw => ?_)⟩
  obtain rfl : watermark = 90000 := by
    have hstored : (rollupWatermarkStatus busyEngine.watermark busyEngine.now).1 = some 90000 := by
      decide
    rw [hstored] at hw
    exact (Option.some.inj hw).symm
  decide

/-- A window that begins in the middle of a minute loses the rest of that minute. -/
theorem not_plan_readsOnce : ¬ ∀ (e : QueryEngine) (start stop : Int) (plan : QueryPlan), start < stop →
    stop ≤ e.now → e.costAwarePlan start stop = .ok plan → plan.ReadsOnce start stop e.rawCutoff := by
  intro h
  have hplan : busyEngine.costAwarePlan 86430 90030 = .ok {
      sourceMode := .hybrid
      rawStart := some 90000
      rawEnd := some 90030
      rollupStart := some 86430
      rollupEnd := some 90000
      estimatedRows := some 1626
      reason := "rollup_watermark"
      rollupWatermark := some 90000
      rollupWatermarkStatus := .valid } := by
    decide
  have honce := h busyEngine 86430 90030 _ (by decide) (by decide) hplan
  rcases honce.covered 86430 (by decide) (by decide) (by decide) with hraw | hrollup
  · exact absurd ((readsRaw_iff rfl rfl).1 hraw) (by decide)
  · exact absurd ((readsRollup_iff rfl rfl).1 hrollup) (by decide)

end Monitoring
