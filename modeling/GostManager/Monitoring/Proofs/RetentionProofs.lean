import Mathlib.Data.List.Induction
import GostManager.Monitoring.Proofs.RollupsProofs
import GostManager.Monitoring.Retention

/-!
# Proofs: retention in the course of time

Points below the watermark were rolled up. Retention deletes by age alone: what it takes beyond the batch of
the same maintenance was never rolled up.
-/

namespace Monitoring

variable {config : RollupConfig} {p : PointRow} {now : Nat} {history : History}

/-! ## What a maintenance does -/

/-- A maintenance rolls up the points that it reads, and no others. -/
theorem rollUp_rollups : (rollUp config now history).rollup.rollups =
    Lists.storeAll (fun group => group.1.rollupKey) config.rollup
      (Lists.groups config.groupKey (aggregatedBy now history)) history.rollup.rollups := by
  unfold rollUp aggregatedBy rollupCompletedMinutes
  by_cases hnil : history.points = []
  · rw [if_pos hnil, hnil]
    rfl
  rw [if_neg hnil]
  by_cases hstop : rollupEnd rollupBatchMinutes now history.points history.rollup.watermark ≤
      rollupStart history.points history.rollup.watermark
  · have hempty : pointsBetween history.points (rollupStart history.points history.rollup.watermark)
        (rollupEnd rollupBatchMinutes now history.points history.rollup.watermark) = [] := by
      refine List.filter_eq_nil_iff.2 fun p _ h => ?_
      have hbetween := of_decide_eq_true h
      omega
    rw [hempty]
    simp only [if_pos hstop]
    rfl
  · simp only [if_neg hstop]

/-- The watermark after a maintenance. -/
theorem rollUp_watermark (hne : history.points ≠ []) : (rollUp config now history).rollup.watermark =
    if rollupEnd rollupBatchMinutes now history.points history.rollup.watermark ≤
      rollupStart history.points history.rollup.watermark then history.rollup.watermark
    else some (rollupEnd rollupBatchMinutes now history.points history.rollup.watermark) := by
  unfold rollUp rollupCompletedMinutes
  simp only [if_neg hne]
  split <;> rfl

theorem applyRetention_rollup : (applyRetention now history).rollup =
    { history.rollup with
      rollups := fun k =>
        if k.minuteStart + rollupRetentionSeconds < now then none else history.rollup.rollups k } := by
  unfold applyRetention
  rfl

/-- Retention leaves the watermark alone. -/
theorem runMaintenance_watermark : (runMaintenance config now history).rollup.watermark =
    (rollUp config now history).rollup.watermark := by
  rw [runMaintenance, applyRetention_rollup]

theorem mem_runMaintenance : p ∈ (runMaintenance config now history).points ↔
    p ∈ history.points ∧ now ≤ p.ts + rawRetentionSeconds := by
  simp [runMaintenance, applyRetention, rollUp]

/-- An inserted point is new, or takes the place of another. -/
theorem mem_insertMetric {p' : PointRow} {rows : List PointRow} (h : p' ∈ insertMetric p rows) :
    p' = p ∨ p' ∈ rows := by
  unfold insertMetric at h
  split at h
  · obtain ⟨old, hold, rfl⟩ := List.mem_map.1 h
    by_cases hkey : old.SameKey p
    · exact .inl (if_pos hkey)
    · rw [if_neg hkey]
      exact .inr hold
  · rcases List.mem_append.1 h with h | h
    · exact .inr h
    · exact .inl (List.mem_singleton.1 h)

/-! ## The ledger -/

/-- The watermark is a full minute that has passed, and what is stored below it was rolled up. -/
structure Ledger.Accounted (now : Nat) (ledger : Ledger) : Prop where
  aligned : 60 ∣ ledger.history.rollup.watermark.getD 0
  passed : ledger.history.rollup.watermark.getD 0 ≤ minuteOf now
  rolledUp : ∀ p ∈ ledger.history.points, minuteOf p.ts < ledger.history.rollup.watermark.getD 0 →
    p ∈ ledger.aggregated

section Ledger

variable {ledger : Ledger} {activities : List Activity}

/-- The watermark after a rollup. -/
theorem Ledger.Accounted.watermark (h : ledger.Accounted now) {later : Nat} (hle : now ≤ later) :
    60 ∣ (rollUp config later ledger.history).rollup.watermark.getD 0 ∧
    (rollUp config later ledger.history).rollup.watermark.getD 0 ≤ minuteOf later := by
  by_cases hnil : ledger.history.points = []
  · have hwatermark : (rollUp config later ledger.history).rollup.watermark = some (minuteOf later) := by
      unfold rollUp rollupCompletedMinutes
      rw [if_pos hnil]
    rw [hwatermark]
    exact ⟨dvd_minuteOf, Nat.le_refl _⟩
  rw [rollUp_watermark hnil]
  split
  · exact ⟨h.aligned, h.passed.trans (minuteOf_mono hle)⟩
  · exact ⟨dvd_rollupEnd h.aligned, rollupEnd_le⟩

/-- After a rollup all stored points below the watermark are rolled up. -/
theorem Ledger.Accounted.below (h : ledger.Accounted now) {later : Nat}
    (hp : p ∈ ledger.history.points)
    (hlt : minuteOf p.ts < (rollUp config later ledger.history).rollup.watermark.getD 0) :
    p ∈ ledger.aggregated ++ aggregatedBy later ledger.history := by
  by_cases hold : minuteOf p.ts < ledger.history.rollup.watermark.getD 0
  · exact List.mem_append_left _ (h.rolledUp p hp hold)
  rw [rollUp_watermark (List.ne_nil_of_mem hp)] at hlt
  by_cases hstop : rollupEnd rollupBatchMinutes later ledger.history.points
      ledger.history.rollup.watermark ≤ rollupStart ledger.history.points ledger.history.rollup.watermark
  · rw [if_pos hstop] at hlt
    exact absurd hlt hold
  rw [if_neg hstop, Option.getD_some] at hlt
  -- it is not below the old watermark, so this rollup reads it
  refine List.mem_append_right _ (mem_pointsBetween.2 ⟨hp, ?_, ?_⟩)
  · rcases rollupStart_or ledger.history.points ledger.history.rollup.watermark with hs | ⟨-, hs⟩
    · rw [hs]
      exact (Nat.not_lt.1 hold).trans minuteOf_le
    · exact hs p hp
  · exact (minuteOf_lt_iff (dvd_rollupEnd h.aligned)).1 hlt

/-- Each activity keeps the account. -/
theorem Ledger.Accounted.perform (h : ledger.Accounted now) {activity : Activity}
    (hle : now ≤ activity.time) : (ledger.perform config activity).Accounted activity.time := by
  have hpassed : ledger.history.rollup.watermark.getD 0 ≤ minuteOf activity.time :=
    h.passed.trans (minuteOf_mono hle)
  cases activity with
  | insert p =>
    refine ⟨h.aligned, hpassed, ?_⟩
    intro p' hp' hlt
    rcases mem_insertMetric hp' with rfl | hmem
    · -- a new point is not below the watermark
      exact absurd hlt (Nat.not_lt.2 hpassed)
    · exact h.rolledUp p' hmem hlt
  | maintain later committed =>
    cases committed with
    | false => exact ⟨h.aligned, hpassed, h.rolledUp⟩
    | true =>
      obtain ⟨haligned, hle'⟩ := h.watermark hle
      refine ⟨?_, ?_, ?_⟩
      · show 60 ∣ (runMaintenance config later ledger.history).rollup.watermark.getD 0
        rw [runMaintenance_watermark]
        exact haligned
      · show (runMaintenance config later ledger.history).rollup.watermark.getD 0 ≤ minuteOf later
        rw [runMaintenance_watermark]
        exact hle'
      · intro p hp hlt
        change p ∈ (runMaintenance config later ledger.history).points at hp
        change minuteOf p.ts < (runMaintenance config later ledger.history).rollup.watermark.getD 0 at hlt
        rw [runMaintenance_watermark] at hlt
        exact h.below (mem_runMaintenance.1 hp).1 hlt

/-- Any course of activities keeps the account. -/
theorem Timely.accounted (h : Timely activities) (hlast : ∀ activity ∈ activities, activity.time ≤ now) :
    (runActivities config activities).Accounted now := by
  induction activities using List.reverseRecOn generalizing now with
  | nil => exact ⟨Nat.dvd_zero 60, Nat.zero_le _, nofun⟩
  | append_singleton activities activity ih =>
    obtain ⟨hinit, -, hbefore⟩ := List.pairwise_append.1 h
    have hstate : (runActivities config activities).Accounted activity.time :=
      ih hinit fun activity' h' => hbefore activity' h' activity (List.mem_singleton_self _)
    have hstep : ((runActivities config activities).perform config activity).Accounted activity.time :=
      hstate.perform (Nat.le_refl _)
    have hle : activity.time ≤ now := hlast activity (List.mem_append_right _ (List.mem_singleton_self _))
    unfold runActivities at hstep ⊢
    rw [List.foldl_append, List.foldl_cons, List.foldl_nil]
    exact ⟨hstep.aligned, hstep.passed.trans (minuteOf_mono hle), hstep.rolledUp⟩

end Ledger

end Monitoring
