import GostManager.Lists.Proofs.StepsProofs
import GostManager.Monitoring.Means
import GostManager.Monitoring.Proofs.SummariesProofs

/-!
# Proofs: averages are means over seconds

The segments of the summaries are the runs of seconds with the same number, one after the other.
-/

namespace Monitoring

open Lists

variable {q : SummaryQuery} {p : MetricPoint} {points : List MetricPoint}

/-- `int(...)` cuts the fraction off. -/
theorem truncate_eq (x : ℚ) : truncate x = if 0 ≤ x then ⌊x⌋ else ⌈x⌉ := by
  unfold truncate
  by_cases hx : 0 ≤ x
  · rw [if_pos hx, Rat.floor_def', Int.tdiv_eq_ediv_of_nonneg (Rat.num_nonneg.2 hx)]
  · have hneg : 0 ≤ -x := by linarith
    have hnum : 0 ≤ -x.num := Rat.num_nonneg.2 hneg
    have hceil : ⌈x⌉ = -⌊-x⌋ := by rw [Int.floor_neg, neg_neg]
    rw [if_neg hx, hceil, Rat.floor_def', Rat.neg_num, Rat.neg_den, ← Int.tdiv_eq_ediv_of_nonneg hnum,
      Int.neg_tdiv, neg_neg]

/-! ## Segments are runs of seconds -/

/-- The numbers of the seconds of some segments. -/
def seconds (segments : List (ℚ × Int)) : List ℚ := segments.flatMap fun v => List.replicate v.2.toNat v.1

/-- The segment of a point. -/
theorem seconds_segmentOf {nextTs : Int} : seconds (segmentOf q p nextTs) =
    p.available.toList.flatMap fun value =>
      List.replicate (min q.stop (min nextTs (q.limit p)) - max q.start p.ts).toNat value := by
  have hlimit : truncate (p.ts + q.maxGap) = q.limit p := truncate_eq _
  unfold segmentOf MetricPoint.available seconds
  cases p.numericValue with
  | none => simp
  | some value =>
    simp only
    by_cases hquality : p.quality = .unavailable
    · simp [hquality]
    rw [if_neg hquality, if_neg hquality, hlimit]
    by_cases hgap : p.ts < q.start ∧ q.maxGap < (q.start - p.ts : Int)
    · -- a point that is too old at the start of the window has passed its limit there
      have hold : q.limit p ≤ q.start := by
        have hlt : (p.ts : ℚ) + q.maxGap < (q.start : Int) := by
          have hcast := hgap.2
          push_cast at hcast
          linarith
        unfold SummaryQuery.limit
        split
        · exact Int.floor_le_iff.2 (by linarith)
        · exact Int.ceil_le.2 hlt.le
      have hzero : (min q.stop (min nextTs (q.limit p)) - max q.start p.ts).toNat = 0 := by omega
      rw [if_pos hgap, hzero]
      simp
    rw [if_neg hgap]
    by_cases hempty : min q.stop (min nextTs (q.limit p)) ≤ max q.start p.ts
    · have hzero : (min q.stop (min nextTs (q.limit p)) - max q.start p.ts).toNat = 0 := by omega
      rw [if_pos hempty, hzero]
      simp
    · rw [if_neg hempty]
      simp

/-- The segments of sorted points. -/
theorem heldValues_eq (hsorted : points.Pairwise fun p p' => p.ts < p'.ts) :
    heldValues q points = seconds (weighted q points) := by
  induction points with
  | nil =>
    refine filterMap_range_none fun t _ _ => ?_
    rfl
  | cons p ps ih =>
    have hnext : q.nextTs ps = nextTime (·.ts) q.stop ps := by cases ps <;> rfl
    have hrest := ih (List.pairwise_cons.1 hsorted).2
    unfold heldValues seconds at hrest ⊢
    rw [weighted_cons, List.flatMap_append, ← hrest, held_cons hsorted, ← hnext]
    exact congrArg (· ++ _) seconds_segmentOf.symm

/-! ## Sums -/

section Sums

variable {segments : List (ℚ × Int)}

theorem length_seconds (h : ∀ v ∈ segments, 0 < v.2) :
    ((seconds segments).length : Int) = (segments.map (·.2)).sum := by
  induction segments with
  | nil => rfl
  | cons v segments ih =>
    have hpos := h v (.head _)
    have hrest := ih fun v hv => h v (.tail _ hv)
    unfold seconds at hrest ⊢
    rw [List.flatMap_cons, List.length_append, List.length_replicate, List.map_cons, List.sum_cons, ← hrest]
    omega

theorem sum_seconds (h : ∀ v ∈ segments, 0 < v.2) :
    (seconds segments).sum = (segments.map fun v => v.1 * (v.2 : ℚ)).sum := by
  induction segments with
  | nil => rfl
  | cons v segments ih =>
    have hrest := ih fun v hv => h v (.tail _ hv)
    have hcast : ((v.2.toNat : Nat) : ℚ) = (v.2 : ℚ) := by
      have hnat : ((v.2.toNat : Nat) : Int) = v.2 := Int.toNat_of_nonneg (h v (.head _)).le
      exact_mod_cast hnat
    unfold seconds at hrest ⊢
    rw [List.flatMap_cons, List.sum_append, List.sum_replicate, nsmul_eq_mul, hcast, List.map_cons,
      List.sum_cons, hrest, mul_comm]

/-- The average of segments is the mean of their seconds. -/
theorem segmentAverage_eq (h : ∀ v ∈ segments, 0 < v.2) :
    segmentAverage segments = average (seconds segments) := by
  have hlength := length_seconds h
  unfold segmentAverage
  rw [← hlength, ← sum_seconds h]
  cases seconds segments with
  | nil => rfl
  | cons value values =>
    rw [if_neg (by rw [List.length_cons]; omega)]
    rfl

end Sums

/-! ## The materialized summary -/

/-- The order in which the materialized summary takes the points. -/
theorem ordered_pairwise (hdistinct : (points.map (·.ts)).Nodup) :
    (points.mergeSort fun p p' => p.ts ≤ p'.ts).Pairwise fun p p' => p.ts < p'.ts := by
  have hsorted : (points.mergeSort fun p p' => p.ts ≤ p'.ts).Pairwise fun p p' =>
      decide (p.ts ≤ p'.ts) = true := by
    refine List.pairwise_mergeSort (fun p p' p'' h h' => ?_) (fun p p' => ?_) points
    · exact decide_eq_true ((of_decide_eq_true h).trans (of_decide_eq_true h'))
    · rcases le_total p.ts p'.ts with hle | hle
      · simp [hle]
      · simp [hle]
  have hnodup : (points.mergeSort fun p p' => p.ts ≤ p'.ts).Pairwise fun p p' => p.ts ≠ p'.ts := by
    have hperm : (points.mergeSort fun p p' => p.ts ≤ p'.ts).Perm points := List.mergeSort_perm _ _
    have hmap := ((hperm.map (·.ts)).nodup_iff).2 hdistinct
    rw [List.nodup_iff_pairwise_ne, List.pairwise_map] at hmap
    exact hmap
  exact hsorted.imp₂ (fun p p' hle hne => lt_of_le_of_ne (of_decide_eq_true hle) hne) hnodup

/-- The segments of points in any order. -/
theorem heldValues_ordered (hdistinct : (points.map (·.ts)).Nodup) :
    heldValues q points = seconds (weighted q (points.mergeSort fun p p' => p.ts ≤ p'.ts)) := by
  have hperm : (points.mergeSort fun p p' => p.ts ≤ p'.ts).Perm points := List.mergeSort_perm _ _
  rw [← heldValues_eq (ordered_pairwise hdistinct)]
  exact (held_perm hperm (((hperm.map _).nodup_iff).2 hdistinct)).symm

/-- What the materialized summary says of the numbers. -/
structure NumbersOf (q : SummaryQuery) (ordered : List MetricPoint) (summary : SeriesSummary) : Prop where
  minimum : summary.minimum = (availableValues (ordered.filter fun p => q.Inside p)).min?
  maximum : summary.maximum = (availableValues (ordered.filter fun p => q.Inside p)).max?
  average : summary.average = segmentAverage (weighted q ordered)
  weightedSeconds : summary.weightedSeconds = (((weighted q ordered).map (·.2)).sum : Int)

/-- The materialized summary takes the unit of one of the points. -/
theorem rawSummary_spec (hne : points ≠ []) (allowP95 : Bool) :
    ∃ last ∈ points, ∃ summary, rawSummary q allowP95 points = some summary ∧ summary.key = q.key ∧
      summary.unit = last.unit ∧
      if (classifyMetric q.key.metricName last.unit).supportsRange then
        NumbersOf q (points.mergeSort fun p p' => p.ts ≤ p'.ts) summary
      else summary.average = none ∧ summary.weightedSeconds = 0 := by
  have hperm : (points.mergeSort fun p p' => p.ts ≤ p'.ts).Perm points := List.mergeSort_perm _ _
  unfold rawSummary
  generalize points.mergeSort (fun p p' => p.ts ≤ p'.ts) = ordered at hperm
  have hordered : ordered ≠ [] := by
    rintro rfl
    exact hne hperm.symm.eq_nil
  have hlast : ∃ last, (if (ordered.filter fun p => q.Inside p) = [] then ordered
      else ordered.filter fun p => q.Inside p).getLast? = some last ∧ last ∈ ordered := by
    split
    · obtain ⟨last, hlast⟩ := Option.isSome_iff_exists.1 (List.getLast?_isSome.2 hordered)
      exact ⟨last, hlast, List.mem_of_getLast? hlast⟩
    · rename_i hin
      obtain ⟨last, hlast⟩ := Option.isSome_iff_exists.1 (List.getLast?_isSome.2 hin)
      exact ⟨last, hlast, List.mem_of_mem_filter (List.mem_of_getLast? hlast)⟩
  obtain ⟨last, hlast, hmem⟩ := hlast
  refine ⟨last, hperm.mem_iff.1 hmem, ?_⟩
  simp only [hlast]
  by_cases hrange : (classifyMetric q.key.metricName last.unit).supportsRange = true
  · rw [if_pos hrange]
    refine ⟨_, rfl, rfl, rfl, ?_⟩
    rw [if_pos hrange]
    exact ⟨rfl, rfl, segmentAverage_of_pos weighted_pos, rfl⟩
  · rw [if_neg hrange]
    refine ⟨_, rfl, rfl, rfl, ?_⟩
    rw [if_neg hrange]
    exact ⟨rfl, rfl⟩

/-- The average of the materialized summary. -/
theorem rawSummary_average (hrange : ∀ p ∈ points, (classifyMetric q.key.metricName p.unit).supportsRange = true)
    (hne : points ≠ []) (allowP95 : Bool) :
    (rawSummary q allowP95 points).map (fun summary => (summary.average, summary.weightedSeconds)) =
      some (segmentAverage (weighted q (points.mergeSort fun p p' => p.ts ≤ p'.ts)),
        ((((weighted q (points.mergeSort fun p p' => p.ts ≤ p'.ts)).map (·.2)).sum : Int) : ℚ)) := by
  obtain ⟨last, hlast, summary, hsummary, -, -, hnumbers⟩ := rawSummary_spec (q := q) hne allowP95
  rw [if_pos (hrange last hlast)] at hnumbers
  rw [hsummary, Option.map_some, hnumbers.average, hnumbers.weightedSeconds]

/-- **The average is the mean over seconds.** For points of a series with a range, at distinct times, the
materialized summary has the mean of the numbers of the seconds of the window, and counts these seconds.
Without a point it fails. -/
theorem rawSummary_eq_mean (q : SummaryQuery) (allowP95 : Bool) {points : List MetricPoint}
    (hrange : ∀ p ∈ points, (classifyMetric q.key.metricName p.unit).supportsRange = true)
    (hdistinct : (points.map (·.ts)).Nodup) :
    (rawSummary q allowP95 points).map (fun summary => (summary.average, summary.weightedSeconds)) =
      if points = [] then none
      else some (average (heldValues q points), ((heldValues q points).length : ℚ)) := by
  obtain rfl | hne := eq_or_ne points []
  · unfold rawSummary
    rw [List.mergeSort_nil]
    rfl
  · have hheld := heldValues_ordered (q := q) hdistinct
    rw [rawSummary_average hrange hne, if_neg hne, segmentAverage_eq weighted_pos, hheld,
      ← length_seconds weighted_pos]
    norm_cast

/-- A number from before the window, and a gap. -/
theorem rawSummary_eq_mean_load :
    let key : SeriesKey := ⟨"host", "local", "load1"⟩
    let q : SummaryQuery := { key, start := 100, stop := 150, cadence := 10, now := 250 }
    let points : List MetricPoint :=
      [⟨key, 110, some 6, none, "count", .exact, 0, 0⟩, ⟨key, 90, some 3, none, "count", .exact, 0, 0⟩]
    (rawSummary q true points).map (fun summary => (summary.average, summary.weightedSeconds)) =
      if points = [] then none
      else some (average (heldValues q points), ((heldValues q points).length : ℚ)) := by
  intro key q points
  exact rawSummary_eq_mean q true (by decide) (by decide)

/-- Before the epoch, the fraction of a second is cut off upwards: a number that is too old half a second
before the epoch holds for a second more than it would if the fraction were cut off downwards. -/
theorem not_rawSummary_eq_floor_mean :
    let key : SeriesKey := ⟨"host", "local", "load1"⟩
    let q : SummaryQuery := { key, start := -3, stop := 0, cadence := 1, now := 0 }
    let points : List MetricPoint := [⟨key, -3, some 4, none, "count", .exact, 0, 0⟩]
    (rawSummary q true points).map (·.weightedSeconds) = some 3 ∧
      (Lists.held (·.ts) (·.available) (fun p => ⌊(p.ts : ℚ) + q.maxGap⌋) points q.start q.stop).length = 2 := by
  intro key q points
  have haverage := congrArg (Option.map Prod.snd)
    (rawSummary_average (show ∀ p ∈ points, (classifyMetric q.key.metricName p.unit).supportsRange = true by
      decide) (by decide) true)
  rw [Option.map_map, Option.map_some, List.mergeSort_singleton] at haverage
  exact ⟨haverage.trans (by decide +kernel), by decide +kernel⟩

end Monitoring
