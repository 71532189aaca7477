import GostManager.Lists.Proofs.AveragesProofs
import GostManager.Monitoring.Proofs.MeansProofs
import GostManager.Monitoring.Proofs.RollupsProofs

/-!
# Proofs: minimum, average and maximum

The average weighs the numbers in the window and the number that is carried in, the extremes are of the
numbers in the window only.
-/

namespace Monitoring

open Lists

variable {q : SummaryQuery} {unit : String} {p : MetricPoint} {points : List MetricPoint} {values : List ℚ}
  {carried : Option ℚ} {summary : SeriesSummary}

/-- Averages are for the metrics that have a range. -/
theorem classifyMetric_of_supportsAverage {metricName unit : String}
    (h : (classifyMetric metricName unit).supportsAverage = true) :
    (classifyMetric metricName unit).supportsRange = true := by
  revert h
  unfold classifyMetric
  repeat' split
  all_goals decide

/-! ## Averages of lists -/

theorem average_eq_mean (values : List ℚ) (hne : values ≠ []) :
    average values = some (((values.map fun v => (v, (1 : ℚ))).map fun v => v.1 * v.2).sum /
      ((values.map fun v => (v, (1 : ℚ))).map (·.2)).sum) := by
  have htotal : ((values.map fun v => (v, (1 : ℚ))).map fun v => v.1 * v.2) = values := by
    rw [List.map_map]
    refine (List.map_congr_left fun v _ => ?_).trans (List.map_id values)
    exact mul_one v
  have hweights : ((values.map fun v => (v, (1 : ℚ))).map (·.2)).sum = values.length := by
    rw [List.map_map]
    show (values.map fun _ => (1 : ℚ)).sum = _
    simp
  rw [htotal, hweights]
  cases values with
  | nil => exact absurd rfl hne
  | cons v vs => rfl

/-- An average is at least one of the values, and at most one. -/
theorem average_between {a : ℚ} (h : average values = some a) :
    (∃ low ∈ values, low ≤ a) ∧ ∃ high ∈ values, a ≤ high := by
  have hne : values ≠ [] := by
    rintro rfl
    cases h
  rw [average_eq_mean values hne, Option.some_inj] at h
  have hweights : ∀ v ∈ values.map fun v => (v, (1 : ℚ)), 0 ≤ v.2 := by
    intro v hv
    obtain ⟨w, -, rfl⟩ := List.mem_map.1 hv
    exact zero_le_one
  have hsum : ((values.map fun v => (v, (1 : ℚ))).map (·.2)).sum ≠ 0 := by
    rw [List.map_map]
    show (values.map fun _ => (1 : ℚ)).sum ≠ 0
    simp [hne]
  obtain ⟨v, hv, -, hle⟩ := exists_le_mean hweights hsum
  obtain ⟨v', hv', -, hge⟩ := exists_mean_le hweights hsum
  obtain ⟨low, hlow, rfl⟩ := List.mem_map.1 hv
  obtain ⟨high, hhigh, rfl⟩ := List.mem_map.1 hv'
  exact ⟨⟨low, hlow, h ▸ hle⟩, ⟨high, hhigh, h ▸ hge⟩⟩

/-! ## What the average weighs -/

theorem mem_availableValues {v : ℚ} {inside : List MetricPoint} :
    v ∈ availableValues inside ↔ ∃ p ∈ inside, p.available = some v := List.mem_filterMap

/-- A number that holds in the window is of a point in the window, or carried in. -/
theorem mem_heldValues (hdistinct : (points.map (·.ts)).Nodup) {v : ℚ} (h : v ∈ heldValues q points) :
    v ∈ availableValues (points.filter fun p => q.Inside p) ∨ v ∈ carriedValue q points := by
  obtain ⟨t, ht, hheld⟩ := List.mem_filterMap.1 h
  obtain ⟨hstart, hstop⟩ := Int.mem_range_iff.1 ht
  obtain ⟨p, hlatest, hvalue⟩ := Option.bind_eq_some_iff.1 hheld
  obtain ⟨hmem, hle, hmax⟩ := mem_of_latestAt hlatest
  by_cases hlimit : t < q.limit p
  · rw [if_pos hlimit] at hvalue
    by_cases hin : q.start ≤ p.ts
    · refine .inl (mem_availableValues.2 ⟨p, List.mem_filter.2 ⟨hmem, decide_eq_true ?_⟩, hvalue⟩)
      exact ⟨hin, lt_of_le_of_lt hle hstop⟩
    · have hcarried : latestAt (·.ts) points q.start = some p := by
        refine (latestAt_eq_some_iff hdistinct).2 ⟨hmem, (not_le.1 hin).le, fun b hb hbs => ?_⟩
        exact hmax b hb (hbs.trans hstart)
      refine .inr ?_
      unfold carriedValue
      rw [hcarried, Option.bind_some, if_pos ⟨not_le.1 hin, lt_of_le_of_lt hstart hlimit⟩]
      exact hvalue
  · rw [if_neg hlimit] at hvalue
    cases hvalue

/-- The mean of the seconds is between. -/
theorem between_of_heldValues (hdistinct : (points.map (·.ts)).Nodup)
    (hminimum : summary.minimum = (availableValues (points.filter fun p => q.Inside p)).min?)
    (hmaximum : summary.maximum = (availableValues (points.filter fun p => q.Inside p)).max?) {a : ℚ}
    (h : average (heldValues q points) = some a) : Between (carriedValue q points) summary a := by
  obtain ⟨⟨low, hlow, hle⟩, ⟨high, hhigh, hge⟩⟩ := average_between h
  refine ⟨?_, ?_⟩
  · rcases mem_heldValues hdistinct hlow with hlow | hlow
    · obtain ⟨m, hm, hmle⟩ := exists_min?_le hlow
      exact ⟨m, .inl (hminimum.trans hm), hmle.trans hle⟩
    · exact ⟨low, .inr hlow, hle⟩
  · rcases mem_heldValues hdistinct hhigh with hhigh | hhigh
    · obtain ⟨m, hm, hmge⟩ := exists_le_max? hhigh
      exact ⟨m, .inl (hmaximum.trans hm), hge.trans hmge⟩
    · exact ⟨high, .inr hhigh, hge⟩

/-! ## Parts -/

/-- What `_combine_hybrid` needs of a part: its average is between, and its seconds count only if it has an
average. -/
structure Pooled (carried : Option ℚ) (summary : SeriesSummary) : Prop where
  between : ∀ a ∈ summary.average, Between carried summary a
  nonneg : 0 ≤ summary.weightedSeconds
  zero : summary.average = none →
    (classifyMetric summary.key.metricName summary.unit).supportsAverage = true → summary.weightedSeconds = 0

/-! ## Points at hand -/

theorem sum_weighted_nonneg : (0 : ℚ) ≤ ((((weighted q points).map (·.2)).sum : Int) : ℚ) := by
  refine Int.cast_nonneg (List.sum_nonneg fun s hs => ?_)
  obtain ⟨v, hv, rfl⟩ := List.mem_map.1 hs
  exact (weighted_pos v hv).le

/-- The extremes of points in the window do not depend on their order. -/
theorem availableValues_mem_congr {ordered : List MetricPoint} (hperm : ordered.Perm points) (v : ℚ) :
    v ∈ availableValues (ordered.filter fun p => q.Inside p) ↔
      v ∈ availableValues (points.filter fun p => q.Inside p) :=
  ((hperm.filter _).filterMap _).mem_iff

theorem segmentAverage_eq_none {segments : List (ℚ × Int)} (h : segmentAverage segments = none) :
    (segments.map (·.2)).sum = 0 := by
  unfold segmentAverage at h
  by_contra hsum
  rw [if_neg hsum] at h
  cases h

/-- The numbers of points at distinct times. -/
theorem NumbersOf.pooled {ordered : List MetricPoint} (h : NumbersOf q ordered summary)
    (hsorted : ordered.Pairwise fun p p' => p.ts < p'.ts) : Pooled (carriedValue q ordered) summary where
  between := by
    intro a ha
    have hdistinct : (ordered.map (·.ts)).Nodup := by
      rw [List.nodup_iff_pairwise_ne, List.pairwise_map]
      exact hsorted.imp fun hlt => hlt.ne
    refine between_of_heldValues hdistinct h.minimum h.maximum ?_
    rw [heldValues_eq hsorted, ← segmentAverage_eq weighted_pos, ← h.average]
    exact ha
  nonneg := by
    rw [h.weightedSeconds]
    exact sum_weighted_nonneg
  zero := by
    intro hnone _
    rw [h.weightedSeconds, segmentAverage_eq_none (h.average.symm.trans hnone)]
    rfl

/-- Nothing is pooled of a series without a range. -/
theorem Pooled.of_none (haverage : summary.average = none) (hseconds : summary.weightedSeconds = 0) :
    Pooled carried summary where
  between := by
    intro a ha
    rw [haverage] at ha
    cases ha
  nonneg := hseconds.ge
  zero := fun _ _ => hseconds

theorem carriedValue_perm {ordered : List MetricPoint} (hperm : ordered.Perm points)
    (hdistinct : (ordered.map (·.ts)).Nodup) : carriedValue q ordered = carriedValue q points := by
  unfold carriedValue
  rw [latestAt_perm hperm hdistinct]

theorem rawSummary_pooled {allowP95 : Bool} (hdistinct : (points.map (·.ts)).Nodup)
    (h : rawSummary q allowP95 points = some summary) : Pooled (carriedValue q points) summary := by
  obtain rfl | hne := eq_or_ne points []
  · unfold rawSummary at h
    rw [List.mergeSort_nil] at h
    cases h
  · obtain ⟨last, -, summary', hsummary, -, -, hnumbers⟩ := rawSummary_spec (q := q) hne allowP95
    obtain rfl : summary' = summary := Option.some_inj.1 (hsummary.symm.trans h)
    have hperm : (points.mergeSort fun p p' => p.ts ≤ p'.ts).Perm points := List.mergeSort_perm _ _
    split at hnumbers
    · have hpooled := hnumbers.pooled (ordered_pairwise hdistinct)
      rw [carriedValue_perm hperm (((hperm.map _).nodup_iff).2 hdistinct)] at hpooled
      exact hpooled
    · exact Pooled.of_none hnumbers.1 hnumbers.2

/-! ## Points as they come -/

/-- The streaming summary after some points of a series, with the segments that are known. -/
structure Measured (q : SummaryQuery) (unit : String) (points : List MetricPoint)
    (segments : List (ℚ × Int)) (acc : StreamingRawSummary) : Prop where
  summary : if points = [] then acc.summary = none else
    ∃ summary, acc.summary = some summary ∧ summary.key = q.key ∧ summary.unit = unit ∧
      summary.average = none ∧ summary.weightedSeconds = ((segments.map (·.2)).sum : Int) ∧
      ((classifyMetric q.key.metricName unit).supportsRange = true →
        summary.minimum = (availableValues (points.filter fun p => q.Inside p)).min? ∧
        summary.maximum = (availableValues (points.filter fun p => q.Inside p)).max?)
  previous : acc.previous = points.getLast?
  weightedTotal : acc.weightedTotal = (segments.map fun v => v.1 * (v.2 : ℚ)).sum

section Streaming

variable {segments : List (ℚ × Int)} {acc : StreamingRawSummary}

/-- A next point, or the end, closes the last segment. -/
theorem Measured.closePrevious (h : Measured q unit points segments acc) (nextTs : Int) :
    ∃ acc', acc.closePrevious q nextTs = some acc' ∧
      Measured q unit points (segments ++ lastSegment q points nextTs) acc' := by
  unfold StreamingRawSummary.closePrevious lastSegment
  obtain rfl | hne := eq_or_ne points []
  · rw [h.previous]
    exact ⟨acc, rfl, by simpa using h⟩
  · obtain ⟨last, hlast⟩ := Option.isSome_iff_exists.1 (List.getLast?_isSome.2 hne)
    have hsummary := h.summary
    rw [if_neg hne] at hsummary
    obtain ⟨summary, hsome, hkey, hunit, haverage, hseconds, hrange⟩ := hsummary
    rw [h.previous, hlast, Option.elim_some]
    refine ⟨_, segment_eq hsome, ⟨?_, ?_, ?_⟩⟩
    · rw [if_neg hne]
      refine ⟨_, rfl, hkey, hunit, haverage, ?_, hrange⟩
      rw [List.map_append, List.sum_append, Int.cast_add, ← hseconds]
    · exact h.previous.trans rfl
    · rw [List.map_append, List.sum_append, ← h.weightedTotal]

/-- One more point. -/
theorem Measured.add (h : Measured q unit points (closed q points) acc) (hkey : p.key = q.key)
    (hunit : p.unit = unit) :
    ∃ acc', acc.add q p = some acc' ∧ Measured q unit (points ++ [p]) (closed q (points ++ [p])) acc' := by
  obtain ⟨acc', hclose, h'⟩ := h.closePrevious p.ts
  rw [← closed_concat] at h'
  have hne : points ++ [p] ≠ [] := by simp
  -- the summary that the point finds
  obtain ⟨summary, hsummary, hkey', hunit', haverage, hseconds, hrange⟩ :
      ∃ summary, acc'.summary.getD (StreamingRawSummary.initial q p) = summary ∧ summary.key = q.key ∧
        summary.unit = unit ∧ summary.average = none ∧
        summary.weightedSeconds = (((closed q (points ++ [p])).map (·.2)).sum : Int) ∧
        ((classifyMetric q.key.metricName unit).supportsRange = true →
          summary.minimum = (availableValues (points.filter fun p => q.Inside p)).min? ∧
          summary.maximum = (availableValues (points.filter fun p => q.Inside p)).max?) := by
    have hknown := h'.summary
    obtain rfl | hpoints := eq_or_ne points []
    · rw [if_pos rfl] at hknown
      rw [hknown, Option.getD_none]
      exact ⟨_, rfl, rfl, hunit, rfl, rfl, fun _ => ⟨rfl, rfl⟩⟩
    · rw [if_neg hpoints] at hknown
      obtain ⟨summary, hsome, hrest⟩ := hknown
      exact ⟨summary, by rw [hsome, Option.getD_some], hrest⟩
  unfold StreamingRawSummary.add
  rw [hclose, Option.bind_eq_bind, Option.bind_some]
  simp only [hsummary]
  by_cases hin : q.Inside p
  · have hinside : (points ++ [p]).filter (fun p => q.Inside p) =
        points.filter (fun p => q.Inside p) ++ [p] := by
      simp [hin]
    rw [if_pos hin]
    refine ⟨_, rfl, ⟨?_, ?_, ?_⟩⟩
    · rw [if_neg hne]
      refine ⟨_, rfl, hkey', hunit', haverage, hseconds, fun hsupports => ?_⟩
      obtain ⟨hminimum, hmaximum⟩ := hrange hsupports
      rw [hinside, availableValues_concat, minimum_concat, maximum_concat, ← observed_value, ← hminimum,
        ← hmaximum]
      unfold StreamingRawSummary.observe
      simp only [hkey, hunit, hsupports, true_and]
    · rw [List.getLast?_concat]
    · exact h'.weightedTotal
  · have hinside : (points ++ [p]).filter (fun p => q.Inside p) = points.filter fun p => q.Inside p := by
      simp [hin]
    rw [if_neg hin]
    refine ⟨_, rfl, ⟨?_, ?_, ?_⟩⟩
    · rw [if_neg hne]
      refine ⟨summary, rfl, hkey', hunit', haverage, hseconds, ?_⟩
      rw [hinside]
      exact hrange
    · rw [List.getLast?_concat]
    · exact h'.weightedTotal

/-- The points of a series, one by one. -/
theorem foldlM_measured (h : ∀ p ∈ points, p.key = q.key ∧ p.unit = unit) :
    ∃ acc, points.foldlM (StreamingRawSummary.add q) .empty = some acc ∧
      Measured q unit points (closed q points) acc := by
  induction points using List.reverseRecOn with
  | nil => exact ⟨.empty, rfl, ⟨rfl, rfl, rfl⟩⟩
  | append_singleton points p ih =>
    obtain ⟨acc, hfold, hacc⟩ := ih fun p' h' => h p' (List.mem_append_left _ h')
    obtain ⟨hkey, hunit⟩ := h p (List.mem_append_right _ (.head _))
    obtain ⟨acc', hadd, hacc'⟩ := hacc.add hkey hunit
    refine ⟨acc', ?_, hacc'⟩
    rw [List.foldlM_append, hfold, Option.bind_eq_bind, Option.bind_some, List.foldlM_cons, hadd]
    rfl

theorem streamingSummary_pooled (hsorted : points.Pairwise fun p p' => p.ts < p'.ts)
    (hseries : ∀ p ∈ points, p.key = q.key ∧ p.unit = unit)
    (h : streamingSummary q points = some summary) : Pooled (carriedValue q points) summary := by
  obtain ⟨acc, hfold, hacc⟩ := foldlM_measured hseries
  obtain ⟨acc', hclose, hacc'⟩ := hacc.closePrevious q.stop
  rw [← weighted_eq] at hacc'
  unfold streamingSummary at h
  rw [hfold, Option.bind_eq_bind, Option.bind_some] at h
  unfold StreamingRawSummary.finish at h
  obtain rfl | hne := eq_or_ne points []
  · have hnone := hacc.summary
    rw [if_pos rfl] at hnone
    rw [hnone] at h
    cases h
  · have hbefore := hacc.summary
    have hafter := hacc'.summary
    rw [if_neg hne] at hbefore hafter
    obtain ⟨before, hbefore, -⟩ := hbefore
    obtain ⟨last, hsome, hkey, hunit, haverage, hseconds, hrange⟩ := hafter
    rw [hbefore, hclose] at h
    simp only [Option.isSome_some, guard, Option.bind_eq_bind] at h
    replace h : (acc'.summary.bind _) = some summary := h
    rw [hsome, Option.bind_some, Option.some_inj, hkey, hunit, hacc'.weightedTotal, haverage, hseconds] at h
    subst h
    by_cases hsupports : (classifyMetric q.key.metricName unit).supportsAverage = true
    · -- an average is that of the segments
      obtain ⟨hminimum, hmaximum⟩ := hrange (classifyMetric_of_supportsAverage hsupports)
      refine NumbersOf.pooled ⟨hminimum, hmaximum, ?_, rfl⟩ hsorted
      simp only [hsupports, true_and]
      exact (segmentAverage_of_ne _).symm
    · refine ⟨?_, ?_, ?_⟩
      · intro a ha
        simp [hsupports] at ha
      · exact sum_weighted_nonneg
      · intro _ hsupports'
        exact absurd hsupports' hsupports

end Streaming

/-! ## Rollups -/

theorem RawSummarized.pooled (h : RawSummarized carried summary) : Pooled carried summary := by
  cases h with
  | materialized hdistinct hsummary => exact rawSummary_pooled hdistinct hsummary
  | streaming hsorted hseries hsummary => exact streamingSummary_pooled hsorted hseries hsummary

/-- Parts that are put together: their averages are between, and their seconds count only if they have an
average. -/
structure Parts (carried : Option ℚ) (parts : List SeriesSummary) : Prop where
  between : ∀ part ∈ parts, ∀ a ∈ part.average, Between carried part a
  nonneg : ∀ part ∈ parts, 0 ≤ part.weightedSeconds
  zero : ∀ part ∈ parts, part.average = none → part.weightedSeconds = 0

/-- What the parts weigh: their averages, for their seconds. -/
def weightedParts (parts : List SeriesSummary) : List (ℚ × ℚ) :=
  parts.filterMap fun item => item.average.map fun a => (a, item.weightedSeconds)

theorem sum_weightedParts (parts : List SeriesSummary) :
    ((weightedParts parts).map fun v => v.1 * v.2) =
      parts.filterMap fun item => item.average.map (· * item.weightedSeconds) := by
  unfold weightedParts
  rw [List.map_filterMap]
  refine List.filterMap_congr fun item _ => ?_
  rw [Option.map_map]
  rfl

theorem Parts.sum_weights {parts : List SeriesSummary} (h : Parts carried parts) :
    ((weightedParts parts).map (·.2)).sum = (parts.map (·.weightedSeconds)).sum := by
  have hzero := h.zero
  clear h
  unfold weightedParts
  induction parts with
  | nil => rfl
  | cons part parts ih =>
    have hrest := ih fun part' h' => hzero part' (.tail _ h')
    cases haverage : part.average with
    | none =>
      rw [List.filterMap_cons_none (by rw [haverage]; rfl), hrest, List.map_cons, List.sum_cons,
        hzero part (.head _) haverage, zero_add]
    | some a =>
      rw [List.filterMap_cons_some (by rw [haverage]; rfl), List.map_cons, List.sum_cons, hrest,
        List.map_cons, List.sum_cons]

/-- The average of the parts is between the extremes of the parts. -/
theorem Parts.average_between {parts : List SeriesSummary} (h : Parts carried parts)
    (hsum : (parts.map (·.weightedSeconds)).sum ≠ 0)
    (hminimum : summary.minimum = (parts.filterMap (·.minimum)).min?)
    (hmaximum : summary.maximum = (parts.filterMap (·.maximum)).max?) :
    Between carried summary
      ((parts.filterMap fun item => item.average.map (· * item.weightedSeconds)).sum /
        (parts.map (·.weightedSeconds)).sum) := by
  have hmem : ∀ v ∈ weightedParts parts, ∃ part ∈ parts, part.average = some v.1 ∧
      part.weightedSeconds = v.2 := by
    intro v hv
    obtain ⟨part, hpart, hv⟩ := List.mem_filterMap.1 hv
    obtain ⟨a, ha, rfl⟩ := Option.map_eq_some_iff.1 hv
    exact ⟨part, hpart, ha, rfl⟩
  have hpos : ∀ v ∈ weightedParts parts, 0 ≤ v.2 := by
    intro v hv
    obtain ⟨part, hpart, -, hseconds⟩ := hmem v hv
    exact hseconds ▸ h.nonneg part hpart
  rw [← h.sum_weights] at hsum ⊢
  rw [← sum_weightedParts]
  obtain ⟨v, hv, -, hle⟩ := exists_le_mean hpos hsum
  obtain ⟨v', hv', -, hge⟩ := exists_mean_le hpos hsum
  obtain ⟨part, hpart, ha, -⟩ := hmem v hv
  obtain ⟨part', hpart', ha', -⟩ := hmem v' hv'
  obtain ⟨low, hlow, hlowle⟩ := (h.between part hpart v.1 ha).1
  obtain ⟨high, hhigh, hhighle⟩ := (h.between part' hpart' v'.1 ha').2
  refine ⟨?_, ?_⟩
  · rcases hlow with hlow | hlow
    · obtain ⟨m, hm, hmle⟩ := exists_min?_le (l := parts.filterMap (·.minimum))
        (List.mem_filterMap.2 ⟨part, hpart, hlow⟩)
      exact ⟨m, .inl (hminimum.trans hm), hmle.trans (hlowle.trans hle)⟩
    · exact ⟨low, .inr hlow, hlowle.trans hle⟩
  · rcases hhigh with hhigh | hhigh
    · obtain ⟨m, hm, hmge⟩ := exists_le_max? (l := parts.filterMap (·.maximum))
        (List.mem_filterMap.2 ⟨part', hpart', hhigh⟩)
      exact ⟨m, .inl (hmaximum.trans hm), hge.trans (hhighle.trans hmge)⟩
    · exact ⟨high, .inr hhigh, hge.trans hhighle⟩

section Carried

end Carried

end Monitoring
