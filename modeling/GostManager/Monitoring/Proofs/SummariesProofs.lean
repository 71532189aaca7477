import Mathlib.Algebra.Order.BigOperators.Group.List
import Mathlib.Data.List.Induction
import Mathlib.Tactic.Push
import GostManager.Lists.Proofs.ExtremesProofs
import GostManager.Monitoring.Proofs.PointsProofs
import GostManager.Monitoring.Summaries

/-!
# Proofs: summaries of points as they come

What the streaming summary knows after some points is the summary of these points, less the segment of the
last point, which is still open.
-/

namespace Monitoring

open Lists

/-- Averages are for the metrics that have a range, and these have no transitions. -/
theorem classifyMetric_of_supportsRange {metricName unit : String}
    (h : (classifyMetric metricName unit).supportsRange = true) :
    (classifyMetric metricName unit).supportsAverage = true ∧
    (classifyMetric metricName unit).supportsTransitions = false := by
  revert h
  unfold classifyMetric
  repeat' split
  all_goals decide

variable {q : SummaryQuery} {unit : String} {p : MetricPoint} {points inside : List MetricPoint}

/-! ## Segments -/

/-- The segment of a point, if it has one. -/
def segmentOf (q : SummaryQuery) (p : MetricPoint) (nextTs : Int) : List (ℚ × Int) :=
  match p.numericValue with
  | none => []
  | some value =>
    if p.quality = .unavailable then []
    else if p.ts < q.start ∧ q.maxGap < (q.start - p.ts : Int) then []
    else if min q.stop (min nextTs (truncate (p.ts + q.maxGap))) ≤ max q.start p.ts then []
    else [(value, min q.stop (min nextTs (truncate (p.ts + q.maxGap))) - max q.start p.ts)]

/-- The segments that are closed by a next point. -/
def closed (q : SummaryQuery) : List MetricPoint → List (ℚ × Int)
  | p :: p' :: ps => segmentOf q p p'.ts ++ closed q (p' :: ps)
  | _ => []

theorem segmentOf_pos {nextTs : Int} : ∀ v ∈ segmentOf q p nextTs, 0 < v.2 := by
  unfold segmentOf
  intro v hv
  repeat' split at hv
  · cases hv
  · cases hv
  · cases hv
  · cases hv
  · rw [List.mem_singleton.1 hv]
    show 0 < _ - _
    omega

theorem weighted_cons :
    weighted q (p :: points) = segmentOf q p (q.nextTs points) ++ weighted q points := by
  rw [weighted]
  unfold segmentOf
  cases p.numericValue with
  | none => rfl
  | some value =>
    simp only
    by_cases hquality : p.quality = .unavailable
    · rw [if_pos hquality, if_pos hquality]
      rfl
    rw [if_neg hquality, if_neg hquality]
    by_cases hgap : p.ts < q.start ∧ q.maxGap < (q.start - p.ts : Int)
    · rw [if_pos hgap, if_pos hgap]
      rfl
    rw [if_neg hgap, if_neg hgap]
    by_cases hempty : min q.stop (min (q.nextTs points) (truncate (p.ts + q.maxGap))) ≤ max q.start p.ts
    · rw [if_pos hempty, if_neg (not_lt.2 hempty)]
      rfl
    · rw [if_neg hempty, if_pos (not_le.1 hempty)]
      rfl

/-- One more point closes the last segment. -/
theorem closed_append_pair {p' : MetricPoint} :
    closed q (points ++ [p, p']) = closed q (points ++ [p]) ++ segmentOf q p p'.ts := by
  induction points with
  | nil => simp [closed]
  | cons p₀ ps ih =>
    cases ps with
    | nil => simp [closed]
    | cons p₁ ps =>
      simp only [List.cons_append, closed] at ih ⊢
      rw [ih, List.append_assoc]

/-- The end of the window closes the last segment, too. -/
theorem weighted_concat :
    weighted q (points ++ [p]) = closed q (points ++ [p]) ++ segmentOf q p q.stop := by
  induction points with
  | nil => simp [weighted_cons, closed, weighted, SummaryQuery.nextTs]
  | cons p₀ ps ih =>
    cases ps with
    | nil =>
      rw [List.cons_append, weighted_cons, ih]
      simp [closed, SummaryQuery.nextTs]
    | cons p₁ ps =>
      rw [List.cons_append, weighted_cons, ih]
      simp [closed, SummaryQuery.nextTs]

/-- What the next point, or the end, closes. -/
def lastSegment (q : SummaryQuery) (points : List MetricPoint) (nextTs : Int) : List (ℚ × Int) :=
  points.getLast?.elim [] fun last => segmentOf q last nextTs

theorem closed_concat : closed q (points ++ [p]) = closed q points ++ lastSegment q points p.ts := by
  obtain rfl | ⟨ps, last, rfl⟩ := points.eq_nil_or_concat'
  · rfl
  · unfold lastSegment
    rw [List.append_assoc, List.singleton_append, closed_append_pair, List.getLast?_concat, Option.elim_some]

theorem weighted_eq : weighted q points = closed q points ++ lastSegment q points q.stop := by
  obtain rfl | ⟨ps, last, rfl⟩ := points.eq_nil_or_concat'
  · rfl
  · unfold lastSegment
    rw [weighted_concat, List.getLast?_concat, Option.elim_some]

/-! ## Streaming -/

/-- The points are of the series of a query: numbers with one unit that has a range. -/
structure RangeSeries (q : SummaryQuery) (unit : String) (points : List MetricPoint) : Prop where
  keys : ∀ p ∈ points, p.key = q.key
  units : ∀ p ∈ points, p.unit = unit
  noText : ∀ p ∈ points, p.textValue = none
  range : (classifyMetric q.key.metricName unit).supportsRange = true

/-- The summary of the points in the window, with the segments that are known. -/
def openSummary (q : SummaryQuery) (unit : String) (inside : List MetricPoint)
    (segments : List (ℚ × Int)) : SeriesSummary :=
  { countedSummary q inside unit with
    minimum := (availableValues inside).min?
    maximum := (availableValues inside).max?
    weightedSeconds := ((segments.map (·.2)).sum : Int) }

/-- The streaming summary after some points. -/
def streamed (q : SummaryQuery) (unit : String) (points : List MetricPoint)
    (segments : List (ℚ × Int)) : StreamingRawSummary where
  summary :=
    if points = [] then none else some (openSummary q unit (points.filter fun p => q.Inside p) segments)
  previous := points.getLast?
  previousTransition := none
  weightedTotal := (segments.map fun v => v.1 * (v.2 : ℚ)).sum

section Streaming

variable {segments : List (ℚ × Int)} {nextTs : Int}

/-- The segment of a point is added to the seconds and to the total. -/
theorem segment_eq {acc : StreamingRawSummary} {summary : SeriesSummary} (h : acc.summary = some summary) :
    acc.segment q p nextTs = some { acc with
      summary := some { summary with
        weightedSeconds :=
          summary.weightedSeconds + (((segmentOf q p nextTs).map (·.2)).sum : Int) }
      weightedTotal :=
        acc.weightedTotal + ((segmentOf q p nextTs).map fun v => v.1 * (v.2 : ℚ)).sum } := by
  have hsame : some acc = some { acc with
      summary := some { summary with
        weightedSeconds := summary.weightedSeconds + ((([] : List (ℚ × Int)).map (·.2)).sum : Int) }
      weightedTotal := acc.weightedTotal + (([] : List (ℚ × Int)).map fun v => v.1 * (v.2 : ℚ)).sum } := by
    simp only [List.map_nil, List.sum_nil, Int.cast_zero, add_zero]
    rw [← h]
  unfold StreamingRawSummary.segment segmentOf
  cases p.numericValue with
  | none => exact hsame
  | some value =>
    simp only
    by_cases hquality : p.quality = .unavailable
    · rw [if_pos hquality, if_pos hquality]
      exact hsame
    rw [if_neg hquality, if_neg hquality]
    by_cases hgap : p.ts < q.start ∧ q.maxGap < (q.start - p.ts : Int)
    · rw [if_pos hgap, if_pos hgap]
      exact hsame
    rw [if_neg hgap, if_neg hgap]
    by_cases hempty : min q.stop (min nextTs (truncate (p.ts + q.maxGap))) ≤ max q.start p.ts
    · rw [if_pos hempty, if_pos hempty]
      exact hsame
    · rw [if_neg hempty, if_neg hempty, h]
      simp

theorem segment_streamed (hne : points ≠ []) :
    (streamed q unit points segments).segment q p nextTs =
      some (streamed q unit points (segments ++ segmentOf q p nextTs)) := by
  have hsummary : (streamed q unit points segments).summary =
      some (openSummary q unit (points.filter fun p => q.Inside p) segments) := if_neg hne
  rw [segment_eq hsummary]
  unfold streamed openSummary
  simp [if_neg hne]

/-- Before the first point there is nothing in the window. -/
theorem initial_eq (h : RangeSeries q unit [p]) :
    StreamingRawSummary.initial q p = openSummary q unit [] [] := by
  have hkey : p.key = q.key := h.keys p (.head _)
  have hunit : p.unit = unit := h.units p (.head _)
  have htext : p.textValue = none := h.noText p (.head _)
  have htransitions := (classifyMetric_of_supportsRange h.range).2
  unfold StreamingRawSummary.initial openSummary countedSummary
  simp [hkey, hunit, htext, htransitions, worstQuality, availableValues]

theorem availableValues_concat : availableValues (inside ++ [p]) =
    availableValues inside ++ (if p.quality = .unavailable then none else p.numericValue).toList := by
  unfold availableValues
  rw [List.filterMap_append]
  cases h : (if p.quality = .unavailable then none else p.numericValue) <;> simp [h]

/-- The number that `add` looks at. -/
theorem observed_value : (if ¬ p.Unavailable then p.numericValue else none) =
    if p.quality = .unavailable then none else p.numericValue := by
  unfold MetricPoint.Unavailable
  by_cases hquality : p.quality = .unavailable
  · simp [hquality]
  · by_cases hvalue : p.numericValue = none
    · simp [hvalue]
    · simp [hquality, hvalue]

theorem worstQuality_concat {qualities : List Quality} {quality : Quality} :
    worstQuality (qualities ++ [quality]) =
      if qualities.length = 0 then quality else worstQuality [worstQuality qualities, quality] := by
  cases qualities with
  | nil => rfl
  | cons first rest => exact worstQuality_append (List.cons_ne_nil first rest)

theorem minimum_concat (value : Option ℚ) {values : List ℚ} : (values ++ value.toList).min? =
    value.elim values.min? fun v => some (values.min?.elim v (min · v)) := by
  cases value with
  | none => simp
  | some v => exact min?_concat v

theorem maximum_concat (value : Option ℚ) {values : List ℚ} : (values ++ value.toList).max? =
    value.elim values.max? fun v => some (values.max?.elim v (max · v)) := by
  cases value with
  | none => simp
  | some v => exact max?_concat v

/-- A point in the window. -/
theorem observe_openSummary (h : RangeSeries q unit [p]) :
    StreamingRawSummary.observe q p (openSummary q unit inside segments) =
      openSummary q unit (inside ++ [p]) segments := by
  have hkey : p.key = q.key := h.keys p (.head _)
  have hunit : p.unit = unit := h.units p (.head _)
  have htext : p.textValue = none := h.noText p (.head _)
  have htransitions := (classifyMetric_of_supportsRange h.range).2
  have hvalue := observed_value (p := p)
  have hfirst : (inside.head?.map (·.ts)).or (some p.ts) = (inside ++ [p]).head?.map (·.ts) := by
    cases inside <;> rfl
  have hnumeric : ((inside ++ [p]).any fun p => p.textValue.isSome) =
      inside.any fun p => p.textValue.isSome := by
    simp [htext]
  unfold StreamingRawSummary.observe openSummary countedSummary
  rw [availableValues_concat, minimum_concat, maximum_concat, ← hvalue, hfirst, hnumeric]
  simp only [hkey, hunit, h.range, htransitions, true_and, List.map_append, List.map_cons, List.map_nil,
    List.sum_append, List.length_append, List.countP_append, worstQuality_concat, List.getLast?_concat,
    List.length_map]
  simp [List.countP_singleton]

theorem closePrevious_streamed : (streamed q unit points segments).closePrevious q nextTs =
    some (streamed q unit points (segments ++ lastSegment q points nextTs)) := by
  unfold StreamingRawSummary.closePrevious lastSegment
  have hprevious : (streamed q unit points segments).previous = points.getLast? := rfl
  rw [hprevious]
  cases hlast : points.getLast? with
  | none => simp
  | some last =>
    have hne : points ≠ [] := by
      rintro rfl
      cases hlast
    exact segment_streamed hne

/-- One more point. -/
theorem add_streamed (h : RangeSeries q unit [p]) :
    (streamed q unit points (closed q points)).add q p =
      some (streamed q unit (points ++ [p]) (closed q (points ++ [p]))) := by
  have hkey : p.key = q.key := h.keys p (.head _)
  have hunit : p.unit = unit := h.units p (.head _)
  have htransitions := (classifyMetric_of_supportsRange h.range).2
  -- at the first point there is an empty summary, and no segment to close
  have hsummary : (streamed q unit points (closed q (points ++ [p]))).summary.getD
      (StreamingRawSummary.initial q p) =
      openSummary q unit (points.filter fun p => q.Inside p) (closed q (points ++ [p])) := by
    obtain rfl | hne := eq_or_ne points []
    · exact initial_eq h
    · unfold streamed
      rw [if_neg hne, Option.getD_some]
  unfold StreamingRawSummary.add
  rw [closePrevious_streamed, ← closed_concat, Option.bind_eq_bind, Option.bind_some]
  simp only [hsummary]
  have hne : points ++ [p] ≠ [] := by simp
  by_cases hin : q.Inside p
  · have htransition : StreamingRawSummary.transition p
        (streamed q unit points (closed q (points ++ [p])))
        (openSummary q unit (points.filter fun p => q.Inside p) (closed q (points ++ [p]))) =
        (none, none) := by
      unfold StreamingRawSummary.transition
      rw [hkey, hunit, if_neg (by rw [htransitions]; decide)]
      unfold openSummary countedSummary streamed
      simp only
      rw [if_neg (by rw [htransitions]; decide)]
    have hinside : (points ++ [p]).filter (fun p => q.Inside p) =
        points.filter (fun p => q.Inside p) ++ [p] := by
      simp [hin]
    have hnone : (openSummary q unit (points.filter (fun p => q.Inside p) ++ [p])
        (closed q (points ++ [p]))).transitionCount = none := by
      unfold openSummary countedSummary
      simp only
      rw [if_neg (by rw [htransitions]; decide)]
    rw [if_pos hin, htransition, observe_openSummary h]
    simp only [streamed, if_neg hne, hinside, List.getLast?_concat]
    rw [← hnone]
  · have hinside : (points ++ [p]).filter (fun p => q.Inside p) = points.filter fun p => q.Inside p := by
      simp [hin]
    rw [if_neg hin]
    simp only [streamed, if_neg hne, hinside, List.getLast?_concat]

/-- The points of a series, one by one. -/
theorem foldlM_streamed (h : RangeSeries q unit points) :
    points.foldlM (StreamingRawSummary.add q) .empty = some (streamed q unit points (closed q points)) := by
  induction points using List.reverseRecOn with
  | nil => rfl
  | append_singleton points p ih =>
    have hpoints : RangeSeries q unit points :=
      ⟨fun p' h' => h.keys p' (List.mem_append_left _ h'), fun p' h' => h.units p' (List.mem_append_left _ h'),
        fun p' h' => h.noText p' (List.mem_append_left _ h'), h.range⟩
    have hp : RangeSeries q unit [p] :=
      ⟨fun p' h' => h.keys p' (List.mem_append_right _ h'),
        fun p' h' => h.units p' (List.mem_append_right _ h'),
        fun p' h' => h.noText p' (List.mem_append_right _ h'), h.range⟩
    rw [List.foldlM_append, ih hpoints, Option.bind_eq_bind, Option.bind_some, List.foldlM_cons,
      add_streamed hp]
    rfl

end Streaming

/-! ## Averages -/

theorem weighted_pos : ∀ v ∈ weighted q points, 0 < v.2 := by
  induction points with
  | nil => nofun
  | cons p ps ih =>
    rw [weighted_cons]
    intro v hv
    rcases List.mem_append.1 hv with hv | hv
    · exact segmentOf_pos v hv
    · exact ih v hv

/-- The average of some segments. -/
def segmentAverage (segments : List (ℚ × Int)) : Option ℚ :=
  if (segments.map (·.2)).sum = 0 then none
  else some ((segments.map fun v => v.1 * (v.2 : ℚ)).sum / ((segments.map (·.2)).sum : Int))

/-- The streaming summary divides if there are seconds, -/
theorem segmentAverage_of_ne (segments : List (ℚ × Int)) : segmentAverage segments =
    if (((segments.map (·.2)).sum : Int) : ℚ) ≠ 0 then
      some ((segments.map fun v => v.1 * (v.2 : ℚ)).sum / ((segments.map (·.2)).sum : Int))
    else none := by
  unfold segmentAverage
  by_cases hsum : (segments.map (·.2)).sum = 0
  · rw [if_pos hsum, if_neg (by rw [hsum]; simp)]
  · rw [if_neg hsum, if_pos (Int.cast_ne_zero.2 hsum)]

/-- and the materialized summary if there are positive seconds. -/
theorem segmentAverage_of_pos {segments : List (ℚ × Int)} (h : ∀ v ∈ segments, 0 < v.2) :
    (if 0 < (((segments.map (·.2)).sum : Int) : ℚ) then
      some ((segments.map fun v => v.1 * (v.2 : ℚ)).sum / ((segments.map (·.2)).sum : Int))
    else none) = segmentAverage segments := by
  have hnonneg : 0 ≤ (segments.map (·.2)).sum := by
    refine List.sum_nonneg fun s hs => ?_
    obtain ⟨v, hv, rfl⟩ := List.mem_map.1 hs
    exact (h v hv).le
  unfold segmentAverage
  by_cases hsum : (segments.map (·.2)).sum = 0
  · rw [if_pos hsum, if_neg (by rw [hsum]; simp)]
  · rw [if_neg hsum, if_pos (Int.cast_pos.2 (lt_of_le_of_ne hnonneg (Ne.symm hsum)))]

/-- The streaming summary is that of all segments. -/
theorem streamingSummary_eq (h : RangeSeries q unit points) (hne : points ≠ []) :
    streamingSummary q points =
      some { openSummary q unit (points.filter fun p => q.Inside p) (weighted q points) with
        average := segmentAverage (weighted q points) } := by
  have hsome : (streamed q unit points (closed q points)).summary.isSome := by
    unfold streamed
    rw [if_neg hne]
    rfl
  unfold streamingSummary
  rw [foldlM_streamed h, Option.bind_eq_bind, Option.bind_some]
  unfold StreamingRawSummary.finish
  rw [closePrevious_streamed, ← weighted_eq, hsome]
  have haverage := (classifyMetric_of_supportsRange h.range).1
  simp only [guard, streamed, if_neg hne]
  show some _ = some _
  simp only [openSummary, countedSummary, haverage, true_and, ← segmentAverage_of_ne]

/-- The unit of the materialized summary. -/
theorem lastUnit (hunits : ∀ p ∈ points, p.unit = unit) (hne : points ≠ []) :
    ∃ last, (if (points.filter fun p => q.Inside p) = [] then points
      else points.filter fun p => q.Inside p).getLast? = some last ∧ last.unit = unit := by
  split
  · obtain ⟨last, hlast⟩ := Option.isSome_iff_exists.1 (List.getLast?_isSome.2 hne)
    exact ⟨last, hlast, hunits last (List.mem_of_getLast? hlast)⟩
  · rename_i hin
    obtain ⟨last, hlast⟩ := Option.isSome_iff_exists.1 (List.getLast?_isSome.2 hin)
    exact ⟨last, hlast, hunits last (List.mem_of_mem_filter (List.mem_of_getLast? hlast))⟩

/-- The materialized summary is that of all segments, with a percentile. -/
theorem rawSummary_eq (h : RangeSeries q unit points) (hne : points ≠ [])
    (hsorted : points.Pairwise fun p p' => p.ts < p'.ts) (allowP95 : Bool) :
    ∃ p95, rawSummary q allowP95 points =
      some { openSummary q unit (points.filter fun p => q.Inside p) (weighted q points) with
        average := segmentAverage (weighted q points)
        p95 := p95 } := by
  have hordered : points.mergeSort (fun p p' => p.ts ≤ p'.ts) = points :=
    List.mergeSort_of_pairwise (hsorted.imp fun hlt => decide_eq_true hlt.le)
  unfold rawSummary
  simp only [hordered]
  obtain ⟨last, hlast, rfl⟩ := lastUnit (q := q) h.units hne
  rw [hlast]
  simp only [if_pos h.range, segmentAverage_of_pos weighted_pos]
  exact ⟨_, rfl⟩

/-- The record in all but the percentile. -/
def SeriesRecord.withoutP95 (record : SeriesRecord) : SeriesRecord := { record with p95 := none }

/-- **Streaming and materialized summaries agree.** For points of a series with a range, sorted by distinct
times, both give the same record in all but the percentile. -/
theorem streaming_eq_raw (q : SummaryQuery) (allowP95 : Bool) {unit : String} {points : List MetricPoint}
    (h : RangeSeries q unit points) (hsorted : points.Pairwise fun p p' => p.ts < p'.ts) :
    (streamingSummary q points).map (fun summary => summary.toSeriesRecord.withoutP95) =
      (rawSummary q allowP95 points).map fun summary => summary.toSeriesRecord.withoutP95 := by
  obtain rfl | hne := eq_or_ne points []
  · unfold rawSummary
    rw [List.mergeSort_nil]
    rfl
  · obtain ⟨p95, hraw⟩ := rawSummary_eq h hne hsorted allowP95
    rw [streamingSummary_eq h hne, hraw]
    rfl

/-- A point before the window, and two in it. -/
theorem streaming_eq_raw_load :
    let key : SeriesKey := ⟨"host", "local", "load1"⟩
    let q : SummaryQuery := { key, start := 100, stop := 200, cadence := 10, now := 250 }
    let points : List MetricPoint :=
      [⟨key, 90, some 3, none, "count", .exact, 0, 0⟩, ⟨key, 120, none, none, "count", .unavailable, 0, 1⟩,
        ⟨key, 190, some 5, none, "count", .derived, 0, 0⟩]
    (streamingSummary q points).map (fun summary => summary.toSeriesRecord.withoutP95) =
      (rawSummary q true points).map fun summary => summary.toSeriesRecord.withoutP95 := by
  intro key q points
  have hseries : RangeSeries q "count" points :=
    ⟨by decide, by decide +kernel, by decide +kernel, by decide +kernel⟩
  exact streaming_eq_raw q true hseries (by decide)

end Monitoring
