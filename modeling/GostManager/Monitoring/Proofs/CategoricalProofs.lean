import GostManager.Monitoring.Proofs.SummariesProofs

/-!
# Proofs: summaries of categorical series

The two summaries of a series of states. The streaming summary takes its `numeric` flag from the first point
that comes, which may be before the window, and counts transitions only from the first value on; the
materialized summary looks at the points in the window for both.
-/

namespace Monitoring

/-- The metrics that have transitions have no range, and no average. -/
theorem classifyMetric_of_supportsTransitions {metricName unit : String}
    (h : (classifyMetric metricName unit).supportsTransitions = true) :
    (classifyMetric metricName unit).supportsRange = false ∧
    (classifyMetric metricName unit).supportsAverage = false := by
  revert h
  unfold classifyMetric
  repeat' split
  all_goals decide

/-- The points are of the series of a query, with one unit that has transitions. -/
structure CategoricalSeries (q : SummaryQuery) (unit : String) (points : List MetricPoint) : Prop where
  keys : ∀ p ∈ points, p.key = q.key
  units : ∀ p ∈ points, p.unit = unit
  transitions : (classifyMetric q.key.metricName unit).supportsTransitions = true

/-- What a summary tells of a categorical series. -/
structure CategoricalRecord where
  transitionCount : Option Nat
  numeric : Bool
  latest : Option MetricValue
  latestTimestamp : Option Int
  sampleCount : Nat
  expectedSampleCount : Int
  unavailableCount : Nat
  resetCount : Nat
  gapCount : Nat
  coverage : ℚ
  quality : Quality
  deriving DecidableEq

/-- The part of a record that is about categorical series. -/
def SeriesRecord.categorical (record : SeriesRecord) : CategoricalRecord where
  transitionCount := record.transitionCount
  numeric := record.numeric
  latest := record.latest
  latestTimestamp := record.latestTimestamp
  sampleCount := record.sampleCount
  expectedSampleCount := record.expectedSampleCount
  unavailableCount := record.unavailableCount
  resetCount := record.resetCount
  gapCount := record.gapCount
  coverage := record.coverage
  quality := record.quality

variable {q : SummaryQuery} {unit : String} {p : MetricPoint} {points inside : List MetricPoint}
  {values : List MetricValue} {acc : StreamingRawSummary} {summary : SeriesSummary}

/-! ## Transitions -/

theorem countChanges_concat {value : MetricValue} : countChanges (values ++ [value]) =
    countChanges values + values.getLast?.elim 0 fun last => if last ≠ value then 1 else 0 := by
  induction values with
  | nil => rfl
  | cons first rest ih =>
    cases rest with
    | nil => simp [countChanges]
    | cons second rest =>
      simp only [List.cons_append, countChanges] at ih ⊢
      rw [ih, List.getLast?_cons_cons, Nat.add_assoc]

/-- The transitions that the streaming summary has counted. -/
def countedChanges (values : List MetricValue) : Option Nat :=
  if values = [] then none else some (countChanges values)

theorem countedChanges_concat {value : MetricValue} :
    countedChanges (values ++ [value]) = some (countChanges (values ++ [value])) := by
  unfold countedChanges
  rw [if_neg (by simp)]

/-! ## Streaming -/

/-- The record of some points in the window, with a count and a flag of its own. -/
def markedRecord (q : SummaryQuery) (unit : String) (inside : List MetricPoint)
    (transitionCount : Option Nat) (numeric : Bool) : SeriesRecord :=
  { (countedSummary q inside unit).toSeriesRecord with
    transitionCount
    numeric }

/-- The flag of the streaming summary: the first point has no text. -/
def firstNumeric (points : List MetricPoint) : Bool := points.head?.all fun first => first.textValue.isNone

/-- The record of the streaming summary after some points. -/
def streamedRecord (q : SummaryQuery) (unit : String) (points : List MetricPoint) : SeriesRecord :=
  markedRecord q unit (points.filter fun p => q.Inside p)
    (countedChanges ((points.filter fun p => q.Inside p).filterMap (·.value))) (firstNumeric points)

/-- The streaming summary after some points of a categorical series. The seconds are not looked at. -/
structure Categorized (q : SummaryQuery) (unit : String) (points : List MetricPoint)
    (acc : StreamingRawSummary) : Prop where
  summary : if points = [] then acc.summary = none else
    ∃ summary, acc.summary = some summary ∧ summary.toSeriesRecord = streamedRecord q unit points
  previous : acc.previous = points.getLast?
  previousTransition :
    acc.previousTransition = ((points.filter fun p => q.Inside p).filterMap (·.value)).getLast?

/-- Closing the last segment keeps what is known. -/
theorem Categorized.closePrevious (h : Categorized q unit points acc) (nextTs : Int) :
    ∃ acc', acc.closePrevious q nextTs = some acc' ∧ Categorized q unit points acc' := by
  unfold StreamingRawSummary.closePrevious
  obtain rfl | hne := eq_or_ne points []
  · rw [h.previous]
    exact ⟨acc, rfl, h⟩
  · obtain ⟨last, hlast⟩ := Option.isSome_iff_exists.1 (List.getLast?_isSome.2 hne)
    have hsummary := h.summary
    rw [if_neg hne] at hsummary
    obtain ⟨summary, hsome, hrecord⟩ := hsummary
    rw [h.previous, hlast]
    -- a segment only counts seconds
    refine ⟨_, segment_eq hsome, ⟨?_, ?_, ?_⟩⟩
    · rw [if_neg hne]
      exact ⟨_, rfl, hrecord⟩
    · rw [hlast]
      exact h.previous.trans hlast
    · exact h.previousTransition

/-- Before the first point there is nothing in the window. -/
theorem initial_record (hkey : p.key = q.key) (hunit : p.unit = unit) :
    (StreamingRawSummary.initial q p).toSeriesRecord = markedRecord q unit [] none (firstNumeric [p]) := by
  unfold StreamingRawSummary.initial markedRecord countedSummary firstNumeric
  simp [hkey, hunit, worstQuality]

/-- A point in the window, but for its transition. -/
theorem observe_record (hrange : (classifyMetric p.key.metricName p.unit).supportsRange = false)
    {transitionCount : Option Nat} {numeric : Bool}
    (hsummary : summary.toSeriesRecord = markedRecord q unit inside transitionCount numeric) :
    (StreamingRawSummary.observe q p summary).toSeriesRecord =
      markedRecord q unit (inside ++ [p]) transitionCount numeric := by
  have hfirst : (inside.head?.map (·.ts)).or (some p.ts) = (inside ++ [p]).head?.map (·.ts) := by
    cases inside <;> rfl
  unfold StreamingRawSummary.observe
  rw [hsummary]
  unfold markedRecord countedSummary
  simp only [hrange, hfirst, List.map_append, List.map_cons, List.map_nil, List.sum_append,
    List.length_append, List.countP_append, worstQuality_concat, List.getLast?_concat, List.length_map]
  simp [List.countP_singleton]

/-- The transition of a point in the window. -/
theorem transition_eq
    (htransitions : (classifyMetric p.key.metricName p.unit).supportsTransitions = true)
    (hprevious : acc.previousTransition = (inside.filterMap (·.value)).getLast?)
    (hcount : summary.transitionCount = countedChanges (inside.filterMap (·.value))) :
    StreamingRawSummary.transition p acc summary =
      (((inside ++ [p]).filterMap (·.value)).getLast?,
        countedChanges ((inside ++ [p]).filterMap (·.value))) := by
  unfold StreamingRawSummary.transition
  rw [if_pos htransitions, List.filterMap_append, hprevious, hcount]
  cases hvalue : p.value with
  | none => simp [hvalue]
  | some value =>
    simp only [List.filterMap_cons_some hvalue, List.filterMap_nil, countedChanges_concat,
      List.getLast?_concat, countChanges_concat]
    obtain hnil | ⟨first, last, hvalues⟩ := (inside.filterMap (·.value)).eq_nil_or_concat'
    · rw [hnil]
      simp [countedChanges, countChanges]
    · rw [hvalues, List.getLast?_concat, countedChanges_concat]
      by_cases hsame : last = value
      · simp [hsame]
      · have hother : some value ≠ some last := fun heq => hsame (Option.some.inj heq).symm
        simp [hsame, hother]

/-- One more point. -/
theorem Categorized.add (h : Categorized q unit points acc) (hp : CategoricalSeries q unit [p]) :
    ∃ acc', acc.add q p = some acc' ∧ Categorized q unit (points ++ [p]) acc' := by
  have hkey : p.key = q.key := hp.keys p (.head _)
  have hunit : p.unit = unit := hp.units p (.head _)
  have htransitions : (classifyMetric p.key.metricName p.unit).supportsTransitions = true := by
    rw [hkey, hunit]
    exact hp.transitions
  have hrange := (classifyMetric_of_supportsTransitions htransitions).1
  obtain ⟨acc', hclose, h'⟩ := h.closePrevious p.ts
  have hne : points ++ [p] ≠ [] := by simp
  -- the flag is that of the first point, the rest that of the points so far
  have hsummary : (acc'.summary.getD (StreamingRawSummary.initial q p)).toSeriesRecord =
      markedRecord q unit (points.filter fun p => q.Inside p)
        (countedChanges ((points.filter fun p => q.Inside p).filterMap (·.value)))
        (firstNumeric (points ++ [p])) := by
    have hknown := h'.summary
    obtain rfl | hpoints := eq_or_ne points []
    · rw [if_pos rfl] at hknown
      rw [hknown, Option.getD_none]
      exact initial_record hkey hunit
    · rw [if_neg hpoints] at hknown
      obtain ⟨summary, hsome, hrecord⟩ := hknown
      rw [hsome, Option.getD_some, hrecord]
      unfold streamedRecord firstNumeric
      rw [List.head?_append_of_ne_nil _ hpoints]
  unfold StreamingRawSummary.add
  rw [hclose, Option.bind_eq_bind, Option.bind_some]
  simp only
  generalize acc'.summary.getD (StreamingRawSummary.initial q p) = summary at hsummary
  by_cases hin : q.Inside p
  · have hinside : (points ++ [p]).filter (fun p => q.Inside p) =
        points.filter (fun p => q.Inside p) ++ [p] := by
      simp [hin]
    have hcount : summary.transitionCount =
        countedChanges ((points.filter fun p => q.Inside p).filterMap (·.value)) := by
      rw [hsummary]
      rfl
    rw [if_pos hin, transition_eq htransitions h'.previousTransition hcount]
    refine ⟨_, rfl, ⟨?_, ?_, ?_⟩⟩
    · rw [if_neg hne]
      refine ⟨_, rfl, ?_⟩
      unfold streamedRecord
      rw [hinside, observe_record hrange hsummary]
      rfl
    · rw [List.getLast?_concat]
    · rw [hinside]
  · have hinside : (points ++ [p]).filter (fun p => q.Inside p) = points.filter fun p => q.Inside p := by
      simp [hin]
    rw [if_neg hin]
    refine ⟨_, rfl, ⟨?_, ?_, ?_⟩⟩
    · rw [if_neg hne]
      refine ⟨summary, rfl, ?_⟩
      unfold streamedRecord
      rw [hinside, hsummary]
    · rw [List.getLast?_concat]
    · rw [hinside]
      exact h'.previousTransition

/-- The points of a series, one by one. -/
theorem foldlM_categorized (h : CategoricalSeries q unit points) :
    ∃ acc, points.foldlM (StreamingRawSummary.add q) .empty = some acc ∧
      Categorized q unit points acc := by
  induction points using List.reverseRecOn with
  | nil => exact ⟨.empty, rfl, ⟨rfl, rfl, rfl⟩⟩
  | append_singleton points p ih =>
    have hpoints : CategoricalSeries q unit points :=
      ⟨fun p' h' => h.keys p' (List.mem_append_left _ h'), fun p' h' => h.units p' (List.mem_append_left _ h'),
        h.transitions⟩
    have hp : CategoricalSeries q unit [p] :=
      ⟨fun p' h' => h.keys p' (List.mem_append_right _ h'),
        fun p' h' => h.units p' (List.mem_append_right _ h'), h.transitions⟩
    obtain ⟨acc, hfold, hacc⟩ := ih hpoints
    obtain ⟨acc', hadd, hacc'⟩ := hacc.add hp
    refine ⟨acc', ?_, hacc'⟩
    rw [List.foldlM_append, hfold, Option.bind_eq_bind, Option.bind_some, List.foldlM_cons, hadd]
    rfl

/-! ## The records -/

/-- The streaming summary of a categorical series. -/
theorem streamingSummary_record (h : CategoricalSeries q unit points) (hne : points ≠ []) :
    (streamingSummary q points).map (·.toSeriesRecord) = some (streamedRecord q unit points) := by
  obtain ⟨acc, hfold, hacc⟩ := foldlM_categorized h
  obtain ⟨acc', hclose, hacc'⟩ := hacc.closePrevious q.stop
  have hbefore := hacc.summary
  have hafter := hacc'.summary
  rw [if_neg hne] at hbefore hafter
  obtain ⟨before, hbefore, -⟩ := hbefore
  obtain ⟨summary, hsome, hrecord⟩ := hafter
  have haverage : (classifyMetric summary.key.metricName summary.unit).supportsAverage = false := by
    rw [hrecord]
    exact (classifyMetric_of_supportsTransitions h.transitions).2
  unfold streamingSummary
  rw [hfold, Option.bind_eq_bind, Option.bind_some]
  unfold StreamingRawSummary.finish
  rw [hbefore, hclose]
  simp only [Option.isSome_some, guard, Option.bind_eq_bind]
  show Option.map _ (acc'.summary.bind _) = _
  rw [hsome, Option.bind_some, Option.map_some, haverage]
  simp only [Bool.false_eq_true, false_and, if_false]
  rw [hrecord]
  rfl

/-- The materialized summary of a categorical series. -/
theorem rawSummary_record (h : CategoricalSeries q unit points) (hne : points ≠ [])
    (hsorted : points.Pairwise fun p p' => p.ts < p'.ts) (allowP95 : Bool) :
    (rawSummary q allowP95 points).map (·.toSeriesRecord) =
      some (countedSummary q (points.filter fun p => q.Inside p) unit).toSeriesRecord := by
  have hordered : points.mergeSort (fun p p' => p.ts ≤ p'.ts) = points :=
    List.mergeSort_of_pairwise (hsorted.imp fun hlt => decide_eq_true hlt.le)
  unfold rawSummary
  simp only [hordered]
  obtain ⟨last, hlast, rfl⟩ := lastUnit (q := q) h.units hne
  rw [hlast]
  simp only [(classifyMetric_of_supportsTransitions h.transitions).1, Bool.false_eq_true, if_false,
    Option.map_some]

/-- The streaming summary has a count if there is a value in the window, the materialized summary always. -/
theorem countedChanges_eq_some_iff : countedChanges values = some (countChanges values) ↔ values ≠ [] := by
  unfold countedChanges
  by_cases hnil : values = []
  · simp [hnil]
  · simp [hnil]

theorem firstNumeric_iff :
    firstNumeric points = true ↔ ∀ first ∈ points.head?, first.textValue = none := by
  unfold firstNumeric
  cases points <;> simp

/-- **Streaming and materialized summaries of categorical series** tell the same if and only if there is a
value in the window, and the first point that is read has a text just if a point in the window has one. -/
theorem streaming_eq_raw_categorical_iff (q : SummaryQuery) (allowP95 : Bool) {unit : String}
    {points : List MetricPoint} (h : CategoricalSeries q unit points)
    (hsorted : points.Pairwise fun p p' => p.ts < p'.ts) :
    (streamingSummary q points).map (fun summary => summary.toSeriesRecord.categorical) =
        (rawSummary q allowP95 points).map (fun summary => summary.toSeriesRecord.categorical) ↔
      points = [] ∨ (∃ p ∈ points, q.Inside p ∧ p.value ≠ none) ∧
        ((∀ first ∈ points.head?, first.textValue = none) ↔
          ∀ p ∈ points, q.Inside p → p.textValue = none) := by
  obtain rfl | hne := eq_or_ne points []
  · unfold rawSummary
    rw [List.mergeSort_nil]
    exact ⟨fun _ => .inl rfl, fun _ => rfl⟩
  · have hstream := congrArg (Option.map SeriesRecord.categorical) (streamingSummary_record h hne)
    have hraw := congrArg (Option.map SeriesRecord.categorical) (rawSummary_record h hne hsorted allowP95)
    rw [Option.map_map, Option.map_some] at hstream hraw
    -- only the count and the flag can differ
    have hsame : (streamedRecord q unit points).categorical =
        (countedSummary q (points.filter fun p => q.Inside p) unit).toSeriesRecord.categorical ↔
        countedChanges ((points.filter fun p => q.Inside p).filterMap (·.value)) =
          some (countChanges ((points.filter fun p => q.Inside p).filterMap (·.value))) ∧
        firstNumeric points = !(points.filter fun p => q.Inside p).any (·.textValue.isSome) := by
      unfold streamedRecord markedRecord SeriesRecord.categorical countedSummary
      simp only [h.transitions, if_true, CategoricalRecord.mk.injEq, and_true]
    have hvalues : (points.filter fun p => q.Inside p).filterMap (·.value) ≠ [] ↔
        ∃ p ∈ points, q.Inside p ∧ p.value ≠ none := by
      rw [Ne, List.filterMap_eq_nil_iff]
      simp only [List.mem_filter, decide_eq_true_eq, not_forall, and_imp]
      constructor
      · rintro ⟨p, hp, hin, hvalue⟩
        exact ⟨p, hp, hin, hvalue⟩
      · rintro ⟨p, hp, hin, hvalue⟩
        exact ⟨p, hp, hin, hvalue⟩
    have htexts : ((points.filter fun p => q.Inside p).any (·.textValue.isSome)) = false ↔
        ∀ p ∈ points, q.Inside p → p.textValue = none := by
      simp [List.any_eq_false]
    have hflag : firstNumeric points = !(points.filter fun p => q.Inside p).any (·.textValue.isSome) ↔
        ((∀ first ∈ points.head?, first.textValue = none) ↔
          ∀ p ∈ points, q.Inside p → p.textValue = none) := by
      rw [← firstNumeric_iff, ← htexts]
      cases firstNumeric points <;>
        cases (points.filter fun p => q.Inside p).any (·.textValue.isSome) <;> simp
    refine Iff.trans ?_ ((hsame.trans (and_congr (countedChanges_eq_some_iff.trans hvalues) hflag)).trans ?_)
    · exact Iff.trans (by rw [← hstream, ← hraw]; rfl) Option.some_inj
    · exact ⟨.inr, fun hor => hor.resolve_left hne⟩

/-- A service that is active, and then fails. -/
theorem streaming_eq_raw_categorical_active :
    let key : SeriesKey := ⟨"service", "gost-iran-1.service", "service_active_state"⟩
    let q : SummaryQuery := { key, start := 100, stop := 200, cadence := 10, now := 250 }
    let points : List MetricPoint :=
      [⟨key, 90, none, some "active", "state", .exact, 0, 0⟩,
        ⟨key, 120, none, none, "state", .unavailable, 0, 1⟩,
        ⟨key, 190, none, some "failed", "state", .exact, 0, 0⟩]
    (streamingSummary q points).map (fun summary => summary.toSeriesRecord.categorical) =
      (rawSummary q true points).map fun summary => summary.toSeriesRecord.categorical := by
  intro key q points
  have hseries : CategoricalSeries q "state" points := ⟨by decide, by decide, by decide⟩
  exact (streaming_eq_raw_categorical_iff q true hseries (by decide)).2 (.inr ⟨by decide, by decide⟩)

/-- A service whose state is not known at first: the streaming summary takes its states for numbers. And
without a known state in the window only the materialized summary has a count. -/
theorem not_streaming_eq_raw_categorical :
    let key : SeriesKey := ⟨"service", "gost-iran-1.service", "service_active_state"⟩
    let q : SummaryQuery := { key, start := 100, stop := 200, cadence := 10, now := 250 }
    let unknown : MetricPoint := ⟨key, 120, none, none, "state", .unavailable, 0, 1⟩
    let failed : MetricPoint := ⟨key, 190, none, some "failed", "state", .exact, 0, 0⟩
    ((streamingSummary q [unknown, failed]).map (·.numeric) = some true ∧
      (rawSummary q true [unknown, failed]).map (·.numeric) = some false) ∧
    ((streamingSummary q [unknown]).map (·.transitionCount) = some none ∧
      (rawSummary q true [unknown]).map (·.transitionCount) = some (some 0)) := by
  intro key q unknown failed
  have hboth : CategoricalSeries q "state" [unknown, failed] := ⟨by decide, by decide, by decide⟩
  have hunknown : CategoricalSeries q "state" [unknown] := ⟨by decide, by decide, by decide⟩
  have hstream := congrArg (Option.map (·.numeric)) (streamingSummary_record hboth (by decide))
  have hraw := congrArg (Option.map (·.numeric)) (rawSummary_record hboth (by decide) (by decide) true)
  have hstream' := congrArg (Option.map (·.transitionCount)) (streamingSummary_record hunknown (by decide))
  have hraw' := congrArg (Option.map (·.transitionCount))
    (rawSummary_record hunknown (by decide) (by decide) true)
  rw [Option.map_map, Option.map_some] at hstream hraw hstream' hraw'
  exact ⟨⟨hstream.trans (by decide), hraw.trans (by decide)⟩,
    hstream'.trans (by decide), hraw'.trans (by decide)⟩

end Monitoring
