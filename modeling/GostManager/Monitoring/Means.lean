import GostManager.Lists.Steps
import GostManager.Monitoring.Summaries

/-!
# Monitoring: what the average of a series means

Second by second, a series has the number of its latest point, unless this point is unavailable or too old.
The average is the mean over the seconds of the window that have a number.
-/

namespace Monitoring

/-- When a point is too old. The fraction of a second is cut off, which before the epoch rounds up. -/
def SummaryQuery.limit (q : SummaryQuery) (p : MetricPoint) : Int :=
  if 0 ≤ (p.ts : ℚ) + q.maxGap then ⌊(p.ts : ℚ) + q.maxGap⌋ else ⌈(p.ts : ℚ) + q.maxGap⌉

/-- The number of a point that is available. -/
def MetricPoint.available (p : MetricPoint) : Option ℚ :=
  if p.quality = .unavailable then none else p.numericValue

/-- The numbers of the seconds of a window. -/
def heldValues (q : SummaryQuery) (points : List MetricPoint) : List ℚ :=
  Lists.held (·.ts) (·.available) q.limit points q.start q.stop

/-- The number that is carried into a window: that of its first second, if it is from before. -/
def carriedValue (q : SummaryQuery) (points : List MetricPoint) : Option ℚ :=
  (Lists.latestAt (·.ts) points q.start).bind fun p =>
    if p.ts < q.start ∧ q.start < q.limit p then p.available else none

/-! ## Where averages come from -/

/-- The summaries of the points of a series: of points at distinct times, and of points of one unit as they
come, with the number that is carried in. -/
inductive RawSummarized : Option ℚ → SeriesSummary → Prop
  | materialized {q : SummaryQuery} {allowP95 : Bool} {points : List MetricPoint} {summary : SeriesSummary} :
      (points.map (·.ts)).Nodup → rawSummary q allowP95 points = some summary →
      RawSummarized (carriedValue q points) summary
  | streaming {q : SummaryQuery} {unit : String} {points : List MetricPoint} {summary : SeriesSummary} :
      (points.Pairwise fun p p' => p.ts < p'.ts) → (∀ p ∈ points, p.key = q.key ∧ p.unit = unit) →
      streamingSummary q points = some summary → RawSummarized (carriedValue q points) summary

/-- An average is not below the minimum or what is carried in, and not above the maximum or what is carried
in. -/
def Between (carried : Option ℚ) (summary : SeriesSummary) (average : ℚ) : Prop :=
  (∃ low, (low ∈ summary.minimum ∨ low ∈ carried) ∧ low ≤ average) ∧
    ∃ high, (high ∈ summary.maximum ∨ high ∈ carried) ∧ average ≤ high

end Monitoring
