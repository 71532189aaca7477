import GostManager.Lists.Proofs.GroupsProofs
import GostManager.Monitoring.Proofs.MeansProofs
import GostManager.Monitoring.Seeds

/-!
# Proofs: seeds

Of the points before a window only the newest one counts. So a summary of the points that are returned is that
of all points, unless the newest one is out of sight and would be read.
-/

namespace Monitoring

open Lists

variable {q : SummaryQuery} {points points' before inside : List MetricPoint} {p : MetricPoint}
  {allowP95 : Bool}

/-! ## Summaries of sorted points -/

/-- Points at distinct times have one order. -/
theorem mergeSort_of_perm (hperm : points.Perm points')
    (hsorted : points'.Pairwise fun p p' => p.ts < p'.ts) :
    points.mergeSort (fun p p' => p.ts ≤ p'.ts) = points' := by
  have hdistinct : (points.map (·.ts)).Nodup := by
    refine ((hperm.map _).nodup_iff).2 ?_
    rw [List.nodup_iff_pairwise_ne, List.pairwise_map]
    exact hsorted.imp fun hlt => hlt.ne
  refine List.Perm.eq_of_pairwise (fun p p' _ _ hlt hlt' => ?_) (ordered_pairwise hdistinct) hsorted
    ((List.mergeSort_perm _ _).trans hperm)
  exact absurd hlt' hlt.asymm

theorem rawSummary_of_perm (hperm : points.Perm points')
    (hsorted : points'.Pairwise fun p p' => p.ts < p'.ts) :
    rawSummary q allowP95 points = rawSummary q allowP95 points' := by
  unfold rawSummary
  rw [mergeSort_of_perm hperm hsorted, mergeSort_of_perm (.refl _) hsorted]

/-- A point that is followed by another one before the window holds nowhere in it. -/
theorem segmentOf_before {nextTs : Int} (h : nextTs ≤ q.start) : segmentOf q p nextTs = [] := by
  unfold segmentOf
  cases p.numericValue with
  | none => rfl
  | some value =>
    simp only
    split
    · rfl
    · split
      · rfl
      · rw [if_pos (by omega)]

/-- Only the newest of the points before the window holds in it. -/
theorem weighted_before (hbefore : ∀ p' ∈ before, p'.ts < q.start) (hlt : p.ts < q.start) :
    weighted q (before ++ p :: inside) = weighted q (p :: inside) := by
  induction before with
  | nil => rfl
  | cons b bs ih =>
    have hrest := ih fun p' hp' => hbefore p' (.tail _ hp')
    have hnext : q.nextTs (bs ++ p :: inside) ≤ q.start := by
      cases bs with
      | nil => exact hlt.le
      | cons b' bs => exact (hbefore b' (.tail _ (.head _))).le
    rw [List.cons_append, weighted_cons, segmentOf_before hnext, List.nil_append, hrest]

theorem filter_inside_before (hbefore : ∀ p' ∈ before, p'.ts < q.start) :
    (before ++ inside).filter (fun p => q.Inside p) = inside.filter fun p => q.Inside p := by
  have hnone : before.filter (fun p => q.Inside p) = [] := by
    refine List.filter_eq_nil_iff.2 fun p' hp' hin => ?_
    have hstart := (of_decide_eq_true hin).1
    have hlt := hbefore p' hp'
    omega
  rw [List.filter_append, hnone, List.nil_append]

/-- **One seed is enough.** Of the points before the window only the newest one counts. -/
theorem rawSummary_newest (hbefore : ∀ p' ∈ before, p'.ts < q.start) (hlt : p.ts < q.start)
    (hsorted : (before ++ p :: inside).Pairwise fun p p' => p.ts < p'.ts) :
    rawSummary q allowP95 (before ++ p :: inside) = rawSummary q allowP95 (p :: inside) := by
  have hsuffix : (p :: inside).Pairwise fun p p' => p.ts < p'.ts := (List.pairwise_append.1 hsorted).2.1
  have hinside : (before ++ p :: inside).filter (fun p => q.Inside p) =
      (p :: inside).filter fun p => q.Inside p := filter_inside_before hbefore
  have hlast : (before ++ p :: inside).getLast? = (p :: inside).getLast? :=
    List.getLast?_append_of_ne_nil _ (List.cons_ne_nil _ _)
  unfold rawSummary
  rw [mergeSort_of_perm (.refl _) hsorted, mergeSort_of_perm (.refl _) hsuffix]
  simp only [hinside, weighted_before hbefore hlt]
  by_cases hempty : (p :: inside).filter (fun p => q.Inside p) = []
  · rw [if_pos hempty, if_pos hempty, hlast]
  · rw [if_neg hempty, if_neg hempty]

/-- What the unit of a window makes of the segments. -/
theorem rawSummary_of_inside {segments : List (ℚ × Int)} {last : MetricPoint}
    (hsorted : points.Pairwise fun p p' => p.ts < p'.ts)
    (hinside : points.filter (fun p => q.Inside p) = inside) (hlast : inside.getLast? = some last)
    (hsegments : weighted q points = segments) :
    rawSummary q allowP95 points =
      if (classifyMetric q.key.metricName last.unit).supportsRange then
        some { countedSummary q inside last.unit with
          minimum := (availableValues inside).min?
          maximum := (availableValues inside).max?
          weightedSeconds := ((segments.map (·.2)).sum : Int)
          average := segmentAverage segments
          p95 :=
            if (0 : ℚ) < ((segments.map (·.2)).sum : Int) ∧ allowP95 ∧
              (classifyMetric q.key.metricName last.unit).supportsP95 then
              weightedPercentile (segments.map fun v => (v.1, (v.2 : ℚ))) (95 / 100)
            else none }
      else some (countedSummary q inside last.unit) := by
  have hne : inside ≠ [] := by
    rintro rfl
    cases hlast
  unfold rawSummary
  rw [mergeSort_of_perm (.refl _) hsorted]
  simp only [hinside, if_neg hne, hlast, hsegments]
  rw [← hsegments, segmentAverage_of_pos weighted_pos]

theorem rawSummary_nil : rawSummary q allowP95 [] = none := by
  unfold rawSummary
  rw [List.mergeSort_nil]
  rfl

theorem eq_nil_of_sum_seconds {segments : List (ℚ × Int)} (hpos : ∀ v ∈ segments, 0 < v.2)
    (hsum : (segments.map (·.2)).sum = 0) : segments = [] := by
  cases segments with
  | nil => rfl
  | cons v segments =>
    have hv := hpos v (.head _)
    have hrest : 0 ≤ (segments.map (·.2)).sum := by
      refine List.sum_nonneg fun x hx => ?_
      obtain ⟨v', hv', rfl⟩ := List.mem_map.1 hx
      exact (hpos v' (.tail _ hv')).le
    rw [List.map_cons, List.sum_cons] at hsum
    omega

/-- The older point is read exactly when it holds somewhere in the window. -/
theorem rawSummary_seed_iff (hlt : p.ts < q.start) (hinside : ∀ p' ∈ inside, q.Inside p')
    (hsorted : (p :: inside).Pairwise fun p p' => p.ts < p'.ts) :
    rawSummary q allowP95 inside = rawSummary q allowP95 (p :: inside) ↔
      ∃ last, inside.getLast? = some last ∧
        ((classifyMetric q.key.metricName last.unit).supportsRange = true →
          segmentOf q p (q.nextTs inside) = []) := by
  have hrest : inside.Pairwise fun p p' => p.ts < p'.ts := (List.pairwise_cons.1 hsorted).2
  have hall : inside.filter (fun p => q.Inside p) = inside :=
    List.filter_eq_self.2 fun p' hp' => decide_eq_true (hinside p' hp')
  have hcons : (p :: inside).filter (fun p => q.Inside p) = inside := by
    rw [← List.singleton_append, filter_inside_before fun p' hp' => ?_, hall]
    rw [List.mem_singleton.1 hp']
    exact hlt
  cases hlast : inside.getLast? with
  | none =>
    -- without a point there is no summary
    obtain ⟨_, _, summary, hsummary, _⟩ :=
      rawSummary_spec (q := q) (List.cons_ne_nil p inside) allowP95
    rw [hsummary, List.getLast?_eq_none_iff.1 hlast, rawSummary_nil]
    refine ⟨(fun heq => nomatch heq), ?_⟩
    rintro ⟨_, hnone, _⟩
    cases hnone
  | some last =>
    rw [rawSummary_of_inside hrest hall hlast rfl, rawSummary_of_inside hsorted hcons hlast weighted_cons]
    by_cases hrange : (classifyMetric q.key.metricName last.unit).supportsRange = true
    · rw [if_pos hrange, if_pos hrange]
      constructor
      · intro heq
        refine ⟨last, rfl, fun _ => ?_⟩
        have hseconds : ((((weighted q inside).map (·.2)).sum : Int) : ℚ) =
            (((segmentOf q p (q.nextTs inside) ++ weighted q inside).map (·.2)).sum : Int) :=
          congrArg SeriesSummary.weightedSeconds (Option.some.inj heq)
        have hsum : ((weighted q inside).map (·.2)).sum =
            ((segmentOf q p (q.nextTs inside) ++ weighted q inside).map (·.2)).sum := by
          exact_mod_cast hseconds
        rw [List.map_append, List.sum_append] at hsum
        exact eq_nil_of_sum_seconds segmentOf_pos (by omega)
      · rintro ⟨last', hlast', hnone⟩
        cases hlast'
        rw [hnone hrange, List.nil_append]
    · rw [if_neg hrange, if_neg hrange]
      exact ⟨fun _ => ⟨last, rfl, fun h => absurd h hrange⟩, fun _ => rfl⟩

/-! ## What is carried in -/

theorem segmentOf_eq_nil_iff {nextTs : Int} (hwindow : q.start < q.stop) (hlt : p.ts < q.start) :
    segmentOf q p nextTs = [] ↔ p.available = none ∨ nextTs ≤ q.start ∨ q.limit p ≤ q.start := by
  have hseconds : segmentOf q p nextTs = [] ↔ seconds (segmentOf q p nextTs) = [] := by
    refine ⟨fun h => by rw [h]; rfl, fun h => ?_⟩
    have hpos : ∀ v ∈ segmentOf q p nextTs, 0 < v.2 := segmentOf_pos
    have hsum := length_seconds hpos
    rw [h] at hsum
    exact eq_nil_of_sum_seconds segmentOf_pos hsum.symm
  rw [hseconds, seconds_segmentOf]
  cases p.available with
  | none => simp
  | some value =>
    rw [Option.toList_some, List.flatMap_singleton, List.replicate_eq_nil_iff]
    simp only [reduceCtorEq, false_or]
    omega

/-- A point holds in the window exactly if its number is carried in. -/
theorem segmentOf_eq_nil_iff_carriedValue (hdistinct : (points.map (·.ts)).Nodup)
    (hnewest : q.IsNewestBefore points p) {first : MetricPoint}
    (hinside : ∀ p', p' ∈ first :: inside ↔ p' ∈ points ∧ q.Inside p')
    (hsorted : (first :: inside).Pairwise fun p p' => p.ts < p'.ts) :
    segmentOf q p first.ts = [] ↔ carriedValue q points = none := by
  obtain ⟨hmem, hlt, hmax⟩ := hnewest
  obtain ⟨hfirst, hstart, hstop⟩ := (hinside first).1 (.head _)
  rw [segmentOf_eq_nil_iff (by omega) hlt]
  unfold carriedValue
  by_cases hat : first.ts ≤ q.start
  · -- the first point of the window holds from its first second on
    have hlatest : latestAt (·.ts) points q.start = some first := by
      refine (latestAt_eq_some_iff hdistinct).2 ⟨hfirst, hat, fun p' _ hle => ?_⟩
      omega
    rw [hlatest, Option.bind_some, if_neg (by omega)]
    simp only [hat, true_or, or_true]
  · have hlatest : latestAt (·.ts) points q.start = some p := by
      refine (latestAt_eq_some_iff hdistinct).2 ⟨hmem, hlt.le, fun p' hp' hle => ?_⟩
      by_cases hbefore : p'.ts < q.start
      · exact hmax p' hp' hbefore
      · have hin := (hinside p').2 ⟨hp', by omega, by omega⟩
        rcases List.mem_cons.1 hin with rfl | htail
        · omega
        · have hfirstlt := (List.pairwise_cons.1 hsorted).1 p' htail
          omega
    rw [hlatest, Option.bind_some]
    by_cases hlimit : q.start < q.limit p
    · rw [if_pos ⟨hlt, hlimit⟩]
      simp only [hat, not_le.2 hlimit, or_false]
    · rw [if_neg (by omega)]
      simp only [not_lt.1 hlimit, or_true]

/-! ## The points that are returned -/

section Returned

variable {db : ReadOnlyDatabase} {limits : SummaryLimits} {filters : ExportFilters} {key : SeriesKey}
  {start stop seedSeconds : Int} {rows : List MetricPoint}

theorem mem_ofSeries : p ∈ ofSeries key points ↔ p ∈ points ∧ p.key = key := by
  unfold ofSeries
  rw [List.mem_filter, decide_eq_true_iff]

theorem ranked_nil : db.ranked [] = none := by
  refine Option.eq_none_iff_forall_ne_some.2 fun p hp => ?_
  exact List.not_mem_nil (db.ranked_newest [] p hp).1

/-- The seeds of a series: the point that is ranked first among its own. -/
theorem mem_seeds : p ∈ ofSeries key ((groups (·.key) before).filterMap fun group => db.ranked group.2) ↔
    db.ranked (ofSeries key before) = some p := by
  have hgroups := groups_spec (·.key) before
  rw [mem_ofSeries, List.mem_filterMap]
  constructor
  · rintro ⟨⟨⟨key', group⟩, hgroup, hranked⟩, hkey⟩
    obtain ⟨rfl, -⟩ := (hgroups.mem key' group).1 hgroup
    have hmem := (db.ranked_newest _ p hranked).1
    have hsame : p.key = key' := of_decide_eq_true (List.mem_filter.1 hmem).2
    rw [← hkey, hsame]
    exact hranked
  · intro hranked
    have hmem := (db.ranked_newest _ p hranked).1
    refine ⟨⟨(key, ofSeries key before), (hgroups.mem _ _).2 ⟨rfl, ?_⟩, hranked⟩, (mem_ofSeries.1 hmem).2⟩
    exact List.ne_nil_of_mem hmem

/-- No series has two seeds. -/
theorem nodup_seeds :
    (ofSeries key ((groups (·.key) before).filterMap fun group => db.ranked group.2)).Nodup := by
  have hgroups := groups_spec (·.key) before
  have hdistinct : (groups (·.key) before).Pairwise fun group group' => group.1 ≠ group'.1 := by
    rw [← List.pairwise_map, ← List.nodup_iff_pairwise_ne]
    exact hgroups.nodup
  refine List.Nodup.filter _ (List.pairwise_filterMap.2 ?_)
  refine hdistinct.imp_of_mem fun {group group'} hmem hmem' hne p hp p' hp' heq => hne ?_
  have hkey : ∀ {group : SeriesKey × List MetricPoint}, group ∈ groups (·.key) before →
      db.ranked group.2 = some p → p.key = group.1 := by
    intro group hmem hp
    have hin := (db.ranked_newest _ p hp).1
    rw [((hgroups.mem _ _).1 hmem).1] at hin
    exact of_decide_eq_true (List.mem_filter.1 hin).2
  exact (hkey hmem hp).symm.trans (hkey hmem' (heq ▸ hp'))

theorem rawPoints_eq_ok (h : db.rawPoints limits filters start stop seedSeconds = .ok rows) :
    rows.Perm (db.points.filter (fun p => start ≤ p.ts ∧ p.ts < stop ∧ filters.MatchesPoint p) ++
      (groups (·.key) (db.points.filter fun p =>
        start - seedSeconds ≤ p.ts ∧ p.ts < start ∧ filters.MatchesPoint p)).filterMap fun group =>
          db.ranked group.2) := by
  unfold ReadOnlyDatabase.rawPoints at h
  cases hvalid : filters.validate with
  | error message =>
    rw [hvalid] at h
    cases h
  | ok _ =>
    rw [hvalid] at h
    simp only [bind, Except.bind, pure, Except.pure] at h
    split at h
    · cases h
    · cases h
      exact List.mergeSort_perm _ _

theorem ofSeries_filter (hmatches : filters.Matches (key.entityType, key.entityId) key.metricName) :
    ofSeries key (points.filter fun p => start ≤ p.ts ∧ p.ts < stop ∧ filters.MatchesPoint p) =
      (ofSeries key points).filter fun p => start ≤ p.ts ∧ p.ts < stop := by
  unfold ofSeries
  rw [List.filter_filter, List.filter_filter]
  refine List.filter_congr fun p _ => ?_
  by_cases hkey : p.key = key
  · have hpoint : filters.MatchesPoint p := by
      unfold ExportFilters.MatchesPoint
      rw [hkey]
      exact hmatches
    simp only [hkey, hpoint, and_true, Bool.true_and, decide_true, Bool.and_true]
  · simp only [hkey, decide_false, Bool.false_and, Bool.and_false]

/-- The points of a series that are returned: its seed, and its points in the window. -/
theorem ofSeries_rawPoints (hmatches : filters.Matches (key.entityType, key.entityId) key.metricName)
    (h : db.rawPoints limits filters start stop seedSeconds = .ok rows) :
    (ofSeries key rows).Perm
      ((db.ranked ((ofSeries key db.points).filter fun p =>
          start - seedSeconds ≤ p.ts ∧ p.ts < start)).toList ++
        (ofSeries key db.points).filter fun p => start ≤ p.ts ∧ p.ts < stop) := by
  have hrows : (ofSeries key rows).Perm _ := (rawPoints_eq_ok h).filter _
  rw [List.filter_append] at hrows
  refine hrows.trans (List.perm_append_comm.trans (List.Perm.append ?_ ?_))
  · refine (List.perm_ext_iff_of_nodup nodup_seeds ?_).2 fun p => ?_
    · cases db.ranked _ with
      | none => exact List.nodup_nil
      | some seed => exact List.nodup_singleton seed
    · rw [mem_seeds, Option.mem_toList, ofSeries_filter hmatches]
  · exact .of_eq (ofSeries_filter hmatches)

/-! ## Sufficient seeds -/

theorem getLast?_eq_some_iff_of_sorted (hsorted : points.Pairwise fun p p' => p.ts < p'.ts) :
    points.getLast? = some p ↔ p ∈ points ∧ ∀ p' ∈ points, p'.ts ≤ p.ts := by
  constructor
  · intro h
    obtain ⟨ps, rfl⟩ := List.getLast?_eq_some_iff.1 h
    refine ⟨List.mem_append_right _ (.head _), fun p' hp' => ?_⟩
    rcases List.mem_append.1 hp' with hbefore | hlast
    · exact ((List.pairwise_append.1 hsorted).2.2 p' hbefore p (.head _)).le
    · rw [List.mem_singleton.1 hlast]
  · rintro ⟨hmem, hmax⟩
    obtain ⟨last, hlast⟩ := Option.isSome_iff_exists.1 (List.getLast?_isSome.2 (List.ne_nil_of_mem hmem))
    obtain ⟨ps, rfl⟩ := List.getLast?_eq_some_iff.1 hlast
    rcases List.mem_append.1 hmem with hbefore | hsame
    · have hlt := (List.pairwise_append.1 hsorted).2.2 p hbefore last (.head _)
      have hle := hmax last (List.mem_append_right _ (.head _))
      omega
    · rw [hlast, List.mem_singleton.1 hsame]

/-- A series as a summary sees it: its points before the window, and those in it, both in order. -/
structure Split (q : SummaryQuery) (series before inside : List MetricPoint) : Prop where
  sorted : (before ++ inside).Pairwise fun p p' => p.ts < p'.ts
  mem_before : ∀ p, p ∈ before ↔ p ∈ series ∧ p.ts < q.start
  mem_inside : ∀ p, p ∈ inside ↔ p ∈ series ∧ q.Inside p

section Split

variable {series : List MetricPoint}

theorem exists_split (hdistinct : (series.map (·.ts)).Nodup) :
    ∃ before inside, Split q series before inside := by
  have hsub : ∀ f : MetricPoint → Bool, ((series.filter f).map (·.ts)).Nodup := fun f =>
    hdistinct.sublist (List.filter_sublist.map _)
  have hmem : ∀ (f : MetricPoint → Bool) p,
      p ∈ (series.filter f).mergeSort (fun p p' => p.ts ≤ p'.ts) ↔ p ∈ series ∧ f p = true := fun f p => by
    rw [(List.mergeSort_perm _ _).mem_iff, List.mem_filter]
  have hbefore := hmem fun p => p.ts < q.start
  have hinside := hmem fun p => q.Inside p
  simp only [decide_eq_true_eq] at hbefore hinside
  refine ⟨_, _, List.pairwise_append.2 ⟨ordered_pairwise (hsub _), ordered_pairwise (hsub _), ?_⟩,
    hbefore, hinside⟩
  intro p hp p' hp'
  have hlt := ((hbefore p).1 hp).2
  have hle := ((hinside p').1 hp').2.1
  omega

theorem nodup_of_sorted (hsorted : points.Pairwise fun p p' => p.ts < p'.ts) : points.Nodup :=
  hsorted.imp fun hlt heq => hlt.ne (congrArg _ heq)

theorem nodup_of_distinct (hdistinct : (series.map (·.ts)).Nodup) : series.Nodup :=
  List.Nodup.of_map _ hdistinct

theorem eq_of_ts (hdistinct : (series.map (·.ts)).Nodup) {p' : MetricPoint} (hp : p ∈ series)
    (hp' : p' ∈ series) (hts : p.ts = p'.ts) : p = p' :=
  List.inj_on_of_nodup_map hdistinct hp hp' hts

namespace Split

theorem perm_all (h : Split q series before inside) (hdistinct : (series.map (·.ts)).Nodup)
    (hwindow : q.start ≤ q.stop) : (series.filter fun p => p.ts < q.stop).Perm (before ++ inside) := by
  refine (List.perm_ext_iff_of_nodup ((nodup_of_distinct hdistinct).filter _)
    (nodup_of_sorted h.sorted)).2 fun p => ?_
  rw [List.mem_filter, decide_eq_true_iff, List.mem_append, h.mem_before, h.mem_inside, ← and_or_left]
  refine and_congr_right fun _ => ?_
  unfold SummaryQuery.Inside
  omega

theorem perm_inside (h : Split q series before inside) (hdistinct : (series.map (·.ts)).Nodup) :
    (series.filter fun p => q.start ≤ p.ts ∧ p.ts < q.stop).Perm inside := by
  refine (List.perm_ext_iff_of_nodup ((nodup_of_distinct hdistinct).filter _)
    (nodup_of_sorted (List.pairwise_append.1 h.sorted).2.1)).2 fun p => ?_
  rw [List.mem_filter, decide_eq_true_iff, h.mem_inside]
  rfl

/-- The last of the points before the window is the newest one. -/
theorem newest (h : Split q series (before ++ [p]) inside) : q.IsNewestBefore series p := by
  have hlast := (getLast?_eq_some_iff_of_sorted (List.pairwise_append.1 h.sorted).1).1 List.getLast?_concat
  obtain ⟨hmem, hlt⟩ := (h.mem_before p).1 hlast.1
  exact ⟨hmem, hlt, fun p' hp' hlt' => hlast.2 p' ((h.mem_before p').2 ⟨hp', hlt'⟩)⟩

/-- A newest point that is out of sight is read unless it holds nowhere in the window. -/
theorem rawSummary_hidden_iff (h : Split q series (before ++ [p]) inside)
    (hdistinct : (series.map (·.ts)).Nodup) {seedSeconds : Int} (hhidden : p.ts < q.start - seedSeconds) :
    rawSummary q allowP95 inside = rawSummary q allowP95 (p :: inside) ↔
      SeedsSuffice q seedSeconds series := by
  have hnewest := h.newest
  have hinside := (List.pairwise_append.1 h.sorted).2.1
  have hsuffix : (p :: inside).Pairwise fun p p' => p.ts < p'.ts := by
    have hsorted := h.sorted
    rw [List.append_assoc, List.singleton_append] at hsorted
    exact (List.pairwise_append.1 hsorted).2.1
  have hlast : ∀ last, inside.getLast? = some last ↔ q.IsLastInside series last := fun last => by
    rw [getLast?_eq_some_iff_of_sorted hinside]
    unfold SummaryQuery.IsLastInside
    simp only [h.mem_inside, and_imp, and_assoc]
  have hcarried : inside ≠ [] → (segmentOf q p (q.nextTs inside) = [] ↔ carriedValue q series = none) := by
    intro hne
    obtain ⟨first, rest, rfl⟩ := List.exists_cons_of_ne_nil hne
    exact segmentOf_eq_nil_iff_carriedValue hdistinct hnewest h.mem_inside hinside
  rw [rawSummary_seed_iff hnewest.2.1 (fun p' hp' => ((h.mem_inside p').1 hp').2) hsuffix]
  have hiff : (∃ last, inside.getLast? = some last ∧
      ((classifyMetric q.key.metricName last.unit).supportsRange = true →
        segmentOf q p (q.nextTs inside) = [])) ↔
      ∃ last, q.IsLastInside series last ∧
        ((classifyMetric q.key.metricName last.unit).supportsRange = true →
          carriedValue q series = none) := by
    refine exists_congr fun last => ?_
    rw [← hlast]
    refine and_congr_right fun hgetLast => imp_congr_right fun _ => hcarried ?_
    exact List.ne_nil_of_mem (List.mem_of_getLast? hgetLast)
  rw [hiff]
  exact ⟨fun hsuffice _ _ _ => hsuffice, fun hsuffice => hsuffice p hnewest hhidden⟩

end Split

/-- The summary of the seed and the points in the window is that of all points. -/
theorem rawSummary_returned_iff (hdistinct : (series.map (·.ts)).Nodup) (hwindow : q.start ≤ q.stop)
    (hreturned : points.Perm
      ((db.ranked (series.filter fun p => q.start - seedSeconds ≤ p.ts ∧ p.ts < q.start)).toList ++
        series.filter fun p => q.start ≤ p.ts ∧ p.ts < q.stop)) :
    rawSummary q allowP95 points = rawSummary q allowP95 (series.filter fun p => p.ts < q.stop) ↔
      SeedsSuffice q seedSeconds series := by
  obtain ⟨before, inside, hsplit⟩ := exists_split (q := q) hdistinct
  have hinside := (List.pairwise_append.1 hsplit.sorted).2.1
  rw [rawSummary_of_perm (hsplit.perm_all hdistinct hwindow) hsplit.sorted]
  -- what the horizon shows is before the window
  have hseen : ∀ p', p' ∈ series.filter (fun p => q.start - seedSeconds ≤ p.ts ∧ p.ts < q.start) ↔
      p' ∈ before ∧ q.start - seedSeconds ≤ p'.ts := fun p' => by
    rw [List.mem_filter, decide_eq_true_iff, hsplit.mem_before]
    tauto
  have hnothing : (∀ p' ∈ before, p'.ts < q.start - seedSeconds) →
      rawSummary q allowP95 points = rawSummary q allowP95 inside := by
    intro hhidden
    have hnil : series.filter (fun p => q.start - seedSeconds ≤ p.ts ∧ p.ts < q.start) = [] := by
      refine List.eq_nil_iff_forall_not_mem.2 fun p' hp' => ?_
      obtain ⟨hmem, hle⟩ := (hseen p').1 hp'
      have hlt := hhidden p' hmem
      omega
    rw [hnil, ranked_nil] at hreturned
    exact rawSummary_of_perm (hreturned.trans (hsplit.perm_inside hdistinct)) hinside
  obtain rfl | ⟨before, p, rfl⟩ := before.eq_nil_or_concat'
  · rw [hnothing (by simp), List.nil_append]
    refine ⟨fun _ p hnewest => ?_, fun _ => rfl⟩
    exact absurd ((hsplit.mem_before p).2 ⟨hnewest.1, hnewest.2.1⟩) List.not_mem_nil
  have hnewest := hsplit.newest
  have hsorted := hsplit.sorted
  rw [List.append_assoc, List.singleton_append] at hsorted ⊢
  rw [rawSummary_newest (fun p' hp' => ((hsplit.mem_before p').1 (List.mem_append_left _ hp')).2)
    hnewest.2.1 hsorted]
  by_cases hhidden : p.ts < q.start - seedSeconds
  · rw [hnothing fun p' hp' => ?_, hsplit.rawSummary_hidden_iff hdistinct hhidden]
    obtain ⟨hmem, hlt⟩ := (hsplit.mem_before p').1 hp'
    exact (hnewest.2.2 p' hmem hlt).trans_lt hhidden
  · -- the newest point is the seed
    have hmem := (hseen p).2 ⟨List.mem_append_right _ (.head _), not_lt.1 hhidden⟩
    obtain ⟨seed, hseed⟩ := Option.isSome_iff_exists.1 (db.ranked_isSome _ (List.ne_nil_of_mem hmem))
    obtain ⟨hseedMem, hseedMax⟩ := db.ranked_newest _ seed hseed
    have hseedBefore := (hsplit.mem_before seed).1 ((hseen seed).1 hseedMem).1
    have hsame : seed = p := by
      refine eq_of_ts hdistinct hseedBefore.1 hnewest.1 (le_antisymm ?_ (hseedMax p hmem))
      exact hnewest.2.2 seed hseedBefore.1 hseedBefore.2
    rw [hseed, hsame, Option.toList_some, List.singleton_append] at hreturned
    rw [rawSummary_of_perm (hreturned.trans ((hsplit.perm_inside hdistinct).cons p))
      (List.pairwise_append.1 hsorted).2.1]
    refine ⟨fun _ p' hnewest' hlt => ?_, fun _ => rfl⟩
    have hle := hnewest'.2.2 p hnewest.1 hnewest.2.1
    omega

end Split

/-- **Seeds are sufficient** exactly if a newest point before the window that is out of sight would not be
read. -/
theorem seeds_suffice_iff (db : ReadOnlyDatabase) (limits : SummaryLimits) (registry : CadenceRegistry)
    {filters : ExportFilters} {key : SeriesKey} {start stop : Int} (now : Int) (allowP95 : Bool)
    (hwindow : start ≤ stop)
    (hmatches : filters.Matches (key.entityType, key.entityId) key.metricName)
    (hdistinct : ((ofSeries key db.points).map (·.ts)).Nodup) {rows : List MetricPoint}
    (hrows : db.rawPoints limits filters start stop (limits.seedSeconds registry) = .ok rows) :
    db.SummarizesAll (limits.query registry key start stop now) allowP95 rows ↔
      SeedsSuffice (limits.query registry key start stop now) (limits.seedSeconds registry)
        (ofSeries key db.points) :=
  rawSummary_returned_iff hdistinct hwindow (ofSeries_rawPoints hmatches hrows)

/-- A small database is read. -/
theorem exists_rawPoints (db : ReadOnlyDatabase) (limits : SummaryLimits) (filters : ExportFilters)
    (start stop seedSeconds : Int) (hvalid : filters.validate = .ok ())
    (hfew : 2 * db.points.length ≤ limits.maxQueryRows + limits.maxSeries) :
    ∃ rows, db.rawPoints limits filters start stop seedSeconds = .ok rows := by
  have hgroups : ∀ points : List MetricPoint, (groups (·.key) points).length ≤ points.length := by
    intro points
    have hspec := groups_spec (·.key) points
    have hsubset : (groups (·.key) points).map (·.1) ⊆ points.map (·.key) := by
      intro key hkey
      obtain ⟨⟨_, group⟩, hgroup, rfl⟩ := List.mem_map.1 hkey
      obtain ⟨rfl, hne⟩ := (hspec.mem _ _).1 hgroup
      obtain ⟨p, hp⟩ := List.exists_mem_of_ne_nil _ hne
      obtain ⟨hmem, hsame⟩ := List.mem_filter.1 hp
      exact List.mem_map.2 ⟨p, hmem, of_decide_eq_true hsame⟩
    simpa using (List.subperm_of_subset hspec.nodup hsubset).length_le
  unfold ReadOnlyDatabase.rawPoints
  rw [hvalid]
  simp only [bind, Except.bind, pure, Except.pure]
  refine ⟨_, if_neg (not_lt.2 ?_)⟩
  rw [List.length_mergeSort, List.length_append]
  refine le_trans (Nat.add_le_add (List.length_filter_le _ _)
    ((List.length_filterMap_le _ _).trans ((hgroups _).trans (List.length_filter_le _ _)))) ?_
  omega

end Returned

/-! ## Gaps and horizons -/

theorem exists_isLastInside (h : ∃ p ∈ points, q.Inside p) : ∃ last, q.IsLastInside points last := by
  obtain ⟨p, hp, hin⟩ := h
  have hmem : p ∈ points.filter fun p => q.Inside p := List.mem_filter.2 ⟨hp, decide_eq_true hin⟩
  obtain ⟨last, hlast⟩ : ∃ last, (points.filter fun p => q.Inside p).argmax (·.ts) = some last := by
    refine Option.ne_none_iff_exists'.1 fun hnone => ?_
    rw [List.argmax_eq_none.1 hnone] at hmem
    exact List.not_mem_nil hmem
  obtain ⟨hlastMem, hlastIn⟩ := List.mem_filter.1 (List.argmax_mem hlast)
  refine ⟨last, hlastMem, of_decide_eq_true hlastIn, fun p' hp' hin' => ?_⟩
  exact List.le_of_mem_argmax (List.mem_filter.2 ⟨hp', decide_eq_true hin'⟩) hlast

/-- Seeds suffice for a series with a point in the window if the horizon reaches as far as its gap. -/
theorem seedsSuffice_of_gap {seedSeconds : Int} (hstart : 0 ≤ q.start)
    (hgap : q.maxGap < (seedSeconds + 2 : Int)) (hinside : ∃ p ∈ points, q.Inside p) :
    SeedsSuffice q seedSeconds points := by
  intro p hnewest hhidden
  obtain ⟨last, hlast⟩ := exists_isLastInside hinside
  refine ⟨last, hlast, fun _ => ?_⟩
  unfold carriedValue
  cases hlatest : latestAt (·.ts) points q.start with
  | none => rfl
  | some p' =>
    obtain ⟨hmem, -, -⟩ := mem_of_latestAt hlatest
    rw [Option.bind_some, if_neg]
    rintro ⟨hlt, hlimit⟩
    have hold : p'.ts < q.start - seedSeconds := (hnewest.2.2 p' hmem hlt).trans_lt hhidden
    have hreach : (p'.ts : ℚ) + q.maxGap < (q.start + 1 : Int) := by
      have hcast : (p'.ts : ℚ) ≤ (q.start - seedSeconds - 1 : Int) := by exact_mod_cast (by omega)
      push_cast at hcast hgap ⊢
      linarith
    have hle : q.limit p' ≤ q.start := by
      unfold SummaryQuery.limit
      split
      · exact Int.lt_add_one_iff.1 (Int.floor_lt.2 hreach)
      · rename_i hneg
        refine le_trans (Int.ceil_le.2 ?_) hstart
        exact_mod_cast (not_le.1 hneg).le
    omega

/-! ## Some databases -/

/-- A point with a number. -/
def pointAt (key : SeriesKey) (ts : Int) (unit : String) : MetricPoint where
  key
  ts
  numericValue := some 1
  textValue := none
  unit
  quality := .exact

/-- Some points, of which the first of the newest is ranked first. -/
def firstRanked (points : List MetricPoint) : ReadOnlyDatabase where
  points
  ranked := @List.argmax MetricPoint Int Int.instLinearOrder.toPreorder inferInstance (·.ts)
  ranked_isSome _ hne := Option.ne_none_iff_isSome.1 fun hnone => hne (List.argmax_eq_none.1 hnone)
  ranked_newest _ _ hp := ⟨List.argmax_mem hp, fun _ hp' => List.le_of_mem_argmax hp' hp⟩

/-- What the default configuration writes into an empty registry. -/
def defaultRegistry : CadenceRegistry := AdmittedConfig.registry ⟨{}, by decide⟩ ⟨[], positive_nil⟩

/-- The configuration with the longest interval of slow samples. -/
def slowestConfig : AdmittedConfig := ⟨{ slowInterval := 900 }, by decide⟩

/-- The share of a filesystem that is used. -/
def usedPercent : SeriesKey := ⟨"filesystem", "/", "filesystem_used_percent"⟩

/-- A point every 900 seconds. -/
def slowPoints : List MetricPoint := [pointAt usedPercent 600 "percent", pointAt usedPercent 1500 "percent"]

/-- With the default configuration, the horizon reaches as far as the gap. -/
theorem seeds_suffice_default :
    ∃ rows, (firstRanked slowPoints).rawPoints {} {} 1450 1510
        (({} : SummaryLimits).seedSeconds defaultRegistry) = .ok rows ∧
      (firstRanked slowPoints).SummarizesAll
        (({} : SummaryLimits).query defaultRegistry usedPercent 1450 1510 1510) true rows := by
  obtain ⟨rows, hrows⟩ := exists_rawPoints (firstRanked slowPoints) {} {} 1450 1510
    (({} : SummaryLimits).seedSeconds defaultRegistry) rfl (by decide)
  refine ⟨rows, hrows, (seeds_suffice_iff _ {} _ 1510 true (by decide) ?_ (by decide) hrows).2 ?_⟩
  · exact ⟨nofun, nofun, .inl rfl⟩
  · refine seedsSuffice_of_gap (by decide) (by decide +kernel) ⟨pointAt usedPercent 1500 "percent", ?_, ?_⟩
    · decide
    · exact ⟨by decide, by decide⟩

/-- A gap of 2250 seconds, and a horizon of 300. -/
theorem not_seedsSuffice_slowest :
    ¬ SeedsSuffice (({} : SummaryLimits).query (slowestConfig.registry ⟨[], positive_nil⟩) usedPercent 1450 1510 1510)
      (({} : SummaryLimits).seedSeconds (slowestConfig.registry ⟨[], positive_nil⟩))
      (ofSeries usedPercent slowPoints) := by
  intro hsuffice
  obtain ⟨last, ⟨hlast, hinside, -⟩, hnone⟩ := hsuffice (pointAt usedPercent 600 "percent")
    ⟨by decide, by decide, by decide⟩ (by decide +kernel)
  have hunit : last.unit = "percent" := by
    have hall : ∀ p ∈ ofSeries usedPercent slowPoints, p.unit = "percent" := by decide
    exact hall last hlast
  have hcarried := hnone (by rw [hunit]; decide +kernel)
  have hlatest : latestAt (·.ts) (ofSeries usedPercent slowPoints) 1450 =
      some (pointAt usedPercent 600 "percent") :=
    (latestAt_eq_some_iff (by decide)).2 ⟨by decide, by decide, by decide⟩
  unfold carriedValue at hcarried
  rw [show (({} : SummaryLimits).query (slowestConfig.registry ⟨[], positive_nil⟩) usedPercent 1450 1510 1510).start =
    1450 from rfl, hlatest, Option.bind_some, if_pos ⟨by decide, by decide +kernel⟩] at hcarried
  cases hcarried

/-- Two points at one time: the first is the seed, and the last is the newest of all. -/
def tiedPoints : List MetricPoint := [pointAt usedPercent 990 "percent", pointAt usedPercent 990 "bytes"]

/-- Without a point in the window, the last one has the unit. -/
theorem unit_rawSummary (hsorted : points.Pairwise fun p p' => p.ts ≤ p'.ts)
    (houtside : ∀ p ∈ points, ¬ q.Inside p) :
    (rawSummary q allowP95 points).map (fun summary => summary.unit) = points.getLast?.map (·.unit) := by
  have hordered : points.mergeSort (fun p p' => p.ts ≤ p'.ts) = points :=
    List.mergeSort_of_pairwise (hsorted.imp fun hle => decide_eq_true hle)
  have hnone : points.filter (fun p => q.Inside p) = [] :=
    List.filter_eq_nil_iff.2 fun p hp hin => houtside p hp (of_decide_eq_true hin)
  unfold rawSummary
  simp only [hordered, hnone, if_true]
  cases points.getLast? with
  | none => rfl
  | some last =>
    simp only
    split
    · rfl
    · rfl

theorem not_summarizesAll_tied {registry : CadenceRegistry} {rows : List MetricPoint}
    (hrows : ofSeries usedPercent rows = [pointAt usedPercent 990 "percent"]) :
    ¬ (firstRanked tiedPoints).SummarizesAll (({} : SummaryLimits).query registry usedPercent 1000 1060 1060)
      true rows := by
  intro hsame
  have houtside : ∀ p : MetricPoint, p.ts = 990 →
      ¬ (({} : SummaryLimits).query registry usedPercent 1000 1060 1060).Inside p := fun p hp hin => by
    have hstart : (1000 : Int) ≤ p.ts := hin.1
    omega
  have hrow : ofSeries (({} : SummaryLimits).query registry usedPercent 1000 1060 1060).key rows =
      [pointAt usedPercent 990 "percent"] := hrows
  have hall : ((ofSeries usedPercent tiedPoints).filter fun p => p.ts < 1060) = tiedPoints := by decide
  have hsummaries := congrArg (Option.map fun summary : SeriesSummary => summary.unit) (hsame.trans
    (congrArg (rawSummary (({} : SummaryLimits).query registry usedPercent 1000 1060 1060) true) hall))
  rw [hrow, unit_rawSummary (List.pairwise_singleton _ _) (fun p hp => houtside p ?_),
    unit_rawSummary (List.pairwise_of_forall_mem_list (by decide)) (fun p hp => houtside p ?_)] at hsummaries
  · revert hsummaries
    decide
  · exact (by decide : ∀ p ∈ tiedPoints, p.ts = 990) p hp
  · rw [List.mem_singleton.1 hp]
    rfl

/-- A horizon of 300 seconds is too short for the slowest samples. Of points at one time the seed may be
another one than the newest. -/
theorem not_seeds_suffice :
    (¬ ∀ (config : AdmittedConfig) (stored : CadenceRegistry) (db : ReadOnlyDatabase) (key : SeriesKey)
        (start stop now : Int) (rows : List MetricPoint), start ≤ stop →
      ((ofSeries key db.points).map (·.ts)).Nodup →
      db.rawPoints {} {} start stop (({} : SummaryLimits).seedSeconds (config.registry stored)) = .ok rows →
      db.SummarizesAll (({} : SummaryLimits).query (config.registry stored) key start stop now) true rows) ∧
    ¬ ∀ (config : AdmittedConfig) (stored : CadenceRegistry) (db : ReadOnlyDatabase) (key : SeriesKey)
        (start stop now : Int) (rows : List MetricPoint), start ≤ stop →
      (∀ p ∈ db.points, start - (({} : SummaryLimits).seedSeconds (config.registry stored)) ≤ p.ts) →
      db.rawPoints {} {} start stop (({} : SummaryLimits).seedSeconds (config.registry stored)) = .ok rows →
      db.SummarizesAll (({} : SummaryLimits).query (config.registry stored) key start stop now) true rows := by
  have hmatches : ({} : ExportFilters).Matches (usedPercent.entityType, usedPercent.entityId)
      usedPercent.metricName := ⟨nofun, nofun, .inl rfl⟩
  constructor
  · intro h
    obtain ⟨rows, hrows⟩ := exists_rawPoints (firstRanked slowPoints) {} {} 1450 1510
      (({} : SummaryLimits).seedSeconds (slowestConfig.registry ⟨[], positive_nil⟩)) rfl (by decide)
    have hsame := h slowestConfig ⟨[], positive_nil⟩ (firstRanked slowPoints) usedPercent 1450 1510 1510 rows
      (by decide) (by decide) hrows
    have hreturned := ofSeries_rawPoints hmatches hrows
    exact not_seedsSuffice_slowest ((rawSummary_returned_iff (by decide) (by decide) hreturned).1 hsame)
  · intro h
    obtain ⟨rows, hrows⟩ := exists_rawPoints (firstRanked tiedPoints) {} {} 1000 1060
      (({} : SummaryLimits).seedSeconds (slowestConfig.registry ⟨[], positive_nil⟩)) rfl (by decide)
    have hsame := h slowestConfig ⟨[], positive_nil⟩ (firstRanked tiedPoints) usedPercent 1000 1060 1060 rows
      (by decide) (by decide +kernel) hrows
    have hreturned := ofSeries_rawPoints hmatches hrows
    refine not_summarizesAll_tied (List.perm_singleton.1 (hreturned.trans (.of_eq ?_))) hsame
    decide +kernel

end Monitoring
