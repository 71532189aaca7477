import Mathlib.Algebra.BigOperators.Ring.Finset
import Mathlib.Algebra.Order.Ring.Rat
import GostManager.Monitoring.CpuReaders
import GostManager.Numbers.Proofs.SharesProofs

/-!
# Proofs: readers of the CPU

The counters that do not decrease share the advance of their total, and the metrics are withheld where there is
no advance to share.
-/

namespace Monitoring.Readers

open Numbers

/-! ## Counters -/

section Counters

variable {current last : CpuCounters} {elapsed : Option ℚ}

theorem CpuField.mem_all (field : CpuField) : field ∈ CpuField.all := by
  cases field <;> decide

/-- The total is the sum over the fields. -/
theorem CpuCounters.total_eq_sum (c : CpuCounters) : c.total = (CpuField.all.map c.get).sum := by
  simp only [CpuCounters.total, CpuField.all, List.map_cons, List.map_nil, List.sum_cons, List.sum_nil]
  omega

theorem sum_map_sub (fields : List CpuField) : (fields.map fun field => current.get field - last.get field).sum =
    (fields.map current.get).sum - (fields.map last.get).sum := by
  induction fields with
  | nil => rfl
  | cons field fields ih =>
    simp only [List.map_cons, List.sum_cons, ih]
    omega

theorem sub_nonneg_of_not_decreased (h : ¬ current.Decreased last) (field : CpuField) :
    0 ≤ current.get field - last.get field := by
  by_contra hlt
  exact h ⟨field, by omega⟩

/-- No counter advances by more than the total, if none decreases. -/
theorem sub_le_total (h : ¬ current.Decreased last) (field : CpuField) :
    current.get field - last.get field ≤ current.total - last.total := by
  rw [CpuCounters.total_eq_sum, CpuCounters.total_eq_sum, ← sum_map_sub]
  apply List.single_le_sum
  · intro delta hmem
    obtain ⟨field', -, rfl⟩ := List.mem_map.1 hmem
    exact sub_nonneg_of_not_decreased h field'
  · exact List.mem_map_of_mem (CpuField.mem_all field)

/-- Two counters together advance by no more than the total, if none decreases. -/
theorem idle_add_iowait_le_total (h : ¬ current.Decreased last) :
    current.get .idle - last.get .idle + (current.get .iowait - last.get .iowait) ≤ current.total - last.total := by
  have hnonneg := sub_nonneg_of_not_decreased h
  have huser := hnonneg .user
  have hnice := hnonneg .nice
  have hsystem := hnonneg .system
  have hirq := hnonneg .irq
  have hsoftirq := hnonneg .softirq
  have hsteal := hnonneg .steal
  unfold CpuCounters.total
  omega

/-- The total advances if a counter does, and none decreases. -/
theorem total_pos_iff (h : ¬ current.Decreased last) : 0 < current.total - last.total ↔ ¬ current.Stalled last := by
  constructor
  · intro hpos hstalled
    have huser := hstalled .user
    have hnice := hstalled .nice
    have hsystem := hstalled .system
    have hidle := hstalled .idle
    have hiowait := hstalled .iowait
    have hirq := hstalled .irq
    have hsoftirq := hstalled .softirq
    have hsteal := hstalled .steal
    unfold CpuCounters.total at hpos
    omega
  · intro hstalled
    obtain ⟨field, hlt⟩ := not_forall.1 hstalled
    have hle := sub_le_total h field
    omega

theorem any_decreased : (CpuField.all.any fun field => current.get field < last.get field) = true ↔
    current.Decreased last := by
  rw [List.any_eq_true]
  constructor
  · rintro ⟨field, -, hlt⟩
    exact ⟨field, of_decide_eq_true hlt⟩
  · rintro ⟨field, hlt⟩
    exact ⟨field, CpuField.mem_all field, decide_eq_true hlt⟩

theorem getD_pos : 0 < elapsed.getD 0 ↔ ¬ ∀ seconds ∈ elapsed, seconds ≤ 0 := by
  cases elapsed with
  | none => simp
  | some seconds => simp

end Counters

/-! ## Percentages -/

section Percentages

variable {current last : CpuCounters} {previous : Option CpuCounters} {elapsed maxGap : Option ℚ} {part total : Int}

/-- Some counter has decreased since the last snapshot, if there is one. -/
abbrev resets (current : CpuCounters) (previous : Option CpuCounters) : Bool :=
  previous.any fun last => CpuField.all.any fun field => current.get field < last.get field

theorem resets_eq_true : resets current previous = true ↔ ∃ last ∈ previous, current.Decreased last := by
  rw [resets, Option.any_eq_true]
  exact exists_congr fun last => and_congr_right fun _ => any_decreased

/-- The snapshot that the metrics are computed with. -/
abbrev usable (current : CpuCounters) (previous : Option CpuCounters) (elapsed : Option ℚ) : Option CpuCounters :=
  previous.filter fun last => 0 < current.total - last.total && !resets current previous && 0 < elapsed.getD 0

theorem withheld_some : Withheld current (some last) elapsed ↔
    (∀ seconds ∈ elapsed, seconds ≤ 0) ∨ current.Decreased last ∨ current.Stalled last := by
  simp [Withheld]

theorem usable_eq_some : usable current previous elapsed = some last ↔
    previous = some last ∧ ¬ Withheld current previous elapsed := by
  cases previous with
  | none => simp [usable]
  | some last' =>
    have hreset : resets current (some last') = true ↔ current.Decreased last' := by
      rw [resets_eq_true]
      simp
    have htotal : 0 < current.total - last'.total ∧ ¬ current.Decreased last' ↔
        ¬ current.Decreased last' ∧ ¬ current.Stalled last' := by
      rw [and_comm]
      exact and_congr_right total_pos_iff
    rw [usable, Option.filter_eq_some_iff, withheld_some, not_or, not_or]
    apply and_congr_right
    intro hlast
    obtain rfl := Option.some.inj hlast
    rw [Bool.and_eq_true, Bool.and_eq_true, Bool.not_eq_true', ← Bool.not_eq_true, hreset, decide_eq_true_eq,
      decide_eq_true_eq, htotal, getD_pos, and_comm]

theorem percentage_of_pos (h : 0 < total) : percentage part total = some (share (100 : ℚ) total part) := by
  rw [percentage, if_neg h.ne']

/-- The metrics that are no percentages. -/
abbrev jiffies (current : CpuCounters) : List Metric :=
  (CpuField.all.map fun field =>
    cpuMetric ("cpu_" ++ field.name ++ "_jiffies") (some (.integer (current.get field))) "jiffies" .exact false
      false) ++
  [cpuMetric "cpu_jiffies_total" (some (.integer current.total)) "jiffies" .exact false false,
    cpuMetric "cpu_logical_count" (some (.integer current.logicalCpus)) "count" .exact false false]

/-- The percentages, of their values. -/
abbrev percentMetrics (value : CpuField → Option MetricValue) (utilization : Option MetricValue) (quality : Quality)
    (reset gap : Bool) : List Metric :=
  (CpuField.all.map fun field => cpuMetric field.percentName (value field) "percent" quality reset gap) ++
    [cpuMetric "cpu_utilization_percent" utilization "percent" quality reset gap]

/-- The percentages are those of the metrics, and have their names. -/
theorem percentages_append (value : CpuField → Option MetricValue) (utilization : Option MetricValue)
    (quality : Quality) (reset gap : Bool) :
    percentages (jiffies current ++ percentMetrics value utilization quality reset gap) =
      percentMetrics value utilization quality reset gap := by
  simp [percentages, jiffies, percentMetrics, CpuField.all, cpuMetric]

/-- The last snapshot is too long ago. -/
abbrev gapped (elapsed maxGap : Option ℚ) : Bool :=
  maxGap.any fun maxGap => elapsed.any fun elapsed => maxGap < elapsed

theorem mem_percentMetrics {value : CpuField → Option MetricValue} {utilization : Option MetricValue}
    {quality : Quality} {reset gap : Bool} {m : Metric} (h : m ∈ percentMetrics value utilization quality reset gap) :
    m.reset = reset ∧ (m.value = utilization ∨ ∃ field, m.value = value field) := by
  rcases List.mem_append.1 h with h | h
  · obtain ⟨field, -, rfl⟩ := List.mem_map.1 h
    exact ⟨rfl, .inr ⟨field, rfl⟩⟩
  · rw [List.mem_singleton.1 h]
    exact ⟨rfl, .inl rfl⟩

theorem cpuMetrics_of_withheld (h : Withheld current previous elapsed) :
    cpuMetrics current previous elapsed maxGap = some (jiffies current ++
      percentMetrics (fun _ => none) none .unavailable (resets current previous) (gapped elapsed maxGap)) := by
  have hnone : usable current previous elapsed = none := by
    rw [Option.eq_none_iff_forall_ne_some]
    exact fun last hsome => (usable_eq_some.1 hsome).2 h
  unfold usable resets at hnone
  simp only [cpuMetrics, hnone, percentMetrics, List.append_assoc]
  rfl

theorem cpuMetrics_of_not_withheld (h : ¬ Withheld current (some last) elapsed) :
    cpuMetrics current (some last) elapsed maxGap = some (jiffies current ++ percentMetrics
      (fun field => some (.real (share (100 : ℚ) ↑(current.total - last.total) ↑(current.get field - last.get field))))
      (some (.real (share (100 : ℚ) ↑(current.total - last.total) ↑(current.total - last.total -
        (current.get .idle - last.get .idle) - (current.get .iowait - last.get .iowait)))))
      .derived (resets current (some last)) (gapped elapsed maxGap)) := by
  have hsome := usable_eq_some.2 ⟨rfl, h⟩
  have hpos : 0 < current.total - last.total := by
    rw [withheld_some, not_or, not_or] at h
    exact (total_pos_iff h.2.1).2 h.2.2
  unfold usable resets at hsome
  simp only [cpuMetrics, hsome, percentage_of_pos hpos, percentMetrics, List.append_assoc]
  rfl

/-- Where the percentages are told, each is a share of the total, they make up the whole, and the utilization is
what is not idle. -/
theorem percentages_told (h : ¬ current.Decreased last) (hstalled : ¬ current.Stalled last) :
    ∃ (percent : CpuField → ℚ) (utilization : ℚ),
      (∀ field, percent field = share (100 : ℚ) ↑(current.total - last.total) ↑(current.get field - last.get field)) ∧
      utilization = share (100 : ℚ) ↑(current.total - last.total) ↑(current.total - last.total -
        (current.get .idle - last.get .idle) - (current.get .iowait - last.get .iowait)) ∧
      (∀ field, 0 ≤ percent field ∧ percent field ≤ 100) ∧ (CpuField.all.map percent).sum = 100 ∧
      utilization = 100 - percent .idle - percent .iowait ∧ 0 ≤ utilization ∧ utilization ≤ 100 := by
  have hpos : (0 : ℚ) < ((current.total - last.total : Int) : ℚ) := Int.cast_pos.2 ((total_pos_iff h).2 hstalled)
  have hnonneg : ∀ field, (0 : ℚ) ≤ ((current.get field - last.get field : Int) : ℚ) := fun field =>
    Int.cast_nonneg (sub_nonneg_of_not_decreased h field)
  refine ⟨_, _, fun _ => rfl, rfl, fun field => ⟨?_, ?_⟩, ?_, ?_, ?_, ?_⟩
  · exact share_nonneg (by norm_num) hpos (hnonneg field)
  · exact share_le (by norm_num) hpos (Int.cast_le.2 (sub_le_total h field))
  · have hcast : (CpuField.all.map fun field => ((current.get field - last.get field : Int) : ℚ)).sum =
        ((current.total - last.total : Int) : ℚ) := by
      rw [CpuCounters.total_eq_sum, CpuCounters.total_eq_sum, ← sum_map_sub, Int.cast_list_sum, List.map_map]
      rfl
    rw [sum_map_share, hcast, share_total hpos.ne']
  · rw [Int.cast_sub (_ - _), Int.cast_sub (_ - _), share_sub, share_sub, share_total hpos.ne']
  · apply share_nonneg (by norm_num) hpos
    have hle := idle_add_iowait_le_total h
    exact Int.cast_nonneg (by omega)
  · apply share_le (by norm_num) hpos
    have hidle := sub_nonneg_of_not_decreased h .idle
    have hiowait := sub_nonneg_of_not_decreased h .iowait
    exact Int.cast_le.2 (by omega)

/-- `cpu_metrics` divides by no zero and tells all percentages or none, and those that it tells are consistent. -/
theorem cpuMetrics_consistent (current : CpuCounters) (previous : Option CpuCounters) (elapsed maxGap : Option ℚ) :
    ∃ metrics, cpuMetrics current previous elapsed maxGap = some metrics ∧
      (percentages metrics).map (·.name) = CpuField.all.map CpuField.percentName ++ ["cpu_utilization_percent"] ∧
      (Withheld current previous elapsed → ∀ m ∈ percentages metrics, m.value = none) ∧
      (¬ Withheld current previous elapsed → ∃ (percent : CpuField → ℚ) (utilization : ℚ),
        (percentages metrics).map (·.value) =
          (CpuField.all.map fun field => some (.real (percent field))) ++ [some (.real utilization)] ∧
        (∀ field, 0 ≤ percent field ∧ percent field ≤ 100) ∧ (CpuField.all.map percent).sum = 100 ∧
        utilization = 100 - percent .idle - percent .iowait ∧ 0 ≤ utilization ∧ utilization ≤ 100) ∧
      ∀ m ∈ percentages metrics, (m.reset = true ↔ ∃ last ∈ previous, current.Decreased last) := by
  by_cases h : Withheld current previous elapsed
  · refine ⟨_, cpuMetrics_of_withheld h, ?_⟩
    rw [percentages_append]
    refine ⟨rfl, fun _ m hmem => ?_, fun hnot => absurd h hnot, fun m hmem => ?_⟩
    · obtain ⟨-, hvalue | ⟨-, hvalue⟩⟩ := mem_percentMetrics hmem
      · exact hvalue
      · exact hvalue
    · rw [(mem_percentMetrics hmem).1, resets_eq_true]
  · cases previous with
    | none => exact absurd (.inl rfl) h
    | some last =>
      have htold := mt withheld_some.2 h
      rw [not_or, not_or] at htold
      obtain ⟨percent, utilization, hpercent, hutilization, hfacts⟩ := percentages_told htold.2.1 htold.2.2
      refine ⟨_, cpuMetrics_of_not_withheld h, ?_⟩
      rw [percentages_append]
      refine ⟨rfl, fun hwithheld => absurd hwithheld h, fun _ => ⟨percent, utilization, ?_, hfacts⟩, fun m hmem => ?_⟩
      · rw [hutilization, funext hpercent]
        rfl
      · rw [(mem_percentMetrics hmem).1, resets_eq_true]

end Percentages

end Monitoring.Readers
