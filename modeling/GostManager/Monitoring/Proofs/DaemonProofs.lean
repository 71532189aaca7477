import GostManager.Lists.Proofs.DictionaryProofs
import GostManager.Monitoring.Daemon

/-!
# Proofs: what the daemon records of its cycles

What each write does to the row, the host sample and `cycle_status` of a cycle, what a whole cycle leaves of
them, and the run of the daemon by induction on its turns.
-/

namespace Monitoring.Daemon

open Lists Readers

variable {db : Database} {ts ts' : Int} {c : Collection} {m : Metric}

/-! ## Writes -/

namespace Database

@[simp] theorem cycles_cycle_self (row : CycleRow) : (db.cycle ts row).cycles ts = some row := by
  simp [cycle]

theorem cycles_cycle_of_ne (row : CycleRow) (h : ts' ≠ ts) : (db.cycle ts row).cycles ts' = db.cycles ts' := by
  simp [cycle, h]

@[simp] theorem samples_cycle (row : CycleRow) : (db.cycle ts row).samples = db.samples := rfl

@[simp] theorem points_cycle (row : CycleRow) : (db.cycle ts row).points = db.points := rfl

@[simp] theorem cycles_insertSample (tunnelId : Option String) (row : SampleRow) :
    (db.insertSample ts tunnelId row).cycles = db.cycles := rfl

@[simp] theorem points_insertSample (tunnelId : Option String) (row : SampleRow) :
    (db.insertSample ts tunnelId row).points = db.points := rfl

@[simp] theorem samples_insertSample_host (row : SampleRow) :
    (db.insertSample ts none row).samples ts "host" = some row := by
  simp [insertSample, textOr]

theorem samples_insertSample_of_ne (tunnelId : Option String) (row : SampleRow) (h : ts' ≠ ts) :
    (db.insertSample ts tunnelId row).samples ts' = db.samples ts' :=
  Function.update_of_ne h _ db.samples

theorem samples_insertSample_tunnel {tunnelId : String} (row : SampleRow) (hname : tunnelId ≠ "")
    (hhost : tunnelId ≠ "host") :
    (db.insertSample ts (some tunnelId) row).samples ts "host" = db.samples ts "host" := by
  simp [insertSample, textOr, hname, Ne.symm hhost]

@[simp] theorem cycles_insertMetric : (db.insertMetric ts m).cycles = db.cycles := by
  unfold insertMetric
  split <;> rfl

@[simp] theorem samples_insertMetric : (db.insertMetric ts m).samples = db.samples := by
  unfold insertMetric
  split <;> rfl

theorem points_insertMetric_of_ne (h : ts' ≠ ts) : (db.insertMetric ts m).points ts' = db.points ts' := by
  unfold insertMetric
  split
  · rfl
  · exact Function.update_of_ne h _ db.points

theorem points_insertMetric_of_key {k : String × String × String} (h : m.key ≠ k) :
    (db.insertMetric ts m).points ts k = db.points ts k := by
  unfold insertMetric
  split
  · rfl
  · simp [Function.update_of_ne h.symm]

theorem points_insertMetric_self (h : isSensitive m.name = false) :
    (db.insertMetric ts m).points ts m.key = some m := by
  simp [insertMetric, h]

variable {metrics : List Metric}

@[simp] theorem cycles_insertMetrics : (db.insertMetrics ts metrics).cycles = db.cycles := by
  induction metrics generalizing db with
  | nil => rfl
  | cons m metrics ih => exact ih.trans cycles_insertMetric

@[simp] theorem samples_insertMetrics : (db.insertMetrics ts metrics).samples = db.samples := by
  induction metrics generalizing db with
  | nil => rfl
  | cons m metrics ih => exact ih.trans samples_insertMetric

theorem points_insertMetrics_of_ne (h : ts' ≠ ts) :
    (db.insertMetrics ts metrics).points ts' = db.points ts' := by
  induction metrics generalizing db with
  | nil => rfl
  | cons m metrics ih => exact ih.trans (points_insertMetric_of_ne h)

theorem points_insertMetrics_of_key {k : String × String × String} (h : ∀ m ∈ metrics, m.key ≠ k) :
    (db.insertMetrics ts metrics).points ts k = db.points ts k := by
  induction metrics generalizing db with
  | nil => rfl
  | cons m metrics ih =>
    exact (ih fun m' hm' => h m' (List.mem_cons_of_mem m hm')).trans
      (points_insertMetric_of_key (h m List.mem_cons_self))

/-- What is inserted under a key is found there, if nothing else has the key. -/
theorem points_insertMetrics_self (hsensitive : isSensitive m.name = false)
    (hunique : ∀ m' ∈ metrics, m'.key = m.key → m' = m)
    (h : db.points ts m.key = some m ∨ m ∈ metrics) :
    (db.insertMetrics ts metrics).points ts m.key = some m := by
  induction metrics generalizing db with
  | nil => exact h.resolve_right List.not_mem_nil
  | cons m' metrics ih =>
    refine ih (fun m'' hm'' => hunique m'' (List.mem_cons_of_mem m' hm'')) ?_
    by_cases hkey : m'.key = m.key
    · obtain rfl := hunique m' List.mem_cons_self hkey
      exact .inl (points_insertMetric_self hsensitive)
    · rcases h with h | h
      · exact .inl ((points_insertMetric_of_key hkey).trans h)
      · rcases List.mem_cons.mp h with rfl | h
        · exact absurd rfl hkey
        · exact .inr h

end Database

/-! ## What a cycle leaves -/

/-- The row, the host sample and `cycle_status` of a cycle tell whether it has succeeded. -/
def Told (db : Database) (ts : Int) (success : Bool) : Prop :=
  (∃ row, db.cycles ts = some row ∧ row.success = success) ∧
    db.samples ts "host" = some (hostSample success.toNat) ∧
    db.points ts cycleStatusKey = some (cycleStatus success)

/-- What is left of another cycle: all or nothing. -/
def Kept (db db' : Database) (ts : Int) : Prop :=
  (db'.cycles ts = db.cycles ts ∧ db'.samples ts = db.samples ts ∧ db'.points ts = db.points ts) ∨
    db'.cycles ts = none

theorem Kept.rfl : Kept db db ts := .inl ⟨.refl _, .refl _, .refl _⟩

theorem Kept.trans {db₁ db₂ db₃ : Database} (h : Kept db₁ db₂ ts) (h' : Kept db₂ db₃ ts) :
    Kept db₁ db₃ ts := by
  rcases h' with ⟨hcycles', hsamples', hpoints'⟩ | h'
  · rcases h with ⟨hcycles, hsamples, hpoints⟩ | h
    · exact .inl ⟨hcycles'.trans hcycles, hsamples'.trans hsamples, hpoints'.trans hpoints⟩
    · exact .inr (hcycles'.trans h)
  · exact .inr h'

/-! ## Other cycles -/

theorem kept_cycle (db : Database) (row : CycleRow) (h : ts' ≠ ts) : Kept db (db.cycle ts row) ts' :=
  .inl ⟨Database.cycles_cycle_of_ne row h, rfl, rfl⟩

theorem kept_insertSample (tunnelId : Option String) (row : SampleRow) (h : ts' ≠ ts) :
    Kept db (db.insertSample ts tunnelId row) ts' :=
  .inl ⟨rfl, Database.samples_insertSample_of_ne tunnelId row h, rfl⟩

theorem kept_insertMetrics (metrics : List Metric) (h : ts' ≠ ts) :
    Kept db (db.insertMetrics ts metrics) ts' :=
  .inl ⟨by rw [Database.cycles_insertMetrics], by rw [Database.samples_insertMetrics],
    Database.points_insertMetrics_of_ne h⟩

theorem kept_tunnelSamples (samples : List (String × SampleRow)) (h : ts' ≠ ts) :
    Kept db (samples.foldl (fun db sample => db.insertSample ts (some sample.1) sample.2) db) ts' := by
  induction samples generalizing db with
  | nil => exact Kept.rfl
  | cons sample samples ih => exact (kept_insertSample (some sample.1) sample.2 h).trans ih

theorem kept_applyRetention (now : Int) : Kept db (db.applyRetention now) ts := by
  by_cases hold : ts < now - rawRetentionSeconds
  · exact .inr (if_pos hold)
  · exact .inl ⟨if_neg hold, if_neg hold, if_neg hold⟩

/-- A transaction of a cycle keeps what is told of others. -/
theorem kept_transaction (h : ts' ≠ ts) : Kept db (c.transaction ts db) ts' := by
  unfold Collection.transaction
  refine Kept.trans ?_ (kept_cycle _ _ h)
  refine Kept.trans ?_ (kept_insertMetrics _ h)
  have hserved := (kept_cycle db (c.cycleRow c.transactionStarted) h).trans
    ((kept_insertSample none (hostSample 1) h).trans (kept_tunnelSamples c.tunnelSamples h))
  split
  · exact hserved.trans (kept_applyRetention ts)
  · exact hserved

theorem kept_recordCheckpointResult (h : ts' ≠ ts) : Kept db (c.recordCheckpointResult ts db) ts' := by
  unfold Collection.recordCheckpointResult
  simp only
  split
  · exact kept_insertMetrics _ h
  · exact (kept_insertMetrics _ h).trans (kept_cycle _ _ h)

theorem kept_recordCycleFailure (h : ts' ≠ ts) : Kept db (c.recordCycleFailure ts db) ts' :=
  (kept_cycle _ _ h).trans ((kept_insertSample none (hostSample 0) h).trans
    (kept_insertMetrics [cycleStatus false] h))

theorem kept_collectOnce (h : ts' ≠ ts) : Kept db (c.collectOnce ts db) ts' := by
  unfold Collection.collectOnce
  split
  · exact Kept.rfl
  · have hcommitted : Kept db (if c.aborts then db else c.transaction ts db) ts' := by
      split
      · exact Kept.rfl
      · exact kept_transaction h
    have hchecked : Kept db (if ¬ c.aborts ∧ c.maintenance.isSome ∧ c.checkpointRecorded then
        c.recordCheckpointResult ts (if c.aborts then db else c.transaction ts db)
      else if c.aborts then db else c.transaction ts db) ts' := by
      split
      · exact hcommitted.trans (kept_recordCheckpointResult h)
      · exact hcommitted
    simp only
    split
    · exact hchecked.trans (kept_recordCycleFailure h)
    · exact hchecked

theorem kept_recordCycleOverrun {finished deadline interval : ℚ} (h : ts' ≠ ts) :
    Kept db (recordCycleOverrun ts finished deadline interval db) ts' := by
  unfold recordCycleOverrun
  simp only
  split
  · exact Kept.rfl
  · cases db.cycles ts with
    | none => exact Kept.rfl
    | some row =>
      exact (kept_cycle _ _ h).trans ((kept_insertSample none (hostSample 1) h).trans (kept_insertMetrics _ h))

/-! ## The cycle itself -/

/-- Another metric of the collector is not `cycle_status`. -/
theorem collectorMetric_ne {name unit : String} {value : Option Readers.MetricValue} {quality : Quality}
    {labels : List (String × String)} (h : name ≠ "cycle_status") :
    (collectorMetric name value unit quality labels).key ≠ cycleStatusKey :=
  fun hkey => h (congrArg (fun key => key.2.2) hkey)

theorem key_selfMetrics (overrunCount : Nat) :
    ((c.selfMetrics ts overrunCount).map Metric.key).Nodup := by
  simp only [Collection.selfMetrics, List.map_cons, List.map_nil, collectorMetric, cycleStatus,
    Metric.key, textOr]
  decide

/-- The status that a cycle inserts is that it has succeeded. -/
theorem cycleStatus_mem_insertedMetrics (c : Collection) (ts : Int) (overrunCount : Nat) :
    cycleStatus true ∈ c.insertedMetrics ts overrunCount ∧
      ∀ m ∈ c.insertedMetrics ts overrunCount, m.key = cycleStatusKey → m = cycleStatus true := by
  have hself : cycleStatus true ∈ keepBest Metric.key Metric.rank (c.selfMetrics ts overrunCount) :=
    (mem_keepBest_of_nodup (key_selfMetrics overrunCount)).mpr List.mem_cons_self
  have hmem : cycleStatus true ∈ deduplicateMetrics (c.metrics ++ c.selfMetrics ts overrunCount) :=
    mem_keepBest_append.mpr (.inl ⟨hself, fun _ _ _ => Nat.zero_le _⟩)
  refine ⟨List.mem_append_left _ hmem, fun m hm hkey => ?_⟩
  rcases List.mem_append.mp hm with hm | hm
  · exact List.inj_on_of_nodup_map nodup_keepBest hm hmem hkey
  · simp only [List.mem_cons, List.not_mem_nil, or_false] at hm
    rcases hm with rfl | rfl | rfl | rfl | rfl <;> exact absurd hkey (collectorMetric_ne (by decide))

theorem key_checkpointMetrics : ∀ m ∈ c.checkpointMetrics, m.key ≠ cycleStatusKey := by
  intro m hm
  rcases List.mem_append.mp hm with hm | hm
  · simp only [List.mem_cons, List.not_mem_nil, or_false] at hm
    rcases hm with rfl | rfl | rfl <;> exact collectorMetric_ne (by decide)
  · cases hcheckpoint : c.checkpoint with
    | none =>
      simp only [hcheckpoint, List.mem_singleton] at hm
      subst hm
      exact collectorMetric_ne (by decide)
    | some frames =>
      simp only [hcheckpoint, List.mem_cons, List.not_mem_nil, or_false] at hm
      rcases hm with rfl | rfl | rfl | rfl <;> exact collectorMetric_ne (by decide)

theorem host_tunnelSamples (db : Database) (ts : Int) (samples : List (String × SampleRow))
    (h : ∀ sample ∈ samples, sample.1 ≠ "" ∧ sample.1 ≠ "host") :
    (samples.foldl (fun db sample => db.insertSample ts (some sample.1) sample.2) db).samples ts "host" =
      db.samples ts "host" := by
  induction samples generalizing db with
  | nil => rfl
  | cons sample samples ih =>
    obtain ⟨hname, hhost⟩ := h sample List.mem_cons_self
    exact (ih _ fun sample' hsample' => h sample' (List.mem_cons_of_mem sample hsample')).trans
      (Database.samples_insertSample_tunnel sample.2 hname hhost)

theorem told_transaction : Told (c.transaction ts db) ts true := by
  unfold Collection.transaction
  refine ⟨⟨c.cycleRow c.finished, Database.cycles_cycle_self _, rfl⟩, ?_, ?_⟩
  · rw [Database.samples_cycle, Database.samples_insertMetrics]
    have hserved := (host_tunnelSamples ((db.cycle ts (c.cycleRow c.transactionStarted)).insertSample ts none
      (hostSample 1)) ts c.tunnelSamples c.tunnelSamples_named).trans
        (Database.samples_insertSample_host (hostSample 1))
    have hyoung : ¬ ts < ts - (rawRetentionSeconds : Int) := by
      have : (0 : Int) ≤ rawRetentionSeconds := Int.natCast_nonneg _
      omega
    split
    · simp only [Database.applyRetention, if_neg hyoung]
      exact hserved
    · exact hserved
  · rw [Database.points_cycle]
    obtain ⟨hmem, hunique⟩ := cycleStatus_mem_insertedMetrics c ts _
    exact Database.points_insertMetrics_self (m := cycleStatus true) (by decide) hunique (.inr hmem)

theorem told_recordCheckpointResult {success : Bool} (h : Told db ts success) :
    Told (c.recordCheckpointResult ts db) ts success := by
  obtain ⟨⟨row, hrow, hsuccess⟩, hsample, hstatus⟩ := h
  have hpoints : (db.insertMetrics ts c.checkpointMetrics).points ts cycleStatusKey =
      some (cycleStatus success) :=
    (Database.points_insertMetrics_of_key key_checkpointMetrics).trans hstatus
  unfold Collection.recordCheckpointResult
  simp only [Database.cycles_insertMetrics, hrow]
  refine ⟨⟨_, Database.cycles_cycle_self _, hsuccess⟩, ?_, hpoints⟩
  rw [Database.samples_cycle, Database.samples_insertMetrics]
  exact hsample

theorem told_recordCycleFailure : Told (c.recordCycleFailure ts db) ts false := by
  unfold Collection.recordCycleFailure
  refine ⟨⟨_, (congrFun Database.cycles_insertMetric ts).trans (Database.cycles_cycle_self _), rfl⟩, ?_,
    Database.points_insertMetric_self (m := cycleStatus false) (by decide)⟩
  rw [Database.samples_insertMetric]
  exact Database.samples_insertSample_host (hostSample 0)

/-- What a cycle leaves of its own second, where there was nothing: nothing, unless its failure is recorded
last, or what is told of a success. -/
theorem collectOnce_self (hfresh : db.cycles ts = none) :
    (c.outcome = .cycleError ∧ c.failureRecorded ∧ Told (c.collectOnce ts db) ts false) ∨
    (¬ (c.outcome = .cycleError ∧ c.failureRecorded) ∧
      ((c.collectOnce ts db).cycles ts = none ∨ Told (c.collectOnce ts db) ts true)) := by
  unfold Collection.outcome Collection.collectOnce
  by_cases hopens : ¬ c.opens
  · rw [if_pos hopens, if_pos hopens]
    exact .inr ⟨fun h => Collection.Outcome.noConfusion h.1, .inl hfresh⟩
  rw [if_neg hopens, if_neg hopens]
  simp only
  by_cases hfailed : (c.aborts ∨ c.raisesLater) ∧ c.failureRecorded
  · rw [if_pos hfailed, if_pos hfailed.1]
    exact .inl ⟨rfl, hfailed.2, told_recordCycleFailure⟩
  rw [if_neg hfailed]
  refine .inr ⟨fun h => ?_, ?_⟩
  · split at h
    · rename_i herror
      exact hfailed ⟨herror, h.2⟩
    · cases h.1
  · cases haborts : c.aborts with
    | true =>
      simp only [if_true, not_true_eq_false, false_and, if_false]
      exact .inl hfresh
    | false =>
      simp only [Bool.false_eq_true, if_false, not_false_eq_true, true_and]
      split
      · exact .inr (told_recordCheckpointResult told_transaction)
      · exact .inr told_transaction

variable {finished deadline interval : ℚ}

theorem cycles_recordCycleOverrun_of_none (h : db.cycles ts = none) :
    recordCycleOverrun ts finished deadline interval db = db := by
  unfold recordCycleOverrun
  simp only [h]
  split <;> rfl

theorem recordCycleOverrun_of_le (h : finished ≤ deadline + interval) :
    recordCycleOverrun ts finished deadline interval db = db := by
  have hzero : max 0 (finished - (deadline + interval)) ≤ 0 := max_le le_rfl (sub_nonpos.mpr h)
  unfold recordCycleOverrun
  simp only [if_pos hzero]

/-- A recorded overrun tells of the host that it has succeeded, whatever the row of the cycle tells. -/
theorem recordCycleOverrun_of_told {success : Bool} (h : Told db ts success) (hlt : deadline + interval < finished) :
    (∃ row, (recordCycleOverrun ts finished deadline interval db).cycles ts = some row ∧
      row.success = success) ∧
    (recordCycleOverrun ts finished deadline interval db).samples ts "host" = some (hostSample 1) ∧
    (recordCycleOverrun ts finished deadline interval db).points ts cycleStatusKey =
      some (cycleStatus success) := by
  obtain ⟨⟨row, hrow, hsuccess⟩, -, hstatus⟩ := h
  have hpos : ¬ max 0 (finished - (deadline + interval)) ≤ 0 :=
    not_le.mpr (lt_max_of_lt_right (sub_pos.mpr hlt))
  unfold recordCycleOverrun
  simp only [if_neg hpos, hrow]
  refine ⟨⟨_, (congrFun Database.cycles_insertMetrics ts).trans (Database.cycles_cycle_self _), hsuccess⟩,
    ?_, ?_⟩
  · rw [Database.samples_insertMetrics]
    exact Database.samples_insertSample_host (hostSample 1)
  · rw [Database.points_insertMetrics_of_key]
    · exact hstatus
    · intro m hm
      simp only [List.mem_cons, List.not_mem_nil, or_false] at hm
      rcases hm with rfl | rfl | rfl <;> exact collectorMetric_ne (by decide)

/-! ## Turns of the daemon -/

/-- What the tables tell of a second is consistent. -/
def ConsistentAt (db : Database) (ts : Int) : Prop :=
  ∀ row sample, db.cycles ts = some row → db.samples ts "host" = some sample →
    (sample.serviceState = 1 ↔ row.success) ∧
      ∃ m, db.points ts cycleStatusKey = some m ∧ m.value = some (.boolean row.success)

theorem consistentAt_of_none (h : db.cycles ts = none) : ConsistentAt db ts := by
  intro row sample hrow
  rw [h] at hrow
  cases hrow

theorem Told.consistentAt {success : Bool} (h : Told db ts success) : ConsistentAt db ts := by
  obtain ⟨⟨row, hrow, hsuccess⟩, hsample, hstatus⟩ := h
  intro row' sample hrow' hsample'
  rw [hrow] at hrow'
  rw [hsample] at hsample'
  cases hrow'
  cases hsample'
  refine ⟨?_, cycleStatus success, hstatus, by rw [hsuccess]; rfl⟩
  rw [hsuccess]
  cases success <;> simp [hostSample]

theorem Kept.consistentAt {db' : Database} (hkept : Kept db db' ts) (h : ConsistentAt db ts) :
    ConsistentAt db' ts := by
  rcases hkept with ⟨hcycles, hsamples, hpoints⟩ | hnone
  · unfold ConsistentAt
    rw [hcycles, hsamples, hpoints]
    exact h
  · exact consistentAt_of_none hnone

variable {i : Iteration}

theorem kept_perform (interval : ℚ) (db : Database) (h : ts ≠ i.ts) : Kept db (i.perform interval db) ts := by
  unfold Iteration.perform
  simp only
  split
  · exact kept_collectOnce h
  all_goals
    split
    · exact (kept_collectOnce h).trans (kept_recordCycleOverrun h)
    · exact kept_collectOnce h

/-- What a turn leaves: what the cycle leaves, perhaps with an overrun. -/
theorem perform_cases (interval : ℚ) (i : Iteration) (db : Database) :
    (i.collection.outcome ≠ .raised ∧ i.overrunRecorded ∧ i.Overruns interval ∧
      i.perform interval db =
        recordCycleOverrun i.ts i.finished i.deadline interval (i.collection.collectOnce i.ts db)) ∨
    (¬ (i.overrunRecorded ∧ i.Overruns interval ∧ i.collection.outcome ≠ .raised) ∧
      i.perform interval db = i.collection.collectOnce i.ts db) := by
  unfold Iteration.perform
  simp only
  cases houtcome : i.collection.outcome with
  | raised => exact .inr ⟨fun h => h.2.2 rfl, rfl⟩
  | collected | cycleError =>
    simp only
    by_cases hrecorded : i.overrunRecorded
    · rw [if_pos hrecorded]
      by_cases hoverruns : i.Overruns interval
      · exact .inl ⟨Collection.Outcome.noConfusion, hrecorded, hoverruns, rfl⟩
      · exact .inr ⟨fun h => hoverruns h.2.1, recordCycleOverrun_of_le (not_lt.mp hoverruns)⟩
    · rw [if_neg hrecorded]
      exact .inr ⟨fun h => hrecorded h.1, rfl⟩

/-- A turn leaves its own second consistent unless it overwrites what is told of a failure. -/
theorem perform_self (hfresh : db.cycles i.ts = none) :
    ConsistentAt (i.perform interval db) i.ts ↔ ¬ i.Overwritten interval := by
  rcases collectOnce_self (c := i.collection) hfresh with ⟨herror, hfailure, htold⟩ | ⟨hnot, hleft⟩
  · rcases perform_cases interval i db with ⟨_, hrecorded, hoverruns, hperform⟩ | ⟨hnot, hperform⟩
    · rw [hperform]
      obtain ⟨⟨row, hrow, hsuccess⟩, hsample, _⟩ := recordCycleOverrun_of_told htold hoverruns
      refine iff_of_false (fun hconsistent => ?_) (not_not.mpr ⟨herror, hfailure, hoverruns, hrecorded⟩)
      have htrue := (hconsistent row (hostSample 1) hrow hsample).1.mp rfl
      rw [hsuccess] at htrue
      cases htrue
    · rw [hperform]
      refine iff_of_true htold.consistentAt fun h => hnot ⟨h.2.2.2, h.2.2.1, ?_⟩
      rw [herror]
      exact Collection.Outcome.noConfusion
  · refine iff_of_true ?_ fun h => hnot ⟨h.1, h.2.1⟩
    rcases perform_cases interval i db with ⟨_, _, hoverruns, hperform⟩ | ⟨_, hperform⟩
    · rw [hperform]
      rcases hleft with hnone | htold
      · rw [cycles_recordCycleOverrun_of_none hnone]
        exact consistentAt_of_none hnone
      · exact Told.consistentAt (recordCycleOverrun_of_told htold hoverruns)
    · rw [hperform]
      rcases hleft with hnone | htold
      · exact consistentAt_of_none hnone
      · exact htold.consistentAt

/-- A turn whose second is new keeps the tables consistent unless it overwrites what is told of a failure. -/
theorem consistent_perform (interval : ℚ) (hdb : db.Consistent) (hfresh : db.cycles i.ts = none) :
    (i.perform interval db).Consistent ↔ ¬ i.Overwritten interval := by
  constructor
  · intro h
    exact (perform_self hfresh).mp (h i.ts)
  · intro h ts
    by_cases hts : ts = i.ts
    · subst hts
      exact (perform_self hfresh).mpr h
    · exact (kept_perform interval db hts).consistentAt (hdb ts)

/-- In a run of the daemon at distinct seconds that are new, the tables are consistent after each turn if and
only if no turn records the failure of a cycle and then its overrun. -/
theorem consistent_runDaemon_iff (interval : ℚ) (db : Database) (iterations : List Iteration)
    (hdb : db.Consistent) (hfresh : ∀ i ∈ iterations, db.cycles i.ts = none)
    (hdistinct : (iterations.map (·.ts)).Nodup) :
    (∀ db' ∈ runDaemon interval db iterations, db'.Consistent) ↔
      ∀ i ∈ iterations, ¬ i.Overwritten interval := by
  induction iterations generalizing db with
  | nil => simp [runDaemon]
  | cons i iterations ih =>
    rw [List.map_cons, List.nodup_cons] at hdistinct
    have hstep := consistent_perform interval hdb (hfresh i List.mem_cons_self)
    simp only [runDaemon, List.forall_mem_cons, hstep]
    refine and_congr_right fun hkept => ih (i.perform interval db) (hstep.mpr hkept) ?_ hdistinct.2
    intro j hj
    have hts : j.ts ≠ i.ts := fun heq => hdistinct.1 (heq ▸ List.mem_map_of_mem hj)
    have hnone := hfresh j (List.mem_cons_of_mem i hj)
    rcases kept_perform interval db hts with ⟨hcycles, _⟩ | hnone'
    · exact hcycles.trans hnone
    · exact hnone'

/-- A cycle that measures nothing and fails or not. -/
def bareCollection (aborts : Bool) : Collection where
  opens := true
  started := 0
  transactionStarted := 1
  durations := (1, 0, 0)
  finished := 1
  tunnels := 0
  tunnelSamples := []
  tunnelSamples_named := fun _ h => absurd h List.not_mem_nil
  metrics := []
  sourceErrors := 0
  events := 0
  maintenance := none
  aborts
  checkpoint := none
  checkpointDuration := 0
  checkpointFinished := 0
  checkpointRecorded := false
  raisesLater := false
  failed := 12
  failureRecorded := true

theorem consistent_empty : Database.empty.Consistent := fun _ _ _ hrow => nomatch hrow

theorem consistent_runDaemon_iff_failure_and_overrun :
    ∃ dbs, dbs = runDaemon 5 Database.empty
      [⟨1000, bareCollection true, 0, 4, true⟩, ⟨1005, bareCollection false, 5, 17, true⟩] ∧
      dbs.length = 2 ∧ ∀ db' ∈ dbs, db'.Consistent := by
  refine ⟨_, rfl, rfl, ?_⟩
  refine (consistent_runDaemon_iff 5 Database.empty _ consistent_empty (fun _ _ => rfl) (by decide)).mpr ?_
  intro i hi h
  rcases List.mem_pair.mp hi with rfl | rfl
  · exact absurd h.2.2.1 (by simp only [Iteration.Overruns]; norm_num)
  · exact Collection.Outcome.noConfusion h.1

/-- After a failed cycle that overruns its deadline, the sample of the host tells of a success. -/
theorem not_consistent_runDaemon : ¬ ∀ (interval : ℚ) (db : Database) (iterations : List Iteration),
    db.Consistent → (∀ i ∈ iterations, db.cycles i.ts = none) → (iterations.map (·.ts)).Nodup →
      ∀ db' ∈ runDaemon interval db iterations, db'.Consistent := by
  intro h
  have hconsistent := h 5 Database.empty [⟨1000, bareCollection true, 0, 12, true⟩] consistent_empty
    (fun _ _ => rfl) (List.nodup_singleton _) _ List.mem_cons_self
  refine (consistent_perform 5 consistent_empty rfl).mp hconsistent ⟨rfl, rfl, ?_, rfl⟩
  simp only [Iteration.Overruns]
  norm_num

end Monitoring.Daemon
