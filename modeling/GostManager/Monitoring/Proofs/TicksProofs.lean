import GostManager.Monitoring.Proofs.DaemonProofs
import GostManager.Monitoring.Ticks
import GostManager.Numbers.Proofs.GridsProofs

/-!
# Proofs: the deadlines of the daemon

`catchUp` ends at the least point of the grid that is not before the clock, and what is recorded of an overrun
counts the points that it passes over.
-/

namespace Monitoring.Daemon

open Numbers Database

/-! ## The loop -/

section Loop

variable {interval : Interval} {deadline current : ℚ}

/-- Where the loop ends, in steps of the interval. -/
theorem catchUp_point (interval : Interval) (deadline current : ℚ) : ∃ k : ℕ,
    catchUp interval deadline current = deadline + k * interval ∧ current ≤ deadline + k * interval ∧
      (k = 0 ∨ deadline + (k - 1) * interval < current) := by
  fun_induction catchUp interval deadline current with
  | case1 deadline hlt ih =>
    obtain ⟨k, heq, hle, hbefore⟩ := ih
    have hpoint : deadline + interval + k * interval = deadline + ((k + 1 : ℕ) : ℚ) * interval := by
      push_cast
      ring
    refine ⟨k + 1, heq.trans hpoint, by rwa [← hpoint], .inr ?_⟩
    rcases hbefore with rfl | hbefore
    · simpa using hlt
    · push_cast
      linarith
  | case2 deadline hge =>
    refine ⟨0, by simp, ?_, .inl rfl⟩
    simpa using hge

/-- The next deadline in steps of the interval. -/
theorem nextDeadline_point (interval : Interval) (deadline current : ℚ) : ∃ k : ℤ, 1 ≤ k ∧
    nextDeadline interval deadline current = deadline + k * interval ∧ current ≤ deadline + k * interval ∧
      (k = 1 ∨ deadline + (k - 1) * interval < current) := by
  obtain ⟨k, heq, hle, hbefore⟩ := catchUp_point interval (deadline + interval) current
  have hpoint : deadline + interval + k * interval = deadline + ((k + 1 : ℤ) : ℚ) * interval := by
    push_cast
    ring
  refine ⟨k + 1, by omega, heq.trans hpoint, ?_, ?_⟩
  · rwa [← hpoint]
  · rcases hbefore with rfl | hbefore
    · exact .inl rfl
    · refine .inr ?_
      push_cast
      linarith

/-- The next deadline is the first one after the last that is not before the clock. -/
theorem isLeast_nextDeadline (interval : Interval) (deadline current : ℚ) :
    IsLeast {x ∈ laterPoints deadline interval | current ≤ x} (nextDeadline interval deadline current) := by
  obtain ⟨k, hk, heq, hle, hbefore⟩ := nextDeadline_point interval deadline current
  rw [heq]
  refine isLeast_laterPoints (fun x y hxy hx => hx.trans hxy) interval.2 hk hle ?_
  exact hbefore.imp_right not_le.2

end Loop

/-! ## Overruns -/

section Overruns

variable {interval : Interval} {deadline finished : ℚ}

theorem cycleOverrun_of_le {interval : ℚ} (h : finished ≤ deadline + interval) :
    cycleOverrun finished deadline interval = none := by
  unfold cycleOverrun
  rw [if_pos (max_le le_rfl (by linarith))]

theorem cycleOverrun_of_lt (h : deadline + interval < finished) :
    cycleOverrun finished deadline interval = some
      { missedDeadlines := ⌈(finished - (deadline + interval)) / interval⌉
        overrunSeconds := finished - (deadline + interval) } := by
  have hpos : 0 < finished - (deadline + interval) := by linarith
  unfold cycleOverrun
  rw [max_eq_right hpos.le, if_neg (not_le.2 hpos), if_pos interval.2]

/-- The overrun that is found, in steps of the interval. -/
theorem cycleOverrun_eq {k : ℤ} (hk : 1 ≤ k) (hle : finished ≤ deadline + k * interval)
    (hbefore : k = 1 ∨ deadline + (k - 1) * interval < finished) :
    cycleOverrun finished deadline interval = if k = 1 then none else some
      { missedDeadlines := k - 1
        overrunSeconds := finished - (deadline + interval) } := by
  by_cases h : k = 1
  · rw [if_pos h]
    apply cycleOverrun_of_le
    rw [h] at hle
    simpa using hle
  · have hbefore := hbefore.resolve_left h
    have hk' : (1 : ℚ) ≤ k - 1 := by
      have hcast : ((2 : ℤ) : ℚ) ≤ k := Int.cast_le.2 (by omega)
      push_cast at hcast
      linarith
    have hmul := mul_le_mul_of_nonneg_right hk' interval.2.le
    have hceil : ⌈(finished - (deadline + interval)) / interval⌉ = k - 1 := by
      rw [Int.ceil_eq_iff, lt_div_iff₀ interval.2, div_le_iff₀ interval.2]
      push_cast
      constructor
      · linarith
      · linarith
    rw [if_neg h, cycleOverrun_of_lt (by linarith), hceil]

/-- What is recorded in the row of the cycle, if it is there. -/
theorem cycles_recordCycleOverrun (ts : Int) (finished deadline interval : ℚ) (db : Database) :
    (recordCycleOverrun ts finished deadline interval db).cycles ts =
      (db.cycles ts).map fun row => row.withOverrun (cycleOverrun finished deadline interval) := by
  cases hrow : db.cycles ts with
  | none =>
    rw [cycles_recordCycleOverrun_of_none hrow, hrow]
    rfl
  | some row =>
    unfold recordCycleOverrun cycleOverrun
    by_cases h : max 0 (finished - (deadline + interval)) ≤ 0
    · rw [if_pos h, if_pos h, hrow]
      rfl
    · simp only [if_neg h, hrow, cycles_insertMetrics, cycles_insertSample, cycles_cycle_self]
      rfl

end Overruns

/-! ## The cycles -/

section Cycles

variable {interval : Interval} {deadline current start : ℚ} {durations : List ℚ}

theorem started_eq (h : current ≤ deadline) :
    (if current < deadline then current + (deadline - current) else current) = deadline := by
  by_cases hlt : current < deadline
  · rw [if_pos hlt]
    ring
  · rw [if_neg hlt]
    exact le_antisymm h (not_lt.1 hlt)

/-- Where the next deadline is not before the clock, the cycle starts at it. -/
theorem cyclesFrom_cons (h : current ≤ deadline) (duration : ℚ) :
    cyclesFrom interval deadline current (duration :: durations) =
      { deadline, started := deadline, finished := deadline + duration } ::
        cyclesFrom interval (nextDeadline interval deadline (deadline + duration)) (deadline + duration) durations := by
  simp only [cyclesFrom, started_eq h]

theorem cyclesFrom_ticks (h : current ≤ deadline) :
    (cyclesFrom interval deadline current durations).map (·.deadline) = schedulerTicks deadline interval durations := by
  induction durations generalizing deadline current with
  | nil => rfl
  | cons duration durations ih =>
    rw [cyclesFrom_cons h, List.map_cons, ih (isLeast_nextDeadline _ _ _).1.2]
    rfl

theorem cyclesFrom_started (h : current ≤ deadline) :
    ∀ tick ∈ cyclesFrom interval deadline current durations, tick.started = tick.deadline := by
  induction durations generalizing deadline current with
  | nil => exact fun _ hmem => nomatch hmem
  | cons duration durations ih =>
    rw [cyclesFrom_cons h, List.forall_mem_cons]
    exact ⟨rfl, ih (isLeast_nextDeadline _ _ _).1.2⟩

theorem cyclesFrom_isChain (h : current ≤ deadline) : (cyclesFrom interval deadline current durations).IsChain
    fun tick tick' => IsLeast {x ∈ laterPoints tick.deadline (interval : ℚ) | tick.finished ≤ x} tick'.deadline := by
  induction durations generalizing deadline current with
  | nil => exact .nil
  | cons duration durations ih =>
    have hleast := isLeast_nextDeadline interval deadline (deadline + duration)
    rw [cyclesFrom_cons h]
    have hchain := ih hleast.1.2
    cases durations with
    | nil => exact .singleton _
    | cons duration' durations =>
      rw [cyclesFrom_cons hleast.1.2] at hchain ⊢
      exact .cons_cons hleast hchain

theorem deadlines_isChain : ((cycles interval start durations).map (·.deadline)).IsChain
    fun x y => y ∈ laterPoints x (interval : ℚ) := by
  rw [List.isChain_map]
  exact (cyclesFrom_isChain le_rfl).imp fun _ _ hleast => hleast.1.1

/-- The deadlines are on the grid of the first one. -/
theorem deadline_mem_grid : ∀ tick ∈ cycles interval start durations, ∃ k : ℕ, tick.deadline = start + k * interval := by
  intro tick hmem
  have hchain : ((cycles interval start durations).map (·.deadline)).IsChain _ := deadlines_isChain
  cases durations with
  | nil => exact nomatch hmem
  | cons duration durations =>
    rw [cycles, cyclesFrom_cons le_rfl] at hmem hchain
    rcases List.mem_cons.1 hmem with rfl | hmem
    · exact ⟨0, by simp⟩
    · exact exists_nat_of_mem_laterPoints (mem_laterPoints_of_isChain hchain (List.mem_map_of_mem hmem))

end Cycles

/-! ## Overruns and deadlines -/

/-- What is recorded of an overrun are the deadlines that the daemon skips, and its cycles are at the first
points of the grid that it can reach, as `scheduler_ticks` has them. -/
theorem overruns_match_scheduler (interval : Interval) :
    (∀ deadline finished : ℚ,
      ((skippedDeadlines interval deadline finished).ncard : ℤ) =
          (cycleOverrun finished deadline interval).elim 0 (·.missedDeadlines) ∧
        (cycleOverrun finished deadline interval = none ↔ skippedDeadlines interval deadline finished = ∅) ∧
        ∀ ts db, (recordCycleOverrun ts finished deadline interval db).cycles ts =
          (db.cycles ts).map fun row => row.withOverrun (cycleOverrun finished deadline interval)) ∧
    ∀ start durations,
      ((cycles interval start durations).map (·.deadline)).Pairwise (· < ·) ∧
        (∀ tick ∈ cycles interval start durations,
          tick.started = tick.deadline ∧ ∃ k : ℕ, tick.deadline = start + k * interval) ∧
        ((cycles interval start durations).IsChain fun tick tick' =>
          IsLeast {x ∈ laterPoints tick.deadline (interval : ℚ) | tick.finished ≤ x} tick'.deadline) ∧
        (cycles interval start durations).map (·.deadline) = schedulerTicks start interval durations := by
  refine ⟨fun deadline finished => ?_, fun start durations => ⟨?_, ?_, ?_, ?_⟩⟩
  · obtain ⟨k, hk, heq, hle, hbefore⟩ := nextDeadline_point interval deadline finished
    have hoverrun := cycleOverrun_eq hk hle hbefore
    have hskipped : skippedDeadlines interval deadline finished =
        {x ∈ laterPoints deadline (interval : ℚ) | x < deadline + k * interval} := by
      rw [← heq]
      rfl
    refine ⟨?_, ?_, fun ts db => cycles_recordCycleOverrun ts finished deadline interval db⟩
    · rw [hskipped, ncard_laterPoints_lt interval.2 hk, hoverrun]
      by_cases h : k = 1
      · rw [if_pos h, h]
        rfl
      · rw [if_neg h]
        rfl
    · rw [hskipped, laterPoints_lt_eq_empty_iff interval.2 hk, hoverrun]
      by_cases h : k = 1
      · simp [h]
      · simp [h]
  · exact pairwise_lt_of_isChain interval.2 deadlines_isChain
  · intro tick hmem
    exact ⟨cyclesFrom_started le_rfl tick hmem, deadline_mem_grid tick hmem⟩
  · exact cyclesFrom_isChain le_rfl
  · exact cyclesFrom_ticks le_rfl

end Monitoring.Daemon
