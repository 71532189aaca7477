import Mathlib.Algebra.Order.Ring.Rat
import Mathlib.Tactic.Linarith
import Mathlib.Tactic.FieldSimp
import GostManager.Monitoring.Daemon
import GostManager.Numbers.Grids

/-!
# Monitoring: the deadlines of the daemon

`scheduler_ticks`, the loop of `run_daemon` and what `record_cycle_overrun` counts, of `monitoring/scheduler.py`,
in exact arithmetic. How a cycle ends makes no difference to the deadlines.
-/

namespace Monitoring.Daemon

open Numbers

/-- The interval of the cycles. -/
abbrev Interval : Type := {seconds : ℚ // 0 < seconds}

/-- The loop `while deadline < current`. -/
def catchUp (interval : Interval) (deadline current : ℚ) : ℚ :=
  if deadline < current then catchUp interval (deadline + interval) current else deadline
termination_by ⌈(current - deadline) / interval⌉.toNat
decreasing_by
  rename_i h
  have hpos : 0 < (current - deadline) / interval := div_pos (by linarith) interval.2
  have hceil : 0 < ⌈(current - deadline) / interval⌉ := Int.ceil_pos.2 hpos
  have hsub : (current - (deadline + interval)) / interval = (current - deadline) / interval - 1 := by
    have hne := interval.2.ne'
    field_simp
    ring
  rw [hsub, Int.ceil_sub_one]
  omega

/-- `scheduler_ticks`. -/
def schedulerTicks (deadline : ℚ) (interval : Interval) : List ℚ → List ℚ
  | [] => []
  | duration :: durations =>
    let finish := deadline + duration
    deadline :: schedulerTicks (catchUp interval (deadline + interval) finish) interval durations

/-- A cycle of `run_daemon`: its deadline, and the clock before and after it. -/
structure Tick where
  deadline : ℚ
  started : ℚ
  finished : ℚ

/-- The next deadline of `run_daemon`. -/
def nextDeadline (interval : Interval) (deadline current : ℚ) : ℚ :=
  catchUp interval (deadline + interval) current

/-- The cycles of `run_daemon` from a deadline on, which last for some durations. It sleeps if the deadline is
not reached, and wakes exactly at the deadline. -/
def cyclesFrom (interval : Interval) (deadline current : ℚ) : List ℚ → List Tick
  | [] => []
  | duration :: durations =>
    let started := if current < deadline then current + (deadline - current) else current
    let finished := started + duration
    { deadline, started, finished } :: cyclesFrom interval (nextDeadline interval deadline finished) finished durations

/-- The cycles of `run_daemon`. -/
def cycles (interval : Interval) (start : ℚ) (durations : List ℚ) : List Tick :=
  cyclesFrom interval start start durations

/-- The deadlines that `run_daemon` skips. -/
def skippedDeadlines (interval : Interval) (deadline current : ℚ) : Set ℚ :=
  {x ∈ laterPoints deadline interval | x < nextDeadline interval deadline current}

/-- What `record_cycle_overrun` records of an overrun. -/
structure Overrun where
  missedDeadlines : Int
  overrunSeconds : ℚ

/-- The overrun that `record_cycle_overrun` finds, if any. -/
def cycleOverrun (finished deadline interval : ℚ) : Option Overrun :=
  let overrunSeconds := max 0 (finished - (deadline + interval))
  if overrunSeconds ≤ 0 then none
  else some { missedDeadlines := if 0 < interval then ⌈overrunSeconds / interval⌉ else 0, overrunSeconds }

/-- The row of a cycle with its overrun. -/
def CycleRow.withOverrun (row : CycleRow) : Option Overrun → CycleRow
  | none => row
  | some overrun =>
    { row with
      overrun := true
      missedDeadlines := overrun.missedDeadlines
      overrunSeconds := overrun.overrunSeconds }

end Monitoring.Daemon
