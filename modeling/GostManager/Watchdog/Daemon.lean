import Mathlib.Data.Rat.Floor
import GostManager.Watchdog.Probes
import GostManager.Watchdog.Storage

/-!
# Watchdog: the daemon

`run_cycle` of `gost_watchdog/daemon.py`. A cycle loads the profiles, reconciles them, probes those that
are due, counts the results and sets the next deadlines. What the clocks show and which calls of the
engine raise is left open. The clock is exact here: the rounding of `float` is left out.
-/

namespace Watchdog

open Lists

/-- An error of a cycle: the profile, if it is about one, and the category. -/
abbrev CycleError : Type := Option String × String

/-- What `RuntimeLoader.load` returns. `discover_profiles` finds each profile once and gives its errors
categories that the store takes. -/
structure Loaded where
  profiles : List ManagedProfile
  errors : List CycleError := []
  fallbackInterval : Nat := 2
  profiles_nodup : (profiles.map (·.profileId)).Nodup
  errors_safe : ∀ e ∈ errors, e.2 ∈ safeErrorCategories

/-- `advance_deadline`. -/
def advanceDeadline (previous interval current : ℚ) : ℚ :=
  let deadline := previous + interval
  if deadline > current then deadline
  else
    let missed := ⌊(current - deadline) / interval⌋ + 1
    deadline + missed * interval

/-- The deadlines of a profile from one on, for the readings of the clock after its checks. -/
def deadlines (interval previous : ℚ) : List ℚ → List ℚ
  | [] => [previous]
  | current :: readings => previous :: deadlines interval (advanceDeadline previous interval current) readings

/-- The fields of `WatchdogDaemon` that change from cycle to cycle. `next_due` is a dictionary. -/
structure WatchdogDaemon where
  nextDue : List (String × ℚ) := []
  reportedErrors : List CycleError := []
  nextPrune : ℚ := 0

/-- `next_due.get(profile_id)`. -/
def deadlineOf (nextDue : List (String × ℚ)) (profileId : String) : Option ℚ :=
  (find Prod.fst profileId nextDue).map Prod.snd

/-- What a cycle meets. -/
structure Surroundings where
  /-- The clocks at the start. -/
  monotonicNow : ℚ
  wallNow : Int
  /-- What is loaded, or `ConfigError`. -/
  load : Option Loaded
  /-- The profiles for which `engine.reconcile_pending` raises. -/
  reconcileRaises : String → Bool
  executor : ProbeKey → Except Unit Returned
  /-- What `run_ping_checks` returns. -/
  pings : List ManagedProfile → List (String × ProbeResult)
  pings_run : ∀ due, ∃ calls, RunPingChecks executor due maxPingWorkers calls (some (pings due))
  /-- The profiles for which `engine.process` raises. -/
  processRaises : String → Bool
  /-- The monotonic clock after a profile was processed. -/
  monotonicAfter : String → ℚ

/-- What a cycle does: the calls of `engine.process` and the events it records. -/
structure Cycle where
  daemon : WatchdogDaemon
  processed : List (ManagedProfile × ProbeResult) := []
  events : List WatchdogEvent := []
  /-- The time for which `prune_events` is called. -/
  pruned : Option Int := none
  /-- When the next cycle is due. -/
  deadline : ℚ

/-- `_record_errors`. -/
def recordErrors (reported errors : List CycleError) (now : Int) : List WatchdogEvent :=
  (errors.dedup.filter fun e => e ∉ reported).map fun e =>
    { ts := now, code := .watchdogConfigError, profileId := e.1, errorCategory := some e.2 }

/-- What a raising call of the engine adds to the errors of the cycle. -/
def runtimeError (profileId : String) : CycleError := (some profileId, "runtime_error")

/-- What the loop over the due profiles has done so far. -/
structure Processing where
  nextDue : List (String × ℚ)
  errors : List CycleError
  processed : List (ManagedProfile × ProbeResult) := []

namespace Surroundings

variable (s : Surroundings)

/-- The errors after all profiles were reconciled. -/
def reconciled (loaded : Loaded) : List CycleError :=
  loaded.errors ++
    (loaded.profiles.filter fun profile => s.reconcileRaises profile.profileId).map
      fun profile => runtimeError profile.profileId

/-- `active`: the profiles that are not disabled and did not fail to be reconciled. -/
def active (loaded : Loaded) : List ManagedProfile :=
  loaded.profiles.filter fun profile =>
    profile.config.mode ≠ .disabled ∧ s.reconcileRaises profile.profileId = false

/-- `next_due` without the profiles that are not active. -/
def kept (loaded : Loaded) (nextDue : List (String × ℚ)) : List (String × ℚ) :=
  nextDue.filter fun entry => entry.1 ∈ (s.active loaded).map (·.profileId)

/-- `due`. -/
def due (loaded : Loaded) (nextDue : List (String × ℚ)) : List ManagedProfile :=
  (s.active loaded).filter fun profile =>
    s.monotonicNow ≥ (deadlineOf nextDue profile.profileId).getD s.monotonicNow

/-- One turn of the loop over the due profiles. A result that is missing raises, too. -/
def processProfile (results : List (String × ProbeResult)) (p : Processing) (profile : ManagedProfile) :
    Processing :=
  let result := (find Prod.fst profile.profileId results).map Prod.snd
  let previous := (deadlineOf p.nextDue profile.profileId).getD s.monotonicNow
  { nextDue := store Prod.fst (profile.profileId, advanceDeadline previous
      profile.config.checkIntervalSeconds (s.monotonicAfter profile.profileId)) p.nextDue
    errors :=
      if result = none ∨ s.processRaises profile.profileId then
        p.errors ++ [runtimeError profile.profileId]
      else p.errors
    processed := p.processed ++ (result.map fun result => (profile, result)).toList }

/-- The loop over the due profiles. -/
def processDue (loaded : Loaded) (nextDue : List (String × ℚ)) : Processing :=
  let kept := s.kept loaded nextDue
  let due := s.due loaded kept
  due.foldl (s.processProfile (s.pings due)) { nextDue := kept, errors := s.reconciled loaded }

end Surroundings

/-- `run_cycle`. -/
def WatchdogDaemon.runCycle (d : WatchdogDaemon) (s : Surroundings) : Cycle :=
  match s.load with
  | none =>
    let errors := [(none, "invalid_global_config")]
    { daemon := { d with reportedErrors := errors }
      events := recordErrors d.reportedErrors errors s.wallNow
      deadline := s.monotonicNow + 2 }
  | some loaded =>
    let p := s.processDue loaded d.nextDue
    let prunes := s.monotonicNow ≥ d.nextPrune
    { daemon :=
        { nextDue := p.nextDue
          reportedErrors := p.errors
          nextPrune := if prunes then s.monotonicNow + 60 else d.nextPrune }
      processed := p.processed
      events := recordErrors d.reportedErrors p.errors s.wallNow
      pruned := if prunes then some s.wallNow else none
      deadline := ((p.nextDue.map Prod.snd).min?).getD (s.monotonicNow + loaded.fallbackInterval) }

/-- The daemon after some cycles, newest first. -/
def daemonAfter : List Surroundings → WatchdogDaemon
  | [] => {}
  | s :: before => ((daemonAfter before).runCycle s).daemon

/-- The errors that are present in the newest of some cycles: that the configuration cannot be loaded, or
the errors of the loader and of the calls of the engine. -/
def Present : List Surroundings → CycleError → Prop
  | [], _ => False
  | s :: before, e =>
    match s.load with
    | none => e = (none, "invalid_global_config")
    | some loaded => e ∈ loaded.errors ∨ ∃ profile ∈ loaded.profiles,
        e = runtimeError profile.profileId ∧
          (s.reconcileRaises profile.profileId = true ∨ s.processRaises profile.profileId = true ∧
            profile ∈ ((daemonAfter before).runCycle s).processed.map Prod.fst)

end Watchdog
