import GostManager.Effects.Executor
import GostManager.Lists.Dictionary
import GostManager.Lists.Groups
import GostManager.Watchdog.Models

/-!
# Watchdog: sharing probes

`run_ping_checks` of `gost_watchdog/commands.py`. Profiles with the same destination and timeout share
one probe. The probes run on a thread pool, so they are finished in any order. What the executor of the
probes does with a destination is left open; its exceptions are those of the class `Exception`.
-/

namespace Watchdog

open Effects Lists

/-- The destination and the timeout of a probe. -/
abbrev ProbeKey : Type := String × Nat

/-- `(profile.kharej_ip, profile.config.ping_timeout_seconds)`. -/
def ManagedProfile.probeKey (profile : ManagedProfile) : ProbeKey :=
  (profile.kharejIp, profile.config.pingTimeoutSeconds)

/-- What an executor may return. -/
inductive Returned where
  | probeResult (result : ProbeResult)
  | bool (ok : Bool)
  /-- A value of another type. -/
  | other
  deriving DecidableEq

/-- `_normalize_probe_result`. -/
def normalizeProbeResult : Returned → ProbeResult
  | .probeResult result => result
  | .bool ok => ok
  | .other => .probeError "ping_execution_failed"

/-- `_normalize_probe_result(future.result())`, or the result for an exception. -/
def probeResultOf {ε : Type} : Except ε Returned → ProbeResult
  | .ok value => normalizeProbeResult value
  | .error _ => .probeError "ping_execution_failed"

/-- `MAX_PING_WORKERS`. -/
def maxPingWorkers : Nat := 32

/-- `max(1, min(max_workers, MAX_PING_WORKERS, len(by_probe)))`. -/
def pingWorkers (maxWorkers : Int) (probes : Nat) : Nat := max 1 (min maxWorkers.toNat (min maxPingWorkers probes))

/-- The profiles that are not disabled. -/
def activeProfiles (profiles : List ManagedProfile) : List ManagedProfile :=
  profiles.filter fun profile => profile.config.mode ≠ .disabled

/-- `by_probe`. -/
def byProbe (profiles : List ManagedProfile) : List (ProbeKey × List ManagedProfile) :=
  groups ManagedProfile.probeKey (activeProfiles profiles)

section RunPingChecks

variable {ε : Type} (executor : ProbeKey → Except ε Returned)

/-- `probe_results`, when the futures of these probes were completed. -/
def probeResults (completed : List ProbeKey) : ProbeKey → Option ProbeResult :=
  storeAll id (fun key => probeResultOf (executor key)) completed fun _ => none

/-- The mapping that is returned, unless a result is missing. -/
def resultsOf (profiles : List ManagedProfile) (results : ProbeKey → Option ProbeResult) :
    Option (List (String × ProbeResult)) := do
  let pairs ← (activeProfiles profiles).mapM fun profile =>
    (results profile.probeKey).map (profile.profileId, ·)
  return dictionary Prod.fst pairs

/-- `run_ping_checks`: which probes the executor is called for, and what is returned. -/
inductive RunPingChecks (profiles : List ManagedProfile) (maxWorkers : Int) :
    List ProbeKey → Option (List (String × ProbeResult)) → Prop where
  | none (h : byProbe profiles = []) : RunPingChecks profiles maxWorkers [] (some [])
  | run {s : Executor.State ProbeKey} (h : byProbe profiles ≠ [])
      (hr : Executor.Reachable (pingWorkers maxWorkers (byProbe profiles).length)
        ((byProbe profiles).map Prod.fst) s)
      (hd : s.Done) :
      RunPingChecks profiles maxWorkers s.started
        (resultsOf profiles (probeResults executor s.collected))

end RunPingChecks

end Watchdog
