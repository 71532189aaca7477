import Mathlib.Algebra.Ring.Int.Defs
import Mathlib.Data.Int.Range
import Mathlib.Data.List.Sort
import GostManager.Watchdog.Runs

/-!
# Watchdog: the history of outages

`prune_events` and `summary` of `WatchdogStore`, and what they are about: the outages of a profile, as
somebody sees them who looks at its row after every `process`. Positions in the event table stand for
the column `event_id`, which SQLite counts up.
-/

namespace Watchdog

open Effects

/-- `EVENT_RETENTION_SECONDS`. -/
def eventRetentionSeconds : Int := 24 * 60 * 60

/-! ## `prune_events` -/

/-- `SELECT event_id FROM events WHERE ts < ? ORDER BY ts,event_id LIMIT ?`. -/
def oldestIds (batchSize : Nat) (cutoff : Int) (events : List WatchdogEvent) : List Nat :=
  let old := (events.zipIdx.filter fun e => e.1.ts < cutoff).insertionSort fun e e' =>
    e.1.ts < e'.1.ts ∨ e.1.ts = e'.1.ts ∧ e.2 ≤ e'.2
  (old.take batchSize).map (·.2)

/-- One `DELETE` of `prune_events`, with the number of events deleted. -/
def deleteOldest (batchSize : Nat) (cutoff : Int) (events : List WatchdogEvent) :
    List WatchdogEvent × Nat :=
  let ids := oldestIds batchSize cutoff events
  ((events.zipIdx.filter fun e => e.2 ∉ ids).map (·.1), ids.length)

/-- The loop of `prune_events`, which ends with the first batch that is not full. -/
def deleteBatches (batchSize : Nat) (cutoff : Int) :
    Nat → List WatchdogEvent → List WatchdogEvent × Nat
  | 0, events => (events, 0)
  | maxBatches + 1, events =>
    let (kept, count) := deleteOldest batchSize cutoff events
    if count < batchSize then (kept, count)
    else
      let (kept, deleted) := deleteBatches batchSize cutoff maxBatches kept
      (kept, count + deleted)

/-- `prune_events`, with the number of events deleted. -/
def Database.pruneEvents (db : Database) (now : Int)
    (retentionSeconds : Int := eventRetentionSeconds) (batchSize : Nat := 500)
    (maxBatches : Nat := 100) : Database × Nat :=
  let (events, deleted) := deleteBatches batchSize (now - retentionSeconds) maxBatches db.events
  ({ db with events }, deleted)

/-! ## `summary` -/

/-- What `summary` returns. -/
structure Summary where
  outageCount : Nat
  totalDowntimeSeconds : Int
  longestOutageSeconds : Int
  lastOutageAt : Option Int
  automaticStopCount : Nat
  automaticStartCount : Nat
  failedActionCount : Nat
  deriving DecidableEq, Repr

/-- `WHERE profile_id=? AND ts>=? ORDER BY ts`. -/
def Database.eventsSince (db : Database) (profileId : String) (cutoff : Int) : List WatchdogEvent :=
  (db.events.filter fun e => e.profileId = some profileId ∧ cutoff ≤ e.ts).insertionSort
    fun e e' => e.ts ≤ e'.ts

/-- The outage that an event completes, by its duration: from its start on, up to the event. -/
def WatchdogEvent.outage (event : WatchdogEvent) : Option (Int × Int) :=
  if event.code = .watchdogUpstreamHealthy then
    event.outageDuration.map fun duration => (event.ts - max 0 duration, event.ts)
  else none

/-- An outage in the window from `cutoff` up to `now`, unless nothing of it is. -/
def clip (cutoff now : Int) (outage : Int × Int) : Option (Int × Int) :=
  if max cutoff outage.1 < min now outage.2 then some (max cutoff outage.1, min now outage.2) else none

/-- The list `outages` of `summary`: the completed ones, and then the one of the row. -/
def Database.outages (db : Database) (now : Int) (profileId : String) : List (Int × Int) :=
  let cutoff := now - eventRetentionSeconds
  let completed := (db.eventsSince profileId cutoff).filterMap (·.outage)
  let ongoing := (db.rows profileId).bind fun state =>
    state.outageStartedAt.map fun startedAt => (startedAt, now)
  (completed ++ ongoing.toList).filterMap (clip cutoff now)

/-- `summary`. -/
def Database.summary (db : Database) (now : Int) (profileId : String) : Summary :=
  let rows := db.eventsSince profileId (now - eventRetentionSeconds)
  let outages := db.outages now profileId
  let durations := outages.map fun outage => max 0 (outage.2 - outage.1)
  { outageCount := outages.length
    totalDowntimeSeconds := min eventRetentionSeconds durations.sum
    longestOutageSeconds := min eventRetentionSeconds (durations.max?.getD 0)
    lastOutageAt := outages.getLast?.map (·.1)
    automaticStopCount := rows.countP (·.code == .watchdogProfileStopped)
    automaticStartCount := rows.countP (·.code == .watchdogProfileStarted)
    failedActionCount := rows.countP fun row =>
      row.code == .watchdogStopFailed || row.code == .watchdogStartFailed }

/-! ## The outages themselves -/

/-- An outage: its first second, and the second of the healthy transition that completed it, if there
was one. -/
structure Outage where
  startedAt : Int
  completedAt : Option Int
  deriving DecidableEq, Repr

/-- The profile was in this outage during the second `t`. -/
def Outage.covers (outage : Outage) (t : Int) : Bool :=
  outage.startedAt ≤ t && outage.completedAt.all fun completedAt => t < completedAt

/-- The outages of a profile so far: those that are over, and the start of the one that is not. -/
structure OutageHistory where
  completed : List (Int × Int) := []
  startedAt : Option Int := none
  deriving DecidableEq, Repr

namespace OutageHistory

/-- Look at the row after a `process` at the time `now`. An outage begins when the row says so, and is
over when the row is healthy. -/
def observe (history : OutageHistory) (now : Int) (row : Option ProfileState) : OutageHistory :=
  match history.startedAt with
  | none => { history with startedAt := row.bind (·.outageStartedAt) }
  | some startedAt =>
    if row.any (·.healthState == .healthy) then
      { completed := history.completed ++ [(startedAt, now)], startedAt := none }
    else history

/-- All outages so far. -/
def outages (history : OutageHistory) : List Outage :=
  history.completed.map (fun o => ⟨o.1, some o.2⟩) ++
    (history.startedAt.map fun startedAt => ⟨startedAt, none⟩).toList

end OutageHistory

/-- The seconds of the window that `summary` is about. -/
def window (now : Int) : List Int := Int.range (now - eventRetentionSeconds) now

/-- How many seconds of the window have a property. -/
def secondsOf (now : Int) (p : Int → Bool) : Nat := (window now).countP p

/-! ## Calls one after the other -/

/-- The database, the last reading of the clock, and the outages seen. -/
structure Watch where
  db : Database
  clock : Int
  history : OutageHistory := {}

/-- A call of `process` for the profile, which may also raise, or a call of `prune_events`. -/
inductive Watch.Step (profileId : String) : Watch → Watch → Prop where
  | process {watch : Watch} {db' : Database} {profile : ManagedProfile} {result : ProbeResult}
      {now : Int} {r : Except Exn ProfileState} (hp : profile.profileId = profileId)
      (hclock : watch.clock ≤ now)
      (h : Prog.Steps (answers False) (WatchdogEngine.process profile result now, watch.db)
        (.done r, db')) :
      Step profileId watch ⟨db', now, watch.history.observe now (db'.rows profileId)⟩
  | prune {watch : Watch} {now : Int} (hclock : watch.clock ≤ now) :
      Step profileId watch ⟨(watch.db.pruneEvents now).1, now, watch.history⟩

/-- A call of `process` in the computed environment. -/
def Watch.play (profile : ManagedProfile) (result : ProbeResult) (now : Int) (watch : Watch) : Watch :=
  let db' := (Prog.runWhile (fun db => environment truthful db []) toTheEnd
    (WatchdogEngine.process profile result now) watch.db).2
  ⟨db', now, watch.history.observe now (db'.rows profile.profileId)⟩

/-- A profile of which the store knows nothing. -/
structure Database.Unseen (db : Database) (profileId : String) : Prop where
  row : db.rows profileId = none
  events : ∀ event ∈ db.events, event.profileId ≠ some profileId

end Watchdog
