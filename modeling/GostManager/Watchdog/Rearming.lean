import GostManager.Watchdog.Invariants
import GostManager.Watchdog.Runs

/-!
# Watchdog: a unit that only the watchdog commands

The database together with one unit that obeys: queries tell its state, commands work, and nobody but
the watchdog commands it. On such a unit a row should never be taken for the work of an operator.
-/

namespace Watchdog

open Effects

/-- The database and whether the unit runs. -/
@[ext] structure UnitHost where
  db : Database
  running : Bool

namespace UnitHost

/-- How an obedient unit and the database answer. -/
def answers (fails : Prop) (host : UnitHost) : (op : Op) → Ans op → UnitHost → Prop
  | .systemctl .isActive _, code, host' => code = truthful host.running ∧ host' = host
  | .systemctl .stop _, code, host' => code = some 0 ∧ host' = { host with running := false }
  | .systemctl .start _, code, host' => code = some 0 ∧ host' = { host with running := true }
  | op, a, host' => Watchdog.answers fails host.db op a host'.db ∧ host'.running = host.running

/-- The obedient unit as a function: writes succeed, unless the store refuses them, and the jitter is
zero. -/
def obey (host : UnitHost) : (op : Op) → Option (Ans op × UnitHost)
  | .getState profileId serviceName kharejIp =>
    some (host.db.getState profileId serviceName kharejIp, host)
  | .persist state events =>
    match host.db.persist state events with
    | .ok db => some (.ok (), { host with db })
    | .error _ => none
  | .systemctl .isActive _ => some (truthful host.running, host)
  | .systemctl .stop _ => some (some 0, { host with running := false })
  | .systemctl .start _ => some (some 0, { host with running := true })
  | .jitter _ => some (0, host)

end UnitHost

/-- The call takes the stop it owns for one by an operator: the threshold is reached in a row that is
not down, and `_failed_check` goes on to stop a unit that the watchdog has stopped before. -/
def Misreads (profile : ManagedProfile) (result : ProbeResult) (row : ProfileState) : Prop :=
  profile.config.mode = .auto ∧ result = .unreachable ∧ row.pendingAction = none ∧
  row.stoppedByWatchdog = true ∧ row.maintenance = false ∧ row.manualOverride = false ∧
  row.healthState ≠ .down ∧ row.healthState ≠ .recovering ∧
  profile.config.failureThreshold ≤ row.failureCount + 1

instance (profile : ManagedProfile) (result : ProbeResult) (row : ProfileState) :
    Decidable (Misreads profile result row) :=
  inferInstanceAs (Decidable (_ ∧ _ ∧ _ ∧ _ ∧ _ ∧ _ ∧ _ ∧ _ ∧ _))

/-- Between `db` and `db'` no manual override has appeared in the row of a profile, and none of the
events recorded says that an operator has stopped the unit. -/
structure Undisturbed (profileId : String) (db db' : Database) : Prop where
  override : ∀ row' ∈ db'.rows profileId, row'.manualOverride = true →
    ∃ row ∈ db.rows profileId, row.manualOverride = true
  events : NoManualStop (db'.events.drop db.events.length)

/-- A call of `process` that misreads the row it begins with. -/
def Call.Misreads (db : Database) : Call → Prop
  | .process profile result _ => ∃ row ∈ db.rows profile.profileId, Watchdog.Misreads profile result row
  | _ => False

/-- Calls of `process` for one profile on an obedient unit: those that `admits` lets begin. A stop that
cannot be recorded counts as one that fails. -/
def unitCalls (profileId : String) (admits : Database → Call → Prop) :
    Machine Op Ans Exn ProfileState Call Empty UnitHost where
  body := Call.body
  admits host _ c := c.profile.profileId = profileId ∧ admits host.db c ∧
    match c with
    | .process .. => True
    | _ => False
  answers c host h op a host' :=
    host.answers True op a host' ∧ ¬ Compensating c.profile.serviceName (.did op a :: h)
  outside _ x _ := nomatch x
  kills := False

/-- The calls that misread no row. -/
def carefulCalls (profileId : String) : Machine Op Ans Exn ProfileState Call Empty UnitHost :=
  unitCalls profileId fun db c => ¬ c.Misreads db

/-! ## Histories -/

/-- The watchdog finds that the unit was stopped by hand. -/
def stoppedByHand : List Scene :=
  [(.process eagerProfile .unreachable 100, fun _ => some 3, toTheEnd)]

/-- That profile, but only watched. -/
def watchedProfile : ManagedProfile := firstProfile
  { eagerProfile.config with mode := .monitor }

/-- The watchdog stops the unit, and in the mode `monitor` the upstream recovers. -/
def watchedRecovery : List Scene :=
  [(.process eagerProfile .unreachable 100, truthful, toTheEnd),
    (.process watchedProfile .success 102, truthful, toTheEnd)]

/-- The watchdog stops the unit, and its start after the recovery fails. -/
def failedStart : List Scene :=
  [(.process eagerProfile .unreachable 100, truthful, toTheEnd),
    (.process eagerProfile .success 102, fun _ => some 3, toTheEnd)]

end Watchdog
