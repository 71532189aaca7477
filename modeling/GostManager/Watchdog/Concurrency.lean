import GostManager.Effects.Pool
import GostManager.Watchdog.Runs

/-!
# Watchdog: two processes

The daemon and the admin tool are two processes that share the database and nothing else. Here one call
of `process` and one call of `apply` with `enter-keep` run side by side.
-/

namespace Watchdog

open Effects

/-- The two processes. -/
inductive Party where
  | daemon | admin
  deriving DecidableEq, Repr

/-- What both have done, newest first. -/
abbrev SharedHistory : Type := List (Party × (op : Op) × Ans op)

/-- The daemon processes a probe result while an operator enters maintenance. -/
def enteringMaintenance (profile : ManagedProfile) (result : ProbeResult) (processNow applyNow : Int) :
    Pool Party Op Ans Exn ProfileState Database where
  body
    | .daemon => WatchdogEngine.process profile result processNow
    | .admin => MaintenanceController.apply profile .enterKeep applyNow
  answers _ db _ op a db' := answers True db op a db'

/-! ## What a history shows -/

/-- The row that a process has read. -/
def readRow : Trace Op Ans → Option ProfileState
  | ⟨.getState .., state⟩ :: _ => some state
  | _ :: t => readRow t
  | [] => none

/-- A write that commits a row in maintenance. -/
def CommitsMaintenance : ((op : Op) × Ans op) → Prop
  | ⟨.persist state _, .ok ()⟩ => state.maintenance = true
  | _ => False

/-- The process has committed a row in maintenance. -/
def Committed (t : Trace Op Ans) : Prop := ∃ e ∈ t, CommitsMaintenance e

/-- An intent of the watchdog was written after `apply` had committed maintenance. -/
def LateIntent : SharedHistory → Prop
  | (.daemon, ⟨.persist state _, .ok ()⟩) :: h =>
    Committed (trace Party.admin h) ∧ (state.pendingAction = some .stopWatchdog ∨
      state.pendingAction = some .startWatchdog) ∨ LateIntent h
  | _ :: h => LateIntent h
  | [] => False

/-- A row is read. -/
def isRead : ((op : Op) × Ans op) → Bool
  | ⟨.getState .., _⟩ => true
  | _ => false

/-- `apply` has committed maintenance since the daemon read its row. -/
def Overtaken : SharedHistory → Prop
  | (.admin, e) :: h => CommitsMaintenance e ∨ Overtaken h
  | (.daemon, e) :: h => ¬ isRead e ∧ Overtaken h
  | [] => False

/-- A row in maintenance, with no intent to leave it. -/
def ProfileState.Suspended (row : ProfileState) : Prop :=
  row.maintenance = true ∧ row.pendingAction ≠ some .startMaintenance

/-- The daemon works on a row that it read before `apply` committed maintenance, and that was not in
maintenance already. -/
def Stale (h : SharedHistory) : Prop :=
  Overtaken h ∧ ∃ row, readRow (trace Party.daemon h) = some row ∧ ¬ row.Suspended

/-- A write of the daemon is committed. -/
def DaemonWrites : Party → (op : Op) → Ans op → Prop
  | .daemon, .persist _ _, .ok () => True
  | _, _, _ => False

/-- The interleavings in which the daemon does not write while its row is stale. -/
def freshlyEnteringMaintenance (profile : ManagedProfile) (result : ProbeResult)
    (processNow applyNow : Int) : Pool Party Op Ans Exn ProfileState Database where
  body := (enteringMaintenance profile result processNow applyNow).body
  answers i db h op a db' := answers True db op a db' ∧ ¬ (DaemonWrites i op a ∧ Stale h)

/-! ## Schedules -/

instance : (e : (op : Op) × Ans op) → Decidable (CommitsMaintenance e)
  | ⟨.persist .., .ok ()⟩ => inferInstanceAs (Decidable (_ = _))
  | ⟨.persist .., .error _⟩ | ⟨.getState .., _⟩ | ⟨.systemctl .., _⟩ | ⟨.jitter _, _⟩ => isFalse id

instance decidableOvertaken : (h : SharedHistory) → Decidable (Overtaken h)
  | (.admin, _) :: h => @instDecidableOr _ _ _ (decidableOvertaken h)
  | (.daemon, _) :: h => @instDecidableAnd _ _ _ (decidableOvertaken h)
  | [] => isFalse id

instance (row : ProfileState) : Decidable row.Suspended := inferInstanceAs (Decidable (_ ∧ _))

instance (read : Option ProfileState) : Decidable (∃ row, read = some row ∧ ¬ row.Suspended) :=
  inferInstanceAs (Decidable (∃ row ∈ read, ¬ row.Suspended))

instance (h : SharedHistory) : Decidable (Stale h) := inferInstanceAs (Decidable (_ ∧ _))

instance : (i : Party) → (op : Op) → (a : Ans op) → Decidable (DaemonWrites i op a)
  | .daemon, .persist .., .ok () => isTrue trivial
  | .daemon, .persist .., .error _ | .daemon, .getState .., _ | .daemon, .systemctl .., _
  | .daemon, .jitter _, _ | .admin, _, _ => isFalse id

/-- The computed environment, for both processes. -/
def sharedEnvironment (_ : Party) (db : Database) (h : SharedHistory) (op : Op) :
    Option (Ans op × Database) :=
  environment truthful db (h.map fun e => .did e.2.1 e.2.2) op

/-- The same, as long as the daemon does not write a stale row. -/
def freshEnvironment (i : Party) (db : Database) (h : SharedHistory) (op : Op) :
    Option (Ans op × Database) :=
  (sharedEnvironment i db h op).filter fun x => ¬ (DaemonWrites i op x.1 ∧ Stale h)

end Watchdog
