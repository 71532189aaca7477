import GostManager.Watchdog.ModeChange

/-!
# Watchdog: `set-mode` by itself

What `command_set_mode` works on when nothing else runs: the database and the profile file. What
`systemctl` answers is left open, writes to the database and to the file may fail, and the operations are
recorded.
-/

namespace Watchdog

open Effects

/-- The database and the profile as its files say. -/
structure ModeFiles where
  db : Database
  profile : ManagedProfile

namespace ModeFiles

/-- The profile file is written. -/
def setMode (files : ModeFiles) (mode : Mode) : ModeFiles :=
  { files with profile := { files.profile with config := { files.profile.config with mode } } }

/-- How operations are answered. -/
def answers (files : ModeFiles) : (op : ModeOp) → ModeAns op → ModeFiles → Prop
  | .engine op, a, files' => ∃ db, Watchdog.answers True files.db op a db ∧ files' = { files with db }
  | .loadProfile, found, files' => (found = none ∨ found = some files.profile) ∧ files' = files
  | .writeMode mode, .ok (), files' => files' = files.setMode mode
  | .writeMode _, .error _, files' => files' = files

/-- The same, with a record of the operations, newest first. -/
def contract : Prog.Contract ModeOp ModeAns (ModeFiles × Trace ModeOp ModeAns) where
  answers s op a s' := s.1.answers op a s'.1 ∧ s'.2 = ⟨op, a⟩ :: s.2
  guard _ _ := True

/-- A command ends: its outcome, what it has made of the files, and its operations. -/
def Ends (files : ModeFiles) (p : ModeAction Nat) (r : Except AdminExn Nat) (files' : ModeFiles)
    (t : Trace ModeOp ModeAns) : Prop :=
  Prog.Steps contract.answers (p, (files, [])) (.done r, (files', t))

end ModeFiles

/-- The operation is a command for a unit. -/
def ModeOp.commands : ModeOp → Bool
  | .engine (.systemctl verb _) => verb != .isActive
  | _ => false

/-- The service was left alone. -/
def Untouched (t : Trace ModeOp ModeAns) : Prop := ∀ e ∈ t, e.1.commands = false

/-- The service was seen to run. -/
def Verified (serviceName : String) (t : Trace ModeOp ModeAns) : Prop :=
  ⟨.engine (.systemctl .isActive serviceName), some 0⟩ ∈ t

/-- The profile was found, and the profile file could be written. -/
def FilesWork (t : Trace ModeOp ModeAns) : Prop :=
  ∀ e ∈ t, e ≠ ⟨.loadProfile, none⟩ ∧ ∀ mode exn, e ≠ ⟨.writeMode mode, .error exn⟩

/-- The row says that the unit is healthy, by a check that was successful and is fresh. -/
structure FreshlyHealthy (row : ProfileState) (config : ProfileConfig) (now : Int) : Prop where
  healthState : row.healthState = .healthy
  checkStatus : row.checkStatus = .probed .success
  lastCheckAt : ∃ checked, row.lastCheckAt = some checked ∧ checked ≤ now ∧
    now - checked ≤ max 10 ((config.checkIntervalSeconds : Int) * 2)

/-- The watchdog has let go of the unit. -/
structure Released (row : ProfileState) : Prop where
  stoppedByWatchdog : row.stoppedByWatchdog = false
  manualOverride : row.manualOverride = false
  pendingAction : row.pendingAction = none

/-! ## Files that compute their answers -/

/-- Writes succeed, and the unit runs once it is started. -/
def ModeFiles.respond (files : ModeFiles) (t : Trace ModeOp ModeAns) : (op : ModeOp) → ModeAns op × ModeFiles
  | .engine (.getState profileId serviceName kharejIp) =>
    (files.db.getState profileId serviceName kharejIp, files)
  | .engine (.persist state events) =>
    match files.db.persist state events with
    | .ok db => (.ok (), { files with db })
    | .error e => (.error e, files)
  | .engine (.systemctl .isActive _) => (truthful (t.any (·.1.commands)), files)
  | .engine (.systemctl _ _) => (some 0, files)
  | .engine (.jitter _) => (0, files)
  | .loadProfile => (some files.profile, files)
  | .writeMode mode => (.ok (), files.setMode mode)

/-- The same with the record. -/
def ModeFiles.oracle (s : ModeFiles × Trace ModeOp ModeAns) (op : ModeOp) :
    ModeAns op × ModeFiles × Trace ModeOp ModeAns :=
  ((s.1.respond s.2 op).1, (s.1.respond s.2 op).2, ⟨op, (s.1.respond s.2 op).1⟩ :: s.2)

/-- The watchdog has stopped the unit of a profile that is healthy again. -/
def ownedFiles : ModeFiles where
  db := Database.empty.saveState
    { profileId := "iran-1"
      serviceName := "gost-iran-1.service"
      kharejIp := "192.0.2.1"
      healthState := .healthy
      stoppedByWatchdog := true
      lastCheckAt := some 100
      checkStatus := .probed .success }
  profile := nervousProfile

end Watchdog
