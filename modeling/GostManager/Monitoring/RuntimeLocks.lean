import GostManager.Effects.Locks
import GostManager.Monitoring.Purges

/-!
# Monitoring: the runtime lock

`monitoring/runtime_lock.py`, and the two kinds of processes that work under the lock: the collector (`main` of
`monitoring/gost_monitoring.py`) and the purge (`purge-history` of `monitoring/admin_cli.py`). Any number of them run
side by side, and each may be killed at any time. The system drops the lock of a file when the file is closed, and
closes the files of a process that is gone.
-/

namespace Monitoring.RuntimeLocks

open Administration Monitoring.Configuration Effects Purges Texts

/-! ## Operations -/

/-- The steps on the lock file that may fail. -/
inductive LockStep where
  | mkdir | chmodParent | openFile | fstat | fchmod | truncate | fsync
  | write (text : Text)

/-- The operations of a process of the host, beside those on the lock. A collector changes the database by its
transactions. -/
inductive HostOp where
  | lockFile (step : LockStep)
  | isDirectory | isSymlink | isRegular
  | purge (op : PurgeOp)
  | collect

/-- Their answers. -/
abbrev HostAns : HostOp → Type
  | .lockFile _ => Except StepException Unit
  | .isDirectory | .isSymlink | .isRegular => Bool
  | .purge op => PurgeAns op
  | .collect => Except StepException Unit

/-- The exceptions of a process. -/
inductive HostException where
  | runtimeLockError (message : String)
  | step (exception : StepException)
  | purge (exception : PurgeException)

/-- Why a lock is not taken: `BlockingIOError`, or another exception. -/
inductive Refusal where
  | busy
  | failed (exception : StepException)

/-- A part of a process. -/
abbrev Work (α : Type) : Type := Prog (LockOp HostOp) (LockOp.Ans HostAns Refusal) HostException α

/-- An operation that cannot fail. -/
def ask (op : HostOp) : Work (HostAns op) := Prog.perform (LockOp.other op)

/-- A step on the lock file. -/
def lockStep (s : LockStep) : Work Unit := do
  match ← (ask (.lockFile s) : Work (Except StepException Unit)) with
  | .ok () => pure ()
  | .error e => .raise (.step e)

/-- `try: p except OSError: raise RuntimeLockError(message)`. -/
def orRefuse (p : Work Unit) (message : String) : Work Unit :=
  p.handle fun
    | .step e => if e.isOsError then .raise (.runtimeLockError message) else .raise (.step e)
    | e => .raise e

/-- What an operation on the lock raises. -/
def Refusal.exception : Refusal → HostException
  | .busy => .runtimeLockError "monitoring collector or admin operation is busy"
  | .failed e => .step e

/-- `fcntl.flock(descriptor, fcntl.LOCK_EX | fcntl.LOCK_NB)`. -/
def flock : Work Unit := do
  match ← (Prog.perform LockOp.take : Work (Except Refusal Unit)) with
  | .ok () => pure ()
  | .error refusal => .raise refusal.exception

/-- `fcntl.flock(descriptor, fcntl.LOCK_UN)`, and also `os.close(descriptor)`. -/
def unlock : Work Unit := do
  match ← (Prog.perform LockOp.drop : Work (Except Refusal Unit)) with
  | .ok () => pure ()
  | .error .busy => .raise (.step .os)
  | .error (.failed e) => .raise (.step e)

/-! ## `RuntimeLock` -/

variable (fs : FileSystem) (path : PurePath) (pid : Nat)

/-- `_validate_parent`. -/
def validateParent : Work Unit :=
  if path.isAbsolute = false then .raise (.runtimeLockError "runtime lock path must be absolute")
  else if (((List.range path.names.length).drop 1).map path.take).any fs.isSymlink = true then
    .raise (.runtimeLockError "runtime lock path may not traverse a symlink")
  else do
    orRefuse (lockStep .mkdir) "runtime lock directory is unavailable"
    let directory ← (ask .isDirectory : Work Bool)
    if directory = false then .raise (.runtimeLockError "runtime lock directory is unsafe")
    else orRefuse (lockStep .chmodParent) "runtime lock directory cannot be made private"

/-- What is written into the lock file. -/
def pidText : Text := Nat.toDigits 10 pid ++ ['\n']

/-- The `try` block of `acquire`. -/
def claim : Work Unit := do
  lockStep .fstat
  let regular ← (ask .isRegular : Work Bool)
  if regular = false then .raise (.runtimeLockError "runtime lock must be a regular file")
  else do
    lockStep .fchmod
    flock
    lockStep .truncate
    lockStep (.write (pidText pid))
    lockStep .fsync

/-- `acquire`. -/
def acquire : Work Unit := do
  validateParent fs path
  let symlink ← (ask .isSymlink : Work Bool)
  if symlink = true then .raise (.runtimeLockError "runtime lock file may not be a symlink")
  else do
    orRefuse (lockStep .openFile) "runtime lock file is unsafe or unavailable"
    (claim pid).handle fun e => do
      unlock
      .raise e

/-- `release`. -/
def release : Work Unit := unlock.andFinally unlock

/-- `with RuntimeLock(path): p`. -/
def withRuntimeLock (p : Work Unit) : Work Unit := do
  acquire fs path pid
  p.andFinally release

/-! ## The processes -/

/-- What a process does under the lock. The runs of a collector differ in how many transactions they make. -/
inductive Role where
  | collector (transactions : Nat)
  | purge (failPhase : Option String) (located : Admin PurePath)

/-- `execute` of the collector. -/
def execute : Nat → Work Unit
  | 0 => pure ()
  | n + 1 => do
    match ← (ask .collect : Work (Except StepException Unit)) with
    | .ok () => execute n
    | .error e => .raise (.step e)

/-- `purge_history`, as a part of a process. -/
def purgeWork (failPhase : Option String) (located : Admin PurePath) : Work Unit := do
  match ← ((purgeHistory failPhase located).embed (fun op => LockOp.other (.purge op)) fun _ a => a :
      Work (Except PurgeException Unit)) with
  | .ok () => pure ()
  | .error e => .raise (.purge e)

/-- `_optional_lock` raises another exception for a lock that is not taken. -/
def optionalLockError : HostException → HostException
  | .runtimeLockError message => .purge (.admin (.unsafeError message))
  | e => e

/-- A process. -/
def Role.work : Role → Work Unit
  | .collector transactions => withRuntimeLock fs path pid (execute transactions)
  | .purge failPhase located =>
    (withRuntimeLock fs path pid (purgeWork failPhase located)).handle fun e => .raise (optionalLockError e)

/-! ## The host -/

variable {δ : Type}

/-- The directory of the database, and the text of the lock file. -/
structure Host (δ : Type) where
  dir : Directory δ
  text : Text

/-- What a collector leaves: a database, and all other files as they were. -/
structure Collects (dir dir' : Directory δ) : Prop where
  elsewhere : ∀ name, name.temporary ≠ none → dir' name = dir name
  seen : dir'.seen ≠ none

/-- How operations are answered. -/
def answers (layout : Layout δ) (host : Host δ) : (op : HostOp) → HostAns op → Host δ → Prop
  | .lockFile .truncate, .ok (), host' => host' = { host with text := [] }
  | .lockFile (.write text), .ok (), host' => host' = { host with text := text }
  | .lockFile (.write _), .error _, host' => host'.dir = host.dir
  | .lockFile _, _, host' => host' = host
  | .isDirectory, _, host' | .isSymlink, _, host' | .isRegular, _, host' => host' = host
  | .purge op, a, host' => host'.text = host.text ∧ host.dir.answers layout op a host'.dir
  | .collect, _, host' => host'.text = host.text ∧ Collects host.dir host'.dir

/-- The processes, by their ids. -/
def processes (layout : Layout δ) (roles : Nat → Role) :
    Processes Nat HostOp HostAns Refusal HostException Unit (Host δ) where
  body pid := (roles pid).work fs path pid
  answers _ host op a host' := answers layout host op a host'

/-! ## What is asked of the processes -/

/-- An operation on the history. -/
def HostOp.isWork : HostOp → Bool
  | .purge _ | .collect => true
  | _ => false

/-- An operation that needs the lock: what it does others would see. -/
def HostOp.needsLock : HostOp → Bool
  | .lockFile .truncate | .lockFile (.write _) | .purge _ | .collect => true
  | _ => false

/-- A process may change what is read: a collector as it likes, a purge only to nothing, or back to what it has
found. -/
def MayChange (layout : Layout δ) (role : Role) (found now : Directory δ) : Prop :=
  match role with
  | .collector _ => True
  | .purge _ _ => ∃ history, found.seen = some history ∧ Shows layout history now

end Monitoring.RuntimeLocks
