import Mathlib.Logic.Function.Basic
import GostManager.Effects.Program
import GostManager.Monitoring.Administration

/-!
# Monitoring: purges

`purge_history` of `monitoring/admin_cli.py`, between the lock and its release: the history is replaced by an empty
database, and is put back if something fails on the way. Every step may fail.

Of the directory of the database there are the names that a purge knows. A database in WAL mode is a main file and a
log of commits; each commit stands for the whole database as it leaves it. While a purge runs nobody else writes into
the directory, so a hard link is as good as a copy.
-/

namespace Monitoring.Purges

open Administration Effects Texts

/-! ## Directories -/

/-- `-wal` and `-shm`. -/
inductive Sidecar where
  | wal | shm
  deriving DecidableEq, Repr

/-- A suffix. -/
def Sidecar.suffix : Sidecar → String
  | .wal => "-wal"
  | .shm => "-shm"

/-- A name: of the database, or of a temporary file, or of a sidecar of these. -/
structure Name where
  temporary : Option Nat := none
  sidecar : Option Sidecar := none
  deriving DecidableEq, Repr

/-- The name of the database. -/
def Name.database : Name := {}

/-- The name of a temporary file. -/
def Name.temp (n : Nat) : Name := { temporary := some n }

/-- The name of a sidecar. -/
def Name.beside (name : Name) (sidecar : Sidecar) : Name := { name with sidecar := some sidecar }

/-- What is in a file: the pages of a database, the commits of a log, or neither. -/
inductive Content (δ : Type) where
  | database (db : δ)
  | log (commits : List δ)
  | other

/-- An entry of a directory. -/
inductive Entry (δ : Type) where
  | regular (content : Content δ)
  | symlink
  | special

/-- What there is under the names. -/
abbrev Directory (δ : Type) : Type := Name → Option (Entry δ)

variable {δ : Type}

/-- The commits of a log. There are none in anything else. -/
def Entry.commits : Entry δ → List δ
  | .regular (.log commits) => commits
  | _ => []

namespace Directory

variable (dir dir' : Directory δ)

/-- The main file. -/
def main : Option δ :=
  match dir .database with
  | some (.regular (.database db)) => some db
  | _ => none

/-- The commits that are not yet in the main file. -/
def commits : List δ := ((dir (Name.database.beside .wal)).map Entry.commits).getD []

/-- The database as it is read: as the last commit has left it. -/
def seen : Option δ := dir.main.map fun db => dir.commits.getLast?.getD db

/-- What a connection that writes nothing may do: the log goes to the main file, in part or as a whole. -/
structure Settles : Prop where
  elsewhere : ∀ name, name.temporary ≠ none → dir' name = dir name
  main : ∀ db, dir.main = some db → ∃ db', dir'.main = some db' ∧
    (dir'.commits = dir.commits ∧ (dir.commits = [] → db' = db) ∨
      dir'.commits = [] ∧ db' = dir.commits.getLast?.getD db)

/-- What a connection to a temporary file may do: anything to this file and its sidecars, but make no links of
them. -/
structure Touches (n : Option Nat) : Prop where
  elsewhere : ∀ name, name.temporary ≠ n → dir' name = dir name
  regular : ∀ name, dir' name = dir name ∨ dir' name = none ∨ ∃ content, dir' name = some (.regular content)

end Directory

/-! ## Exceptions -/

/-- The exceptions of a step: of SQLite, of the system, or others of class `Exception`. -/
inductive StepException where
  | locked | operational | database | permission | os | other
  deriving DecidableEq, Repr

/-- `sqlite3.DatabaseError`. -/
def StepException.isDatabaseError (e : StepException) : Bool := e ∈ [.locked, .operational, .database]

/-- `OSError`. -/
def StepException.isOsError (e : StepException) : Bool := e ∈ [.permission, .os]

/-- The exceptions of a purge. -/
inductive PurgeException where
  | admin (exception : AdminException)
  | injected (phase : String)
  | step (exception : StepException)
  /-- `history purge rollback could not be verified; preserve recovery file …`, with the file that is named. -/
  | unverified (diagnostic : Option Nat) (rollbackError : PurgeException)

/-! ## Steps -/

/-- The tables that an empty history has no rows in. -/
inductive HistoryTable where
  | events | sampleCycles | metricPoints | minuteRollups
  deriving DecidableEq, Repr

/-- The tables in the order in which they are looked at. -/
def HistoryTable.all : List HistoryTable := [.events, .sampleCycles, .metricPoints, .minuteRollups]

/-- The steps that may fail. A connection is immutable, or it may write. -/
inductive PurgeStep where
  | stat | chmod | chown | closeDescriptor
  | connect (name : Name) (immutable : Bool)
  | migrate (n : Nat)
  | fsync (name : Option Name)
  | unlink (name : Name)
  | link (source destination : Name)
  | replace (source destination : Name)

/-- The steps that may fail, and give a number. -/
inductive PurgeQuery where
  | version (name : Name) (immutable : Bool)
  | count (name : Name) (table : HistoryTable)
  | checkpoint (name : Name)
  /-- `tempfile.mkstemp`. -/
  | reserve

/-- The operations. -/
inductive PurgeOp where
  | step (step : PurgeStep)
  | query (query : PurgeQuery)
  | close (name : Name) (immutable : Bool)
  | isThere (name : Name)
  | isSymlink (name : Name)
  | isFile (name : Name)
  | isSuperuser

/-- Their answers. -/
abbrev PurgeAns : PurgeOp → Type
  | .step _ => Except StepException Unit
  | .query _ => Except StepException Nat
  | .close _ _ => Unit
  | .isThere _ | .isSymlink _ | .isFile _ | .isSuperuser => Bool

abbrev Purge (α : Type) : Type := Prog PurgeOp PurgeAns PurgeException α

/-- A step. -/
def step (s : PurgeStep) : Purge Unit := do
  match ← (Prog.perform (PurgeOp.step s) : Purge (Except StepException Unit)) with
  | .ok () => pure ()
  | .error e => .raise (.step e)

/-- A step that gives a number. -/
def query (q : PurgeQuery) : Purge Nat := do
  match ← (Prog.perform (PurgeOp.query q) : Purge (Except StepException Nat)) with
  | .ok n => pure n
  | .error e => .raise (.step e)

/-- Close a connection. -/
def close (name : Name) (immutable : Bool) : Purge Unit := Prog.perform (PurgeOp.close name immutable)

def isThere (name : Name) : Purge Bool := Prog.perform (PurgeOp.isThere name)

def isSymlink (name : Name) : Purge Bool := Prog.perform (PurgeOp.isSymlink name)

def isFile (name : Name) : Purge Bool := Prog.perform (PurgeOp.isFile name)

def isSuperuser : Purge Bool := Prog.perform PurgeOp.isSuperuser

/-- Do something for each of a list. -/
def forEach {β : Type} (f : β → Purge Unit) : List β → Purge Unit
  | [] => pure ()
  | b :: bs => do
    f b
    forEach f bs

/-! ## Parts of a purge -/

/-- The aliases of `_inject_failure`. -/
def selectedPhase : String → String
  | "after_create" => "after_replacement_create"
  | "after_backup" => "after_backup_link"
  | "after_replace" => "after_atomic_replace"
  | phase => phase

/-- `_inject_failure`. -/
def injectFailure (failPhase : Option String) (phase : String) : Purge Unit :=
  if failPhase.map selectedPhase = some phase then .raise (.injected phase) else pure ()

/-- `_require_schema`. -/
def requireSchema (name : Name) (immutable : Bool) : Purge Unit := do
  let version ← (query (.version name immutable)).handle fun
    | .step e =>
      if e.isDatabaseError then .raise (.admin (.databaseError "monitoring database is corrupt or unsupported"))
      else .raise (.step e)
    | e => .raise e
  if version ≠ 4 then
    .raise (.admin (.databaseError s!"unsupported monitoring schema version {version}"))
  else pure ()

/-- Open a connection, and close it at the end. -/
def connected {α : Type} (name : Name) (immutable : Bool) (p : Purge α) : Purge α := do
  step (.connect name immutable)
  p.andFinally (close name immutable)

/-- The handlers of `_checkpoint_for_purge`. -/
def checkpointError : PurgeException → PurgeException
  | .step .locked => .admin (.unsafeError "monitoring database checkpoint is busy")
  | .step .operational | .step .database => .admin (.databaseError "monitoring database checkpoint failed")
  | e => e

/-- `_checkpoint_for_purge`. -/
def checkpointForPurge : Purge Unit := do
  let busy ← (connected .database false do
    requireSchema .database false
    query (.checkpoint .database)).handle fun e => .raise (checkpointError e)
  if busy ≠ 0 then .raise (.admin (.unsafeError "monitoring database checkpoint is busy")) else pure ()

/-- The handlers of `_validate_empty_database`. -/
def validationError : PurgeException → PurgeException
  | .step e => if e.isDatabaseError then .admin (.databaseError "replacement database validation failed") else .step e
  | e => e

/-- One table of `_validate_empty_database`. -/
def requireNoRows (name : Name) (table : HistoryTable) : Purge Unit := do
  let count ← query (.count name table)
  if count ≠ 0 then .raise (.admin (.databaseError "replacement database is not empty")) else pure ()

/-- `_validate_empty_database`. -/
def validateEmptyDatabase (name : Name) : Purge Unit :=
  (connected name true do
    requireSchema name true
    forEach (requireNoRows name) HistoryTable.all).handle fun e => .raise (validationError e)

/-- `if path.exists() and not path.is_symlink(): path.unlink()`. -/
def unlinkThere (name : Name) : Purge Unit := do
  if ← isThere name then
    if ← isSymlink name then pure () else step (.unlink name)
  else pure ()

/-- `os.chown`, which only the superuser has to be allowed. -/
def chown : Purge Unit :=
  (step .chown).handle fun
    | .step .permission => do if ← isSuperuser then .raise (.step .permission) else pure ()
    | e => .raise e

/-- The `try` block of `_create_replacement`. -/
def fillReplacement (n : Nat) : Purge Unit := do
  step (.migrate n)
  requireSchema (.temp n) false
  let _ ← query (.checkpoint (.temp n))
  close (.temp n) false
  forEach (fun sidecar => unlinkThere ((Name.temp n).beside sidecar)) [.wal, .shm]
  step .chmod
  chown

/-- `_create_replacement`. -/
def createReplacement : Purge Nat := do
  let n ← query .reserve
  step .closeDescriptor
  (fillReplacement n).handle fun e => do
    forEach unlinkThere [.temp n, (Name.temp n).beside .wal, (Name.temp n).beside .shm]
    .raise e
  pure n

/-- `_reserve_unique_path`. -/
def reserveUniquePath : Purge Nat := do
  let n ← query .reserve
  step .closeDescriptor
  step (.unlink (.temp n))
  pure n

/-- `_hard_link`. -/
def hardLink (source : Name) : Purge Nat := do
  let n ← reserveUniquePath
  (step (.link source (.temp n))).handle fun
    | .step e =>
      if e.isOsError then
        .raise (.admin (.unsafeError "history purge requires same-filesystem hard-link backup support"))
      else .raise (.step e)
    | e => .raise e
  pure n

/-- `_unlink_regular`, of a sidecar of the database at a path. -/
def unlinkRegular (path : Text) (sidecar : Sidecar) : Purge Unit := do
  let name := Name.database.beside sidecar
  if ← isSymlink name then
    .raise (.admin (.unsafeError
      s!"refusing symlink during history purge: {String.ofList path}{sidecar.suffix}"))
  else if ← isThere name then step (.unlink name)
  else pure ()

/-! ## The purge -/

/-- The variables of the `try` statement. -/
structure Held where
  replacement : Option Nat := none
  recovery : Option Nat := none
  backup : Option Nat := none
  sidecars : List (Sidecar × Nat) := []
  replaced : Bool := false

/-- A part of the `try` block: an exception comes with the variables. -/
abbrev Holding (α : Type) : Type := Prog PurgeOp PurgeAns (PurgeException × Held) α

/-- A part while the variables are so. -/
def holding {α : Type} (held : Held) (p : Purge α) : Holding α := do
  match ← (p.embed id fun _ a => a : Holding (Except PurgeException α)) with
  | .ok a => pure a
  | .error e => .raise (e, held)

/-- One sidecar of the database is linked, if it is there. -/
def linkSidecar (sidecar : Sidecar) : Purge (Option Nat) := do
  let name := Name.database.beside sidecar
  if ← isThere name then
    let symlink ← isSymlink name
    let file ← isFile name
    if symlink = true ∨ file = false then
      .raise (.admin (.unsafeError "monitoring sidecar path is unsafe"))
    else do
      let n ← hardLink name
      pure (some n)
  else pure none

/-- The links of the sidecars. -/
def linkSidecars : Held → List Sidecar → Holding Held
  | held, [] => pure held
  | held, sidecar :: sidecars => do
    match ← holding held (linkSidecar sidecar) with
    | some n => linkSidecars { held with sidecars := held.sidecars ++ [(sidecar, n)] } sidecars
    | none => linkSidecars held sidecars

variable (path : Text) (failPhase : Option String)

/-- The `try` block until the replacement is put in place. -/
def prepare : Holding Held := do
  let n ← holding {} createReplacement
  let held : Held := { replacement := some n }
  holding held do
    injectFailure failPhase "after_replacement_create"
    validateEmptyDatabase (.temp n)
    injectFailure failPhase "after_replacement_validate"
    step (.fsync (some (.temp n)))
    injectFailure failPhase "after_replacement_fsync"
  let recovery ← holding held (hardLink .database)
  let held := { held with recovery := some recovery }
  let backup ← holding held (hardLink .database)
  let held ← linkSidecars { held with backup := some backup } [.wal, .shm]
  holding held do
    injectFailure failPhase "after_backup_link"
    step (.replace (.temp n) .database)
  pure { held with replacement := none, replaced := true }

/-- The `try` block while the recovery file can be put back. -/
def conclude (held : Held) : Holding Held := do
  holding held do
    injectFailure failPhase "after_atomic_replace"
    step (.fsync none)
    validateEmptyDatabase .database
    injectFailure failPhase "after_replacement_validation"
    unlinkRegular path .wal
    injectFailure failPhase "after_wal_cleanup"
    unlinkRegular path .shm
    injectFailure failPhase "after_shm_cleanup"
    step (.fsync none)
    injectFailure failPhase "after_first_directory_fsync"
    forEach (fun backup => step (.unlink (.temp backup))) held.backup.toList
  let held := { held with backup := none }
  holding held do
    injectFailure failPhase "after_backup_deletion"
    step (.fsync none)
    injectFailure failPhase "after_final_directory_fsync"
    forEach (fun recovery => step (.unlink (.temp recovery))) held.recovery.toList
  pure { held with recovery := none }

/-- `if saved.exists(): saved.unlink()`. -/
def unlinkSaved (saved : Sidecar × Nat) : Purge Unit := do
  if ← isThere (.temp saved.2) then step (.unlink (.temp saved.2)) else pure ()

/-- `try: _fsync_path(parent) except OSError: pass`. -/
def fsyncLast : Purge Unit :=
  (step (.fsync none)).handle fun
    | .step e => if e.isOsError then pure () else .raise (.step e)
    | e => .raise e

/-- The end of the `try` block. -/
def clear (held : Held) : Holding Unit := do
  holding held (forEach unlinkSaved held.sidecars)
  holding { held with sidecars := [] } fsyncLast

/-- The `try` block. -/
def tryPurge : Holding Unit := do
  let held ← prepare failPhase
  let held ← conclude path failPhase held
  clear held

/-- One sidecar is put back. -/
def restoreSidecar (sidecars : List (Sidecar × Nat)) (sidecar : Sidecar) : Purge Unit := do
  unlinkRegular path sidecar
  match sidecars.lookup sidecar with
  | none => pure ()
  | some saved => do
    if ← isThere (.temp saved) then step (.replace (.temp saved) (Name.database.beside sidecar)) else pure ()

/-- What follows when the recovery file has been put back. -/
def verifyRollback (sidecars : List (Sidecar × Nat)) : Purge Unit := do
  forEach (restoreSidecar path sidecars) [.wal, .shm]
  step (.fsync none)
  step (.connect .database true)
  requireSchema .database true
  close .database true

/-- The `finally` block. -/
def finish (held : Held) (verified : Bool) : Purge Unit := do
  forEach (fun n => unlinkThere (.temp n)) held.replacement.toList
  if verified = true then
    forEach (fun n => unlinkThere (.temp n)) (held.backup.toList ++ held.recovery.toList ++ held.sidecars.map (·.2))
  else pure ()

/-- The `except` block and the `finally` block. -/
def recover (original : PurgeException) (held : Held) : Purge Unit := do
  match if held.replaced = true then held.recovery else none with
  | none => do
    finish held true
    .raise original
  | some recovery => do
    if ← isThere (.temp recovery) then
      match ← ((step (.replace (.temp recovery) .database)).embed id fun _ a => a :
          Purge (Except PurgeException Unit)) with
      | .error e => do
        finish held false
        .raise (.unverified (some recovery) e)
      | .ok () => do
        match ← ((verifyRollback path held.sidecars).embed id fun _ a => a :
            Purge (Except PurgeException Unit)) with
        | .error e => do
          finish { held with recovery := none } false
          .raise (.unverified held.backup e)
        | .ok () => do
          finish { held with recovery := none, sidecars := [] } true
          .raise original
    else do
      finish held true
      .raise original

/-- `purge_history`, while the lock is held. `located` is what `_safe_database_path` makes of the path. -/
def purgeHistory (located : Admin PurePath) : Purge Unit := do
  injectFailure failPhase "after_lock"
  match located with
  | .error e => .raise (.admin e)
  | .ok path => do
    step .stat
    checkpointForPurge
    injectFailure failPhase "after_checkpoint"
    step (.fsync (some .database))
    match ← ((tryPurge path.text failPhase).embed id fun _ a => a :
        Purge (Except (PurgeException × Held) Unit)) with
    | .ok () => pure ()
    | .error (e, held) => recover path.text e held

/-! ## What the steps do -/

/-- What SQLite finds in a database. -/
structure Layout (δ : Type) where
  version : δ → Nat
  count : δ → HistoryTable → Nat

/-- A database of the current version without a history. -/
structure Layout.IsEmpty (layout : Layout δ) (db : δ) : Prop where
  version : layout.version db = 4
  count : ∀ table, layout.count db table = 0

namespace Directory

variable (layout : Layout δ) (dir : Directory δ)

/-- Put an entry under a name, or nothing. -/
def set (name : Name) (entry : Option (Entry δ)) : Directory δ := Function.update dir name entry

/-- What a connection does to the files: nothing if it is immutable. -/
def Uses (name : Name) (immutable : Bool) (dir' : Directory δ) : Prop :=
  if immutable = true then dir' = dir
  else if name.temporary = none then dir.Settles dir'
  else dir.Touches dir' name.temporary

/-- What a connection reads: only the main file if it is immutable. -/
def Reads (name : Name) (immutable : Bool) (db : δ) : Prop :=
  if immutable = true then dir name = some (.regular (.database db))
  else name.temporary = none → dir.seen = some db

/-- What a step does that succeeds. -/
def succeeds : PurgeStep → Directory δ → Prop
  | .connect name immutable, dir' => dir.Uses name immutable dir'
  | .migrate n, dir' => dir.Touches dir' (some n)
  | .unlink name, dir' => dir name ≠ none ∧ dir' = dir.set name none
  | .link source destination, dir' =>
    dir source ≠ none ∧ dir destination = none ∧ dir' = dir.set destination (dir source)
  | .replace source destination, dir' =>
    dir source ≠ none ∧ dir' = (dir.set destination (dir source)).set source none
  | _, dir' => dir' = dir

/-- What a step does that fails. -/
def fails : PurgeStep → Directory δ → Prop
  | .connect name immutable, dir' => dir.Uses name immutable dir'
  | .migrate n, dir' => dir.Touches dir' (some n)
  | _, dir' => dir' = dir

/-- What a query does that succeeds. -/
def gives : PurgeQuery → Nat → Directory δ → Prop
  | .version name immutable, n, dir' =>
    (∃ db, dir.Reads name immutable db ∧ n = layout.version db) ∧ dir.Uses name immutable dir'
  | .count name table, n, dir' => (∃ db, dir.Reads name true db ∧ n = layout.count db table) ∧ dir' = dir
  | .checkpoint name, n, dir' =>
    dir.Uses name false dir' ∧ (name.temporary = none → n = 0 → dir'.commits = [])
  | .reserve, n, dir' => dir (.temp n) = none ∧ dir' = dir.set (.temp n) (some (.regular .other))

/-- What a query does that fails. -/
def refuses : PurgeQuery → Directory δ → Prop
  | .version name immutable, dir' => dir.Uses name immutable dir'
  | .checkpoint name, dir' => dir.Uses name false dir'
  | _, dir' => dir' = dir

/-- How operations are answered. What a link leads to is not known. -/
def answers : (op : PurgeOp) → PurgeAns op → Directory δ → Prop
  | .step step, .ok (), dir' => dir.succeeds step dir'
  | .step step, .error _, dir' => dir.fails step dir'
  | .query query, .ok n, dir' => dir.gives layout query n dir'
  | .query query, .error _, dir' => dir.refuses query dir'
  | .close name immutable, (), dir' => dir.Uses name immutable dir'
  | .isThere name, there, dir' => dir' = dir ∧ match dir name with
    | none => there = false
    | some .symlink => True
    | _ => there = true
  | .isSymlink name, symlink, dir' => dir' = dir ∧ (symlink = true ↔ dir name = some .symlink)
  | .isFile name, file, dir' => dir' = dir ∧ match dir name with
    | some .symlink => True
    | some (.regular _) => file = true
    | _ => file = false
  | .isSuperuser, _, dir' => dir' = dir

end Directory

/-! ## What is asked of a purge -/

/-- The main file is this database, and nothing is left in the log. -/
structure Directory.Rests (dir : Directory δ) (db : δ) : Prop where
  main : dir.main = some db
  commits : dir.commits = []

/-- What is read is the history as it was, or an empty one. -/
def Shows (layout : Layout δ) (history : δ) (dir : Directory δ) : Prop :=
  ∃ db, dir.seen = some db ∧ (db = history ∨ layout.IsEmpty db)

/-- The database is empty. -/
def IsPurged (layout : Layout δ) (dir : Directory δ) : Prop := ∃ db, layout.IsEmpty db ∧ dir.Rests db

/-- What there is under temporary names was there before. -/
def NothingNew (start dir : Directory δ) : Prop :=
  ∀ name, name.temporary ≠ none → dir name ≠ none → dir name = start name

/-- How a purge ends. If it returns, the database is empty, without sidecars, and no temporary file is left. If it
raises, the history is as it was; or the purge is done, and what has failed is a step after that; or the history
is in the file that the exception names. -/
def Ends (layout : Layout δ) (history : δ) (start : Directory δ) : Except PurgeException Unit → Directory δ → Prop
  | .ok (), dir =>
    IsPurged layout dir ∧ (∀ sidecar, dir (Name.database.beside sidecar) = none) ∧ NothingNew start dir
  | .error e, dir => dir.seen = some history ∨ (∃ exception, e = .step exception) ∧ IsPurged layout dir ∨
    (∃ n rollbackError, e = .unverified (some n) rollbackError ∧
      dir (.temp n) = some (.regular (.database history))) ∧ IsPurged layout dir

end Monitoring.Purges
