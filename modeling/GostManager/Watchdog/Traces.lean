import GostManager.Watchdog.Runs

/-!
# Watchdog: reading a history

What a history says about the probe results of a profile: which were given to `process`, which of them
were recorded, how long the present row of equal results is and when its results came.
-/

namespace Watchdog

open Effects

/-! ## The results given -/

/-- The result that a call counts, if there is one. -/
def Call.result : Call → Option ProbeResult
  | .process profile result _ =>
    if profile.config.mode = .disabled ∨ result.errorCategory ≠ none then none else some result
  | _ => none

/-- The results given to `process` for a profile, with their times, newest first. Probe errors are
left out. -/
def results (profileId : String) : List RunEvent → List (ProbeResult × Int)
  | .called (.process profile result now) :: h =>
    if profile.profileId = profileId ∧ result.errorCategory = none then
      (result, now) :: results profileId h
    else results profileId h
  | _ :: h => results profileId h
  | [] => []

/-- The times of the successes since the last result that was none, newest first. -/
def streak (profileId : String) (h : List RunEvent) : List Int :=
  ((results profileId h).takeWhile (·.1 = .success)).map (·.2)

/-- The jitter drawn last, if there was no failure since. -/
def drawn : List RunEvent → Option Int
  | .did (.jitter _) jitter :: _ => some jitter
  | .called (.process _ .unreachable _) :: _ => none
  | _ :: h => drawn h
  | [] => none

/-- The clock at the last call. -/
def clock : List RunEvent → Option Int
  | .called c :: _ => some c.now
  | _ :: h => clock h
  | [] => none

/-- The row that the present call has read. -/
def rowRead : List RunEvent → Option ProfileState
  | .did (.getState ..) state :: _ => some state
  | _ :: h => rowRead h
  | [] => none

/-- The row that was read, if nothing has happened since. -/
def justRead : List RunEvent → Option ProfileState
  | .did (.getState ..) state :: _ => some state
  | _ => none

/-- A recovery was long enough at the time `t`: the success that completes the threshold lies the hold
and the jitter drawn since before `t`. -/
def Qualified (profileId : String) (threshold hold : Nat) (h : List RunEvent) (t : Int) : Prop :=
  ∃ completed jitter, (streak profileId h).reverse[threshold - 1]? = some completed ∧
    drawn h = some jitter ∧ completed + hold + jitter ≤ t

/-- The answers that lead to a recovery that was not long enough. A success finds the row degraded
although the watchdog has stopped the unit, and makes it healthy at once; or a failure is lost because
the unit cannot be queried. -/
def Spoils (c : Call) (h : List RunEvent) : (op : Op) → Ans op → Prop
  | .getState .., state => c.result = some .success ∧ state.healthState = .degraded ∧
      state.stoppedByWatchdog = true
  | .systemctl .isActive _, code => c.result = some .unreachable ∧
      (justRead h).map (·.pendingAction) = some none ∧ code ≠ some 0 ∧ code ≠ some 3
  | _, _ => False

instance (c : Call) (h : List RunEvent) : (op : Op) → (a : Ans op) → Decidable (Spoils c h op a)
  | .getState .., _ => inferInstanceAs (Decidable (_ ∧ _ ∧ _))
  | .systemctl .isActive _, _ => inferInstanceAs (Decidable (_ ∧ _ ∧ _ ∧ _))
  | .systemctl .stop _, _ | .systemctl .start _, _ | .persist .., _ | .jitter _, _ => isFalse nofun

/-- A call of `process` in the mode `monitor` or `auto` with this success threshold and hold, or
another call. -/
def Call.Recovers (threshold hold : Nat) : Call → Prop
  | .process profile _ _ => profile.config.mode ≠ .disabled ∧
      profile.config.successThreshold = threshold ∧ profile.config.recoveryHoldSeconds = hold
  | _ => True

instance (threshold hold : Nat) : (c : Call) → Decidable (c.Recovers threshold hold)
  | .process .. => inferInstanceAs (Decidable (_ ∧ _ ∧ _))
  | .reconcilePending .. | .apply .. | .startOwnedForModeChange .. | .rearm .. => isTrue trivial

/-- The calls for one profile with a fixed success threshold and hold, in the modes `monitor` and
`auto`, with a clock that does not go back and writes that succeed. -/
def recoveryCalls (profileId : String) (threshold hold : Nat) :
    Machine Op Ans Exn ProfileState Call Empty Database :=
  machine (fun _ h c => c.profile.profileId = profileId ∧ (∀ last ∈ clock h, last ≤ c.now) ∧
    c.Recovers threshold hold) False False

/-- Those of its runs in which no answer spoils a recovery. -/
def soundRecoveryCalls (profileId : String) (threshold hold : Nat) :
    Machine Op Ans Exn ProfileState Call Empty Database :=
  (recoveryCalls profileId threshold hold).restrict fun c _ h op a => ¬ Spoils c h op a

instance (profileId : String) (threshold hold : Nat) (db : Database) (h : List RunEvent) (c : Call) :
    Decidable ((soundRecoveryCalls profileId threshold hold).admits db h c) :=
  inferInstanceAs (Decidable (_ ∧ _ ∧ _))

/-- A script whose answers spoil no recovery: it stops where one would. -/
def carefully (profileId : String) (threshold hold : Nat) (cs : List Scene) :
    List (soundRecoveryCalls profileId threshold hold).Scene :=
  cs.map fun c => (c.1, Machine.Oracle.restrict (M := recoveryCalls profileId threshold hold)
    (fun _ => environment c.2.1) (fun c _ h op a => ¬ Spoils c h op a), c.2.2)

/-! ## The results recorded

A result is recorded when the call returns normally, and already when the call writes an intent. A
call that raises before has lost its result, and in `disabled` mode results do not count. -/

/-- The recorded results of a profile, newest first, and the result that waits to be recorded. -/
structure Ledger where
  recorded : List ProbeResult := []
  due : Option ProbeResult := none
  deriving DecidableEq

namespace Ledger

/-- The recorded results and the one that waits. -/
def all (ledger : Ledger) : List ProbeResult := ledger.due.toList ++ ledger.recorded

/-- Record the result that waits. -/
def record (ledger : Ledger) : Ledger := { recorded := ledger.all }

/-- Lose the result that waits. -/
def drop (ledger : Ledger) : Ledger := { recorded := ledger.recorded }

end Ledger

/-- The ledger of a profile. -/
def ledger (profileId : String) : List RunEvent → Ledger
  | .called c :: h =>
    if c.profile.profileId = profileId then { ledger profileId h with due := c.result }
    else ledger profileId h
  | .did (.persist state _) (.ok ()) :: h =>
    if state.profileId = profileId ∧ state.pendingAction ≠ none then (ledger profileId h).record
    else ledger profileId h
  | .returned (.ok _) :: h => (ledger profileId h).record
  | .returned (.error _) :: h | .killed :: h => (ledger profileId h).drop
  | _ :: h => ledger profileId h
  | [] => {}

/-- How many failures a list of results begins with. -/
def failures (results : List ProbeResult) : Nat := (results.takeWhile (· = .unreachable)).length

end Watchdog
