import GostManager.Watchdog.Runs

/-!
# Watchdog: what it may do with a unit

The purpose of the watchdog, for one unit and without its rows, counters and clocks: it stops the unit
and starts it again, in turns, commanding it at most once each time, until it finds that an operator
has taken over. A run shows this by the marks it leaves: intents, commands and manual overrides.
-/

namespace Watchdog

open Effects

/-- The command that an intent asks for. -/
def PendingAction.verb (action : PendingAction) : Verb := if action.isStop then .stop else .start

/-- What is seen of the watchdog. -/
inductive Mark where
  /-- An intent is written. -/
  | intent (action : PendingAction)
  /-- The unit is commanded. -/
  | command (verb : Verb)
  /-- A row with a manual override is written. -/
  | overridden
  deriving DecidableEq

/-- Where the watchdog stands with a unit. -/
inductive Phase where
  /-- It acts by itself: its last intent, and whether the command for it was given. -/
  | acting (last : Option PendingAction) (spent : Bool)
  /-- It leaves the unit alone. -/
  | overridden
  deriving DecidableEq

/-- Stops and starts take turns. -/
def turn : Option PendingAction → PendingAction
  | some .stopWatchdog => .startWatchdog
  | _ => .stopWatchdog

/-- What the watchdog may do. -/
def Phase.next : Phase → Mark → Option Phase
  | _, .overridden => some .overridden
  | .acting last _, .intent action =>
    if action = turn last then some (.acting (some action) false) else none
  | .acting (some action) false, .command verb =>
    if verb = action.verb then some (.acting (some action) true) else none
  | _, _ => none

/-- The phase after some marks, newest first; none if they are not allowed. -/
def phase : List Mark → Option Phase
  | [] => some (.acting none true)
  | m :: ms => (phase ms).bind (·.next m)

/-- The intent of a mark. -/
def Mark.action : Mark → Option PendingAction
  | .intent action => some action
  | _ => none

/-- The intents among some marks. -/
def intents (ms : List Mark) : List PendingAction := ms.filterMap Mark.action

/-- The marks that writing a row leaves. -/
def ProfileState.marks (state : ProfileState) : List Mark :=
  (state.pendingAction.map Mark.intent).toList ++ if state.manualOverride then [.overridden] else []

/-- The marks of an event on the unit of a profile. -/
def marksOf (profileId : String) : RunEvent → List Mark
  | .did (.persist state _) (.ok ()) => if state.profileId = profileId then state.marks else []
  | .did (.systemctl .isActive _) _ => []
  | .did (.systemctl verb serviceName) _ =>
    if serviceName = unitOf profileId then [.command verb] else []
  | _ => []

/-- The marks of a history, newest first. -/
def marks (profileId : String) (h : List RunEvent) : List Mark := h.flatMap (marksOf profileId)

/-- The calls of the daemon for one profile in `auto` mode. Writes succeed. -/
def autoCalls (profileId : String) : Machine Op Ans Exn ProfileState Call Empty Database :=
  machine (fun _ _ c => c.profile.profileId = profileId ∧
    match c with
    | .process profile _ _ => profile.config.mode = .auto
    | .reconcilePending .. => True
    | _ => False) False False

end Watchdog
