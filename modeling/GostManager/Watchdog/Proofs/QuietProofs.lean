import GostManager.Watchdog.Traces
import GostManager.Watchdog.Proofs.RunsProofs
import GostManager.Watchdog.Proofs.StorageProofs

/-!
# Proofs: calls that have no say

A `process` call with a probe error, or in another mode than `auto`, only finishes an intent that it
finds: it writes no intent of its own, and commands nothing if there was none.
-/

namespace Watchdog

open Effects Effects.Prog Effects.Machine

/-- A `process` call that must not act on its own. -/
def Call.Quiet : Call → Prop
  | .process profile result _ => result.errorCategory ≠ none ∨ profile.config.mode ≠ .auto
  | _ => False

/-- Any calls, with writes that may fail. -/
def uncutCalls : Machine Op Ans Exn ProfileState Call Empty Database :=
  machine (fun _ _ _ => True) True False

/-- What holds at the operations of a quiet call. -/
def StaysQuiet (c : Call) (_ : Database) (h : List RunEvent) (op : Op) : Prop :=
  c.Quiet →
    match op with
    | .persist state _ => state.pendingAction = none
    | .systemctl .isActive _ => True
    | .systemctl _ _ => ∃ row, rowRead h = some row ∧ row.pendingAction ≠ none
    | _ => True

/-- The contract of a call of `uncutCalls`. -/
abbrev quietly (c : Call) : Contract Op Ans (Database × List RunEvent) :=
  uncutCalls.contract StaysQuiet c

section Rules

variable {profile : ManagedProfile} {c : Call} {row state : ProfileState}
  {events : List WatchdogEvent} {now : Int} {s : Database × List RunEvent}

/-- The row that was read, as long as the call lasts. -/
def Reading (row : ProfileState) (s : Database × List RunEvent) : Prop := rowRead s.2 = some row

/-- The call still knows the row it has read, and a value satisfies `φ`. -/
abbrev Still {α : Type} (row : ProfileState) (φ : α → Prop) :
    Except Exn α → Database × List RunEvent → Prop :=
  Post (fun x s => Reading row s ∧ φ x) fun _ => True

theorem quietly_persist (hs : Reading row s) (hp : state.pendingAction = none) :
    wp (quietly c) (persist state events) (Still row fun _ => True) s := by
  obtain ⟨db, h⟩ := s
  exact run_persist.2 ⟨fun _ => hp, fun _ _ => ⟨hs, trivial⟩, fun _ _ => trivial⟩

theorem quietly_isActive (hs : Reading row s) :
    wp (quietly c) (SystemdController.isActive profile.serviceName)
      (Still row fun _ => True) s := by
  obtain ⟨db, h⟩ := s
  exact run_isActive.2 ⟨fun _ => trivial, fun _ => ⟨fun _ => ⟨hs, trivial⟩,
    fun _ => ⟨hs, trivial⟩, fun _ => trivial⟩⟩

theorem quietly_queryActive (hs : Reading row s) :
    wp (quietly c) (DurableServiceActions.queryActive profile.serviceName)
      (Still row fun _ => True) s := by
  obtain ⟨db, h⟩ := s
  exact run_queryActive.2 ⟨fun _ => trivial, fun _ => ⟨hs, trivial⟩⟩

/-- A call that has found an intent may command. -/
theorem quietly_commanded {verb : Verb} {wanted : Bool} {yes no : Database × List RunEvent → Prop}
    (hs : Reading row s) (hrow : row.pendingAction ≠ none) (hy : ∀ s, Reading row s → yes s)
    (hn : ∀ s, Reading row s → no s) :
    commanded (quietly c) verb profile.serviceName wanted yes no s := by
  obtain ⟨db, h⟩ := s
  refine run_commanded.2 ⟨fun _ => ?_, fun _ _ => hn _ hs, fun _ => trivial,
    fun _ => ⟨fun _ => hy _ hs, fun _ => hn _ hs⟩⟩
  cases verb with
  | isActive => trivial
  | stop | start => exact ⟨row, hs, hrow⟩

open DurableServiceActions

theorem quietly_persistDraft (hs : Reading row s) (hp : state.pendingAction = none) :
    wp (quietly c) (do let events ← persist state events; return (state, events) : Action Draft)
      (Still row fun draft => draft.1.pendingAction = none) s :=
  Post.bind (quietly_persist hs hp) fun _ _ h => ⟨h.1, hp⟩

theorem quietly_reconcilePending (hs : Reading row s) (hrow : row.pendingAction ≠ none) :
    wp (quietly c) (reconcilePending profile state events now)
      (Still row fun draft => draft.1.pendingAction = none) s := by
  cases hpend : state.pendingAction with
  | none => exact (wp_reconcilePending_none hpend).2 ⟨hs, hpend⟩
  | some action =>
    refine (wp_reconcilePending hpend).2 (Post.bind (quietly_queryActive hs) fun answer s h => ?_)
    rcases answer with _ | active
    · exact quietly_persistDraft h.1 rfl
    · unfold resumePending
      cases hstop : action.isStop with
      | true =>
        refine Post.bind (φ := fun _ => Reading row) ?_ fun still s hs => ?_
        · cases active with
          | false => exact h.1
          | true =>
            exact wp_resumed_stop.2 (quietly_commanded h.1 hrow (fun _ h => h) fun _ h => h)
        · cases still with
          | true => exact quietly_persistDraft hs rfl
          | false => exact quietly_persistDraft hs rfl
      | false =>
        refine Post.bind (φ := fun _ => Reading row) ?_ fun started s hs => ?_
        · cases active with
          | true => exact h.1
          | false => exact wp_start_command.2 (quietly_commanded h.1 hrow (fun _ h => h) fun _ h => h)
        · cases started with
          | true => exact quietly_persistDraft hs rfl
          | false => exact quietly_persistDraft hs rfl

/-! ### Outside `auto` mode -/

theorem quietly_startAfterRecovery (hmode : profile.config.mode ≠ .auto)
    (hs : Reading row s) (hp : state.pendingAction = none) :
    wp (quietly c) (WatchdogEngine.startAfterRecovery profile state now events)
      (Still row fun draft => draft.1.pendingAction = none) s :=
  wp_ite.2 ⟨fun _ => ⟨hs, hp⟩, fun h => absurd (.inl hmode) h⟩

theorem quietly_continueRecovery (hmode : profile.config.mode ≠ .auto)
    (hs : Reading row s) (hp : state.pendingAction = none) :
    wp (quietly c) (WatchdogEngine.continueRecovery profile state now events)
      (Still row fun draft => draft.1.pendingAction = none) s := by
  refine wp_ite.2 ⟨fun _ => ⟨hs, hp⟩, fun _ => Post.bind (φ := fun fixed : ProfileState × Int =>
    fun s => Reading row s ∧ fixed.1.pendingAction = none) ?_ ?_⟩
  · unfold WatchdogEngine.fixRecoveryReady
    split
    · exact ⟨hs, hp⟩
    · obtain ⟨db, h⟩ := s
      exact Post.bind (φ := fun _ => Reading row) (run_jitter.2 ⟨fun _ => trivial, fun _ => hs⟩)
        fun _ _ hs => wp_ite.2 ⟨fun _ => trivial, fun _ => ⟨hs, hp⟩⟩
  · rintro ⟨state, readyAt⟩ s ⟨hs, hp⟩
    exact wp_ite.2 ⟨fun _ => quietly_startAfterRecovery hmode hs (by simpa [transition_fst] using hp),
      fun _ => ⟨hs, hp⟩⟩

theorem quietly_countResult {result : ProbeResult} (hmode : profile.config.mode ≠ .auto)
    (hs : Reading row s) (hp : state.pendingAction = none) :
    wp (quietly c) (WatchdogEngine.countResult profile state result now events)
      (Still row fun draft => draft.1.pendingAction = none) s := by
  refine wp_ite.2 ⟨fun _ => ?_, fun _ => ?_⟩
  · unfold WatchdogEngine.successfulCheck
    cases hh : state.healthState with
    | unknown | degraded => exact ⟨hs, by simpa [transition_fst] using hp⟩
    | healthy => exact quietly_startAfterRecovery hmode hs hp
    | down => exact quietly_continueRecovery hmode hs (by simpa [transition_fst] using hp)
    | recovering => exact quietly_continueRecovery hmode hs hp
  · refine wp_ite.2 ⟨fun _ => ⟨hs, by simpa [transition_fst] using hp⟩, fun _ => wp_ite.2 ⟨fun _ =>
      wp_ite.2 ⟨fun _ => wp_ite.2 ⟨fun _ => ⟨hs, by simpa [transition_fst] using hp⟩, fun h =>
        absurd (.inl hmode) h⟩, fun _ => ⟨hs, by simpa [transition_fst] using hp⟩⟩, fun _ =>
      wp_ite.2 ⟨fun _ => ⟨hs, by simpa [transition_fst] using hp⟩, fun _ => ⟨hs, hp⟩⟩⟩⟩

end Rules

/-! ## Runs -/

theorem quietly_process {profile : ManagedProfile} {result : ProbeResult} {now : Int}
    {s : Database × List RunEvent} (hq : (Call.process profile result now).Quiet) :
    wp (quietly (.process profile result now)) (WatchdogEngine.process profile result now)
      (fun _ _ => True) s := by
  obtain ⟨db, h⟩ := s
  refine wp_mono (Q := Post (fun _ _ => True) fun _ => True) ?_ fun _ _ _ => trivial
  refine wp_bind.2 (run_getState.2 ⟨fun _ => trivial, ?_⟩)
  generalize db.getState profile.profileId profile.serviceName profile.kharejIp = row
  have hs : Reading row (db, .did (.getState profile.profileId profile.serviceName
    profile.kharejIp) row :: h) := rfl
  refine Post.bind (φ := fun draft s => Reading row s ∧ draft.1.pendingAction = none) ?_ ?_
  · refine wp_ite.2 ⟨fun hsome => quietly_reconcilePending hs ?_, fun hnone => ⟨hs, ?_⟩⟩
    · exact Option.isSome_iff_ne_none.1 hsome
    · simpa using hnone
  rintro ⟨state, events⟩ s ⟨hs, hp⟩
  refine wp_ite.2 ⟨fun _ => trivial, fun _ => ?_⟩
  have hcheck : profile.config.mode ≠ .auto → wp (quietly (.process profile result now))
      (WatchdogEngine.check profile { state with lastCheckAt := some now } result now events)
      (Post (fun _ _ => True) fun _ => True) s := by
    intro hmode
    refine Post.bind (φ := fun draft s => Reading row s ∧ draft.1.pendingAction = none)
      (wp_ite.2 ⟨fun h => absurd h hmode, fun _ => ⟨hs, hp⟩⟩) ?_
    rintro ⟨state, events⟩ s ⟨hs, hp⟩
    refine Post.bind (quietly_countResult hmode hs hp) ?_
    rintro ⟨state, events⟩ s ⟨hs, hp⟩
    exact Post.bind (quietly_persist hs hp) fun _ _ _ => trivial
  cases result with
  | probeError errorCategory => exact Post.bind (quietly_persist hs hp) fun _ _ _ => trivial
  | success | unreachable =>
    exact hcheck (hq.resolve_left (by simp [ProbeResult.errorCategory]))

theorem uncutCalls_keeps_quiet :
    uncutCalls.Keeps (fun _ _ => True) StaysQuiet fun _ _ _ _ => True where
  call := by
    rintro db h c - -
    by_cases hq : c.Quiet
    · cases c with
      | process profile result now => exact quietly_process hq
      | _ => exact hq.elim
    · exact wp_of_guard fun _ _ h => absurd h hq
  finish := fun _ _ _ _ _ => trivial
  alone := nofun
  cut := nofun
  cut_last := nofun

end Watchdog
