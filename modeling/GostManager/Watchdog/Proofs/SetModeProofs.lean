import GostManager.Watchdog.Proofs.OutcomesProofs
import GostManager.Watchdog.Proofs.StorageProofs
import GostManager.Watchdog.SetMode

/-!
# Proofs: `set-mode` by itself

Leaving `auto` mode while the watchdog has stopped the unit: without a choice nothing happens, with
`keep-stopped` only the file is written, and with `start-if-healthy` the file is written only after the unit
was seen to run and its row was released.
-/

namespace Watchdog

open Effects Effects.Prog

variable {files : ModeFiles} {profile : ManagedProfile} {row state : ProfileState} {mode : Mode}
  {now : Int} {events : List WatchdogEvent} {t : Trace ModeOp ModeAns}
  {s s' : ModeFiles × Trace ModeOp ModeAns}

/-! ## The engine as a part of the command -/

/-- What is asked of the engine as a part of the command. -/
abbrev enginePart : Contract Op Ans (ModeFiles × Trace ModeOp ModeAns) :=
  ModeFiles.contract.part ModeOp.engine fun _ a => a

theorem enginePart_answers {op : Op} {a : Ans op} : enginePart.answers s op a s' ↔
    ∃ db, answers True s.1.db op a db ∧ s' = ({ s.1 with db }, ⟨.engine op, a⟩ :: s.2) := by
  constructor
  · rintro ⟨_, rfl, ⟨db, hdb, hfiles⟩, ht⟩
    exact ⟨db, hdb, Prod.ext hfiles ht⟩
  · rintro ⟨db, hdb, rfl⟩
    exact ⟨a, rfl, ⟨db, hdb, rfl⟩, rfl⟩

/-- The profile file is as it was, and if the unit was last seen to run, then that is recorded. -/
def Seen (profile : ManagedProfile) : Stage → ModeFiles × Trace ModeOp ModeAns → Prop
  | .asked seen, s | .settled seen, s =>
    s.1.profile = profile ∧ (seen = some true → Verified profile.serviceName s.2)
  | _, s => s.1.profile = profile

theorem Verified.cons {serviceName : String} {e : (op : ModeOp) × ModeAns op}
    (h : Verified serviceName t) : Verified serviceName (e :: t) := List.mem_cons_of_mem _ h

theorem seen_commanding : Commanding enginePart profile.serviceName .start (Seen profile) where
  asks _ _ := trivial
  asked := by
    intro s code s' hs ha
    obtain ⟨db, -, rfl⟩ := enginePart_answers.1 ha
    refine ⟨hs, fun hseen => ?_⟩
    rw [seenActive_eq_true hseen]
    exact List.mem_cons_self
  commands _ _ _ := trivial
  commanded := by
    intro seen s code s' hs ha
    obtain ⟨db, -, rfl⟩ := enginePart_answers.1 ha
    exact hs.1
  verifies _ _ := trivial
  verified := by
    intro s code s' hs ha
    obtain ⟨db, -, rfl⟩ := enginePart_answers.1 ha
    refine ⟨hs, fun hseen => ?_⟩
    rw [seenActive_eq_true hseen]
    exact List.mem_cons_self
  failed _ hs := ⟨hs, nofun⟩

/-- The row of a start that worked is written, and the unit was seen to run. -/
def Saved (profile : ManagedProfile) (state : ProfileState) (s : ModeFiles × Trace ModeOp ModeAns) :
    Prop :=
  s.1.profile = profile ∧ (state.manualOverride = false → Verified profile.serviceName s.2 ∧
    s.1.db.rows profile.profileId = some state ∧ Released state)

theorem settled_persist {state' : ProfileState} {seen : Option Bool}
    (hid : state.profileId = profile.profileId) (hs : Seen profile (.settled seen) s)
    (hstarted : Started state .operator now seen state') :
    wp enginePart (persist state' events) (Post (fun _ => Saved profile state')
      fun s => s.1.profile = profile ∧ Seen profile (.settled seen) s) s := by
  refine wp_persist.2 ⟨trivial, fun s' ha => ?_, fun e s' ha => ?_⟩
  · obtain ⟨db, hdb, rfl⟩ := enginePart_answers.1 ha
    refine ⟨hs.1, fun hoverride => ?_⟩
    have hrow : db.rows profile.profileId = some state' := by
      rw [← hid, ← hstarted.profileId]
      exact Database.persist_row_self hdb
    cases hstarted with
    | refused seen active => simp at hoverride
    | started active => exact ⟨(hs.2 rfl).cons, hrow, by simp, by simp, by simp⟩
  · obtain ⟨db, ⟨-, rfl⟩, rfl⟩ := enginePart_answers.1 ha
    exact ⟨hs.1, hs.1, fun hseen => (hs.2 hseen).cons⟩

theorem settled_start (hid : state.profileId = profile.profileId) (hs : s.1.profile = profile) :
    wp enginePart (DurableServiceActions.start profile state events now .operator)
      (Post (fun result s => result.1 = !result.2.1.manualOverride ∧ Saved profile result.2.1 s)
        fun s => s.1.profile = profile) s := by
  refine start_verdicts (Φ := Seen profile) ?_ seen_commanding (fun _ hs => hs.1) (fun _ hs => hs) ?_
  · refine wp_persist.2 ⟨trivial, fun s' ha => ?_, fun e s' ha => ?_⟩
    · obtain ⟨db, -, rfl⟩ := enginePart_answers.1 ha
      exact hs
    · obtain ⟨db, -, rfl⟩ := enginePart_answers.1 ha
      exact hs
  · exact fun seen state' events s hs hstarted => settled_persist hid hs hstarted

/-- What is known when `start_owned_for_mode_change` returns. -/
structure StartedOwned (profile : ManagedProfile) (row : ProfileState) (now : Int)
    (s : ModeFiles × Trace ModeOp ModeAns) : Prop where
  file : s.1.profile = profile
  healthy : FreshlyHealthy row profile.config now
  verified : Verified profile.serviceName s.2
  released : ∃ row', s.1.db.rows profile.profileId = some row' ∧ Released row'

theorem started_owned (hs : s.1.profile = profile) (hrow : s.1.db.rows profile.profileId = some row) :
    wp enginePart (MaintenanceController.startOwnedForModeChange profile now)
      (Post (fun _ => StartedOwned profile row now) fun s => s.1.profile = profile) s := by
  refine wp_bind.2 (wp_getState.2 ⟨trivial, fun state s' ha => ?_⟩)
  obtain ⟨db, ⟨rfl, rfl⟩, rfl⟩ := enginePart_answers.1 ha
  rw [Database.getState_of_row hrow]
  refine wp_ite.2 ⟨fun _ => hs, fun hhealthy => wp_ite.2 ⟨fun _ => hs, fun _ => ?_⟩⟩
  simp only [not_or, not_not] at hhealthy
  obtain ⟨hstate, hcheck, hfresh⟩ := hhealthy
  have hid : row.profileId = profile.profileId := s.1.db.keyed _ _ hrow
  refine Post.bind (settled_start hid hs) ?_
  rintro ⟨started, state, events⟩ s' ⟨hstarted, hprofile, hsettled⟩
  refine wp_ite.2 ⟨fun _ => hprofile, fun hnot => ?_⟩
  have hoverride : state.manualOverride = false := by
    have hstarted : started = !state.manualOverride := hstarted
    cases hmo : state.manualOverride with
    | false => rfl
    | true =>
      rw [hmo] at hstarted
      exact absurd (by rw [hstarted]; rfl) hnot
  obtain ⟨hverified, hwritten, hreleased⟩ := hsettled hoverride
  refine ⟨hprofile, ⟨hstate, hcheck, ?_⟩, hverified, state, hwritten, hreleased⟩
  cases hlast : row.lastCheckAt with
  | none => simp [hlast] at hfresh
  | some checked =>
    simp only [hlast, Option.any_some, decide_eq_true_eq] at hfresh
    exact ⟨checked, rfl, by omega, hfresh.2⟩

/-! ## The command -/

section Command

variable {ownedAction : Option OwnedAction}
  {Q : Except AdminExn Nat → ModeFiles × Trace ModeOp ModeAns → Prop}

/-- What the command has done before it acts on the choice. -/
def readTrace (files : ModeFiles) : Trace ModeOp ModeAns :=
  [⟨.engine (.getState files.profile.profileId files.profile.serviceName files.profile.kharejIp),
      files.db.getState files.profile.profileId files.profile.serviceName files.profile.kharejIp⟩,
    ⟨.loadProfile, some files.profile⟩]

/-- The command finds the profile and its row, and then a choice is needed. -/
theorem wp_commandSetMode (hauto : files.profile.config.mode = .auto)
    (hmode : mode = .monitor ∨ mode = .disabled)
    (hrow : files.db.rows files.profile.profileId = some row) (howned : row.stoppedByWatchdog = true)
    (hmissing : ∀ e, Q (.error e) (files, [⟨.loadProfile, none⟩]))
    (hnone : ownedAction = none → ∀ e, Q (.error e) (files, readTrace files))
    (hsome : ownedAction ≠ none → wp ModeFiles.contract
      (do
        startIfHealthy files.profile true ownedAction now
        match ← (Prog.perform (ModeOp.writeMode mode) : ModeAction (Except AdminExn Unit)) with
        | .ok () => return 0
        | .error e => .raise e) Q (files, readTrace files)) :
    wp ModeFiles.contract (commandSetMode mode ownedAction now) Q (files, []) := by
  refine wp_bind.2 (wp_perform.2 ⟨trivial, ?_⟩)
  rintro found s' ⟨⟨hfound, hfiles⟩, ht⟩
  obtain rfl : s' = (files, [⟨.loadProfile, found⟩]) := Prod.ext hfiles ht
  rcases hfound with rfl | rfl
  · exact hmissing _
  refine wp_ite.2 ⟨fun h => absurd ⟨hauto, hmode⟩ h.2, fun _ => wp_bind.2 (wp_embed.2 ?_)⟩
  refine wp_getState.2 ⟨trivial, fun state s' ha => ?_⟩
  obtain ⟨db, ⟨rfl, rfl⟩, rfl⟩ := enginePart_answers.1 ha
  have hchoice : (decide (LeavesAuto files.profile mode ∧ (files.db.getState files.profile.profileId
      files.profile.serviceName files.profile.kharejIp).stoppedByWatchdog = true)) = true := by
    rw [Database.getState_of_row hrow]
    exact decide_eq_true ⟨⟨hauto, hmode⟩, howned⟩
  show wp ModeFiles.contract (if _ then _ else _) Q _
  rw [hchoice]
  refine wp_ite.2 ⟨fun h => hnone h.2 _, fun h => hsome fun hn => h ⟨rfl, hn⟩⟩

theorem untouched_readTrace : Untouched (readTrace files) :=
  List.forall_mem_cons.2 ⟨rfl, List.forall_mem_singleton.2 rfl⟩

theorem Untouched.cons {e : (op : ModeOp) × ModeAns op} (h : Untouched t) (he : e.1.commands = false) :
    Untouched (e :: t) := List.forall_mem_cons.2 ⟨he, h⟩

/-- Writing the file at the end of the command. -/
theorem wp_writeMode (hok : Q (.ok 0) (s.1.setMode mode, ⟨.writeMode mode, .ok ()⟩ :: s.2))
    (herror : ∀ e, Q (.error e) (s.1, ⟨.writeMode mode, .error e⟩ :: s.2)) :
    wp ModeFiles.contract (do
      match ← (Prog.perform (ModeOp.writeMode mode) : ModeAction (Except AdminExn Unit)) with
      | .ok () => return 0
      | .error e => .raise e) Q s := by
  refine wp_bind.2 (wp_perform.2 ⟨trivial, ?_⟩)
  rintro (e | u) s' ⟨hfiles, ht⟩
  · obtain rfl : s' = (s.1, ⟨.writeMode mode, .error e⟩ :: s.2) := Prod.ext hfiles ht
    exact herror e
  · obtain rfl : s' = (s.1.setMode mode, ⟨.writeMode mode, .ok u⟩ :: s.2) := Prod.ext hfiles ht
    exact hok

end Command

/-- **`set-mode` is atomic.** While the watchdog has stopped the unit of a profile in `auto` mode,
whatever `systemctl` answers and whichever writes fail: without a choice, leaving `auto` mode does nothing;
with `start-if-healthy` it changes the profile file only if the row was freshly healthy, the unit was seen to
run and a row that releases it is in the database; with `keep-stopped` it changes the profile file, and
neither the database nor the unit. -/
theorem set_mode_is_atomic (hauto : files.profile.config.mode = .auto)
    (hrow : files.db.rows files.profile.profileId = some row) (howned : row.stoppedByWatchdog = true)
    (hmode : mode = .monitor ∨ mode = .disabled) (now : Int) :
    (∀ r files' t, files.Ends (commandSetMode mode none now) r files' t →
      files' = files ∧ Untouched t ∧ ∃ e, r = .error e) ∧
    (∀ r files' t, files.Ends (commandSetMode mode (some .startIfHealthy) now) r files' t →
      files'.profile ≠ files.profile →
        FreshlyHealthy row files.profile.config now ∧ Verified files.profile.serviceName t ∧
        ∃ row', files'.db.rows files.profile.profileId = some row' ∧ Released row') ∧
    (∀ r files' t, files.Ends (commandSetMode mode (some .keepStopped) now) r files' t →
      files'.db = files.db ∧ Untouched t ∧ (FilesWork t → files' = files.setMode mode ∧ r = .ok 0)) := by
  refine ⟨fun r files' t h => ?_, fun r files' t h => ?_, fun r files' t h => ?_⟩
  · refine wp_steps h (Q := fun r s => s.1 = files ∧ Untouched s.2 ∧ ∃ e, r = .error e)
      (wp_commandSetMode hauto hmode hrow howned (fun e => ⟨rfl, ?_, e, rfl⟩)
        (fun _ e => ⟨rfl, untouched_readTrace, e, rfl⟩) fun h => absurd rfl h)
    exact List.forall_mem_singleton.2 rfl
  · refine wp_steps h (Q := fun r s => s.1.profile ≠ files.profile →
        FreshlyHealthy row files.profile.config now ∧ Verified files.profile.serviceName s.2 ∧
        ∃ row', s.1.db.rows files.profile.profileId = some row' ∧ Released row')
      (wp_commandSetMode hauto hmode hrow howned (fun e hne => absurd rfl hne)
        (fun h => nomatch h) fun _ => ?_)
    refine wp_bind.2 (wp_ite.2 ⟨fun _ => wp_bind.2 (wp_embed.2 ?_), fun hne => absurd ⟨rfl, rfl⟩ hne⟩)
    refine wp_mono (started_owned rfl hrow) ?_
    rintro (e | state) s hs
    · have hs : s.1.profile = files.profile := hs
      cases e with
      | _ => exact fun hne => absurd hs hne
    · have hs : StartedOwned files.profile row now s := hs
      refine wp_writeMode (fun _ => ⟨hs.healthy, hs.verified.cons, hs.released⟩) fun e hne => ?_
      exact absurd hs.file hne
  · refine wp_steps h (Q := fun r s => s.1.db = files.db ∧ Untouched s.2 ∧
        (FilesWork s.2 → s.1 = files.setMode mode ∧ r = .ok 0))
      (wp_commandSetMode hauto hmode hrow howned (fun e => ⟨rfl, ?_, fun hworks => ?_⟩)
        (fun h => nomatch h) fun _ => ?_)
    · exact List.forall_mem_singleton.2 rfl
    · exact absurd rfl (hworks _ List.mem_cons_self).1
    · refine wp_bind.2 (wp_ite.2 ⟨fun hne => absurd hne.2 (by decide), fun _ => ?_⟩)
      refine wp_writeMode ⟨rfl, untouched_readTrace.cons rfl, fun _ => ⟨rfl, rfl⟩⟩ fun e => ?_
      exact ⟨rfl, untouched_readTrace.cons rfl, fun hworks =>
        absurd rfl ((hworks _ List.mem_cons_self).2 mode e)⟩

theorem oracle_answers (s : ModeFiles × Trace ModeOp ModeAns) (op : ModeOp) :
    ModeFiles.contract.answers s op (ModeFiles.oracle s op).1 (ModeFiles.oracle s op).2 := by
  refine ⟨?_, rfl⟩
  cases op with
  | engine op =>
    cases op with
    | getState => exact ⟨s.1.db, ⟨rfl, rfl⟩, rfl⟩
    | persist state events =>
      simp only [ModeFiles.oracle, ModeFiles.respond]
      cases h : s.1.db.persist state events with
      | ok db => exact ⟨db, h, rfl⟩
      | error e => exact ⟨s.1.db, ⟨trivial, rfl⟩, rfl⟩
    | systemctl verb => cases verb <;> exact ⟨s.1.db, rfl, rfl⟩
    | jitter => exact ⟨s.1.db, rfl, rfl⟩
  | loadProfile => exact ⟨.inr rfl, rfl⟩
  | writeMode => rfl

/-- The unit is started, and the file is changed. -/
theorem set_mode_is_atomic_started : ∃ files' t,
    ownedFiles.Ends (commandSetMode .disabled (some .startIfHealthy) 105) (.ok 0) files' t ∧
    files'.profile.config.mode = .disabled ∧ Verified "gost-iran-1.service" t ∧
    ∃ row', files'.db.rows "iran-1" = some row' ∧ Released row' := by
  have hrun : ownedFiles.Ends (commandSetMode .disabled (some .startIfHealthy) 105) (.ok 0) _ _ :=
    runFor_steps oracle_answers 20 (commandSetMode .disabled (some .startIfHealthy) 105) (ownedFiles, [])
  have hne : (ownedFiles.setMode .disabled).profile ≠ ownedFiles.profile := by
    intro h
    exact absurd (congrArg (·.config.mode) h) (by decide)
  have hrow : ownedFiles.db.rows ownedFiles.profile.profileId = some _ := rfl
  obtain ⟨-, hverified, hreleased⟩ :=
    (set_mode_is_atomic rfl hrow rfl (.inr rfl) 105).2.1 _ _ _ hrun hne
  exact ⟨_, _, hrun, rfl, hverified, hreleased⟩

end Watchdog
