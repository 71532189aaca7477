import GostManager.Watchdog.Proofs.RunsProofs
import GostManager.Watchdog.Proofs.StorageProofs

/-!
# Proofs: intents are written ahead

A `stop` or `start` command is only issued while the database holds an intent for it, and a call that
returns normally leaves no intent. Between the durable actions a call is *settled*: neither its copy
of the row nor the database has an intent.
-/

namespace Watchdog

open Effects Effects.Prog Effects.Machine

/-- The calls of the daemon and the maintenance commands, which may be killed, with writes that may
fail. -/
def serviceCalls : Machine Op Ans Exn ProfileState Call Empty Database :=
  machine (fun _ _ c => ∀ profile now, c ≠ .rearm profile now) True True

/-- What holds at the commands of a call. -/
def WrittenAhead (c : Call) (db : Database) (h : List RunEvent) : Op → Prop
  | .systemctl .stop serviceName => serviceName = c.profile.serviceName ∧
      ∃ action, db.pending c.profile.profileId = some action ∧ action.isStop = true
  | .systemctl .start serviceName => serviceName = c.profile.serviceName ∧
      ∃ action, db.pending c.profile.profileId = some action ∧
        (action.isStop = true → Compensating serviceName h)
  | _ => True

/-- The contract of a call of `serviceCalls`. -/
abbrev writeAhead (c : Call) : Contract Op Ans (Database × List RunEvent) :=
  serviceCalls.contract WrittenAhead c

/-- Neither a copy of the row nor the database has an intent. -/
def Settled (c : Call) (state : ProfileState) (s : Database × List RunEvent) : Prop :=
  state.profileId = c.profile.profileId ∧ state.pendingAction = none ∧
    s.1.pending c.profile.profileId = none

theorem pending_of_persist {db db' : Database} {state : ProfileState} {events : List WatchdogEvent}
    (h : db.persist state events = .ok db') :
    db'.pending state.profileId = state.pendingAction := by
  simp [Database.pending, Database.persist_row_self h]

theorem pending_getState {db : Database} {profileId serviceName kharejIp : String} :
    (db.getState profileId serviceName kharejIp).pendingAction = db.pending profileId := by
  unfold Database.getState Database.pending
  split <;> simp [*]

/-- Writing a row without intent settles the call. -/
theorem settled_of_persist {c : Call} {db db' : Database} {h : List RunEvent} {state : ProfileState}
    {events : List WatchdogEvent} (hid : state.profileId = c.profile.profileId)
    (hp : state.pendingAction = none) (hdb : db.persist state events = .ok db') :
    Settled c state (db', h) :=
  ⟨hid, hp, hid ▸ (pending_of_persist hdb).trans hp⟩

section Rules

variable {c : Call} {state : ProfileState} {events : List WatchdogEvent} {now : Int}
  {s : Database × List RunEvent}

/-- A value satisfies `φ`; an exception may be raised at any time. -/
abbrev Safely {α : Type} (φ : α → Database × List RunEvent → Prop) :
    Except Exn α → Database × List RunEvent → Prop :=
  Post φ fun _ => True

theorem writeAhead_persist (hid : state.profileId = c.profile.profileId) :
    wp (writeAhead c) (persist state events)
      (Safely fun _ s => s.1.pending c.profile.profileId = state.pendingAction) s := by
  obtain ⟨db, h⟩ := s
  exact run_persist.2 ⟨trivial, fun db' hp => hid ▸ pending_of_persist hp, fun _ _ => trivial⟩

/-- A query of the unit leaves the database alone. -/
theorem writeAhead_isActive :
    wp (writeAhead c) (SystemdController.isActive c.profile.serviceName)
      (Safely fun _ s' => s'.1 = s.1) s := by
  obtain ⟨db, h⟩ := s
  exact run_isActive.2 ⟨trivial, fun _ => ⟨fun _ => rfl, fun _ => rfl, fun _ => trivial⟩⟩

theorem writeAhead_queryActive :
    wp (writeAhead c) (DurableServiceActions.queryActive c.profile.serviceName)
      (Safely fun _ s' => s'.1 = s.1) s := by
  obtain ⟨db, h⟩ := s
  exact run_queryActive.2 ⟨trivial, fun _ => rfl⟩

/-- A command that is allowed, with the query that verifies it, leaves the database alone. -/
theorem writeAhead_commanded {verb : Verb} {wanted : Bool}
    {yes no : Database × List RunEvent → Prop}
    (hg : WrittenAhead c s.1 s.2 (.systemctl verb c.profile.serviceName))
    (hy : ∀ h, yes (s.1, h)) (hn : ∀ h, no (s.1, h)) :
    commanded (writeAhead c) verb c.profile.serviceName wanted yes no s := by
  obtain ⟨db, h⟩ := s
  exact run_commanded.2 ⟨hg, fun _ _ => hn _, trivial, fun _ => ⟨fun _ => hy _, fun _ => hn _⟩⟩

open DurableServiceActions

theorem writeAhead_settle (hid : state.profileId = c.profile.profileId)
    (hp : state.pendingAction = none) :
    wp (writeAhead c) (persist state events) (Safely fun _ s => Settled c state s) s :=
  Post.mono (writeAhead_persist hid) fun _ _ h => ⟨hid, hp, h.trans hp⟩

theorem writeAhead_settlePending {draft : Draft} (hid : draft.1.profileId = c.profile.profileId) :
    wp (writeAhead c) (settlePending draft) (Safely fun draft => Settled c draft.1) s :=
  Post.bind (writeAhead_settle (by simpa using hid) (by simp)) fun _ _ h => h

theorem writeAhead_abandonPending {errorCategory : String}
    (hid : state.profileId = c.profile.profileId) :
    wp (writeAhead c) (abandonPending state events now errorCategory)
      (Safely fun draft => Settled c draft.1) s :=
  Post.bind (writeAhead_settle (by simpa [failPending] using hid) (by simp [failPending]))
    fun _ _ h => h

theorem writeAhead_refuse {code : EventCode} {values : EventValues}
    (hid : state.profileId = c.profile.profileId) :
    wp (writeAhead c) (refuse state events now code values)
      (Safely fun result => Settled c result.2.1) s :=
  Post.bind (writeAhead_settle (by simpa using hid) (by simp)) fun _ _ h => h

/-- A pending stop allows the `stop` command that `reconcile_pending` repeats. -/
theorem writeAhead_stopIfActive {active : Bool} {action : PendingAction}
    (hp : s.1.pending c.profile.profileId = some action) (hstop : action.isStop = true) :
    wp (writeAhead c) (stopIfActive c.profile.serviceName active)
      (Safely fun _ s' => s'.1 = s.1) s := by
  cases active with
  | false => rfl
  | true =>
    exact wp_resumed_stop.2 (writeAhead_commanded ⟨rfl, action, hp, hstop⟩ (fun _ => rfl)
      fun _ => rfl)

/-- A pending start allows a `start` command. -/
theorem writeAhead_startIfInactive {active : Bool} {action : PendingAction}
    (hp : s.1.pending c.profile.profileId = some action) (hstart : action.isStop = false) :
    wp (writeAhead c) (startIfInactive c.profile.serviceName active)
      (Safely fun _ s' => s'.1 = s.1) s := by
  cases active with
  | true => rfl
  | false =>
    refine wp_start_command.2 (writeAhead_commanded ⟨rfl, action, hp, fun h => ?_⟩ (fun _ => rfl)
      fun _ => rfl)
    rw [hstart] at h
    cases h

theorem writeAhead_reconcilePending (hid : state.profileId = c.profile.profileId)
    (hp : s.1.pending c.profile.profileId = state.pendingAction) :
    wp (writeAhead c) (reconcilePending c.profile state events now)
      (Safely fun draft => Settled c draft.1) s := by
  cases hpend : state.pendingAction with
  | none => exact (wp_reconcilePending_none hpend).2 ⟨hid, hpend, hp.trans hpend⟩
  | some action =>
    refine (wp_reconcilePending hpend).2 (Post.bind writeAhead_queryActive fun answer s' hdb => ?_)
    have hp' : s'.1.pending c.profile.profileId = some action := by rw [hdb, hp, hpend]
    rcases answer with _ | active
    · exact writeAhead_abandonPending hid
    · unfold resumePending
      cases hstop : action.isStop with
      | true =>
        refine Post.bind (writeAhead_stopIfActive hp' hstop) fun still s _ => ?_
        cases still with
        | true => exact writeAhead_abandonPending hid
        | false =>
          refine writeAhead_settlePending ?_
          cases action <;> simpa [finalizePendingStop] using hid
      | false =>
        refine Post.bind (writeAhead_startIfInactive hp' hstop) fun started s _ => ?_
        cases started with
        | false => exact writeAhead_abandonPending hid
        | true =>
          refine writeAhead_settlePending ?_
          cases action <;> simpa [finalizePendingStart] using hid

/-- The compensating start, right after the failed write that `h` begins with. -/
theorem writeAhead_compensate {action : PendingAction} (hid : state.profileId = c.profile.profileId)
    (hp : s.1.pending c.profile.profileId = some action)
    (hc : Compensating c.profile.serviceName s.2) :
    wp (writeAhead c) (compensate c.profile state now)
      (Safely fun result => Settled c result.2.1) s := by
  have hstart : wp (writeAhead c)
      (orOnCommandError (SystemdController.start c.profile.serviceName) false)
      (Safely fun _ _ => True) s :=
    wp_start_command.2 (writeAhead_commanded ⟨rfl, action, hp, fun _ => hc⟩ (fun _ => trivial)
      fun _ => trivial)
  refine Post.bind hstart fun compensated s _ => ?_
  cases compensated with
  | false => trivial
  | true => exact Post.bind (writeAhead_settle (by simpa using hid) (by simp)) fun _ _ h => h

theorem writeAhead_stop {owner : StopOwner} (hid : state.profileId = c.profile.profileId) :
    wp (writeAhead c) (stop c.profile state events now owner)
      (Safely fun result => Settled c result.2.1) s := by
  refine Post.bind (writeAhead_persist hid) fun events s1 hp1 =>
    Post.bind writeAhead_isActive fun active s2 hdb2 => ?_
  cases active with
  | false => exact writeAhead_refuse hid
  | true =>
    have hp : s2.1.pending c.profile.profileId = some owner.action := by rw [hdb2, hp1]; rfl
    obtain ⟨db, h⟩ := s2
    have hcommand : wp (writeAhead c)
        (orOnCommandError (SystemdController.stop c.profile.serviceName) false)
        (Safely fun stopped s => stopped = true → s = (db, .did (.systemctl .isActive
          c.profile.serviceName) (some 3) :: .did (.systemctl .stop c.profile.serviceName) (some 0) ::
          h)) (db, h) := by
      refine wp_stop_command.2 (run_commanded.2 ⟨⟨rfl, owner.action, hp, by cases owner <;> rfl⟩,
        fun _ _ => nofun, trivial, fun code => ⟨fun hcode _ => ?_, fun _ => nofun⟩⟩)
      rw [seenActive_eq_false hcode]
    refine Post.bind hcommand fun stopped s hs => ?_
    cases stopped with
    | false => exact writeAhead_refuse hid
    | true =>
      obtain rfl := hs rfl
      refine Post.handle (χ := fun s => s.1.pending c.profile.profileId = some owner.action ∧
        Compensating c.profile.serviceName s.2) ?_ fun _ s' h => writeAhead_compensate hid h.1 h.2
      refine wp_bind.2 (run_persist.2 ⟨trivial, fun db' hdb => ?_, fun _ _ => ⟨hp, ?_⟩⟩)
      · exact settled_of_persist (by simpa using hid) (by simp) hdb
      · simp [Compensating]

theorem writeAhead_start {owner : StartOwner} (hid : state.profileId = c.profile.profileId) :
    wp (writeAhead c) (start c.profile state events now owner)
      (Safely fun result => Settled c result.2.1) s := by
  refine Post.bind (writeAhead_persist hid) fun events s1 hp1 =>
    Post.bind writeAhead_isActive fun active s2 hdb2 => ?_
  have hp : s2.1.pending c.profile.profileId = some owner.action := by rw [hdb2, hp1]; rfl
  refine Post.bind (writeAhead_startIfInactive hp (by cases owner <;> rfl)) fun started s3 _ => ?_
  cases started with
  | false => exact writeAhead_refuse hid
  | true =>
    exact Post.bind (Post.handle (writeAhead_settle (by simpa using hid) (by simp)) fun _ _ _ =>
      writeAhead_settle (by simpa using hid) (by simp)) fun _ _ h => h

/-! ### The engine -/

theorem writeAhead_getState :
    wp (writeAhead c) (getState c.profile) (Safely fun state s =>
      state.profileId = c.profile.profileId ∧
      s.1.pending c.profile.profileId = state.pendingAction) s := by
  obtain ⟨db, h⟩ := s
  exact run_getState.2 ⟨trivial, Database.getState_profileId, pending_getState.symm⟩

/-- Assignments that do not concern the intent keep a call settled. -/
theorem Settled.congr {state' : ProfileState} (h : Settled c state s)
    (hid : state'.profileId = state.profileId)
    (hp : state'.pendingAction = state.pendingAction) : Settled c state' s :=
  ⟨hid.trans h.1, hp.trans h.2.1, h.2.2⟩

/-- Neither does any operation other than a write. -/
theorem Settled.of_fst {s' : Database × List RunEvent} (h : Settled c state s) (hs : s'.1 = s.1) :
    Settled c state s' :=
  ⟨h.1, h.2.1, by rw [hs]; exact h.2.2⟩

theorem writeAhead_reconcileIfPending (hid : state.profileId = c.profile.profileId)
    (hp : s.1.pending c.profile.profileId = state.pendingAction) :
    wp (writeAhead c) (reconcileIfPending c.profile state events now)
      (Safely fun draft => Settled c draft.1) s :=
  wp_ite.2 ⟨fun _ => writeAhead_reconcilePending hid hp, fun hnone =>
    have hnone : state.pendingAction = none := by simpa using hnone
    ⟨hid, hnone, hp.trans hnone⟩⟩

/-- The end of a call that has settled: write the row, which settles it again, and return it. -/
theorem writeAhead_persistAndReturn (hs : Settled c state s) :
    wp (writeAhead c) (do let _ ← persist state events; return state : Action ProfileState)
      (Safely fun state => Settled c state) s :=
  Post.bind (writeAhead_settle hs.1 hs.2.1) fun _ _ h => h

theorem writeAhead_stopIfOwnedTransition (hs : Settled c state s) :
    wp (writeAhead c) (WatchdogEngine.stopIfOwnedTransition c.profile state now events)
      (Safely fun draft => Settled c draft.1) s :=
  wp_ite.2 ⟨fun _ => hs, fun _ => Post.bind (writeAhead_stop hs.1) fun _ _ h => h⟩

theorem writeAhead_startAfterRecovery (hs : Settled c state s) :
    wp (writeAhead c) (WatchdogEngine.startAfterRecovery c.profile state now events)
      (Safely fun draft => Settled c draft.1) s :=
  wp_ite.2 ⟨fun _ => hs, fun _ => Post.bind (writeAhead_start hs.1) fun _ _ h => h⟩

theorem writeAhead_continueRecovery (hs : Settled c state s) :
    wp (writeAhead c) (WatchdogEngine.continueRecovery c.profile state now events)
      (Safely fun draft => Settled c draft.1) s := by
  refine wp_ite.2 ⟨fun _ => hs, fun _ => ?_⟩
  refine Post.bind (φ := fun fixed : ProfileState × Int => Settled c fixed.1) ?_ ?_
  · unfold WatchdogEngine.fixRecoveryReady
    split
    · exact hs
    · obtain ⟨db, h⟩ := s
      refine Post.bind (φ := fun _ => Settled c state) (run_jitter.2 ⟨trivial, fun _ => hs⟩) ?_
      exact fun jitter s hs => wp_ite.2 ⟨fun _ => trivial, fun _ => hs.congr rfl rfl⟩
  · rintro ⟨state, readyAt⟩ s hs
    refine wp_ite.2 ⟨fun _ => writeAhead_startAfterRecovery (hs.congr ?_ ?_), fun _ => hs⟩ <;>
      simp [transition_fst]

theorem writeAhead_countResult {result : ProbeResult} (hs : Settled c state s) :
    wp (writeAhead c) (WatchdogEngine.countResult c.profile state result now events)
      (Safely fun draft => Settled c draft.1) s := by
  refine wp_ite.2 ⟨fun _ => ?_, fun _ => ?_⟩
  · unfold WatchdogEngine.successfulCheck
    cases hh : state.healthState with
    | unknown | degraded => exact hs.congr (by simp [transition_fst]) (by simp [transition_fst])
    | healthy => exact writeAhead_startAfterRecovery (hs.congr rfl rfl)
    | down =>
      exact writeAhead_continueRecovery (hs.congr (by simp [transition_fst])
        (by simp [transition_fst]))
    | recovering => exact writeAhead_continueRecovery (hs.congr rfl rfl)
  · have hcongr : ∀ {state' : ProfileState} {newState hne}, state'.profileId = state.profileId →
        state'.pendingAction = state.pendingAction → Settled c
          (WatchdogEngine.transition state' newState hne now events).1 s := fun hid hp =>
      hs.congr (by simp [transition_fst, hid]) (by simp [transition_fst, hp])
    refine wp_ite.2 ⟨fun _ => hcongr rfl rfl, fun _ => wp_ite.2 ⟨fun _ => wp_ite.2 ⟨fun _ =>
      writeAhead_stopIfOwnedTransition (hcongr rfl rfl), fun _ => hcongr rfl rfl⟩, fun _ =>
      wp_ite.2 ⟨fun _ => hcongr rfl rfl, fun _ => hs.congr rfl rfl⟩⟩⟩

theorem writeAhead_reconcileServiceInAuto (hs : Settled c state s) :
    wp (writeAhead c) (WatchdogEngine.reconcileServiceInAuto c.profile state now events)
      (Safely fun draft => Settled c draft.1) s := by
  refine wp_ite.2 ⟨fun _ => ?_, fun _ => hs⟩
  refine Post.bind (writeAhead_reconcileIfPending hs.1 (hs.2.2.trans hs.2.1.symm)) ?_
  rintro ⟨state, events⟩ s hs
  refine wp_ite.2 ⟨fun _ => hs, fun _ => Post.bind writeAhead_isActive fun active s' hdb => ?_⟩
  unfold WatchdogEngine.noticeOperator
  simp only
  split
  · exact (hs.congr (by simp) (by simp)).of_fst hdb
  · split <;> exact (hs.congr (by simp) (by simp)).of_fst hdb

theorem writeAhead_process {result : ProbeResult} :
    wp (writeAhead c) (WatchdogEngine.process c.profile result now)
      (Safely fun state => Settled c state) s := by
  refine Post.bind writeAhead_getState fun state s hs =>
    Post.bind (writeAhead_reconcileIfPending hs.1 hs.2) ?_
  rintro ⟨state, events⟩ s hs
  refine wp_ite.2 ⟨fun _ => hs, fun _ => ?_⟩
  have hcheck : wp (writeAhead c) (WatchdogEngine.check c.profile
      { state with lastCheckAt := some now } result now events)
      (Safely fun state => Settled c state) s := by
    refine Post.bind (writeAhead_reconcileServiceInAuto (hs.congr rfl rfl)) ?_
    rintro ⟨state, events⟩ s hs
    refine Post.bind (writeAhead_countResult hs) ?_
    rintro ⟨state, events⟩ s hs
    exact writeAhead_persistAndReturn hs
  cases result with
  | probeError errorCategory => exact writeAhead_persistAndReturn (hs.congr rfl rfl)
  | success | unreachable => exact hcheck

/-! ### The maintenance commands -/

theorem writeAhead_enter {active stopNow : Bool} (hs : Settled c state s) :
    wp (writeAhead c) (MaintenanceController.enter c.profile state events now active stopNow)
      (Safely fun draft => Settled c draft.1) s := by
  have hs' : Settled c (state.setMaintenance true) s := hs.congr rfl rfl
  have hstop : wp (writeAhead c) (MaintenanceController.stopForMaintenance c.profile
      (state.setMaintenance true) events now (stopNow && active))
      (Safely fun draft => Settled c draft.1) s :=
    wp_ite.2 ⟨fun _ => Post.bind (writeAhead_stop hs'.1) fun _ _ h => h, fun _ => hs'⟩
  exact Post.bind hstop fun _ _ hs => hs

theorem writeAhead_exit {active startNow : Bool} (hs : Settled c state s) :
    wp (writeAhead c) (MaintenanceController.exit c.profile state events now active startNow)
      (Safely fun draft => Settled c draft.1) s := by
  have hstart : wp (writeAhead c) (MaintenanceController.startOwned c.profile state events now active)
      (Safely fun draft => Settled c draft.1) s :=
    wp_ite.2 ⟨fun _ => hs, fun _ => wp_ite.2 ⟨fun _ => trivial, fun _ =>
      Post.bind (writeAhead_start hs.1) fun _ _ h => wp_ite.2 ⟨fun _ => trivial, fun _ => h⟩⟩⟩
  have hsettle : wp (writeAhead c) (MaintenanceController.settleUnit c.profile state events now active
      startNow) (Safely fun draft => Settled c draft.1) s := by
    refine wp_ite.2 ⟨fun _ => wp_ite.2 ⟨fun _ => trivial, fun _ => Post.bind hstart ?_⟩,
      fun _ => wp_ite.2 ⟨fun _ => hs.congr (by simp) (by simp), fun _ => hs⟩⟩
    rintro ⟨state, events⟩ s hs
    exact hs.congr (by simp) (by simp)
  refine Post.bind hsettle ?_
  rintro ⟨state, events⟩ s hs
  exact hs.congr (by simp) (by simp)

theorem writeAhead_apply {action : MaintenanceAction} :
    wp (writeAhead c) (MaintenanceController.apply c.profile action now)
      (Safely fun state => Settled c state) s := by
  refine Post.bind writeAhead_getState fun state s hs =>
    Post.bind (writeAhead_reconcilePending hs.1 hs.2) ?_
  rintro ⟨state, events⟩ s hs
  refine Post.bind writeAhead_isActive fun active s' hdb => ?_
  have hs' : Settled c (state.observe active now) s' := (hs.congr rfl rfl).of_fst hdb
  have hperform : wp (writeAhead c) (MaintenanceController.perform c.profile
      (state.observe active now) events now active action)
      (Safely fun draft => Settled c draft.1) s' := by
    cases action with
    | enterKeep | enterStop => exact writeAhead_enter hs'
    | exitNoStart | exitStart => exact writeAhead_exit hs'
  refine Post.bind hperform ?_
  rintro ⟨state, events⟩ s hs
  exact writeAhead_persistAndReturn (hs.congr rfl rfl)

theorem writeAhead_startOwnedForModeChange :
    wp (writeAhead c) (MaintenanceController.startOwnedForModeChange c.profile now)
      (Safely fun state => Settled c state) s := by
  refine Post.bind writeAhead_getState fun state s hs => wp_ite.2 ⟨fun _ => trivial, fun _ =>
    wp_ite.2 ⟨fun _ => trivial, fun _ => Post.bind (writeAhead_start hs.1) ?_⟩⟩
  rintro ⟨started, state, events⟩ s hs
  exact wp_ite.2 ⟨fun _ => trivial, fun _ => hs⟩

end Rules

/-! ## Runs -/

/-- Every call issues its commands under an intent, and has settled when it returns. -/
theorem serviceCalls_keeps : serviceCalls.Keeps (fun _ _ => True) WrittenAhead
    fun c db h r => Safely (fun state => Settled c state) r (db, h) where
  call := by
    rintro db h c - hc
    cases c with
    | process profile result now => exact writeAhead_process (c := .process profile result now)
    | reconcilePending profile now =>
      refine Post.bind (writeAhead_getState (c := .reconcilePending profile now)) fun state s hs =>
        Post.bind (writeAhead_reconcileIfPending hs.1 hs.2) fun _ _ h => h
    | apply profile action now => exact writeAhead_apply (c := .apply profile action now)
    | startOwnedForModeChange profile now =>
      exact writeAhead_startOwnedForModeChange (c := .startOwnedForModeChange profile now)
    | rearm profile now => exact absurd rfl (hc profile now)
  finish := fun _ _ _ _ _ => trivial
  alone := nofun
  cut := fun _ _ _ _ _ _ => trivial
  cut_last := fun _ _ _ _ _ _ => trivial

/-- A row with a pending intent is in the database. -/
theorem Database.row_of_pending {db : Database} {profileId : String} {action : PendingAction}
    (h : db.pending profileId = some action) :
    ∃ row, db.rows profileId = some row ∧ row.pendingAction = some action :=
  Option.bind_eq_some_iff.1 h

/-- **Write-ahead.** In every run of the daemon and of the maintenance commands, from any database:
a `stop` command is issued for the unit of the profile while the row of that profile has a pending stop;
a `start` command while it has a pending start, or, in the compensating start of `stop`, while it
still has the pending stop; and a call that returns normally leaves no intent in the row. -/
theorem commands_follow_intents {db₀ : Database} {cfg : serviceCalls.Config}
    (hr : serviceCalls.Reachable db₀ cfg) {c : Call} :
    (∀ serviceName, cfg.Issues c (.systemctl .stop serviceName) →
      serviceName = c.profile.serviceName ∧ ∃ row, cfg.world.rows c.profile.profileId = some row ∧
        (row.pendingAction = some .stopWatchdog ∨ row.pendingAction = some .stopMaintenance)) ∧
    (∀ serviceName, cfg.Issues c (.systemctl .start serviceName) →
      serviceName = c.profile.serviceName ∧ ∃ row, cfg.world.rows c.profile.profileId = some row ∧
        ((row.pendingAction = some .startWatchdog ∨ row.pendingAction = some .startMaintenance ∨
            row.pendingAction = some .startOperator) ∨
          (row.pendingAction = some .stopWatchdog ∨ row.pendingAction = some .stopMaintenance) ∧
            Compensating serviceName cfg.history)) ∧
    (∀ state, cfg.Returns c (.ok state) → ∀ row, cfg.world.rows c.profile.profileId = some row →
      row.pendingAction = none) := by
  refine ⟨fun serviceName hi => ?_, fun serviceName hi => ?_, fun state hi row hrow => ?_⟩
  · obtain ⟨hs, action, hp, hstop⟩ := serviceCalls_keeps.issues trivial hr hi
    obtain ⟨row, hrow, hpend⟩ := Database.row_of_pending hp
    refine ⟨hs, row, hrow, ?_⟩
    cases action <;> simp_all [PendingAction.isStop]
  · obtain ⟨hs, action, hp, hstop⟩ := serviceCalls_keeps.issues trivial hr hi
    obtain ⟨row, hrow, hpend⟩ := Database.row_of_pending hp
    refine ⟨hs, row, hrow, ?_⟩
    cases action <;> simp_all [PendingAction.isStop]
  · have hs : Settled c state (cfg.world, cfg.history) := serviceCalls_keeps.returns trivial hr hi
    have hp := hs.2.2
    simp only [Database.pending, hrow, Option.bind_some] at hp
    exact hp

/-- The first outage: the call is about to stop the unit, and the row has the intent. -/
theorem commands_follow_intents_firstOutage :
    ∃ row, (serviceCalls.script .empty (played (firstOutage 4))).world.rows "iran-1" = some row ∧
      (row.pendingAction = some .stopWatchdog ∨ row.pendingAction = some .stopMaintenance) := by
  have hr : serviceCalls.Reachable .empty (serviceCalls.script .empty (played (firstOutage 4))) :=
    reachable_played (by simp [firstOutage])
  have hi : (serviceCalls.script .empty (played (firstOutage 4))).Issues
    (.process nervousProfile .unreachable 100) (.systemctl .stop "gost-iran-1.service") := ⟨_, rfl⟩
  exact ((commands_follow_intents hr).1 _ hi).2

end Watchdog
