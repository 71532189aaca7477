import GostManager.Watchdog.Invariants
import GostManager.Watchdog.Proofs.PersistsProofs
import GostManager.Watchdog.Proofs.RunsProofs
import GostManager.Watchdog.Proofs.StorageProofs

/-!
# Proofs: every row written is consistent

The durable actions touch the ownership and the intent of a row but not its health; the counting of
probe results touches its health but not the rest. So the two halves of `Consistent` are kept
separately.
-/

namespace Watchdog

open Effects Effects.Prog Effects.Machine

namespace ProfileState

/-- The fields of a row that say who owns a stop and whether there is an intent. -/
def ownership (state : ProfileState) : Bool × Bool × Bool × Bool × Bool :=
  (state.maintenance, state.stoppedByWatchdog, state.stoppedByMaintenance,
    state.pendingAction.isSome, state.pendingActionAt.isSome)

variable {state state' : ProfileState}

/-- A row whose health is as before is consistent if its ownership and its intent are. -/
theorem Consistent.of_healthRecord (h : state.Consistent)
    (hh : state'.healthRecord = state.healthRecord)
    (hone : state'.stoppedByWatchdog = true → state'.stoppedByMaintenance = true → False)
    (hm : state'.stoppedByMaintenance = true → state'.maintenance = true)
    (hp : state'.pendingAction.isSome = true ↔ state'.pendingActionAt.isSome = true) :
    state'.Consistent := by
  simp only [healthRecord, Prod.mk.injEq] at hh
  obtain ⟨h1, h2, h3, h4, h5, h6⟩ := hh
  exact ⟨hone, hm, by rw [h4, h1]; exact h.outage, by rw [h5, h1]; exact h.recovery,
    by rw [h6, h1]; exact h.ready, by rw [h1, h2, h3]; exact h.failing,
    by rw [h1, h2]; exact h.not_failing, by rw [h1, h3]; exact h.succeeding, hp⟩

/-- A row whose ownership is as before is consistent if its health is. -/
theorem Consistent.of_ownership (h : state.Consistent) (ho : state'.ownership = state.ownership)
    (houtage : state'.outageStartedAt.isSome = true ↔
      state'.healthState = .down ∨ state'.healthState = .recovering)
    (hrecovery : state'.recoveryStartedAt.isSome = true ↔ state'.healthState = .recovering)
    (hready : state'.recoveryReadyAt.isSome = true → state'.healthState = .recovering)
    (hfailing : state'.healthState = .degraded ∨ state'.healthState = .down →
      1 ≤ state'.failureCount ∧ state'.successCount = 0)
    (hnot : state'.healthState = .unknown ∨ state'.healthState = .healthy ∨
      state'.healthState = .recovering → state'.failureCount = 0)
    (hsucc : state'.healthState = .healthy ∨ state'.healthState = .recovering →
      1 ≤ state'.successCount) : state'.Consistent := by
  simp only [ownership, Prod.mk.injEq] at ho
  obtain ⟨h1, h2, h3, h4, h5⟩ := ho
  exact ⟨by rw [h2, h3]; exact h.one_owner, by rw [h3, h1]; exact h.owned_maintenance, houtage,
    hrecovery, hready, hfailing, hnot, hsucc, by rw [h4, h5]; exact h.pending⟩

/-- Fields that neither half mentions may change freely. -/
theorem Consistent.congr (h : state.Consistent) (hh : state'.healthRecord = state.healthRecord)
    (ho : state'.ownership = state.ownership) : state'.Consistent := by
  simp only [ownership, Prod.mk.injEq] at ho
  obtain ⟨h1, h2, h3, h4, h5⟩ := ho
  exact h.of_healthRecord hh (by rw [h2, h3]; exact h.one_owner)
    (by rw [h3, h1]; exact h.owned_maintenance) (by rw [h4, h5]; exact h.pending)

end ProfileState

section Rules

variable {σ : Type} {C : Contract Op Ans σ} {A : σ → Prop} {s : σ}
variable {profile : ManagedProfile} {state : ProfileState} {events : List WatchdogEvent} {now : Int}

open ProfileState

/-- The contract under which only consistent rows may be written. -/
abbrev PersistsConsistent (C : Contract Op Ans σ) (A : σ → Prop) : Prop :=
  Persists C A ProfileState.Consistent

namespace PersistsConsistent

theorem stop (h : PersistsConsistent C A) {owner : StopOwner} (hs : A s) (hc : state.Consistent)
    (hm : owner = .maintenance → state.maintenance = true) :
    wp C (DurableServiceActions.stop profile state events now owner)
      (Ends A fun result => result.2.1.Consistent) s := by
  refine Persists.stop h hs ?_ (fun active => ?_) ?_ ?_
  · exact hc.of_healthRecord (by simp [healthRecord]) hc.one_owner hc.owned_maintenance (by simp)
  · exact hc.of_healthRecord (by simp [healthRecord]) hc.one_owner hc.owned_maintenance (by simp)
  · refine hc.of_healthRecord (by simp [healthRecord]) ?_ ?_ (by simp) <;> cases owner <;> simp [hm]
  · exact hc.of_healthRecord (by simp [healthRecord]) (by simp) (by simp) (by simp)

theorem start (h : PersistsConsistent C A) {owner : StartOwner} (hs : A s) (hc : state.Consistent) :
    wp C (DurableServiceActions.start profile state events now owner)
      (Ends A fun result => result.2.1.Consistent) s := by
  refine Persists.start h hs ?_ (fun active => ?_) fun active => ?_
  · exact hc.of_healthRecord (by simp [healthRecord]) hc.one_owner hc.owned_maintenance (by simp)
  · exact hc.of_healthRecord (by simp [healthRecord]) hc.one_owner hc.owned_maintenance (by simp)
  · exact hc.of_healthRecord (by simp [healthRecord]) (by simp) (by simp) (by simp)

theorem reconcilePending (h : PersistsConsistent C A) (hs : A s) (hc : state.Consistent) :
    wp C (DurableServiceActions.reconcilePending profile state events now)
      (Ends A fun draft => draft.1.Consistent) s := by
  refine Persists.reconcilePending h hs hc (fun _ => ?_) (fun active _ => ?_) (fun active _ => ?_)
    (fun action active _ hstop => ?_) fun action active _ hstart => ?_
  · exact hc.of_healthRecord (by simp [healthRecord]) hc.one_owner hc.owned_maintenance (by simp)
  · exact hc.of_healthRecord (by simp [healthRecord]) (by simp) (by simp) (by simp)
  · exact hc.of_healthRecord (by simp [healthRecord]) hc.one_owner hc.owned_maintenance (by simp)
  · cases action with
    | stopWatchdog | stopMaintenance =>
      refine hc.of_healthRecord ?_ ?_ ?_ ?_ <;>
        simp [DurableServiceActions.finalizePendingStop, healthRecord]
    | _ => exact absurd hstop (by decide)
  · cases action with
    | startWatchdog | startMaintenance | startOperator =>
      refine hc.of_healthRecord ?_ ?_ ?_ ?_ <;>
        simp [DurableServiceActions.finalizePendingStart, healthRecord]
    | _ => exact absurd hstart (by decide)

theorem reconcileIfPending (h : PersistsConsistent C A) (hs : A s) (hc : state.Consistent) :
    wp C (DurableServiceActions.reconcileIfPending profile state events now)
      (Ends A fun draft => draft.1.Consistent) s :=
  wp_ite.2 ⟨fun _ => reconcilePending h hs hc, fun _ => ends_pure hs hc⟩

theorem stopIfOwnedTransition (h : PersistsConsistent C A) (hs : A s) (hc : state.Consistent) :
    wp C (WatchdogEngine.stopIfOwnedTransition profile state now events)
      (Ends A fun draft => draft.1.Consistent) s :=
  wp_ite.2 ⟨fun _ => ends_pure hs hc, fun _ =>
    Ends.bind (stop h hs hc (by rintro ⟨⟩)) fun _ _ hs hc => ends_pure hs hc⟩

theorem startAfterRecovery (h : PersistsConsistent C A) (hs : A s) (hc : state.Consistent) :
    wp C (WatchdogEngine.startAfterRecovery profile state now events)
      (Ends A fun draft => draft.1.Consistent) s :=
  wp_ite.2 ⟨fun _ => ends_pure hs hc, fun _ =>
    Ends.bind (start h hs hc) fun _ _ hs hc => ends_pure hs hc⟩

/-- Once the recovery is over, nothing of the outage is left. -/
theorem completeRecovery (h : PersistsConsistent C A) (hs : A s) (hc : state.Consistent)
    (hr : state.healthState = .recovering) :
    wp C (WatchdogEngine.completeRecovery profile state now events)
      (Ends A fun draft => draft.1.Consistent) s := by
  refine startAfterRecovery h hs (hc.of_ownership ?_ ?_ ?_ ?_ ?_ ?_ ?_) <;>
    simp [transition_fst, ownership, hc.not_failing, hc.succeeding, hr]

theorem continueRecovery (h : PersistsConsistent C A) (hs : A s) (hc : state.Consistent)
    (hr : state.healthState = .recovering) :
    wp C (WatchdogEngine.continueRecovery profile state now events)
      (Ends A fun draft => draft.1.Consistent) s := by
  refine wp_ite.2 ⟨fun _ => ends_pure hs hc, fun _ => ?_⟩
  refine Ends.bind (φ := fun fixed : ProfileState × Int => fixed.1.Consistent ∧
    fixed.1.healthState = .recovering) ?_ ?_
  · unfold WatchdogEngine.fixRecoveryReady
    split
    · exact ends_pure hs ⟨hc, hr⟩
    · refine Ends.bind (h.jitter hs) fun jitter s hs _ => wp_ite.2 ⟨fun _ => ends_raise hs, fun _ =>
        ends_pure hs ⟨?_, hr⟩⟩
      exact hc.of_ownership rfl hc.outage hc.recovery (fun _ => hr) hc.failing hc.not_failing
        hc.succeeding
  · rintro ⟨state, readyAt⟩ s hs ⟨hc, hr⟩
    exact wp_ite.2 ⟨fun _ => completeRecovery h hs hc hr, fun _ => ends_pure hs hc⟩

theorem successfulCheck (h : PersistsConsistent C A) (hs : A s) (hc : state.Consistent) :
    wp C (WatchdogEngine.successfulCheck profile state now events)
      (Ends A fun draft => draft.1.Consistent) s := by
  have hone : 1 ≤ min (state.successCount + 1) profile.config.successThreshold :=
    le_min (by omega) profile.config.successThreshold_pos
  have ho := hc.outage
  have hr := hc.recovery
  have hready := hc.ready
  unfold WatchdogEngine.successfulCheck
  cases hh : state.healthState with
  | unknown | degraded =>
    refine ends_pure hs (hc.of_ownership ?_ ?_ ?_ ?_ ?_ ?_ ?_) <;>
      simp_all [transition_fst, ownership]
  | healthy =>
    refine startAfterRecovery h hs (hc.of_ownership ?_ ?_ ?_ ?_ ?_ ?_ ?_) <;>
      simp_all [ownership]
  | down =>
    refine continueRecovery h hs (hc.of_ownership ?_ ?_ ?_ ?_ ?_ ?_ ?_) ?_ <;>
      simp_all [transition_fst, ownership]
  | recovering =>
    refine continueRecovery h hs (hc.of_ownership ?_ ?_ ?_ ?_ ?_ ?_ ?_) ?_ <;>
      simp_all [ownership]

theorem failedCheck (h : PersistsConsistent C A) (hs : A s) (hc : state.Consistent) :
    wp C (WatchdogEngine.failedCheck profile state now events)
      (Ends A fun draft => draft.1.Consistent) s := by
  have hone : 1 ≤ min (state.failureCount + 1) profile.config.failureThreshold :=
    le_min (by omega) profile.config.failureThreshold_pos
  have ho := hc.outage
  unfold WatchdogEngine.failedCheck
  refine wp_ite.2 ⟨fun hh => ?_, fun hr => wp_ite.2 ⟨fun _ => ?_, fun _ => wp_ite.2 ⟨fun hh => ?_,
    fun hh => ?_⟩⟩⟩
  · refine ends_pure hs (hc.of_ownership ?_ ?_ ?_ ?_ ?_ ?_ ?_) <;>
      simp_all [transition_fst, ownership]
  · have hdown : (WatchdogEngine.transition { state with
        successCount := 0
        failureCount := min (state.failureCount + 1) profile.config.failureThreshold
        recoveryStartedAt := none
        recoveryReadyAt := none
        recoveryJitterSeconds := 0
        outageStartedAt := state.outageStartedAt.or (some now) } .down (by decide) now
        events).1.Consistent := by
      refine hc.of_ownership ?_ ?_ ?_ ?_ ?_ ?_ ?_ <;> simp_all [transition_fst, ownership]
    exact wp_ite.2 ⟨fun _ => stopIfOwnedTransition h hs hdown, fun _ => ends_pure hs hdown⟩
  · refine ends_pure hs (hc.of_ownership ?_ ?_ ?_ ?_ ?_ ?_ ?_) <;>
      rcases hh with hh | hh <;> simp_all [transition_fst, ownership]
  · refine ends_pure hs (hc.of_ownership ?_ ?_ ?_ ?_ ?_ ?_ ?_) <;>
      cases hstate : state.healthState <;> simp_all [ownership]

theorem noticeOperator (hc : state.Consistent) {active : Bool} :
    (WatchdogEngine.noticeOperator state now events active).1.Consistent := by
  unfold WatchdogEngine.noticeOperator
  simp only
  split
  · exact hc.of_healthRecord (by simp [healthRecord]) (by simp) (by simp) (by simp [hc.pending])
  · split
    · exact hc.congr (by simp [healthRecord]) (by simp [ownership])
    · exact hc.congr (by simp [healthRecord]) (by simp [ownership])

theorem reconcileServiceInAuto (h : PersistsConsistent C A) (hs : A s) (hc : state.Consistent) :
    wp C (WatchdogEngine.reconcileServiceInAuto profile state now events)
      (Ends A fun draft => draft.1.Consistent) s := by
  refine wp_ite.2 ⟨fun _ => Ends.bind (reconcileIfPending h hs hc) ?_, fun _ => ends_pure hs hc⟩
  rintro ⟨state, events⟩ s hs hc
  exact wp_ite.2 ⟨fun _ => ends_pure hs hc, fun _ => Ends.bind (h.isActive hs) fun _ _ hs _ =>
    ends_pure hs (noticeOperator hc)⟩

theorem check (h : PersistsConsistent C A) (hs : A s) (hc : state.Consistent)
    {result : ProbeResult} :
    wp C (WatchdogEngine.check profile state result now events)
      (Ends A fun state => state.Consistent) s := by
  have hc' : ({ state with
      checkStatus := .probed result.status, lastProbeErrorCategory := none }
      : ProfileState).Consistent := hc.congr rfl rfl
  refine Ends.bind (reconcileServiceInAuto h hs hc') ?_
  rintro ⟨state, events⟩ s hs hc
  have hcount : wp C (WatchdogEngine.countResult profile state result now events)
      (Ends A fun draft => draft.1.Consistent) s :=
    wp_ite.2 ⟨fun _ => successfulCheck h hs hc, fun _ => failedCheck h hs hc⟩
  refine Ends.bind hcount ?_
  rintro ⟨state, events⟩ s hs hc
  exact Ends.bind (h.persist hs hc) fun _ _ hs _ => ends_pure hs hc

theorem process (h : PersistsConsistent C A) (hs : A s) {result : ProbeResult} :
    wp C (WatchdogEngine.process profile result now) (Ends A fun state => state.Consistent) s := by
  refine Ends.bind (h.getState hs) fun state s hs hc => Ends.bind (reconcileIfPending h hs hc) ?_
  rintro ⟨state, events⟩ s hs hc
  refine wp_ite.2 ⟨fun _ => ends_pure hs hc, fun _ => ?_⟩
  have hc' : ({ state with lastCheckAt := some now } : ProfileState).Consistent := hc.congr rfl rfl
  cases result with
  | probeError errorCategory =>
    have hc'' : ({ state with
        lastCheckAt := some now
        checkStatus := .probed .probeError
        lastProbeErrorCategory := some errorCategory } : ProfileState).Consistent := hc.congr rfl rfl
    exact Ends.bind (h.persist hs hc'') fun _ _ hs _ => ends_pure hs hc''
  | success | unreachable => exact check h hs hc'

theorem enter (h : PersistsConsistent C A) (hs : A s) (hc : state.Consistent) {active stopNow : Bool} :
    wp C (MaintenanceController.enter profile state events now active stopNow)
      (Ends A fun draft => draft.1.Consistent) s := by
  have hm : (state.setMaintenance true).Consistent :=
    hc.of_healthRecord rfl hc.one_owner (fun _ => rfl) hc.pending
  have hstop : wp C (MaintenanceController.stopForMaintenance profile (state.setMaintenance true)
      events now (stopNow && active)) (Ends A fun draft => draft.1.Consistent) s :=
    wp_ite.2 ⟨fun _ => Ends.bind (stop h hs hm fun _ => rfl) fun _ _ hs hc => ends_pure hs hc,
      fun _ => ends_pure hs hm⟩
  exact Ends.bind hstop fun _ _ hs hc => ends_pure hs hc

theorem exit (h : PersistsConsistent C A) (hs : A s) (hc : state.Consistent)
    {active startNow : Bool} :
    wp C (MaintenanceController.exit profile state events now active startNow)
      (Ends A fun draft => draft.1.Consistent) s := by
  have hstart : wp C (MaintenanceController.startOwned profile state events now active)
      (Ends A fun draft => draft.1.Consistent) s := by
    refine wp_ite.2 ⟨fun _ => ends_pure hs hc, fun _ => wp_ite.2 ⟨fun _ => ends_raise hs, fun _ =>
      Ends.bind (start h hs hc) fun result s hs hc => ?_⟩⟩
    exact wp_ite.2 ⟨fun _ => ends_raise hs, fun _ => ends_pure hs hc⟩
  have hsettle : wp C (MaintenanceController.settleUnit profile state events now active startNow)
      (Ends A fun draft => draft.1.Consistent) s := by
    refine wp_ite.2 ⟨fun _ => wp_ite.2 ⟨fun _ => ends_raise hs, fun _ => Ends.bind hstart ?_⟩,
      fun _ => wp_ite.2 ⟨fun _ => ends_pure hs ?_, fun _ => ends_pure hs hc⟩⟩
    · rintro ⟨state, events⟩ s hs hc
      exact ends_pure hs (hc.of_healthRecord (by simp [healthRecord]) (by simp) (by simp)
        (by simp [hc.pending]))
    · exact hc.congr (by simp [healthRecord]) (by simp [ownership])
  refine Ends.bind hsettle ?_
  rintro ⟨state, events⟩ s hs hc
  exact ends_pure hs (hc.of_healthRecord (by simp [healthRecord]) (by simp) (by simp)
    (by simp [hc.pending]))

theorem apply (h : PersistsConsistent C A) (hs : A s) {action : MaintenanceAction} :
    wp C (MaintenanceController.apply profile action now) (Ends A fun state => state.Consistent)
      s := by
  refine Ends.bind (h.getState hs) fun state s hs hc => Ends.bind (reconcilePending h hs hc) ?_
  rintro ⟨state, events⟩ s hs hc
  refine Ends.bind (h.isActive hs) fun active s hs _ => ?_
  have hc' : (state.observe active now).Consistent := hc.congr rfl rfl
  have hperform : wp C (MaintenanceController.perform profile (state.observe active now) events now
      active action) (Ends A fun draft => draft.1.Consistent) s := by
    cases action with
    | enterKeep | enterStop => exact enter h hs hc'
    | exitNoStart | exitStart => exact exit h hs hc'
  refine Ends.bind hperform ?_
  rintro ⟨state, events⟩ s hs hc
  have hc' : ({ state with lastTransitionAt := some now } : ProfileState).Consistent :=
    hc.congr rfl rfl
  exact Ends.bind (h.persist hs hc') fun _ _ hs _ => ends_pure hs hc'

theorem startOwnedForModeChange (h : PersistsConsistent C A) (hs : A s) :
    wp C (MaintenanceController.startOwnedForModeChange profile now)
      (Ends A fun state => state.Consistent) s := by
  refine Ends.bind (h.getState hs) fun state s hs hc => wp_ite.2 ⟨fun _ => ends_raise hs, fun _ =>
    wp_ite.2 ⟨fun _ => ends_raise hs, fun _ => Ends.bind (start h hs hc) ?_⟩⟩
  rintro ⟨started, state, events⟩ s hs hc
  exact wp_ite.2 ⟨fun _ => ends_raise hs, fun _ => ends_pure hs hc⟩

theorem rearm (h : PersistsConsistent C A) (hs : A s) :
    wp C (MaintenanceController.rearm profile now) (Ends A fun state => state.Consistent) s := by
  refine Ends.bind (h.getState hs) fun state s hs hc => wp_ite.2 ⟨fun _ => ends_raise hs, fun _ =>
    Ends.bind (h.isActive hs) fun active s hs _ => wp_ite.2 ⟨fun _ => ends_raise hs, fun _ => ?_⟩⟩
  have hc' : ((state.setOverride false).observe active now).Consistent :=
    hc.congr (by simp [healthRecord]) (by simp [ownership])
  exact Ends.bind (h.persist hs hc') fun _ _ hs _ => ends_pure hs hc'

/-- Every call writes only consistent rows. -/
theorem body (h : PersistsConsistent C A) (hs : A s) (c : Call) :
    wp C c.body (Ends A fun state => state.Consistent) s := by
  cases c with
  | process => exact process h hs
  | reconcilePending =>
    refine Ends.bind (h.getState hs) fun state s hs hc => Ends.bind (reconcileIfPending h hs hc) ?_
    exact fun _ _ hs hc => ends_pure hs hc
  | apply => exact apply h hs
  | startOwnedForModeChange => exact startOwnedForModeChange h hs
  | rearm => exact rearm h hs

end PersistsConsistent

end Rules

/-! ## Runs -/

/-- Every row of the database is consistent. -/
def Database.Consistent (db : Database) : Prop :=
  ∀ profileId state, db.rows profileId = some state → state.Consistent

theorem Database.Consistent.getState {db : Database} (h : db.Consistent)
    {profileId serviceName kharejIp : String} :
    (db.getState profileId serviceName kharejIp).Consistent :=
  Database.getState_of_rows (by constructor <;> simp) fun _ hrow => (h _ _ hrow).congr rfl rfl

/-- Writing a consistent row keeps the database consistent. -/
theorem Database.Consistent.persist {db db' : Database} {state : ProfileState}
    {events : List WatchdogEvent} (h : db.Consistent) (hs : state.Consistent)
    (hp : db.persist state events = .ok db') : db'.Consistent := by
  intro profileId row hrow
  by_cases hid : profileId = state.profileId
  · subst hid
    rw [Database.persist_row_self hp] at hrow
    cases hrow
    exact hs
  · rw [Database.persist_row_other hp hid] at hrow
    exact h _ _ hrow

/-- The machine that makes any call at any time, with writes that may fail and calls that may be
killed. -/
def anyCalls : Machine Op Ans Exn ProfileState Call Empty Database :=
  machine (fun _ _ _ => True) True True

/-- What holds at the operations of `anyCalls`: the database is consistent, and rows written are. -/
def WritesConsistent (_ : Call) (db : Database) (_ : anyCalls.History) (op : Op) : Prop :=
  db.Consistent ∧ ∀ state events, op = .persist state events → state.Consistent

theorem anyCalls_persists (c : Call) :
    PersistsConsistent (anyCalls.contract WritesConsistent c) fun s => s.1.Consistent where
  read := by
    rintro ⟨db, _⟩ profileId serviceName kharejIp state s' hs ⟨⟨rfl, -⟩, -⟩
    exact Database.Consistent.getState hs
  guard := fun _ _ hs hop => ⟨hs, hop⟩
  step := by
    rintro ⟨db, h⟩ op a ⟨db', h'⟩ hs hg ⟨ha, -⟩
    cases op with
    | persist state events =>
      cases a with
      | ok => exact Database.Consistent.persist hs (hg.2 state events rfl) ha
      | error => exact ha.2 ▸ hs
    | getState => exact ha.2 ▸ hs
    | systemctl | jitter => exact (show db' = db from ha) ▸ hs

theorem anyCalls_keeps :
    anyCalls.Keeps (fun db _ => db.Consistent) WritesConsistent fun _ db _ _ => db.Consistent where
  call := fun _ _ c hI _ => wp_mono ((anyCalls_persists c).body hI c) fun _ _ hr => hr.1
  finish := fun _ _ _ _ hR => hR
  alone := nofun
  cut := fun _ _ _ _ _ hg => hg.1
  cut_last := fun _ _ _ _ _ hR => hR

/-- **Consistency.** From an empty database, whatever calls are made, however they are answered and
wherever they are killed, every row that a call is about to write is consistent. -/
theorem persisted_row_consistent {cfg : anyCalls.Config}
    (hr : anyCalls.Reachable Database.empty cfg) {c : Call} {state : ProfileState}
    {events : List WatchdogEvent} (hi : cfg.Issues c (.persist state events)) : state.Consistent :=
  (anyCalls_keeps.issues (by rintro _ _ ⟨⟩) hr hi).2 state events rfl

/-- The intent of a first stop, as it is about to be written. -/
theorem persisted_row_consistent_firstOutage : ∃ state : ProfileState,
    state.Consistent ∧ state.pendingAction = some .stopWatchdog ∧ state.healthState = .down := by
  have hr : anyCalls.Reachable .empty (anyCalls.script .empty (played (firstOutage 2))) :=
    reachable_played (by simp)
  exact ⟨_, persisted_row_consistent hr ⟨_, rfl⟩, rfl, rfl⟩

end Watchdog
