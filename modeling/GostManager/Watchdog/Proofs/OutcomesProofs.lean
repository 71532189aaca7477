import GostManager.Watchdog.Invariants
import GostManager.Watchdog.Proofs.CommandsProofs

/-!
# Proofs: what the durable actions can do

One rule for each of `reconcile_pending`, `stop` and `start`, for any contract: which rows the method
may write, and in which order it writes, asks and commands. Callers show what they need of these rows
and never look into the methods again.
-/

namespace Watchdog

open Effects Effects.Prog DurableServiceActions

variable {σ : Type} {C : Contract Op Ans σ}

/-! ## Asking and commanding -/

/-- How far a method is with a unit: it has not asked for it yet, it has asked before it commands, it has
commanded, and it has asked again or given up. With what the unit was seen to be. -/
inductive Stage where
  | fresh
  | asked (seen : Option Bool)
  | commanded
  | settled (seen : Option Bool)

/-- `Φ` holds at every stage of asking for a unit, issuing the command `verb` and asking again. -/
structure Commanding (C : Contract Op Ans σ) (serviceName : String) (verb : Verb)
    (Φ : Stage → σ → Prop) : Prop where
  asks : ∀ s, Φ .fresh s → C.guard s (.systemctl .isActive serviceName)
  asked : ∀ s code s', Φ .fresh s → C.answers s (.systemctl .isActive serviceName) code s' →
    Φ (.asked (seenActive code)) s'
  commands : ∀ seen s, Φ (.asked seen) s → C.guard s (.systemctl verb serviceName)
  commanded : ∀ seen s code s', Φ (.asked seen) s →
    C.answers s (.systemctl verb serviceName) code s' → Φ .commanded s'
  verifies : ∀ s, Φ .commanded s → C.guard s (.systemctl .isActive serviceName)
  verified : ∀ s code s', Φ .commanded s →
    C.answers s (.systemctl .isActive serviceName) code s' → Φ (.settled (seenActive code)) s'
  failed : ∀ s, Φ .commanded s → Φ (.settled none) s

/-- Nothing is asked of a command that is never issued. -/
theorem Commanding.never {serviceName : String} {verb : Verb} :
    Commanding C serviceName verb fun _ _ => False :=
  ⟨nofun, nofun, nofun, nofun, nofun, nofun, nofun⟩

namespace Commanding

variable {profile : ManagedProfile} {verb : Verb} {Φ : Stage → σ → Prop} {ψ : σ → Prop} {s : σ}
  {seen : Option Bool} {active : Bool}

theorem isActive (h : Commanding C profile.serviceName verb Φ)
    (hψ : ∀ s, Φ (.asked none) s → ψ s) (hs : Φ .fresh s) :
    wp C (SystemdController.isActive profile.serviceName)
      (Post (fun active => Φ (.asked (some active))) ψ) s := by
  refine wp_isActive.2 ⟨h.asks s hs, fun code s' ha => ?_⟩
  have hs' : Φ (.asked (seenActive code)) s' := h.asked s code s' hs ha
  refine ⟨fun hseen => ?_, fun hseen => ?_, fun hseen => hψ s' (hseen ▸ hs')⟩
  · rwa [hseen] at hs'
  · rwa [hseen] at hs'

theorem queryActive (h : Commanding C profile.serviceName verb Φ) (hs : Φ .fresh s) :
    wp C (queryActive profile.serviceName) (Post (fun answer => Φ (.asked answer)) ψ) s := by
  refine wp_queryActive.2 ⟨h.asks s hs, fun code s' ha => ?_⟩
  have hs' : Φ (.asked (seenActive code)) s' := h.asked s code s' hs ha
  refine ⟨fun hseen => ?_, fun hseen => ?_, fun hseen => ?_⟩ <;> rwa [hseen] at hs'

theorem wp_commanded (h : Commanding C profile.serviceName verb Φ) (hs : Φ (.asked seen) s)
    {wanted : Bool} {yes no : σ → Prop} (hy : ∀ s, Φ (.settled (some wanted)) s → yes s)
    (hn : ∀ seen s, Φ (.settled seen) s → no s) :
    Watchdog.commanded C verb profile.serviceName wanted yes no s := by
  refine ⟨h.commands seen s hs, fun code s' ha => ?_⟩
  have hs' : Φ .commanded s' := h.commanded seen s code s' hs ha
  refine ⟨fun _ => hn none s' (h.failed s' hs'), fun _ => ⟨h.verifies s' hs', ?_⟩⟩
  intro code s'' ha
  have hs'' : Φ (.settled (seenActive code)) s'' := h.verified s' code s'' hs' ha
  exact ⟨fun hseen => hy s'' (hseen ▸ hs''), fun _ => hn _ s'' hs''⟩

theorem stopCommand (h : Commanding C profile.serviceName .stop Φ) (hs : Φ (.asked seen) s) :
    wp C (orOnCommandError (SystemdController.stop profile.serviceName) false)
      (Post (fun stopped s => ∃ seen, Φ (.settled seen) s ∧
        (stopped = true → seen = some false)) ψ) s :=
  wp_stop_command.2 (h.wp_commanded hs (fun _ hs => ⟨_, hs, fun _ => rfl⟩)
    fun _ _ hs => ⟨_, hs, nofun⟩)

theorem startCommand (h : Commanding C profile.serviceName .start Φ) (hs : Φ (.asked seen) s) :
    wp C (orOnCommandError (SystemdController.start profile.serviceName) false)
      (Post (fun started s => ∃ seen, Φ (.settled seen) s ∧
        (started = true → seen = some true)) ψ) s :=
  wp_start_command.2 (h.wp_commanded hs (fun _ hs => ⟨_, hs, fun _ => rfl⟩)
    fun _ _ hs => ⟨_, hs, nofun⟩)

theorem stopIfActive (h : Commanding C profile.serviceName .stop Φ)
    (hskip : Φ (.asked (some false)) s → Φ (.settled (some false)) s)
    (hs : Φ (.asked (some active)) s) :
    wp C (stopIfActive profile.serviceName active)
      (Post (fun still s => ∃ seen, Φ (.settled seen) s ∧
        (still = false → seen = some false)) ψ) s := by
  cases active with
  | false => exact ⟨_, hskip hs, fun _ => rfl⟩
  | true =>
    exact wp_resumed_stop.2 (h.wp_commanded hs (fun _ hs => ⟨_, hs, fun _ => rfl⟩)
      fun _ _ hs => ⟨_, hs, nofun⟩)

theorem startIfInactive (h : Commanding C profile.serviceName .start Φ)
    (hskip : Φ (.asked (some true)) s → Φ (.settled (some true)) s)
    (hs : Φ (.asked (some active)) s) :
    wp C (startIfInactive profile.serviceName active)
      (Post (fun started s => ∃ seen, Φ (.settled seen) s ∧
        (started = true → seen = some true)) ψ) s := by
  cases active with
  | false => exact h.startCommand hs
  | true => exact ⟨_, hskip hs, fun _ => rfl⟩

end Commanding

/-! ## `reconcile_pending` -/

/-- The rows that `reconcile_pending` may write when it finds the intent `action`, and what the unit was
last seen to be. -/
inductive Reconciled (state : ProfileState) (action : PendingAction) (now : Int) :
    Option Bool → ProfileState → Prop
  | unanswered :
      Reconciled state action now none ({ state with lastServiceCheckAt := some now }).refuse
  | notStopped (seen : Option Bool) (active : Bool) (h : action.isStop = true) :
      Reconciled state action now seen
        (((state.observe active now).setOwner false false).setActive true).refuse
  | notStarted (seen : Option Bool) (active : Bool) (h : action.isStop = false) :
      Reconciled state action now seen ((state.observe active now).setActive false).refuse
  | stopped (active : Bool) (events : List WatchdogEvent) (h : action.isStop = true) :
      Reconciled state action now (some false)
        (finalizePendingStop action (state.observe active now) events now).1.clearPending
  | started (active : Bool) (events : List WatchdogEvent) (h : action.isStop = false) :
      Reconciled state action now (some true)
        (finalizePendingStart action (state.observe active now) events now).1.clearPending

section ReconcilePending

variable {profile : ManagedProfile} {state state' : ProfileState} {events : List WatchdogEvent}
  {now : Int} {action : PendingAction} {seen : Option Bool} {Φ : Stage → σ → Prop} {ψ : σ → Prop}
  {χ : ProfileState → σ → Prop} {s : σ}

theorem wp_persistDraft (h : wp C (persist state events) (Post (fun _ => χ state) ψ) s) :
    wp C (do let events ← persist state events; return (state, events) : Action Draft)
      (Post (fun draft => χ draft.1) ψ) s :=
  Post.bind h fun _ _ h => h

/-- `reconcile_pending` asks, commands at most once, and writes one of the rows of `Reconciled`. -/
theorem reconcilePending_outcomes (hp : state.pendingAction = some action)
    (hstop : action.isStop = true → Commanding C profile.serviceName .stop Φ)
    (hstart : action.isStop = false → Commanding C profile.serviceName .start Φ)
    (hskip : ∀ seen s, Φ (.asked seen) s → Φ (.settled seen) s)
    (hpersist : ∀ seen state' events s, Φ (.settled seen) s →
      Reconciled state action now seen state' →
      wp C (persist state' events) (Post (fun _ => χ state') ψ) s) (hs : Φ .fresh s) :
    wp C (reconcilePending profile state events now) (Post (fun draft => χ draft.1) ψ) s := by
  have hquery : wp C (queryActive profile.serviceName)
      (Post (fun answer => Φ (.asked answer)) ψ) s := by
    cases h : action.isStop with
    | true => exact (hstop h).queryActive hs
    | false => exact (hstart h).queryActive hs
  refine (wp_reconcilePending hp).2 (Post.bind hquery fun answer s hs => ?_)
  rcases answer with _ | active
  · exact wp_persistDraft (hpersist _ _ _ _ (hskip _ s hs) .unanswered)
  · unfold resumePending
    cases h : action.isStop with
    | true =>
      refine Post.bind ((hstop h).stopIfActive (hskip _ s) hs) fun still s hs => ?_
      obtain ⟨seen, hs, hseen⟩ := hs
      cases still with
      | true => exact wp_persistDraft (hpersist _ _ _ _ hs (.notStopped seen active h))
      | false =>
        obtain rfl := hseen rfl
        exact wp_persistDraft (hpersist _ _ _ _ hs (.stopped active _ h))
    | false =>
      refine Post.bind ((hstart h).startIfInactive (hskip _ s) hs) fun started s hs => ?_
      obtain ⟨seen, hs, hseen⟩ := hs
      cases started with
      | true =>
        obtain rfl := hseen rfl
        exact wp_persistDraft (hpersist _ _ _ _ hs (.started active _ h))
      | false => exact wp_persistDraft (hpersist _ _ _ _ hs (.notStarted seen active h))

/-! ### What all these rows have in common -/

theorem Reconciled.profileId (h : Reconciled state action now seen state') :
    state'.profileId = state.profileId := by
  cases h with
  | stopped => cases action <;> simp [finalizePendingStop]
  | started => cases action <;> simp [finalizePendingStart]
  | _ => simp

theorem Reconciled.pendingAction (h : Reconciled state action now seen state') :
    state'.pendingAction = none := by
  cases h <;> simp

theorem Reconciled.pendingActionAt (h : Reconciled state action now seen state') :
    state'.pendingActionAt = none := by
  cases h <;> simp

theorem Reconciled.lastServiceCheckAt (h : Reconciled state action now seen state') :
    state'.lastServiceCheckAt = some now := by
  cases h with
  | stopped => cases action <;> simp [finalizePendingStop]
  | started => cases action <;> simp [finalizePendingStart]
  | _ => simp

/-- Reconciling has no part in the counting of probe results. -/
theorem Reconciled.healthRecord (h : Reconciled state action now seen state') :
    state'.healthRecord = state.healthRecord := by
  cases h with
  | stopped => cases action <;> simp [finalizePendingStop, ProfileState.healthRecord]
  | started => cases action <;> simp [finalizePendingStart, ProfileState.healthRecord]
  | _ => simp [ProfileState.healthRecord]

/-- The watchdog owns a stop afterwards only if it did before, or if it was its own stop. -/
theorem Reconciled.stoppedByWatchdog (h : Reconciled state action now seen state')
    (hw : state'.stoppedByWatchdog = true) :
    state.stoppedByWatchdog = true ∨ action = .stopWatchdog := by
  cases h with
  | stopped => cases action <;> simp_all [finalizePendingStop]
  | started => cases action <;> simp_all [finalizePendingStart]
  | _ => simp_all

/-- An intent is finished in the way it wanted, or the operator has to look at the unit. -/
theorem Reconciled.outcome (h : Reconciled state action now seen state') :
    state'.manualOverride = true ∨
    action.isStop = true ∧ state'.stoppedByWatchdog = (action == .stopWatchdog) ∧
      state'.stoppedByMaintenance = (action == .stopMaintenance) ∧
      state'.maintenance = (state.maintenance || action == .stopMaintenance) ∧
      state'.manualOverride = state.manualOverride ∨
    action.isStop = false ∧ state'.stoppedByWatchdog = false ∧ state'.stoppedByMaintenance = false ∧
      state'.maintenance = (state.maintenance && action != .startMaintenance) ∧
      state'.manualOverride = false := by
  cases h with
  | stopped active events h => cases action <;> simp_all [finalizePendingStop, PendingAction.isStop]
  | started active events h => cases action <;> simp_all [finalizePendingStart, PendingAction.isStop]
  | _ => simp

/-- Only the intent to leave maintenance leaves it. -/
theorem Reconciled.maintenance (h : Reconciled state action now seen state')
    (hm : state.maintenance = true) (ha : action ≠ .startMaintenance) :
    state'.maintenance = true := by
  cases h with
  | stopped => cases action <;> simp_all [finalizePendingStop]
  | started => cases action <;> simp_all [finalizePendingStart]
  | _ => simpa using hm

/-- So does maintenance, which is on then. -/
theorem Reconciled.stoppedByMaintenance (h : Reconciled state action now seen state')
    (hm : state'.stoppedByMaintenance = true) :
    state'.stoppedByWatchdog = false ∧ state'.maintenance = true ∨
    state'.stoppedByWatchdog = state.stoppedByWatchdog ∧ state.stoppedByMaintenance = true ∧
      state'.maintenance = state.maintenance := by
  cases h with
  | stopped => cases action <;> simp_all [finalizePendingStop, PendingAction.isStop]
  | started => cases action <;> simp_all [finalizePendingStart]
  | _ => simp_all

end ReconcilePending

/-! ## `stop` and `start` -/

/-- The rows that `stop` may write after its intent, and what the unit was last seen to be. -/
inductive Stopped (state : ProfileState) (owner : StopOwner) (now : Int) :
    Option Bool → ProfileState → Prop
  | refused (seen : Option Bool) (active : Bool) :
      Stopped state owner now seen ((state.intend owner.action now).observe active now).refuse
  | stopped : Stopped state owner now (some false)
      (((((state.intend owner.action now).observe true now).setOwner (owner == .watchdog)
        (owner == .maintenance)).setActive false).clearPending)
  | compensated : Stopped state owner now (some true)
      (((((((state.intend owner.action now).observe true now).setOwner (owner == .watchdog)
        (owner == .maintenance)).setActive false).clearPending).setOwner false false).setActive
          true).refuse

/-- The rows that `start` may write after its intent. -/
inductive Started (state : ProfileState) (owner : StartOwner) (now : Int) :
    Option Bool → ProfileState → Prop
  | refused (seen : Option Bool) (active : Bool) :
      Started state owner now seen ((state.intend owner.action now).observe active now).refuse
  | started (active : Bool) : Started state owner now (some true)
      (((((state.intend owner.action now).observe active now).setOwner false false).setActive
        true).setOverride false).clearPending

section StopStart

variable {profile : ManagedProfile} {state state' : ProfileState} {events : List WatchdogEvent}
  {now : Int} {seen : Option Bool} {Φ Θ : Stage → σ → Prop} {ψ : σ → Prop}
  {χ : ProfileState → σ → Prop} {s : σ}

theorem wp_refuse {code : EventCode} {values : EventValues}
    (h : ∀ events, wp C (persist state.refuse events) (Post (fun _ => χ state.refuse) ψ) s) :
    wp C (refuse state events now code values) (Post (fun result => χ result.2.1) ψ) s :=
  Post.bind (h _) fun _ _ h => h

/-- `stop` writes its intent, asks, commands at most once and writes one of the rows of `Stopped`. If
it cannot write that it has stopped the unit, it starts it again: `Θ` is what is known then. -/
theorem stop_outcomes {owner : StopOwner}
    (hintent : wp C (persist (state.intend owner.action now) events) (Post (fun _ => Φ .fresh) ψ) s)
    (hstop : Commanding C profile.serviceName .stop Φ) (hψ : ∀ s, Φ (.asked none) s → ψ s)
    (hskip : ∀ s, Φ (.asked (some false)) s → Φ (.settled none) s)
    (hpersist : ∀ seen state' events s, Φ (.settled seen) s →
      Stopped state owner now seen state' → wp C (persist state' events)
        (Post (fun _ => χ state') fun s => ψ s ∧ (seen = some false → Θ (.asked none) s)) s)
    (hstart : Commanding C profile.serviceName .start Θ)
    (hψ' : ∀ seen s, Θ (.settled seen) s → ψ s)
    (hcompensate : ∀ state' events s, Θ (.settled (some true)) s →
      Stopped state owner now (some true) state' →
      wp C (persist state' events) (Post (fun _ => χ state') ψ) s) :
    wp C (stop profile state events now owner) (Post (fun result => χ result.2.1) ψ) s := by
  have hwrite : ∀ seen state' events s, Φ (.settled seen) s → Stopped state owner now seen state' →
      wp C (persist state' events) (Post (fun _ => χ state') ψ) s :=
    fun seen state' events s hs h => Post.weaken (hpersist seen state' events s hs h) fun _ h => h.1
  refine Post.bind hintent fun _ s hs => Post.bind (hstop.isActive hψ hs) fun active s hs => ?_
  cases active with
  | false => exact wp_refuse fun events => hwrite _ _ events s (hskip s hs) (.refused _ false)
  | true =>
    refine Post.bind (hstop.stopCommand hs) fun stopped s hs => ?_
    obtain ⟨seen, hs, hseen⟩ := hs
    cases stopped with
    | false => exact wp_refuse fun events => hwrite _ _ events s hs (.refused seen true)
    | true =>
      obtain rfl := hseen rfl
      refine Post.handle (Post.bind (hpersist _ _ _ s hs .stopped) fun _ _ h => h) fun _ s hs => ?_
      refine Post.bind (hstart.startCommand (hs.2 rfl)) fun compensated s hs => ?_
      obtain ⟨seen, hs, hseen⟩ := hs
      cases compensated with
      | false => exact hψ' seen s hs
      | true =>
        obtain rfl := hseen rfl
        exact Post.bind (hcompensate _ _ s hs .compensated) fun _ _ h => h

/-- `start` writes its intent, asks, commands at most once and writes one of the rows of `Started`;
that the unit has started it tries to write twice. It answers whether the row is free of an override. -/
theorem start_verdicts {owner : StartOwner}
    (hintent : wp C (persist (state.intend owner.action now) events) (Post (fun _ => Φ .fresh) ψ) s)
    (hstart : Commanding C profile.serviceName .start Φ) (hψ : ∀ s, Φ (.asked none) s → ψ s)
    (hskip : ∀ s, Φ (.asked (some true)) s → Φ (.settled (some true)) s)
    (hpersist : ∀ seen state' events s, Φ (.settled seen) s →
      Started state owner now seen state' →
      wp C (persist state' events) (Post (fun _ => χ state') fun s => ψ s ∧ Φ (.settled seen) s) s) :
    wp C (start profile state events now owner)
      (Post (fun result s => result.1 = !result.2.1.manualOverride ∧ χ result.2.1 s) ψ) s := by
  have hwrite : ∀ seen state' events s, Φ (.settled seen) s → Started state owner now seen state' →
      wp C (persist state' events) (Post (fun _ => χ state') ψ) s :=
    fun seen state' events s hs h => Post.weaken (hpersist seen state' events s hs h) fun _ h => h.1
  refine Post.bind hintent fun _ s hs => Post.bind (hstart.isActive hψ hs) fun active s hs =>
    Post.bind (hstart.startIfInactive (hskip s) hs) fun started s hs => ?_
  obtain ⟨seen, hs, hseen⟩ := hs
  cases started with
  | false => exact Post.bind (hwrite _ _ _ s hs (.refused seen active)) fun _ _ h => ⟨rfl, h⟩
  | true =>
    obtain rfl := hseen rfl
    refine Post.bind (Post.handle (hpersist _ _ _ s hs (.started active)) fun _ s hs => ?_)
      fun _ _ h => ⟨rfl, h⟩
    exact hwrite _ _ _ s hs.2 (.started active)

theorem start_outcomes {owner : StartOwner}
    (hintent : wp C (persist (state.intend owner.action now) events) (Post (fun _ => Φ .fresh) ψ) s)
    (hstart : Commanding C profile.serviceName .start Φ) (hψ : ∀ s, Φ (.asked none) s → ψ s)
    (hskip : ∀ s, Φ (.asked (some true)) s → Φ (.settled (some true)) s)
    (hpersist : ∀ seen state' events s, Φ (.settled seen) s →
      Started state owner now seen state' →
      wp C (persist state' events) (Post (fun _ => χ state') fun s => ψ s ∧ Φ (.settled seen) s) s) :
    wp C (start profile state events now owner) (Post (fun result => χ result.2.1) ψ) s :=
  Post.mono (start_verdicts hintent hstart hψ hskip hpersist) fun _ _ h => h.2

theorem Stopped.profileId {owner : StopOwner} (h : Stopped state owner now seen state') :
    state'.profileId = state.profileId := by
  cases h <;> simp

theorem Stopped.pendingAction {owner : StopOwner} (h : Stopped state owner now seen state') :
    state'.pendingAction = none := by
  cases h <;> simp

theorem Stopped.healthRecord {owner : StopOwner} (h : Stopped state owner now seen state') :
    state'.healthRecord = state.healthRecord := by
  cases h <;> simp [ProfileState.healthRecord]

/-- The watchdog owns a stop afterwards only if it did before, or if it was its own stop. -/
theorem Stopped.stoppedByWatchdog {owner : StopOwner} (h : Stopped state owner now seen state')
    (hw : state'.stoppedByWatchdog = true) :
    state.stoppedByWatchdog = true ∨ owner = .watchdog := by
  cases h with
  | stopped => exact .inr (by simpa using hw)
  | _ => simp_all

theorem Started.profileId {owner : StartOwner} (h : Started state owner now seen state') :
    state'.profileId = state.profileId := by
  cases h <;> simp

theorem Started.pendingAction {owner : StartOwner} (h : Started state owner now seen state') :
    state'.pendingAction = none := by
  cases h <;> simp

theorem Started.healthRecord {owner : StartOwner} (h : Started state owner now seen state') :
    state'.healthRecord = state.healthRecord := by
  cases h <;> simp [ProfileState.healthRecord]

theorem Started.stoppedByWatchdog {owner : StartOwner} (h : Started state owner now seen state')
    (hw : state'.stoppedByWatchdog = true) : state.stoppedByWatchdog = true := by
  cases h <;> simp_all

end StopStart

/-! ## The engine -/

section Engine

open WatchdogEngine

variable {profile : ManagedProfile} {state state' : ProfileState} {events : List WatchdogEvent}
  {now : Int} {Φ ψ : σ → Prop} {χ : ProfileState → σ → Prop} {s : σ}

/-- A row after a failure was counted. -/
structure Failed (profile : ManagedProfile) (state state' : ProfileState) : Prop where
  service : state'.serviceRecord = state.serviceRecord
  failureCount : state'.failureCount =
    min (state.failureCount + 1) profile.config.failureThreshold
  successCount : state'.successCount = 0
  recoveryReadyAt : state'.recoveryReadyAt = none
  health : state'.healthState = .down ∨ state'.healthState = .degraded ∧
    state.healthState ≠ .down ∧ state.healthState ≠ .recovering

theorem Failed.transition {hne : HealthState.down ≠ .unknown} {counted : ProfileState}
    (hservice : counted.serviceRecord = state.serviceRecord)
    (hf : counted.failureCount = min (state.failureCount + 1) profile.config.failureThreshold)
    (hs : counted.successCount = 0) (hr : counted.recoveryReadyAt = none) :
    Failed profile state (transition counted .down hne now events).1 := by
  rw [transition_fst]
  exact ⟨hservice, hf, hs, hr, .inl rfl⟩

theorem noManualStop_append {event : WatchdogEvent} (h : NoManualStop events)
    (he : event.code ≠ .watchdogManualOverride) : NoManualStop (events ++ [event]) := by
  intro e hmem
  rcases List.mem_append.1 hmem with hmem | hmem
  · exact h e hmem
  · rw [List.mem_singleton.1 hmem]
    exact fun hstop => he hstop.1

/-- A transition is no work of an operator. -/
theorem noManualStop_transition {newState : HealthState} {hne : newState ≠ .unknown}
    {outageDuration : Option Int} (h : NoManualStop events) :
    NoManualStop (transition state newState hne now events outageDuration).2 := by
  unfold transition
  by_cases heq : state.healthState = newState
  · simpa only [if_pos heq] using h
  · simp only [if_neg heq]
    refine noManualStop_append h ?_
    cases newState with
    | unknown => exact absurd rfl hne
    | _ =>
      intro hcode
      cases hcode

/-- `_failed_check` counts the failure, and stops the unit only in `auto` mode, outside maintenance and
without manual override, once the count has reached the threshold; and during an outage only if it has
not stopped it yet. -/
theorem failedCheck_drafts {χ : Draft → σ → Prop}
    (hcount : ∀ state' events', Failed profile state state' →
      (NoManualStop events → NoManualStop events') → χ (state', events') s)
    (hstop : ∀ state' events', Failed profile state state' →
      (NoManualStop events → NoManualStop events') → state'.healthState = .down →
      profile.config.failureThreshold ≤ state'.failureCount → profile.config.mode = .auto →
      state'.maintenance = false → state'.manualOverride = false →
      (state'.stoppedByWatchdog = true →
        state.healthState ≠ .down ∧ state.healthState ≠ .recovering) →
      wp C (stop profile state' events' now .watchdog) (Post (fun result => χ result.2) ψ) s) :
    wp C (failedCheck profile state now events) (Post χ ψ) s := by
  have hdone : ∀ draft : Draft, Failed profile state draft.1 →
      (NoManualStop events → NoManualStop draft.2) → χ draft s := fun draft => hcount draft.1 draft.2
  unfold failedCheck
  refine wp_ite.2 ⟨fun _ => hdone (transition _ .down (by decide) now events)
    (.transition rfl rfl rfl rfl) noManualStop_transition, fun hrec => wp_ite.2 ⟨fun hge => ?_,
      fun _ => wp_ite.2 ⟨fun hh => ?_, fun hh => ?_⟩⟩⟩
  · have hf : Failed profile state (transition { state with
        successCount := 0
        failureCount := min (state.failureCount + 1) profile.config.failureThreshold
        recoveryStartedAt := none
        recoveryReadyAt := none
        recoveryJitterSeconds := 0
        outageStartedAt := state.outageStartedAt.or (some now) } .down (by decide) now events).1 :=
      .transition rfl rfl rfl rfl
    refine wp_ite.2 ⟨fun hdue => wp_ite.2 ⟨fun _ => hdone _ hf noManualStop_transition,
      fun hmode => ?_⟩, fun _ => hdone _ hf noManualStop_transition⟩
    simp only [not_or, not_not, Bool.not_eq_true] at hmode
    refine Post.bind (hstop _ _ hf noManualStop_transition (by simp [transition_fst])
      (by simpa [transition_fst] using hge) hmode.1 hmode.2.1 hmode.2.2 fun hw => ⟨?_, hrec⟩)
      fun _ _ h => h
    rcases hdue with htransitioned | ⟨-, hne⟩
    · simpa using htransitioned
    · exact absurd hw hne
  · refine hdone (transition _ .degraded (by decide) now events) ?_ noManualStop_transition
    rw [transition_fst]
    refine ⟨rfl, rfl, rfl, rfl, .inr ⟨rfl, ?_⟩⟩
    have hh : state.healthState = .unknown ∨ state.healthState = .healthy := hh
    rcases hh with hh | hh <;> simp [hh]
  · refine hdone (_, events) ⟨rfl, rfl, rfl, rfl, ?_⟩ id
    cases hstate : state.healthState <;> simp_all

theorem failedCheck_outcomes (hcount : ∀ state', Failed profile state state' → χ state' s)
    (hstop : ∀ state' events, Failed profile state state' → state'.healthState = .down →
      profile.config.failureThreshold ≤ state'.failureCount → profile.config.mode = .auto →
      state'.maintenance = false → state'.manualOverride = false →
      (state'.stoppedByWatchdog = true →
        state.healthState ≠ .down ∧ state.healthState ≠ .recovering) →
      wp C (stop profile state' events now .watchdog) (Post (fun result => χ result.2.1) ψ) s) :
    wp C (failedCheck profile state now events) (Post (fun draft => χ draft.1) ψ) s :=
  failedCheck_drafts (fun state' _ hf _ => hcount state' hf)
    fun state' events' hf _ => hstop state' events' hf

/-- A row after a success was counted. -/
structure Succeeded (state state' : ProfileState) : Prop where
  service : state'.serviceRecord = state.serviceRecord
  failureCount : state'.failureCount = 0
  health : state'.healthState = .healthy ∨ state'.healthState = .recovering

/-- What `_start_after_recovery` asks for before it starts the unit. -/
abbrev StartDue (profile : ManagedProfile) (state : ProfileState) : Prop :=
  profile.config.mode = .auto ∧ state.maintenance = false ∧ state.manualOverride = false ∧
    state.stoppedByWatchdog = true

/-- `_successful_check` counts the success, and starts the unit only in `auto` mode, outside maintenance
and without manual override, if the watchdog has stopped it and it is healthy. -/
theorem successfulCheck_drafts {χ : Draft → σ → Prop}
    (hjitter : wp C (Prog.perform (Op.jitter profile.config.recoveryJitterMaxSeconds) : Action Int)
      (Post (fun _ => Φ) ψ) s) (hΦ : Φ s) (hψ : ∀ s, Φ s → ψ s)
    (hcount : ∀ state' events' s, Φ s → Succeeded state state' →
      (NoManualStop events → NoManualStop events') →
      (state'.healthState = .healthy → state.healthState = .unknown ∨
        state.healthState = .degraded ∨ ¬ StartDue profile state') → χ (state', events') s)
    (hstart : ∀ state' events' s, Φ s → Succeeded state state' →
      (NoManualStop events → NoManualStop events') → state'.healthState = .healthy →
      StartDue profile state' →
      wp C (start profile state' events' now .watchdog) (Post (fun result => χ result.2) ψ) s) :
    wp C (successfulCheck profile state now events) (Post χ ψ) s := by
  have hafter : ∀ state' events' s, Φ s → Succeeded state state' →
      (NoManualStop events → NoManualStop events') → state'.healthState = .healthy →
      wp C (startAfterRecovery profile state' now events') (Post χ ψ) s := by
    intro state' events' s hs h he hh
    refine wp_ite.2 ⟨fun hmode => hcount _ _ s hs h he fun _ => .inr (.inr fun hdue => ?_),
      fun hmode => ?_⟩
    · obtain ⟨hauto, hm, ho, hw⟩ : StartDue profile state' := hdue
      simp [hauto, hm, ho, hw] at hmode
    · simp only [not_or, not_not, Bool.not_eq_true, Bool.not_eq_false] at hmode
      exact Post.bind (hstart _ _ s hs h he hh hmode) fun _ _ h => h
  have hcontinue : ∀ state' events', Succeeded state state' →
      (NoManualStop events → NoManualStop events') → state'.healthState = .recovering →
      wp C (continueRecovery profile state' now events') (Post χ ψ) s := by
    intro state' events' h he hh
    have hrecovering : ∀ state' s, Φ s → Succeeded state state' → state'.healthState = .recovering →
        χ (state', events') s :=
      fun state' s hs h hh => hcount state' _ s hs h he fun hh' => by rw [hh] at hh'; cases hh'
    refine wp_ite.2 ⟨fun _ => hrecovering _ s hΦ h hh, fun _ =>
      Post.bind (φ := fun fixed : ProfileState × Int => fun s =>
        Φ s ∧ Succeeded state fixed.1 ∧ fixed.1.healthState = .recovering) ?_ ?_⟩
    · unfold fixRecoveryReady
      split
      · exact ⟨hΦ, h, hh⟩
      · refine Post.bind hjitter fun jitter s hs => wp_ite.2 ⟨fun _ => hψ s hs, fun _ => ⟨hs, ?_, hh⟩⟩
        exact ⟨h.service, h.failureCount, h.health⟩
    · rintro ⟨state'', readyAt⟩ s ⟨hs, h, hh⟩
      refine wp_ite.2 ⟨fun _ => hafter _ _ s hs ?_ (fun hclean => noManualStop_transition (he hclean)) ?_,
        fun _ => hrecovering _ s hs h hh⟩
      · rw [transition_fst]
        exact ⟨h.service, h.failureCount, .inl rfl⟩
      · simp [transition_fst]
  have hdone : ∀ draft : Draft, Succeeded state draft.1 →
      (NoManualStop events → NoManualStop draft.2) →
      (state.healthState = .unknown ∨ state.healthState = .degraded) → χ draft s :=
    fun draft h he hh => hcount draft.1 draft.2 s hΦ h he fun _ => hh.imp_right .inl
  have hturned : ∀ draft : Draft, Succeeded state draft.1 →
      (NoManualStop events → NoManualStop draft.2) → draft.1.healthState = .recovering →
      wp C (continueRecovery profile draft.1 now draft.2) (Post χ ψ) s :=
    fun draft => hcontinue draft.1 draft.2
  unfold successfulCheck
  cases hh : state.healthState with
  | unknown =>
    refine hdone (transition _ .healthy (by decide) now events) ?_ noManualStop_transition (.inl hh)
    rw [transition_fst]
    exact ⟨rfl, rfl, .inl rfl⟩
  | degraded =>
    refine hdone (transition _ .healthy (by decide) now events) ?_ noManualStop_transition (.inr hh)
    rw [transition_fst]
    exact ⟨rfl, rfl, .inl rfl⟩
  | healthy => exact hafter _ _ s hΦ ⟨rfl, rfl, .inl rfl⟩ id rfl
  | down =>
    refine hturned (transition _ .recovering (by decide) now events) ?_ noManualStop_transition
      (by simp [transition_fst])
    rw [transition_fst]
    exact ⟨rfl, rfl, .inr rfl⟩
  | recovering => exact hcontinue _ _ ⟨rfl, rfl, .inr rfl⟩ id rfl

theorem successfulCheck_outcomes
    (hjitter : wp C (Prog.perform (Op.jitter profile.config.recoveryJitterMaxSeconds) : Action Int)
      (Post (fun _ => Φ) ψ) s) (hΦ : Φ s) (hψ : ∀ s, Φ s → ψ s)
    (hcount : ∀ state' s, Φ s → Succeeded state state' →
      (state'.healthState = .healthy → state.healthState = .unknown ∨
        state.healthState = .degraded ∨ ¬ StartDue profile state') → χ state' s)
    (hstart : ∀ state' events s, Φ s → Succeeded state state' → state'.healthState = .healthy →
      StartDue profile state' →
      wp C (start profile state' events now .watchdog) (Post (fun result => χ result.2.1) ψ) s) :
    wp C (successfulCheck profile state now events) (Post (fun draft => χ draft.1) ψ) s :=
  successfulCheck_drafts hjitter hΦ hψ (fun state' _ s hs h _ hh => hcount state' s hs h hh)
    fun state' events' s hs h _ => hstart state' events' s hs h

/-- What `_reconcile_service` makes of the row it has compared with the unit. -/
structure Noticed (state : ProfileState) (now : Int) (active : Bool) (state' : ProfileState) :
    Prop where
  profileId : state'.profileId = state.profileId
  pendingAction : state'.pendingAction = state.pendingAction
  maintenance : state'.maintenance = state.maintenance
  health : state'.healthRecord = state.healthRecord
  stoppedByWatchdog : state'.stoppedByWatchdog = (state.stoppedByWatchdog && !active)
  stoppedByMaintenance : state'.stoppedByMaintenance = (state.stoppedByMaintenance && !active)
  manualOverride : state'.manualOverride = (state.manualOverride ||
    (if state.stoppedByWatchdog || state.stoppedByMaintenance then active
      else !active && state.lastServiceActive != some false))
  checked : state'.lastServiceActive = some active ∧ state'.lastServiceCheckAt = some now

theorem noticeOperator_noticed {active : Bool} :
    Noticed state now active (noticeOperator state now events active).1 := by
  unfold noticeOperator
  cases hw : state.stoppedByWatchdog <;> cases hm : state.stoppedByMaintenance <;>
    cases active <;> cases ha : state.lastServiceActive != some false <;> constructor <;>
    simp_all [ProfileState.healthRecord]

/-- A stop is taken for one by an operator only if nobody owns it. -/
theorem noManualStop_noticeOperator {active : Bool} (h : NoManualStop events)
    (howned : active = true ∨ state.stoppedByWatchdog = true ∨ state.stoppedByMaintenance = true) :
    NoManualStop (noticeOperator state now events active).2 := by
  have hstart : NoManualStop (if state.manualOverride then events else
      events ++ [event state .watchdogManualOverride now { actionResult := some .manualStart }]) := by
    split
    · exact h
    · intro e hmem
      rcases List.mem_append.1 hmem with hmem | hmem
      · exact h e hmem
      · rw [List.mem_singleton.1 hmem]
        exact fun hstop => nomatch hstop.2
  unfold noticeOperator
  cases active with
  | true =>
    cases hw : state.stoppedByWatchdog || state.stoppedByMaintenance with
    | true => simpa only [hw, Bool.and_self, if_true] using hstart
    | false => simpa [hw] using h
  | false =>
    have howned : (state.stoppedByWatchdog || state.stoppedByMaintenance) = true := by simpa using howned
    simpa [howned] using h

/-- `_reconcile_service` of a row without intent asks for the unit at most once. -/
theorem reconcileServiceInAuto_drafts {χ : Draft → σ → Prop} (hidle : state.pendingAction = none)
    (hskip : χ (state, events) s)
    (hask : wp C (SystemdController.isActive profile.serviceName) (Post (fun active s =>
      ∀ state' events', Noticed state now active state' →
        ((active = true ∨ state.stoppedByWatchdog = true ∨ state.stoppedByMaintenance = true) →
          NoManualStop events → NoManualStop events') → χ (state', events') s) ψ) s) :
    wp C (reconcileServiceInAuto profile state now events) (Post χ ψ) s := by
  refine wp_ite.2 ⟨fun _ => wp_bind.2 (wp_ite.2 ⟨fun hsome => by simp [hidle] at hsome, fun _ => ?_⟩),
    fun _ => hskip⟩
  refine wp_ite.2 ⟨fun _ => hskip, fun _ => Post.bind hask fun active s h => ?_⟩
  exact h _ _ noticeOperator_noticed fun howned hclean => noManualStop_noticeOperator hclean howned

theorem reconcileServiceInAuto_outcomes (hidle : state.pendingAction = none) (hskip : χ state s)
    (hask : wp C (SystemdController.isActive profile.serviceName) (Post (fun active s =>
      ∀ state', Noticed state now active state' → χ state' s) ψ) s) :
    wp C (reconcileServiceInAuto profile state now events) (Post (fun draft => χ draft.1) ψ) s :=
  reconcileServiceInAuto_drafts hidle hskip
    (Post.mono hask fun _ _ h state' _ hnoticed _ => h state' hnoticed)

/-- The row of a check, before the result is counted. -/
abbrev ProfileState.checked (state : ProfileState) (now : Int) (checkStatus : CheckStatus)
    (category : Option String) : ProfileState :=
  { state with
    lastCheckAt := some now
    checkStatus := checkStatus
    lastProbeErrorCategory := category }

/-- `process` finishes the intent it finds, looks at the unit, counts the result and writes the row. If
`χ` holds until the result is counted and `ξ` afterwards, then `ψ` holds at its end. -/
theorem process_drafts {result : ProbeResult} {χ ξ : Draft → σ → Prop}
    (hread : wp C (getState profile) (Post (fun row s => wp C (reconcileIfPending profile row [] now)
      (Post χ ψ) s) ψ) s)
    (hψ : ∀ draft s, profile.config.mode = .disabled → χ draft s → ψ s)
    (hchecked : ∀ state events events' checkStatus category s, χ (state, events) s →
      (NoManualStop events → NoManualStop events') →
      χ (state.checked now checkStatus category, events') s)
    (hservice : ∀ state events s, χ (state, events) s → wp C
      (reconcileServiceInAuto profile state now events) (Post χ ψ) s)
    (hcount : ∀ state events s, profile.config.mode ≠ .disabled → result.errorCategory = none →
      χ (state, events) s → wp C (countResult profile state result now events) (Post ξ ψ) s)
    (hpersist : ∀ state events s,
      result.errorCategory ≠ none ∧ χ (state, events) s ∨ ξ (state, events) s →
      wp C (persist state events) (Post (fun _ => ψ) ψ) s) :
    wp C (process profile result now) (Post (fun _ => ψ) ψ) s := by
  have hreturn : ∀ state events s,
      result.errorCategory ≠ none ∧ χ (state, events) s ∨ ξ (state, events) s → wp C
      (do let _ ← persist state events; return state : Action ProfileState)
      (Post (fun _ => ψ) ψ) s :=
    fun state events s h => Post.bind (hpersist state events s h) fun _ _ h => h
  refine Post.bind hread fun row s hrow => Post.bind hrow ?_
  rintro ⟨state, events⟩ s hs
  refine wp_ite.2 ⟨fun hmode => hψ _ s hmode hs, fun hmode => ?_⟩
  have hcheck : result.errorCategory = none →
      wp C (check profile { state with lastCheckAt := some now } result now events)
        (Post (fun _ => ψ) ψ) s := by
    intro hresult
    have hrecovered : NoManualStop events → NoManualStop
        (if state.checkStatus = .probed .probeError then
          events ++ [event { state with lastCheckAt := some now } .watchdogProbeRecovered now
            { errorCategory := state.lastProbeErrorCategory }]
        else events) := by
      intro h
      split
      · exact noManualStop_append h nofun
      · exact h
    refine Post.bind (hservice _ _ s (hchecked state events _ _ none s hs hrecovered)) ?_
    rintro ⟨state, events⟩ s hs
    refine Post.bind (hcount state events s hmode hresult hs) ?_
    rintro ⟨state, events⟩ s hs
    exact hreturn state events s (.inr hs)
  cases result with
  | probeError category =>
    refine hreturn _ _ s (.inl ⟨nofun, hchecked state events _ _ (some category) s hs fun h => ?_⟩)
    split
    · exact noManualStop_append h nofun
    · exact h
  | success => exact hcheck rfl
  | unreachable => exact hcheck rfl

/-- The same, if each of these keeps `χ` of the row. -/
theorem process_outcomes {result : ProbeResult}
    (hread : wp C (getState profile) (Post (fun row s => wp C (reconcileIfPending profile row [] now)
      (Post (fun draft => χ draft.1) ψ) s) ψ) s)
    (hψ : ∀ state s, χ state s → ψ s)
    (hchecked : ∀ state checkStatus category s, χ state s →
      χ (state.checked now checkStatus category) s)
    (hservice : ∀ state events s, χ state s → wp C
      (reconcileServiceInAuto profile state now events) (Post (fun draft => χ draft.1) ψ) s)
    (hcount : ∀ state events s, profile.config.mode ≠ .disabled → χ state s → wp C
      (countResult profile state result now events) (Post (fun draft => χ draft.1) ψ) s)
    (hpersist : ∀ state events s, χ state s →
      wp C (persist state events) (Post (fun _ => ψ) ψ) s) :
    wp C (process profile result now) (Post (fun _ => ψ) ψ) s :=
  process_drafts (χ := fun draft => χ draft.1) (ξ := fun draft => χ draft.1) hread
    (fun draft s _ h => hψ draft.1 s h) (fun state _ _ checkStatus category s h _ =>
      hchecked state checkStatus category s h) hservice
    (fun state events s hmode _ h => hcount state events s hmode h)
    fun state events s h => hpersist state events s (h.elim And.right id)

end Engine

end Watchdog
