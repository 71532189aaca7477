import GostManager.Effects.Proofs.ProgramProofs
import GostManager.Watchdog.Engine

/-!
# Proofs: what the operations of the engine may answer

The preconditions of the store and systemd operations, in terms of the return codes alone. A managed
profile always passes the validation of its names.
-/

namespace Watchdog

open Effects Effects.Prog

variable {σ : Type} {C : Contract Op Ans σ} {s : σ}

/-! ## Validation -/

theorem profileRe_cons {profileId : String} (h : profileRe profileId = true) :
    ∃ digits, profileId.toList = "iran-".toList ++ digits ∧ isNumber digits = true := by
  simp only [profileRe, Bool.and_eq_true, List.isPrefixOf_iff_prefix] at h
  obtain ⟨⟨digits, hd⟩, hn⟩ := h
  refine ⟨digits, hd.symm, ?_⟩
  rw [← hd] at hn
  simpa using hn

theorem unitRe_unitOf {profileId : String} (h : profileRe profileId = true) :
    unitRe (unitOf profileId) = true := by
  obtain ⟨digits, hd, hn⟩ := profileRe_cons h
  have hl : (unitOf profileId).toList = "gost-iran-".toList ++ (digits ++ ".service".toList) := by
    simp [unitOf, hd]
  have hlen : (unitOf profileId).length = digits.length + 18 := by
    rw [← String.length_toList, hl]
    simp
  simp only [unitRe, Bool.and_eq_true, List.isPrefixOf_iff_prefix, List.isSuffixOf_iff_suffix]
  refine ⟨⟨⟨_, hl.symm⟩, ?_⟩, ?_⟩
  · rw [hl, ← List.append_assoc]
    exact List.suffix_append _ _
  · rw [hl, hlen]
    simpa using hn

theorem ManagedProfile.unitRe_serviceName (profile : ManagedProfile) :
    unitRe profile.serviceName = true := by
  rw [profile.serviceName_eq]
  exact unitRe_unitOf profile.profileId_valid

@[simp] theorem wp_validateProfileId {profile : ManagedProfile} {Q : Except Exn Unit → σ → Prop} :
    wp C (validateProfileId profile.profileId) Q s ↔ Q (.ok ()) s := by
  simp [validateProfileId, profile.profileId_valid]

@[simp] theorem wp_validateServiceName {profile : ManagedProfile}
    {Q : Except Exn Unit → σ → Prop} :
    wp C (validateServiceName profile.serviceName) Q s ↔ Q (.ok ()) s := by
  simp [validateServiceName, profile.unitRe_serviceName]

/-! ## The store -/

@[simp] theorem wp_getState {profile : ManagedProfile} {Q : Except Exn ProfileState → σ → Prop} :
    wp C (getState profile) Q s ↔
      C.guard s (.getState profile.profileId profile.serviceName profile.kharejIp) ∧
      ∀ (state : ProfileState) s',
        C.answers s (.getState profile.profileId profile.serviceName profile.kharejIp) state s' →
          Q (.ok state) s' := Iff.rfl

@[simp] theorem wp_persist {state : ProfileState} {events : List WatchdogEvent}
    {Q : Except Exn (List WatchdogEvent) → σ → Prop} :
    wp C (persist state events) Q s ↔ C.guard s (.persist state events) ∧
      (∀ s', C.answers s (.persist state events) (.ok ()) s' → Q (.ok []) s') ∧
      ∀ e s', C.answers s (.persist state events) (.error e) s' → Q (.error e) s' := by
  simp only [persist, wp_bind, wp_perform, andThen_ok]
  refine and_congr_right fun _ => ⟨fun h => ⟨fun s' => h (.ok ()) s', fun e s' => h (.error e) s'⟩,
    fun h a s' ha => ?_⟩
  cases a with
  | ok u => exact h.1 s' ha
  | error e => exact h.2 e s' ha

/-! ## Systemd -/

/-- What a return code of `systemctl is-active` says: `0` active, `3` inactive, anything else
nothing. -/
def seenActive : Option Int → Option Bool
  | some returncode =>
    if returncode = 0 then some true else if returncode = 3 then some false else none
  | none => none

theorem seenActive_eq_true {code : Option Int} (h : seenActive code = some true) :
    code = some 0 := by
  cases code with
  | none => cases h
  | some n =>
    by_cases h0 : n = 0
    · rw [h0]
    · by_cases h3 : n = 3 <;> simp [seenActive, h0, h3] at h

theorem seenActive_eq_false {code : Option Int} (h : seenActive code = some false) :
    code = some 3 := by
  cases code with
  | none => cases h
  | some n =>
    by_cases h0 : n = 0
    · simp [seenActive, h0] at h
    · by_cases h3 : n = 3
      · rw [h3]
      · simp [seenActive, h0, h3] at h

/-- The message of the `CommandError` that `is_active` raises. -/
def activeError : Option Int → String
  | some _ => "service_state_unavailable"
  | none => "systemd_command_unavailable"

variable {profile : ManagedProfile}

/-- `is_active` answers what the return code says, or raises. -/
@[simp] theorem wp_isActive {Q : Except Exn Bool → σ → Prop} :
    wp C (SystemdController.isActive profile.serviceName) Q s ↔
      C.guard s (.systemctl .isActive profile.serviceName) ∧
      ∀ returncode s', C.answers s (.systemctl .isActive profile.serviceName) returncode s' →
        (seenActive returncode = some true → Q (.ok true) s') ∧
        (seenActive returncode = some false → Q (.ok false) s') ∧
        (seenActive returncode = none → Q (.error (.commandError (activeError returncode))) s') := by
  simp only [SystemdController.isActive, SystemdController.run, wp_bind, wp_validateServiceName,
    andThen_ok, wp_perform]
  refine and_congr_right fun _ => forall_congr' fun a => forall_congr' fun s' =>
    imp_congr_right fun _ => ?_
  cases a with
  | none => simp [seenActive, activeError]
  | some n =>
    by_cases h0 : n = 0
    · simp [seenActive, h0]
    · by_cases h3 : n = 3 <;> simp [seenActive, activeError, h0, h3]

/-- The query of `reconcile_pending` turns a `CommandError` into `none`. -/
@[simp] theorem wp_queryActive {Q : Except Exn (Option Bool) → σ → Prop} :
    wp C (DurableServiceActions.queryActive profile.serviceName) Q s ↔
      C.guard s (.systemctl .isActive profile.serviceName) ∧
      ∀ returncode s', C.answers s (.systemctl .isActive profile.serviceName) returncode s' →
        (seenActive returncode = some true → Q (.ok (some true)) s') ∧
        (seenActive returncode = some false → Q (.ok (some false)) s') ∧
        (seenActive returncode = none → Q (.ok none) s') := by
  simp [DurableServiceActions.queryActive]

/-- A `stop` or `start` command and the query that verifies it: `yes` if the command succeeded and the
unit is then seen in the state `wanted`, `no` in every other case. -/
def commanded (C : Contract Op Ans σ) (verb : Verb) (serviceName : String) (wanted : Bool)
    (yes no : σ → Prop) (s : σ) : Prop :=
  C.guard s (.systemctl verb serviceName) ∧
  ∀ returncode s', C.answers s (.systemctl verb serviceName) returncode s' →
    (returncode ≠ some 0 → no s') ∧
    (returncode = some 0 → C.guard s' (.systemctl .isActive serviceName) ∧
      ∀ code s'', C.answers s' (.systemctl .isActive serviceName) code s'' →
        (seenActive code = some wanted → yes s'') ∧ (seenActive code ≠ some wanted → no s''))

@[simp] theorem wp_stop_command {Q : Except Exn Bool → σ → Prop} :
    wp C (orOnCommandError (SystemdController.stop profile.serviceName) false) Q s ↔
      commanded C .stop profile.serviceName false (Q (.ok true)) (Q (.ok false)) s := by
  simp only [orOnCommandError, SystemdController.stop, SystemdController.run, wp_handle, wp_bind,
    wp_validateServiceName, andThen_ok, wp_perform, commanded]
  refine and_congr_right fun _ => forall_congr' fun a => forall_congr' fun s' =>
    imp_congr_right fun _ => ?_
  cases a with
  | none => simp
  | some n =>
    by_cases h0 : n = 0
    · simp only [h0, wp_pure, andThen_ok, if_true, wp_bind, wp_isActive, ne_eq, not_true_eq_false,
        false_imp_iff, true_and, forall_const]
      refine and_congr_right fun _ => forall_congr' fun code => forall_congr' fun s'' =>
        imp_congr_right fun _ => ?_
      rcases h : seenActive code with _ | _ | _ <;> simp
    · simp [h0]

/-- `reconcile_pending` asks whether the unit is still active. -/
@[simp] theorem wp_resumed_stop {Q : Except Exn Bool → σ → Prop} :
    wp C (orOnCommandError (do return !(← SystemdController.stop profile.serviceName)) true) Q s ↔
      commanded C .stop profile.serviceName false (Q (.ok false)) (Q (.ok true)) s := by
  simp only [orOnCommandError, SystemdController.stop, SystemdController.run, wp_handle, wp_bind,
    wp_validateServiceName, andThen_ok, wp_perform, commanded]
  refine and_congr_right fun _ => forall_congr' fun a => forall_congr' fun s' =>
    imp_congr_right fun _ => ?_
  cases a with
  | none => simp
  | some n =>
    by_cases h0 : n = 0
    · simp only [h0, wp_pure, andThen_ok, if_true, wp_bind, wp_isActive, ne_eq, not_true_eq_false,
        false_imp_iff, true_and, forall_const]
      refine and_congr_right fun _ => forall_congr' fun code => forall_congr' fun s'' =>
        imp_congr_right fun _ => ?_
      rcases h : seenActive code with _ | _ | _ <;> simp
    · simp [h0]

@[simp] theorem wp_start_command {Q : Except Exn Bool → σ → Prop} :
    wp C (orOnCommandError (SystemdController.start profile.serviceName) false) Q s ↔
      commanded C .start profile.serviceName true (Q (.ok true)) (Q (.ok false)) s := by
  simp only [orOnCommandError, SystemdController.start, SystemdController.run, wp_handle, wp_bind,
    wp_validateServiceName, andThen_ok, wp_perform, commanded]
  refine and_congr_right fun _ => forall_congr' fun a => forall_congr' fun s' =>
    imp_congr_right fun _ => ?_
  cases a with
  | none => simp
  | some n =>
    by_cases h0 : n = 0
    · simp only [h0, wp_pure, andThen_ok, if_true, wp_isActive, ne_eq, not_true_eq_false,
        false_imp_iff, true_and, forall_const]
      refine and_congr_right fun _ => forall_congr' fun code => forall_congr' fun s'' =>
        imp_congr_right fun _ => ?_
      rcases h : seenActive code with _ | _ | _ <;> simp
    · simp [h0]

/-- A managed profile passes every check of `reconcile_pending`. -/
theorem wp_reconcilePending {state : ProfileState} {events : List WatchdogEvent} {now : Int}
    {action : PendingAction} (h : state.pendingAction = some action)
    {Q : Except Exn Draft → σ → Prop} :
    wp C (DurableServiceActions.reconcilePending profile state events now) Q s ↔
      wp C (DurableServiceActions.queryActive profile.serviceName >>=
        DurableServiceActions.resumePending profile state events now action) Q s := by
  simp only [DurableServiceActions.reconcilePending, h, wp_bind, wp_validateProfileId,
    wp_validateServiceName, andThen_ok, ← profile.serviceName_eq, ne_eq, not_true_eq_false, if_false]

/-- Without an intent there is nothing to reconcile. -/
theorem wp_reconcilePending_none {state : ProfileState} {events : List WatchdogEvent} {now : Int}
    (h : state.pendingAction = none) {Q : Except Exn Draft → σ → Prop} :
    wp C (DurableServiceActions.reconcilePending profile state events now) Q s ↔
      Q (.ok (state, events)) s := by
  simp only [DurableServiceActions.reconcilePending, h, wp_pure]

/-! ## Transitions -/

section Transition

variable {state : ProfileState} {newState : HealthState} {hne : newState ≠ .unknown} {now : Int}
  {events : List WatchdogEvent} {outageDuration : Option Int}

/-- A transition changes the health state and its time, nothing else. -/
theorem transition_fst :
    (WatchdogEngine.transition state newState hne now events outageDuration).1 =
      { state with healthState := newState, lastTransitionAt :=
          if state.healthState = newState then state.lastTransitionAt else some now } := by
  by_cases h : state.healthState = newState
  · subst h
    simp [WatchdogEngine.transition]
  · simp [WatchdogEngine.transition, h, ProfileState.enterHealth]

end Transition

end Watchdog
