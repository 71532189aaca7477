import GostManager.Watchdog.Proofs.CommandsProofs

/-!
# Proofs: properties of every row that is written

`Persists C A P` says that a contract `C` only asks of a program that every row it writes has the
property `P`; in return the state keeps the property `A`, and every row read has `P` as well. The
lemmas are the rules for the operations of the engine under such a contract.
-/

namespace Watchdog

open Effects Effects.Prog

variable {σ α β : Type} {C : Contract Op Ans σ} {A : σ → Prop} {P : ProfileState → Prop} {s : σ}

/-- A contract whose only obligation is the property `P` of the rows written. -/
structure Persists (C : Contract Op Ans σ) (A : σ → Prop) (P : ProfileState → Prop) : Prop where
  /-- Rows are read with the property. -/
  read : ∀ s profileId serviceName kharejIp state s', A s →
    C.answers s (.getState profileId serviceName kharejIp) state s' → P state
  /-- Writing a row with the property is allowed, and so is every other operation. -/
  guard : ∀ s op, A s → (∀ state events, op = .persist state events → P state) → C.guard s op
  /-- Operations that are allowed keep `A`. -/
  step : ∀ s op a s', A s → C.guard s op → C.answers s op a s' → A s'

/-- The program leaves `A`, and its result, if it has one, satisfies `φ`. -/
def Ends (A : σ → Prop) (φ : α → Prop) (r : Except Exn α) (s : σ) : Prop :=
  A s ∧ ∀ x, r = .ok x → φ x

theorem ends_pure {φ : α → Prop} {x : α} (hs : A s) (hx : φ x) :
    wp C (pure x : Action α) (Ends A φ) s :=
  wp_pure.2 ⟨hs, by rintro _ ⟨⟩; exact hx⟩

theorem ends_raise {φ : α → Prop} {e : Exn} (hs : A s) :
    wp C (raise e : Action α) (Ends A φ) s :=
  wp_raise.2 ⟨hs, by rintro _ ⟨⟩⟩

/-- Sequencing under `Ends`: an exception leaves `A` and skips the rest. -/
theorem Ends.bind {p : Action α} {f : α → Action β} {φ : α → Prop} {ψ : β → Prop}
    (hp : wp C p (Ends A φ) s) (hf : ∀ x s', A s' → φ x → wp C (f x) (Ends A ψ) s') :
    wp C (p >>= f) (Ends A ψ) s := by
  refine wp_bind.2 (wp_mono hp ?_)
  rintro (e | x) s' ⟨hA, hx⟩
  · exact ⟨hA, by rintro _ ⟨⟩⟩
  · exact hf x s' hA (hx x rfl)

theorem Ends.mono {φ ψ : α → Prop} {p : Action α} (hp : wp C p (Ends A φ) s)
    (h : ∀ x, φ x → ψ x) : wp C p (Ends A ψ) s :=
  wp_mono hp fun _ _ ⟨hA, hx⟩ => ⟨hA, fun x hr => h x (hx x hr)⟩

namespace Persists

theorem query (h : Persists C A P) {verb : Verb} {serviceName : String} (hs : A s) :
    C.guard s (.systemctl verb serviceName) :=
  h.guard s _ hs (by rintro _ _ ⟨⟩)

theorem getState (h : Persists C A P) {profile : ManagedProfile} (hs : A s) :
    wp C (getState profile) (Ends A P) s := by
  have hg : C.guard s (.getState profile.profileId profile.serviceName profile.kharejIp) :=
    h.guard s _ hs (by rintro _ _ ⟨⟩)
  refine wp_getState.2 ⟨hg, fun state s' ha => ⟨h.step _ _ _ _ hs hg ha, ?_⟩⟩
  rintro _ ⟨⟩
  exact h.read _ _ _ _ _ _ hs ha

theorem persist (h : Persists C A P) {state : ProfileState} {events : List WatchdogEvent}
    (hs : A s) (hp : P state) : wp C (persist state events) (Ends A fun _ => True) s := by
  have hg : C.guard s (.persist state events) := h.guard s _ hs (by rintro _ _ ⟨⟩; exact hp)
  exact wp_persist.2 ⟨hg, fun s' ha => ⟨h.step _ _ _ _ hs hg ha, fun _ _ => trivial⟩,
    fun e s' ha => ⟨h.step _ _ _ _ hs hg ha, fun _ _ => trivial⟩⟩

theorem jitter (h : Persists C A P) {maximum : Nat} (hs : A s) :
    wp C (Prog.perform (Op.jitter maximum) : Action Int) (Ends A fun _ => True) s := by
  have hg : C.guard s (.jitter maximum) := h.guard s _ hs (by rintro _ _ ⟨⟩)
  exact wp_perform.2 ⟨hg, fun a s' ha => ⟨h.step _ _ _ _ hs hg ha, fun _ _ => trivial⟩⟩

variable {profile : ManagedProfile}

theorem isActive (h : Persists C A P) (hs : A s) :
    wp C (SystemdController.isActive profile.serviceName) (Ends A fun _ => True) s := by
  refine wp_isActive.2 ⟨h.query hs, fun returncode s' ha => ?_⟩
  have hs' := h.step _ _ _ _ hs (h.query hs) ha
  exact ⟨fun _ => ⟨hs', fun _ _ => trivial⟩, fun _ => ⟨hs', fun _ _ => trivial⟩,
    fun _ => ⟨hs', fun _ _ => trivial⟩⟩

theorem queryActive (h : Persists C A P) (hs : A s) :
    wp C (DurableServiceActions.queryActive profile.serviceName) (Ends A fun _ => True) s := by
  refine wp_queryActive.2 ⟨h.query hs, fun returncode s' ha => ?_⟩
  have hs' := h.step _ _ _ _ hs (h.query hs) ha
  exact ⟨fun _ => ⟨hs', fun _ _ => trivial⟩, fun _ => ⟨hs', fun _ _ => trivial⟩,
    fun _ => ⟨hs', fun _ _ => trivial⟩⟩

theorem commanded (h : Persists C A P) {verb : Verb} {serviceName : String} {wanted : Bool}
    {yes no : σ → Prop} (hs : A s) (hy : ∀ s, A s → yes s) (hn : ∀ s, A s → no s) :
    commanded C verb serviceName wanted yes no s := by
  refine ⟨h.query hs, fun returncode s' ha => ?_⟩
  have hs' := h.step _ _ _ _ hs (h.query hs) ha
  refine ⟨fun _ => hn _ hs', fun _ => ⟨h.query hs', fun code s'' ha' => ?_⟩⟩
  have hs'' := h.step _ _ _ _ hs' (h.query hs') ha'
  exact ⟨fun _ => hy _ hs'', fun _ => hn _ hs''⟩

theorem stopCommand (h : Persists C A P) (hs : A s) :
    wp C (orOnCommandError (SystemdController.stop profile.serviceName) false)
      (Ends A fun _ => True) s :=
  wp_stop_command.2 (h.commanded hs (fun _ hs => ⟨hs, fun _ _ => trivial⟩)
    fun _ hs => ⟨hs, fun _ _ => trivial⟩)

theorem resumedStop (h : Persists C A P) (hs : A s) :
    wp C (orOnCommandError (do return !(← SystemdController.stop profile.serviceName)) true)
      (Ends A fun _ => True) s :=
  wp_resumed_stop.2 (h.commanded hs (fun _ hs => ⟨hs, fun _ _ => trivial⟩)
    fun _ hs => ⟨hs, fun _ _ => trivial⟩)

theorem startCommand (h : Persists C A P) (hs : A s) :
    wp C (orOnCommandError (SystemdController.start profile.serviceName) false)
      (Ends A fun _ => True) s :=
  wp_start_command.2 (h.commanded hs (fun _ hs => ⟨hs, fun _ _ => trivial⟩)
    fun _ hs => ⟨hs, fun _ _ => trivial⟩)

/-- The common end of the methods: write the row and return it. -/
theorem persistState (h : Persists C A P) {state : ProfileState} {events : List WatchdogEvent}
    (hs : A s) (hp : P state) :
    wp C (do let events ← Watchdog.persist state events; return (state, events) : Action Draft)
      (Ends A fun draft => P draft.1) s :=
  Ends.bind (h.persist hs hp) fun _ _ hs _ => ends_pure hs hp

open DurableServiceActions

theorem settlePending (h : Persists C A P) {draft : Draft} (hs : A s) (hp : P draft.1.clearPending) :
    wp C (settlePending draft) (Ends A fun draft => P draft.1) s := h.persistState hs hp

theorem abandonPending (h : Persists C A P) {state : ProfileState} {events : List WatchdogEvent}
    {now : Int} {errorCategory : String} (hs : A s) (hp : P state.refuse) :
    wp C (abandonPending state events now errorCategory) (Ends A fun draft => P draft.1) s :=
  h.persistState hs hp

theorem refuse (h : Persists C A P) {state : ProfileState} {events : List WatchdogEvent} {now : Int}
    {code : EventCode} {values : EventValues} (hs : A s) (hp : P state.refuse) :
    wp C (refuse state events now code values) (Ends A fun result => P result.2.1) s :=
  Ends.bind (h.persist hs hp) fun _ _ hs _ => ends_pure hs hp

end Persists

/-! ## What the durable actions do to a row -/

theorem Persists.stop (h : Persists C A P) {profile : ManagedProfile} {state : ProfileState}
    {events : List WatchdogEvent} {now : Int} {owner : StopOwner} (hs : A s)
    (hintent : P (state.intend owner.action now))
    (hrefused : ∀ active, P ((state.intend owner.action now).observe active now).refuse)
    (hstopped : P (((((state.intend owner.action now).observe true now).setOwner
      (owner == .watchdog) (owner == .maintenance)).setActive false).clearPending))
    (hcompensated : P ((((((((state.intend owner.action now).observe true now).setOwner
      (owner == .watchdog) (owner == .maintenance)).setActive false).clearPending).setOwner
      false false).setActive true).refuse)) :
    wp C (DurableServiceActions.stop profile state events now owner)
      (Ends A fun result => P result.2.1) s := by
  refine Ends.bind (h.persist hs hintent) fun _ s hs _ =>
    Ends.bind (h.isActive hs) fun active s hs _ => ?_
  cases active with
  | false => exact h.refuse hs (hrefused _)
  | true =>
    refine Ends.bind (h.stopCommand hs) fun stopped s hs _ => ?_
    cases stopped with
    | false => exact h.refuse hs (hrefused _)
    | true =>
      refine wp_handle.2 (wp_mono (Ends.bind (ψ := fun result => P result.2.1) (h.persist hs hstopped)
        fun _ s hs _ => ends_pure hs hstopped) ?_)
      rintro (e | result) s ⟨hs, hr⟩
      · refine Ends.bind (h.startCommand hs) fun compensated s hs _ => ?_
        cases compensated with
        | false => exact ends_raise hs
        | true =>
          exact Ends.bind (h.persist hs hcompensated) fun _ s hs _ => ends_pure hs hcompensated
      · exact ⟨hs, hr⟩

open DurableServiceActions

theorem Persists.startIfInactive (h : Persists C A P) {profile : ManagedProfile} {active : Bool}
    (hs : A s) :
    wp C (DurableServiceActions.startIfInactive profile.serviceName active)
      (Ends A fun _ => True) s := by
  cases active with
  | false => exact h.startCommand hs
  | true => exact ends_pure hs trivial

theorem Persists.stopIfActive (h : Persists C A P) {profile : ManagedProfile} {active : Bool}
    (hs : A s) :
    wp C (DurableServiceActions.stopIfActive profile.serviceName active)
      (Ends A fun _ => True) s := by
  cases active with
  | false => exact ends_pure hs trivial
  | true => exact h.resumedStop hs

theorem Persists.start (h : Persists C A P) {profile : ManagedProfile} {state : ProfileState}
    {events : List WatchdogEvent} {now : Int} {owner : StartOwner} (hs : A s)
    (hintent : P (state.intend owner.action now))
    (hrefused : ∀ active, P ((state.intend owner.action now).observe active now).refuse)
    (hstarted : ∀ active, P ((((((state.intend owner.action now).observe active now).setOwner
      false false).setActive true).setOverride false).clearPending)) :
    wp C (DurableServiceActions.start profile state events now owner)
      (Ends A fun result => P result.2.1) s := by
  refine Ends.bind (h.persist hs hintent) fun _ s hs _ =>
    Ends.bind (h.isActive hs) fun active s hs _ =>
    Ends.bind (h.startIfInactive hs) fun started s hs _ => ?_
  cases started with
  | false => exact h.refuse hs (hrefused _)
  | true =>
    refine Ends.bind (φ := fun _ => True)
      (wp_handle.2 (wp_mono (h.persist hs (hstarted active)) ?_)) fun _ s hs _ => ends_pure hs (hstarted active)
    rintro (e | events) s ⟨hs, hr⟩
    · exact h.persist hs (hstarted active)
    · exact ⟨hs, hr⟩

theorem Persists.reconcilePending (h : Persists C A P) {profile : ManagedProfile}
    {state : ProfileState} {events : List WatchdogEvent} {now : Int} (hs : A s) (hp : P state)
    (hunknown : state.pendingAction.isSome →
      P ({ state with lastServiceCheckAt := some now } : ProfileState).refuse)
    (hstill : ∀ active, state.pendingAction.isSome →
      P ((((state.observe active now).setOwner false false).setActive true).refuse))
    (hidle : ∀ active, state.pendingAction.isSome →
      P (((state.observe active now).setActive false).refuse))
    (hstopped : ∀ action active, state.pendingAction = some action → action.isStop = true →
      P (finalizePendingStop action (state.observe active now) events now).1.clearPending)
    (hstarted : ∀ action active, state.pendingAction = some action → action.isStop = false →
      P (finalizePendingStart action (state.observe active now) events now).1.clearPending) :
    wp C (DurableServiceActions.reconcilePending profile state events now)
      (Ends A fun draft => P draft.1) s := by
  cases hpend : state.pendingAction with
  | none => exact (wp_reconcilePending_none hpend).2 ⟨hs, by rintro _ ⟨⟩; exact hp⟩
  | some action =>
    have hsome : state.pendingAction.isSome := by simp [hpend]
    refine (wp_reconcilePending hpend).2 (Ends.bind (h.queryActive hs) fun answer s hs _ => ?_)
    rcases answer with _ | active
    · exact h.abandonPending hs (hunknown hsome)
    · unfold resumePending
      cases hstop : action.isStop with
      | true =>
        refine Ends.bind (h.stopIfActive hs) fun still s hs _ => ?_
        cases still with
        | true => exact h.abandonPending hs (hstill active hsome)
        | false => exact h.settlePending hs (hstopped action active hpend hstop)
      | false =>
        refine Ends.bind (h.startIfInactive hs) fun started s hs _ => ?_
        cases started with
        | true => exact h.settlePending hs (hstarted action active hpend hstop)
        | false => exact h.abandonPending hs (hidle active hsome)

end Watchdog
