import GostManager.Watchdog.Proofs.ConsistencyProofs
import GostManager.Watchdog.Rearming

/-!
# Proofs: a unit that only the watchdog commands

On an obedient unit a row keeps its bearings: the unit is stopped exactly while somebody owns the stop.
`Poised` says so of the stored row and `DraftInStep` of the row that `process` is working on. From a poised
row a call ends in a poised row again, and no operator is seen, unless the call misreads its row.
-/

namespace Watchdog

open Effects Effects.Prog DurableServiceActions WatchdogEngine

/-! ## The operations -/

/-- Under the contract the operations are answered by an obedient unit, and they may be issued while the
database is in `G`. -/
structure Obeys {σ : Type} (C : Contract Op Ans σ) (fails : Prop) (G : Database → Prop)
    (host : σ → UnitHost) : Prop where
  answers : ∀ s op a s', C.answers s op a s' → (host s).answers fails op a (host s')
  guard : ∀ s op, G (host s).db → C.guard s op

/-- A write is never refused in this state. -/
def Recordable {σ : Type} (C : Contract Op Ans σ) (s : σ) : Prop :=
  ∀ state events e s', ¬ C.answers s (.persist state events) (.error e) s'

section Operations

variable {σ : Type} {C : Contract Op Ans σ} {fails : Prop} {G : Database → Prop} {host : σ → UnitHost}
  {profile : ManagedProfile} {s : σ}

@[simp] theorem seenActive_truthful {active : Bool} : seenActive (truthful active) = some active := by
  cases active <;> decide

namespace Obeys

theorem getState (h : Obeys C fails G host) (hg : G (host s).db) {row : ProfileState}
    (hrow : (host s).db.rows profile.profileId = some row) {ψ : σ → Prop} :
    wp C (getState profile) (Post (fun state s' =>
      state = { row with serviceName := profile.serviceName, kharejIp := profile.kharejIp } ∧
        host s' = host s) ψ) s := by
  refine wp_getState.2 ⟨h.guard s _ hg, fun state s' ha => ?_⟩
  obtain ⟨⟨rfl, hdb⟩, hrun⟩ := h.answers _ _ _ _ ha
  exact ⟨Database.getState_of_row hrow, UnitHost.ext hdb hrun⟩

theorem persist (h : Obeys C fails G host) (hg : G (host s).db) {state : ProfileState}
    {events : List WatchdogEvent} :
    wp C (persist state events) (Post (fun rest s' => rest = [] ∧
        (host s).db.persist state events = .ok (host s').db ∧ (host s').running = (host s).running)
      fun s' => fails ∧ ¬ Recordable C s ∧ host s' = host s) s := by
  refine wp_persist.2 ⟨h.guard s _ hg, fun s' ha => ?_, fun e s' ha => ?_⟩
  · obtain ⟨hdb, hrun⟩ := h.answers _ _ _ _ ha
    exact ⟨rfl, hdb, hrun⟩
  · obtain ⟨⟨hfails, hdb⟩, hrun⟩ := h.answers _ _ _ _ ha
    exact ⟨hfails, fun hrec => hrec _ _ e s' ha, UnitHost.ext hdb hrun⟩

theorem jitter (h : Obeys C fails G host) (hg : G (host s).db) {maximum : Nat} {ψ : σ → Prop} :
    wp C (Prog.perform (Op.jitter maximum) : Action Int)
      (Post (fun _ s' => host s' = host s) ψ) s := by
  refine wp_perform.2 ⟨h.guard s _ hg, fun drawn s' ha => ?_⟩
  obtain ⟨hdb, hrun⟩ := h.answers _ _ _ _ ha
  exact UnitHost.ext hdb hrun

theorem isActive (h : Obeys C fails G host) (hg : G (host s).db) {ψ : σ → Prop} :
    wp C (SystemdController.isActive profile.serviceName)
      (Post (fun active s' => active = (host s).running ∧ host s' = host s) ψ) s := by
  refine wp_isActive.2 ⟨h.guard s _ hg, fun code s' ha => ?_⟩
  obtain ⟨rfl, hs⟩ := h.answers _ _ _ _ ha
  simp only [seenActive_truthful]
  refine ⟨fun hseen => ⟨?_, hs⟩, fun hseen => ⟨?_, hs⟩, nofun⟩
  · exact (Option.some.inj hseen).symm
  · exact (Option.some.inj hseen).symm

theorem queryActive (h : Obeys C fails G host) (hg : G (host s).db) {ψ : σ → Prop} :
    wp C (queryActive profile.serviceName)
      (Post (fun answer s' => answer = some (host s).running ∧ host s' = host s) ψ) s := by
  refine wp_queryActive.2 ⟨h.guard s _ hg, fun code s' ha => ?_⟩
  obtain ⟨rfl, hs⟩ := h.answers _ _ _ _ ha
  simp only [seenActive_truthful]
  exact ⟨fun hseen => ⟨hseen.symm, hs⟩, fun hseen => ⟨hseen.symm, hs⟩, nofun⟩

/-- A start works. -/
theorem startCommand (h : Obeys C fails G host) (hg : G (host s).db) {ψ : σ → Prop} :
    wp C (orOnCommandError (SystemdController.start profile.serviceName) false)
      (Post (fun started s' => started = true ∧ host s' = { host s with running := true }) ψ) s := by
  refine wp_start_command.2 ⟨h.guard s _ hg, fun code s' ha => ?_⟩
  obtain ⟨rfl, hs⟩ := h.answers _ _ _ _ ha
  refine ⟨fun hne => absurd rfl hne, fun _ => ⟨h.guard s' _ (by rwa [hs]), fun code s'' ha => ?_⟩⟩
  obtain ⟨rfl, hs'⟩ := h.answers _ _ _ _ ha
  rw [seenActive_truthful, hs]
  exact ⟨fun _ => ⟨rfl, hs'.trans hs⟩, fun hne => absurd rfl hne⟩

/-- So does a stop. What follows a stop that is seen to work is known of the answers. -/
theorem stopCommand (h : Obeys C fails G host) (hg : G (host s).db) {χ ψ : σ → Prop}
    (hχ : ∀ s₁ s₂ s₃, C.answers s₁ (.systemctl .stop profile.serviceName) (some (0 : Int)) s₂ →
      C.answers s₂ (.systemctl .isActive profile.serviceName) (some (3 : Int)) s₃ → χ s₃) :
    wp C (orOnCommandError (SystemdController.stop profile.serviceName) false)
      (Post (fun stopped s' => stopped = true ∧ host s' = { host s with running := false } ∧ χ s')
        ψ) s := by
  refine wp_stop_command.2 ⟨h.guard s _ hg, fun code s' ha => ?_⟩
  obtain ⟨rfl, hs⟩ := h.answers _ _ _ _ ha
  refine ⟨fun hne => absurd rfl hne, fun _ => ⟨h.guard s' _ (by rwa [hs]), fun code s'' ha' => ?_⟩⟩
  obtain ⟨rfl, hs'⟩ := h.answers _ _ _ _ ha'
  rw [hs] at ha' hs'
  rw [seenActive_truthful, hs]
  exact ⟨fun _ => ⟨rfl, hs', hχ s s' s'' ha ha'⟩, fun hne => absurd rfl hne⟩

end Obeys

end Operations

/-! ## Rows that agree with the unit -/

/-- The unit is stopped exactly while the stop has an owner, or a start by the watchdog is under way. -/
structure Poised (row : ProfileState) (running : Bool) : Prop where
  maintained : row.stoppedByMaintenance = true → row.maintenance = true
  settled : row.pendingAction = none ∧
      (row.stoppedByWatchdog || row.stoppedByMaintenance) = !running ∨
    row.pendingAction = some .startWatchdog ∧ row.stoppedByWatchdog = true

/-- Since `db₀` nothing was taken for the work of an operator, and the row agrees with the unit. -/
structure InStep (profileId : String) (db₀ : Database) (host : UnitHost) : Prop where
  undisturbed : Undisturbed profileId db₀ host.db
  poised : ∃ row ∈ host.db.rows profileId, Poised row host.running

/-- A draft without intent that agrees with the unit, in a call that began in `db₀`. -/
structure DraftInStep (profileId : String) (db₀ : Database) (draft : Draft) (running : Bool) : Prop where
  same : draft.1.profileId = profileId
  idle : draft.1.pendingAction = none
  maintained : draft.1.stoppedByMaintenance = true → draft.1.maintenance = true
  owned : (draft.1.stoppedByWatchdog || draft.1.stoppedByMaintenance) = !running
  override : draft.1.manualOverride = true → ∃ row ∈ db₀.rows profileId, row.manualOverride = true
  clean : NoManualStop draft.2

section Rows

variable {profileId : String} {db₀ db db' : Database} {state state' : ProfileState}
  {events events' : List WatchdogEvent} {running : Bool} {host : UnitHost}

theorem Undisturbed.refl : Undisturbed profileId db₀ db₀ where
  override row' hrow' ho := ⟨row', hrow', ho⟩
  events := by simp [NoManualStop]

theorem Undisturbed.persist (h : Undisturbed profileId db₀ db)
    (hp : db.persist state events = .ok db') (hid : state.profileId = profileId)
    (ho : state.manualOverride = true → ∃ row ∈ db₀.rows profileId, row.manualOverride = true)
    (he : NoManualStop events) : Undisturbed profileId db₀ db' where
  override := by
    intro row' hrow' ho'
    rw [← hid, Database.persist_row_self hp] at hrow'
    exact ho (Option.mem_some_iff.1 hrow' ▸ ho')
  events := by
    intro event hmem
    rw [Database.persist_events hp, List.drop_append] at hmem
    rcases List.mem_append.1 hmem with hmem | hmem
    · exact h.events event hmem
    · exact he event (List.mem_of_mem_drop hmem)

/-- A draft that is as before in everything that concerns the unit. -/
theorem DraftInStep.congr (h : DraftInStep profileId db₀ (state, events) running)
    (hservice : state'.serviceRecord = state.serviceRecord)
    (he : NoManualStop events → NoManualStop events') :
    DraftInStep profileId db₀ (state', events') running := by
  simp only [ProfileState.serviceRecord, Prod.mk.injEq] at hservice
  obtain ⟨hid, hm, hw, hs, ho, hp, -⟩ := hservice
  exact ⟨hid.trans h.same, hp.trans h.idle, by rw [hs, hm]; exact h.maintained,
    by rw [hw, hs]; exact h.owned, by rw [ho]; exact h.override, he h.clean⟩

/-- Looking at the unit finds nothing that the row does not say. -/
theorem DraftInStep.noticed {now : Int} (h : DraftInStep profileId db₀ (state, events) running)
    (hn : Noticed state now running state')
    (he : (running = true ∨ state.stoppedByWatchdog = true ∨ state.stoppedByMaintenance = true) →
      NoManualStop events → NoManualStop events') :
    DraftInStep profileId db₀ (state', events') running ∧
      state'.stoppedByWatchdog = state.stoppedByWatchdog ∧
      state'.manualOverride = state.manualOverride := by
  have howned : (state.stoppedByWatchdog || state.stoppedByMaintenance) = !running := h.owned
  have hw : state'.stoppedByWatchdog = state.stoppedByWatchdog := by
    rw [hn.stoppedByWatchdog]
    cases running <;> simp_all
  have hs : state'.stoppedByMaintenance = state.stoppedByMaintenance := by
    rw [hn.stoppedByMaintenance]
    cases running <;> simp_all
  have ho : state'.manualOverride = state.manualOverride := by
    rw [hn.manualOverride, howned]
    cases running <;> simp
  refine ⟨⟨hn.profileId.trans h.same, hn.pendingAction.trans h.idle, ?_, ?_, ?_, ?_⟩, hw, ho⟩
  · rw [hs, hn.maintenance]
    exact h.maintained
  · rw [hw, hs]
    exact h.owned
  · rw [ho]
    exact h.override
  · refine he ?_ h.clean
    cases running <;> simp_all

/-- The row of a start that has worked. -/
theorem DraftInStep.started {action : PendingAction} {active : Bool} {now : Int}
    (h : DraftInStep profileId db₀ (state, events) running) (he : NoManualStop events') :
    DraftInStep profileId db₀ ((((((state.intend action now).observe active now).setOwner false
      false).setActive true).setOverride false).clearPending, events') true :=
  ⟨h.same, rfl, nofun, rfl, nofun, he⟩

/-- The row of a stop that has worked. -/
theorem DraftInStep.stopped {action : PendingAction} {active : Bool} {now : Int}
    (h : DraftInStep profileId db₀ (state, events) running) (he : NoManualStop events') :
    DraftInStep profileId db₀ (((((state.intend action now).observe active now).setOwner true
      false).setActive false).clearPending, events') false :=
  ⟨h.same, rfl, nofun, rfl, h.override, he⟩

/-- Writing a draft leaves a row that agrees with the unit. -/
theorem DraftInStep.persist {host' : UnitHost} (h : DraftInStep profileId db₀ (state, events) host.running)
    (hs : Undisturbed profileId db₀ host.db) (hp : host.db.persist state events = .ok host'.db)
    (hrun : host'.running = host.running) : InStep profileId db₀ host' where
  undisturbed := hs.persist hp h.same h.override h.clean
  poised := by
    refine ⟨state, ?_, h.maintained, .inl ⟨h.idle, by rw [hrun]; exact h.owned⟩⟩
    rw [Option.mem_def, ← h.same]
    exact Database.persist_row_self hp

end Rows

theorem noManualStop_singleton {event : WatchdogEvent} (h : event.code ≠ .watchdogManualOverride) :
    NoManualStop [event] :=
  noManualStop_append (fun _ h => nomatch h : NoManualStop []) h

/-! ## The actions on the unit -/

section Actions

variable {σ : Type} {C : Contract Op Ans σ} {fails : Prop} {host : σ → UnitHost} {db₀ : Database}
  {profile : ManagedProfile} {state : ProfileState} {events : List WatchdogEvent} {now : Int} {s : σ}

/-- Writing a draft. -/
theorem persist_inStep (h : Obeys C fails (Undisturbed profile.profileId db₀) host)
    (hs : Undisturbed profile.profileId db₀ (host s).db)
    (hd : DraftInStep profile.profileId db₀ (state, events) (host s).running) :
    wp C (persist state events) (Post (fun rest s' => rest = [] ∧
        InStep profile.profileId db₀ (host s') ∧ (host s').running = (host s).running)
      fun s' => ¬ Recordable C s ∧ host s' = host s) s := by
  refine Post.weaken (Post.mono (h.persist hs) ?_) fun s' hs' => hs'.2
  rintro rest s' ⟨hrest, hp, hrun⟩
  exact ⟨hrest, hd.persist hs hp hrun, hrun⟩

/-- `start` after a stop of the watchdog succeeds, or the row says that it is under way. -/
theorem start_inStep (h : Obeys C fails (Undisturbed profile.profileId db₀) host)
    (hs : InStep profile.profileId db₀ (host s))
    (hd : DraftInStep profile.profileId db₀ (state, events) (host s).running)
    (hw : state.stoppedByWatchdog = true) :
    wp C (start profile state events now .watchdog)
      (Post (fun result s' => InStep profile.profileId db₀ (host s') ∧
        DraftInStep profile.profileId db₀ result.2 (host s').running)
        fun s' => InStep profile.profileId db₀ (host s')) s := by
  have hstopped : (host s).running = false := by simpa [hw] using hd.owned
  refine Post.bind (Post.weaken (h.persist hs.undisturbed) fun s' hs' => hs'.2.2 ▸ hs) ?_
  rintro _ s₁ ⟨rfl, hp, hrun⟩
  -- the intent is written: from here on the row is in step, whether the unit runs or not
  have hu : Undisturbed profile.profileId db₀ (host s₁).db :=
    hs.undisturbed.persist hp hd.same hd.override hd.clean
  have hunder : InStep profile.profileId db₀ ⟨(host s₁).db, true⟩ := by
    refine ⟨hu, state.intend .startWatchdog now, ?_, hd.maintained, .inr ⟨rfl, hw⟩⟩
    rw [Option.mem_def, ← hd.same]
    exact Database.persist_row_self hp
  refine Post.bind (h.isActive hu) ?_
  rintro active s₂ ⟨rfl, hs₂⟩
  rw [hrun, hstopped]
  refine Post.bind (h.startCommand (by rwa [hs₂])) ?_
  rintro started s₃ ⟨rfl, hs₃⟩
  rw [hs₂] at hs₃
  have hin : InStep profile.profileId db₀ (host s₃) := by
    rw [hs₃]
    exact hunder
  have hrunning : (host s₃).running = true := by rw [hs₃]
  have hwrite : ∀ s₄ state' events', host s₄ = host s₃ →
      DraftInStep profile.profileId db₀ (state', events') true → wp C (persist state' events')
        (Post (fun rest s' => rest = [] ∧ InStep profile.profileId db₀ (host s') ∧
          (host s').running = true) fun s' => host s' = host s₃) s₄ := by
    intro s₄ state' events' hs₄ hd'
    rw [← hrunning, ← hs₄] at hd' ⊢
    exact Post.weaken (persist_inStep h (by rw [hs₄]; exact hin.undisturbed) hd') fun s₅ hs₅ => hs₅.2
  have hclean : ∀ state', NoManualStop [event state' .watchdogProfileStarted now
      { actionResult := some .started }] := fun _ => noManualStop_singleton nofun
  refine Post.bind (Post.handle (hwrite s₃ _ _ rfl (hd.started (hclean _))) fun _ s₄ hs₄ => ?_) ?_
  · exact Post.weaken (hwrite s₄ _ _ hs₄ (hd.started (noManualStop_append (hclean _) nofun)))
      fun s₅ hs₅ => hs₅ ▸ hin
  · rintro rest s₄ ⟨rfl, hin₄, hrun₄⟩
    refine ⟨hin₄, ?_⟩
    rw [hrun₄]
    exact hd.started fun _ h => nomatch h

/-- `stop` of a unit that runs. -/
theorem stop_inStep (h : Obeys C fails (Undisturbed profile.profileId db₀) host)
    (hs : InStep profile.profileId db₀ (host s))
    (hd : DraftInStep profile.profileId db₀ (state, events) (host s).running)
    (hrunning : (host s).running = true)
    (hrec : ∀ s₁ s₂ s₃, C.answers s₁ (.systemctl .stop profile.serviceName) (some (0 : Int)) s₂ →
      C.answers s₂ (.systemctl .isActive profile.serviceName) (some (3 : Int)) s₃ → Recordable C s₃) :
    wp C (stop profile state events now .watchdog)
      (Post (fun result s' => InStep profile.profileId db₀ (host s') ∧
        DraftInStep profile.profileId db₀ result.2 (host s').running)
        fun s' => InStep profile.profileId db₀ (host s')) s := by
  refine Post.bind (Post.weaken (h.persist hs.undisturbed) fun s' hs' => hs'.2.2 ▸ hs) ?_
  rintro _ s₁ ⟨rfl, hp, hrun⟩
  have hu : Undisturbed profile.profileId db₀ (host s₁).db :=
    hs.undisturbed.persist hp hd.same hd.override hd.clean
  refine Post.bind (h.isActive hu) ?_
  rintro active s₂ ⟨rfl, hs₂⟩
  rw [hrun, hrunning]
  refine Post.bind (h.stopCommand (by rwa [hs₂]) hrec) ?_
  rintro stopped s₃ ⟨rfl, hs₃, hrec⟩
  rw [hs₂] at hs₃
  have hu₃ : Undisturbed profile.profileId db₀ (host s₃).db := by rwa [hs₃]
  have hstopped : (host s₃).running = false := by rw [hs₃]
  have hwrite : ∀ state' events', DraftInStep profile.profileId db₀ (state', events') false →
      wp C (persist state' events') (Post (fun rest s' => rest = [] ∧
        InStep profile.profileId db₀ (host s') ∧ (host s').running = false) fun _ => False) s₃ := by
    intro state' events' hd'
    rw [← hstopped] at hd' ⊢
    exact Post.weaken (persist_inStep h hu₃ hd') fun s₄ hs₄ => hs₄.1 hrec
  have hclean : ∀ state', NoManualStop [event state' .watchdogProfileStopped now
      { actionResult := some .stopped }] := fun _ => noManualStop_singleton nofun
  refine Post.handle (Post.bind (hwrite _ _ (hd.stopped (hclean _))) ?_) nofun
  rintro rest s₄ ⟨rfl, hin₄, hrun₄⟩
  refine ⟨hin₄, ?_⟩
  rw [hrun₄]
  exact hd.stopped fun _ h => nomatch h

/-- A unit that does not run is started. -/
theorem startIfInactive_inStep (h : Obeys C fails (Undisturbed profile.profileId db₀) host)
    (hs : Undisturbed profile.profileId db₀ (host s).db) {ψ : σ → Prop} :
    wp C (startIfInactive profile.serviceName (host s).running) (Post (fun started s' =>
      started = true ∧ host s' = { host s with running := true }) ψ) s := by
  cases hrun : (host s).running with
  | true => exact ⟨rfl, UnitHost.ext rfl hrun⟩
  | false => exact h.startCommand hs

/-- A start that was under way is finished. -/
theorem reconcilePending_inStep (h : Obeys C fails (Undisturbed profile.profileId db₀) host)
    (hs : InStep profile.profileId db₀ (host s)) (hid : state.profileId = profile.profileId)
    (hpending : state.pendingAction = some .startWatchdog)
    (hrunning : InStep profile.profileId db₀ { host s with running := true }) :
    wp C (DurableServiceActions.reconcilePending profile state [] now)
      (Post (fun draft s' => InStep profile.profileId db₀ (host s') ∧ (host s').running = true ∧
        DraftInStep profile.profileId db₀ draft true ∧ draft.1.stoppedByWatchdog = false)
        fun s' => InStep profile.profileId db₀ (host s')) s := by
  refine (wp_reconcilePending hpending).2 (Post.bind (h.queryActive hs.undisturbed) ?_)
  rintro _ s₁ ⟨rfl, hs₁⟩
  rw [← hs₁]
  refine Post.bind (startIfInactive_inStep h (by rw [hs₁]; exact hs.undisturbed)) ?_
  rintro started s₂ ⟨rfl, hs₂⟩
  rw [hs₁] at hs₂ ⊢
  have hrun : (host s₂).running = true := by rw [hs₂]
  rw [← hs₂] at hrunning
  have hclean : ∀ active, NoManualStop
      (finalizePendingStart .startWatchdog (state.observe active now) [] now).2 :=
    fun _ => noManualStop_singleton nofun
  have hdrafted : ∀ active events, NoManualStop events → DraftInStep profile.profileId db₀
      ((finalizePendingStart .startWatchdog (state.observe active now) [] now).1.clearPending, events)
      true := fun active events he => ⟨hid, rfl, nofun, rfl, nofun, he⟩
  refine Post.bind (Post.weaken (persist_inStep h hrunning.undisturbed ?_) ?_) ?_
  · rw [hrun]
    exact hdrafted _ _ (hclean _)
  · exact fun s₃ hs₃ => by rwa [hs₃.2]
  · rintro rest s₃ ⟨rfl, hin₃, hrun₃⟩
    exact ⟨hin₃, hrun₃.trans hrun, hdrafted _ [] (fun _ hmem => nomatch hmem), rfl⟩

/-- What `_failed_check` looks at is as the call has found it. -/
structure AsFound (row state : ProfileState) : Prop where
  pendingAction : state.pendingAction = row.pendingAction
  stoppedByWatchdog : state.stoppedByWatchdog = row.stoppedByWatchdog
  maintenance : state.maintenance = row.maintenance
  manualOverride : state.manualOverride = row.manualOverride
  health : state.healthRecord = row.healthRecord

/-- `_failed_check` stops what is stopped only in a call that misreads its row. -/
theorem AsFound.misreads {row state' : ProfileState} {result : ProbeResult} (h : AsFound row state)
    (hcounted : Failed profile state state') (hidle : state.pendingAction = none)
    (hresult : result = .unreachable) (hw : state'.stoppedByWatchdog = true)
    (hfailures : profile.config.failureThreshold ≤ state'.failureCount)
    (hauto : profile.config.mode = .auto) (hm : state'.maintenance = false)
    (ho : state'.manualOverride = false)
    (hhealth : state.healthState ≠ .down ∧ state.healthState ≠ .recovering) :
    Misreads profile result row := by
  have hservice := hcounted.service
  simp only [ProfileState.serviceRecord, Prod.mk.injEq] at hservice
  obtain ⟨-, hm', hw', -, ho', -⟩ := hservice
  have hrecord := h.health
  simp only [ProfileState.healthRecord, Prod.mk.injEq] at hrecord
  obtain ⟨hstate, hcount, -⟩ := hrecord
  refine ⟨hauto, hresult, ?_, ?_, ?_, ?_, ?_, ?_, ?_⟩
  · rw [← h.pendingAction, hidle]
  · rw [← h.stoppedByWatchdog, ← hw', hw]
  · rw [← h.maintenance, ← hm', hm]
  · rw [← h.manualOverride, ← ho', ho]
  · rw [← hstate]
    exact hhealth.1
  · rw [← hstate]
    exact hhealth.2
  · rw [hcounted.failureCount, hcount] at hfailures
    exact le_trans hfailures (min_le_left _ _)

theorem AsFound.noticed {row state' : ProfileState} {running : Bool} (h : AsFound row state)
    (hn : Noticed state now running state')
    (hw : state'.stoppedByWatchdog = state.stoppedByWatchdog)
    (ho : state'.manualOverride = state.manualOverride) : AsFound row state' :=
  ⟨hn.pendingAction.trans h.pendingAction, hw.trans h.stoppedByWatchdog,
    hn.maintenance.trans h.maintenance, ho.trans h.manualOverride, hn.health.trans h.health⟩

theorem AsFound.checked {row : ProfileState} {checkStatus : CheckStatus} {category : Option String}
    (h : AsFound row state) : AsFound row (state.checked now checkStatus category) :=
  ⟨h.pendingAction, h.stoppedByWatchdog, h.maintenance, h.manualOverride, h.health⟩

/-- What holds of the draft of `process` until the result is counted. The call began with `row` and the
unit as `began`. -/
structure CheckInStep (profileId : String) (db₀ : Database) (row : ProfileState) (began : Bool)
    (host : UnitHost) (draft : Draft) : Prop where
  inStep : InStep profileId db₀ host
  drafted : DraftInStep profileId db₀ draft host.running
  found : draft.1.stoppedByWatchdog = true → AsFound row draft.1
  running : host.running = true → row.pendingAction ≠ none ∨ began = true

section Process

variable {row : ProfileState} {result : ProbeResult} {began : Bool}

/-- The row as it is stored agrees with the unit as it is. -/
theorem Poised.inStep {host : UnitHost} (hp : Poised row host.running) (hdb : host.db = db₀)
    (hrow : db₀.rows profile.profileId = some row) : InStep profile.profileId db₀ host where
  undisturbed := hdb ▸ .refl
  poised := ⟨row, hdb ▸ hrow, hp⟩

/-- The row is read, and a start that was under way is finished. -/
theorem getState_checking (h : Obeys C fails (Undisturbed profile.profileId db₀) host)
    (hdb : (host s).db = db₀) (hrow : db₀.rows profile.profileId = some row)
    (hp : Poised row (host s).running) :
    wp C (getState profile) (Post (fun state s' => wp C (reconcileIfPending profile state [] now)
      (Post (fun draft s' => CheckInStep profile.profileId db₀ row (host s).running (host s') draft)
        fun s' => InStep profile.profileId db₀ (host s')) s')
      fun s' => InStep profile.profileId db₀ (host s')) s := by
  have hid : row.profileId = profile.profileId := db₀.keyed _ _ hrow
  refine Post.mono (h.getState (by rw [hdb]; exact .refl) (by rw [hdb]; exact hrow)) ?_
  rintro state s' ⟨rfl, hs'⟩
  have hin : InStep profile.profileId db₀ (host s') := by
    rw [hs']
    exact hp.inStep hdb hrow
  obtain ⟨hidle, howned⟩ | ⟨hstart, hw⟩ := hp.settled
  · refine wp_ite.2 ⟨fun hpending => by simp [hidle] at hpending, fun _ => ⟨hin, ?_, ?_, ?_⟩⟩
    · refine ⟨hid, hidle, hp.maintained, ?_, fun ho => ⟨row, hrow, ho⟩, fun _ hmem => nomatch hmem⟩
      rw [hs']
      exact howned
    · exact fun _ => ⟨rfl, rfl, rfl, rfl, rfl⟩
    · exact fun hrun => .inr (hs' ▸ hrun)
  · have hrunning : InStep profile.profileId db₀ { host s' with running := true } :=
      Poised.inStep ⟨hp.maintained, .inr ⟨hstart, hw⟩⟩ (by rw [hs', hdb]) hrow
    refine wp_ite.2 ⟨fun _ => ?_, fun hpending => by simp [hstart] at hpending⟩
    refine Post.mono (reconcilePending_inStep h hin hid hstart hrunning) ?_
    rintro draft s₂ ⟨hin₂, hrun₂, hd, hw₂⟩
    exact ⟨hin₂, hrun₂ ▸ hd, fun hw => by simp [hw₂] at hw, fun _ => .inl (by simp [hstart])⟩

/-- The unit is as the draft says. -/
theorem reconcileServiceInAuto_checking (h : Obeys C fails (Undisturbed profile.profileId db₀) host)
    (hs : CheckInStep profile.profileId db₀ row began (host s) (state, events)) :
    wp C (reconcileServiceInAuto profile state now events)
      (Post (fun draft s' => CheckInStep profile.profileId db₀ row began (host s') draft)
        fun s' => InStep profile.profileId db₀ (host s')) s := by
  refine reconcileServiceInAuto_drafts hs.drafted.idle hs
    (Post.mono (h.isActive hs.inStep.undisturbed) ?_)
  rintro active s' ⟨rfl, hs'⟩ state' events' hn he
  obtain ⟨hd, hw, ho⟩ := hs.drafted.noticed hn he
  rw [hs']
  exact ⟨hs.inStep, hd, fun hw' => (hs.found (hw ▸ hw')).noticed hn hw ho, hs.running⟩

/-- Counting a result starts a unit that the watchdog has stopped, or stops one that runs. -/
theorem countResult_checking (h : Obeys C fails (Undisturbed profile.profileId db₀) host)
    (hmisreads : ¬ Misreads profile result row) (hresult : result.errorCategory = none)
    (hrec : row.pendingAction ≠ none ∨ began = true → ∀ s₁ s₂ s₃,
      C.answers s₁ (.systemctl .stop profile.serviceName) (some (0 : Int)) s₂ →
      C.answers s₂ (.systemctl .isActive profile.serviceName) (some (3 : Int)) s₃ →
      Recordable C s₃)
    (hs : CheckInStep profile.profileId db₀ row began (host s) (state, events)) :
    wp C (countResult profile state result now events)
      (Post (fun draft s' => InStep profile.profileId db₀ (host s') ∧
        DraftInStep profile.profileId db₀ draft (host s').running)
        fun s' => InStep profile.profileId db₀ (host s')) s := by
  refine wp_ite.2 ⟨fun _ => ?_, fun hne => ?_⟩
  · refine successfulCheck_drafts (Φ := fun s' => host s' = host s)
      (h.jitter hs.inStep.undisturbed) rfl (fun s' hs' => hs' ▸ hs.inStep) ?_ ?_
    · intro state' events' s' hs' hcounted he _
      rw [hs']
      exact ⟨hs.inStep, hs.drafted.congr hcounted.service he⟩
    · intro state' events' s' hs' hcounted he _ hdue
      refine start_inStep h (hs' ▸ hs.inStep) ?_ hdue.2.2.2
      rw [hs']
      exact hs.drafted.congr hcounted.service he
  · refine failedCheck_drafts (fun state' events' hcounted he =>
      ⟨hs.inStep, hs.drafted.congr hcounted.service he⟩) ?_
    intro state' events' hcounted he _ hfailures hauto hm ho howned
    have hd : DraftInStep profile.profileId db₀ (state', events') (host s).running :=
      hs.drafted.congr hcounted.service he
    have hunowned : state'.stoppedByWatchdog = false := by
      by_contra hw
      rw [Bool.not_eq_false] at hw
      have hservice := hcounted.service
      simp only [ProfileState.serviceRecord, Prod.mk.injEq] at hservice
      have hunreachable : result = .unreachable := by
        cases result with
        | unreachable => rfl
        | success => exact absurd rfl hne
        | probeError => exact nomatch hresult
      exact hmisreads ((hs.found (hservice.2.2.1 ▸ hw)).misreads hcounted hs.drafted.idle hunreachable
        hw hfailures hauto hm ho (howned hw))
    have hrunning : (host s).running = true := by
      have hkept : state'.stoppedByMaintenance = false := by
        by_contra hkept
        rw [Bool.not_eq_false] at hkept
        exact absurd (hd.maintained hkept) (by simp [hm])
      simpa [hunowned, hkept] using hd.owned
    exact stop_inStep h hs.inStep hd hrunning (hrec (hs.running hrunning))

/-- `process` ends with a row that agrees with the unit, unless it misreads its row. -/
theorem process_inStep (h : Obeys C fails (Undisturbed profile.profileId db₀) host)
    (hdb : (host s).db = db₀) (hrow : db₀.rows profile.profileId = some row)
    (hp : Poised row (host s).running) (hmisreads : ¬ Misreads profile result row)
    (hrec : row.pendingAction ≠ none ∨ (host s).running = true → ∀ s₁ s₂ s₃,
      C.answers s₁ (.systemctl .stop profile.serviceName) (some (0 : Int)) s₂ →
      C.answers s₂ (.systemctl .isActive profile.serviceName) (some (3 : Int)) s₃ →
      Recordable C s₃) :
    wp C (process profile result now) (Post (fun _ s' => InStep profile.profileId db₀ (host s'))
      fun s' => InStep profile.profileId db₀ (host s')) s := by
  refine process_drafts (χ := fun draft s' =>
      CheckInStep profile.profileId db₀ row (host s).running (host s') draft)
    (ξ := fun draft s' => InStep profile.profileId db₀ (host s') ∧
      DraftInStep profile.profileId db₀ draft (host s').running) (getState_checking h hdb hrow hp)
    (fun draft s' _ hχ => hχ.inStep) ?_ (fun _ _ _ hs => reconcileServiceInAuto_checking h hs)
    (fun _ _ _ _ hresult hs => countResult_checking h hmisreads hresult hrec hs) ?_
  · rintro state events events' checkStatus category s' ⟨hin, hd, hfound, hrun⟩ he
    exact ⟨hin, hd.congr rfl he, fun hw => (hfound hw).checked, hrun⟩
  · intro state events s' hs'
    have hboth : InStep profile.profileId db₀ (host s') ∧
        DraftInStep profile.profileId db₀ (state, events) (host s').running :=
      hs'.elim (fun hχ => ⟨hχ.2.inStep, hχ.2.drafted⟩) id
    exact Post.weaken (Post.mono (persist_inStep h hboth.1.undisturbed hboth.2)
      fun _ _ hs'' => hs''.2.1) fun s'' hs'' => hs''.2 ▸ hboth.1

/-! ## A misread row -/

/-- `stop` takes a unit that does not run for one that an operator has stopped. -/
theorem stop_overrides (h : Obeys C False (fun _ => True) host) (hrun : (host s).running = false) :
    wp C (stop profile state events now .watchdog)
      (Post (fun result _ => result.2.1.manualOverride = true ∧
        result.2.1.profileId = state.profileId) fun _ => False) s := by
  refine Post.bind (Post.weaken (h.persist trivial) fun _ hs' => hs'.1) ?_
  rintro _ s₁ ⟨rfl, -, hrun₁⟩
  refine Post.bind (h.isActive trivial) ?_
  rintro active s₂ ⟨rfl, -⟩
  rw [hrun₁, hrun]
  refine Post.bind (Post.weaken (h.persist trivial) fun _ hs' => hs'.1) ?_
  rintro _ s₃ ⟨rfl, -, -⟩
  exact ⟨rfl, rfl⟩

/-- A call that misreads its row leaves it with a manual override. -/
theorem process_overrides (h : Obeys C False (fun _ => True) host) (hdb : (host s).db = db₀)
    (hrow : db₀.rows profile.profileId = some row) (hp : Poised row (host s).running)
    (hrun : (host s).running = false) (hmisreads : Misreads profile result row) :
    wp C (process profile result now) (Post (fun _ s' =>
        ∃ row' ∈ (host s').db.rows profile.profileId, row'.manualOverride = true)
      fun s' => ∃ row' ∈ (host s').db.rows profile.profileId, row'.manualOverride = true) s := by
  obtain ⟨hauto, rfl, hidle, hw, hm, ho, hdown, hrecovering, hfailures⟩ := hmisreads
  have howned : (row.stoppedByWatchdog || row.stoppedByMaintenance) = !false := by simp [hw]
  refine process_drafts (χ := fun draft s' => host s' = host s ∧
      DraftInStep profile.profileId db₀ draft false ∧ AsFound row draft.1)
    (ξ := fun draft _ => draft.1.manualOverride = true ∧ draft.1.profileId = profile.profileId)
    ?_ (fun draft s' hdisabled _ => by simp [hauto] at hdisabled) ?_ ?_ ?_ ?_
  · refine Post.mono (h.getState trivial (by rw [hdb]; exact hrow)) ?_
    rintro state s' ⟨rfl, hs'⟩
    refine wp_ite.2 ⟨fun hpending => by simp [hidle] at hpending, fun _ => ⟨hs', ?_, ?_⟩⟩
    · have hid : row.profileId = profile.profileId := db₀.keyed _ _ hrow
      exact ⟨hid, hidle, hp.maintained, howned, fun ho => ⟨row, hrow, ho⟩,
        fun _ hmem => absurd hmem List.not_mem_nil⟩
    · exact ⟨rfl, rfl, rfl, rfl, rfl⟩
  · rintro state events events' checkStatus category s' ⟨hs', hd, hfound⟩ he
    exact ⟨hs', hd.congr rfl he, hfound.checked⟩
  · rintro state events s' ⟨hs', hd, hfound⟩
    refine reconcileServiceInAuto_drafts hd.idle ⟨hs', hd, hfound⟩
      (Post.mono (h.isActive trivial) ?_)
    rintro active s₁ ⟨rfl, hs₁⟩ state' events' hn he
    rw [hs', hrun] at hn he
    obtain ⟨hd', hw', ho'⟩ := hd.noticed hn he
    exact ⟨hs₁.trans hs', hd', hfound.noticed hn hw' ho'⟩
  · rintro state events s' - - ⟨hs', hd, hfound⟩
    have hrecord := hfound.health
    simp only [ProfileState.healthRecord, Prod.mk.injEq] at hrecord
    obtain ⟨hhealth, hcount, -⟩ := hrecord
    rw [← hhealth] at hdown hrecovering
    rw [← hcount] at hfailures
    have hm' : state.maintenance = false := hfound.maintenance.trans hm
    have ho' : state.manualOverride = false := hfound.manualOverride.trans ho
    refine wp_ite.2 ⟨fun hsuccess => (by cases hsuccess), fun _ => wp_ite.2 ⟨fun hr => absurd hr hrecovering,
      fun _ => wp_ite.2 ⟨fun _ => wp_ite.2 ⟨fun _ => wp_ite.2 ⟨fun hmode => ?_, fun _ => ?_⟩, fun hdue => ?_⟩,
        fun hlow => ?_⟩⟩⟩
    · simp [transition_fst, hauto, hm', ho'] at hmode
    · refine Post.bind (Post.weaken (stop_overrides h (hs' ▸ hrun)) fun _ => False.elim) ?_
      rintro ⟨stopped, draft⟩ s₁ ⟨ho₁, hid₁⟩
      refine ⟨ho₁, hid₁.trans ?_⟩
      rw [transition_fst]
      exact hd.same
    · exact absurd (.inl (by simpa using hdown)) hdue
    · exact absurd (le_min hfailures (le_refl _)) hlow
  · rintro state events s' (⟨hne, -⟩ | ⟨ho', hid⟩)
    · exact absurd rfl hne
    · refine Post.weaken (Post.mono (h.persist trivial) ?_) fun _ hs' => hs'.1.elim
      rintro rest s₁ ⟨-, hp₁, -⟩
      refine ⟨state, ?_, ho'⟩
      rw [Option.mem_def, ← hid]
      exact Database.persist_row_self hp₁

end Process

end Actions

/-! ## One call on an obedient unit -/

/-- Any operation may be issued, and an obedient unit answers. -/
def UnitHost.contract (fails : Prop) : Contract Op Ans UnitHost where
  answers := UnitHost.answers fails
  guard _ _ := True

theorem UnitHost.obeys {fails : Prop} {G : Database → Prop} :
    Obeys (UnitHost.contract fails) fails G id :=
  ⟨fun _ _ _ _ ha => ha, fun _ _ _ => trivial⟩

theorem UnitHost.obey_answers (host : UnitHost) (op : Op) (a : Ans op) (host' : UnitHost)
    (ho : host.obey op = some (a, host')) : host.answers False op a host' := by
  cases op with
  | getState => cases ho; exact ⟨⟨rfl, rfl⟩, rfl⟩
  | persist state events =>
    rw [UnitHost.obey] at ho
    split at ho
    · next hp => cases ho; exact ⟨hp, rfl⟩
    · cases ho
  | systemctl verb => cases verb <;> cases ho <;> exact ⟨rfl, rfl⟩
  | jitter => cases ho; exact ⟨rfl, rfl⟩

/-- **Its own stop.** In any row that a run can leave, without intent and with a stop owned by the
watchdog or by maintenance, and with an obedient unit that does not run: `process` takes nothing for
the work of an operator, unless it misreads the row; and if it does and the writes succeed, it does. -/
theorem owned_stop_recognized {cfg : anyCalls.Config} (hr : anyCalls.Reachable Database.empty cfg)
    {profile : ManagedProfile} {result : ProbeResult} {now : Int} {row : ProfileState}
    (hrow : cfg.world.rows profile.profileId = some row) (hidle : row.pendingAction = none)
    (howned : row.stoppedByWatchdog = true ∨ row.stoppedByMaintenance = true) {fails : Prop}
    {r : Except Exn ProfileState} {host' : UnitHost}
    (hrun : Steps (UnitHost.answers fails)
      (process profile result now, ⟨cfg.world, false⟩) (.done r, host')) :
    (¬ Misreads profile result row → Undisturbed profile.profileId cfg.world host'.db) ∧
    (¬ fails → Misreads profile result row →
      ¬ Undisturbed profile.profileId cfg.world host'.db) := by
  have hconsistent : cfg.world.Consistent := anyCalls_keeps.always (fun _ _ h => h)
    (fun _ _ _ _ hg => hg.1) (fun _ _ _ _ h => h) (by rintro _ _ ⟨⟩) hr
  have hp : Poised row false :=
    ⟨(hconsistent _ _ hrow).owned_maintenance, .inl ⟨hidle, by simpa using howned⟩⟩
  refine ⟨fun hmisreads => ?_, fun hfails hmisreads hundisturbed => ?_⟩
  · have h := wp_steps (C := UnitHost.contract fails) hrun
      (process_inStep UnitHost.obeys rfl hrow hp hmisreads
        (by rintro (hpending | hrunning); exacts [absurd hidle hpending, nomatch hrunning]))
    cases r with
    | ok => exact h.undisturbed
    | error => exact h.undisturbed
  · obtain rfl : fails = False := eq_false hfails
    have h := wp_steps (C := UnitHost.contract False) hrun
      (process_overrides UnitHost.obeys rfl hrow hp rfl hmisreads)
    obtain ⟨row', hrow', ho'⟩ : ∃ row' ∈ host'.db.rows profile.profileId, row'.manualOverride = true := by
      cases r with
      | ok => exact h
      | error => exact h
    obtain ⟨row'', hrow'', ho⟩ := hundisturbed.override row' hrow' ho'
    rw [hrow, Option.mem_some_iff] at hrow''
    subst hrow''
    exact absurd ho (by simp [hmisreads.2.2.2.2.2.1])

/-- The unit that the watchdog has stopped is started again. -/
theorem owned_stop_recognized_shortOutage : ∃ (db : Database) (r : Except Exn ProfileState)
    (host' : UnitHost), Steps (UnitHost.answers False)
      (process eagerProfile .success 102, ⟨db, false⟩) (.done r, host') ∧
    host'.running = true ∧ Undisturbed "iran-1" db host'.db := by
  have hr : anyCalls.Reachable .empty
      (anyCalls.script .empty (played [(.process eagerProfile .unreachable 100, truthful, toTheEnd)])) :=
    reachable_played (by simp)
  have hrun := runWhile_steps UnitHost.obey_answers toTheEnd (process eagerProfile .success 102)
    ⟨(anyCalls.script .empty
      (played [(.process eagerProfile .unreachable 100, truthful, toTheEnd)])).world, false⟩
  have hkept := (owned_stop_recognized hr rfl rfl (.inl rfl) hrun).1 (by decide)
  exact ⟨_, _, _, hrun, rfl, hkept⟩

/-- The stop is owned, and the call that follows takes it for one by an operator. -/
theorem not_owned_stop_recognized : ¬ ∀ cfg, anyCalls.Reachable .empty cfg →
    ∀ profile result now row, cfg.world.rows profile.profileId = some row →
      row.pendingAction = none → row.stoppedByWatchdog = true ∨ row.stoppedByMaintenance = true →
      ∀ r host', Steps (UnitHost.answers False)
        (process profile result now, ⟨cfg.world, false⟩) (.done r, host') →
      Undisturbed profile.profileId cfg.world host'.db := by
  intro h
  have hr : anyCalls.Reachable .empty (anyCalls.script .empty (played watchedRecovery)) :=
    reachable_played (by simp)
  have hrun := runWhile_steps UnitHost.obey_answers toTheEnd (process eagerProfile .unreachable 115)
    ⟨(anyCalls.script .empty (played watchedRecovery)).world, false⟩
  have hundisturbed := h _ hr eagerProfile .unreachable 115 _ rfl rfl (.inl rfl) _ _ hrun
  obtain ⟨row, hrow, ho⟩ := hundisturbed.override _ rfl rfl
  cases hrow
  exact absurd ho (by decide)

/-! ## After a re-arm -/

/-- No row of the profile has a manual override. -/
def Free (profileId : String) (db : Database) : Prop :=
  ∀ row ∈ db.rows profileId, row.manualOverride = false

/-- The row of a profile agrees with the unit and has no manual override. -/
def Armed (profileId : String) (host : UnitHost) : Prop :=
  ∃ row ∈ host.db.rows profileId, Poised row host.running ∧ row.manualOverride = false

theorem Armed.free {profileId : String} {host : UnitHost} (h : Armed profileId host) :
    Free profileId host.db := by
  obtain ⟨row, hrow, -, ho⟩ := h
  intro row' hrow'
  rw [Option.mem_unique hrow' hrow]
  exact ho

theorem Undisturbed.free {profileId : String} {db db' : Database} (h : Undisturbed profileId db db')
    (hfree : Free profileId db) : Free profileId db' := by
  intro row' hrow'
  by_contra ho'
  rw [Bool.not_eq_false] at ho'
  obtain ⟨row, hrow, ho⟩ := h.override row' hrow' ho'
  exact absurd ho (by simp [hfree row hrow])

theorem InStep.armed {profileId : String} {db : Database} {host : UnitHost}
    (h : InStep profileId db host) (hfree : Free profileId db) : Armed profileId host := by
  obtain ⟨row, hrow, hp⟩ := h.poised
  exact ⟨row, hrow, hp, h.undisturbed.free hfree row hrow⟩

/-- `rearm` that succeeds on a unit that runs. -/
theorem rearm_armed {σ : Type} {C : Contract Op Ans σ} {host : σ → UnitHost} {s : σ}
    {fails : Prop} (h : Obeys C fails (fun _ => True) host) {profile : ManagedProfile} {now : Int}
    {row : ProfileState} (hrow : (host s).db.rows profile.profileId = some row)
    (hp : Poised row (host s).running) :
    wp C (MaintenanceController.rearm profile now)
      (Post (fun _ s' => Armed profile.profileId (host s')) fun _ => True) s := by
  refine Post.bind (h.getState trivial hrow) ?_
  rintro _ s₁ ⟨rfl, hs₁⟩
  refine wp_ite.2 ⟨fun _ => trivial, fun _ => Post.bind (h.isActive trivial) ?_⟩
  rintro active s₂ ⟨rfl, hs₂⟩
  refine wp_ite.2 ⟨fun _ => trivial, fun _ => ?_⟩
  refine Post.bind (Post.weaken (h.persist trivial) fun _ _ => trivial) ?_
  rintro _ s₃ ⟨-, hpersist, hrun⟩
  have hwritten := Database.persist_row_self hpersist
  rw [show _ = profile.profileId from (host s).db.keyed _ _ hrow] at hwritten
  refine ⟨_, hwritten, ⟨hp.maintained, ?_⟩, rfl⟩
  rw [hrun, hs₂, hs₁]
  exact hp.settled

/-- A stop that cannot be recorded counts as one that fails, so it is not among the answers. -/
theorem unitCalls_recordable {profileId : String} {admits : Database → Call → Prop}
    {profile : ManagedProfile} {result : ProbeResult} {now : Int}
    {G : Call → UnitHost → (unitCalls profileId admits).History → Op → Prop}
    (s₁ s₂ s₃ : UnitHost × (unitCalls profileId admits).History)
    (h₁ : ((unitCalls profileId admits).contract G (.process profile result now)).answers s₁
      (.systemctl .stop profile.serviceName) (some (0 : Int)) s₂)
    (h₂ : ((unitCalls profileId admits).contract G (.process profile result now)).answers s₂
      (.systemctl .isActive profile.serviceName) (some (3 : Int)) s₃) :
    Recordable ((unitCalls profileId admits).contract G (.process profile result now)) s₃ := by
  intro state events e s₄ h₃
  refine h₃.1.2 ?_
  rw [h₂.2, h₁.2]
  exact ⟨rfl, rfl, rfl, rfl⟩

theorem carefulCalls_keeps (profileId : String) : (carefulCalls profileId).Keeps
    (fun host _ => Armed profileId host) (fun _ host _ _ => Free profileId host.db)
    fun _ host _ _ => Armed profileId host where
  call := by
    rintro host h c harmed ⟨hid, hcareful, hc⟩
    have hfree : Free profileId host.db := harmed.free
    obtain ⟨row, hrow, hp, -⟩ := harmed
    cases c with
    | process profile result now =>
      subst hid
      have hobeys : Obeys ((carefulCalls profile.profileId).contract
          (fun _ host _ _ => Free profile.profileId host.db) (.process profile result now)) True
          (Undisturbed profile.profileId host.db) Prod.fst := by
        exact ⟨fun _ _ _ _ ha => ha.1.1, fun s _ hg => hg.free hfree⟩
      have hmisreads : ¬ Misreads profile result row := fun hm => hcareful ⟨row, hrow, hm⟩
      refine wp_mono (process_inStep hobeys rfl hrow hp hmisreads
        fun _ s₁ s₂ s₃ h₁ h₂ => unitCalls_recordable s₁ s₂ s₃ h₁ h₂) ?_
      rintro (_ | _) s hs
      · exact hs.armed hfree
      · exact hs.armed hfree
    | _ => exact hc.elim
  finish := fun _ _ _ _ hR => hR
  alone := nofun
  cut := nofun
  cut_last := nofun

/-- **Re-arming lasts.** Let `rearm` succeed on a unit that runs, for a row without intent that nobody
owns a stop in. Then no later run of `process` on an obedient unit sets the manual override again, as
long as no call misreads its row. -/
theorem rearmed_stays_armed {db : Database} {profile : ManagedProfile} {now : Int}
    {row : ProfileState} (hrow : db.rows profile.profileId = some row)
    (hidle : row.pendingAction = none) (hwatchdog : row.stoppedByWatchdog = false)
    (hmaintenance : row.stoppedByMaintenance = false) {fails : Prop} {state : ProfileState}
    {host : UnitHost} (hrearm : Steps (UnitHost.answers fails)
      (MaintenanceController.rearm profile now, ⟨db, true⟩) (.done (.ok state), host))
    {cfg : (carefulCalls profile.profileId).Config}
    (hr : (carefulCalls profile.profileId).Reachable host cfg) :
    ∀ row' ∈ cfg.world.db.rows profile.profileId, row'.manualOverride = false := by
  have hp : Poised row true := by
    refine ⟨fun hm => ?_, .inl ⟨hidle, ?_⟩⟩
    · simp [hmaintenance] at hm
    · simp [hwatchdog, hmaintenance]
  have harmed : Armed profile.profileId host :=
    wp_steps (C := UnitHost.contract fails) hrearm (rearm_armed UnitHost.obeys hrow hp)
  exact (carefulCalls_keeps profile.profileId).always (fun _ _ h => h.free) (fun _ _ _ _ h => h)
    (fun _ _ _ _ h => h.free) harmed hr

/-- Writes that succeed are among the answers of the machine. -/
theorem unitCalls_answers {profileId : String} {admits : Database → Call → Prop} {c : Call}
    {host host' : UnitHost} {h : List RunEvent} {op : Op} {a : Ans op}
    (ha : host.answers False op a host') : (unitCalls profileId admits).answers c host h op a host' := by
  cases op with
  | getState => exact ⟨ha, id⟩
  | persist state events =>
    cases a with
    | ok => exact ⟨ha, id⟩
    | error => exact ha.1.1.elim
  | systemctl verb => cases verb <;> exact ⟨ha, id⟩
  | jitter => exact ⟨ha, id⟩

/-- A call on an obedient unit runs in the machine. -/
theorem reachable_unitCalls {admits : Database → Call → Prop} {host : UnitHost}
    (profile : ManagedProfile) (result : ProbeResult) (now : Int)
    (ha : admits host.db (.process profile result now)) :
    (unitCalls profile.profileId admits).Reachable host
      ((unitCalls profile.profileId admits).script host
        [(.process profile result now, fun _ host _ => host.obey, toTheEnd)]) := by
  refine Machine.reachable_script ⟨⟨rfl, ha, trivial⟩, trivial⟩ ?_
  rintro _ hmem c host h op a host' ho
  obtain rfl := List.mem_singleton.1 hmem
  exact unitCalls_answers (UnitHost.obey_answers host op a host' ho)

/-- The state of the store after a history, and the unit as it is then. -/
def UnitHost.after (cs : List Scene) (running : Bool) : UnitHost :=
  ⟨(anyCalls.script .empty (played cs)).world, running⟩

/-- An operator has stopped the unit, starts it again and re-arms; then the watchdog stops it. -/
theorem rearmed_stays_armed_stoppedByHand : ∃ cfg : (carefulCalls "iran-1").Config,
    cfg.world.running = false ∧
    ∀ row' ∈ cfg.world.db.rows "iran-1", row'.manualOverride = false := by
  have hrow : (UnitHost.after stoppedByHand true).db.rows "iran-1" = some _ := rfl
  have hrearm := runWhile_steps UnitHost.obey_answers toTheEnd
    (MaintenanceController.rearm eagerProfile 104) (UnitHost.after stoppedByHand true)
  have hcareful : ¬ (Call.process eagerProfile .unreachable 106).Misreads (runWhile UnitHost.obey
      toTheEnd (MaintenanceController.rearm eagerProfile 104)
        (UnitHost.after stoppedByHand true)).2.db := by
    rintro ⟨row, hrow, hmisreads⟩
    cases hrow
    exact absurd hmisreads (by decide)
  have hr : (carefulCalls eagerProfile.profileId).Reachable _ _ :=
    reachable_unitCalls eagerProfile .unreachable 106 hcareful
  exact ⟨_, rfl, rearmed_stays_armed hrow rfl rfl rfl hrearm hr⟩

/-- The start of the watchdog has failed, so it still owns the stop when the operator starts the unit and
re-arms. The next look at the unit sets the override again. -/
theorem not_rearmed_stays_armed : ¬ ∀ cfg, anyCalls.Reachable .empty cfg →
    ∀ profile now row, cfg.world.rows profile.profileId = some row → row.pendingAction = none →
      ∀ state host, Steps (UnitHost.answers False)
        (MaintenanceController.rearm profile now, ⟨cfg.world, true⟩) (.done (.ok state), host) →
      ∀ cfg', (unitCalls profile.profileId fun _ _ => True).Reachable host cfg' →
      ∀ row' ∈ cfg'.world.db.rows profile.profileId, row'.manualOverride = false := by
  intro h
  have hr : anyCalls.Reachable .empty (anyCalls.script .empty (played failedStart)) :=
    reachable_played (by simp)
  have hrearm := runWhile_steps UnitHost.obey_answers toTheEnd
    (MaintenanceController.rearm eagerProfile 104) (UnitHost.after failedStart true)
  have harmed := h _ hr eagerProfile 104 _ rfl rfl _ _ hrearm _
    (reachable_unitCalls eagerProfile .success 115 trivial)
  exact absurd (harmed _ rfl) (by decide)

end Watchdog
