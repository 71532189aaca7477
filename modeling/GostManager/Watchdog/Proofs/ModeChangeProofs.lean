import GostManager.Effects.Proofs.PoolProofs
import GostManager.Watchdog.ModeChange
import GostManager.Watchdog.Proofs.ConcurrencyProofs

/-!
# Proofs: changing the mode

By itself the daemon records no stop under a mode other than `auto`, and `set-mode` does not leave `auto`
when the row it has read is stopped by the watchdog. So a unit is only stranded when one of them writes
something that is out of date.
-/

namespace Watchdog

open Effects Effects.Prog

variable {profile : ManagedProfile} {row state state' : ProfileState} {t : Trace ModeOp ModeAns}

/-! ## The daemon by itself -/

/-- The daemon reads the row of the profile that it has loaded. If that is not in `auto` mode and the row
was without intent, the daemon writes no intent and leaves the owner of the stop. -/
def StaysPassive (t : Trace ModeOp ModeAns) : ModeOp → Prop
  | .engine (.getState id ..) => ∃ profile, loadedProfile t = some profile ∧ id = profile.profileId
  | .engine (.persist state _) => ∃ profile row, loadedProfile t = some profile ∧
      readRow (engineTrace t) = some row ∧ (profile.config.mode ≠ .auto → row.pendingAction = none →
        state.pendingAction = none ∧ state.stoppedByWatchdog = row.stoppedByWatchdog)
  | .loadProfile => t = []
  | .writeMode _ => False
  | _ => True

/-- The contract of the daemon. -/
abbrev passively : Contract ModeOp ModeAns (Trace ModeOp ModeAns) :=
  Pool.alone (fun _ _ => True) StaysPassive

/-- The part of it for the engine. -/
abbrev enginePassively : Contract Op Ans (Trace ModeOp ModeAns) :=
  passively.part ModeOp.engine fun _ a => a

/-- The daemon works with this profile and this row. -/
structure WorksWith (profile : ManagedProfile) (row : ProfileState) (t : Trace ModeOp ModeAns) :
    Prop where
  loaded : loadedProfile t = some profile
  read : readRow (engineTrace t) = some row

/-- A row without intent, with the owner of the row that was read. -/
structure PassiveCopy (profile : ManagedProfile) (row state : ProfileState) : Prop where
  idle : state.pendingAction = none
  owner : profile.config.mode ≠ .auto → row.pendingAction = none →
    state.stoppedByWatchdog = row.stoppedByWatchdog

section Daemon

variable {events : List WatchdogEvent} {now : Int}

theorem WorksWith.cons {op : Op} {a : Ans op} (ht : WorksWith profile row t)
    (hop : ∀ id serviceName kharejIp, op ≠ .getState id serviceName kharejIp) :
    WorksWith profile row (⟨.engine op, a⟩ :: t) := by
  refine ⟨ht.loaded, ?_⟩
  cases op with
  | getState id serviceName kharejIp => exact absurd rfl (hop id serviceName kharejIp)
  | _ => exact ht.read

theorem passive_write (ht : WorksWith profile row t)
    (h : profile.config.mode ≠ .auto → row.pendingAction = none →
      state.pendingAction = none ∧ state.stoppedByWatchdog = row.stoppedByWatchdog) :
    wp enginePassively (persist state events)
      (Post (fun _ => WorksWith profile row) (WorksWith profile row)) t := by
  refine wp_persist.2 ⟨⟨profile, row, ht.loaded, ht.read, h⟩, ?_, ?_⟩
  · rintro t' ⟨a, -, -, rfl⟩
    exact ht.cons nofun
  · rintro e t' ⟨a, -, -, rfl⟩
    exact ht.cons nofun

theorem passive_persist (hc : PassiveCopy profile row state) (ht : WorksWith profile row t) :
    wp enginePassively (persist state events)
      (Post (fun _ t => PassiveCopy profile row state ∧ WorksWith profile row t)
        (WorksWith profile row)) t :=
  Post.mono (passive_write ht fun hm hp => ⟨hc.idle, hc.owner hm hp⟩) fun _ _ ht => ⟨hc, ht⟩

theorem passive_commanding {serviceName : String} {verb : Verb} :
    Commanding enginePassively serviceName verb fun _ => WorksWith profile row where
  asks _ _ := trivial
  asked := by
    rintro t code t' ht ⟨a, -, -, rfl⟩
    exact ht.cons nofun
  commands _ _ _ := trivial
  commanded := by
    rintro seen t code t' ht ⟨a, -, -, rfl⟩
    exact ht.cons nofun
  verifies _ _ := trivial
  verified := by
    rintro t code t' ht ⟨a, -, -, rfl⟩
    exact ht.cons nofun
  failed _ ht := ht

/-- In `auto` mode, or from a row with an intent, the owner may change. -/
theorem PassiveCopy.free (hidle : state.pendingAction = none)
    (h : profile.config.mode = .auto ∨ row.pendingAction ≠ none) : PassiveCopy profile row state := by
  refine ⟨hidle, fun hm hp => ?_⟩
  rcases h with h | h
  · exact absurd h hm
  · exact absurd hp h

theorem PassiveCopy.update (hc : PassiveCopy profile row state)
    (h : state'.serviceRecord = state.serviceRecord) : PassiveCopy profile row state' := by
  simp only [ProfileState.serviceRecord, Prod.mk.injEq] at h
  obtain ⟨-, -, h3, -, -, h6, -⟩ := h
  exact ⟨h6.trans hc.idle, fun hm hp => h3.trans (hc.owner hm hp)⟩

theorem passive_reconcileIfPending (ht : WorksWith profile row t) :
    wp enginePassively (DurableServiceActions.reconcileIfPending profile row events now)
      (Post (fun draft t => PassiveCopy profile row draft.1 ∧ WorksWith profile row t)
        (WorksWith profile row)) t := by
  refine wp_ite.2 ⟨fun hsome => ?_, fun hnone => ⟨⟨by simpa using hnone, fun _ _ => rfl⟩, ht⟩⟩
  obtain ⟨action, hp⟩ := Option.isSome_iff_exists.1 hsome
  have hpending : row.pendingAction ≠ none := Option.isSome_iff_ne_none.1 hsome
  refine reconcilePending_outcomes (Φ := fun _ => WorksWith profile row)
    (χ := fun state t => PassiveCopy profile row state ∧ WorksWith profile row t) hp
    (fun _ => passive_commanding) (fun _ => passive_commanding) (fun _ _ ht => ht) ?_ ht
  intro seen state' events t ht hr
  exact passive_persist (.free hr.pendingAction (.inr hpending)) ht

theorem passive_reconcileServiceInAuto (hc : PassiveCopy profile row state)
    (ht : WorksWith profile row t) :
    wp enginePassively (WatchdogEngine.reconcileServiceInAuto profile state now events)
      (Post (fun draft t => PassiveCopy profile row draft.1 ∧ WorksWith profile row t)
        (WorksWith profile row)) t := by
  by_cases hm : profile.config.mode = .auto
  · have hcommanding : Commanding enginePassively profile.serviceName .stop
        fun _ => WorksWith profile row := passive_commanding
    refine reconcileServiceInAuto_outcomes
      (χ := fun state t => PassiveCopy profile row state ∧ WorksWith profile row t) hc.idle ⟨hc, ht⟩
      (Post.mono (hcommanding.isActive (fun _ ht => ht) ht) ?_)
    intro active t ht state' hn
    exact ⟨.free (hn.pendingAction.trans hc.idle) (.inl hm), ht⟩
  · exact wp_ite.2 ⟨fun h => absurd h hm, fun _ => ⟨hc, ht⟩⟩

theorem passive_countResult {result : ProbeResult} (hc : PassiveCopy profile row state)
    (ht : WorksWith profile row t) :
    wp enginePassively (WatchdogEngine.countResult profile state result now events)
      (Post (fun draft t => PassiveCopy profile row draft.1 ∧ WorksWith profile row t)
        (WorksWith profile row)) t := by
  refine wp_ite.2 ⟨fun _ => ?_, fun _ => ?_⟩
  · refine successfulCheck_outcomes (Φ := WorksWith profile row)
      (χ := fun state t => PassiveCopy profile row state ∧ WorksWith profile row t)
      ⟨trivial, ?_⟩ ht (fun _ ht => ht)
      (fun _ _ ht hsucc _ => ⟨hc.update hsucc.service, ht⟩) ?_
    · rintro a t' ⟨a', -, -, rfl⟩
      exact ht.cons nofun
    · intro state' events t ht hsucc _ hdue
      refine start_outcomes (Φ := fun _ => WorksWith profile row)
        (χ := fun state t => PassiveCopy profile row state ∧ WorksWith profile row t)
        (passive_write ht fun hm => absurd hdue.1 hm) passive_commanding (fun _ ht => ht)
        (fun _ ht => ht) fun seen state' events t ht hs => ?_
      exact Post.weaken (passive_persist (.free hs.pendingAction (.inl hdue.1)) ht) fun _ ht => ⟨ht, ht⟩
  · refine failedCheck_outcomes
      (χ := fun state t => PassiveCopy profile row state ∧ WorksWith profile row t)
      (fun _ hf => ⟨hc.update hf.service, ht⟩) fun state' events hf _ _ hmode _ _ _ => ?_
    have hwrite : ∀ seen state'' events t, WorksWith profile row t →
        Stopped state' .watchdog now seen state'' → wp enginePassively (persist state'' events)
          (Post (fun _ t => PassiveCopy profile row state'' ∧ WorksWith profile row t)
            (WorksWith profile row)) t :=
      fun _ _ _ _ ht hs => passive_persist (.free hs.pendingAction (.inl hmode)) ht
    exact stop_outcomes (Φ := fun _ => WorksWith profile row) (Θ := fun _ => WorksWith profile row)
      (χ := fun state t => PassiveCopy profile row state ∧ WorksWith profile row t)
      (passive_write ht fun hm => absurd hmode hm) passive_commanding (fun _ ht => ht) (fun _ ht => ht)
      (fun _ _ _ _ ht hs => Post.weaken (hwrite _ _ _ _ ht hs) fun _ ht => ⟨ht, fun _ => ht⟩)
      passive_commanding (fun _ _ ht => ht) fun _ _ _ ht hs => hwrite _ _ _ _ ht hs

/-- The row is read anew. -/
theorem passive_getState {Q : Except Exn ProfileState → Trace ModeOp ModeAns → Prop}
    (ht : loadedProfile t = some profile)
    (h : ∀ row t', WorksWith profile row t' → Q (.ok row) t') :
    wp enginePassively (getState profile) Q t := by
  refine wp_getState.2 ⟨⟨profile, ht, rfl⟩, ?_⟩
  rintro row t' ⟨a, rfl, -, rfl⟩
  exact h _ _ ⟨ht, rfl⟩

/-- The row is only known after it was read. -/
theorem passive_exists {α : Type} {p : Action α} {φ : ProfileState → α → Trace ModeOp ModeAns → Prop}
    (h : wp enginePassively p (Post (φ row) (WorksWith profile row)) t) :
    wp enginePassively p
      (Post (fun a t => ∃ row, φ row a t) fun t => loadedProfile t = some profile) t :=
  Post.weaken (Post.mono h fun _ _ h => ⟨row, h⟩) fun _ h => h.loaded

theorem passive_reconcilePending (ht : loadedProfile t = some profile) :
    wp enginePassively (WatchdogEngine.reconcilePending profile now)
      (Post (fun _ t => loadedProfile t = some profile) fun t => loadedProfile t = some profile) t := by
  refine wp_bind.2 (passive_getState ht fun row t' ht' => ?_)
  refine Post.bind (φ := fun _ t => loadedProfile t = some profile) ?_ fun _ _ ht => ht
  exact Post.weaken (Post.mono (passive_reconcileIfPending ht') fun _ _ h => h.2.loaded)
    fun _ h => h.loaded

theorem passive_process {result : ProbeResult} (ht : loadedProfile t = some profile) :
    wp enginePassively (WatchdogEngine.process profile result now) (fun _ _ => True) t := by
  refine wp_mono (process_outcomes (ψ := fun t => loadedProfile t = some profile)
    (χ := fun state t => ∃ row, PassiveCopy profile row state ∧ WorksWith profile row t)
      (passive_getState ht fun row t' ht' => ?_) ?_ ?_ ?_ ?_ ?_) fun _ _ _ => trivial
  · exact passive_exists (φ := fun row (draft : Draft) t =>
      PassiveCopy profile row draft.1 ∧ WorksWith profile row t) (passive_reconcileIfPending ht')
  · rintro state t ⟨row, -, ht⟩
    exact ht.loaded
  · rintro state checkStatus category t ⟨row, hc, ht⟩
    exact ⟨row, hc.update rfl, ht⟩
  · rintro state events t ⟨row, hc, ht⟩
    exact passive_exists (φ := fun row (draft : Draft) t =>
      PassiveCopy profile row draft.1 ∧ WorksWith profile row t) (passive_reconcileServiceInAuto hc ht)
  · rintro state events t - ⟨row, hc, ht⟩
    exact passive_exists (φ := fun row (draft : Draft) t =>
      PassiveCopy profile row draft.1 ∧ WorksWith profile row t) (passive_countResult hc ht)
  · rintro state events t ⟨row, hc, ht⟩
    exact Post.weaken (Post.mono (passive_persist hc ht) fun _ _ h => h.2.loaded) fun _ h => h.loaded

theorem passive_runCycle {due : Bool} {result : ProbeResult} {reconcileNow processNow : Int} :
    wp passively (runCycle due result reconcileNow processNow) (fun _ _ => True) [] := by
  refine wp_bind.2 (wp_perform.2 ⟨rfl, ?_⟩)
  rintro found t ⟨-, rfl⟩
  rcases found with _ | profile
  · trivial
  refine wp_bind.2 (wp_embed.2 (wp_mono (passive_reconcilePending rfl) ?_))
  have hok : ∀ t, loadedProfile t = some profile → wp passively
      (if profile.config.mode = .disabled ∨ !due then return 0
        else do
          let _ ← callEngine (WatchdogEngine.process profile result processNow)
          return 0 : ModeAction Nat) (fun _ _ => True) t := by
    intro t ht
    refine wp_ite.2 ⟨fun _ => trivial, fun _ => wp_bind.2 (wp_embed.2 ?_)⟩
    exact wp_mono (passive_process ht) fun _ _ _ => trivial
  rintro (e | state) t ht
  · trivial
  · exact hok t ht

end Daemon

/-! ## `set-mode` by itself -/

/-- `set-mode` reads the row of the profile that it has loaded, writes no row, and leaves `auto` only if
the watchdog had not stopped that row. -/
def AsksFirst (mode : Mode) (t : Trace ModeOp ModeAns) : ModeOp → Prop
  | .engine (.getState id ..) => ∃ profile, loadedProfile t = some profile ∧ id = profile.profileId
  | .engine (.persist ..) => False
  | .engine _ => True
  | .loadProfile => t = []
  | .writeMode written => written = mode ∧ t ≠ [] ∧ ∃ profile row, WorksWith profile row t ∧
      (LeavesAuto profile mode → row.stoppedByWatchdog = false)

theorem asksFirst_commandSetMode {mode : Mode} {now : Int} :
    wp (Pool.alone (fun _ _ => True) (AsksFirst mode)) (commandSetMode mode none now)
      (fun _ _ => True) [] := by
  refine wp_bind.2 (wp_perform.2 ⟨rfl, ?_⟩)
  rintro found t ⟨-, rfl⟩
  rcases found with _ | profile
  · trivial
  refine wp_ite.2 ⟨fun h => absurd h.1 (by decide), fun _ => wp_bind.2 (wp_embed.2 ?_)⟩
  refine wp_getState.2 ⟨⟨profile, rfl, rfl⟩, ?_⟩
  rintro row t ⟨row', rfl, -, rfl⟩
  refine wp_ite.2 ⟨fun _ => trivial, fun hchoice => ?_⟩
  refine wp_bind.2 (wp_ite.2 ⟨fun h => absurd h.2 (by decide), fun _ => ?_⟩)
  refine wp_bind.2 (wp_perform.2 ⟨⟨rfl, nofun, profile, row', ⟨rfl, rfl⟩, fun hleaves => ?_⟩, ?_⟩)
  · by_contra howned
    refine hchoice ⟨decide_eq_true ⟨hleaves, ?_⟩, rfl⟩
    simpa using howned
  · rintro (e | u) t ⟨-, rfl⟩
    · trivial
    · trivial

/-! ## Side by side -/

/-- While `auto` is on, nothing is asked of the row; afterwards the watchdog has not stopped it. What the
processes have loaded and read agrees with that. -/
structure Protected (profileId : String) (w : ModeHost) (h : List (Party × (op : ModeOp) × ModeAns op)) :
    Prop where
  identity : w.profile.profileId = profileId
  row : w.profile.config.mode = .auto ∨ ¬ w.Owned
  /-- `set-mode` has loaded `auto` mode. -/
  admin : ∀ profile, loadedProfile (trace Party.admin h) = some profile →
    profile.profileId = profileId ∧ profile.config.mode = .auto
  unread : trace Party.admin h = [] → w.profile.config.mode = .auto
  /-- The daemon writes intents only in `auto` mode. -/
  idle : (∀ profile, loadedProfile (trace Party.daemon h) = some profile →
    profile.config.mode ≠ .auto) → ∀ row ∈ w.db.rows profileId, row.pendingAction = none
  daemon : ∀ profile, loadedProfile (trace Party.daemon h) = some profile →
    profile.profileId = profileId
  /-- Once the daemon has seen the new mode, that is the mode, and its row is as `row` and `idle` say. -/
  passive : ∀ profile, loadedProfile (trace Party.daemon h) = some profile →
    profile.config.mode ≠ .auto → w.profile.config.mode ≠ .auto ∧
      ∀ row, readRow (engineTrace (trace Party.daemon h)) = some row →
        row.pendingAction = none ∧ row.stoppedByWatchdog = false

section SideBySide

variable {profileId : String} {w w' : ModeHost} {h : List (Party × (op : ModeOp) × ModeAns op)}
  {mode : Mode} {now reconcileNow processNow : Int} {due : Bool} {result : ProbeResult}

@[simp] theorem modeTrace_admin_daemon {e : (op : ModeOp) × ModeAns op} :
    trace Party.admin ((.daemon, e) :: h) = trace Party.admin h :=
  Pool.trace_cons_other (by decide)

@[simp] theorem modeTrace_daemon_admin {e : (op : ModeOp) × ModeAns op} :
    trace Party.daemon ((.admin, e) :: h) = trace Party.daemon h :=
  Pool.trace_cons_other (by decide)

/-- What a process does to the unit is of no account. -/
theorem Protected.unit (hJ : Protected profileId w h) {active : Bool} :
    Protected profileId { w with active } h :=
  ⟨hJ.identity, hJ.row, hJ.admin, hJ.unread, hJ.idle, hJ.daemon, hJ.passive⟩

/-- Operations of the daemon that it neither reads nor loads anything with. -/
theorem Protected.daemonStep (hJ : Protected profileId w h) {e : (op : ModeOp) × ModeAns op}
    (hload : loadedProfile (e :: trace Party.daemon h) = loadedProfile (trace Party.daemon h))
    (hread : readRow (engineTrace (e :: trace Party.daemon h)) =
      readRow (engineTrace (trace Party.daemon h))) :
    Protected profileId w ((.daemon, e) :: h) := by
  refine ⟨hJ.identity, hJ.row, ?_, ?_, ?_, ?_, ?_⟩
  · simpa using hJ.admin
  · simpa using hJ.unread
  · rw [Pool.trace_cons_self, hload]
    exact hJ.idle
  · rw [Pool.trace_cons_self, hload]
    exact hJ.daemon
  · rw [Pool.trace_cons_self, hload, hread]
    exact hJ.passive

/-- The same for `set-mode`. -/
theorem Protected.adminStep (hJ : Protected profileId w h) {e : (op : ModeOp) × ModeAns op}
    (hload : loadedProfile (e :: trace Party.admin h) = loadedProfile (trace Party.admin h)) :
    Protected profileId w ((.admin, e) :: h) := by
  refine ⟨hJ.identity, hJ.row, ?_, ?_, ?_, ?_, ?_⟩
  · rw [Pool.trace_cons_self, hload]
    exact hJ.admin
  · rw [Pool.trace_cons_self]
    exact nofun
  · simpa using hJ.idle
  · simpa using hJ.daemon
  · simpa using hJ.passive

/-- The row as it is read. -/
theorem Protected.getState (hJ : Protected profileId w h) {serviceName kharejIp : String}
    (hidle : ∀ row ∈ w.db.rows profileId, row.pendingAction = none) (hrow : ¬ w.Owned) :
    (w.db.getState profileId serviceName kharejIp).pendingAction = none ∧
      (w.db.getState profileId serviceName kharejIp).stoppedByWatchdog = false := by
  cases hr : w.db.rows profileId with
  | none =>
    unfold Database.getState
    rw [hr]
    exact ⟨rfl, rfl⟩
  | some row =>
    rw [Database.getState_of_row hr]
    refine ⟨hidle row hr, ?_⟩
    by_contra howned
    refine hrow ⟨row, ?_, by simpa using howned⟩
    rw [hJ.identity]
    exact hr

/-- The daemon loads the profile. -/
theorem Protected.daemonLoads (hJ : Protected profileId w h) {found : Option ManagedProfile}
    (hfirst : trace Party.daemon h = []) (hfound : found = none ∨ found = some w.profile) :
    Protected profileId w ((.daemon, ⟨.loadProfile, found⟩) :: h) := by
  have hfound : ∀ profile, found = some profile → profile = w.profile := by
    rcases hfound with rfl | rfl
    · exact nofun
    · rintro _ ⟨⟩
      rfl
  have hnone : ∀ row ∈ w.db.rows profileId, row.pendingAction = none := by
    refine hJ.idle fun profile hp => ?_
    rw [hfirst] at hp
    cases hp
  refine ⟨hJ.identity, hJ.row, by simpa using hJ.admin, by simpa using hJ.unread, fun _ => hnone, ?_, ?_⟩
  · intro profile hp
    rw [Pool.trace_cons_self] at hp
    exact hfound profile hp ▸ hJ.identity
  · intro profile hp hm
    rw [Pool.trace_cons_self] at hp
    obtain rfl := hfound profile hp
    refine ⟨hm, fun row hrow => ?_⟩
    rw [Pool.trace_cons_self, hfirst] at hrow
    cases hrow

/-- The daemon reads the row. -/
theorem Protected.daemonReads (hJ : Protected profileId w h) {serviceName kharejIp : String} :
    Protected profileId w ((.daemon, ⟨.engine (.getState profileId serviceName kharejIp),
      w.db.getState profileId serviceName kharejIp⟩) :: h) := by
  refine ⟨hJ.identity, hJ.row, by simpa using hJ.admin, by simpa using hJ.unread, ?_, ?_, ?_⟩
  · rw [Pool.trace_cons_self]
    exact hJ.idle
  · rw [Pool.trace_cons_self]
    exact hJ.daemon
  · rw [Pool.trace_cons_self]
    intro profile hp hm
    obtain ⟨hmode, -⟩ := hJ.passive profile hp hm
    refine ⟨hmode, fun row hrow => ?_⟩
    have hidle : ∀ row ∈ w.db.rows profileId, row.pendingAction = none := by
      refine hJ.idle fun profile' hp' => ?_
      obtain rfl := Option.some.inj (hp.symm.trans hp')
      exact hm
    cases hrow
    exact hJ.getState hidle (hJ.row.resolve_left hmode)

/-- The daemon writes a row, under a mode that is not out of date. -/
theorem Protected.daemonWrites (hJ : Protected profileId w h) {events : List WatchdogEvent}
    {db : Database} (hg : StaysPassive (trace Party.daemon h) (.engine (.persist state events)))
    (hfresh : ¬ (state.stoppedByWatchdog = true ∧ StaleMode w (trace Party.daemon h)))
    (hdb : w.db.persist state events = .ok db) :
    Protected profileId { w with db } ((.daemon, ⟨.engine (.persist state events), .ok ()⟩) :: h) := by
  obtain ⟨profile, row, hloaded, hread, hrow⟩ := hg
  have hpassive : profile.config.mode ≠ .auto →
      state.pendingAction = none ∧ state.stoppedByWatchdog = false := by
    intro hm
    obtain ⟨-, hread'⟩ := hJ.passive profile hloaded hm
    obtain ⟨hp, hw⟩ := hread' row hread
    exact ⟨(hrow hm hp).1, (hrow hm hp).2.trans hw⟩
  -- the new row is the old one or the one that is written
  have hrows : ∀ row ∈ db.rows profileId, row = state ∨ w.db.rows profileId = some row := by
    intro row' hrow'
    by_cases hid : profileId = state.profileId
    · rw [hid, Option.mem_def, Database.persist_row_self hdb] at hrow'
      exact .inl (Option.some.inj hrow').symm
    · rw [Option.mem_def, Database.persist_row_other hdb hid] at hrow'
      exact .inr hrow'
  refine ⟨hJ.identity, ?_, by simpa using hJ.admin, by simpa using hJ.unread, ?_, ?_, ?_⟩
  · by_cases hauto : w.profile.config.mode = .auto
    · exact .inl hauto
    · refine .inr ?_
      rintro ⟨row', hrow', howned⟩
      rw [hJ.identity] at hrow'
      rcases hrows row' hrow' with rfl | hold
      · by_cases hm : profile.config.mode = w.profile.config.mode
        · rw [(hpassive (hm ▸ hauto)).2] at howned
          cases howned
        · exact hfresh ⟨howned, profile, hloaded, hm⟩
      · refine hJ.row.resolve_left hauto ⟨row', ?_, howned⟩
        rw [hJ.identity]
        exact hold
  · rw [Pool.trace_cons_self]
    intro hall row' hrow'
    rcases hrows row' hrow' with rfl | hold
    · exact (hpassive (hall profile hloaded)).1
    · exact hJ.idle hall row' hold
  · rw [Pool.trace_cons_self]
    exact hJ.daemon
  · rw [Pool.trace_cons_self]
    exact hJ.passive

/-- `set-mode` loads the profile. -/
theorem Protected.adminLoads (hJ : Protected profileId w h) {found : Option ManagedProfile}
    (hfirst : trace Party.admin h = []) (hfound : found = none ∨ found = some w.profile) :
    Protected profileId w ((.admin, ⟨.loadProfile, found⟩) :: h) := by
  refine ⟨hJ.identity, hJ.row, ?_, ?_, by simpa using hJ.idle, by simpa using hJ.daemon,
    by simpa using hJ.passive⟩
  · intro profile hp
    rw [Pool.trace_cons_self] at hp
    rcases hfound with rfl | rfl
    · cases hp
    · cases hp
      exact ⟨hJ.identity, hJ.unread hfirst⟩
  · rw [Pool.trace_cons_self]
    intro hempty
    cases hempty

/-- `set-mode` writes the mode, after a row that is not out of date. -/
theorem Protected.adminWrites (hJ : Protected profileId w h) (hmode : mode = .monitor ∨ mode = .disabled)
    (hg : AsksFirst mode (trace Party.admin h) (.writeMode mode))
    (hfresh : ¬ StaleRow w (trace Party.admin h)) :
    Protected profileId (w.setMode mode) ((.admin, ⟨.writeMode mode, .ok ()⟩) :: h) := by
  obtain ⟨-, -, profile, row, hworks, hrow⟩ := hg
  have hauto := (hJ.admin profile hworks.loaded).2
  have hnot : ¬ w.Owned := fun howned => hfresh ⟨⟨row, hworks.read, hrow ⟨hauto, hmode⟩⟩, howned⟩
  have hne : mode ≠ .auto := by
    rcases hmode with rfl | rfl
    · decide
    · decide
  refine ⟨hJ.identity, .inr hnot, ?_, ?_, ?_, by simpa using hJ.daemon, ?_⟩
  · simpa [loadedProfile] using hJ.admin
  · rw [Pool.trace_cons_self]
    intro hempty
    cases hempty
  · rw [modeTrace_daemon_admin]
    exact hJ.idle
  · rw [modeTrace_daemon_admin]
    intro profile hp hm
    exact ⟨hne, (hJ.passive profile hp hm).2⟩

/-- What the two processes keep by themselves. -/
def modeGuard (mode : Mode) : Party → Trace ModeOp ModeAns → ModeOp → Prop
  | .daemon => StaysPassive
  | .admin => AsksFirst mode

theorem mode_alone (i : Party) : wp (Pool.alone (fun _ _ => True) (modeGuard mode i))
    ((freshlyLeavingAuto mode now due result reconcileNow processNow).body i) (fun _ _ => True) [] := by
  cases i with
  | daemon => exact passive_runCycle
  | admin => exact asksFirst_commandSetMode

theorem protected_daemon (hJ : Protected profileId w h) {op : ModeOp} {a : ModeAns op}
    (hg : StaysPassive (trace Party.daemon h) op) (ha : w.answers op a w')
    (hfresh : ¬ OutOfDate w (trace Party.daemon h) op a) :
    Protected profileId w' ((.daemon, ⟨op, a⟩) :: h) := by
  cases op with
  | engine op =>
    cases op with
    | getState id serviceName kharejIp =>
      obtain ⟨db, ⟨rfl, rfl⟩, rfl⟩ := ha
      obtain ⟨profile, hloaded, rfl⟩ := hg
      rw [hJ.daemon profile hloaded]
      exact hJ.daemonReads
    | persist state events =>
      cases a with
      | ok u =>
        obtain ⟨db, hdb, rfl⟩ := ha
        exact hJ.daemonWrites hg hfresh hdb
      | error e =>
        obtain ⟨db, ⟨-, rfl⟩, rfl⟩ := ha
        exact hJ.daemonStep rfl rfl
    | systemctl verb serviceName =>
      obtain ⟨active, -, rfl⟩ := ha
      exact hJ.unit.daemonStep rfl rfl
    | jitter maximum =>
      obtain ⟨db, hdb, rfl⟩ := ha
      obtain rfl : db = w.db := hdb
      exact hJ.daemonStep rfl rfl
  | loadProfile =>
    obtain ⟨hfound, rfl⟩ := ha
    exact hJ.daemonLoads hg hfound
  | writeMode mode => exact hg.elim

theorem protected_admin (hJ : Protected profileId w h) (hmode : mode = .monitor ∨ mode = .disabled)
    {op : ModeOp} {a : ModeAns op} (hg : AsksFirst mode (trace Party.admin h) op)
    (ha : w.answers op a w') (hfresh : ¬ OutOfDate w (trace Party.admin h) op a) :
    Protected profileId w' ((.admin, ⟨op, a⟩) :: h) := by
  cases op with
  | engine op =>
    cases op with
    | getState id serviceName kharejIp =>
      obtain ⟨db, ⟨-, rfl⟩, rfl⟩ := ha
      exact hJ.adminStep rfl
    | persist state events => exact hg.elim
    | systemctl verb serviceName =>
      obtain ⟨active, -, rfl⟩ := ha
      exact hJ.unit.adminStep rfl
    | jitter maximum =>
      obtain ⟨db, hdb, rfl⟩ := ha
      obtain rfl : db = w.db := hdb
      exact hJ.adminStep rfl
  | loadProfile =>
    obtain ⟨hfound, rfl⟩ := ha
    exact hJ.adminLoads hg hfound
  | writeMode written =>
    obtain rfl : written = mode := hg.1
    cases a with
    | ok u =>
      obtain rfl : w' = w.setMode written := ha
      exact hJ.adminWrites hmode hg hfresh
    | error e =>
      obtain rfl : w' = w := ha
      exact hJ.adminStep rfl

/-- **Leaving `auto`.** In every interleaving in which nothing that is written is out of date, the unit is
never left stopped by a watchdog that does not start it any more. -/
theorem leaving_auto_strands_nothing {w₀ : ModeHost} (hauto : w₀.profile.config.mode = .auto)
    (hidle : ∀ row ∈ w₀.db.rows w₀.profile.profileId, row.pendingAction = none)
    (hmode : mode = .monitor ∨ mode = .disabled)
    {cfg : (freshlyLeavingAuto mode now due result reconcileNow processNow).Config}
    (hr : (freshlyLeavingAuto mode now due result reconcileNow processNow).Reachable w₀ cfg) :
    ¬ cfg.world.Stranded := by
  have hstart : Protected w₀.profile.profileId w₀ [] :=
    ⟨rfl, .inl hauto, nofun, fun _ => hauto, fun _ => hidle, nofun, nofun⟩
  have hJ : Protected w₀.profile.profileId cfg.world cfg.history := by
    refine Pool.invariant_of_alone (fun _ _ _ _ _ _ _ => trivial) (fun i => @mode_alone mode _ _ _ _ _ i)
      hstart ?_ hr
    rintro i w h op a w' hJ hg ⟨ha, hfresh⟩
    cases i with
    | daemon => exact protected_daemon hJ hg ha hfresh
    | admin => exact protected_admin hJ hmode hg ha hfresh
  rintro ⟨hm, howned, -⟩
  exact hJ.row.elim hm fun hnot => hnot howned

/-! ### Schedules -/

theorem modeEnvironment_answers {op : ModeOp} {a : ModeAns op}
    (ho : modeEnvironment w op = some (a, w')) : w.answers op a w' := by
  cases op with
  | engine op =>
    cases op with
    | getState =>
      obtain ⟨rfl, rfl⟩ := Prod.mk.inj (Option.some.inj ho)
      exact ⟨w.db, ⟨rfl, rfl⟩, rfl⟩
    | persist state events =>
      simp only [modeEnvironment] at ho
      cases hdb : w.db.persist state events with
      | ok db =>
        rw [hdb] at ho
        obtain ⟨rfl, rfl⟩ := Prod.mk.inj (Option.some.inj ho)
        exact ⟨db, hdb, rfl⟩
      | error e =>
        rw [hdb] at ho
        cases ho
    | systemctl verb serviceName =>
      cases verb with
      | isActive =>
        obtain ⟨rfl, rfl⟩ := Prod.mk.inj (Option.some.inj ho)
        refine ⟨w.active, ⟨rfl, ?_, ?_⟩, rfl⟩
        · cases w.active <;> simp [truthful]
        · cases w.active <;> simp [truthful]
      | stop =>
        obtain ⟨rfl, rfl⟩ := Prod.mk.inj (Option.some.inj ho)
        exact ⟨false, .inl rfl, rfl⟩
      | start =>
        obtain ⟨rfl, rfl⟩ := Prod.mk.inj (Option.some.inj ho)
        exact ⟨true, .inl rfl, rfl⟩
    | jitter maximum =>
      obtain ⟨rfl, rfl⟩ := Prod.mk.inj (Option.some.inj ho)
      exact ⟨w.db, rfl, rfl⟩
  | loadProfile =>
    obtain ⟨rfl, rfl⟩ := Prod.mk.inj (Option.some.inj ho)
    exact ⟨.inr rfl, rfl⟩
  | writeMode mode =>
    obtain ⟨rfl, rfl⟩ := Prod.mk.inj (Option.some.inj ho)
    rfl

/-- The profile of the outages, with a running unit and no row yet. -/
def runningHost : ModeHost := ⟨.empty, eagerProfile, true⟩

theorem calmModeEnvironment_answers (i : Party) (w : ModeHost)
    (h : List (Party × (op : ModeOp) × ModeAns op)) (op : ModeOp) (a : ModeAns op) (w' : ModeHost)
    (ho : calmModeEnvironment i w h op = some (a, w')) :
    (leavingAuto mode now due result reconcileNow processNow).answers i w h op a w' :=
  modeEnvironment_answers ho

theorem freshModeEnvironment_answers (i : Party) (w : ModeHost)
    (h : List (Party × (op : ModeOp) × ModeAns op)) (op : ModeOp) (a : ModeAns op) (w' : ModeHost)
    (ho : freshModeEnvironment i w h op = some (a, w')) :
    (freshlyLeavingAuto mode now due result reconcileNow processNow).answers i w h op a w' := by
  obtain ⟨ho, hfresh⟩ := Option.filter_eq_some_iff.1 ho
  exact ⟨modeEnvironment_answers ho, of_decide_eq_true hfresh⟩

/-- `set-mode` is done before the daemon begins its cycle, which then stops nothing. -/
theorem leaving_auto_strands_nothing_early : ¬ (Pool.Config.schedule
    (P := freshlyLeavingAuto .monitor 100 true .unreachable 100 100) freshModeEnvironment
    (List.replicate 3 .admin ++ List.replicate 20 .daemon) ⟨runningHost, [],
      (freshlyLeavingAuto .monitor 100 true .unreachable 100 100).body⟩).world.Stranded := by
  have hstart : (freshlyLeavingAuto .monitor 100 true .unreachable 100 100).Reachable runningHost
      ⟨runningHost, [], (freshlyLeavingAuto .monitor 100 true .unreachable 100 100).body⟩ := .refl
  have hr := Pool.reachable_schedule freshModeEnvironment_answers
    (List.replicate 3 .admin ++ List.replicate 20 .daemon) hstart
  exact leaving_auto_strands_nothing rfl (by simp [runningHost, Database.empty]) (.inl rfl) hr

/-- `set-mode` looks at the row, and writes the mode after the daemon has stopped the unit. -/
def lateMode : (leavingAuto .monitor 100 true .unreachable 100 100).Config :=
  Pool.Config.schedule calmModeEnvironment
    ([.admin, .admin] ++ List.replicate 20 .daemon ++ [.admin])
    ⟨runningHost, [], (leavingAuto .monitor 100 true .unreachable 100 100).body⟩

/-- The unit stays stopped, and `set-mode` says that all is well. -/
theorem not_leaving_auto_strands_nothing : ¬ ∀ cfg,
    (leavingAuto .monitor 100 true .unreachable 100 100).Reachable runningHost cfg →
    (∃ r, cfg.threads .daemon = .done r) →
    (∃ r, cfg.threads .admin = .done r ∧ adminExitCode r = 0) → ¬ cfg.world.Stranded := by
  intro h
  have hr : (leavingAuto .monitor 100 true .unreachable 100 100).Reachable runningHost lateMode :=
    Pool.reachable_schedule calmModeEnvironment_answers _ .refl
  exact h _ hr ⟨_, rfl⟩ ⟨_, rfl, rfl⟩ ⟨by decide, ⟨_, rfl, rfl⟩, rfl⟩

end SideBySide

end Watchdog
