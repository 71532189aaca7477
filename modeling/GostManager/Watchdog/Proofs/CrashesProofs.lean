import GostManager.Effects.Proofs.CrashProofs
import GostManager.Watchdog.Crashes
import GostManager.Watchdog.Proofs.CommandsProofs
import GostManager.Watchdog.Proofs.StorageProofs

/-!
# Proofs: crashes

On a host that obeys, the durable operations take a path that depends on the unit and on the row alone.
What `reconcile_pending` makes of each point of these paths is as before or as after the operation.
-/

namespace Watchdog

open Effects Effects.Prog DurableServiceActions

/-! ## Writes -/

namespace Database

variable {db : Database} {state : ProfileState} {events : List WatchdogEvent}

/-- An event that the store accepts. -/
def Accepted (event : WatchdogEvent) : Prop :=
  ∀ category, event.errorCategory = some category → category ∈ safeErrorCategories

theorem insertEvent_accepted {event : WatchdogEvent} (h : Accepted event) :
    db.insertEvent event = .ok { db with events := db.events ++ [event] } := by
  unfold insertEvent
  cases hc : event.errorCategory with
  | none => rfl
  | some category => simp [h category hc]

theorem persist_accepted (h : ∀ event ∈ events, Accepted event) :
    db.persist state events =
      .ok { db.saveState state with events := db.events ++ events } := by
  unfold persist
  suffices hs : ∀ saved : Database, events.foldlM insertEvent saved =
      .ok { saved with events := saved.events ++ events } from hs _
  intro saved
  induction events generalizing saved with
  | nil => simp [pure, Except.pure]
  | cons event events ih =>
    rw [List.foldlM_cons, insertEvent_accepted (h event (by simp))]
    exact (ih (fun e he => h e (by simp [he])) _).trans (by simp)

/-- The store writes nothing unless it accepts every event. -/
theorem accepted_of_persist {db' : Database} (h : db.persist state events = .ok db') :
    ∀ event ∈ events, Accepted event := by
  unfold persist at h
  generalize db.saveState state = saved at h
  induction events generalizing saved with
  | nil => simp
  | cons event events ih =>
    rw [List.foldlM_cons] at h
    cases hi : saved.insertEvent event with
    | error e => rw [hi] at h; cases h
    | ok saved' =>
      rw [hi] at h
      rintro e (_ | ⟨_, he⟩)
      · intro category hc
        by_contra hcategory
        simp [insertEvent, hc, hcategory] at hi
      · exact ih saved' h e he

end Database

/-! ## The host -/

namespace Host

variable {host : Host} {profile : ManagedProfile} {state : ProfileState}
  {events : List WatchdogEvent}

theorem row_profileId : (host.row profile).profileId = profile.profileId :=
  Database.getState_profileId

theorem row_write (h : state.profileId = profile.profileId) :
    (host.write state events).row profile =
      { state with serviceName := profile.serviceName, kharejIp := profile.kharejIp } :=
  Database.getState_of_row (by simp [write, Database.saveState, h])

@[simp] theorem durable_write (h : state.profileId = profile.profileId) :
    (host.write state events).durable profile = state.durable host.running := by
  rw [durable, row_write h]
  rfl

theorem respond_persist (h : ∀ event ∈ events, Database.Accepted event) :
    host.respond (.persist state events) = (.ok (), host.write state events) := by
  simp [respond, write, Database.persist_accepted h]

@[simp] theorem durable_stop {actor : Actor} :
    (host.stop actor).durable profile = { host.durable profile with running := false } := by
  unfold Host.stop
  split
  · rfl
  · next h => simp [durable, ProfileState.durable, h]

@[simp] theorem durable_start :
    host.start.durable profile = { host.durable profile with running := true } := rfl

@[simp] theorem running_write : (host.write state events).running = host.running := rfl

@[simp] theorem running_stop {actor : Actor} : (host.stop actor).running = false := by
  unfold Host.stop
  split
  · rfl
  · next h => simpa using h

@[simp] theorem running_start : host.start.running = true := rfl

end Host

/-! ## Operations on the host -/

/-- The contract of an operation that may be killed. -/
abbrev killable (K : Host → Nat → Prop) : Contract Op Ans (Host × Nat) :=
  crashing Host.respond Op.isEffect K

section Killable

variable {K : Host → Nat → Prop} {host : Host} {n : Nat} {profile : ManagedProfile}
  {state : ProfileState} {events : List WatchdogEvent}

theorem killable_call {op : Op} {α : Type} {k : Ans op → Action α} {Q : Except Exn α → Host × Nat → Prop} :
    wp (killable K) (.call op k) Q (host, n) ↔ (op.isEffect → K host n) ∧
      wp (killable K) (k (host.respond op).1) Q
        ((host.respond op).2, if op.isEffect then n + 1 else n) :=
  wp_crashing

@[simp] theorem killable_getState {Q : Except Exn ProfileState → Host × Nat → Prop} :
    wp (killable K) (getState profile) Q (host, n) ↔ Q (.ok (host.row profile)) (host, n) :=
  killable_call.trans (and_iff_right nofun)

/-- A write that the store accepts. -/
theorem killable_persist (h : ∀ event ∈ events, Database.Accepted event)
    {Q : Except Exn (List WatchdogEvent) → Host × Nat → Prop} :
    wp (killable K) (persist state events) Q (host, n) ↔
      K host n ∧ Q (.ok []) (host.write state events, n + 1) := by
  refine killable_call.trans ?_
  rw [Host.respond_persist h]
  exact and_congr_left' ⟨fun hK => hK rfl, fun hK _ => hK⟩

/-- A write that the store does not accept. -/
theorem killable_persist_error {e : Exn} (h : host.db.persist state events = .error e)
    {Q : Except Exn (List WatchdogEvent) → Host × Nat → Prop} :
    wp (killable K) (persist state events) Q (host, n) ↔
      K host n ∧ Q (.error e) (host, n + 1) := by
  refine killable_call.trans ?_
  simp only [Host.respond, h]
  exact and_congr_left' ⟨fun hK => hK rfl, fun hK _ => hK⟩

@[simp] theorem killable_isActive {Q : Except Exn Bool → Host × Nat → Prop} :
    wp (killable K) (SystemdController.isActive profile.serviceName) Q (host, n) ↔
      Q (.ok host.running) (host, n) := by
  rw [wp_isActive, forall_crashing]
  cases h : host.running <;> simp [h, Host.respond, Op.isEffect, seenActive, crashing]

@[simp] theorem killable_queryActive {Q : Except Exn (Option Bool) → Host × Nat → Prop} :
    wp (killable K) (queryActive profile.serviceName) Q (host, n) ↔
      Q (.ok (some host.running)) (host, n) := by
  rw [wp_queryActive, forall_crashing]
  cases h : host.running <;> simp [h, Host.respond, Op.isEffect, seenActive, crashing]

/-- The host obeys. -/
theorem killable_stop {yes no : Host × Nat → Prop} :
    commanded (killable K) .stop profile.serviceName false yes no (host, n) ↔
      K host n ∧ yes (host.stop .watchdog, n + 1) := by
  unfold commanded
  rw [forall_crashing, forall_crashing]
  simp [Host.respond, Op.isEffect, seenActive, crashing]

theorem killable_start {yes no : Host × Nat → Prop} :
    commanded (killable K) .start profile.serviceName true yes no (host, n) ↔
      K host n ∧ yes (host.start, n + 1) := by
  unfold commanded
  rw [forall_crashing, forall_crashing]
  simp [Host.respond, Op.isEffect, seenActive, crashing]

end Killable

/-! ## `stop` and `start` on the host -/

/-- A copy of a row, with events that the store accepts. -/
structure Copy (profile : ManagedProfile) (d : DurableState) (draft : Draft) (host : Host) : Prop where
  id : draft.1.profileId = profile.profileId
  durable : draft.1.durable host.running = d
  accepted : ∀ event ∈ draft.2, Database.Accepted event

/-- A copy that is written. -/
structure WrittenCopy (profile : ManagedProfile) (d : DurableState) (draft : Draft) (host : Host) : Prop
    extends Copy profile d draft host where
  written : host.durable profile = d

theorem Copy.running {profile : ManagedProfile} {d : DurableState} {draft : Draft} {host : Host}
    (hc : Copy profile d draft host) : host.running = d.running :=
  congrArg DurableState.running hc.durable

section StopStart

variable {K : Host → Nat → Prop} {host : Host} {n : Nat} {profile : ManagedProfile}
  {state : ProfileState} {events : List WatchdogEvent} {now : Int} {d : DurableState}

theorem writesCopy {ψ : Host × Nat → Prop} (hc : Copy profile d (state, events) host) (hK : K host n) :
    wp (killable K) (persist state events)
      (Post (fun events s => s.2 = n + 1 ∧ WrittenCopy profile d (state, events) s.1) ψ) (host, n) := by
  refine (killable_persist hc.accepted).2 ⟨hK, rfl, ⟨hc.id, hc.durable, by simp⟩, ?_⟩
  exact (Host.durable_write hc.id).trans hc.durable

theorem accepted_append {code : EventCode} {values : EventValues}
    (hevents : ∀ event ∈ events, Database.Accepted event) (h : values.errorCategory = none) :
    ∀ e ∈ events ++ [event state code now values], Database.Accepted e := by
  intro e he category hc
  rcases List.mem_append.1 he with he | he
  · exact hevents e he category hc
  · cases List.mem_singleton.1 he
    cases h.symm.trans hc

/-- `stop` of a unit that runs: the intent, the command, the new owner. -/
theorem killable_stop_running {owner : StopOwner} {ψ : Host × Nat → Prop}
    (hc : Copy profile d (state, events) host) (hrun : d.running = true) (hK : K host n)
    (hintent : ∀ host, host.durable profile = d.intend owner.action → K host (n + 1))
    (hstop : ∀ host, host.durable profile = { d.intend owner.action with running := false } →
      K host (n + 2)) :
    wp (killable K) (stop profile state events now owner)
      (Post (fun result s => s.2 = n + 3 ∧ WrittenCopy profile
        (d.own (owner == .watchdog) (owner == .maintenance)) result.2 s.1) ψ) (host, n) := by
  have hci : Copy profile (d.intend owner.action) (state.intend owner.action now, events) host :=
    ⟨hc.id, by rw [← hc.durable]; rfl, hc.accepted⟩
  refine Post.bind (writesCopy hci hK) ?_
  rintro events' ⟨host₁, n₁⟩ ⟨hn, hw⟩
  obtain rfl : n₁ = n + 1 := hn
  refine wp_bind.2 (killable_isActive.2 ?_)
  rw [hw.running.trans hrun]
  refine wp_bind.2 (wp_stop_command.2 (killable_stop.2 ⟨hintent _ hw.written, ?_⟩))
  refine Post.handle (χ := fun _ => False)
    (Post.bind (writesCopy (d := d.own _ _) ⟨hc.id, ?_, ?_⟩ (hstop _ ?_)) fun _ _ h => h) nofun
  · simp [DurableState.own, ProfileState.durable, ← hc.durable]
  · split
    · exact accepted_append hw.accepted rfl
    · exact hw.accepted
  · rw [Host.durable_stop, hw.written]

/-- `stop` of a unit that does not run: the intent, and the refusal. -/
theorem killable_stop_stopped {owner : StopOwner} {ψ : Host × Nat → Prop}
    (hc : Copy profile d (state, events) host) (hrun : d.running = false) (hK : K host n)
    (hintent : ∀ host, host.durable profile = d.intend owner.action → K host (n + 1)) :
    wp (killable K) (stop profile state events now owner)
      (Post (fun result s => s.2 = n + 2 ∧ WrittenCopy profile d.refuse result.2 s.1) ψ) (host, n) := by
  have hci : Copy profile (d.intend owner.action) (state.intend owner.action now, events) host :=
    ⟨hc.id, by rw [← hc.durable]; rfl, hc.accepted⟩
  refine Post.bind (writesCopy hci hK) ?_
  rintro events' ⟨host₁, n₁⟩ ⟨hn, hw⟩
  obtain rfl : n₁ = n + 1 := hn
  refine wp_bind.2 (killable_isActive.2 ?_)
  rw [hw.running.trans hrun]
  refine Post.bind (writesCopy (d := d.refuse) ⟨hc.id, ?_, accepted_append hw.accepted rfl⟩
    (hintent _ hw.written)) fun _ _ h => h
  simpa [DurableState.refuse, ProfileState.durable, ← hc.durable] using hw.running.trans hc.running.symm

/-- `start`: the intent, the command unless the unit runs, and nobody owns a stop. -/
theorem killable_started {owner : StartOwner} {ψ : Host × Nat → Prop}
    (hc : Copy profile d (state, events) host) (hK : K host n)
    (hintent : ∀ host, host.durable profile = d.intend owner.action → K host (n + 1))
    (hstart : ∀ host, host.durable profile = { d.intend owner.action with running := true } →
      d.running = false → K host (n + 2)) :
    wp (killable K) (start profile state events now owner)
      (Post (fun result s => s.2 = (if d.running then n + 2 else n + 3) ∧ result.1 = true ∧
        WrittenCopy profile d.release result.2 s.1) ψ) (host, n) := by
  have hci : Copy profile (d.intend owner.action) (state.intend owner.action now, events) host :=
    ⟨hc.id, by rw [← hc.durable]; rfl, hc.accepted⟩
  refine Post.bind (writesCopy hci hK) ?_
  rintro events' ⟨host₁, n₁⟩ ⟨hn, hw⟩
  obtain rfl : n₁ = n + 1 := hn
  refine wp_bind.2 (killable_isActive.2 ?_)
  have hrun : host₁.running = d.running := hw.running
  have hstarted : wp (killable K) (startIfInactive profile.serviceName host₁.running)
      (Post (fun active s => active = true ∧ s.1.running = true ∧
        s.2 = (if d.running then n + 1 else n + 2) ∧ K s.1 s.2) ψ) (host₁, n + 1) := by
    cases h : d.running with
    | true =>
      rw [hrun.trans h]
      exact ⟨rfl, hrun.trans h, rfl, hintent _ hw.written⟩
    | false =>
      rw [hrun.trans h]
      refine wp_start_command.2 (killable_start.2 ⟨hintent _ hw.written, rfl, rfl, rfl, ?_⟩)
      exact hstart _ (by rw [Host.durable_start, hw.written]) h
  refine Post.bind hstarted ?_
  rintro active ⟨host₂, n₂⟩ ⟨rfl, hrun₂, hn₂, hK₂⟩
  have hrun₂ : host₂.running = true := hrun₂
  refine Post.bind (Post.handle (χ := fun _ => False)
    (writesCopy (d := d.release) ⟨hc.id, ?_, ?_⟩ hK₂) nofun) ?_
  · simp [DurableState.release, ProfileState.durable, ← hc.durable, hrun₂]
  · cases owner with
    | maintenance => exact hw.accepted
    | _ => exact accepted_append hw.accepted rfl
  · rintro events ⟨host₃, n₃⟩ ⟨hn₃, hw₃⟩
    refine ⟨?_, rfl, hw₃⟩
    have hn₃ : n₃ = n₂ + 1 := hn₃
    have hn₂ : n₂ = if d.running then n + 1 else n + 2 := hn₂
    rw [hn₃, hn₂]
    split <;> rfl

/-- If the store does not accept the events, an operation ends with its first write. -/
theorem killable_refused {α : Type} {f : List WatchdogEvent → Action α} {e : Exn}
    {φ : α → Host × Nat → Prop} {ψ : Host × Nat → Prop}
    (h : host.db.persist state events = .error e) (hK : K host n) (hψ : ψ (host, n + 1)) :
    wp (killable K) (persist state events >>= f) (Post φ ψ) (host, n) :=
  wp_bind.2 ((killable_persist_error h).2 ⟨hK, hψ⟩)

end StopStart

/-! ## `reconcile_pending` on the host -/

section Recover

variable {host : Host} {n : Nat} {profile : ManagedProfile} {state : ProfileState} {now : Int}
  {d : DurableState} {action : PendingAction}

/-- Writing the row that finishes an intent. -/
theorem killable_settlePending {ψ : Host × Nat → Prop} {draft : Draft}
    (hid : draft.1.profileId = profile.profileId)
    (haccepted : ∀ event ∈ draft.2, Database.Accepted event) :
    wp (killable fun _ _ => True) (settlePending draft)
      (Post (fun _ s => s.1.durable profile = draft.1.clearPending.durable host.running) ψ)
      (host, n) :=
  Post.bind (writesCopy (d := draft.1.clearPending.durable host.running) ⟨hid, rfl, haccepted⟩
    trivial) fun _ _ h => h.2.written

theorem finalizePendingStop_durable (hstop : action.isStop = true) {events : List WatchdogEvent}
    {active : Bool} :
    (finalizePendingStop action (state.observe active now) events now).1.clearPending.durable false =
      { (state.durable active).own (action == .stopWatchdog) (action == .stopMaintenance) with
        maintenance := state.maintenance || action == .stopMaintenance } := by
  cases action <;> simp_all [finalizePendingStop, ProfileState.durable, DurableState.own,
    PendingAction.isStop]

theorem finalizePendingStart_durable (hstart : action.isStop = false) {events : List WatchdogEvent}
    {active : Bool} :
    (finalizePendingStart action (state.observe active now) events now).1.clearPending.durable true =
      { (state.durable active).release with
        maintenance := state.maintenance && action != .startMaintenance } := by
  cases action <;> simp_all [finalizePendingStart, ProfileState.durable, DurableState.release,
    PendingAction.isStop]

/-- An intent is carried out. -/
theorem killable_resumePending {ψ : Host × Nat → Prop} (hid : state.profileId = profile.profileId)
    (hp : state.pendingAction = some action) :
    wp (killable fun _ _ => True) (resumePending profile state [] now action (some host.running))
      (Post (fun _ s => s.1.durable profile = (state.durable host.running).recover) ψ) (host, n) := by
  have hrecover : (state.durable host.running).recover = if action.isStop then
      { (state.durable host.running).own (action == .stopWatchdog) (action == .stopMaintenance) with
        maintenance := state.maintenance || action == .stopMaintenance }
      else { (state.durable host.running).release with
        maintenance := state.maintenance && action != .startMaintenance } := by
    simp [DurableState.recover, ProfileState.durable, hp]
  rw [hrecover]
  unfold resumePending
  cases h : action.isStop with
  | true =>
    have hstopped : wp (killable fun _ _ => True) (stopIfActive profile.serviceName host.running)
        (Post (fun still s => still = false ∧ s.1.running = false) ψ) (host, n) := by
      cases hr : host.running with
      | true => exact wp_resumed_stop.2 (killable_stop.2 ⟨trivial, rfl, Host.running_stop⟩)
      | false => exact ⟨rfl, hr⟩
    refine Post.bind hstopped ?_
    rintro still ⟨host₁, n₁⟩ ⟨rfl, hr⟩
    have hr : host₁.running = false := hr
    have hid' : (finalizePendingStop action (state.observe host.running now) [] now).1.profileId =
        profile.profileId := by
      cases action <;> exact hid
    refine Post.mono (killable_settlePending hid' ?_) fun _ s hs => ?_
    · cases action <;> exact accepted_append (by simp) rfl
    · rw [hs, hr]
      exact finalizePendingStop_durable h
  | false =>
    have hstarted : wp (killable fun _ _ => True) (startIfInactive profile.serviceName host.running)
        (Post (fun active s => active = true ∧ s.1.running = true) ψ) (host, n) := by
      cases hr : host.running with
      | true => exact ⟨rfl, hr⟩
      | false => exact wp_start_command.2 (killable_start.2 ⟨trivial, rfl, rfl⟩)
    refine Post.bind hstarted ?_
    rintro active ⟨host₁, n₁⟩ ⟨rfl, hr⟩
    have hr : host₁.running = true := hr
    have hid' : (finalizePendingStart action (state.observe host.running now) [] now).1.profileId =
        profile.profileId := by
      cases action <;> exact hid
    refine Post.mono (killable_settlePending hid' ?_) fun _ s hs => ?_
    · cases action <;> exact accepted_append (by simp) rfl
    · rw [hs, hr]
      exact finalizePendingStart_durable h

/-- When the daemon comes back, the intent is carried out. -/
theorem recovered_durable :
    (host.recovered profile now).durable profile = (host.durable profile).recover := by
  have hwp : wp (killable fun _ _ => True) (WatchdogEngine.reconcilePending profile now)
      (Post (fun _ s => s.1.durable profile = (host.durable profile).recover)
        fun s => s.1.durable profile = (host.durable profile).recover) (host, 0) := by
    refine wp_bind.2 (killable_getState.2 (Post.bind (wp_ite.2 ⟨fun hsome => ?_, fun hnone => ?_⟩)
      fun _ _ h => h))
    · obtain ⟨action, hp⟩ := Option.isSome_iff_exists.1 hsome
      refine (wp_reconcilePending hp).2 (wp_bind.2 (killable_queryActive.2 ?_))
      exact killable_resumePending Host.row_profileId hp
    · have hnone : (host.row profile).pendingAction = none := by simpa using hnone
      have hd : (host.durable profile).recover = host.durable profile := by
        simp [DurableState.recover, Host.durable, ProfileState.durable, hnone]
      exact hd.symm
  obtain ⟨n, h⟩ := run_of_wp hwp
  unfold Host.recovered
  generalize run Host.respond (WatchdogEngine.reconcilePending profile now) host = result at h
  obtain ⟨r, host'⟩ := result
  cases r <;> exact h

end Recover

/-! ## The operations -/

namespace DurableOperation

section Paths

variable {profile : ManagedProfile} {host : Host} {now : Int} {op : DurableOperation} {n : Nat}
  {after before d : DurableState}

/-- Where an operation may be killed: the daemon makes of it what was before or what will be after. -/
def Outcome (profile : ManagedProfile) (host : Host) (op : DurableOperation) (after : DurableState)
    (n : Nat) (d : DurableState) : Prop :=
  d.recover = host.durable profile ∨ d.recover = after ∨
  op.LosesRace host n ∧ d.recover =
    { host.durable profile with stoppedByWatchdog := true, stoppedByMaintenance := false } ∨
  op.HalfExited profile host n

/-- The contract of an operation that ends in `after`. -/
def Survives (profile : ManagedProfile) (host : Host) (now : Int) (op : DurableOperation)
    (after : DurableState) : Prop :=
  after.pendingAction = none ∧
  wp (killable fun h n => op.Outcome profile host after n (h.durable profile)) (op.body profile now)
    (Post (fun _ s => s.1.durable profile = after) fun s => s.1.durable profile = after) (host, 0)

theorem recover_of_idle (h : d.pendingAction = none) : d.recover = d := by
  simp [DurableState.recover, h]

/-- The row as it was. -/
theorem outcome_before (hidle : (host.durable profile).pendingAction = none) :
    op.Outcome profile host after n (host.durable profile) :=
  .inl (recover_of_idle hidle)

/-- The copy that `apply` and the others begin with. -/
theorem copy_row {draft : Draft} (hid : draft.1.profileId = (host.row profile).profileId)
    (hd : draft.1.durable host.running = d)
    (haccepted : ∀ event ∈ draft.2, Database.Accepted event) : Copy profile d draft host :=
  ⟨hid.trans Host.row_profileId, hd, haccepted⟩

/-- The intent of an action becomes what the action wants, whatever the unit does. -/
theorem recover_stop {owner : StopOwner} (h : d = before.intend owner.action ∨
      ∃ running, d = { before.intend owner.action with running }) :
    d.recover = { before.own (owner == .watchdog) (owner == .maintenance) with
      maintenance := before.maintenance || owner == .maintenance } := by
  obtain rfl | ⟨running, rfl⟩ := h <;> cases owner <;> rfl

theorem recover_start {owner : StartOwner} (h : d = before.intend owner.action ∨
      ∃ running, d = { before.intend owner.action with running }) :
    d.recover = { before.release with maintenance := before.maintenance && owner != .maintenance } := by
  obtain rfl | ⟨running, rfl⟩ := h <;> cases owner <;> rfl

theorem survives_watchdogStop {state : ProfileState} {events : List WatchdogEvent}
    (hidle : (host.durable profile).pendingAction = none)
    (hcopy : (watchdogStop state events).WorksOn (host.row profile)) :
    ∃ after, Survives profile host now (.watchdogStop state events) after := by
  have hbefore : ∀ after, (watchdogStop state events).Outcome profile host after 0
      (host.durable profile) := fun after => outcome_before hidle
  cases hpersist : host.db.persist (state.intend StopOwner.watchdog.action now) events with
  | error e =>
    refine ⟨host.durable profile, hidle, Post.bind (φ := fun _ _ => False) ?_ fun _ _ h => h.elim⟩
    exact killable_refused hpersist (hbefore _) rfl
  | ok db =>
    have hc : Copy profile (host.durable profile) (state, events) host :=
      copy_row hcopy.1 (hcopy.2 _) (Database.accepted_of_persist hpersist)
    cases hrun : (host.durable profile).running with
    | true =>
      refine ⟨(host.durable profile).own true false, rfl, Post.bind
        (killable_stop_running hc hrun (hbefore _) (fun h hd => ?_) fun h hd => ?_)
        fun _ _ h => h.2.written⟩
      · exact .inr (.inl ((recover_stop (.inl hd)).trans (by simp [DurableState.own])))
      · exact .inr (.inl ((recover_stop (.inr ⟨_, hd⟩)).trans (by simp [DurableState.own])))
    | false =>
      refine ⟨(host.durable profile).refuse, rfl, Post.bind
        (killable_stop_stopped hc hrun (hbefore _) fun h hd => ?_) fun _ _ h => h.2.written⟩
      refine .inr (.inr (.inl ⟨⟨⟨state, events, rfl⟩, rfl, hrun⟩, ?_⟩))
      exact (recover_stop (.inl hd)).trans (by simp [DurableState.own, hidle, hrun])

theorem survives_watchdogStart {state : ProfileState} {events : List WatchdogEvent}
    (hidle : (host.durable profile).pendingAction = none)
    (hcopy : (watchdogStart state events).WorksOn (host.row profile)) :
    ∃ after, Survives profile host now (.watchdogStart state events) after := by
  have hbefore : ∀ after, (watchdogStart state events).Outcome profile host after 0
      (host.durable profile) := fun after => outcome_before hidle
  cases hpersist : host.db.persist (state.intend StartOwner.watchdog.action now) events with
  | error e =>
    refine ⟨host.durable profile, hidle, Post.bind (φ := fun _ _ => False) ?_ fun _ _ h => h.elim⟩
    exact killable_refused hpersist (hbefore _) rfl
  | ok db =>
    have hc : Copy profile (host.durable profile) (state, events) host :=
      copy_row hcopy.1 (hcopy.2 _) (Database.accepted_of_persist hpersist)
    refine ⟨(host.durable profile).release, rfl, Post.bind
      (killable_started hc (hbefore _) (fun h hd => ?_) fun h hd _ => ?_) fun _ _ h => h.2.2.written⟩
    · exact .inr (.inl ((recover_start (.inl hd)).trans (by simp [DurableState.release])))
    · exact .inr (.inl ((recover_start (.inr ⟨_, hd⟩)).trans (by simp [DurableState.release])))

theorem survives_startOwnedForModeChange (hidle : (host.durable profile).pendingAction = none) :
    ∃ after, Survives profile host now .startOwnedForModeChange after := by
  have hbefore : ∀ after, startOwnedForModeChange.Outcome profile host after 0 (host.durable profile) :=
    fun after => outcome_before hidle
  have hc : Copy profile (host.durable profile) (host.row profile, []) host :=
    copy_row rfl rfl (by simp)
  by_cases hguard : (host.row profile).healthState ≠ .healthy ∨
      (host.row profile).checkStatus ≠ .probed .success ∨
      ¬ (host.row profile).lastCheckAt.any (fun checked => 0 ≤ now - checked ∧
        now - checked ≤ max 10 (profile.config.checkIntervalSeconds * 2 : Int))
  · refine ⟨host.durable profile, hidle, wp_bind.2 (killable_getState.2 ?_)⟩
    exact wp_ite.2 ⟨fun _ => rfl, fun h => absurd hguard h⟩
  by_cases howned : (host.row profile).stoppedByWatchdog = true
  · refine ⟨(host.durable profile).release, rfl, wp_bind.2 (killable_getState.2 ?_)⟩
    refine wp_ite.2 ⟨fun h => absurd h hguard, fun _ => wp_ite.2 ⟨fun h => absurd howned h, fun _ => ?_⟩⟩
    refine Post.bind (killable_started hc (hbefore _) (fun h hd => ?_) fun h hd _ => ?_) ?_
    · exact .inr (.inl ((recover_start (.inl hd)).trans (by simp [DurableState.release])))
    · exact .inr (.inl ((recover_start (.inr ⟨_, hd⟩)).trans (by simp [DurableState.release])))
    · rintro ⟨started, draft⟩ s ⟨-, rfl, hw⟩
      exact hw.written
  · refine ⟨host.durable profile, hidle, wp_bind.2 (killable_getState.2 ?_)⟩
    refine wp_ite.2 ⟨fun h => absurd h hguard, fun _ => wp_ite.2 ⟨fun _ => rfl, fun h => ?_⟩⟩
    exact absurd howned h

/-- The first half of `apply`: there is nothing to reconcile, and the unit is seen as it is. -/
theorem killable_apply {action : MaintenanceAction} {K : Host → Nat → Prop}
    {Q : Except Exn ProfileState → Host × Nat → Prop}
    (hidle : (host.durable profile).pendingAction = none)
    (h : wp (killable K) (do
      let (state, events) ← MaintenanceController.perform profile
        ((host.row profile).observe host.running now) [] now host.running action
      let state := { state with lastTransitionAt := some now }
      let _ ← persist state events
      return state : Action ProfileState) Q (host, n)) :
    wp (killable K) (MaintenanceController.apply profile action now) Q (host, n) := by
  refine wp_bind.2 (killable_getState.2 (wp_bind.2 ((wp_reconcilePending_none hidle).2 ?_)))
  exact wp_bind.2 (killable_isActive.2 h)

/-- The last write of `apply`. -/
theorem killable_lastWrite {K : Host → Nat → Prop} {p : Action Draft}
    (h : wp (killable K) p (Post (fun draft s => Copy profile after draft s.1 ∧ K s.1 s.2)
      fun s => s.1.durable profile = after) (host, n)) :
    wp (killable K) (do
      let (state, events) ← p
      let state := { state with lastTransitionAt := some now }
      let _ ← persist state events
      return state : Action ProfileState)
      (Post (fun _ s => s.1.durable profile = after) fun s => s.1.durable profile = after) (host, n) := by
  refine Post.bind h fun draft s hs => ?_
  obtain ⟨hc, hK⟩ := hs
  refine Post.bind (writesCopy (d := after) ⟨hc.id, hc.durable, hc.accepted⟩ hK) ?_
  exact fun _ _ h => h.2.written

theorem survives_enterStop (hidle : (host.durable profile).pendingAction = none) :
    ∃ after, Survives profile host now .enterStop after := by
  have hbefore : ∀ after, enterStop.Outcome profile host after 0 (host.durable profile) :=
    fun after => outcome_before hidle
  have hc : Copy profile { host.durable profile with maintenance := true }
      (((host.row profile).observe host.running now).setMaintenance true, []) host :=
    copy_row rfl rfl (by simp)
  cases hrun : host.running with
  | true =>
    refine ⟨({ host.durable profile with maintenance := true } : DurableState).own false true, rfl,
      killable_apply hidle (killable_lastWrite ?_)⟩
    refine Post.bind (φ := fun (draft : Draft) (s : Host × Nat) => WrittenCopy profile
        (({ host.durable profile with maintenance := true } : DurableState).own false true) draft s.1)
      (wp_ite.2 ⟨fun _ => Post.bind (killable_stop_running hc hrun (hbefore _) (fun h hd => ?_)
        fun h hd => ?_) fun ⟨_, _⟩ _ hs => hs.2, fun h => absurd hrun (by simpa using h)⟩) fun draft s hw => ?_
    · exact .inr (.inl ((recover_stop (.inl hd)).trans (by simp [DurableState.own])))
    · exact .inr (.inl ((recover_stop (.inr ⟨_, hd⟩)).trans (by simp [DurableState.own])))
    · refine ⟨⟨hw.id, hw.durable, accepted_append hw.accepted rfl⟩, .inr (.inl ?_)⟩
      rw [hw.written]
      exact recover_of_idle rfl
  | false =>
    refine ⟨{ host.durable profile with maintenance := true }, hidle,
      killable_apply hidle (killable_lastWrite ?_)⟩
    refine Post.bind (φ := fun draft s => draft = (_, []) ∧ s = (host, 0))
      (wp_ite.2 ⟨fun h => ?_, fun _ => ⟨rfl, rfl⟩⟩) ?_
    · rw [hrun] at h
      cases h
    · rintro draft s ⟨rfl, rfl⟩
      exact ⟨⟨hc.id, hc.durable, accepted_append (by simp) rfl⟩, hbefore _⟩

/-- The branch of `apply` for `exit-start`, once the unit runs. -/
theorem killable_exit {state : ProfileState} {events : List WatchdogEvent} {active : Bool}
    {K : Host → Nat → Prop} {ψ : Host × Nat → Prop} (hhealth : state.healthState = .healthy)
    (hp : d.pendingAction = none) (hrun : d.running = true)
    (h : wp (killable K) (MaintenanceController.startOwned profile state events now active)
      (Post (fun draft s => Copy profile d draft s.1 ∧ K s.1 s.2) ψ) (host, n)) :
    wp (killable K) (MaintenanceController.exit profile state events now active true)
      (Post (fun draft s => Copy profile { d.release with maintenance := false } draft s.1 ∧ K s.1 s.2)
        ψ) (host, n) := by
  refine Post.bind (φ := fun draft s => Copy profile d.release draft s.1 ∧ K s.1 s.2)
    (wp_ite.2 ⟨fun _ => wp_ite.2 ⟨fun h => absurd hhealth h, fun _ => Post.bind h fun draft s hs => ?_⟩,
      fun h => absurd rfl h⟩) fun draft s hs => ?_
  · obtain ⟨hc, hK⟩ := hs
    refine ⟨⟨hc.id, ?_, hc.accepted⟩, hK⟩
    simp [← hc.durable, ProfileState.durable, DurableState.release] at hp hrun ⊢
    exact ⟨hp, hrun⟩
  · obtain ⟨hc, hK⟩ := hs
    refine ⟨⟨hc.id, ?_, accepted_append hc.accepted rfl⟩, hK⟩
    have hd := hc.durable
    simp [ProfileState.durable, DurableState.release] at hd ⊢
    simp [hd]

/-- `exit-start` raises before it has done anything. -/
theorem survives_exitStart_raised
    (hidle : (host.durable profile).pendingAction = none)
    (h : ∀ K : Host → Nat → Prop, wp (killable K) (MaintenanceController.settleUnit profile
      ((host.row profile).observe host.running now) [] now host.running true)
      (Post (fun _ _ => False) fun s => s = (host, 0)) (host, 0)) :
    ∃ after, Survives profile host now .exitStart after := by
  refine ⟨host.durable profile, hidle, killable_apply hidle (killable_lastWrite ?_)⟩
  refine Post.weaken (Post.bind (h _) fun _ _ h => h.elim) ?_
  rintro s rfl
  rfl

theorem survives_exitStart (hidle : (host.durable profile).pendingAction = none) :
    ∃ after, Survives profile host now .exitStart after := by
  have hbefore : ∀ after, exitStart.Outcome profile host after 0 (host.durable profile) :=
    fun after => outcome_before hidle
  have hc : Copy profile (host.durable profile) ((host.row profile).observe host.running now, []) host :=
    copy_row rfl rfl (by simp)
  by_cases hhealth : (host.row profile).healthState ≠ .healthy
  · refine survives_exitStart_raised hidle fun K => ?_
    exact wp_ite.2 ⟨fun _ => wp_ite.2 ⟨fun _ => rfl, fun h => absurd hhealth h⟩, fun h => absurd rfl h⟩
  have hhealth : (host.row profile).healthState = .healthy := not_not.1 hhealth
  cases hrun : host.running with
  | true =>
    refine ⟨{ (host.durable profile).release with maintenance := false }, rfl,
      killable_apply hidle (killable_lastWrite (killable_exit hhealth hidle hrun ?_))⟩
    exact wp_ite.2 ⟨fun _ => ⟨hc, hbefore _⟩, fun h => absurd hrun h⟩
  | false =>
    by_cases howned : (host.row profile).stoppedByMaintenance = true ∨
        (host.row profile).stoppedByWatchdog = true
    · refine ⟨{ (host.durable profile).release with maintenance := false }, rfl, killable_apply hidle
        (killable_lastWrite (killable_exit (d := (host.durable profile).release) hhealth rfl rfl ?_))⟩
      refine wp_ite.2 ⟨fun h => absurd (h.symm.trans hrun) (by simp), fun _ =>
        wp_ite.2 ⟨fun h => ?_, fun _ => Post.bind (killable_started hc (hbefore _) (fun h hd => ?_)
          fun h hd _ => ?_) ?_⟩⟩
      · rcases howned with howned | howned <;> simp [howned] at h
      · exact .inr (.inl ((recover_start (.inl hd)).trans (by simp [DurableState.release])))
      · exact .inr (.inl ((recover_start (.inr ⟨_, hd⟩)).trans (by simp [DurableState.release])))
      · rintro ⟨started, draft⟩ s ⟨hn, rfl, hw⟩
        refine ⟨hw.toCopy, ?_⟩
        have hn : s.2 = 3 := by simpa [Host.durable, ProfileState.durable, hrun] using hn
        rw [hw.written, hn]
        -- before the last write the row is still in maintenance, if it was
        cases hm : (host.row profile).maintenance with
        | true => exact .inr (.inr (.inr ⟨rfl, rfl, hrun, hm, hhealth, howned⟩))
        | false =>
          refine .inr (.inl ((recover_of_idle rfl).trans ?_))
          simp [DurableState.release, Host.durable, ProfileState.durable, hm]
    · refine survives_exitStart_raised hidle fun K => ?_
      refine wp_ite.2 ⟨fun _ => wp_ite.2 ⟨fun h => absurd hhealth h, fun _ =>
        Post.bind (φ := fun _ _ => False) (wp_ite.2 ⟨fun h => ?_, fun _ => ?_⟩) fun _ _ h => h.elim⟩,
          fun h => absurd rfl h⟩
      · exact absurd (h.symm.trans hrun) (by simp)
      · exact wp_ite.2 ⟨fun _ => rfl, fun h => absurd howned (by simpa using h)⟩

theorem survives (now : Int) (op : DurableOperation)
    (hidle : (host.durable profile).pendingAction = none) (hcopy : op.WorksOn (host.row profile)) : ∃ after, op.Survives profile host now after :=
  match op, hcopy with
  | .watchdogStop _ _, hcopy => survives_watchdogStop hidle hcopy
  | .watchdogStart _ _, hcopy => survives_watchdogStart hidle hcopy
  | .enterStop, _ => survives_enterStop hidle
  | .exitStart, _ => survives_exitStart hidle
  | .startOwnedForModeChange, _ => survives_startOwnedForModeChange hidle

end Paths

/-- **Crashes.** An operation that is killed is undone or finished when the daemon comes back, except
that a watchdog stop which had lost the race with another stop takes that stop over. Nothing is said of an
`exit-start` that has only its last write to do. -/
theorem killed_recovers (profile : ManagedProfile) (op : DurableOperation) (host : Host)
    (now later : Int) (n : Nat) (hidle : (host.row profile).pendingAction = none)
    (hcopy : op.WorksOn (host.row profile)) (hexit : ¬ op.HalfExited profile host n) :
    ((op.killed profile now host n).recovered profile later).durable profile = host.durable profile ∨
    ((op.killed profile now host n).recovered profile later).durable profile =
      (op.completed profile now host).durable profile ∨
    op.LosesRace host n ∧
      ((op.killed profile now host n).recovered profile later).durable profile =
        { host.durable profile with stoppedByWatchdog := true, stoppedByMaintenance := false } := by
  obtain ⟨after, hafter, hwp⟩ := survives now op hidle hcopy
  have hdone : ∀ r (s : Host × Nat), Post (fun (_ : ProfileState) s => s.1.durable profile = after)
      (fun s => s.1.durable profile = after) (r : Except Exn ProfileState) s →
      s.1.durable profile = after := by
    rintro (_ | _) s h <;> exact h
  have hcompleted : (op.completed profile now host).durable profile = after := by
    obtain ⟨m, h⟩ := run_of_wp hwp
    exact hdone _ _ h
  rw [recovered_durable, hcompleted]
  rcases cut_of_wp hwp (n := n) with h | ⟨r, m, h⟩
  · rw [Nat.zero_add] at h
    rcases h with h | h | h | h
    · exact .inl h
    · exact .inr (.inl h)
    · exact .inr (.inr h)
    · exact absurd h hexit
  · have hd : (op.killed profile now host n).durable profile = after := hdone _ _ h
    rw [hd]
    exact .inr (.inl (recover_of_idle hafter))

/-- A unit that runs is stopped, and the daemon is killed before it has written that. -/
theorem killed_recovers_afterStop :
    let host : Host := { db := .empty }
    let op : DurableOperation := .watchdogStop (host.row eagerProfile) []
    let recovered := ((op.killed eagerProfile 100 host 2).recovered eagerProfile 102)
    recovered.durable eagerProfile = host.durable eagerProfile ∨
    recovered.durable eagerProfile = (op.completed eagerProfile 100 host).durable eagerProfile ∨
    op.LosesRace host 2 ∧ recovered.durable eagerProfile =
      { host.durable eagerProfile with stoppedByWatchdog := true, stoppedByMaintenance := false } :=
  killed_recovers eagerProfile (.watchdogStop _ []) { db := .empty } 100 102 2 rfl
    ⟨rfl, fun _ => rfl⟩ (fun h => by cases h.1)

/-- A watchdog stop of a unit that does not run is killed after its intent: the daemon takes that stop
over. -/
theorem not_killed_recovers : ¬ ∀ (profile : ManagedProfile) (op : DurableOperation) (host : Host)
    (now later : Int) (n : Nat), (host.row profile).pendingAction = none →
    op.WorksOn (host.row profile) →
    ((op.killed profile now host n).recovered profile later).durable profile = host.durable profile ∨
    ((op.killed profile now host n).recovered profile later).durable profile =
      (op.completed profile now host).durable profile := by
  intro h
  have h := h eagerProfile (.watchdogStop (({ db := .empty } : Host).row eagerProfile) [])
    { db := .empty, running := false } 100 102 1 rfl ⟨rfl, fun _ => rfl⟩
  revert h
  decide

end DurableOperation

end Watchdog
