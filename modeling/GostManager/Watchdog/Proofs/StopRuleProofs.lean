import GostManager.Watchdog.Proofs.QuietProofs

/-!
# Proofs: when the watchdog stops a unit

The failure count of a row never exceeds the number of failures that its recorded results begin with.
The count may fall behind (a threshold that was lowered caps it), but it is never ahead, so a count
that has reached the threshold means that many failures in a row.
-/

namespace Watchdog

open Effects Effects.Prog Effects.Machine

/-! ## Lists of results -/

@[simp] theorem failures_success {rs : List ProbeResult} : failures (.success :: rs) = 0 := rfl

@[simp] theorem failures_unreachable {rs : List ProbeResult} :
    failures (.unreachable :: rs) = failures rs + 1 := rfl

/-- As many results as the list begins with failures are failures. -/
theorem take_of_le_failures {rs : List ProbeResult} {n : Nat} (h : n ≤ failures rs) :
    rs.take n = List.replicate n .unreachable := by
  induction rs generalizing n with
  | nil => obtain rfl : n = 0 := Nat.le_zero.1 h; rfl
  | cons r rs ih =>
    cases n with
    | zero => rfl
    | succ n =>
      cases r with
      | unreachable =>
        rw [List.take_succ_cons, ih (by simpa using h), List.replicate_succ]
      | success | probeError => simp [failures] at h

/-! ## The ledger -/

section Ledger

variable {profileId : String} {h : List RunEvent} {state : ProfileState} {events : List WatchdogEvent}

@[simp] theorem Ledger.all_record (l : Ledger) : l.record.all = l.all := rfl
@[simp] theorem Ledger.recorded_record (l : Ledger) : l.record.recorded = l.all := rfl
@[simp] theorem Ledger.due_record (l : Ledger) : l.record.due = none := rfl
@[simp] theorem Ledger.recorded_drop (l : Ledger) : l.drop.recorded = l.recorded := rfl
@[simp] theorem Ledger.due_drop (l : Ledger) : l.drop.due = none := rfl

/-- With nothing waiting, all results are recorded. -/
theorem Ledger.all_of_due {l : Ledger} (h : l.due = none) : l.all = l.recorded := by
  simp [Ledger.all, h]

@[simp] theorem ledger_systemctl {verb : Verb} {serviceName : String} {code : Option Int} :
    ledger profileId (.did (.systemctl verb serviceName) code :: h) = ledger profileId h := rfl

@[simp] theorem ledger_getState {a b d : String} {state : ProfileState} :
    ledger profileId (.did (.getState a b d) state :: h) = ledger profileId h := rfl

@[simp] theorem ledger_jitter {maximum : Nat} {jitter : Int} :
    ledger profileId (.did (.jitter maximum) jitter :: h) = ledger profileId h := rfl

@[simp] theorem ledger_persist_error {e : Exn} :
    ledger profileId (.did (.persist state events) (.error e) :: h) = ledger profileId h := rfl

theorem ledger_persist_other (hne : state.profileId ≠ profileId) :
    ledger profileId (.did (.persist state events) (.ok ()) :: h) = ledger profileId h := by
  simp [ledger, hne]

theorem ledger_persist_settled (hp : state.pendingAction = none) :
    ledger profileId (.did (.persist state events) (.ok ()) :: h) = ledger profileId h := by
  simp [ledger, hp]

theorem ledger_persist_intent (hid : state.profileId = profileId) (hp : state.pendingAction ≠ none) :
    ledger profileId (.did (.persist state events) (.ok ()) :: h) =
      (ledger profileId h).record := by
  simp [ledger, hid, hp]

end Ledger

/-! ## What a call keeps -/

/-- The intents of the watchdog that a stop writes are earned: the mode is `auto`, nothing suspends
automatic actions, and the last results, this one included, are as many failures as the threshold
asks for. -/
def StopEarned (c : Call) (_ : Database) (h : List RunEvent) : Op → Prop
  | .persist state _ => state.pendingAction = some .stopWatchdog → ∀ profile result now,
      c = .process profile result now →
      profile.config.mode = .auto ∧ state.maintenance = false ∧ state.manualOverride = false ∧
      (result :: (ledger profile.profileId h).recorded).take profile.config.failureThreshold =
        List.replicate profile.config.failureThreshold .unreachable
  | _ => True

/-- The contract of a call of `uncutCalls`. -/
abbrev counted (c : Call) : Contract Op Ans (Database × List RunEvent) :=
  uncutCalls.contract StopEarned c

/-- The row of a profile does not count more failures than a list of results begins with. -/
def CountsAtMost (db : Database) (profileId : String) (rs : List ProbeResult) : Prop :=
  ∀ row, db.rows profileId = some row → row.failureCount ≤ failures rs

/-- The rows count what is recorded, and only the profile of the call has a result that waits. -/
structure Kept (c : Call) (s : Database × List RunEvent) : Prop where
  here : CountsAtMost s.1 c.profile.profileId (ledger c.profile.profileId s.2).recorded
  elsewhere : ∀ profileId, profileId ≠ c.profile.profileId →
    CountsAtMost s.1 profileId (ledger profileId s.2).recorded ∧ (ledger profileId s.2).due = none

/-- Before the result of the call is counted. -/
structure Uncounted (c : Call) (state : ProfileState) (s : Database × List RunEvent) : Prop where
  id : state.profileId = c.profile.profileId
  count : state.failureCount ≤ failures (ledger c.profile.profileId s.2).recorded
  due : (ledger c.profile.profileId s.2).due = c.result
  kept : Kept c s

/-- After the result of the call is counted, if it has one. -/
structure Counted (c : Call) (state : ProfileState) (s : Database × List RunEvent) : Prop where
  id : state.profileId = c.profile.profileId
  count : state.failureCount ≤ failures (ledger c.profile.profileId s.2).all
  kept : Kept c s

/-- After the result of the call is recorded. -/
structure Recorded (c : Call) (state : ProfileState) (s : Database × List RunEvent) : Prop
    extends Counted c state s where
  due : (ledger c.profile.profileId s.2).due = none

/-- The assertion `Φ` about a copy of the row that has no intent. -/
def Clear (Φ : ProfileState → Database × List RunEvent → Prop) (state : ProfileState)
    (s : Database × List RunEvent) : Prop :=
  Φ state s ∧ state.pendingAction = none

section Rules

variable {c : Call} {state state' : ProfileState} {events : List WatchdogEvent} {now : Int}
  {db db' : Database} {h : List RunEvent} {s : Database × List RunEvent}

/-- Events that the ledgers do not mention, with the database unchanged. -/
theorem Kept.congr {h' : List RunEvent} (hk : Kept c (db, h))
    (hl : ∀ profileId, ledger profileId h' = ledger profileId h) : Kept c (db, h') :=
  ⟨by simpa [hl] using hk.here, by simpa [hl] using hk.elsewhere⟩

/-- Writing a row of the profile of the call that counts what is recorded then. -/
theorem Kept.persist (hk : Kept c (db, h)) (hid : state.profileId = c.profile.profileId)
    (hdb : db.persist state events = .ok db')
    (hcount : state.failureCount ≤ failures (ledger c.profile.profileId
      (.did (.persist state events) (.ok ()) :: h)).recorded) :
    Kept c (db', .did (.persist state events) (.ok ()) :: h) where
  here row hrow := by
    rw [← hid, Database.persist_row_self hdb] at hrow
    cases hrow
    exact hcount
  elsewhere profileId hne := by
    have hne' : profileId ≠ state.profileId := hid ▸ hne
    rw [ledger_persist_other hne'.symm]
    refine ⟨fun row hrow => ?_, (hk.elsewhere profileId hne).2⟩
    rw [Database.persist_row_other hdb hne'] at hrow
    exact (hk.elsewhere profileId hne).1 row hrow

theorem unaffected_kept : Unaffected StopEarned c (Kept c) where
  allowed := fun _ _ _ _ => trivial
  kept := fun _ _ _ _ _ hk => hk.congr fun _ => rfl

theorem Uncounted.congr (hu : Uncounted c state s) (hid : state'.profileId = state.profileId)
    (hf : state'.failureCount = state.failureCount) : Uncounted c state' s :=
  ⟨hid.trans hu.id, hf ▸ hu.count, hu.due, hu.kept⟩

theorem Counted.congr (hu : Counted c state s) (hid : state'.profileId = state.profileId)
    (hf : state'.failureCount = state.failureCount) : Counted c state' s :=
  ⟨hid.trans hu.id, hf ▸ hu.count, hu.kept⟩

theorem Recorded.congr (hu : Recorded c state s) (hid : state'.profileId = state.profileId)
    (hf : state'.failureCount = state.failureCount) : Recorded c state' s :=
  ⟨hu.toCounted.congr hid hf, hu.due⟩

/-- A call without a result has counted it from the start. -/
theorem Uncounted.recorded (hu : Uncounted c state s) (hc : c.result = none) :
    Recorded c state s :=
  ⟨⟨hu.id, by rw [Ledger.all_of_due (hu.due.trans hc)]; exact hu.count, hu.kept⟩, hu.due.trans hc⟩

theorem Uncounted.toCounted (hu : Uncounted c state s) (hc : c.result = none) : Counted c state s :=
  (hu.recorded hc).toCounted

theorem unaffected_uncounted : Unaffected StopEarned c (Uncounted c state) where
  allowed := fun _ _ _ _ => trivial
  kept := fun _ _ _ _ _ hu => ⟨hu.id, hu.count, hu.due, hu.kept.congr fun _ => rfl⟩

theorem unaffected_counted : Unaffected StopEarned c (Counted c state) where
  allowed := fun _ _ _ _ => trivial
  kept := fun _ _ _ _ _ hu => ⟨hu.id, hu.count, hu.kept.congr fun _ => rfl⟩

theorem unaffected_recorded : Unaffected StopEarned c (Recorded c state) where
  allowed := fun _ _ _ _ => trivial
  kept := fun _ _ _ _ _ hu => ⟨⟨hu.id, hu.count, hu.kept.congr fun _ => rfl⟩, hu.due⟩

/-- A row without intent may always be written. -/
theorem stopEarned_settled (hp : state.pendingAction = none) :
    StopEarned c db h (.persist state events) := by
  rintro hs
  rw [hp] at hs
  cases hs

/-! ### Writing a row -/

theorem Uncounted.persist (hu : Uncounted c state s) (hp : state.pendingAction = none) :
    wp (counted c) (persist state events) (Post (fun _ => Uncounted c state) (Kept c)) s := by
  obtain ⟨db, h⟩ := s
  refine run_persist.2 ⟨stopEarned_settled hp, fun db' hdb => ?_, fun _ _ => hu.kept.congr fun _ => rfl⟩
  have hl : ledger c.profile.profileId (.did (.persist state events) (.ok ()) :: h) =
    ledger c.profile.profileId h := ledger_persist_settled hp
  exact ⟨hu.id, by rw [hl]; exact hu.count, by rw [hl]; exact hu.due,
    hu.kept.persist hu.id hdb (by rw [hl]; exact hu.count)⟩

/-- Writing an intent records the result of the call. -/
theorem Counted.persistIntent (hu : Counted c state s) (hp : state.pendingAction ≠ none)
    (hg : StopEarned c s.1 s.2 (.persist state events)) :
    wp (counted c) (persist state events) (Post (fun _ => Recorded c state) (Kept c)) s := by
  obtain ⟨db, h⟩ := s
  refine run_persist.2 ⟨hg, fun db' hdb => ?_, fun _ _ => hu.kept.congr fun _ => rfl⟩
  have hl : ledger c.profile.profileId (.did (.persist state events) (.ok ()) :: h) =
    (ledger c.profile.profileId h).record := ledger_persist_intent hu.id hp
  exact ⟨⟨hu.id, by rw [hl]; exact hu.count, hu.kept.persist hu.id hdb (by rw [hl]; exact hu.count)⟩,
    by rw [hl]; rfl⟩

/-- Once the result is recorded, writes need no care, whether they succeed or not. -/
theorem Recorded.persist (hu : Recorded c state s) (hp : state.pendingAction = none) :
    wp (counted c) (persist state events)
      (Post (fun _ => Recorded c state) (Recorded c state)) s := by
  obtain ⟨db, h⟩ := s
  have hl : ledger c.profile.profileId (.did (.persist state events) (.ok ()) :: h) =
    ledger c.profile.profileId h := ledger_persist_settled hp
  refine run_persist.2 ⟨stopEarned_settled hp, fun db' hdb => ?_,
    fun _ _ => ⟨⟨hu.id, hu.count, hu.kept.congr fun _ => rfl⟩, hu.due⟩⟩
  have hcount := hu.count
  rw [Ledger.all_of_due hu.due] at hcount
  exact ⟨⟨hu.id, by rw [hl]; exact hu.count, hu.kept.persist hu.id hdb (by rw [hl]; exact hcount)⟩,
    by rw [hl]; exact hu.due⟩

theorem Recorded.persist' (hu : Recorded c state s) (hp : state.pendingAction = none) :
    wp (counted c) (Watchdog.persist state events) (Post (fun _ => Recorded c state) (Kept c)) s :=
  wp_mono (hu.persist hp) fun
    | .ok _, _, h => h
    | .error _, _, h => h.kept

/-! ### The durable actions -/

open DurableServiceActions

theorem recorded_refuse {code : EventCode} {values : EventValues} (hu : Recorded c state s) :
    wp (counted c) (refuse state events now code values)
      (Post (fun result => Clear (Recorded c) result.2.1) (Kept c)) s :=
  Post.bind ((hu.congr (by simp) (by simp)).persist' (by simp)) fun _ _ h => ⟨h, by simp⟩

theorem recorded_compensate (hu : Recorded c state s) :
    wp (counted c) (compensate c.profile state now)
      (Post (fun result => Clear (Recorded c) result.2.1) (Kept c)) s := by
  refine Post.bind (unaffected_recorded.startCommand hu) fun compensated s hu => ?_
  cases compensated with
  | false => exact hu.kept
  | true => exact Post.bind ((hu.congr (by simp) (by simp)).persist' (by simp)) fun _ _ h => ⟨h, by simp⟩

/-- A stop records the result of the call with its intent. -/
theorem counted_stop {owner : StopOwner} (hu : Counted c state s)
    (hg : StopEarned c s.1 s.2 (.persist (state.intend owner.action now) events)) :
    wp (counted c) (stop c.profile state events now owner)
      (Post (fun result => Clear (Recorded c) result.2.1) (Kept c)) s := by
  refine Post.bind ((hu.congr (by simp) (by simp)).persistIntent (by simp) hg) fun _ s hu =>
    Post.bind (unaffected_recorded.isActive (fun _ hu => hu.kept) hu) fun active s hu => ?_
  have hu' : Recorded c ((state.intend owner.action now).observe active now) s :=
    hu.congr (by simp) (by simp)
  cases active with
  | false => exact recorded_refuse hu'
  | true =>
    refine Post.bind (unaffected_recorded.stopCommand hu') fun stopped s hu => ?_
    cases stopped with
    | false => exact recorded_refuse hu
    | true =>
      refine Post.handle (Post.bind ((hu.congr (by simp) (by simp)).persist (by simp))
        fun _ _ h => ⟨h, by simp⟩) fun _ _ hu => ?_
      exact recorded_compensate hu

/-- So does a start. -/
theorem counted_start {owner : StartOwner} (hu : Counted c state s) :
    wp (counted c) (start c.profile state events now owner)
      (Post (fun result => Clear (Recorded c) result.2.1) (Kept c)) s := by
  have hg : StopEarned c s.1 s.2 (.persist (state.intend owner.action now) events) := by
    intro hp
    cases owner <;> cases hp
  refine Post.bind ((hu.congr (by simp) (by simp)).persistIntent (by simp) hg) fun _ s hu =>
    Post.bind (unaffected_recorded.isActive (fun _ hu => hu.kept) hu) fun active s hu => ?_
  have hu' : Recorded c ((state.intend owner.action now).observe active now) s :=
    hu.congr (by simp) (by simp)
  refine Post.bind (unaffected_recorded.startIfInactive hu') fun started s hu => ?_
  cases started with
  | false => exact recorded_refuse hu
  | true =>
    refine Post.bind (φ := fun _ => Recorded c _) (Post.handle
      ((hu.congr (by simp) (by simp)).persist (by simp)) fun _ _ hu => hu.persist' (by simp))
      fun _ _ h => ⟨h, by simp⟩

theorem uncounted_persistDraft (hu : Uncounted c state s) (hp : state.pendingAction = none) :
    wp (counted c) (do let events ← persist state events; return (state, events) : Action Draft)
      (Post (fun draft => Clear (Uncounted c) draft.1) (Kept c)) s :=
  Post.bind (hu.persist hp) fun _ _ h => ⟨h, hp⟩

theorem uncounted_reconcilePending (hu : Uncounted c state s) :
    wp (counted c) (reconcilePending c.profile state events now)
      (Post (fun draft => Clear (Uncounted c) draft.1) (Kept c)) s := by
  cases hpend : state.pendingAction with
  | none => exact (wp_reconcilePending_none hpend).2 ⟨hu, hpend⟩
  | some action =>
    refine (wp_reconcilePending hpend).2 (Post.bind (unaffected_uncounted.queryActive hu)
      fun answer s hu => ?_)
    rcases answer with _ | active
    · exact uncounted_persistDraft (hu.congr (by simp [failPending]) (by simp [failPending])) rfl
    · unfold resumePending
      have hu' : Uncounted c (state.observe active now) s := hu.congr (by simp) (by simp)
      cases hstop : action.isStop with
      | true =>
        refine Post.bind (unaffected_uncounted.stopIfActive hu') fun still s hu => ?_
        cases still with
        | true =>
          exact uncounted_persistDraft (hu.congr (by simp [failPending]) (by simp [failPending])) rfl
        | false =>
          refine uncounted_persistDraft (hu.congr ?_ ?_) rfl <;>
            cases action <;> simp [finalizePendingStop]
      | false =>
        refine Post.bind (unaffected_uncounted.startIfInactive hu') fun started s hu => ?_
        cases started with
        | false =>
          exact uncounted_persistDraft (hu.congr (by simp [failPending]) (by simp [failPending])) rfl
        | true =>
          refine uncounted_persistDraft (hu.congr ?_ ?_) rfl <;>
            cases action <;> simp [finalizePendingStart]

theorem uncounted_reconcileIfPending (hu : Uncounted c state s) :
    wp (counted c) (reconcileIfPending c.profile state events now)
      (Post (fun draft => Clear (Uncounted c) draft.1) (Kept c)) s :=
  wp_ite.2 ⟨fun _ => uncounted_reconcilePending hu, fun h => ⟨hu, by simpa using h⟩⟩

/-! ### The engine -/

theorem counted_stopIfOwnedTransition {profile : ManagedProfile} {now' : Int}
    (hc : c = .process profile .unreachable now') (hu : Clear (Counted c) state s)
    (hdue : (ledger profile.profileId s.2).all =
      .unreachable :: (ledger profile.profileId s.2).recorded)
    (ht : profile.config.failureThreshold ≤ state.failureCount) :
    wp (counted c) (WatchdogEngine.stopIfOwnedTransition c.profile state now events)
      (Post (fun draft => Clear (Counted c) draft.1) (Kept c)) s := by
  refine wp_ite.2 ⟨fun _ => hu, fun hmode =>
    Post.bind (counted_stop hu.1 ?_) fun _ _ hu => ⟨hu.1.toCounted, hu.2⟩⟩
  subst hc
  rintro - profile result now ⟨⟩
  simp only [Call.profile, not_or, not_not, Bool.not_eq_true] at hmode
  refine ⟨hmode.1, hmode.2.1, hmode.2.2, ?_⟩
  rw [← hdue]
  exact take_of_le_failures (le_trans ht hu.1.count)

theorem counted_startAfterRecovery (hu : Clear (Counted c) state s) :
    wp (counted c) (WatchdogEngine.startAfterRecovery c.profile state now events)
      (Post (fun draft => Clear (Counted c) draft.1) (Kept c)) s :=
  wp_ite.2 ⟨fun _ => hu, fun _ =>
    Post.bind (counted_start hu.1) fun _ _ hu => ⟨hu.1.toCounted, hu.2⟩⟩

theorem counted_continueRecovery (hu : Clear (Counted c) state s) :
    wp (counted c) (WatchdogEngine.continueRecovery c.profile state now events)
      (Post (fun draft => Clear (Counted c) draft.1) (Kept c)) s := by
  refine wp_ite.2 ⟨fun _ => hu, fun _ => Post.bind (φ := fun fixed : ProfileState × Int =>
    Clear (Counted c) fixed.1) ?_ ?_⟩
  · unfold WatchdogEngine.fixRecoveryReady
    split
    · exact hu
    · obtain ⟨db, h⟩ := s
      refine Post.bind (φ := fun _ => Clear (Counted c) state) (run_jitter.2 ⟨trivial, fun _ => ?_⟩)
        fun _ _ hu => wp_ite.2 ⟨fun _ => hu.1.kept, fun _ => ⟨hu.1.congr rfl rfl, hu.2⟩⟩
      exact ⟨⟨hu.1.id, hu.1.count, hu.1.kept.congr fun _ => rfl⟩, hu.2⟩
  · rintro ⟨state, readyAt⟩ s ⟨hu, hp⟩
    have hp : state.pendingAction = none := hp
    refine wp_ite.2 ⟨fun _ => counted_startAfterRecovery ⟨hu.congr ?_ ?_, ?_⟩, fun _ => ⟨hu, hp⟩⟩ <;>
      simp [transition_fst, hp]

/-- A success sets the count back. -/
theorem uncounted_successfulCheck (hu : Clear (Uncounted c) state s) :
    wp (counted c) (WatchdogEngine.successfulCheck c.profile state now events)
      (Post (fun draft => Clear (Counted c) draft.1) (Kept c)) s := by
  have hzero : ∀ {state' : ProfileState}, state'.profileId = state.profileId →
      state'.failureCount = 0 → state'.pendingAction = state.pendingAction →
      Clear (Counted c) state' s := fun hid hf hp =>
    ⟨⟨hid.trans hu.1.id, hf ▸ Nat.zero_le _, hu.1.kept⟩, hp.trans hu.2⟩
  unfold WatchdogEngine.successfulCheck
  cases hh : state.healthState with
  | unknown | degraded => refine hzero ?_ ?_ ?_ <;> simp [transition_fst]
  | healthy => exact counted_startAfterRecovery (hzero rfl rfl rfl)
  | down => refine counted_continueRecovery (hzero ?_ ?_ ?_) <;> simp [transition_fst]
  | recovering => exact counted_continueRecovery (hzero rfl rfl rfl)

/-- A failure is counted, unless the count has reached the threshold. -/
theorem uncounted_failedCheck {profile : ManagedProfile} {now' : Int}
    (hc : c = .process profile .unreachable now') (hmode : profile.config.mode ≠ .disabled)
    (hu : Clear (Uncounted c) state s) :
    wp (counted c) (WatchdogEngine.failedCheck c.profile state now events)
      (Post (fun draft => Clear (Counted c) draft.1) (Kept c)) s := by
  have hprofile : c.profile = profile := by rw [hc]; rfl
  have hdue : (ledger profile.profileId s.2).all =
      .unreachable :: (ledger profile.profileId s.2).recorded := by
    have hdue := hu.1.due
    rw [hprofile] at hdue
    simp [Ledger.all, hdue, hc, Call.result, hmode, ProbeResult.errorCategory]
  have hone : ∀ {state' : ProfileState}, state'.profileId = state.profileId →
      state'.failureCount = min (state.failureCount + 1) c.profile.config.failureThreshold →
      state'.pendingAction = state.pendingAction → Clear (Counted c) state' s := by
    intro state' hid' hf hp
    refine ⟨⟨hid'.trans hu.1.id, ?_, hu.1.kept⟩, hp.trans hu.2⟩
    have hcount := hu.1.count
    rw [hprofile] at hcount ⊢
    rw [hf, hdue, failures_unreachable]
    omega
  have htrans : ∀ {state' : ProfileState} {newState hne}, state'.profileId = state.profileId →
      state'.failureCount = min (state.failureCount + 1) c.profile.config.failureThreshold →
      state'.pendingAction = state.pendingAction → Clear (Counted c)
        (WatchdogEngine.transition state' newState hne now events).1 s := fun hid hf hp =>
    hone (by simp [transition_fst, hid]) (by simp [transition_fst, hf]) (by simp [transition_fst, hp])
  refine wp_ite.2 ⟨fun _ => htrans rfl rfl rfl, fun _ => wp_ite.2 ⟨fun hge => wp_ite.2 ⟨fun _ => ?_,
    fun _ => htrans rfl rfl rfl⟩, fun _ => wp_ite.2 ⟨fun _ => htrans rfl rfl rfl, fun _ =>
      hone rfl rfl rfl⟩⟩⟩
  refine counted_stopIfOwnedTransition hc (htrans rfl rfl rfl) hdue ?_
  rw [hprofile] at hge
  simpa [transition_fst, hprofile] using hge

theorem uncounted_reconcileServiceInAuto (hu : Clear (Uncounted c) state s) :
    wp (counted c) (WatchdogEngine.reconcileServiceInAuto c.profile state now events)
      (Post (fun draft => Clear (Uncounted c) draft.1) (Kept c)) s := by
  refine wp_ite.2 ⟨fun _ => Post.bind (uncounted_reconcileIfPending hu.1) ?_, fun _ => hu⟩
  rintro ⟨state, events⟩ s ⟨hu, hp⟩
  refine wp_ite.2 ⟨fun _ => ⟨hu, hp⟩, fun _ =>
    Post.bind (unaffected_uncounted.isActive (fun _ hu => hu.kept) hu) fun active s hu => ?_⟩
  unfold WatchdogEngine.noticeOperator
  simp only
  split
  · exact ⟨hu.congr (by simp) (by simp), by simpa using hp⟩
  · split <;> exact ⟨hu.congr (by simp) (by simp), by simpa using hp⟩

/-- Once the row is written, everything is counted; it is recorded when the call returns. -/
structure Finished (c : Call) (s : Database × List RunEvent) : Prop where
  here : CountsAtMost s.1 c.profile.profileId (ledger c.profile.profileId s.2).all
  elsewhere : ∀ profileId, profileId ≠ c.profile.profileId →
    CountsAtMost s.1 profileId (ledger profileId s.2).recorded ∧ (ledger profileId s.2).due = none

/-- The rows of a call without a waiting result are finished as they are. -/
theorem Kept.finished (hk : Kept c s) (hdue : (ledger c.profile.profileId s.2).due = none) :
    Finished c s :=
  ⟨by rw [Ledger.all_of_due hdue]; exact hk.here, hk.elsewhere⟩

/-- Recorded or not, a row that is written does not change what there is to record. -/
theorem ledger_persist_all {profileId : String} :
    (ledger profileId (.did (.persist state events) (.ok ()) :: h)).all =
      (ledger profileId h).all := by
  by_cases hid : state.profileId = profileId
  · by_cases hp : state.pendingAction = none
    · rw [ledger_persist_settled hp]
    · rw [ledger_persist_intent hid hp, Ledger.all_record]
  · rw [ledger_persist_other hid]

/-- The end of a call: write the row and return it. -/
theorem Counted.persistAndReturn (hu : Counted c state s)
    (hg : StopEarned c s.1 s.2 (.persist state events)) :
    wp (counted c) (do let _ ← persist state events; return state : Action ProfileState)
      (Post (fun _ => Finished c) (Kept c)) s := by
  refine Post.bind (φ := fun _ => Finished c) ?_ fun _ _ h => h
  obtain ⟨db, h⟩ := s
  refine run_persist.2 ⟨hg, fun db' hdb => ⟨?_, fun profileId hne => ?_⟩,
    fun _ _ => hu.kept.congr fun _ => rfl⟩
  · intro row hrow
    rw [← hu.id, Database.persist_row_self hdb] at hrow
    cases hrow
    rw [ledger_persist_all]
    exact hu.count
  · have hne' : profileId ≠ state.profileId := hu.id ▸ hne
    rw [ledger_persist_other hne'.symm]
    refine ⟨fun row hrow => ?_, (hu.kept.elsewhere profileId hne).2⟩
    rw [Database.persist_row_other hdb hne'] at hrow
    exact (hu.kept.elsewhere profileId hne).1 row hrow

theorem Clear.persistAndReturn (hu : Clear (Counted c) state s) :
    wp (counted c) (do let _ ← persist state events; return state : Action ProfileState)
      (Post (fun _ => Finished c) (Kept c)) s :=
  hu.1.persistAndReturn (stopEarned_settled hu.2)

theorem uncounted_check {profile : ManagedProfile} {result : ProbeResult} {now' : Int}
    (hc : c = .process profile result now') (hresult : result.errorCategory = none)
    (hmode : profile.config.mode ≠ .disabled) (hu : Clear (Uncounted c) state s) :
    wp (counted c) (WatchdogEngine.check c.profile state result now events)
      (Post (fun _ => Finished c) (Kept c)) s := by
  refine Post.bind (uncounted_reconcileServiceInAuto ⟨hu.1.congr rfl rfl, hu.2⟩) ?_
  rintro ⟨state, events⟩ s hu
  refine Post.bind (φ := fun draft => Clear (Counted c) draft.1) ?_ ?_
  · refine wp_ite.2 ⟨fun _ => uncounted_successfulCheck hu, fun hfail => ?_⟩
    cases result with
    | success => exact absurd rfl hfail
    | unreachable => exact uncounted_failedCheck hc hmode hu
    | probeError category => cases hresult
  · rintro ⟨state, events⟩ s hu
    exact hu.persistAndReturn

/-- What is known of the row that a call reads first. -/
theorem counted_getState (hk : Kept c s) (hdue : (ledger c.profile.profileId s.2).due = c.result) :
    wp (counted c) (getState c.profile) (Post (fun state => Uncounted c state) (Kept c)) s := by
  obtain ⟨db, h⟩ := s
  refine run_getState.2 ⟨trivial, Database.getState_profileId, ?_, hdue, hk.congr fun _ => rfl⟩
  exact Database.getState_of_rows (P := fun state => state.failureCount ≤ _) (Nat.zero_le _)
    fun state hrow => hk.here state hrow

theorem counted_process {profile : ManagedProfile} {result : ProbeResult} {now' : Int}
    (hc : c = .process profile result now') (hk : Kept c s)
    (hdue : (ledger c.profile.profileId s.2).due = c.result) :
    wp (counted c) (WatchdogEngine.process c.profile result now)
      (Post (fun _ => Finished c) (Kept c)) s := by
  have hprofile : c.profile = profile := by rw [hc]; rfl
  refine Post.bind (counted_getState hk hdue) fun state s hu =>
    Post.bind (uncounted_reconcileIfPending hu) ?_
  rintro ⟨state, events⟩ s ⟨hu, hp⟩
  have hu : Uncounted c state s := hu
  have hp : state.pendingAction = none := hp
  refine wp_ite.2 ⟨fun hmode => ?_, fun hmode => ?_⟩
  · rw [hprofile] at hmode
    exact hu.kept.finished (hu.due.trans (by simp [hc, Call.result, hmode]))
  · rw [hprofile] at hmode
    cases result with
    | probeError errorCategory =>
      have hnone : c.result = none := by simp [hc, Call.result, ProbeResult.errorCategory]
      have hu' : Clear (Counted c) { state with
          lastCheckAt := some now
          checkStatus := .probed .probeError
          lastProbeErrorCategory := some errorCategory } s :=
        ⟨Uncounted.toCounted (hu.congr rfl rfl) hnone, hp⟩
      exact hu'.persistAndReturn
    | success => exact uncounted_check hc rfl hmode ⟨hu.congr rfl rfl, hp⟩
    | unreachable => exact uncounted_check hc rfl hmode ⟨hu.congr rfl rfl, hp⟩

/-! ### The maintenance commands -/

theorem counted_enter {active stopNow : Bool} (hu : Recorded c state s)
    (hc : ∀ profile result now, c ≠ .process profile result now) :
    wp (counted c) (MaintenanceController.enter c.profile state events now active stopNow)
      (Post (fun draft => Recorded c draft.1) (Kept c)) s := by
  have hu' : Recorded c (state.setMaintenance true) s := hu.congr rfl rfl
  have hstop : wp (counted c) (MaintenanceController.stopForMaintenance c.profile
      (state.setMaintenance true) events now (stopNow && active))
      (Post (fun draft => Recorded c draft.1) (Kept c)) s :=
    wp_ite.2 ⟨fun _ => Post.bind (counted_stop hu'.toCounted fun _ _ _ _ h => absurd h (hc _ _ _))
      fun _ _ h => h.1, fun _ => hu'⟩
  exact Post.bind hstop fun _ _ h => h.congr rfl rfl

theorem counted_exit {active startNow : Bool} (hu : Recorded c state s) :
    wp (counted c) (MaintenanceController.exit c.profile state events now active startNow)
      (Post (fun draft => Recorded c draft.1) (Kept c)) s := by
  have hstart : wp (counted c) (MaintenanceController.startOwned c.profile state events now active)
      (Post (fun draft => Recorded c draft.1) (Kept c)) s :=
    wp_ite.2 ⟨fun _ => hu, fun _ => wp_ite.2 ⟨fun _ => hu.kept, fun _ =>
      Post.bind (counted_start hu.toCounted) fun _ _ h =>
        wp_ite.2 ⟨fun _ => h.1.kept, fun _ => h.1⟩⟩⟩
  have hsettle : wp (counted c) (MaintenanceController.settleUnit c.profile state events now active
      startNow) (Post (fun draft => Recorded c draft.1) (Kept c)) s := by
    refine wp_ite.2 ⟨fun _ => wp_ite.2 ⟨fun _ => hu.kept, fun _ => Post.bind hstart ?_⟩,
      fun _ => wp_ite.2 ⟨fun _ => hu.congr (by simp) (by simp), fun _ => hu⟩⟩
    rintro ⟨state, events⟩ s hu
    exact hu.congr (by simp) (by simp)
  refine Post.bind hsettle ?_
  rintro ⟨state, events⟩ s hu
  exact hu.congr (by simp) (by simp)

/-- A call that is no `process` call has nothing to record, and may write any row. -/
theorem counted_apply {action : MaintenanceAction} (hk : Kept c s)
    (hdue : (ledger c.profile.profileId s.2).due = c.result)
    (hc : ∀ profile result now, c ≠ .process profile result now) :
    wp (counted c) (MaintenanceController.apply c.profile action now)
      (Post (fun _ => Finished c) (Kept c)) s := by
  have hnone : c.result = none := by
    cases c with
    | process profile result now => exact absurd rfl (hc profile result now)
    | _ => rfl
  refine Post.bind (counted_getState hk hdue) fun state s hu =>
    Post.bind (uncounted_reconcilePending hu) ?_
  rintro ⟨state, events⟩ s ⟨hu, -⟩
  have hu : Uncounted c state s := hu
  refine Post.bind (unaffected_uncounted.isActive (fun _ hu => hu.kept) hu) fun active s hu => ?_
  have hu' : Recorded c (state.observe active now) s :=
    Uncounted.recorded (hu.congr rfl rfl) hnone
  have hperform : wp (counted c) (MaintenanceController.perform c.profile
      (state.observe active now) events now active action)
      (Post (fun draft => Recorded c draft.1) (Kept c)) s := by
    cases action with
    | enterKeep | enterStop => exact counted_enter hu' hc
    | exitNoStart | exitStart => exact counted_exit hu'
  refine Post.bind hperform ?_
  rintro ⟨state, events⟩ s hu
  have hu' : Recorded c { state with lastTransitionAt := some now } s :=
    Recorded.congr hu rfl rfl
  exact hu'.toCounted.persistAndReturn fun _ _ _ _ h => absurd h (hc _ _ _)

theorem counted_startOwnedForModeChange (hk : Kept c s)
    (hdue : (ledger c.profile.profileId s.2).due = c.result) (hnone : c.result = none) :
    wp (counted c) (MaintenanceController.startOwnedForModeChange c.profile now)
      (Post (fun _ => Finished c) (Kept c)) s := by
  refine Post.bind (counted_getState hk hdue) fun state s hu => wp_ite.2 ⟨fun _ => hu.kept, fun _ =>
    wp_ite.2 ⟨fun _ => hu.kept, fun _ => Post.bind (counted_start (hu.toCounted hnone)) ?_⟩⟩
  rintro ⟨started, state, events⟩ s ⟨hu, -⟩
  exact wp_ite.2 ⟨fun _ => hu.kept, fun _ => hu.kept.finished hu.due⟩

theorem counted_rearm (hk : Kept c s) (hdue : (ledger c.profile.profileId s.2).due = c.result)
    (hc : ∀ profile result now, c ≠ .process profile result now) (hnone : c.result = none) :
    wp (counted c) (MaintenanceController.rearm c.profile now)
      (Post (fun _ => Finished c) (Kept c)) s := by
  refine Post.bind (counted_getState hk hdue) fun state s hu => wp_ite.2 ⟨fun _ => hu.kept, fun _ =>
    Post.bind (unaffected_uncounted.isActive (fun _ hu => hu.kept) hu) fun active s hu =>
      wp_ite.2 ⟨fun _ => hu.kept, fun _ => ?_⟩⟩
  have hu' : Uncounted c ((state.setOverride false).observe active now) s :=
    hu.congr (by simp) (by simp)
  exact (hu'.toCounted hnone).persistAndReturn fun _ _ _ _ h => absurd h (hc _ _ _)

end Rules

/-! ## Runs -/

/-- Between calls, rows count no more than what is recorded, and nothing waits. -/
def Tallied (db : Database) (h : List RunEvent) : Prop :=
  ∀ profileId, CountsAtMost db profileId (ledger profileId h).recorded ∧
    (ledger profileId h).due = none

theorem Tallied.called {db : Database} {h : List RunEvent} {c : Call} (ht : Tallied db h) :
    Kept c (db, .called c :: h) := by
  refine ⟨?_, fun profileId hne => ?_⟩
  · simpa [ledger] using (ht c.profile.profileId).1
  · simpa [ledger, hne.symm] using ht profileId

theorem tallied_returned {c : Call} {db : Database} {h : List RunEvent}
    {r : Except Exn ProfileState} (hr : Post (fun _ => Finished c) (Kept c) r (db, h)) :
    Tallied db (.returned r :: h) := by
  intro profileId
  by_cases hid : profileId = c.profile.profileId
  · subst hid
    cases r with
    | ok state => exact ⟨hr.here, rfl⟩
    | error e => exact ⟨hr.here, rfl⟩
  · cases r with
    | ok state =>
      refine ⟨?_, rfl⟩
      have h' := hr.elsewhere profileId hid
      simpa [ledger, Ledger.all_of_due h'.2] using h'.1
    | error e => exact ⟨(hr.elsewhere profileId hid).1, rfl⟩

theorem uncutCalls_keeps_tally : uncutCalls.Keeps Tallied StopEarned
    fun c db h r => Post (fun _ => Finished c) (Kept c) r (db, h) where
  call := by
    rintro db h c hI -
    have hk : Kept c (db, .called c :: h) := hI.called
    have hdue : (ledger c.profile.profileId (.called c :: h)).due = c.result := by simp [ledger]
    cases c with
    | process profile result now => exact counted_process rfl hk hdue
    | reconcilePending profile now =>
      refine Post.bind (counted_getState hk hdue) fun state s hu =>
        Post.bind (uncounted_reconcileIfPending hu) fun _ s hu => ?_
      exact hu.1.kept.finished hu.1.due
    | apply profile action now => exact counted_apply hk hdue (by simp)
    | startOwnedForModeChange profile now => exact counted_startOwnedForModeChange hk hdue rfl
    | rearm profile now => exact counted_rearm hk hdue (by simp) rfl
  finish := fun _ _ _ _ hr => tallied_returned hr
  alone := nofun
  cut := nofun
  cut_last := nofun

/-- **The stop rule.** In every run from an empty database, `process` writes the intent of a stop
only in `auto` mode, outside maintenance and without manual override, after as many failures in a row
as the present threshold asks for: the result of the call and the recorded results before it. A call
with a probe error, or in another mode, writes no intent, and commands nothing unless it has found
one. -/
theorem stop_rule {cfg : uncutCalls.Config} (hr : uncutCalls.Reachable .empty cfg)
    {profile : ManagedProfile} {result : ProbeResult} {now : Int} :
    (∀ state events, cfg.Issues (.process profile result now) (.persist state events) →
      state.pendingAction = some .stopWatchdog →
      profile.config.mode = .auto ∧ state.maintenance = false ∧ state.manualOverride = false ∧
      (result :: (ledger profile.profileId cfg.history).recorded).take
        profile.config.failureThreshold =
          List.replicate profile.config.failureThreshold .unreachable) ∧
    (result.errorCategory ≠ none ∨ profile.config.mode ≠ .auto →
      (∀ state events, cfg.Issues (.process profile result now) (.persist state events) →
        state.pendingAction = none) ∧
      (∀ verb serviceName, cfg.Issues (.process profile result now) (.systemctl verb serviceName) →
        verb = .isActive ∨ ∃ row, rowRead cfg.history = some row ∧ row.pendingAction ≠ none)) := by
  have htally : Tallied .empty [] := fun _ => ⟨by rintro _ ⟨⟩, rfl⟩
  refine ⟨fun state events hi hp => ?_, fun hq => ⟨fun state events hi => ?_, fun verb name hi => ?_⟩⟩
  · exact uncutCalls_keeps_tally.issues htally hr hi hp profile result now rfl
  · exact uncutCalls_keeps_quiet.issues trivial hr hi hq
  · have hg := uncutCalls_keeps_quiet.issues trivial hr hi hq
    cases verb with
    | isActive => exact .inl rfl
    | stop | start => exact .inr hg

/-- The first outage: the intent is about to be written. -/
theorem stop_rule_firstOutage : ∃ state : ProfileState, state.pendingAction = some .stopWatchdog ∧
    state.maintenance = false ∧ state.manualOverride = false := by
  have hr : uncutCalls.Reachable .empty (uncutCalls.script .empty (played (firstOutage 2))) :=
    reachable_played (by simp)
  have hi : (uncutCalls.script .empty (played (firstOutage 2))).Issues
    (.process nervousProfile .unreachable 100) (.persist _ _) := ⟨_, rfl⟩
  obtain ⟨-, hm, ho, -⟩ := (stop_rule hr).1 _ _ hi rfl
  exact ⟨_, rfl, hm, ho⟩

/-- The rule does not hold of all results that `process` was given: in `disabled` mode it does not look
at them. -/
theorem not_stop_rule_of_results : ¬ ∀ cfg, uncutCalls.Reachable .empty cfg →
    ∀ profile result now state events, cfg.Issues (.process profile result now)
      (.persist state events) → state.pendingAction = some .stopWatchdog →
      profile.config.mode = .auto ∧ state.maintenance = false ∧ state.manualOverride = false ∧
      ((results profile.profileId cfg.history).take profile.config.failureThreshold).map (·.1) =
        List.replicate profile.config.failureThreshold .unreachable := by
  intro h
  have hr : uncutCalls.Reachable .empty (uncutCalls.script .empty (played ignoredSuccess)) :=
    reachable_played (by simp)
  have hi : (uncutCalls.script .empty (played ignoredSuccess)).Issues
    (.process (firstProfile { mode := .auto, failureThreshold := 2 }) .unreachable 104)
    (.persist _ _) := ⟨_, rfl⟩
  have hresults := (h _ hr _ _ _ _ _ hi rfl).2.2.2
  exact absurd hresults (by decide)

end Watchdog
