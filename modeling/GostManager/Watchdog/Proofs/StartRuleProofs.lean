import GostManager.Watchdog.Traces
import GostManager.Watchdog.Proofs.RunsProofs
import GostManager.Watchdog.Proofs.StorageProofs

/-!
# Proofs: when the watchdog starts a unit

A row that would let the watchdog start its unit has been *earned*: the successes it counts are in the
streak, a time from which it is ready is late enough, and so is the present if the row is healthy and
still stopped by the watchdog. Every call keeps this, as long as no answer spoils the recovery.
-/

namespace Watchdog

open Effects Effects.Prog Effects.Machine

variable {profileId : String} {threshold hold : Nat} {h : List RunEvent} {c : Call}

/-! ## Streaks -/

/-- Only a draw changes the jitter drawn last. -/
theorem drawn_did {op : Op} {a : Ans op} (hop : ∀ maximum, op ≠ .jitter maximum) :
    drawn (.did op a :: h) = drawn h := by
  cases op with
  | jitter maximum => exact absurd rfl (hop maximum)
  | _ => rfl

theorem streak_did {op : Op} {a : Ans op} : streak profileId (.did op a :: h) = streak profileId h :=
  rfl

theorem clock_did {op : Op} {a : Ans op} : clock (.did op a :: h) = clock h := rfl

theorem streak_success {profile : ManagedProfile} {now : Int} (hid : profile.profileId = profileId) :
    streak profileId (.called (.process profile .success now) :: h) = now :: streak profileId h := by
  simp [streak, results, hid, ProbeResult.errorCategory]

/-- Calls that are given neither a success nor a failure leave the streak and the jitter. -/
theorem streak_neutral (hc : ∀ profile result now, c = .process profile result now →
    result.errorCategory ≠ none) :
    streak profileId (.called c :: h) = streak profileId h ∧ drawn (.called c :: h) = drawn h := by
  cases c with
  | process profile result now =>
    cases result with
    | probeError category => simp [streak, results, drawn, ProbeResult.errorCategory]
    | success | unreachable => exact absurd rfl (hc _ _ _ rfl)
  | _ => exact ⟨rfl, rfl⟩

/-- A recovery that was long enough stays so as time goes by and successes are added. -/
theorem Qualified.mono {h' : List RunEvent} {t t' : Int} (hq : Qualified profileId threshold hold h t)
    (hs : streak profileId h <:+ streak profileId h') (hd : drawn h' = drawn h) (ht : t ≤ t') :
    Qualified profileId threshold hold h' t' := by
  obtain ⟨completed, jitter, hcompleted, hjitter, hle⟩ := hq
  refine ⟨completed, jitter, ?_, hd.trans hjitter, Int.le_trans hle ht⟩
  obtain ⟨new, hnew⟩ := hs
  have hlen : threshold - 1 < (streak profileId h).reverse.length :=
    (List.getElem?_eq_some_iff.1 hcompleted).1
  rw [← hnew, List.reverse_append, List.getElem?_append_left hlen]
  exact hcompleted

theorem Qualified.length (ht : 1 ≤ threshold) {t : Int}
    (hq : Qualified profileId threshold hold h t) : threshold ≤ (streak profileId h).length := by
  obtain ⟨completed, jitter, hcompleted, -⟩ := hq
  have hlen := (List.getElem?_eq_some_iff.1 hcompleted).1
  rw [List.length_reverse] at hlen
  omega

/-! ## Earned rows -/

/-- A row that does not let the watchdog start too early. -/
structure Earned (profileId : String) (threshold hold : Nat) (h : List RunEvent)
    (state : ProfileState) : Prop where
  counted : state.successCount ≤ (streak profileId h).length
  ready : ∀ t, state.healthState = .recovering → state.recoveryReadyAt = some t →
    Qualified profileId threshold hold h t
  owned : state.healthState = .healthy → state.stoppedByWatchdog = true →
    ∃ t, clock h = some t ∧ Qualified profileId threshold hold h t
  fresh : state.healthState = .unknown → state.stoppedByWatchdog = false
  stopping : state.pendingAction = some .stopWatchdog → state.healthState = .down

section Earned

variable {state state' : ProfileState}

/-- What happens to the unit and its owner leaves a row earned. -/
theorem Earned.update (he : Earned profileId threshold hold h state)
    (hh : state'.healthRecord = state.healthRecord)
    (hw : state'.stoppedByWatchdog = true →
      state.stoppedByWatchdog = true ∨ state.healthState = .down)
    (hp : state'.pendingAction = some .stopWatchdog → state.healthState = .down) :
    Earned profileId threshold hold h state' := by
  simp only [ProfileState.healthRecord, Prod.mk.injEq] at hh
  obtain ⟨h1, -, h3, -, -, h6⟩ := hh
  refine ⟨h3 ▸ he.counted, fun t hs ht => he.ready t (h1 ▸ hs) (h6 ▸ ht), fun hs hw' => ?_,
    fun hs => ?_, fun hp' => h1 ▸ hp hp'⟩
  · rw [h1] at hs
    rcases hw hw' with hw | hdown
    · exact he.owned hs hw
    · rw [hs] at hdown
      cases hdown
  · rw [h1] at hs
    cases hw' : state'.stoppedByWatchdog with
    | false => rfl
    | true =>
      rcases hw hw' with hw | hdown
      · rw [he.fresh hs] at hw
        cases hw
      · rw [hs] at hdown
        cases hdown

theorem Earned.did (he : Earned profileId threshold hold h state) {op : Op} {a : Ans op}
    (hop : ∀ maximum, op ≠ .jitter maximum) :
    Earned profileId threshold hold (.did op a :: h) state := by
  have hd := drawn_did (h := h) (a := a) hop
  refine ⟨he.counted, fun t hs ht => ?_, fun hs hw => ?_, he.fresh, he.stopping⟩
  · exact (he.ready t hs ht).mono (List.suffix_refl _) hd (Int.le_refl _)
  · obtain ⟨t, ht, hq⟩ := he.owned hs hw
    exact ⟨t, ht, hq.mono (List.suffix_refl _) hd (Int.le_refl _)⟩

/-- A call that adds to the streak, or leaves it, keeps rows earned. -/
theorem Earned.called (he : Earned profileId threshold hold h state)
    (hs : streak profileId h <:+ streak profileId (.called c :: h))
    (hd : drawn (.called c :: h) = drawn h) (ht : ∀ last, clock h = some last → last ≤ c.now) :
    Earned profileId threshold hold (.called c :: h) state := by
  refine ⟨Nat.le_trans he.counted hs.length_le, fun t hr hready => ?_, fun hh hw => ⟨c.now, rfl, ?_⟩,
    he.fresh, he.stopping⟩
  · exact (he.ready t hr hready).mono hs hd (Int.le_refl _)
  · obtain ⟨t, hclock, hq⟩ := he.owned hh hw
    exact hq.mono hs hd (ht t hclock)

theorem Earned.returned (he : Earned profileId threshold hold h state)
    {r : Except Exn ProfileState} : Earned profileId threshold hold (.returned r :: h) state :=
  ⟨he.counted, he.ready, he.owned, he.fresh, he.stopping⟩

/-- A row that has just counted a failure is earned whatever came before. -/
theorem Failed.earned {profile : ManagedProfile} (hf : Failed profile state state')
    (hp : state.pendingAction = none) : Earned profileId threshold hold h state' := by
  have hs := hf.service
  simp only [ProfileState.serviceRecord, Prod.mk.injEq] at hs
  refine ⟨by rw [hf.successCount]; exact Nat.zero_le _, ?_, ?_, ?_, ?_⟩
  · intro t _ hready
    rw [hf.recoveryReadyAt] at hready
    cases hready
  · intro hh
    rcases hf.health with h' | ⟨h', -⟩ <;> rw [h'] at hh <;> cases hh
  · intro hh
    rcases hf.health with h' | ⟨h', -⟩ <;> rw [h'] at hh <;> cases hh
  · intro hpend
    rw [hs.2.2.2.2.2.1, hp] at hpend
    cases hpend

end Earned

/-! ## What a call keeps -/

/-- What holds when `process` writes the intent of a start. -/
def StartEarned (profileId : String) (threshold hold : Nat) (c : Call) (_ : Database)
    (h : List RunEvent) : Op → Prop
  | .persist state _ => state.pendingAction = some .startWatchdog → ∀ profile result now,
      c = .process profile result now →
      profile.config.mode = .auto ∧ state.maintenance = false ∧ state.manualOverride = false ∧
      state.stoppedByWatchdog = true ∧ threshold ≤ (streak profileId h).length ∧
      Qualified profileId threshold hold h now
  | _ => True

/-- The contract of a call of `recoveryCalls`. -/
abbrev starting (profileId : String) (threshold hold : Nat) (c : Call) :
    Contract Op Ans (Database × List RunEvent) :=
  (recoveryCalls profileId threshold hold).contract (StartEarned profileId threshold hold) c

/-- The row of the profile is earned. -/
def RowEarned (profileId : String) (threshold hold : Nat) (s : Database × List RunEvent) : Prop :=
  ∀ row, s.1.rows profileId = some row → Earned profileId threshold hold s.2 row

/-- A copy of the row and the row itself are earned. -/
structure Durable (profileId : String) (threshold hold : Nat) (state : ProfileState)
    (s : Database × List RunEvent) : Prop where
  id : state.profileId = profileId
  earned : Earned profileId threshold hold s.2 state
  row : RowEarned profileId threshold hold s

/-- A copy of the row that may be written: it is earned and has no intent. -/
structure Sound (profileId : String) (threshold hold : Nat) (state : ProfileState)
    (s : Database × List RunEvent) : Prop where
  id : state.profileId = profileId
  earned : Earned profileId threshold hold s.2 state
  idle : state.pendingAction = none

section Rules

variable {state state' : ProfileState} {events : List WatchdogEvent} {now : Int}
  {s : Database × List RunEvent}

theorem RowEarned.did {db : Database} (hr : RowEarned profileId threshold hold (db, h)) {op : Op}
    {a : Ans op} (hop : ∀ maximum, op ≠ .jitter maximum) :
    RowEarned profileId threshold hold (db, .did op a :: h) :=
  fun row hrow => (hr row hrow).did hop

theorem unaffected_durable :
    Unaffected (StartEarned profileId threshold hold) c
      (Durable profileId threshold hold state) where
  allowed := fun _ _ _ _ => trivial
  kept := fun _ _ _ _ _ hs => ⟨hs.id, hs.earned.did nofun, hs.row.did nofun⟩

theorem unaffected_rowEarned :
    Unaffected (StartEarned profileId threshold hold) c (RowEarned profileId threshold hold) where
  allowed := fun _ _ _ _ => trivial
  kept := fun _ _ _ _ _ hs => hs.did nofun

/-- Writing an earned row. A write cannot fail. -/
theorem starting_persist (hid : state.profileId = profileId)
    (he : Earned profileId threshold hold s.2 state)
    (hg : StartEarned profileId threshold hold c s.1 s.2 (.persist state events)) :
    wp (starting profileId threshold hold c) (persist state events)
      (Post (fun _ => Durable profileId threshold hold state) fun _ => False) s := by
  obtain ⟨db, h⟩ := s
  refine run_persist.2 ⟨hg, fun db' hdb => ⟨hid, he.did nofun, fun row hrow => ?_⟩, nofun⟩
  rw [← hid, Database.persist_row_self hdb] at hrow
  cases hrow
  exact he.did nofun

/-- A row without the intent of a start may be written at any time. -/
theorem startEarned_of_ne {db : Database} (hp : state.pendingAction ≠ some .startWatchdog) :
    StartEarned profileId threshold hold c db h (.persist state events) :=
  fun h => absurd h hp

theorem starting_persistIdle (hid : state.profileId = profileId)
    (he : Earned profileId threshold hold s.2 state) (hp : state.pendingAction = none) :
    wp (starting profileId threshold hold c) (persist state events)
      (Post (fun _ => Durable profileId threshold hold state) fun _ => False) s :=
  starting_persist hid he (startEarned_of_ne (by simp [hp]))

/-- What a durable action makes of a row it may write, when it has written it. -/
abbrev Written (profileId : String) (threshold hold : Nat) (state : ProfileState)
    (s : Database × List RunEvent) : Prop :=
  Durable profileId threshold hold state s ∧ state.pendingAction = none

theorem starting_persistDone (hid : state.profileId = profileId)
    (he : Earned profileId threshold hold s.2 state) (hp : state.pendingAction = none)
    {ψ : Database × List RunEvent → Prop} :
    wp (starting profileId threshold hold c) (persist state events)
      (Post (fun _ => Written profileId threshold hold state) ψ) s :=
  Post.weaken (Post.mono (starting_persistIdle hid he hp) fun _ _ hd => ⟨hd, hp⟩) fun _ h => h.elim

theorem starting_stop {owner : StopOwner} (hid : state.profileId = profileId)
    (he : Earned profileId threshold hold s.2 state)
    (hdown : owner = .watchdog → state.healthState = .down) :
    wp (starting profileId threshold hold c) (DurableServiceActions.stop c.profile state events now
      owner) (Post (fun result => Written profileId threshold hold result.2.1)
        (RowEarned profileId threshold hold)) s := by
  have hdown' : some owner.action = some .stopWatchdog → state.healthState = .down := by
    cases owner with
    | watchdog => exact fun _ => hdown rfl
    | maintenance => rintro ⟨⟩
  have hintent : Earned profileId threshold hold s.2 (state.intend owner.action now) :=
    he.update (by simp [ProfileState.healthRecord]) (fun hw => .inl hw) hdown'
  refine stop_outcomes (Φ := fun _ => Durable profileId threshold hold (state.intend owner.action now))
    (Post.weaken (starting_persist (by simpa using hid) hintent (startEarned_of_ne ?_))
      fun _ h => h.elim) unaffected_durable.commanding (fun _ hs => hs.row)
    (fun _ hs => hs) ?_ .never
    (fun _ _ h => h.elim) (fun _ _ _ h => h.elim)
  · cases owner <;> simp [StopOwner.action]
  · intro _ state' events s hs hstopped
    refine starting_persistDone (hstopped.profileId.trans hid) ?_ hstopped.pendingAction
    refine hs.earned.update ?_ (fun hw => ?_) (by simp [hstopped.pendingAction])
    · rw [hstopped.healthRecord]
      simp [ProfileState.healthRecord]
    · rcases hstopped.stoppedByWatchdog hw with hw | howner
      · exact .inl (by simpa using hw)
      · exact .inr (by simpa using hdown howner)

theorem starting_start {owner : StartOwner} (hid : state.profileId = profileId)
    (he : Earned profileId threshold hold s.2 state)
    (hg : StartEarned profileId threshold hold c s.1 s.2
      (.persist (state.intend owner.action now) events)) :
    wp (starting profileId threshold hold c) (DurableServiceActions.start c.profile state events now
      owner) (Post (fun result => Written profileId threshold hold result.2.1)
        (RowEarned profileId threshold hold)) s := by
  have hintent : Earned profileId threshold hold s.2 (state.intend owner.action now) := by
    refine he.update (by simp [ProfileState.healthRecord]) (fun hw => .inl hw) ?_
    cases owner <;> simp [StartOwner.action]
  refine start_outcomes (Φ := fun _ => Durable profileId threshold hold (state.intend owner.action now))
    (Post.weaken (starting_persist (by simpa using hid) hintent hg) fun _ h => h.elim)
    unaffected_durable.commanding (fun _ hs => hs.row) (fun _ hs => hs) ?_
  intro _ state' events s hs hstarted
  refine starting_persistDone (hstarted.profileId.trans hid) ?_ hstarted.pendingAction
  refine hs.earned.update ?_ (fun hw => ?_) (by simp [hstarted.pendingAction])
  · rw [hstarted.healthRecord]
    simp [ProfileState.healthRecord]
  · exact .inl (by simpa using hstarted.stoppedByWatchdog hw)

/-- Finishing an intent leaves an earned row. -/
theorem Reconciled.earned {action : PendingAction} {seen : Option Bool}
    (hr : Reconciled state action now seen state')
    (hp : state.pendingAction = some action) (he : Earned profileId threshold hold h state) :
    Earned profileId threshold hold h state' := by
  refine he.update hr.healthRecord (fun hw => ?_) (by simp [hr.pendingAction])
  rcases hr.stoppedByWatchdog hw with hw | haction
  · exact .inl hw
  · exact .inr (he.stopping (hp.trans (by rw [haction])))

theorem starting_reconcilePending (hs : Durable profileId threshold hold state s) :
    wp (starting profileId threshold hold c) (DurableServiceActions.reconcilePending c.profile state
      events now) (Post (fun draft => Written profileId threshold hold draft.1)
        (RowEarned profileId threshold hold)) s := by
  cases hp : state.pendingAction with
  | none => exact (wp_reconcilePending_none hp).2 ⟨hs, hp⟩
  | some action =>
    refine reconcilePending_outcomes (Φ := fun _ => Durable profileId threshold hold state) hp
      (fun _ => unaffected_durable.commanding) (fun _ => unaffected_durable.commanding)
      (fun _ _ hs => hs) ?_ hs
    intro _ state' events s hs hr
    exact starting_persistDone (hr.profileId.trans hs.id) (hr.earned hp hs.earned) hr.pendingAction

theorem starting_reconcileIfPending (hs : Durable profileId threshold hold state s) :
    wp (starting profileId threshold hold c) (DurableServiceActions.reconcileIfPending c.profile
      state events now) (Post (fun draft => Written profileId threshold hold draft.1)
        (RowEarned profileId threshold hold)) s :=
  wp_ite.2 ⟨fun _ => starting_reconcilePending hs, fun hp => ⟨hs, by simpa using hp⟩⟩

/-! ### Counting a success -/

/-- A copy of the row before a success is counted: the success is already in the streak. -/
structure Counting (profileId : String) (threshold hold : Nat) (now : Int) (state : ProfileState)
    (s : Database × List RunEvent) : Prop extends Durable profileId threshold hold state s where
  room : state.successCount + 1 ≤ (streak profileId s.2).length
  undegraded : state.healthState = .degraded → state.stoppedByWatchdog = false
  same : ∀ row, s.1.rows profileId = some row →
    row.healthState = state.healthState ∧ row.recoveryReadyAt = state.recoveryReadyAt
  clock : Watchdog.clock s.2 = some now
  past : ∀ t ∈ streak profileId s.2, t ≤ now

theorem unaffected_counting :
    Unaffected (StartEarned profileId threshold hold) c
      (Counting profileId threshold hold now state) where
  allowed := fun _ _ _ _ => trivial
  kept := fun _ _ _ _ _ hs => ⟨⟨hs.id, hs.earned.did nofun, hs.row.did nofun⟩, hs.room,
    hs.undegraded, hs.same, hs.clock, hs.past⟩

/-- What happens to the unit and its owner makes no difference before a success is counted. -/
theorem Counting.update (hs : Counting profileId threshold hold now state s)
    (hid : state'.profileId = state.profileId) (hh : state'.healthRecord = state.healthRecord)
    (hw : state'.stoppedByWatchdog = true →
      state.stoppedByWatchdog = true ∨ state.healthState = .down)
    (hp : state'.pendingAction = none) : Counting profileId threshold hold now state' s := by
  have hh' := hh
  simp only [ProfileState.healthRecord, Prod.mk.injEq] at hh'
  obtain ⟨h1, -, h3, -, -, h6⟩ := hh'
  refine ⟨⟨hid.trans hs.id, hs.earned.update hh hw (by simp [hp]), hs.row⟩, by rw [h3]; exact hs.room,
    fun hd => ?_, fun row hrow => by rw [h1, h6]; exact hs.same row hrow, hs.clock, hs.past⟩
  rw [h1] at hd
  cases hw' : state'.stoppedByWatchdog with
  | false => rfl
  | true =>
    rcases hw hw' with hw | hdown
    · rw [hs.undegraded hd] at hw
      cases hw
    · rw [hd] at hdown
      cases hdown

/-- Such a copy without intent. -/
abbrev CountingIdle (profileId : String) (threshold hold : Nat) (now : Int) (state : ProfileState)
    (s : Database × List RunEvent) : Prop :=
  Counting profileId threshold hold now state s ∧ state.pendingAction = none

/-- Writing such a copy. -/
theorem Counting.persist (hs : Counting profileId threshold hold now state s)
    (hp : state.pendingAction = none) {ψ : Database × List RunEvent → Prop} :
    wp (starting profileId threshold hold c) (persist state events)
      (Post (fun _ => CountingIdle profileId threshold hold now state) ψ) s := by
  obtain ⟨db, h⟩ := s
  refine run_persist.2 ⟨startEarned_of_ne (by simp [hp]), fun db' hdb => ⟨?_, hp⟩, nofun⟩
  have hrow : ∀ row, db'.rows profileId = some row → row = state := by
    intro row hrow
    rw [← hs.id, Database.persist_row_self hdb] at hrow
    exact (Option.some.inj hrow).symm
  refine ⟨⟨hs.id, hs.earned.did nofun, fun row hr => ?_⟩, hs.room, hs.undegraded, fun row hr => ?_,
    hs.clock, hs.past⟩
  · rw [hrow row hr]
    exact hs.earned.did nofun
  · rw [hrow row hr]
    exact ⟨rfl, rfl⟩

theorem counting_reconcileIfPending (hs : Counting profileId threshold hold now state s) :
    wp (starting profileId threshold hold c) (DurableServiceActions.reconcileIfPending c.profile
      state events now) (Post (fun draft => CountingIdle profileId threshold hold now draft.1)
        (RowEarned profileId threshold hold)) s := by
  refine wp_ite.2 ⟨fun hsome => ?_, fun hp => ⟨hs, by simpa using hp⟩⟩
  obtain ⟨action, hp⟩ := Option.isSome_iff_exists.1 hsome
  refine reconcilePending_outcomes (Φ := fun _ => Counting profileId threshold hold now state) hp
    (fun _ => unaffected_counting.commanding) (fun _ => unaffected_counting.commanding)
    (fun _ _ hs => hs) ?_ hs
  intro _ state' events s hs hr
  refine Counting.persist (hs.update hr.profileId hr.healthRecord (fun hw => ?_) hr.pendingAction)
    hr.pendingAction
  rcases hr.stoppedByWatchdog hw with hw | haction
  · exact .inl hw
  · exact .inr (hs.earned.stopping (hp.trans (by rw [haction])))

theorem counting_reconcileServiceInAuto (hs : Counting profileId threshold hold now state s)
    (hp : state.pendingAction = none) :
    wp (starting profileId threshold hold c) (WatchdogEngine.reconcileServiceInAuto c.profile state
      now events) (Post (fun draft => CountingIdle profileId threshold hold now draft.1)
        (RowEarned profileId threshold hold)) s := by
  refine wp_ite.2 ⟨fun _ => Post.bind (counting_reconcileIfPending hs) ?_, fun _ => ⟨hs, hp⟩⟩
  rintro ⟨state, events⟩ s ⟨hs, hp⟩
  have hp : state.pendingAction = none := hp
  refine wp_ite.2 ⟨fun _ => ⟨hs, hp⟩, fun _ => ?_⟩
  refine Post.bind (unaffected_counting.isActive (fun _ hs => hs.row) hs) fun active s hs => ?_
  have hn : Noticed state now active (WatchdogEngine.noticeOperator state now events active).1 :=
    noticeOperator_noticed
  refine ⟨hs.update hn.profileId hn.health (fun hw => .inl ?_) (hn.pendingAction.trans hp),
    hn.pendingAction.trans hp⟩
  rw [hn.stoppedByWatchdog, Bool.and_eq_true] at hw
  exact hw.1

theorem Sound.of_written (hs : Written profileId threshold hold state s) :
    Sound profileId threshold hold state s :=
  ⟨hs.1.id, hs.1.earned, hs.2⟩

/-- An earned row that is healthy may be started. -/
theorem starting_startAfterRecovery {profile : ManagedProfile} {result : ProbeResult}
    (hc : c = .process profile result now) (ht : 1 ≤ threshold)
    (hs : Sound profileId threshold hold state s) (hclock : clock s.2 = some now)
    (hh : state.healthState = .healthy) :
    wp (starting profileId threshold hold c) (WatchdogEngine.startAfterRecovery c.profile state now
      events) (Post (fun draft => Sound profileId threshold hold draft.1)
        (RowEarned profileId threshold hold)) s := by
  refine wp_ite.2 ⟨fun _ => hs, fun hmode => Post.bind (starting_start hs.id hs.earned ?_)
    fun _ _ hw => Sound.of_written hw⟩
  subst hc
  rintro - profile result now' ⟨⟩
  simp only [Call.profile, not_or, not_not, Bool.not_eq_true, Bool.not_eq_false] at hmode
  obtain ⟨hauto, hm, ho, hw⟩ := hmode
  obtain ⟨t, ht', hq⟩ := hs.earned.owned hh hw
  rw [hclock] at ht'
  cases ht'
  exact ⟨hauto, hm, ho, hw, hq.length ht, hq⟩

/-- A success counted while recovering. Once there are enough, the streak reaches the threshold, and
the time from which the row is ready lies the hold and the jitter after it did. -/
theorem starting_continueRecovery {profile : ManagedProfile} {result : ProbeResult}
    (hc : c = .process profile result now) (ht : profile.config.successThreshold = threshold)
    (hhold : profile.config.recoveryHoldSeconds = hold)
    (hs : Sound profileId threshold hold state s) (hrow : RowEarned profileId threshold hold s)
    (hh : state.healthState = .recovering)
    (hsame : ∀ row, s.1.rows profileId = some row → row.healthState ≠ .healthy ∧
      (row.healthState = .recovering → row.recoveryReadyAt = state.recoveryReadyAt))
    (hclock : clock s.2 = some now) (hpast : ∀ t ∈ streak profileId s.2, t ≤ now) :
    wp (starting profileId threshold hold c) (WatchdogEngine.continueRecovery c.profile state now
      events) (Post (fun draft => Sound profileId threshold hold draft.1)
        (RowEarned profileId threshold hold)) s := by
  have hprofile : c.profile = profile := by rw [hc]; rfl
  have hpos : 1 ≤ threshold := ht ▸ profile.config.successThreshold_pos
  refine wp_ite.2 ⟨fun _ => hs, fun hcount => ?_⟩
  simp only [hprofile, ht, Nat.not_lt] at hcount
  -- the row is ready at `readyAt`, and late enough
  refine Post.bind (φ := fun fixed : ProfileState × Int => fun s =>
    Sound profileId threshold hold fixed.1 s ∧ fixed.1.healthState = .recovering ∧
    clock s.2 = some now ∧ Qualified profileId threshold hold s.2 fixed.2) ?_ ?_
  · unfold WatchdogEngine.fixRecoveryReady
    cases hready : state.recoveryReadyAt with
    | some readyAt => exact ⟨hs, hh, hclock, hs.earned.ready readyAt hh hready⟩
    | none =>
      obtain ⟨db, h⟩ := s
      refine wp_bind.2 (run_jitter.2 ⟨trivial, fun jitter => ?_⟩)
      have hrow' : RowEarned profileId threshold hold
          (db, .did (.jitter c.profile.config.recoveryJitterMaxSeconds) jitter :: h) := by
        intro row hr
        obtain ⟨hne, hsame⟩ := hsame row hr
        refine ⟨(hrow row hr).counted, fun t hrec hsome => ?_, fun hhealthy => absurd hhealthy hne,
          (hrow row hr).fresh, (hrow row hr).stopping⟩
        rw [hsame hrec, hready] at hsome
        cases hsome
      refine wp_ite.2 ⟨fun _ => hrow', fun _ => ?_⟩
      have hlen : threshold - 1 < (streak profileId h).reverse.length := by
        have hcounted : state.successCount ≤ (streak profileId h).length := hs.earned.counted
        simp only [List.length_reverse]
        omega
      have hq : Qualified profileId threshold hold
          (.did (.jitter c.profile.config.recoveryJitterMaxSeconds) jitter :: h)
          (now + c.profile.config.recoveryHoldSeconds + jitter) := by
        refine ⟨_, jitter, List.getElem?_eq_getElem hlen, rfl, ?_⟩
        have hle := hpast _ (List.mem_reverse.1 (List.getElem_mem hlen))
        rw [hprofile, hhold]
        omega
      refine ⟨⟨hs.id, ⟨hs.earned.counted, fun t _ hsome => ?_, fun hhealthy => ?_, hs.earned.fresh,
        hs.earned.stopping⟩, hs.idle⟩, hh, hclock, hq⟩
      · cases hsome
        exact hq
      · rw [show state.healthState = .healthy from hhealthy] at hh
        cases hh
  · rintro ⟨state, readyAt⟩ s ⟨hs, hh, hclock, hq⟩
    have hs : Sound profileId threshold hold state s := hs
    refine wp_ite.2 ⟨fun hle => ?_, fun _ => hs⟩
    refine starting_startAfterRecovery hc hpos ⟨?_, ?_, ?_⟩ hclock ?_
    · simpa [transition_fst] using hs.id
    · refine ⟨by simpa [transition_fst] using hs.earned.counted, ?_, fun _ _ => ⟨now, hclock, ?_⟩, ?_,
        ?_⟩
      · simp [transition_fst]
      · exact hq.mono (List.suffix_refl _) rfl hle
      · simp [transition_fst]
      · simp [transition_fst, hs.idle]
    · simpa [transition_fst] using hs.idle
    · simp [transition_fst]

theorem starting_successfulCheck {profile : ManagedProfile}
    (hc : c = .process profile .success now) (ht : profile.config.successThreshold = threshold)
    (hhold : profile.config.recoveryHoldSeconds = hold)
    (hs : CountingIdle profileId threshold hold now state s) :
    wp (starting profileId threshold hold c) (WatchdogEngine.successfulCheck c.profile state now
      events) (Post (fun draft => Sound profileId threshold hold draft.1)
        (RowEarned profileId threshold hold)) s := by
  obtain ⟨hs, hp⟩ := hs
  have hpos : 1 ≤ threshold := ht ▸ profile.config.successThreshold_pos
  have hcounted : min (state.successCount + 1) c.profile.config.successThreshold ≤
      (streak profileId s.2).length := Nat.le_trans (Nat.min_le_left _ _) hs.room
  unfold WatchdogEngine.successfulCheck
  cases hh : state.healthState with
  | unknown | degraded =>
    refine ⟨by simpa [transition_fst] using hs.id, ⟨?_, ?_, fun _ hw => ?_, ?_, ?_⟩, ?_⟩
    · simpa [transition_fst] using hcounted
    · simp [transition_fst]
    · have hw : state.stoppedByWatchdog = true := by simpa [transition_fst] using hw
      first
      | rw [hs.earned.fresh hh] at hw; cases hw
      | rw [hs.undegraded hh] at hw; cases hw
    · simp [transition_fst]
    · simp [transition_fst, hp]
    · simpa [transition_fst] using hp
  | healthy =>
    refine starting_startAfterRecovery hc hpos ⟨hs.id, ⟨hcounted, ?_, fun _ hw => ?_, ?_, ?_⟩, hp⟩
      hs.clock rfl
    · simp
    · exact hs.earned.owned hh hw
    · simp
    · simp [hp]
  | down =>
    have hone : 1 ≤ (streak profileId s.2).length := Nat.le_trans (by omega) hs.room
    refine starting_continueRecovery hc ht hhold ⟨?_, ⟨?_, ?_, ?_, ?_, ?_⟩, ?_⟩ hs.row ?_ ?_ hs.clock
      hs.past
    · simpa [transition_fst] using hs.id
    · simpa [transition_fst] using hone
    · simp [transition_fst]
    · simp [transition_fst]
    · simp [transition_fst]
    · simp [transition_fst, hp]
    · simpa [transition_fst] using hp
    · simp [transition_fst]
    · intro row hrow
      have hsame := (hs.same row hrow).1
      rw [hh] at hsame
      simp [hsame]
  | recovering =>
    refine starting_continueRecovery hc ht hhold ⟨hs.id, ⟨hcounted, ?_, ?_, ?_, ?_⟩, hp⟩ hs.row rfl ?_
      hs.clock hs.past
    · exact fun t _ hready => hs.earned.ready t hh hready
    · simp
    · simp
    · simp [hp]
    · intro row hrow
      have hsame := hs.same row hrow
      rw [hh] at hsame
      exact ⟨by simp [hsame.1], fun _ => hsame.2⟩

/-! ### The calls -/

/-- The end of a call: write the row and return it. -/
theorem Sound.persistAndReturn (hs : Sound profileId threshold hold state s) :
    wp (starting profileId threshold hold c)
      (do let _ ← persist state events; return state : Action ProfileState)
      (Post (fun _ => RowEarned profileId threshold hold) (RowEarned profileId threshold hold)) s :=
  Post.bind (Post.weaken (starting_persistIdle hs.id hs.earned hs.idle) fun _ h => h.elim)
    fun _ _ hd => hd.row

/-- The contract of a call of `soundRecoveryCalls`. -/
abbrev sound (profileId : String) (threshold hold : Nat) (c : Call) :
    Contract Op Ans (Database × List RunEvent) :=
  (soundRecoveryCalls profileId threshold hold).contract (StartEarned profileId threshold hold) c

/-- The row that a call reads first spoils nothing. -/
theorem sound_getState {profile : ManagedProfile} {db : Database} {α : Type}
    {f : ProfileState → Action α} {Q : Except Exn α → Database × List RunEvent → Prop}
    (hf : ∀ row, row = db.getState profile.profileId profile.serviceName profile.kharejIp →
      ¬ Spoils c h (.getState profile.profileId profile.serviceName profile.kharejIp) row →
      wp (sound profileId threshold hold c) (f row) Q
        (db, .did (.getState profile.profileId profile.serviceName profile.kharejIp) row :: h)) :
    wp (sound profileId threshold hold c) (getState profile >>= f) Q (db, h) := by
  refine wp_bind.2 (wp_getState.2 ⟨trivial, ?_⟩)
  rintro row ⟨db', h'⟩ ⟨⟨⟨hrow, hdb⟩, hspoils⟩, hh⟩
  simp only at hrow hdb hh hspoils
  subst hdb hh
  exact hf row hrow hspoils

/-- What is known of the database and the clock between calls. -/
structure Idle (profileId : String) (threshold hold : Nat) (db : Database) (h : List RunEvent) :
    Prop where
  row : RowEarned profileId threshold hold (db, h)
  past : ∀ t ∈ streak profileId h, ∃ last, clock h = some last ∧ t ≤ last

/-- The row that is read is earned, as far as the calls before are concerned. -/
theorem RowEarned.getState {db : Database} {serviceName kharejIp : String}
    (hr : RowEarned profileId threshold hold (db, h)) :
    Earned profileId threshold hold h (db.getState profileId serviceName kharejIp) :=
  Database.getState_of_rows (P := Earned profileId threshold hold h)
    ⟨Nat.zero_le _, nofun, nofun, fun _ => rfl, nofun⟩
    fun row hrow => (hr row hrow).update rfl .inl (hr row hrow).stopping

/-- A call that is given no failure begins with an earned copy of the row. -/
theorem Idle.durable {db : Database} {serviceName kharejIp : String}
    (hI : Idle profileId threshold hold db h)
    (hs : streak profileId h <:+ streak profileId (.called c :: h))
    (hd : drawn (.called c :: h) = drawn h) (ht : ∀ last, clock h = some last → last ≤ c.now)
    (row : ProfileState) (hrow : row = db.getState profileId serviceName kharejIp) :
    Durable profileId threshold hold row
      (db, .did (.getState profileId serviceName kharejIp) row :: .called c :: h) := by
  refine ⟨hrow ▸ Database.getState_profileId, ?_, fun row' hrow' => ?_⟩
  · rw [hrow]
    exact Earned.did (hI.row.getState.called hs hd ht) nofun
  · exact Earned.did ((hI.row row' hrow').called hs hd ht) nofun

theorem sound_process_success {profile : ManagedProfile} {db : Database}
    (hid : profile.profileId = profileId) (ht : profile.config.successThreshold = threshold)
    (hhold : profile.config.recoveryHoldSeconds = hold) (hmode : profile.config.mode ≠ .disabled)
    (hI : Idle profileId threshold hold db h) (hclock : ∀ last, clock h = some last → last ≤ now) :
    wp (sound profileId threshold hold (.process profile .success now))
      (WatchdogEngine.process profile .success now)
      (Post (fun _ => RowEarned profileId threshold hold) (RowEarned profileId threshold hold))
      (db, .called (.process profile .success now) :: h) := by
  have hstreak : streak profileId (.called (.process profile .success now) :: h) =
      now :: streak profileId h := streak_success hid
  refine sound_getState fun row hrow hspoils => wp_restrict ?_
  subst hid
  have hcounting : Counting profile.profileId threshold hold now row (db, .did (.getState
      profile.profileId profile.serviceName profile.kharejIp) row ::
        .called (.process profile .success now) :: h) := by
    have hdurable := hI.durable (c := .process profile .success now)
      (hstreak ▸ List.suffix_cons _ _) rfl hclock row hrow
    refine ⟨hdurable, ?_, fun hdegraded => ?_, fun row' hrow' => ?_, rfl, fun t hmem => ?_⟩
    · have hcounted : row.successCount ≤ (streak profile.profileId h).length :=
        hrow ▸ hI.row.getState.counted
      rw [streak_did, hstreak, List.length_cons]
      omega
    · cases hw : row.stoppedByWatchdog with
      | false => rfl
      | true =>
        refine absurd ⟨?_, hdegraded, hw⟩ hspoils
        simp [Call.result, hmode, ProbeResult.errorCategory]
    · rw [hrow, Database.getState_of_row hrow']
      exact ⟨rfl, rfl⟩
    · rw [streak_did, hstreak, List.mem_cons] at hmem
      rcases hmem with rfl | hmem
      · exact Int.le_refl _
      · obtain ⟨last, hlast, hle⟩ := hI.past t hmem
        exact Int.le_trans hle (hclock last hlast)
  refine Post.bind (counting_reconcileIfPending (c := .process profile .success now) hcounting) ?_
  rintro ⟨state, events⟩ s ⟨hs, hp⟩
  have hs : Counting profile.profileId threshold hold now state s := hs
  refine wp_ite.2 ⟨fun hdisabled => absurd hdisabled hmode, fun _ => ?_⟩
  have hs' : Counting profile.profileId threshold hold now { state with
      lastCheckAt := some now
      checkStatus := .probed .success
      lastProbeErrorCategory := none } s := hs.update rfl rfl .inl hp
  refine Post.bind (counting_reconcileServiceInAuto (c := .process profile .success now) hs' hp) ?_
  rintro ⟨state, events⟩ s hs
  refine Post.bind (wp_ite.2 ⟨fun _ => starting_successfulCheck (c := .process profile .success now)
    rfl ht hhold hs, fun hne => absurd rfl hne⟩) ?_
  rintro ⟨state, events⟩ s hs
  exact Sound.persistAndReturn hs

/-- A copy of the row before a failure is counted. Either it was just read and has no intent, or the
unit was just asked, and will not be asked again. -/
structure Failing (profileId : String) (now : Int) (state : ProfileState)
    (s : Database × List RunEvent) : Prop where
  id : state.profileId = profileId
  idle : state.pendingAction = none
  asked : (justRead s.2).map (·.pendingAction) = some none ∨ state.lastServiceCheckAt = some now

theorem unaffected_true :
    Unaffected (StartEarned profileId threshold hold) c fun _ => True where
  allowed := fun _ _ _ _ => trivial
  kept := fun _ _ _ _ _ _ => trivial

/-- Finishing an intent cannot fail, and asks the unit. -/
theorem failing_reconcileIfPending (hid : state.profileId = profileId)
    (hread : justRead s.2 = some state) :
    wp (starting profileId threshold hold c) (DurableServiceActions.reconcileIfPending c.profile
      state events now) (Post (fun draft => Failing profileId now draft.1) fun _ => False) s := by
  refine wp_ite.2 ⟨fun hsome => ?_, fun hp => ?_⟩
  · obtain ⟨action, hp⟩ := Option.isSome_iff_exists.1 hsome
    refine reconcilePending_outcomes (Φ := fun _ _ => True) hp (fun _ => unaffected_true.commanding)
      (fun _ => unaffected_true.commanding) (fun _ _ hs => hs) ?_ trivial
    rintro _ state' events ⟨db, h⟩ - hr
    refine run_persist.2 ⟨startEarned_of_ne (by simp [hr.pendingAction]), fun db' _ => ?_, nofun⟩
    exact ⟨hr.profileId.trans hid, hr.pendingAction, .inr hr.lastServiceCheckAt⟩
  · have hp : state.pendingAction = none := by simpa using hp
    exact ⟨hid, hp, .inl (by rw [hread, Option.map_some, hp])⟩

/-- A failure is not lost: the unit is asked only if that spoils nothing. -/
theorem failing_reconcileServiceInAuto {profile : ManagedProfile}
    (hc : c.result = some .unreachable) (hs : Failing profileId now state s) :
    wp (sound profileId threshold hold c) (WatchdogEngine.reconcileServiceInAuto profile state now
      events) (Post (fun draft _ => draft.1.profileId = profileId ∧ draft.1.pendingAction = none)
        fun _ => False) s := by
  refine wp_ite.2 ⟨fun _ => ?_, fun _ => ⟨hs.id, hs.idle⟩⟩
  refine Post.bind (φ := fun draft : Draft => Failing profileId now draft.1)
    (wp_ite.2 ⟨fun hsome => ?_, fun _ => hs⟩) ?_
  · rw [hs.idle] at hsome
    cases hsome
  rintro ⟨state, events⟩ s hs
  have hs : Failing profileId now state s := hs
  refine wp_ite.2 ⟨fun _ => ⟨hs.id, hs.idle⟩, fun hask => wp_bind.2 (wp_isActive.2 ⟨trivial, ?_⟩)⟩
  have hread : (justRead s.2).map (·.pendingAction) = some none := by
    rcases hs.asked with hread | hchecked
    · exact hread
    · rw [hchecked] at hask
      simp [serviceReconciliationIntervalSeconds] at hask
  rintro code s' ⟨⟨-, hspoils⟩, -⟩
  have hn : ∀ active, Noticed state now active
    (WatchdogEngine.noticeOperator state now events active).1 := fun _ => noticeOperator_noticed
  have hdone : ∀ active, (WatchdogEngine.noticeOperator state now events active).1.profileId =
      profileId ∧ (WatchdogEngine.noticeOperator state now events active).1.pendingAction = none :=
    fun active => ⟨(hn active).profileId.trans hs.id, (hn active).pendingAction.trans hs.idle⟩
  refine ⟨fun _ => hdone true, fun _ => hdone false, fun hnone => hspoils ⟨hc, hread, ?_, ?_⟩⟩
  · rintro rfl
    simp [seenActive] at hnone
  · rintro rfl
    simp [seenActive] at hnone

theorem starting_failedCheck (hid : state.profileId = profileId) (hp : state.pendingAction = none) :
    wp (starting profileId threshold hold c) (WatchdogEngine.failedCheck c.profile state now events)
      (Post (fun draft => Sound profileId threshold hold draft.1)
        (RowEarned profileId threshold hold)) s := by
  have hrecord : ∀ {state' : ProfileState}, Failed c.profile state state' →
      state'.profileId = profileId ∧ state'.pendingAction = none := by
    intro state' hf
    have hservice := hf.service
    simp only [ProfileState.serviceRecord, Prod.mk.injEq] at hservice
    exact ⟨hservice.1.trans hid, hservice.2.2.2.2.2.1.trans hp⟩
  refine failedCheck_outcomes (fun state' hf => ?_) fun state' events hf hdown _ _ _ _ _ => ?_
  · exact ⟨(hrecord hf).1, hf.earned hp, (hrecord hf).2⟩
  · exact Post.mono (starting_stop (hrecord hf).1 (hf.earned hp) fun _ => hdown)
      fun _ _ hw => Sound.of_written hw

theorem sound_process_failure {profile : ManagedProfile} {db : Database}
    (hid : profile.profileId = profileId) (hmode : profile.config.mode ≠ .disabled) :
    wp (sound profileId threshold hold (.process profile .unreachable now))
      (WatchdogEngine.process profile .unreachable now)
      (Post (fun _ => RowEarned profileId threshold hold) (RowEarned profileId threshold hold))
      (db, .called (.process profile .unreachable now) :: h) := by
  refine sound_getState fun row hrow _ => ?_
  have hresult : (Call.process profile .unreachable now).result = some .unreachable := by
    simp [Call.result, hmode, ProbeResult.errorCategory]
  have hrowId : row.profileId = profileId := by rw [hrow, Database.getState_profileId, hid]
  refine Post.bind (wp_restrict (Post.weaken (failing_reconcileIfPending
    (c := .process profile .unreachable now) hrowId rfl) fun _ h => h.elim)) ?_
  rintro ⟨state, events⟩ s hs
  have hs : Failing profileId now state s := hs
  refine wp_ite.2 ⟨fun hdisabled => absurd hdisabled hmode, fun _ => ?_⟩
  refine Post.bind (Post.weaken (failing_reconcileServiceInAuto hresult
    ⟨hs.id, hs.idle, hs.asked⟩) fun _ h => h.elim) ?_
  rintro ⟨state, events⟩ s ⟨hid, hp⟩
  refine wp_restrict (Post.bind (wp_ite.2 ⟨fun heq => (by cases heq), fun _ =>
    starting_failedCheck (c := .process profile .unreachable now) hid hp⟩) ?_)
  rintro ⟨state, events⟩ s hs
  exact Sound.persistAndReturn hs

/-! ### Calls that are given no result -/

theorem sound_process_probeError {profile : ManagedProfile} {db : Database} {category : String}
    (hid : profile.profileId = profileId) (hI : Idle profileId threshold hold db h)
    (hclock : ∀ last, clock h = some last → last ≤ now) :
    wp (sound profileId threshold hold (.process profile (.probeError category) now))
      (WatchdogEngine.process profile (.probeError category) now)
      (Post (fun _ => RowEarned profileId threshold hold) (RowEarned profileId threshold hold))
      (db, .called (.process profile (.probeError category) now) :: h) := by
  have hneutral : ∀ profile' result now', Call.process profile (.probeError category) now =
      .process profile' result now' → result.errorCategory ≠ none := by
    rintro _ _ _ ⟨⟩
    simp [ProbeResult.errorCategory]
  obtain ⟨hs, hd⟩ := @streak_neutral profileId h _ hneutral
  refine sound_getState fun row hrow _ => wp_restrict ?_
  subst hid
  have hdurable := hI.durable (hs ▸ List.suffix_refl _) hd hclock row hrow
  refine Post.bind (starting_reconcileIfPending
    (c := .process profile (.probeError category) now) hdurable) ?_
  rintro ⟨state, events⟩ s ⟨hs, hp⟩
  have hs : Durable profile.profileId threshold hold state s := hs
  have hp : state.pendingAction = none := hp
  refine wp_ite.2 ⟨fun _ => hs.row, fun _ => ?_⟩
  have hsound : Sound profile.profileId threshold hold { state with
      lastCheckAt := some now
      checkStatus := .probed .probeError
      lastProbeErrorCategory := some category } s :=
    ⟨hs.id, hs.earned.update rfl .inl (by simp [hp]), hp⟩
  exact hsound.persistAndReturn

theorem Written.update (hs : Written profileId threshold hold state s)
    (hid : state'.profileId = state.profileId) (hh : state'.healthRecord = state.healthRecord)
    (hw : state'.stoppedByWatchdog = true → state.stoppedByWatchdog = true)
    (hp : state'.pendingAction = state.pendingAction) : Written profileId threshold hold state' s :=
  ⟨⟨hid.trans hs.1.id, hs.1.earned.update hh (fun h => .inl (hw h)) (by simp [hp, hs.2]), hs.1.row⟩,
    hp.trans hs.2⟩

/-- Only `process` starts a unit after a recovery. -/
theorem startEarned_of_call {db : Database} {op : Op}
    (hc : ∀ profile result now, c ≠ .process profile result now) :
    StartEarned profileId threshold hold c db h op := by
  cases op with
  | persist => exact fun _ profile result now heq => absurd heq (hc profile result now)
  | _ => trivial

theorem starting_enter {active stopNow : Bool} (hs : Written profileId threshold hold state s) :
    wp (starting profileId threshold hold c) (MaintenanceController.enter c.profile state events now
      active stopNow) (Post (fun draft => Written profileId threshold hold draft.1)
        (RowEarned profileId threshold hold)) s := by
  have hs' : Written profileId threshold hold (state.setMaintenance true) s :=
    hs.update rfl rfl id rfl
  have hstop : wp (starting profileId threshold hold c) (MaintenanceController.stopForMaintenance
      c.profile (state.setMaintenance true) events now (stopNow && active))
      (Post (fun draft => Written profileId threshold hold draft.1)
        (RowEarned profileId threshold hold)) s :=
    wp_ite.2 ⟨fun _ => Post.bind (starting_stop hs'.1.id hs'.1.earned (by rintro ⟨⟩)) fun _ _ h => h,
      fun _ => hs'⟩
  exact Post.bind hstop fun _ _ h => h

theorem starting_exit {active startNow : Bool}
    (hc : ∀ profile result now, c ≠ .process profile result now)
    (hs : Written profileId threshold hold state s) :
    wp (starting profileId threshold hold c) (MaintenanceController.exit c.profile state events now
      active startNow) (Post (fun draft => Written profileId threshold hold draft.1)
        (RowEarned profileId threshold hold)) s := by
  have hstart : wp (starting profileId threshold hold c) (MaintenanceController.startOwned c.profile
      state events now active) (Post (fun draft => Written profileId threshold hold draft.1)
        (RowEarned profileId threshold hold)) s :=
    wp_ite.2 ⟨fun _ => hs, fun _ => wp_ite.2 ⟨fun _ => hs.1.row, fun _ =>
      Post.bind (starting_start hs.1.id hs.1.earned (startEarned_of_call hc)) fun _ _ h =>
        wp_ite.2 ⟨fun _ => h.1.row, fun _ => h⟩⟩⟩
  have hsettle : wp (starting profileId threshold hold c) (MaintenanceController.settleUnit c.profile
      state events now active startNow) (Post (fun draft => Written profileId threshold hold draft.1)
        (RowEarned profileId threshold hold)) s := by
    refine wp_ite.2 ⟨fun _ => wp_ite.2 ⟨fun _ => hs.1.row, fun _ => Post.bind hstart ?_⟩,
      fun _ => wp_ite.2 ⟨fun _ => hs.update (by simp) (by simp [ProfileState.healthRecord]) (by simp)
        (by simp), fun _ => hs⟩⟩
    rintro ⟨state, events⟩ s hs
    exact Written.update hs (by simp) (by simp [ProfileState.healthRecord]) (by simp) (by simp)
  refine Post.bind hsettle ?_
  rintro ⟨state, events⟩ s hs
  refine Written.update hs (by simp) (by simp [ProfileState.healthRecord]) (fun hw => ?_) (by simp)
  simp only [ProfileState.setOwner_stoppedByWatchdog, Bool.and_eq_true] at hw
  exact hw.1

theorem starting_apply {action : MaintenanceAction}
    (hc : ∀ profile result now, c ≠ .process profile result now)
    (hs : Durable profileId threshold hold state s) :
    wp (starting profileId threshold hold c) (do
      let (state, events) ← DurableServiceActions.reconcilePending c.profile state [] now
      let active ← SystemdController.isActive c.profile.serviceName
      let (state, events) ← MaintenanceController.perform c.profile (state.observe active now) events
        now active action
      let state := { state with lastTransitionAt := some now }
      let _ ← persist state events
      return state) (Post (fun _ => RowEarned profileId threshold hold)
        (RowEarned profileId threshold hold)) s := by
  refine Post.bind (starting_reconcilePending hs) ?_
  rintro ⟨state, events⟩ s ⟨hs, hp⟩
  have hs : Durable profileId threshold hold state s := hs
  have hp : state.pendingAction = none := hp
  refine Post.bind (unaffected_durable.isActive (fun _ hs => hs.row) hs) fun active s hs => ?_
  have hs' : Written profileId threshold hold (state.observe active now) s :=
    Written.update ⟨hs, hp⟩ rfl rfl id rfl
  have hperform : wp (starting profileId threshold hold c) (MaintenanceController.perform c.profile
      (state.observe active now) events now active action)
      (Post (fun draft => Written profileId threshold hold draft.1)
        (RowEarned profileId threshold hold)) s := by
    cases action with
    | enterKeep | enterStop => exact starting_enter hs'
    | exitNoStart | exitStart => exact starting_exit hc hs'
  refine Post.bind hperform ?_
  rintro ⟨state, events⟩ s hs
  have hs' : Written profileId threshold hold { state with lastTransitionAt := some now } s :=
    Written.update hs rfl rfl id rfl
  exact (Sound.of_written hs').persistAndReturn

theorem starting_rearm (hc : ∀ profile result now, c ≠ .process profile result now)
    (hs : Durable profileId threshold hold state s) :
    wp (starting profileId threshold hold c)
      (if ¬ state.manualOverride then .raise (.valueError "manual override is not active")
      else do
        let active ← SystemdController.isActive c.profile.serviceName
        if ¬ active ∧ ¬ state.stoppedByWatchdog then
          .raise (.valueError "start the manually stopped service before re-arming Auto Protect")
        else
        let state := (state.setOverride false).observe active now
        let _ ← persist state
          [event state .watchdogManualOverride now { actionResult := some .rearmed }]
        return state) (Post (fun _ => RowEarned profileId threshold hold)
          (RowEarned profileId threshold hold)) s := by
  refine wp_ite.2 ⟨fun _ => hs.row, fun _ => Post.bind
    (unaffected_durable.isActive (fun _ hs => hs.row) hs) fun active s hs => wp_ite.2 ⟨fun _ => hs.row, fun _ => ?_⟩⟩
  have he : Earned profileId threshold hold s.2 ((state.setOverride false).observe active now) :=
    hs.earned.update (by simp [ProfileState.healthRecord]) (fun hw => .inl (by simpa using hw))
      (fun hp => hs.earned.stopping (by simpa using hp))
  exact Post.bind (Post.weaken (starting_persist (by simpa using hs.id) he (startEarned_of_call hc))
    fun _ h => h.elim) fun _ _ hd => hd.row

end Rules

/-! ## Runs -/

theorem past_did {op : Op} {a : Ans op}
    (hp : ∀ t ∈ streak profileId h, ∃ last, clock h = some last ∧ t ≤ last) :
    ∀ t ∈ streak profileId (.did op a :: h), ∃ last, clock (.did op a :: h) = some last ∧ t ≤ last :=
  hp

/-- The successes of the streak are not later than the clock. -/
theorem past_called (hid : c.profile.profileId = profileId)
    (hp : ∀ t ∈ streak profileId h, ∃ last, clock h = some last ∧ t ≤ last)
    (ht : ∀ last, clock h = some last → last ≤ c.now) :
    ∀ t ∈ streak profileId (.called c :: h), ∃ last,
      clock (.called c :: h) = some last ∧ t ≤ last := by
  have hold : ∀ t ∈ streak profileId h, t ≤ c.now := by
    intro t hmem
    obtain ⟨last, hlast, hle⟩ := hp t hmem
    exact Int.le_trans hle (ht last hlast)
  intro t hmem
  refine ⟨c.now, rfl, ?_⟩
  cases c with
  | process profile result now =>
    cases result with
    | success =>
      have hid : profile.profileId = profileId := hid
      rw [streak_success hid, List.mem_cons] at hmem
      rcases hmem with rfl | hmem
      · exact Int.le_refl _
      · exact hold t hmem
    | unreachable =>
      have hid : profile.profileId = profileId := hid
      simp [streak, results, hid, ProbeResult.errorCategory] at hmem
    | probeError category =>
      exact hold t (by simpa [streak, results, ProbeResult.errorCategory] using hmem)
  | _ => exact hold t hmem

theorem soundRecoveryCalls_keeps : (soundRecoveryCalls profileId threshold hold).Keeps
    (Idle profileId threshold hold) (StartEarned profileId threshold hold)
    fun _ db h _ => Idle profileId threshold hold db h where
  call := by
    rintro db h c hI ⟨hid, hclock, hprocess⟩
    have hwp : wp (sound profileId threshold hold c) c.body
        (Post (fun _ => RowEarned profileId threshold hold) (RowEarned profileId threshold hold))
        (db, .called c :: h) := by
      cases c with
      | process profile result now =>
        obtain ⟨hmode, ht, hhold⟩ := hprocess
        cases result with
        | success => exact sound_process_success hid ht hhold hmode hI hclock
        | unreachable => exact sound_process_failure hid hmode
        | probeError category => exact sound_process_probeError hid hI hclock
      | reconcilePending profile now =>
        refine sound_getState fun row hrow _ => wp_restrict ?_
        subst hid
        exact Post.bind (starting_reconcileIfPending (c := .reconcilePending profile now)
          (hI.durable (List.suffix_refl _) rfl hclock row hrow)) fun _ _ hs => hs.1.row
      | apply profile action now =>
        refine sound_getState fun row hrow _ => wp_restrict ?_
        subst hid
        exact starting_apply (c := .apply profile action now) (by simp)
          (hI.durable (List.suffix_refl _) rfl hclock row hrow)
      | startOwnedForModeChange profile now =>
        refine sound_getState fun row hrow _ => wp_restrict ?_
        subst hid
        have hs := hI.durable (c := .startOwnedForModeChange profile now) (List.suffix_refl _) rfl
          hclock row hrow
        refine wp_ite.2 ⟨fun _ => hs.row, fun _ => wp_ite.2 ⟨fun _ => hs.row, fun _ =>
          Post.bind (starting_start (c := .startOwnedForModeChange profile now) hs.id hs.earned
            (startEarned_of_call (by simp))) ?_⟩⟩
        rintro ⟨started, state, events⟩ s hs
        exact wp_ite.2 ⟨fun _ => hs.1.row, fun _ => hs.1.row⟩
      | rearm profile now =>
        refine sound_getState fun row hrow _ => wp_restrict ?_
        subst hid
        exact starting_rearm (c := .rearm profile now) (by simp)
          (hI.durable (List.suffix_refl _) rfl hclock row hrow)
    refine wp_mono (wp_and_stable (A := fun s : Database × List RunEvent =>
      ∀ t ∈ streak profileId s.2, ∃ last, clock s.2 = some last ∧ t ≤ last) ?_ hwp
      (past_called hid hI.past hclock)) ?_
    · rintro ⟨db, h⟩ op a ⟨db', h'⟩ hp ⟨-, hh⟩
      simp only at hh
      subst hh
      exact past_did hp
    · rintro (e | state) s ⟨hr, hp⟩
      · exact ⟨hr, hp⟩
      · exact ⟨hr, hp⟩
  finish := fun _ _ _ _ hI => ⟨fun row hrow => (hI.row row hrow).returned, hI.past⟩
  alone := nofun
  cut := nofun
  cut_last := nofun

/-- **The start rule.** In every run from an empty database in which no answer spoils a recovery,
`process` writes the intent of a start only in `auto` mode, outside maintenance and without manual
override, if the watchdog has stopped the unit; the last results are successes, as many as the
threshold, and the hold and the jitter have passed since the streak reached it. -/
theorem start_rule {cfg : (soundRecoveryCalls profileId threshold hold).Config}
    (hr : (soundRecoveryCalls profileId threshold hold).Reachable .empty cfg)
    {profile : ManagedProfile} {result : ProbeResult} {now : Int} {state : ProfileState}
    {events : List WatchdogEvent}
    (hi : cfg.Issues (.process profile result now) (.persist state events))
    (hp : state.pendingAction = some .startWatchdog) :
    profile.config.mode = .auto ∧ state.maintenance = false ∧ state.manualOverride = false ∧
      state.stoppedByWatchdog = true ∧ threshold ≤ (streak profileId cfg.history).length ∧
      Qualified profileId threshold hold cfg.history now := by
  have hidle : Idle profileId threshold hold .empty [] := ⟨by rintro _ ⟨⟩, by rintro _ ⟨⟩⟩
  exact soundRecoveryCalls_keeps.issues hidle hr hi hp profile result now rfl

/-- A script whose answers spoil no recovery is a run without such answers. -/
theorem reachable_carefully {db : Database} {cs : List Scene} (ha : Machine.Config.Admits
    (carefully profileId threshold hold cs)
      (⟨db, [], none⟩ : (soundRecoveryCalls profileId threshold hold).Config)) :
    (soundRecoveryCalls profileId threshold hold).Reachable db
      ((soundRecoveryCalls profileId threshold hold).script db
        (carefully profileId threshold hold cs)) := by
  refine Machine.reachable_script ha fun scene hc c w h op a w' ho => ?_
  obtain ⟨x, _, rfl⟩ := List.mem_map.1 hc
  obtain ⟨ho, hspoils⟩ := Option.filter_eq_some_iff.1 ho
  have ha : (recoveryCalls profileId threshold hold).answers c w h op a w' := environment_answers ho
  exact ⟨ha, of_decide_eq_true hspoils⟩

/-- The short outage: the watchdog is about to start the unit. -/
theorem start_rule_shortOutage : ∃ (history : List RunEvent) (state : ProfileState),
    state.pendingAction = some .startWatchdog ∧ state.stoppedByWatchdog = true ∧
    1 ≤ (streak "iran-1" history).length ∧ Qualified "iran-1" 1 0 history 102 := by
  have hr : (soundRecoveryCalls "iran-1" 1 0).Reachable .empty
      ((soundRecoveryCalls "iran-1" 1 0).script .empty (carefully "iran-1" 1 0 (shortOutage 2))) :=
    reachable_carefully (by decide)
  have hi : ((soundRecoveryCalls "iran-1" 1 0).script .empty
    (carefully "iran-1" 1 0 (shortOutage 2))).Issues (.process eagerProfile .success 102)
      (.persist _ _) := ⟨_, rfl⟩
  obtain ⟨-, -, -, hw, hlen, hq⟩ := start_rule hr hi rfl
  exact ⟨_, _, rfl, hw, hlen, hq⟩

/-- The watchdog stops the unit of that profile, and the upstream recovers while the mode is `monitor`,
so the unit stays stopped. A failure makes the row degraded, and a success healthy again at once. Then
the mode is `auto` again. -/
def brokenRecovery : List Scene :=
  [(.process (patientProfile .auto) .unreachable 100, truthful, toTheEnd),
    (.process (patientProfile .auto) .unreachable 102, truthful, toTheEnd),
    (.process (patientProfile .monitor) .success 104, truthful, toTheEnd),
    (.process (patientProfile .monitor) .success 106, truthful, toTheEnd),
    (.process (patientProfile .monitor) .success 108, truthful, toTheEnd),
    (.process (patientProfile .monitor) .unreachable 110, truthful, toTheEnd),
    (.process (patientProfile .monitor) .success 112, truthful, toTheEnd),
    (.process (patientProfile .auto) .success 114, truthful, 2)]

/-- A unit is started after two successes, although the threshold is three. -/
theorem not_start_rule_of_recoveryCalls : ¬ ∀ cfg, (recoveryCalls "iran-1" 3 0).Reachable .empty cfg →
    ∀ profile result now state events, cfg.Issues (.process profile result now)
      (.persist state events) → state.pendingAction = some .startWatchdog →
      profile.config.mode = .auto ∧ state.maintenance = false ∧ state.manualOverride = false ∧
      state.stoppedByWatchdog = true ∧ 3 ≤ (streak "iran-1" cfg.history).length ∧
      Qualified "iran-1" 3 0 cfg.history now := by
  intro h
  have hr : (recoveryCalls "iran-1" 3 0).Reachable .empty
      ((recoveryCalls "iran-1" 3 0).script .empty (played brokenRecovery)) :=
    reachable_script_played (by decide)
  have hi : ((recoveryCalls "iran-1" 3 0).script .empty (played brokenRecovery)).Issues
    (.process (patientProfile .auto) .success 114) (.persist _ _) := ⟨_, rfl⟩
  have hlen := (h _ hr _ _ _ _ _ hi rfl).2.2.2.2.1
  exact absurd hlen (by decide)

end Watchdog
