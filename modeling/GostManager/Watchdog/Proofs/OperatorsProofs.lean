import GostManager.Watchdog.Operators
import GostManager.Watchdog.Proofs.OutcomesProofs
import GostManager.Watchdog.Proofs.RunsProofs
import GostManager.Watchdog.Proofs.StorageProofs

/-!
# Proofs: stops of operators

A row that would let the daemon start the unit is never written once the daemon has noticed that the
unit was running again. What the operators do is hidden first: whatever they do, the daemon only sees it
in the answers to its own questions.
-/

namespace Watchdog

open Effects Effects.Prog Effects.Machine

variable {profileId : String} {h : List RunEvent} {c : Call} {s : Database × List RunEvent}
variable {state state' : ProfileState} {n n' : Notice}

/-! ## Notices -/

/-- A notice that is at most as far as another. -/
def Notice.Below (n n' : Notice) : Prop := n = .noted → n' = .noted

/-- Asking and commanding do not let the daemon note anything. -/
theorem notice_systemctl {verb : Verb} {serviceName : String} {code : Option Int} :
    (notice profileId (.did (.systemctl verb serviceName) code :: h)).Below (notice profileId h) := by
  intro hn
  cases verb with
  | isActive =>
    rw [notice] at hn
    split at hn
    · cases hh : notice profileId h <;> simp_all [Notice.see]
    · split at hn
      · cases hn
      · exact hn
  | stop => cases hn
  | start => exact hn

/-- A query that is not answered `0` tells the daemon nothing it can note. -/
theorem notice_isActive_unseen {serviceName : String} {code : Option Int}
    (hn : notice profileId h = .unseen) (hcode : seenActive code ≠ some true) :
    notice profileId (.did (.systemctl .isActive serviceName) code :: h) = .unseen := by
  have h0 : code ≠ some 0 := by
    rintro rfl
    exact hcode rfl
  rw [notice, if_neg h0, hn, ite_self]

/-! ## Rows -/

/-- A row does not let the daemon start the unit once it has noticed that it was running. -/
structure Vigilant (row : ProfileState) (n : Notice) : Prop where
  owned : row.stoppedByWatchdog = true → row.manualOverride = false → n ≠ .noted
  starting : ∀ action, row.pendingAction = some action → action.isStop = false → n ≠ .noted

theorem Vigilant.below (hv : Vigilant state n) (hn : n'.Below n) : Vigilant state n' :=
  ⟨fun hw ho h => hv.owned hw ho (hn h), fun action hp ha h => hv.starting action hp ha (hn h)⟩

/-- The row of the profile is vigilant. -/
def RowVigilant (profileId : String) (s : Database × List RunEvent) : Prop :=
  ∀ row, s.1.rows profileId = some row → Vigilant row (notice profileId s.2)

theorem RowVigilant.systemctl {db : Database} {verb : Verb} {serviceName : String}
    {code : Option Int} (hr : RowVigilant profileId (db, h)) :
    RowVigilant profileId (db, .did (.systemctl verb serviceName) code :: h) :=
  fun row hrow => (hr row hrow).below notice_systemctl

/-- A copy of the row without intent, which may be written: it owns the stop only if the daemon has
not seen the unit running. -/
structure Watchful (profileId : String) (state : ProfileState) (s : Database × List RunEvent) :
    Prop where
  id : state.profileId = profileId
  idle : state.pendingAction = none
  owned : state.stoppedByWatchdog = true → state.manualOverride = false →
    notice profileId s.2 = .unseen
  row : RowVigilant profileId s

/-- Other fields make no difference. -/
theorem Watchful.update (hs : Watchful profileId state s)
    (hrecord : state'.serviceRecord = state.serviceRecord) : Watchful profileId state' s := by
  simp only [ProfileState.serviceRecord, Prod.mk.injEq] at hrecord
  obtain ⟨h1, -, h3, -, h5, h6, -⟩ := hrecord
  exact ⟨h1.trans hs.id, h6.trans hs.idle, fun hw ho => hs.owned (h3 ▸ hw) (h5 ▸ ho), hs.row⟩

/-! ## What a call keeps -/

/-- The unit is started only if the daemon has not noticed that it was running. -/
def Unnoted (profileId : String) (_ : Call) (_ : Database) (h : List RunEvent) : Op → Prop
  | .systemctl .start _ => notice profileId h ≠ .noted
  | _ => True

/-- The contract of a call of `autoProcessCalls`. -/
abbrev watching (profileId : String) (c : Call) : Contract Op Ans (Database × List RunEvent) :=
  (autoProcessCalls profileId).contract (Unnoted profileId) c

section Rules

variable {profile : ManagedProfile} {events : List WatchdogEvent} {now : Int}
  {action : PendingAction}

theorem notice_persist {events : List WatchdogEvent} (hid : state.profileId = profileId) :
    notice profileId (.did (.persist state events) (.ok ()) :: h) = (notice profileId h).note := by
  rw [notice, if_pos hid]

/-- Writing a row that is vigilant. A write that fails changes nothing. -/
theorem watching_write {db : Database} (hid : state.profileId = profileId)
    (hv : Vigilant state (notice profileId h).note) (hr : RowVigilant profileId (db, h)) :
    wp (watching profileId c) (persist state events)
      (Post (fun _ s => RowVigilant profileId s ∧ notice profileId s.2 = (notice profileId h).note)
        fun s => RowVigilant profileId s ∧ notice profileId s.2 = notice profileId h) (db, h) := by
  refine run_persist.2 ⟨trivial, fun db' hdb => ⟨fun row hrow => ?_, notice_persist hid⟩,
    fun _ e => ⟨hr, rfl⟩⟩
  have hrow : db'.rows profileId = some row := hrow
  rw [← hid, Database.persist_row_self hdb] at hrow
  cases hrow
  rw [show notice profileId (db', .did (.persist state events) (.ok ()) :: h).2 =
    (notice profileId h).note from notice_persist hid]
  exact hv

theorem Watchful.vigilant (hs : Watchful profileId state s) :
    Vigilant state (notice profileId s.2).note := by
  refine ⟨fun hw ho hn => ?_, fun action hp => ?_⟩
  · rw [hs.owned hw ho] at hn
    cases hn
  · rw [hs.idle] at hp
    cases hp

/-- Writing a row without intent. -/
theorem watching_persist (hs : Watchful profileId state s) :
    wp (watching profileId c) (persist state events)
      (Post (fun _ => Watchful profileId state) fun s' => RowVigilant profileId s' ∧
        notice profileId s'.2 = notice profileId s.2) s := by
  obtain ⟨db, h⟩ := s
  refine Post.mono (watching_write hs.id hs.vigilant hs.row) fun _ s' h' => ?_
  refine ⟨hs.id, hs.idle, fun hw ho => ?_, h'.1⟩
  rw [h'.2, hs.owned hw ho]
  rfl

/-- Writing an intent that is vigilant. -/
theorem watching_intend (hid : state.profileId = profileId)
    (howned : state.stoppedByWatchdog = true → state.manualOverride = false →
      notice profileId s.2 = .unseen)
    (hstart : action.isStop = false → notice profileId s.2 = .unseen)
    (hr : RowVigilant profileId s) :
    wp (watching profileId c) (persist (state.intend action now) events)
      (Post (fun _ s' => RowVigilant profileId s' ∧
        (action.isStop = false → notice profileId s'.2 ≠ .noted)) (RowVigilant profileId)) s := by
  obtain ⟨db, h⟩ := s
  have hv : Vigilant (state.intend action now) (notice profileId h).note := by
    refine ⟨fun hw ho hn => ?_, fun action' hp ha hn => ?_⟩
    · rw [howned (by simpa using hw) (by simpa using ho)] at hn
      cases hn
    · have haction : action = action' := by simpa using hp
      rw [hstart (haction ▸ ha)] at hn
      cases hn
  refine Post.weaken (Post.mono (watching_write (by simpa using hid) hv hr) ?_) fun _ h => h.1
  rintro _ s' ⟨hr', hn'⟩
  refine ⟨hr', fun ha hn => ?_⟩
  rw [hn', hstart ha] at hn
  cases hn

/-! ### Starting -/

/-- While the daemon starts the unit it has not noticed that it was running before. -/
def Starting (profileId : String) (s : Database × List RunEvent) : Prop :=
  RowVigilant profileId s ∧ notice profileId s.2 ≠ .noted

theorem Starting.systemctl {db : Database} {verb : Verb} {serviceName : String}
    {code : Option Int} (hs : Starting profileId (db, h)) :
    Starting profileId (db, .did (.systemctl verb serviceName) code :: h) :=
  ⟨hs.1.systemctl, fun hn => hs.2 (notice_systemctl hn)⟩

theorem watching_starting {serviceName : String} :
    Commanding (watching profileId c) serviceName .start fun _ => Starting profileId where
  asks _ _ := trivial
  asked := by
    rintro ⟨db, h⟩ code s' hs ha
    exact contract_systemctl.1 ha ▸ hs.systemctl
  commands _ _ hs := hs.2
  commanded := by
    rintro - ⟨db, h⟩ code s' hs ha
    exact contract_systemctl.1 ha ▸ Starting.systemctl hs
  verifies _ _ := trivial
  verified := by
    rintro ⟨db, h⟩ code s' hs ha
    exact contract_systemctl.1 ha ▸ hs.systemctl
  failed _ hs := hs

/-- A row that owns nothing, or is overridden, may be written at any time. -/
theorem RowVigilant.released (hr : RowVigilant profileId s) (hid : state.profileId = profileId)
    (hidle : state.pendingAction = none)
    (hfree : state.stoppedByWatchdog = false ∨ state.manualOverride = true) :
    Watchful profileId state s := by
  refine ⟨hid, hidle, fun hw ho => ?_, hr⟩
  rcases hfree with hfree | hfree
  · rw [hfree] at hw
    cases hw
  · rw [hfree] at ho
    cases ho

theorem watching_start {owner : StartOwner} (hs : Watchful profileId state s)
    (hw : state.stoppedByWatchdog = true) (ho : state.manualOverride = false) :
    wp (watching profileId c) (DurableServiceActions.start profile state events now owner)
      (Post (fun result => Watchful profileId result.2.1) (RowVigilant profileId)) s := by
  have hstart : owner.action.isStop = false := by cases owner <;> rfl
  have hintent := @watching_intend profileId c s state events now owner.action hs.id
    hs.owned (fun _ => hs.owned hw ho) hs.row
  refine start_outcomes (Φ := fun _ => Starting profileId)
    (Post.mono hintent fun _ _ h => ⟨h.1, h.2 hstart⟩) watching_starting (fun _ hs => hs.1)
    (fun _ hs => hs) fun seen state' events s hs' hstarted => ?_
  have hfree : state'.stoppedByWatchdog = false ∨ state'.manualOverride = true := by
    cases hstarted with
    | refused => exact .inr (by simp)
    | started => exact .inl (by simp)
  refine Post.weaken (watching_persist
    (hs'.1.released (hstarted.profileId.trans hs.id) hstarted.pendingAction hfree)) ?_
  rintro s'' ⟨hr, hn⟩
  exact ⟨hr, hr, fun hnoted => hs'.2 (hn ▸ hnoted)⟩

/-! ### Stopping -/

/-- While the daemon stops the unit it has not seen it running since, unless that is what it asked for
last. When it finishes an old intent, finding the unit stopped is as good as a command. -/
def Stopping (profileId : String) (resumed : Bool) : Stage → Database × List RunEvent → Prop
  | .fresh, s => RowVigilant profileId s ∧ (resumed = true → Resumes s.2)
  | .asked seen, s => RowVigilant profileId s ∧
      (resumed = true → seen = some false → notice profileId s.2 = .unseen)
  | .commanded, s => RowVigilant profileId s ∧ notice profileId s.2 = .unseen
  | .settled seen, s => RowVigilant profileId s ∧
      (seen = some false → notice profileId s.2 = .unseen)

theorem watching_stopping {serviceName : String} {resumed : Bool} :
    Commanding (watching profileId c) serviceName .stop (Stopping profileId resumed) where
  asks _ _ := trivial
  asked := by
    rintro ⟨db, h⟩ code s' ⟨hr, hresumes⟩ ha
    refine contract_systemctl.1 ha ▸ ⟨hr.systemctl, fun hresumed hseen => ?_⟩
    rw [seenActive_eq_false hseen]
    simp [notice, hresumes hresumed]
  commands _ _ _ := trivial
  commanded := by
    rintro seen ⟨db, h⟩ code s' ⟨hr, -⟩ ha
    exact contract_systemctl.1 ha ▸ ⟨hr.systemctl, rfl⟩
  verifies _ _ := trivial
  verified := by
    rintro ⟨db, h⟩ code s' ⟨hr, hn⟩ ha
    refine contract_systemctl.1 ha ▸ ⟨hr.systemctl, fun hseen => ?_⟩
    exact notice_isActive_unseen hn (by simp [hseen])
  failed _ hs := ⟨hs.1, nofun⟩

theorem watching_stop {owner : StopOwner} (hs : Watchful profileId state s) :
    wp (watching profileId c) (DurableServiceActions.stop profile state events now owner)
      (Post (fun result => Watchful profileId result.2.1) (RowVigilant profileId)) s := by
  have hintent := @watching_intend profileId c s state events now owner.action hs.id
    hs.owned (by cases owner <;> simp [StopOwner.action, PendingAction.isStop]) hs.row
  refine stop_outcomes (Φ := Stopping profileId false) (Θ := fun _ => Starting profileId)
    (Post.mono hintent fun _ _ h => ⟨h.1, fun hseen => by cases hseen⟩) watching_stopping (fun _ hs => hs.1)
    (fun _ hs => ⟨hs.1, fun hseen => by cases hseen⟩) ?_ watching_starting (fun _ _ hs => hs.1) ?_
  · rintro seen state' events s' ⟨hr, hn⟩ hstopped
    have hwatchful : Watchful profileId state' s' := by
      cases hstopped with
      | refused => exact hr.released (by simpa using hs.id) (by simp) (.inr (by simp))
      | stopped => exact ⟨by simpa using hs.id, by simp, fun _ _ => hn rfl, hr⟩
      | compensated => exact hr.released (by simpa using hs.id) (by simp) (.inr (by simp))
    refine Post.weaken (watching_persist hwatchful) fun s'' h => ⟨h.1, fun hseen => ⟨h.1, ?_⟩⟩
    rw [h.2, hn hseen]
    intro hnone
    cases hnone
  · intro state' events s' hs' hstopped
    have hwatchful : Watchful profileId state' s' := by
      cases hstopped with
      | refused | compensated =>
        exact hs'.1.released (by simpa using hs.id) (by simp) (.inr (by simp))
    exact Post.weaken (watching_persist hwatchful) fun _ h => h.1

/-! ### The calls -/

/-- A copy of the row that was just read. -/
structure JustRead (profileId : String) (state : ProfileState) (s : Database × List RunEvent) :
    Prop where
  id : state.profileId = profileId
  read : justRead s.2 = some state
  vigilant : Vigilant state (notice profileId s.2)
  settled : notice profileId s.2 ≠ .seen
  row : RowVigilant profileId s

theorem Notice.eq_unseen (hs : n ≠ .seen) (hn : n ≠ .noted) : n = .unseen := by
  cases n with
  | unseen => rfl
  | seen => exact absurd rfl hs
  | noted => exact absurd rfl hn

theorem watching_reconcileIfPending (hs : JustRead profileId state s) :
    wp (watching profileId c) (DurableServiceActions.reconcileIfPending profile state events now)
      (Post (fun draft => Watchful profileId draft.1) (RowVigilant profileId)) s := by
  refine wp_ite.2 ⟨fun hsome => ?_, fun hnone => ?_⟩
  · obtain ⟨action, hp⟩ := Option.isSome_iff_exists.1 hsome
    cases haction : action.isStop with
    | true =>
      refine reconcilePending_outcomes (Φ := Stopping profileId true) hp
        (fun _ => watching_stopping) (fun hstart => by simp [haction] at hstart)
        (fun seen s hs => ⟨hs.1, hs.2 rfl⟩) ?_ ⟨hs.row, fun _ => ?_⟩
      · intro seen state' events s' ⟨hr, hn⟩ hrec
        refine Post.weaken (watching_persist ?_) fun _ h => h.1
        refine ⟨hrec.profileId.trans hs.id, hrec.pendingAction, fun hw ho => ?_, hr⟩
        cases hrec with
        | stopped => exact hn rfl
        | started active events hstart => simp [haction] at hstart
        | unanswered | notStopped | notStarted => simp at ho
      · simp [Resumes, hs.read, hp, haction]
    | false =>
      have hne := hs.vigilant.starting action hp haction
      refine reconcilePending_outcomes (Φ := fun _ => Starting profileId) hp
        (fun hstop => by simp [haction] at hstop) (fun _ => watching_starting)
        (fun _ _ hs => hs) ?_ ⟨hs.row, hne⟩
      intro seen state' events s' ⟨hr, hn⟩ hrec
      refine Post.weaken (watching_persist (hr.released (hrec.profileId.trans hs.id)
        hrec.pendingAction ?_)) fun _ h => h.1
      cases hrec with
      | started => exact .inl (by cases action <;> simp [DurableServiceActions.finalizePendingStart])
      | stopped active events hstop => simp [haction] at hstop
      | unanswered | notStopped | notStarted => exact .inr (by simp)
  · exact ⟨hs.id, by simpa using hnone, fun hw ho =>
      Notice.eq_unseen hs.settled (hs.vigilant.owned hw ho), hs.row⟩

/-- A unit that is seen running is released, unless an operator has taken over before. -/
theorem watching_reconcileServiceInAuto (hs : Watchful profileId state s) :
    wp (watching profileId c) (WatchdogEngine.reconcileServiceInAuto profile state now events)
      (Post (fun draft => Watchful profileId draft.1) (RowVigilant profileId)) s := by
  refine wp_ite.2 ⟨fun _ => ?_, fun _ => hs⟩
  refine Post.bind (φ := fun draft : Draft => Watchful profileId draft.1)
    (wp_ite.2 ⟨fun hsome => by simp [hs.idle] at hsome, fun _ => hs⟩) ?_
  rintro ⟨state, events⟩ s hs
  have hs : Watchful profileId state s := hs
  refine wp_ite.2 ⟨fun _ => hs, fun _ => ?_⟩
  obtain ⟨db, h⟩ := s
  refine wp_bind.2 (run_isActive.2 ⟨trivial, fun code => ?_⟩)
  have hr : RowVigilant profileId (db, .did (.systemctl .isActive profile.serviceName) code :: h) :=
    hs.row.systemctl
  have hn : ∀ active, Noticed state now active
    (WatchdogEngine.noticeOperator state now events active).1 := fun _ => noticeOperator_noticed
  refine ⟨fun _ => ?_, fun hseen => ?_, fun _ => hr⟩
  · refine hr.released ((hn true).profileId.trans hs.id) ((hn true).pendingAction.trans hs.idle)
      (.inl ?_)
    simp [(hn true).stoppedByWatchdog]
  · refine ⟨(hn false).profileId.trans hs.id, (hn false).pendingAction.trans hs.idle,
      fun hw ho => notice_isActive_unseen (hs.owned ?_ ?_) (by simp [hseen]), hr⟩
    · simpa [(hn false).stoppedByWatchdog] using hw
    · rw [(hn false).manualOverride, Bool.or_eq_false_iff] at ho
      exact ho.1

theorem watching_countResult {result : ProbeResult} (hs : Watchful profileId state s) :
    wp (watching profileId c) (WatchdogEngine.countResult profile state result now events)
      (Post (fun draft => Watchful profileId draft.1) (RowVigilant profileId)) s := by
  refine wp_ite.2 ⟨fun _ => ?_, fun _ => ?_⟩
  · refine successfulCheck_outcomes (Φ := Watchful profileId state)
      (χ := fun state s => Watchful profileId state s) ?_ hs (fun _ hs => hs.row)
      (fun _ _ hs hsucc _ => hs.update hsucc.service) fun _ _ _ hs hsucc _ hdue =>
        watching_start (hs.update hsucc.service) hdue.2.2.2 hdue.2.2.1
    obtain ⟨db, h⟩ := s
    exact run_jitter.2 ⟨trivial, fun _ => ⟨hs.id, hs.idle, hs.owned, hs.row⟩⟩
  · exact failedCheck_outcomes (χ := fun state s => Watchful profileId state s)
      (fun _ hf => hs.update hf.service) fun _ _ hf _ _ _ _ _ _ =>
        watching_stop (hs.update hf.service)

/-- The end of a call: write the row and return it. -/
theorem Watchful.persistAndReturn (hs : Watchful profileId state s) :
    wp (watching profileId c)
      (do let _ ← persist state events; return state : Action ProfileState)
      (Post (fun _ => RowVigilant profileId) (RowVigilant profileId)) s :=
  Post.bind (Post.weaken (watching_persist hs) fun _ h => h.1) fun _ _ hs => hs.row

theorem watching_process {result : ProbeResult} {db : Database}
    (hid : profile.profileId = profileId) (hr : RowVigilant profileId (db, h))
    (hsettled : notice profileId h ≠ .seen) :
    wp (watching profileId c) (WatchdogEngine.process profile result now)
      (Post (fun _ => RowVigilant profileId) (RowVigilant profileId)) (db, h) := by
  subst hid
  refine wp_bind.2 (run_getState.2 ⟨trivial, Post.bind (watching_reconcileIfPending
    ⟨Database.getState_profileId, rfl, ?_, hsettled, hr⟩) ?_⟩)
  · refine Database.getState_of_rows (P := fun row => Vigilant row (notice profile.profileId h))
      ⟨by simp, by simp⟩ fun row hrow => ⟨(hr row hrow).owned, (hr row hrow).starting⟩
  rintro ⟨state, events⟩ s hs
  have hs : Watchful profile.profileId state s := hs
  refine wp_ite.2 ⟨fun _ => hs.row, fun _ => ?_⟩
  have hcheck : ∀ result, wp (watching profile.profileId c) (WatchdogEngine.check profile
      { state with lastCheckAt := some now } result now events)
      (Post (fun _ => RowVigilant profile.profileId) (RowVigilant profile.profileId)) s := by
    intro result
    have hs' : Watchful profile.profileId { state with
        lastCheckAt := some now
        checkStatus := .probed result.status
        lastProbeErrorCategory := none } s := hs.update rfl
    refine Post.bind (watching_reconcileServiceInAuto hs') ?_
    rintro ⟨state, events⟩ s hs
    refine Post.bind (watching_countResult hs) ?_
    rintro ⟨state, events⟩ s hs
    exact Watchful.persistAndReturn hs
  cases result with
  | probeError category =>
    have hs' : Watchful profile.profileId { state with
        lastCheckAt := some now
        checkStatus := .probed .probeError
        lastProbeErrorCategory := some category } s := hs.update rfl
    exact hs'.persistAndReturn
  | success => exact hcheck .success
  | unreachable => exact hcheck .unreachable

end Rules

/-! ## Runs -/

theorem autoProcessCalls_keeps : (autoProcessCalls profileId).Keeps
    (fun db h => RowVigilant profileId (db, h)) (Unnoted profileId)
    fun _ db h _ => RowVigilant profileId (db, h) where
  call := by
    rintro db h c hr hc
    cases c with
    | process profile result now =>
      have hforget : ∀ n : Notice, n.forget ≠ .seen := by intro n; cases n <;> simp [Notice.forget]
      have hbelow : ∀ n : Notice, n.forget.Below n := by
        intro n
        cases n <;> simp [Notice.forget, Notice.Below]
      have hr' : RowVigilant profileId (db, .called (.process profile result now) :: h) :=
        fun row hrow => (hr row hrow).below (hbelow _)
      refine wp_mono (watching_process hc.1 hr' (hforget _)) ?_
      rintro (e | state) s hs
      · exact hs
      · exact hs
    | reconcilePending | apply | startOwnedForModeChange | rearm => exact hc.elim
  finish := fun _ _ _ _ hr => hr
  alone := nofun
  cut := nofun
  cut_last := nofun

/-! ## Operators -/

@[simp] theorem Host.stop_db {host : Host} {actor : Actor} : (host.stop actor).db = host.db := by
  unfold Host.stop
  split <;> rfl

/-- The daemon does not see what operators do. -/
theorem operatedCalls_hides : (operatedCalls profileId).Hides (autoProcessCalls profileId) Host.db where
  body := rfl
  admits _ _ _ hc := hc
  answers := by
    intro c host h op a host' ha
    cases op with
    | getState | jitter =>
      obtain ⟨db, ha, rfl⟩ := ha
      exact ha
    | persist state events =>
      obtain ⟨db, ha, rfl⟩ := ha
      exact ha
    | systemctl verb serviceName =>
      cases verb with
      | isActive => exact congrArg Host.db ha.1
      | stop =>
        rcases ha with rfl | rfl
        · rfl
        · exact Host.stop_db
      | start =>
        rcases ha with rfl | rfl
        · rfl
        · rfl
  outside := by
    rintro host (_ | _) host' rfl
    · rfl
    · exact Host.stop_db
  kills := id

/-- **Operator stops.** In every run of the daemon and the operators, if an operator was the last to stop
the unit, and the daemon has noticed since its own last stop that the unit was running, then it does not
start the unit. -/
theorem operator_stop_respected {host₀ : Host} (hfresh : host₀.db.rows profileId = none)
    {cfg : (operatedCalls profileId).Config} (hr : (operatedCalls profileId).Reachable host₀ cfg)
    (hstopped : cfg.world.stoppedBy = some .operator ∧
      notice profileId (inner cfg.history) = .noted) {serviceName : String} :
    ¬ cfg.Issues c (.systemctl .start serviceName) := by
  intro hi
  have hvigilant : RowVigilant profileId (host₀.db, []) := by
    intro row hrow
    rw [show host₀.db.rows profileId = some row from hrow] at hfresh
    cases hfresh
  have hunseen := autoProcessCalls_keeps.issues hvigilant (operatedCalls_hides.reachable hr) hi
  exact hunseen hstopped.2

theorem hosted_answers {cs : List (Call × Nat)} : ∀ x ∈ hosted profileId cs, ∀ c host h op a host',
    x.2.1 c host h op = some (a, host') → (operatedCalls profileId).answers c host h op a host' := by
  intro x hx c host h op a host' ho
  obtain ⟨y, -, rfl⟩ := List.mem_map.1 hx
  have ho : host.environment op = some (a, host') := ho
  cases op with
  | getState => cases ho; exact ⟨_, ⟨rfl, rfl⟩, rfl⟩
  | persist state events =>
    rw [Host.environment] at ho
    split at ho
    · next hp => cases ho; exact ⟨_, hp, rfl⟩
    · cases ho
  | systemctl verb =>
    cases verb with
    | isActive =>
      cases ho
      refine ⟨rfl, fun h => ?_, fun h => ?_⟩
      · cases hrun : host.running <;> simp_all [truthful]
      · cases hrun : host.running <;> simp_all [truthful]
    | stop => cases ho; exact .inr rfl
    | start => cases ho; exact .inr rfl
  | jitter => cases ho; exact ⟨_, rfl, rfl⟩

theorem hosted_admits {cs : List (Call × Nat)} {cfg : (operatedCalls profileId).Config}
    (hc : ∀ x ∈ cs, x.1.isAutoProcess profileId) : cfg.Admits (hosted profileId cs) := by
  refine Config.admits_of_forall fun host h x hx => ?_
  obtain ⟨y, hy, rfl⟩ := List.mem_map.1 hx
  exact hc y hy

/-- The watchdog stops the unit, and an operator starts it again. -/
def restartedUnit : (operatedCalls "iran-1").Config :=
  operated .start ((operatedCalls "iran-1").script ⟨.empty, true, none⟩
    (hosted "iran-1" [(.process eagerProfile .unreachable 100, toTheEnd)]))

theorem reachable_restartedUnit :
    (operatedCalls "iran-1").Reachable ⟨.empty, true, none⟩ restartedUnit :=
  reachable_disturb (reachable_script (hosted_admits (by decide)) hosted_answers) rfl

/-- The daemon has noticed that the unit was started before the operator stops it. -/
theorem operator_stop_respected_restartedUnit : ¬ (operated .stop (Config.play
    (hosted "iran-1" [(.process eagerProfile .success 112, toTheEnd)]) restartedUnit)).Issues
      (.process eagerProfile .success 114) (.systemctl .start "gost-iran-1.service") :=
  operator_stop_respected rfl (reachable_disturb (reachable_play reachable_restartedUnit
    (hosted_admits (by decide)) hosted_answers) rfl) (by decide)

/-- Between two of its questions the daemon does not notice: the operator stops the unit again, and the
daemon starts it. -/
theorem not_operator_stop_respected : ¬ ∀ cfg,
    (operatedCalls "iran-1").Reachable ⟨.empty, true, none⟩ cfg →
    cfg.world.stoppedBy = some .operator → ∀ c serviceName,
      ¬ cfg.Issues c (.systemctl .start serviceName) := by
  intro h
  have hr : (operatedCalls "iran-1").Reachable ⟨.empty, true, none⟩ (Config.play
      (hosted "iran-1" [(.process eagerProfile .success 102, 4)]) (operated .stop restartedUnit)) :=
    reachable_play (reachable_disturb reachable_restartedUnit rfl) (hosted_admits (by decide))
      hosted_answers
  exact h _ hr (by decide) (.process eagerProfile .success 102)
    "gost-iran-1.service" ⟨_, rfl⟩

end Watchdog
