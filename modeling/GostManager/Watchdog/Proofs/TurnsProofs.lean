import GostManager.Effects.Proofs.MachineProofs
import GostManager.Watchdog.Proofs.OutcomesProofs
import GostManager.Watchdog.Proofs.OwnershipProofs
import GostManager.Watchdog.Proofs.RunsProofs
import GostManager.Watchdog.Proofs.StorageProofs

/-!
# Proofs: the daemon takes turns

The daemon in `auto` mode only does what its purpose allows: the row of a profile always agrees with
the phase that its marks have led to. So its intents alternate, none is carried out twice, and there
are none after a manual override.
-/

namespace Watchdog

open Effects Effects.Prog Effects.Machine

variable {profileId : String} {h : List RunEvent} {c : Call} {s : Database × List RunEvent}
variable {state state' : ProfileState} {action : PendingAction} {p : Phase}

/-! ## Rows and phases -/

/-- A row without intent agrees with a phase: unless an operator has taken over, the watchdog owns the
stop exactly if it is its turn to start, and then there is an outage. -/
structure Resting (profileId : String) (state : ProfileState) (p : Phase) : Prop where
  id : state.profileId = profileId
  idle : state.pendingAction = none
  acting : state.manualOverride = false → state.maintenance = false ∧ ∃ last spent,
    p = .acting last spent ∧ (state.stoppedByWatchdog = true ↔ turn last = .startWatchdog) ∧
    (state.stoppedByWatchdog = true → state.healthState = .down ∨ state.healthState = .recovering)

/-- The watchdog acts by itself, and the row shows whose turn it is. -/
structure Due (profileId : String) (state : ProfileState) (p : Phase) : Prop where
  id : state.profileId = profileId
  row : state.manualOverride = false ∧ state.maintenance = false
  turn : ∃ last spent, p = .acting last spent ∧
    (state.stoppedByWatchdog = true ↔ turn last = .startWatchdog)

/-- A row with an intent agrees with a phase: it is the last intent, and it is still to be carried
out. -/
structure Intending (profileId : String) (state : ProfileState) (action : PendingAction) (p : Phase) :
    Prop where
  id : state.profileId = profileId
  pending : state.pendingAction = some action
  phase : p = .acting (some action) false
  row : state.manualOverride = false ∧ state.maintenance = false
  kind : action = .stopWatchdog ∧ state.healthState = .down ∨ action = .startWatchdog

/-- A row agrees with a phase. -/
def Agrees (profileId : String) (state : ProfileState) (p : Phase) : Prop :=
  Resting profileId state p ∨ ∃ action, Intending profileId state action p

theorem Resting.due (hr : Resting profileId state p) (hs : state'.profileId = state.profileId ∧
    state'.pendingAction = state.pendingAction ∧ state'.maintenance = state.maintenance ∧
    state'.stoppedByWatchdog = state.stoppedByWatchdog ∧
    state'.manualOverride = state.manualOverride) (ho : state'.manualOverride = false) :
    Due profileId state' p := by
  obtain ⟨h1, -, h3, h4, h5⟩ := hs
  obtain ⟨hm, last, spent, hp, hturn, -⟩ := hr.acting (h5 ▸ ho)
  exact ⟨h1.trans hr.id, ⟨ho, h3.trans hm⟩, last, spent, hp, by rw [h4]; exact hturn⟩

/-- Only these fields of a row matter. -/
theorem Resting.update (hr : Resting profileId state p)
    (hs : state'.profileId = state.profileId ∧ state'.pendingAction = state.pendingAction ∧
      state'.maintenance = state.maintenance ∧ state'.stoppedByWatchdog = state.stoppedByWatchdog ∧
      state'.manualOverride = state.manualOverride)
    (hh : state'.manualOverride = false → state'.stoppedByWatchdog = true →
      state.healthState = .down ∨ state.healthState = .recovering →
      state'.healthState = .down ∨ state'.healthState = .recovering) :
    Resting profileId state' p := by
  obtain ⟨h1, h2, h3, h4, h5⟩ := hs
  refine ⟨h1.trans hr.id, h2.trans hr.idle, fun hmo => ?_⟩
  obtain ⟨hm, last, spent, hp, hturn, houtage⟩ := hr.acting (h5 ▸ hmo)
  exact ⟨h3.trans hm, last, spent, hp, by rw [h4]; exact hturn,
    fun hw => hh hmo hw (houtage (h4 ▸ hw))⟩

/-- What `_reconcile_service` finds does not change whose turn it is, or an operator takes over. -/
theorem Resting.noticed {active : Bool} {now : Int} (hr : Resting profileId state p)
    (hn : Noticed state now active state') : Resting profileId state' p := by
  have hh := hn.health
  simp only [ProfileState.healthRecord, Prod.mk.injEq] at hh
  refine ⟨hn.profileId.trans hr.id, hn.pendingAction.trans hr.idle, fun hmo => ?_⟩
  rw [hn.manualOverride, Bool.or_eq_false_iff] at hmo
  obtain ⟨hm, last, spent, hp, hturn, houtage⟩ := hr.acting hmo.1
  have hw : state'.stoppedByWatchdog = state.stoppedByWatchdog := by
    rw [hn.stoppedByWatchdog]
    cases hw : state.stoppedByWatchdog with
    | false => rfl
    | true =>
      have hactive : active = false := by simpa [hw] using hmo.2
      simp [hactive]
  exact ⟨hn.maintenance.trans hm, last, spent, hp, by rw [hw]; exact hturn,
    fun hw' => by rw [hh.1]; exact houtage (hw ▸ hw')⟩

/-! ## Marks -/

/-- The marks of the history are allowed. -/
def Allowed (profileId : String) (h : List RunEvent) : Prop := ∃ p, phase (marks profileId h) = some p

theorem marks_persist {events : List WatchdogEvent} (hid : state.profileId = profileId) :
    marks profileId (.did (.persist state events) (.ok ()) :: h) = state.marks ++ marks profileId h := by
  simp [marks, marksOf, hid]

/-- Writing a row without intent is allowed, and the row still agrees. -/
theorem Resting.persisted (hr : Resting profileId state p)
    (hp : phase (marks profileId h) = some p) : ∃ p', phase (state.marks ++ marks profileId h) = some p' ∧
      Resting profileId state p' := by
  cases hmo : state.manualOverride with
  | false => exact ⟨p, by simpa [ProfileState.marks, hr.idle, hmo] using hp, hr⟩
  | true =>
    refine ⟨.overridden, ?_, hr.id, hr.idle, fun hmo' => ?_⟩
    · simp [ProfileState.marks, hr.idle, hmo, phase, hp, Phase.next]
    · rw [hmo] at hmo'
      cases hmo'

/-! ## What a call keeps -/

/-- The history has led to a phase, and the row agrees with it. -/
structure At (profileId : String) (p : Phase) (s : Database × List RunEvent) : Prop where
  phase : Watchdog.phase (marks profileId s.2) = some p
  row : ∀ row, s.1.rows profileId = some row → Agrees profileId row p
  fresh : s.1.rows profileId = none → p = .acting none true

/-- The row agrees with the history. -/
def InTurn (profileId : String) (s : Database × List RunEvent) : Prop := ∃ p, At profileId p s

/-- So does a copy of the row without intent. -/
def Drafted (profileId : String) (state : ProfileState) (s : Database × List RunEvent) : Prop :=
  ∃ p, At profileId p s ∧ Resting profileId state p

/-- The intent `action` was the last thing seen, or the command for it was given since. -/
def Carrying (profileId : String) (action : PendingAction) (s : Database × List RunEvent) : Prop :=
  ∃ spent, phase (marks profileId s.2) = some (.acting (some action) spent)

/-- The contract of a call of `autoCalls`. -/
abbrev turning (profileId : String) (c : Call) : Contract Op Ans (Database × List RunEvent) :=
  (autoCalls profileId).contract (fun _ _ h _ => Allowed profileId h) c

section Rules

variable {profile : ManagedProfile} {events : List WatchdogEvent} {now : Int}
  {ψ : Database × List RunEvent → Prop}

theorem At.allowed (hs : At profileId p s) : Allowed profileId s.2 := ⟨p, hs.phase⟩

theorem Drafted.inTurn (hs : Drafted profileId state s) : InTurn profileId s :=
  let ⟨p, hp, _⟩ := hs
  ⟨p, hp⟩

/-- The history after a write in which the new row agrees with the new phase. -/
theorem at_persist {db db' : Database} (hid : state.profileId = profileId)
    (hdb : db.persist state events = .ok db')
    (hp : phase (state.marks ++ marks profileId h) = some p) (ha : Agrees profileId state p) :
    At profileId p (db', .did (.persist state events) (.ok ()) :: h) := by
  have hrow : db'.rows profileId = some state := hid ▸ Database.persist_row_self hdb
  refine ⟨(congrArg phase (marks_persist hid)).trans hp, fun row hr => ?_, fun hnone => ?_⟩
  · have hr : db'.rows profileId = some row := hr
    rw [hrow] at hr
    cases hr
    exact ha
  · have hnone : db'.rows profileId = none := hnone
    rw [hrow] at hnone
    cases hnone

/-- Writing a row without intent. -/
theorem turning_persist (hp : phase (marks profileId s.2) = some p)
    (hr : Resting profileId state p) :
    wp (turning profileId c) (persist state events)
      (Post (fun _ => Drafted profileId state) ψ) s := by
  obtain ⟨db, h⟩ := s
  refine run_persist.2 ⟨⟨p, hp⟩, fun db' hdb => ?_, nofun⟩
  obtain ⟨p', hp', hr'⟩ := hr.persisted hp
  exact ⟨p', at_persist hr.id hdb hp' (.inl hr'), hr'⟩

/-- It is the turn of a start exactly if the watchdog owns the stop. -/
theorem turn_of_owned {owned : Bool} {last : Option PendingAction}
    (h : owned = true ↔ turn last = .startWatchdog) :
    turn last = if owned then .startWatchdog else .stopWatchdog := by
  cases owned with
  | true => exact h.1 rfl
  | false =>
    have hne : turn last ≠ .startWatchdog := fun hturn => by cases h.2 hturn
    rcases last with _ | _ | _ | _ | _ | _ <;> first | rfl | exact absurd rfl hne

/-- Writing an intent whose turn it is. -/
theorem turning_intend (hp : At profileId p s) (hd : Due profileId state p)
    (hturn : action = if state.stoppedByWatchdog then .startWatchdog else .stopWatchdog)
    (hkind : action = .stopWatchdog ∧ state.healthState = .down ∨ action = .startWatchdog) :
    wp (turning profileId c) (persist (state.intend action now) events)
      (Post (fun _ => At profileId (.acting (some action) false)) ψ) s := by
  obtain ⟨db, h⟩ := s
  obtain ⟨hid, ⟨ho, hm⟩, last, spent, rfl, hiff⟩ := hd
  have hnext : action = turn last := hturn.trans (turn_of_owned hiff).symm
  refine run_persist.2 ⟨hp.allowed, fun db' hdb => ?_, nofun⟩
  refine at_persist (by simpa using hid) hdb ?_ (.inr ⟨action, by simpa using hid, by simp, rfl,
    by simpa using ⟨ho, hm⟩, by simpa using hkind⟩)
  have hmarks : (state.intend action now).marks = [.intent action] := by
    simp [ProfileState.marks, ho]
  have hphase : phase (marks profileId h) = some (.acting last spent) := hp.phase
  rw [hmarks, List.singleton_append, phase, hphase, Option.bind_some, Phase.next, if_pos hnext]

/-- An intent is open until it is commanded, and then it is spent. -/
def Spending (profileId : String) (action : PendingAction) : Stage → Database × List RunEvent → Prop
  | .fresh | .asked _ => At profileId (.acting (some action) false)
  | .commanded | .settled _ => Carrying profileId action

theorem At.carrying (hs : At profileId (.acting (some action) false) s) :
    Carrying profileId action s :=
  ⟨false, hs.phase⟩

/-- An intent is commanded once. -/
theorem turning_commanding (hid : profile.profileId = profileId) :
    Commanding (turning profileId c) profile.serviceName action.verb
      (Spending profileId action) where
  asks := fun _ hs => hs.allowed
  asked := by
    rintro ⟨db, h⟩ code s' hs ha
    exact contract_systemctl.1 ha ▸ ⟨hs.phase, hs.row, hs.fresh⟩
  commands := fun _ _ hs => hs.allowed
  commanded := by
    rintro seen ⟨db, h⟩ code s' hs ha
    refine contract_systemctl.1 ha ▸ ⟨true, ?_⟩
    have hs : At profileId (.acting (some action) false) (db, h) := hs
    have hphase : phase (marks profileId h) = some (.acting (some action) false) := hs.phase
    have hmarks : marks profileId (.did (.systemctl action.verb profile.serviceName) code :: h) =
        .command action.verb :: marks profileId h := by
      have hservice : profile.serviceName = unitOf profileId := hid ▸ profile.serviceName_eq
      cases hverb : action.verb with
      | isActive => cases action <;> simp [PendingAction.verb, PendingAction.isStop] at hverb
      | stop | start => simp [marks, marksOf, hservice]
    simp [hmarks, phase, hphase, Phase.next]
  verifies := fun _ ⟨_, hs⟩ => ⟨_, hs⟩
  verified := by
    rintro ⟨db, h⟩ code s' ⟨spent, hs⟩ ha
    exact contract_systemctl.1 ha ▸ ⟨spent, hs⟩
  failed := fun _ hs => hs

/-- The row that a finished intent leaves is without intent. -/
theorem Intending.reconciled (hi : Intending profileId state action p) {spent : Bool}
    {seen : Option Bool} (hr : Reconciled state action now seen state') :
    Resting profileId state' (.acting (some action) spent) := by
  have hh := hr.healthRecord
  simp only [ProfileState.healthRecord, Prod.mk.injEq] at hh
  refine ⟨hr.profileId.trans hi.id, hr.pendingAction, fun hmo => ?_⟩
  rcases hr.outcome with hmo' | ⟨hstop, hw, -, hm, -⟩ | ⟨hstart, hw, -, hm, -⟩
  · rw [hmo] at hmo'
    cases hmo'
  · rcases hi.kind with ⟨rfl, hdown⟩ | rfl
    · refine ⟨by rw [hm, hi.row.2]; rfl, _, _, rfl, by simp [hw, turn], fun _ => ?_⟩
      rw [hh.1, hdown]
      exact .inl rfl
    · cases hstop
  · rcases hi.kind with ⟨rfl, -⟩ | rfl
    · cases hstart
    · exact ⟨by rw [hm, hi.row.2]; rfl, _, _, rfl, by simp [hw, turn], by simp [hw]⟩

theorem turning_reconcileIfPending (hid : profile.profileId = profileId) (hs : At profileId p s)
    (ha : Agrees profileId state p) :
    wp (turning profileId c) (DurableServiceActions.reconcileIfPending profile state events now)
      (Post (fun draft => Drafted profileId draft.1) ψ) s := by
  rcases ha with hr | ⟨action, hi⟩
  · exact wp_ite.2 ⟨fun hsome => by simp [hr.idle] at hsome, fun _ => ⟨p, hs, hr⟩⟩
  · refine wp_ite.2 ⟨fun _ => ?_, fun hnone => by simp [hi.pending] at hnone⟩
    obtain rfl := hi.phase
    have hcommanding : Commanding (turning profileId c) profile.serviceName action.verb
        (Spending profileId action) := turning_commanding hid
    refine reconcilePending_outcomes (Φ := Spending profileId action) hi.pending
      (fun hstop => ?_) (fun hstart => ?_) (fun _ _ hs => hs.carrying) ?_ hs
    · rwa [show action.verb = .stop by simp [PendingAction.verb, hstop]] at hcommanding
    · rwa [show action.verb = .start by simp [PendingAction.verb, hstart]] at hcommanding
    · rintro _ state' events s ⟨spent, hp⟩ hr
      exact turning_persist hp (hi.reconciled hr)

theorem turning_stop (hid : profile.profileId = profileId) (hp : At profileId p s)
    (hd : Due profileId state p) (hw : state.stoppedByWatchdog = false)
    (hdown : state.healthState = .down) :
    wp (turning profileId c) (DurableServiceActions.stop profile state events now .watchdog)
      (Post (fun result => Drafted profileId result.2.1) (InTurn profileId)) s := by
  have hcommanding : Commanding (turning profileId c) profile.serviceName
      PendingAction.stopWatchdog.verb (Spending profileId .stopWatchdog) := turning_commanding hid
  refine stop_outcomes (turning_intend hp hd (by simp [hw]) (.inl ⟨rfl, hdown⟩))
    hcommanding (fun _ hs => ⟨_, hs⟩)
    (fun _ hs => hs.carrying) ?_ .never
    (fun _ _ hs => hs.elim) fun _ _ _ hs => hs.elim
  rintro _ state' events s ⟨spent, hp⟩ hstopped
  refine turning_persist hp ⟨hstopped.profileId.trans hd.id, hstopped.pendingAction, fun hmo => ?_⟩
  cases hstopped with
  | stopped =>
    exact ⟨by simpa using hd.row.2, _, _, rfl, by simp [turn], fun _ => .inl (by simpa using hdown)⟩
  | refused seen active => simp at hmo
  | compensated => simp at hmo

theorem turning_start (hid : profile.profileId = profileId) (hp : At profileId p s)
    (hd : Due profileId state p) (hw : state.stoppedByWatchdog = true) :
    wp (turning profileId c) (DurableServiceActions.start profile state events now .watchdog)
      (Post (fun result => Drafted profileId result.2.1) (InTurn profileId)) s := by
  have hcommanding : Commanding (turning profileId c) profile.serviceName
      PendingAction.startWatchdog.verb (Spending profileId .startWatchdog) := turning_commanding hid
  refine start_outcomes (turning_intend hp hd (by simp [hw]) (.inr rfl))
    hcommanding (fun _ hs => ⟨_, hs⟩)
    (fun _ hs => hs.carrying) ?_
  rintro _ state' events s ⟨spent, hp⟩ hstarted
  refine turning_persist hp ⟨hstarted.profileId.trans hd.id, hstarted.pendingAction, fun hmo => ?_⟩
  cases hstarted with
  | started active => exact ⟨by simpa using hd.row.2, _, _, rfl, by simp [turn], by simp⟩
  | refused seen active => simp at hmo

/-- Counting a result leaves the service record. -/
theorem serviceRecord_eq (h : state'.serviceRecord = state.serviceRecord) :
    state'.profileId = state.profileId ∧ state'.pendingAction = state.pendingAction ∧
    state'.maintenance = state.maintenance ∧ state'.stoppedByWatchdog = state.stoppedByWatchdog ∧
    state'.manualOverride = state.manualOverride := by
  simp only [ProfileState.serviceRecord, Prod.mk.injEq] at h
  obtain ⟨h1, h2, h3, -, h5, h6, -⟩ := h
  exact ⟨h1, h6, h2, h3, h5⟩

theorem turning_failedCheck (hid : profile.profileId = profileId) (hs : Drafted profileId state s) :
    wp (turning profileId c) (WatchdogEngine.failedCheck profile state now events)
      (Post (fun draft => Drafted profileId draft.1) (InTurn profileId)) s := by
  obtain ⟨p, hp, hr⟩ := hs
  refine failedCheck_outcomes (χ := fun state s => Drafted profileId state s)
    (fun state' hf => ⟨p, hp, ?_⟩) fun state' events hf hdown _ _ _ ho hnew => ?_
  · refine hr.update (serviceRecord_eq hf.service) fun _ _ houtage => ?_
    rcases hf.health with hdown | ⟨-, hdown, hrecovering⟩
    · exact .inl hdown
    · rcases houtage with hh | hh
      · exact absurd hh hdown
      · exact absurd hh hrecovering
  · have hservice := serviceRecord_eq hf.service
    refine turning_stop hid hp (hr.due hservice ho) ?_ hdown
    -- during an outage it owns the stop already, and does not stop the unit again
    cases hw : state'.stoppedByWatchdog with
    | false => rfl
    | true =>
      obtain ⟨hne, hne'⟩ := hnew hw
      obtain ⟨-, last, spent, -, -, houtage⟩ := hr.acting (hservice.2.2.2.2 ▸ ho)
      rcases houtage (hservice.2.2.2.1 ▸ hw) with hh | hh
      · exact absurd hh hne
      · exact absurd hh hne'

theorem turning_successfulCheck (hid : profile.profileId = profileId)
    (hauto : profile.config.mode = .auto) (hs : Drafted profileId state s) :
    wp (turning profileId c) (WatchdogEngine.successfulCheck profile state now events)
      (Post (fun draft => Drafted profileId draft.1) (InTurn profileId)) s := by
  obtain ⟨p, hp, hr⟩ := hs
  refine successfulCheck_outcomes (Φ := At profileId p)
    (χ := fun state s => Drafted profileId state s) ?_ hp (fun _ hs => ⟨p, hs⟩) ?_ ?_
  · obtain ⟨db, h⟩ := s
    exact run_jitter.2 ⟨hp.allowed, fun drawn => ⟨hp.phase, hp.row, hp.fresh⟩⟩
  · intro state' s hs hsucc hhealthy
    have hservice := serviceRecord_eq hsucc.service
    refine ⟨p, hs, hr.update hservice fun hmo hw houtage => ?_⟩
    rcases hsucc.health with hh | hh
    · -- at the end of an outage the unit is started, unless something forbids it
      have hm : state'.maintenance = false := (hr.due hservice hmo).row.2
      rcases hhealthy hh with hunknown | hdegraded | hdue
      · rw [hunknown] at houtage
        rcases houtage with houtage | houtage <;> cases houtage
      · rw [hdegraded] at houtage
        rcases houtage with houtage | houtage <;> cases houtage
      · exact absurd ⟨hauto, hm, hmo, hw⟩ hdue
    · exact .inr hh
  · intro state' events s hs hsucc _ hdue
    obtain ⟨-, -, hmo, hw⟩ := hdue
    exact turning_start hid hs (hr.due (serviceRecord_eq hsucc.service) hmo) hw

theorem turning_reconcileServiceInAuto (hid : profile.profileId = profileId)
    (hs : Drafted profileId state s) :
    wp (turning profileId c) (WatchdogEngine.reconcileServiceInAuto profile state now events)
      (Post (fun draft => Drafted profileId draft.1) (InTurn profileId)) s := by
  refine wp_ite.2 ⟨fun _ => ?_, fun _ => hs⟩
  obtain ⟨p, hp, hr⟩ := hs
  refine Post.bind (turning_reconcileIfPending hid hp (.inl hr)) ?_
  rintro ⟨state, events⟩ s ⟨p, hp, hr⟩
  have hr : Resting profileId state p := hr
  refine wp_ite.2 ⟨fun _ => ⟨p, hp, hr⟩, fun _ => ?_⟩
  obtain ⟨db, h⟩ := s
  refine Post.bind (φ := fun _ => At profileId p) (run_isActive.2 ⟨hp.allowed, fun code => ?_⟩)
    fun active s hs => ⟨p, hs, hr.noticed noticeOperator_noticed⟩
  have hp' : At profileId p (db, .did (.systemctl .isActive profile.serviceName) code :: h) :=
    ⟨hp.phase, hp.row, hp.fresh⟩
  exact ⟨fun _ => hp', fun _ => hp', fun _ => ⟨p, hp'⟩⟩

/-! ### The calls -/

/-- A call begins with a row that agrees with the history. -/
theorem turning_getState {α : Type} {f : ProfileState → Action α}
    {Q : Except Exn α → Database × List RunEvent → Prop} (hid : profile.profileId = profileId)
    (hs : InTurn profileId s)
    (hf : ∀ state s p, At profileId p s → Agrees profileId state p →
      wp (turning profileId c) (f state) Q s) :
    wp (turning profileId c) (getState profile >>= f) Q s := by
  obtain ⟨p, hp⟩ := hs
  obtain ⟨db, h⟩ := s
  refine wp_bind.2 (run_getState.2 ⟨hp.allowed, hf _ _ p ⟨hp.phase, hp.row, hp.fresh⟩ ?_⟩)
  subst hid
  cases hrow : db.rows profile.profileId with
  | none =>
    rw [hp.fresh hrow]
    refine .inl ⟨Database.getState_profileId, ?_, fun _ => ⟨?_, none, true, rfl, ?_, ?_⟩⟩ <;>
      simp [Database.getState, hrow, turn]
  | some row =>
    rw [Database.getState_of_row hrow]
    rcases hp.row row hrow with hr | ⟨action, hi⟩
    · exact .inl (hr.update ⟨rfl, rfl, rfl, rfl, rfl⟩ fun _ _ h => h)
    · exact .inr ⟨action, hi.id, hi.pending, hi.phase, hi.row, hi.kind⟩

/-- The end of a call: write the row and return it. -/
theorem Drafted.persistAndReturn (hs : Drafted profileId state s) :
    wp (turning profileId c)
      (do let _ ← persist state events; return state : Action ProfileState)
      (Post (fun _ => InTurn profileId) (InTurn profileId)) s := by
  obtain ⟨p, hp, hr⟩ := hs
  exact Post.bind (turning_persist hp.phase hr) fun _ _ hs => hs.inTurn

theorem turning_process {result : ProbeResult} (hid : profile.profileId = profileId)
    (hauto : profile.config.mode = .auto) (hs : InTurn profileId s) :
    wp (turning profileId c) (WatchdogEngine.process profile result now)
      (Post (fun _ => InTurn profileId) (InTurn profileId)) s := by
  refine turning_getState hid hs fun state s p hp ha =>
    Post.bind (turning_reconcileIfPending hid hp ha) ?_
  rintro ⟨state, events⟩ s ⟨p, hp, hr⟩
  have hr : Resting profileId state p := hr
  refine wp_ite.2 ⟨fun hdisabled => by simp [hauto] at hdisabled, fun _ => ?_⟩
  have hdraft : ∀ checkStatus category, Drafted profileId { state with
      lastCheckAt := some now
      checkStatus := checkStatus
      lastProbeErrorCategory := category } s :=
    fun _ _ => ⟨p, hp, hr.update ⟨rfl, rfl, rfl, rfl, rfl⟩ fun _ _ h => h⟩
  have hcheck : ∀ result, wp (turning profileId c) (WatchdogEngine.check profile
      { state with lastCheckAt := some now } result now events)
      (Post (fun _ => InTurn profileId) (InTurn profileId)) s := by
    intro result
    refine Post.bind (turning_reconcileServiceInAuto hid (hdraft _ _)) ?_
    rintro ⟨state, events⟩ s hs
    refine Post.bind (wp_ite.2 ⟨fun _ => turning_successfulCheck hid hauto hs,
      fun _ => turning_failedCheck hid hs⟩) ?_
    rintro ⟨state, events⟩ s hs
    exact Drafted.persistAndReturn hs
  cases result with
  | probeError category => exact (hdraft _ _).persistAndReturn
  | success => exact hcheck .success
  | unreachable => exact hcheck .unreachable

end Rules

/-! ## Runs -/

theorem autoCalls_keeps : (autoCalls profileId).Keeps (fun db h => InTurn profileId (db, h))
    (fun _ _ h _ => Allowed profileId h) fun _ db h _ => InTurn profileId (db, h) where
  call := by
    rintro db h c ⟨p, hp⟩ ⟨hid, hc⟩
    have hs : InTurn profileId (db, .called c :: h) := ⟨p, hp.phase, hp.row, hp.fresh⟩
    have hbody : wp (turning profileId c) c.body
        (Post (fun _ => InTurn profileId) (InTurn profileId)) (db, .called c :: h) := by
      cases c with
      | process profile result now => exact turning_process hid hc hs
      | reconcilePending profile now =>
        refine turning_getState hid hs fun state s p hp ha =>
          Post.bind (turning_reconcileIfPending hid hp ha) fun _ s hs => hs.inTurn
      | apply | startOwnedForModeChange | rearm => exact hc.elim
    refine wp_mono hbody ?_
    rintro (e | state) s hs
    · exact hs
    · exact hs
  finish := by
    rintro c db h r ⟨p, hp⟩
    exact ⟨p, hp.phase, hp.row, hp.fresh⟩
  alone := nofun
  cut := nofun
  cut_last := nofun

/-- **Turns.** In every run of the daemon in `auto` mode for a profile that has no row yet, the intents
are a stop, a start, a stop and so on; every command comes right after an intent that asks for it, so
an intent is carried out at most once; and no intent follows a manual override. -/
theorem daemon_takes_turns {db₀ : Database} (hfresh : db₀.rows profileId = none)
    {cfg : (autoCalls profileId).Config} (hr : (autoCalls profileId).Reachable db₀ cfg) :
    (intents (marks profileId cfg.history)).reverse =
      (List.range (intents (marks profileId cfg.history)).length).map turnAt ∧
    (∀ newer verb older, marks profileId cfg.history = newer ++ .command verb :: older →
      ∃ action older', older = .intent action :: older' ∧ verb = action.verb) ∧
    (∀ newer older, marks profileId cfg.history = newer ++ .overridden :: older →
      intents newer = []) := by
  have hfirst : InTurn profileId (db₀, []) := by
    refine ⟨.acting none true, rfl, fun row hrow => ?_, fun _ => rfl⟩
    rw [hfresh] at hrow
    cases hrow
  obtain ⟨p, hp⟩ : Allowed profileId cfg.history :=
    autoCalls_keeps.always (A := fun _ h => Allowed profileId h) (fun _ _ ⟨_, hp⟩ => hp.allowed)
      (fun _ _ _ _ hg => hg) (fun _ _ _ _ ⟨_, hp⟩ => hp.allowed) hfirst hr
  refine ⟨intents_take_turns hp, fun newer verb older hms => ?_, fun newer older hms => ?_⟩
  · rw [hms] at hp
    exact intent_of_command hp
  · rw [hms] at hp
    exact (intents_of_overridden hp).1

/-- A short outage: one stop and one start. -/
theorem daemon_takes_turns_shortOutage : ∃ cfg : (autoCalls "iran-1").Config,
    (intents (marks "iran-1" cfg.history)).reverse = [.stopWatchdog, .startWatchdog] := by
  have hr : (autoCalls "iran-1").Reachable .empty
      ((autoCalls "iran-1").script .empty (played (shortOutage toTheEnd))) :=
    reachable_played (by simp [shortOutage, Call.profile, eagerProfile, firstProfile])
  have hlen : (intents (marks "iran-1" ((autoCalls "iran-1").script .empty
      (played (shortOutage toTheEnd))).history)).length = 2 := by decide
  refine ⟨_, (daemon_takes_turns rfl hr).1.trans ?_⟩
  rw [hlen]
  rfl

end Watchdog
