import Mathlib.Algebra.BigOperators.Group.List.Basic
import Mathlib.Data.Int.Cast.Lemmas
import GostManager.Lists.Proofs.ExtremesProofs
import GostManager.Lists.Proofs.StepsProofs
import GostManager.Watchdog.History
import GostManager.Watchdog.Invariants
import GostManager.Watchdog.Proofs.CommandsProofs
import GostManager.Watchdog.Proofs.OutcomesProofs
import GostManager.Watchdog.Proofs.RunsProofs
import GostManager.Watchdog.Proofs.StorageProofs

/-!
# Proofs: the summary agrees with the history of outages

What the database holds about the outages of a profile is its *record*: the outages that its events
complete, the start of the present one, and the health. A call of `process` changes the record like one
step of a small state machine, pruning changes nothing of it within the window, and the summary reads it
back.
-/

namespace Watchdog

open Effects Effects.Prog

/-! ## Pruning -/

section Pruning

variable {db : Database} {events : List WatchdogEvent} {cutoff since now : Int} {batchSize maxBatches : Nat}

theorem of_mem_oldestIds {i : Nat} (h : i ∈ oldestIds batchSize cutoff events) :
    ∃ e, events[i]? = some e ∧ e.ts < cutoff := by
  obtain ⟨e, he, rfl⟩ := List.mem_map.1 h
  have hsorted := (List.mem_insertionSort _).1 (List.mem_of_mem_take he)
  obtain ⟨hmem, hold⟩ := List.mem_filter.1 hsorted
  exact ⟨e.1, List.mem_zipIdx_iff_getElem?.1 hmem, of_decide_eq_true hold⟩

/-- A `DELETE` leaves the events from its cutoff on. -/
theorem filter_deleteOldest (h : cutoff ≤ since) :
    (deleteOldest batchSize cutoff events).1.filter (fun e => since ≤ e.ts) =
      events.filter fun e => since ≤ e.ts := by
  have hkept : ∀ e ∈ events.zipIdx, since ≤ e.1.ts → e.2 ∉ oldestIds batchSize cutoff events := by
    intro e he hts hmem
    obtain ⟨e', he', hold⟩ := of_mem_oldestIds hmem
    rw [List.mem_zipIdx_iff_getElem?.1 he] at he'
    obtain rfl := Option.some.inj he'
    omega
  unfold deleteOldest
  generalize oldestIds batchSize cutoff events = ids at hkept
  calc
    _ = ((events.zipIdx.filter fun e => e.2 ∉ ids).filter fun e => since ≤ e.1.ts).map (·.1) :=
      List.filter_map
    _ = (events.zipIdx.filter fun e => since ≤ e.1.ts).map (·.1) := by
      rw [List.filter_filter]
      refine congrArg _ (List.filter_congr fun e he => ?_)
      have hkept := hkept e he
      by_cases hts : since ≤ e.1.ts
      · simp [hts, hkept hts]
      · simp [hts]
    _ = (events.zipIdx.map (·.1)).filter fun e => since ≤ e.ts := by
      rw [List.filter_map]
      rfl
    _ = events.filter fun e => since ≤ e.ts := by rw [List.zipIdx_map_fst]

/-- So does the loop. -/
theorem filter_deleteBatches (h : cutoff ≤ since) :
    (deleteBatches batchSize cutoff maxBatches events).1.filter (fun e => since ≤ e.ts) =
      events.filter fun e => since ≤ e.ts := by
  induction maxBatches generalizing events with
  | zero => rfl
  | succ maxBatches ih =>
    have hbatch : (deleteOldest batchSize cutoff events).1.filter (fun e => since ≤ e.ts) =
        events.filter fun e => since ≤ e.ts := filter_deleteOldest h
    simp only [deleteBatches]
    split
    · exact hbatch
    · exact ih.trans hbatch

/-- `prune_events` has no part in the rows, and leaves the events of the window. -/
theorem filter_pruneEvents (h : now - eventRetentionSeconds ≤ since) :
    (db.pruneEvents now).1.events.filter (fun e => since ≤ e.ts) =
      db.events.filter fun e => since ≤ e.ts := by
  unfold Database.pruneEvents
  exact filter_deleteBatches h

end Pruning

/-! ## Records -/

/-- What is on record about the outages of a profile. -/
structure OutageRecord where
  completed : List (Int × Int)
  startedAt : Option Int
  health : HealthState

/-- The outages of a profile that a list of events completes. -/
def completedBy (profileId : String) (events : List WatchdogEvent) : List (Int × Int) :=
  (events.filter fun e => e.profileId = some profileId).filterMap (·.outage)

/-- What the database has on record. -/
def Database.record (db : Database) (profileId : String) : OutageRecord where
  completed := completedBy profileId db.events
  startedAt := (db.rows profileId).bind (·.outageStartedAt)
  health := (db.rows profileId).elim .unknown (·.healthState)

/-- What it has on record once a draft is written. -/
def Database.recordAfter (db : Database) (profileId : String) (draft : Draft) : OutageRecord where
  completed := completedBy profileId (db.events ++ draft.2)
  startedAt := draft.1.outageStartedAt
  health := draft.1.healthState

namespace OutageRecord

/-- There is an outage exactly while the upstream is down or recovering. -/
def Sound (r : OutageRecord) : Prop :=
  r.startedAt.isSome = true ↔ r.health = .down ∨ r.health = .recovering

/-- What a call of `process` may do to a record. -/
inductive Next (now : Int) (r : OutageRecord) : OutageRecord → Prop where
  | same {health : HealthState} (h : Sound ⟨r.completed, r.startedAt, health⟩) :
      Next now r ⟨r.completed, r.startedAt, health⟩
  | begins (h : r.startedAt = none) : Next now r ⟨r.completed, some now, .down⟩
  | completes {startedAt : Int} (h : r.startedAt = some startedAt) :
      Next now r ⟨r.completed ++ [(now - max 0 (max 0 (now - startedAt)), now)], none, .healthy⟩

theorem Next.sound {now : Int} {r r' : OutageRecord} (h : Next now r r') : r'.Sound := by
  cases h with
  | same h => exact h
  | begins => simp [Sound]
  | completes => simp [Sound]

end OutageRecord

section Booking

variable {profileId : String} {events es : List WatchdogEvent} {db db' : Database} {now : Int}
  {state state' : ProfileState} {R R' : OutageRecord → Prop} {r : OutageRecord} {ψ : Database → Prop}

theorem completedBy_append : completedBy profileId (events ++ es) =
    completedBy profileId events ++ completedBy profileId es := by
  unfold completedBy
  rw [List.filter_append, List.filterMap_append]

theorem completedBy_of_none (h : ∀ e ∈ es, e.outage = none) : completedBy profileId es = [] := by
  refine List.filterMap_eq_nil_iff.2 fun e he => ?_
  exact h e (List.mem_filter.1 he).1

/-- Both the record of the database and the one after the draft is written are in `R`. -/
structure Booked (profileId : String) (R : OutageRecord → Prop) (draft : Draft) (db : Database) :
    Prop where
  id : draft.1.profileId = profileId
  stored : R (db.record profileId)
  drafted : R (db.recordAfter profileId draft)

namespace Booked

theorem weaken (h : Booked profileId R (state, events) db) (hR : ∀ r, R r → R' r) :
    Booked profileId R' (state, events) db := ⟨h.id, hR _ h.stored, hR _ h.drafted⟩

/-- The fields of a row that do not count results, and events that complete no outage. -/
theorem note (h : Booked profileId R (state, events) db) (hid : state'.profileId = state.profileId)
    (hh : state'.healthRecord = state.healthRecord) (he : ∀ e ∈ es, e.outage = none) :
    Booked profileId R (state', events ++ es) db := by
  simp only [ProfileState.healthRecord, Prod.mk.injEq] at hh
  refine ⟨hid.trans h.id, h.stored, ?_⟩
  have hsame : db.recordAfter profileId (state', events ++ es) =
      db.recordAfter profileId (state, events) := by
    unfold Database.recordAfter
    simp only [OutageRecord.mk.injEq]
    refine ⟨?_, hh.2.2.2.1, hh.1⟩
    rw [← List.append_assoc, completedBy_append, completedBy_of_none he, List.append_nil]
  rw [hsame]
  exact h.drafted

theorem noteEvent (h : Booked profileId R (state, events) db) {noted : ProfileState} {code : EventCode}
    {values : EventValues} (hid : state'.profileId = state.profileId)
    (hh : state'.healthRecord = state.healthRecord) (hc : code ≠ .watchdogUpstreamHealthy) :
    Booked profileId R (state', events ++ [event noted code now values]) db := by
  refine h.note hid hh fun e he => ?_
  obtain rfl := List.mem_singleton.1 he
  exact if_neg hc

theorem edit (h : Booked profileId R (state, events) db) (hid : state'.profileId = state.profileId)
    (hh : state'.healthRecord = state.healthRecord) : Booked profileId R (state', events) db := by
  have hnote : Booked profileId R (state', events ++ []) db := h.note hid hh (by simp)
  rwa [List.append_nil] at hnote

end Booked

/-! ## What a call does to the record -/

/-- The contract of a call whose writes succeed. -/
abbrev writing : Contract Op Ans Database := ⟨answers False, fun _ _ => True⟩

/-- The unit has no part in the database. -/
theorem writing_commanding {serviceName : String} {verb : Verb} {Φ : Database → Prop} :
    Commanding writing serviceName verb fun _ => Φ where
  asks _ _ := trivial
  asked _ _ _ hs ha := ha ▸ hs
  commands _ _ _ := trivial
  commanded _ _ _ _ hs ha := ha ▸ hs
  verifies _ _ := trivial
  verified _ _ _ hs ha := ha ▸ hs
  failed _ hs := hs

section Unit

open DurableServiceActions

variable {profile : ManagedProfile} {Φ : Database → Prop} {active : Bool}

theorem writing_queryActive (h : Φ db) :
    wp writing (queryActive profile.serviceName) (Post (fun _ => Φ) ψ) db :=
  (writing_commanding : Commanding writing _ .stop _).queryActive h

theorem writing_stopCommand (h : Φ db) :
    wp writing (orOnCommandError (SystemdController.stop profile.serviceName) false)
      (Post (fun _ => Φ) ψ) db :=
  Post.mono (@Commanding.stopCommand _ _ profile _ _ _ none writing_commanding h) fun _ _ ⟨_, h, _⟩ => h

theorem writing_stopIfActive (h : Φ db) :
    wp writing (stopIfActive profile.serviceName active) (Post (fun _ => Φ) ψ) db :=
  Post.mono (writing_commanding.stopIfActive (fun h => h) h) fun _ _ ⟨_, h, _⟩ => h

theorem writing_startIfInactive (h : Φ db) :
    wp writing (startIfInactive profile.serviceName active) (Post (fun _ => Φ) ψ) db :=
  Post.mono (writing_commanding.startIfInactive (fun h => h) h) fun _ _ ⟨_, h, _⟩ => h

end Unit

namespace Booked

variable {profile : ManagedProfile}

/-- The exceptions of a call leave a record in `R`. -/
abbrev Leaves {α : Type} (profileId : String) (R : OutageRecord → Prop)
    (φ : α → Database → Prop) : Except Exn α → Database → Prop :=
  Post φ fun db => R (db.record profileId)

theorem persist (h : Booked profileId R (state, events) db) :
    wp writing (persist state events)
      (Post (fun events db => Booked profileId R (state, events) db) ψ) db := by
  refine wp_persist.2 ⟨trivial, fun db' hp => ?_, fun e db' he => he.1.elim⟩
  have hp : db.persist state events = .ok db' := hp
  have hid : state.profileId = profileId := h.id
  have hrow : db'.rows profileId = some state := hid ▸ Database.persist_row_self hp
  have hevents : db'.events = db.events ++ events := Database.persist_events hp
  have hstored : db'.record profileId = db.recordAfter profileId (state, events) := by
    simp [Database.record, Database.recordAfter, hrow, hevents]
  have hdrafted : db'.recordAfter profileId (state, []) = db.recordAfter profileId (state, events) := by
    simp [Database.recordAfter, hevents]
  exact ⟨hid, hstored ▸ h.drafted, hdrafted ▸ h.drafted⟩

theorem persistDraft (h : Booked profileId R (state, events) db) :
    wp writing (do let events ← Watchdog.persist state events; return (state, events) : Action Draft)
      (Post (fun draft db => Booked profileId R draft db) ψ) db :=
  Post.bind h.persist fun _ _ h => h

theorem isActive (h : Booked profileId R (state, events) db) :
    wp writing (SystemdController.isActive profile.serviceName)
      (Leaves profileId R fun _ db => Booked profileId R (state, events) db) db :=
  (writing_commanding : Commanding writing _ .stop _).isActive (fun _ h => h.stored) h

open DurableServiceActions

theorem finalizePendingStop (h : Booked profileId R (state, events) db) {action : PendingAction} :
    Booked profileId R (finalizePendingStop action state events now) db := by
  unfold DurableServiceActions.finalizePendingStop
  split
  · exact h.noteEvent rfl rfl (by decide)
  · exact h.noteEvent rfl rfl (by decide)

theorem finalizePendingStart (h : Booked profileId R (state, events) db) {action : PendingAction} :
    Booked profileId R (finalizePendingStart action state events now) db := by
  unfold DurableServiceActions.finalizePendingStart
  split
  · exact h.noteEvent rfl rfl (by decide)
  · split
    · exact h.noteEvent rfl rfl (by decide)
    · exact h.noteEvent rfl rfl (by decide)

theorem settlePending {draft : Draft} (h : Booked profileId R draft db) :
    wp writing (settlePending draft) (Post (fun draft db => Booked profileId R draft db) ψ) db := by
  have hsettled : Booked profileId R (draft.1.clearPending, draft.2) db := h.edit rfl rfl
  exact hsettled.persistDraft

theorem abandonPending (h : Booked profileId R (state, events) db) {errorCategory : String}
    (hid : state'.profileId = state.profileId) (hh : state'.healthRecord = state.healthRecord) :
    wp writing (abandonPending state' events now errorCategory)
      (Post (fun draft db => Booked profileId R draft db) ψ) db := by
  have hrefused : Booked profileId R (failPending state' events now errorCategory) db :=
    h.noteEvent hid hh (by decide)
  exact hrefused.persistDraft

/-- `reconcile_pending` has no part in the outages. -/
theorem reconcilePending (h : Booked profileId R (state, events) db) :
    wp writing (reconcilePending profile state events now)
      (Leaves profileId R fun draft db => Booked profileId R draft db) db := by
  cases hp : state.pendingAction with
  | none => exact (wp_reconcilePending_none hp).2 h
  | some action =>
    refine (wp_reconcilePending hp).2 (Post.bind (writing_queryActive h) fun answer db h => ?_)
    rcases answer with _ | active
    · exact h.abandonPending rfl rfl
    · unfold resumePending
      have hobserved : Booked profileId R (state.observe active now, events) db := h.edit rfl rfl
      cases action.isStop with
      | true =>
        refine Post.bind (writing_stopIfActive hobserved) fun still db h => ?_
        cases still with
        | true => exact h.abandonPending rfl rfl
        | false => exact h.finalizePendingStop.settlePending
      | false =>
        refine Post.bind (writing_startIfInactive hobserved) fun started db h => ?_
        cases started with
        | true => exact h.finalizePendingStart.settlePending
        | false => exact h.abandonPending rfl rfl

theorem refuse (h : Booked profileId R (state, events) db) {code : EventCode} {values : EventValues}
    (hc : code ≠ .watchdogUpstreamHealthy) :
    wp writing (refuse state events now code values)
      (Post (fun result db => Booked profileId R result.2 db) ψ) db := by
  have hrefused : Booked profileId R
      (state.refuse, events ++ [event state.refuse code now values]) db := h.noteEvent rfl rfl hc
  exact Post.bind hrefused.persist fun _ _ h => h

/-- So has `stop`. -/
theorem stop (h : Booked profileId R (state, events) db) {owner : StopOwner} :
    wp writing (stop profile state events now owner)
      (Leaves profileId R fun result db => Booked profileId R result.2 db) db := by
  have hintent : Booked profileId R (state.intend owner.action now, events) db := h.edit rfl rfl
  refine Post.bind hintent.persist fun events db h => Post.bind h.isActive fun active db h => ?_
  have hobserved : Booked profileId R
      ((state.intend owner.action now).observe active now, events) db := h.edit rfl rfl
  cases active with
  | false => exact hobserved.refuse (by decide)
  | true =>
    refine Post.bind (writing_stopCommand hobserved) fun stopped db h => ?_
    cases stopped with
    | false => exact h.refuse (by decide)
    | true =>
      -- the write succeeds, so nothing is compensated
      refine Post.handle (χ := fun _ => False) (Post.bind (Booked.persist ?_) fun _ _ h => h) nofun
      split
      · exact h.noteEvent rfl rfl (by decide)
      · exact h.edit rfl rfl

/-- So has `start`. -/
theorem start (h : Booked profileId R (state, events) db) {owner : StartOwner} :
    wp writing (start profile state events now owner)
      (Leaves profileId R fun result db => Booked profileId R result.2 db) db := by
  have hintent : Booked profileId R (state.intend owner.action now, events) db := h.edit rfl rfl
  refine Post.bind hintent.persist fun events db h => Post.bind h.isActive fun active db h => ?_
  have hobserved : Booked profileId R
      ((state.intend owner.action now).observe active now, events) db := h.edit rfl rfl
  refine Post.bind (writing_startIfInactive hobserved) fun started db h => ?_
  cases started with
  | false => exact h.refuse (by decide)
  | true =>
    refine Post.bind (Post.handle (χ := fun _ => False) ?_ nofun) fun _ _ h => h
    cases owner with
    | watchdog => exact Booked.persist (h.noteEvent rfl rfl (by decide))
    | operator => exact Booked.persist (h.noteEvent rfl rfl (by decide))
    | maintenance => exact Booked.persist (h.edit rfl rfl)

theorem reconcileIfPending (h : Booked profileId R (state, events) db) :
    wp writing (reconcileIfPending profile state events now)
      (Leaves profileId R fun draft db => Booked profileId R draft db) db :=
  wp_ite.2 ⟨fun _ => h.reconcilePending, fun _ => h⟩

open WatchdogEngine

theorem noticeOperator (h : Booked profileId R (state, events) db) {active : Bool} :
    Booked profileId R (noticeOperator state now events active) db := by
  have hnoted : ∀ {state' : ProfileState} (result : ActionResult),
      state'.profileId = state.profileId → state'.healthRecord = state.healthRecord →
      Booked profileId R (state', if state.manualOverride then events
        else events ++ [event state .watchdogManualOverride now { actionResult := some result }]) db := by
    intro state' result hid hh
    split
    · exact h.edit hid hh
    · exact h.noteEvent hid hh (by decide)
  unfold WatchdogEngine.noticeOperator
  refine iteInduction (motive := fun draft => Booked profileId R draft db)
    (fun _ => hnoted _ rfl rfl) fun _ => ?_
  refine iteInduction (motive := fun draft => Booked profileId R draft db)
    (fun _ => hnoted _ rfl rfl) fun _ => h.edit rfl rfl

/-- Comparing the unit with what is owned has no part in the outages either. -/
theorem reconcileServiceInAuto (h : Booked profileId R (state, events) db) :
    wp writing (reconcileServiceInAuto profile state now events)
      (Leaves profileId R fun draft db => Booked profileId R draft db) db := by
  refine wp_ite.2 ⟨fun _ => Post.bind h.reconcileIfPending ?_, fun _ => h⟩
  rintro ⟨state, events⟩ db h
  refine wp_ite.2 ⟨fun _ => h, fun _ => ?_⟩
  exact Post.bind (Booked.isActive h) fun active db h => Booked.noticeOperator h

/-! ### Counting the result -/

/-- The draft before the result is counted: its record is the one that the call has found. -/
theorem found (h : Booked profileId (· = r) (state, events) db) :
    completedBy profileId (db.events ++ events) = r.completed ∧ state.outageStartedAt = r.startedAt ∧
      state.healthState = r.health := by
  have hdrafted : db.recordAfter profileId (state, events) = r := h.drafted
  subst hdrafted
  exact ⟨rfl, rfl, rfl⟩

theorem counted (h : Booked profileId (· = r) (state, events) db) (hsound : r.Sound)
    (hid : state'.profileId = state.profileId)
    (hnext : r.Next now
      ⟨r.completed ++ completedBy profileId es, state'.outageStartedAt, state'.healthState⟩) :
    Booked profileId (r.Next now) (state', events ++ es) db := by
  obtain ⟨hcompleted, -, -⟩ := h.found
  refine ⟨hid.trans h.id, ?_, ?_⟩
  · have hstored : db.record profileId = r := h.stored
    rw [hstored]
    exact .same hsound
  · have hrecord : db.recordAfter profileId (state', events ++ es) =
        ⟨r.completed ++ completedBy profileId es, state'.outageStartedAt, state'.healthState⟩ := by
      unfold Database.recordAfter
      rw [← List.append_assoc, completedBy_append, hcompleted]
    rw [hrecord]
    exact hnext

/-- A transition that completes no outage. -/
theorem transition (h : Booked profileId (· = r) (state, events) db) (hsound : r.Sound)
    (hid : state'.profileId = state.profileId) {newState : HealthState}
    {hne : newState ≠ .unknown} (hnext : r.Next now ⟨r.completed, state'.outageStartedAt, newState⟩) :
    Booked profileId (r.Next now) (transition state' newState hne now events) db := by
  simp only [WatchdogEngine.transition]
  split
  · next hsame =>
    have hnext' : r.Next now
        ⟨r.completed ++ completedBy profileId [], state'.outageStartedAt, state'.healthState⟩ := by
      rw [hsame, completedBy_of_none (by simp), List.append_nil]
      exact hnext
    have hcounted := h.counted hsound hid hnext'
    rwa [List.append_nil] at hcounted
  · refine h.counted hsound hid ?_
    rw [completedBy_of_none (by simp [event, WatchdogEvent.outage]), List.append_nil]
    exact hnext

/-- `down` is entered when there is an outage, or one begins. -/
theorem down (h : Booked profileId (· = r) (state, events) db) (hsound : r.Sound)
    (hid : state'.profileId = state.profileId) (hstarted : state'.outageStartedAt = r.startedAt ∧
      r.startedAt.isSome = true ∨ state'.outageStartedAt = r.startedAt.or (some now))
    {hne : HealthState.down ≠ .unknown} :
    Booked profileId (r.Next now) (WatchdogEngine.transition state' .down hne now events) db := by
  refine h.transition hsound hid ?_
  rcases hr : r.startedAt with _ | startedAt
  · have hnew : state'.outageStartedAt = some now := by simpa [hr] using hstarted
    rw [hnew]
    exact .begins hr
  · have hold : state'.outageStartedAt = r.startedAt := by simpa [hr] using hstarted
    rw [hold]
    exact .same (by simp [OutageRecord.Sound, hr])

/-- A change of the health without an outage. -/
theorem upright (h : Booked profileId (· = r) (state, events) db) (hsound : r.Sound)
    (hid : state'.profileId = state.profileId) (hstarted : state'.outageStartedAt = state.outageStartedAt)
    (hup : state.healthState ≠ .down ∧ state.healthState ≠ .recovering) {newState : HealthState}
    {hne : newState ≠ .unknown} (hnew : newState ≠ .down ∧ newState ≠ .recovering) :
    Booked profileId (r.Next now) (WatchdogEngine.transition state' newState hne now events) db := by
  obtain ⟨-, hrecord, hhealth⟩ := h.found
  have hnone : r.startedAt = none := by
    refine Option.not_isSome_iff_eq_none.1 fun hsome => ?_
    rcases hsound.1 hsome with hr | hr
    · exact hup.1 (hhealth.trans hr)
    · exact hup.2 (hhealth.trans hr)
  refine h.transition hsound hid ?_
  rw [hstarted, hrecord]
  exact .same (by simp [OutageRecord.Sound, hnone, hnew])

/-- The health and the outage are as they were found. -/
theorem unchanged (h : Booked profileId (· = r) (state, events) db) (hsound : r.Sound)
    (hid : state'.profileId = state.profileId) (hhealth : state'.healthState = state.healthState)
    (hstarted : state'.outageStartedAt = state.outageStartedAt) :
    Booked profileId (r.Next now) (state', events) db := by
  obtain ⟨-, hstarted', hhealth'⟩ := h.found
  have hsame : Booked profileId (r.Next now) (state', events ++ []) db := by
    refine h.counted hsound hid ?_
    rw [hstarted, hhealth, hstarted', hhealth', completedBy_of_none (by simp), List.append_nil]
    exact .same hsound
  rwa [List.append_nil] at hsame

/-- `_failed_check` begins an outage if there is none and the count has reached the threshold. -/
theorem failedCheck (h : Booked profileId (· = r) (state, events) db) (hsound : r.Sound) :
    wp writing (failedCheck profile state now events)
      (Leaves profileId (r.Next now) fun draft db => Booked profileId (r.Next now) draft db) db := by
  obtain ⟨-, hstarted, hhealth⟩ := h.found
  unfold WatchdogEngine.failedCheck
  refine wp_ite.2 ⟨fun hrec => ?_, fun hrec => wp_ite.2 ⟨fun _ => ?_, fun _ => wp_ite.2
    ⟨fun hfirst => ?_, fun _ => ?_⟩⟩⟩
  · have hrec : state.healthState = .recovering := hrec
    have hsome : r.startedAt.isSome = true := hsound.2 (.inr (hhealth ▸ hrec))
    show Booked profileId _ (WatchdogEngine.transition _ _ _ _ _) db
    exact h.down hsound (by rfl) (.inl ⟨by exact hstarted, hsome⟩)
  · refine wp_ite.2 ⟨fun _ => wp_ite.2 ⟨fun _ => ?_, fun _ => ?_⟩, fun _ => ?_⟩
    · show Booked profileId _ (WatchdogEngine.transition _ _ _ _ _) db
      exact h.down hsound (by rfl) (.inr (by rw [← hstarted]))
    · refine Post.bind (Booked.stop ?_) fun _ _ h => h
      show Booked profileId _ (WatchdogEngine.transition _ _ _ _ _) db
      exact h.down hsound (by rfl) (.inr (by rw [← hstarted]))
    · show Booked profileId _ (WatchdogEngine.transition _ _ _ _ _) db
      exact h.down hsound (by rfl) (.inr (by rw [← hstarted]))
  · have hfirst : state.healthState = .unknown ∨ state.healthState = .healthy := hfirst
    show Booked profileId _ (WatchdogEngine.transition _ _ _ _ _) db
    refine h.upright hsound (by rfl) (by rfl) ?_ (by decide)
    rcases hfirst with hfirst | hfirst <;> simp [hfirst]
  · show Booked profileId _ (_, _) db
    exact h.unchanged hsound (by rfl) (by rfl) (by rfl)

/-- `_start_after_recovery` has no part in the outages. -/
theorem startAfterRecovery (h : Booked profileId R (state, events) db) :
    wp writing (startAfterRecovery profile state now events)
      (Leaves profileId R fun draft db => Booked profileId R draft db) db :=
  wp_ite.2 ⟨fun _ => h, fun _ => Post.bind h.start fun _ _ h => h⟩

end Booked

/-- The draft of a call that has counted a success during the outage that it has found. -/
structure Recovering (profileId : String) (r : OutageRecord) (draft : Draft) (db : Database) :
    Prop where
  id : draft.1.profileId = profileId
  stored : db.record profileId = r
  completed : completedBy profileId (db.events ++ draft.2) = r.completed
  health : draft.1.healthState = .recovering
  row : draft.1.outageStartedAt = r.startedAt
  outage : r.startedAt.isSome = true

namespace Recovering

open WatchdogEngine

variable {profile : ManagedProfile}

theorem booked (h : Recovering profileId r (state, events) db) (hsound : r.Sound) :
    Booked profileId (r.Next now) (state, events) db := by
  have hhealth : state.healthState = .recovering := h.health
  have hrow : state.outageStartedAt = r.startedAt := h.row
  have hcompleted : completedBy profileId (db.events ++ events) = r.completed := h.completed
  refine ⟨h.id, ?_, ?_⟩
  · rw [h.stored]
    exact .same hsound
  · unfold Database.recordAfter
    rw [hcompleted, hrow, hhealth]
    exact .same (by simp [OutageRecord.Sound, h.outage])

/-- `_complete_recovery` completes the outage. -/
theorem completeRecovery (h : Recovering profileId r (state, events) db) (hsound : r.Sound) :
    wp writing (completeRecovery profile state now events)
      (Booked.Leaves profileId (r.Next now) fun draft db => Booked profileId (r.Next now) draft db) db := by
  have hid : state.profileId = profileId := h.id
  have hhealth : state.healthState = .recovering := h.health
  obtain ⟨startedAt, hr⟩ := Option.isSome_iff_exists.1 h.outage
  have hrow : state.outageStartedAt = some startedAt := h.row.trans hr
  have hcompleted : completedBy profileId (db.events ++ events) = r.completed := h.completed
  refine Booked.startAfterRecovery ⟨?_, ?_, ?_⟩
  · simpa [WatchdogEngine.transition, hhealth] using hid
  · rw [h.stored]
    exact .same hsound
  · have hrecord : ∀ state' : ProfileState, state'.outageStartedAt = none → state'.healthState = .healthy →
        db.recordAfter profileId (state', events ++ [event (state.enterHealth .healthy now)
          .watchdogUpstreamHealthy now
          { previousState := some (.health .recovering), newState := some (.health .healthy),
            outageDuration := some (max 0 (now - startedAt)) }]) =
        ⟨r.completed ++ [(now - max 0 (max 0 (now - startedAt)), now)], none, .healthy⟩ := by
      intro state' hnone hhealthy
      unfold Database.recordAfter
      rw [← List.append_assoc, completedBy_append, hcompleted, hnone, hhealthy]
      simp [completedBy, event, WatchdogEvent.outage, hid]
    have hcompletes : r.Next now _ := .completes hr
    simpa [WatchdogEngine.transition, hhealth, hrow, stateEvent, hrecord] using hcompletes

/-- What is counted besides the outage. -/
theorem edit (h : Recovering profileId r (state, events) db)
    (hid : state'.profileId = state.profileId) (hhealth : state'.healthState = state.healthState)
    (hrow : state'.outageStartedAt = state.outageStartedAt) :
    Recovering profileId r (state', events) db :=
  ⟨hid.trans h.id, h.stored, h.completed, hhealth.trans h.health, hrow.trans h.row, h.outage⟩

theorem continueRecovery (h : Recovering profileId r (state, events) db) (hsound : r.Sound) :
    wp writing (continueRecovery profile state now events)
      (Booked.Leaves profileId (r.Next now) fun draft db => Booked profileId (r.Next now) draft db) db := by
  refine wp_ite.2 ⟨fun _ => h.booked hsound, fun _ => Post.bind (φ := fun fixed : ProfileState × Int =>
    Recovering profileId r (fixed.1, events)) ?_ ?_⟩
  · unfold fixRecoveryReady
    split
    · exact h
    · refine ⟨trivial, fun jitter db' ha => wp_ite.2 ⟨fun _ => ?_, fun _ => ?_⟩⟩
      · have ha : db' = db := ha
        subst ha
        exact (h.booked hsound).stored
      · have ha : db' = db := ha
        subst ha
        exact h.edit rfl rfl rfl
  · rintro ⟨state, readyAt⟩ db h
    exact wp_ite.2 ⟨fun _ => completeRecovery h hsound, fun _ => booked h hsound⟩

end Recovering

namespace Booked

open WatchdogEngine

variable {profile : ManagedProfile}

/-- The first success after `down`. -/
theorem recovers (h : Booked profileId (· = r) (state, events) db)
    (hid : state'.profileId = state.profileId) (hdown : state'.healthState = .down)
    (hrow : state'.outageStartedAt = state.outageStartedAt) (hr : r.startedAt.isSome = true)
    {hne : HealthState.recovering ≠ .unknown} :
    Recovering profileId r (WatchdogEngine.transition state' .recovering hne now events) db := by
  obtain ⟨hcompleted, hstarted, -⟩ := h.found
  have hne : ¬ state'.healthState = .recovering := by simp [hdown]
  unfold WatchdogEngine.transition
  rw [if_neg hne]
  refine ⟨hid.trans h.id, h.stored, ?_, rfl, hrow.trans hstarted, hr⟩
  rw [← hcompleted, ← List.append_assoc, completedBy_append]
  simp [completedBy, event, WatchdogEvent.outage]

/-- `_successful_check` completes the outage, if there is one and its recovery is due. -/
theorem successfulCheck (h : Booked profileId (· = r) (state, events) db) (hsound : r.Sound) :
    wp writing (successfulCheck profile state now events)
      (Leaves profileId (r.Next now) fun draft db => Booked profileId (r.Next now) draft db) db := by
  obtain ⟨hcompleted, hstarted, hhealth⟩ := h.found
  have hid : state.profileId = profileId := h.id
  unfold WatchdogEngine.successfulCheck
  cases hstate : state.healthState with
  | unknown | degraded =>
    show Booked profileId _ (WatchdogEngine.transition _ _ _ _ _) db
    exact h.upright hsound (by rfl) (by rfl) (by simp [hstate]) (by decide)
  | healthy =>
    refine startAfterRecovery ?_
    exact h.unchanged hsound (by rfl) (by exact hstate.symm) (by rfl)
  | down =>
    have hr : r.startedAt.isSome = true := hsound.2 (.inl (hhealth ▸ hstate))
    have hrecovers : ∀ state' : ProfileState, state'.profileId = state.profileId →
        state'.healthState = .down → state'.outageStartedAt = state.outageStartedAt →
        wp writing (continueRecovery profile (WatchdogEngine.transition state' .recovering (by decide) now
            events).1 now (WatchdogEngine.transition state' .recovering (by decide) now events).2)
          (Leaves profileId (r.Next now) fun draft db => Booked profileId (r.Next now) draft db) db :=
      fun state' hid hdown hrow => (h.recovers hid hdown hrow hr).continueRecovery hsound
    exact hrecovers _ rfl rfl rfl
  | recovering =>
    have hr : r.startedAt.isSome = true := hsound.2 (.inr (hhealth ▸ hstate))
    refine Recovering.continueRecovery ?_ hsound
    exact ⟨hid, h.stored, hcompleted, rfl, hstarted, hr⟩

theorem check (h : Booked profileId (· = r) (state, events) db) (hsound : r.Sound) {result : ProbeResult} :
    wp writing (check profile state result now events) (Leaves profileId (r.Next now) fun _ db =>
      r.Next now (db.record profileId)) db := by
  have hchecked : Booked profileId (· = r)
      ({ state with checkStatus := .probed result.status, lastProbeErrorCategory := none },
        if state.checkStatus = .probed .probeError then
          events ++ [event state .watchdogProbeRecovered now
            { errorCategory := state.lastProbeErrorCategory }]
        else events) db := by
    split
    · exact h.noteEvent rfl rfl (by decide)
    · exact h.edit rfl rfl
  refine Post.bind (Post.weaken hchecked.reconcileServiceInAuto fun db h => ?_) ?_
  · rw [h]
    exact .same hsound
  · rintro ⟨state, events⟩ db h
    have hcount : wp writing (countResult profile state result now events)
        (Leaves profileId (r.Next now) fun draft db => Booked profileId (r.Next now) draft db) db :=
      wp_ite.2 ⟨fun _ => successfulCheck h hsound, fun _ => failedCheck h hsound⟩
    refine Post.bind hcount ?_
    rintro ⟨state, events⟩ db h
    exact Post.bind (persist h) fun _ _ h => h.stored

/-- A call of `process` changes the record by at most one step. -/
theorem process {result : ProbeResult} (hp : profile.profileId = profileId)
    (hsound : (db.record profileId).Sound) :
    wp writing (process profile result now)
      (Post (fun _ db' => (db.record profileId).Next now (db'.record profileId))
        fun db' => (db.record profileId).Next now (db'.record profileId)) db := by
  subst hp
  have hread : Booked profile.profileId (· = db.record profile.profileId)
      (db.getState profile.profileId profile.serviceName profile.kharejIp, []) db := by
    refine ⟨Database.getState_profileId, rfl, ?_⟩
    unfold Database.recordAfter Database.record Database.getState
    rw [List.append_nil]
    cases db.rows profile.profileId with
    | none => rfl
    | some state => rfl
  have hwritten : ∀ state events db', Booked profile.profileId ((db.record profile.profileId).Next now)
      (state, events) db' → wp writing
        (do let _ ← Watchdog.persist state events; return state : Action ProfileState)
        (Leaves profile.profileId ((db.record profile.profileId).Next now) fun _ db' =>
          (db.record profile.profileId).Next now (db'.record profile.profileId)) db' :=
    fun state events db' h => Post.bind h.persist fun _ _ h => h.stored
  refine Post.bind (φ := fun state db' => Booked profile.profileId (· = db.record profile.profileId)
    (state, []) db') (wp_getState.2 ⟨trivial, ?_⟩) fun state db' h => ?_
  · rintro state db' ⟨rfl, rfl⟩
    exact hread
  · refine Post.bind (Post.weaken h.reconcileIfPending fun db' h => ?_) ?_
    · rw [h]
      exact .same hsound
    · rintro ⟨state, events⟩ db' h
      refine wp_ite.2 ⟨fun _ => ?_, fun _ => ?_⟩
      · exact (Booked.unchanged h hsound rfl rfl rfl).stored
      · have hchecked : Booked profile.profileId (· = db.record profile.profileId)
            ({ state with lastCheckAt := some now }, events) db' := Booked.edit h rfl rfl
        cases result with
        | success => exact hchecked.check hsound
        | unreachable => exact hchecked.check hsound
        | probeError category =>
          have hnext : Booked profile.profileId ((db.record profile.profileId).Next now)
              ({ state with lastCheckAt := some now }, events) db' := by
            refine hchecked.weaken ?_
            rintro _ rfl
            exact .same hsound
          refine hwritten _ _ db' ?_
          split
          · exact hnext.noteEvent (by rfl) (by rfl) (by decide)
          · exact hnext.edit (by rfl) (by rfl)

end Booked

end Booking

/-! ## Runs -/

section Runs

variable {profileId : String} {watch watch' : Watch} {events : List WatchdogEvent} {db db₀ : Database}
  {since now clock : Int}

/-- A record agrees with a history at a time. The outages come one after the other, and nothing of the
window is pruned. -/
structure OutageRecord.Agrees (r : OutageRecord) (clock : Int) (history : OutageHistory) : Prop where
  sound : r.Sound
  startedAt : r.startedAt = history.startedAt
  completed : ∀ since, clock - eventRetentionSeconds ≤ since →
    r.completed.filter (fun o => since ≤ o.2) = history.completed.filter fun o => since ≤ o.2
  ordered : history.completed.Pairwise fun o o' => o.2 ≤ o'.1
  past : ∀ o ∈ history.completed, o.1 ≤ o.2 ∧ o.2 ≤ clock
  present : ∀ startedAt, history.startedAt = some startedAt →
    startedAt ≤ clock ∧ ∀ o ∈ history.completed, o.2 ≤ startedAt

/-- The end of an outage is the time of its event. -/
theorem filter_completedBy : (completedBy profileId events).filter (fun o => since ≤ o.2) =
    completedBy profileId (events.filter fun e => since ≤ e.ts) := by
  unfold completedBy
  rw [List.filter_filterMap, List.filter_filter, List.filterMap_filter, List.filterMap_filter]
  refine List.filterMap_congr fun e _ => ?_
  by_cases hp : e.profileId = some profileId <;> by_cases hc : e.code = .watchdogUpstreamHealthy <;>
    cases hd : e.outageDuration <;> by_cases hs : since ≤ e.ts <;>
    simp [WatchdogEvent.outage, hp, hc, hd, hs]
  omega

/-- Look at a record instead of a row. -/
def OutageHistory.after (history : OutageHistory) (now : Int) (r : OutageRecord) : OutageHistory :=
  match history.startedAt with
  | none => { history with startedAt := r.startedAt }
  | some startedAt =>
    if r.health = .healthy then
      { completed := history.completed ++ [(startedAt, now)], startedAt := none }
    else history

theorem observe_rows {history : OutageHistory} :
    history.observe now (db.rows profileId) = history.after now (db.record profileId) := by
  have hhealthy : (db.rows profileId).any (·.healthState == .healthy) =
      ((db.record profileId).health == .healthy) := by
    unfold Database.record
    cases db.rows profileId <;> rfl
  unfold OutageHistory.observe OutageHistory.after
  simp only [hhealthy, beq_iff_eq]
  rfl

theorem after_same {history : OutageHistory} {r : OutageRecord} (hsound : r.Sound)
    (hstarted : r.startedAt = history.startedAt) : history.after now r = history := by
  unfold OutageHistory.after
  cases hs : history.startedAt with
  | none =>
    rw [hstarted, hs]
    cases history
    cases hs
    rfl
  | some startedAt =>
    have hsome : r.startedAt.isSome = true := by rw [hstarted, hs]; rfl
    have hsick : r.health ≠ .healthy := by
      rcases hsound.1 hsome with hr | hr <;> simp [hr]
    exact if_neg hsick

/-- One call keeps the agreement. -/
theorem OutageRecord.Agrees.next {history : OutageHistory} {r r' : OutageRecord}
    (h : r.Agrees clock history) (hclock : clock ≤ now) (hnext : r.Next now r') :
    r'.Agrees now (history.after now r') := by
  have hsound := hnext.sound
  have hpast : ∀ o ∈ history.completed, o.1 ≤ o.2 ∧ o.2 ≤ now :=
    fun o ho => ⟨(h.past o ho).1, (h.past o ho).2.trans hclock⟩
  have hcompleted : ∀ since, now - eventRetentionSeconds ≤ since →
      r.completed.filter (fun o => since ≤ o.2) = history.completed.filter fun o => since ≤ o.2 :=
    fun since hsince => h.completed since (by omega)
  cases hnext with
  | same hs =>
    rw [after_same hs h.startedAt]
    exact ⟨hs, h.startedAt, hcompleted, h.ordered, hpast, fun startedAt hstarted =>
      ⟨(h.present startedAt hstarted).1.trans hclock, (h.present startedAt hstarted).2⟩⟩
  | begins hnone =>
    have hafter : history.after now ⟨r.completed, some now, .down⟩ =
        { history with startedAt := some now } := by
      unfold OutageHistory.after
      rw [← h.startedAt, hnone]
    rw [hafter]
    refine ⟨hsound, rfl, hcompleted, h.ordered, hpast, ?_⟩
    rintro _ ⟨⟩
    exact ⟨le_rfl, fun o ho => (hpast o ho).2⟩
  | @completes startedAt hsome =>
    have hstarted : history.startedAt = some startedAt := h.startedAt ▸ hsome
    obtain ⟨hle, hlast⟩ := h.present startedAt hstarted
    -- the event gives the start of the outage
    have hstart : now - max 0 (max 0 (now - startedAt)) = startedAt := by omega
    have hafter : history.after now
        ⟨r.completed ++ [(now - max 0 (max 0 (now - startedAt)), now)], none, .healthy⟩ =
        { completed := history.completed ++ [(startedAt, now)], startedAt := none } := by
      unfold OutageHistory.after
      rw [hstarted]
      rfl
    rw [hafter]
    refine ⟨hsound, rfl, fun since hsince => ?_, ?_, ?_, nofun⟩
    · rw [hstart, List.filter_append, List.filter_append, hcompleted since hsince]
    · refine List.pairwise_append.2 ⟨h.ordered, List.pairwise_singleton _ _, ?_⟩
      rintro o ho _ hmem
      obtain rfl := List.mem_singleton.1 hmem
      exact hlast o ho
    · intro o ho
      rcases List.mem_append.1 ho with ho | ho
      · exact hpast o ho
      · obtain rfl := List.mem_singleton.1 ho
        exact ⟨hle.trans hclock, le_rfl⟩

/-- So does pruning. -/
theorem OutageRecord.Agrees.prune {history : OutageHistory}
    (h : (db.record profileId).Agrees clock history) (hclock : clock ≤ now) :
    ((db.pruneEvents now).1.record profileId).Agrees now history := by
  refine ⟨h.sound, h.startedAt, fun since hsince => ?_, h.ordered,
    fun o ho => ⟨(h.past o ho).1, (h.past o ho).2.trans hclock⟩, fun startedAt hstarted =>
      ⟨(h.present startedAt hstarted).1.trans hclock, (h.present startedAt hstarted).2⟩⟩
  calc (completedBy profileId (db.pruneEvents now).1.events).filter (fun o => since ≤ o.2)
      = completedBy profileId ((db.pruneEvents now).1.events.filter fun e => since ≤ e.ts) :=
        filter_completedBy
    _ = completedBy profileId (db.events.filter fun e => since ≤ e.ts) := by
        rw [filter_pruneEvents hsince]
    _ = (completedBy profileId db.events).filter (fun o => since ≤ o.2) := filter_completedBy.symm
    _ = history.completed.filter fun o => since ≤ o.2 := h.completed since (by omega)

theorem Watch.Step.agrees (hs : Watch.Step profileId watch watch')
    (h : (watch.db.record profileId).Agrees watch.clock watch.history) :
    (watch'.db.record profileId).Agrees watch'.clock watch'.history := by
  cases hs with
  | @process db' profile result now r hp hclock hsteps =>
    have hwp : wp writing (WatchdogEngine.process profile result now) _ watch.db :=
      Booked.process hp h.sound
    have hnext : (watch.db.record profileId).Next now (db'.record profileId) := by
      have hdone := wp_done.1 (wp_steps hsteps hwp)
      cases r with
      | ok state => exact hdone
      | error e => exact hdone
    rw [observe_rows]
    exact h.next hclock hnext
  | prune hclock => exact h.prune hclock

/-- The agreement holds along every run. -/
theorem agrees_of_run (hunseen : db₀.Unseen profileId)
    (hrun : Relation.ReflTransGen (Watch.Step profileId) { db := db₀, clock } watch) :
    (watch.db.record profileId).Agrees watch.clock watch.history := by
  induction hrun with
  | refl =>
    have hrecord : db₀.record profileId = ⟨[], none, .unknown⟩ := by
      have hempty : completedBy profileId db₀.events = [] := by
        unfold completedBy
        rw [List.filter_eq_nil_iff.2, List.filterMap_nil]
        simpa using hunseen.events
      unfold Database.record
      rw [hempty, hunseen.row]
      rfl
    show (db₀.record profileId).Agrees clock {}
    rw [hrecord]
    exact ⟨by simp [OutageRecord.Sound], rfl, fun _ _ => rfl, .nil, nofun, nofun⟩
  | tail _ hs ih => exact hs.agrees ih

end Runs

/-! ## The summary -/

section Summary

variable {profileId : String} {db : Database} {clock now : Int} {history : OutageHistory}
  {outage : Outage}

/-- An outage up to `now`. -/
def Outage.upTo (outage : Outage) (now : Int) : Int × Int :=
  (outage.startedAt, outage.completedAt.getD now)

theorem secondsOf_covers : secondsOf now outage.covers =
    (min now (outage.upTo now).2 - max (now - eventRetentionSeconds) (outage.upTo now).1).toNat := by
  refine Lists.countP_range_between fun t hstart hstop => ?_
  unfold Outage.covers Outage.upTo
  cases outage.completedAt with
  | none => simp [hstop]
  | some completedAt => simp

theorem secondsOf_le {p : Int → Bool} : (secondsOf now p : Int) ≤ eventRetentionSeconds := by
  have hle : secondsOf now p ≤ (window now).length := List.countP_le_length
  unfold window at hle
  rw [Lists.length_range] at hle
  unfold eventRetentionSeconds at hle ⊢
  omega

/-- The seconds of an outage, if there are any. -/
def Outage.duration (now : Int) (outage : Outage) : Option Int :=
  if 0 < secondsOf now outage.covers then some (secondsOf now outage.covers : Int) else none

theorem clip_upTo : (clip (now - eventRetentionSeconds) now (outage.upTo now)).map
    (fun o => max 0 (o.2 - o.1)) = outage.duration now := by
  unfold clip Outage.duration
  rw [secondsOf_covers]
  split
  · rw [if_pos (by omega), Option.map_some]
    congr 1
    omega
  · rw [if_neg (by omega), Option.map_none]

/-- Reading the events of the window, in their order, reads the outages that ended in it. -/
theorem eventsSince_perm (h : (db.record profileId).Agrees clock history) (hnow : clock ≤ now) :
    ((db.eventsSince profileId (now - eventRetentionSeconds)).filterMap (·.outage)).Perm
      (history.completed.filter fun o => now - eventRetentionSeconds ≤ o.2) := by
  have hsorted : (db.eventsSince profileId (now - eventRetentionSeconds)).Perm
      ((db.events.filter fun e => now - eventRetentionSeconds ≤ e.ts).filter
        fun e => e.profileId = some profileId) := by
    unfold Database.eventsSince
    simp only [List.filter_filter, Bool.decide_and]
    exact List.perm_insertionSort _ _
  have hcompleted := h.completed (now - eventRetentionSeconds) (by omega)
  rw [← hcompleted]
  exact (hsorted.filterMap _).trans (.of_eq filter_completedBy.symm)

/-- The outages of the summary are those of the history, apart from the empty ones and their order. -/
theorem durations_perm (h : (db.record profileId).Agrees clock history) (hnow : clock ≤ now) :
    ((db.outages now profileId).map fun o => max 0 (o.2 - o.1)).Perm
      (history.outages.filterMap (Outage.duration now)) := by
  have hongoing : ((db.rows profileId).bind fun state =>
      state.outageStartedAt.map fun startedAt => (startedAt, now)) =
        history.startedAt.map fun startedAt => (startedAt, now) := by
    rw [← h.startedAt]
    unfold Database.record
    cases db.rows profileId <;> rfl
  -- an outage that ended before the window has no part in it
  have hearly : (history.completed.filter fun o => now - eventRetentionSeconds ≤ o.2).filterMap
      (clip (now - eventRetentionSeconds) now) =
        history.completed.filterMap (clip (now - eventRetentionSeconds) now) := by
    rw [List.filterMap_filter]
    refine List.filterMap_congr fun o _ => ?_
    by_cases ho : now - eventRetentionSeconds ≤ o.2
    · simp [ho]
    · have hempty : ¬ max (now - eventRetentionSeconds) o.1 < min now o.2 := by omega
      simp [ho, clip, hempty]
  have hoverall : (db.outages now profileId).Perm ((history.outages.map (·.upTo now)).filterMap
      (clip (now - eventRetentionSeconds) now)) := by
    have houtages : history.outages.map (·.upTo now) =
        history.completed ++ (history.startedAt.map fun startedAt => (startedAt, now)).toList := by
      unfold OutageHistory.outages
      rw [List.map_append, List.map_map]
      cases history.startedAt <;> simp [Outage.upTo, Function.comp_def]
    unfold Database.outages
    rw [houtages, hongoing, List.filterMap_append, List.filterMap_append, ← hearly]
    exact ((eventsSince_perm h hnow).filterMap _).append_right _
  refine (hoverall.map _).trans (.of_eq ?_)
  rw [List.filterMap_map, List.map_filterMap]
  exact List.filterMap_congr fun outage _ => clip_upTo

/-- At most one outage covers a second. -/
theorem outages_disjoint (h : (db.record profileId).Agrees clock history) (now : Int) :
    (history.outages.map Outage.covers).Pairwise fun p q => ∀ t ∈ window now, p t = true → q t = false := by
  rw [List.pairwise_map]
  refine List.pairwise_append.2 ⟨?_, ?_, ?_⟩
  · rw [List.pairwise_map]
    refine h.ordered.imp fun hle t _ ht => ?_
    simp only [Outage.covers, Option.all_some, Bool.and_eq_true, decide_eq_true_eq] at ht
    simp only [Outage.covers, Bool.and_eq_false_iff, decide_eq_false_iff_not]
    exact .inl (by omega)
  · cases history.startedAt <;> simp
  · intro o ho o' ho' t _ ht
    obtain ⟨completed, hmem, rfl⟩ := List.mem_map.1 ho
    obtain ⟨startedAt, hstarted, rfl⟩ := Option.map_eq_some_iff.1 (Option.mem_toList.1 ho')
    have hle := (h.present startedAt hstarted).2 completed hmem
    simp only [Outage.covers, Option.all_some, Bool.and_eq_true, decide_eq_true_eq] at ht
    simp only [Outage.covers, Bool.and_eq_false_iff, decide_eq_false_iff_not]
    exact .inl (by omega)

/-- The seconds of all outages together. -/
theorem sum_durations (outages : List Outage) : (outages.filterMap (Outage.duration now)).sum =
    ((outages.map fun outage => secondsOf now outage.covers).sum : Nat) := by
  induction outages with
  | nil => rfl
  | cons outage outages ih =>
    rw [List.map_cons, List.sum_cons, Nat.cast_add, ← ih]
    by_cases hpos : 0 < secondsOf now outage.covers
    · have hsome : outage.duration now = some (secondsOf now outage.covers : Int) := if_pos hpos
      rw [List.filterMap_cons_some hsome, List.sum_cons]
    · have hnone : outage.duration now = none := if_neg hpos
      have hzero : secondsOf now outage.covers = 0 := by omega
      rw [List.filterMap_cons_none hnone, hzero, Nat.cast_zero, zero_add]

theorem length_durations (outages : List Outage) :
    (outages.filterMap (Outage.duration now)).length =
      outages.countP fun outage => (window now).any outage.covers := by
  rw [List.length_filterMap_eq_countP]
  refine List.countP_congr fun outage _ => ?_
  have hany : (window now).any outage.covers = true ↔ 0 < secondsOf now outage.covers := by
    unfold secondsOf
    rw [List.any_eq_true, List.countP_pos_iff]
  rw [hany]
  unfold Outage.duration
  split
  · simpa
  · next hzero => simpa using hzero

theorem mem_durations {outages : List Outage} {d : Int} :
    d ∈ outages.filterMap (Outage.duration now) ↔
      0 < d ∧ ∃ outage ∈ outages, (secondsOf now outage.covers : Int) = d := by
  rw [List.mem_filterMap]
  constructor
  · rintro ⟨outage, hmem, hd⟩
    unfold Outage.duration at hd
    split at hd
    · next hpos =>
      cases hd
      exact ⟨by omega, outage, hmem, rfl⟩
    · cases hd
  · rintro ⟨hpos, outage, hmem, rfl⟩
    exact ⟨outage, hmem, if_pos (by omega)⟩

/-- The longest one. -/
theorem max_durations (outages : List Outage) : (outages.filterMap (Outage.duration now)).max?.getD 0 =
    ((outages.map fun outage => secondsOf now outage.covers).max?.getD 0 : Nat) := by
  generalize hmax : (outages.map fun outage => secondsOf now outage.covers).max?.getD 0 = longest
  obtain ⟨hmem, -, hle⟩ := (Lists.getD_max?_eq_iff fun _ _ => Nat.zero_le _).1 hmax
  refine (Lists.getD_max?_eq_iff fun d hd => (mem_durations.1 hd).1.le).2 ⟨?_, by omega, fun d hd => ?_⟩
  · by_cases hzero : longest = 0
    · exact .inr (by omega)
    · obtain ⟨outage, houtage, hlongest⟩ := List.mem_map.1 (hmem.resolve_right hzero)
      exact .inl (mem_durations.2 ⟨by omega, outage, houtage, by omega⟩)
  · obtain ⟨-, outage, houtage, rfl⟩ := mem_durations.1 hd
    exact Int.ofNat_le.2 (hle _ (List.mem_map.2 ⟨outage, houtage, rfl⟩))

/-- The summary of a profile after any calls of `process` and `prune_events`, with a clock that does not
go back: the downtime is the number of seconds of the window in which there was an outage, the longest
outage is the longest within the window, and the outages counted are those with a second in it. -/
theorem summary_eq {db₀ : Database} {watch : Watch} (hunseen : db₀.Unseen profileId)
    (hrun : Relation.ReflTransGen (Watch.Step profileId) { db := db₀, clock } watch)
    (hnow : watch.clock ≤ now) :
    (watch.db.summary now profileId).totalDowntimeSeconds =
      secondsOf now (fun t => watch.history.outages.any (·.covers t)) ∧
    (watch.db.summary now profileId).longestOutageSeconds =
      ((watch.history.outages.map fun outage => secondsOf now outage.covers).max?.getD 0 : Nat) ∧
    (watch.db.summary now profileId).outageCount =
      watch.history.outages.countP fun outage => (window now).any outage.covers := by
  have hagrees := agrees_of_run hunseen hrun
  have hperm := durations_perm hagrees hnow
  have htotal : secondsOf now (fun t => watch.history.outages.any (·.covers t)) =
      (watch.history.outages.map fun outage => secondsOf now outage.covers).sum := by
    have hcount := Lists.countP_any_of_disjoint (outages_disjoint hagrees now)
    simp only [List.any_map, List.map_map] at hcount
    exact hcount
  refine ⟨?_, ?_, ?_⟩
  · show min eventRetentionSeconds (List.sum _) = _
    rw [hperm.sum_eq, sum_durations, ← htotal]
    exact min_eq_right secondsOf_le
  · show min eventRetentionSeconds (Option.getD (List.max? _) 0) = _
    rw [Lists.max?_congr fun d => hperm.mem_iff, max_durations]
    refine min_eq_right ?_
    generalize hmax : (List.max? _).getD 0 = longest
    obtain ⟨hmem, -⟩ := (Lists.getD_max?_eq_iff fun _ _ => Nat.zero_le _).1 hmax
    rcases hmem with hmem | rfl
    · obtain ⟨outage, -, rfl⟩ := List.mem_map.1 hmem
      exact secondsOf_le
    · decide
  · show List.length _ = _
    rw [← length_durations, ← hperm.length_eq, List.length_map]

/-- A call that ends in the computed environment is a step. -/
theorem Watch.Step.play {watch : Watch} {profile : ManagedProfile} {result : ProbeResult}
    (hclock : watch.clock ≤ now) (hdone : ∃ r, (Prog.runWhile (fun db => environment truthful db [])
      toTheEnd (WatchdogEngine.process profile result now) watch.db).1 = .done r) :
    Watch.Step profile.profileId watch (watch.play profile result now) := by
  obtain ⟨r, hr⟩ := hdone
  have hanswers : ∀ db op a db', environment truthful db [] op = some (a, db') →
      answers False db op a db' := fun _ _ _ _ ho => environment_answers ho
  have hsteps := runWhile_steps hanswers toTheEnd (WatchdogEngine.process profile result now) watch.db
  rw [← Prod.mk.eta (p := runWhile _ _ _ _), hr] at hsteps
  exact .process rfl hclock hsteps

/-- An outage of two seconds. -/
def watchedOutage : Watch :=
  (Watch.play monitoredProfile .unreachable 100 { db := .empty, clock := 0 }).play
    monitoredProfile .success 102

theorem summary_eq_watchedOutage : watchedOutage.history.outages = [⟨100, some 102⟩] ∧
    secondsOf 160 (fun t => watchedOutage.history.outages.any (·.covers t)) = 2 := by
  have hfails : Watch.Step monitoredProfile.profileId { db := .empty, clock := 0 }
      (Watch.play monitoredProfile .unreachable 100 { db := .empty, clock := 0 }) :=
    .play (by decide) ⟨_, rfl⟩
  have hrecovers : Watch.Step monitoredProfile.profileId
      (Watch.play monitoredProfile .unreachable 100 { db := .empty, clock := 0 }) watchedOutage :=
    .play (by decide) ⟨_, rfl⟩
  have hunseen : Database.empty.Unseen monitoredProfile.profileId := ⟨rfl, fun _ hmem => by cases hmem⟩
  have hnow : watchedOutage.clock ≤ 160 := by decide
  have hrun : Relation.ReflTransGen (Watch.Step monitoredProfile.profileId)
      { db := .empty, clock := 0 } watchedOutage := .tail (.single hfails) hrecovers
  have hseconds := (summary_eq hunseen hrun hnow).1
  have htotal : (watchedOutage.db.summary 160 monitoredProfile.profileId).totalDowntimeSeconds = 2 := by
    decide
  rw [htotal] at hseconds
  exact ⟨by decide, Int.ofNat_inj.1 hseconds.symm⟩

end Summary

end Watchdog
