import GostManager.Effects.Proofs.PoolProofs
import GostManager.Watchdog.Concurrency
import GostManager.Watchdog.Proofs.OutcomesProofs
import GostManager.Watchdog.Proofs.RunsProofs
import GostManager.Watchdog.Proofs.StorageProofs

/-!
# Proofs: two processes

By itself the daemon never leaves maintenance, and `apply` never leaves an intent. Together they keep the
database in maintenance from the commit of `apply` on, unless the daemon writes a row that it read
before.
-/

namespace Watchdog

open Effects Effects.Prog

variable {profile : ManagedProfile} {state state' row : ProfileState} {t : Trace Op Ans}

/-! ## Traces -/

theorem committed_cons {e : (op : Op) × Ans op} :
    Committed (e :: t) ↔ CommitsMaintenance e ∨ Committed t := by
  simp [Committed]

/-- What is known of an answer whatever the others have done: the row that is read is the one that was
asked for. -/
def Asked : (op : Op) → Ans op → Prop
  | .getState profileId .., state => state.profileId = profileId
  | _, _ => True

theorem asked_of_answers {fails : Prop} {db db' : Database} {op : Op} {a : Ans op}
    (ha : answers fails db op a db') : Asked op a := by
  cases op with
  | getState =>
    obtain ⟨hstate, -⟩ := ha
    exact hstate ▸ Database.getState_profileId
  | _ => trivial

/-! ## The daemon by itself -/

/-- The daemon writes the row of the profile, after it has read it. If that row was in maintenance, so
is the row it writes, and without an intent. -/
def Respects (profileId : String) (t : Trace Op Ans) : Op → Prop
  | .getState id .. => id = profileId
  | .persist state _ => state.profileId = profileId ∧ ∃ row, readRow t = some row ∧
      (row.Suspended → state.maintenance = true ∧ state.pendingAction = none)
  | _ => True

/-- The contract of the daemon. -/
abbrev daemonAlone (profileId : String) : Contract Op Ans (Trace Op Ans) :=
  Pool.alone Asked (Respects profileId)

/-- A copy of a row without intent, which is in maintenance if the row was. -/
structure Respectful (profileId : String) (row state : ProfileState) : Prop where
  id : state.profileId = profileId
  idle : state.pendingAction = none
  suspended : row.Suspended → state.maintenance = true

/-- The daemon has read this row. -/
abbrev HasRead (row : ProfileState) (t : Trace Op Ans) : Prop := readRow t = some row

/-- Such a copy, of the row that the daemon has read. -/
abbrev RespectfulCopy (profileId : String) (row state : ProfileState) (t : Trace Op Ans) : Prop :=
  Respectful profileId row state ∧ HasRead row t

section Daemon

variable {profileId : String} {events : List WatchdogEvent} {now : Int}

theorem Respectful.update (hr : Respectful profileId row state)
    (h : state'.serviceRecord = state.serviceRecord) : Respectful profileId row state' := by
  simp only [ProfileState.serviceRecord, Prod.mk.injEq] at h
  obtain ⟨h1, h2, -, -, -, h6, -⟩ := h
  exact ⟨h1.trans hr.id, h6.trans hr.idle, fun hs => h2.trans (hr.suspended hs)⟩

/-- Once a copy is not in maintenance, the row was not either. -/
theorem Respectful.free (hr : Respectful profileId row state) (hm : state.maintenance = false) :
    ¬ row.Suspended := by
  intro hs
  rw [hr.suspended hs] at hm
  cases hm

theorem respects_write (hid : state.profileId = profileId)
    (hs : row.Suspended → state.maintenance = true ∧ state.pendingAction = none)
    (ht : HasRead row t) :
    wp (daemonAlone profileId) (persist state events)
      (Post (fun _ => HasRead row) (HasRead row)) t :=
  wp_persist.2 ⟨⟨hid, row, ht, hs⟩, fun _ h => h.2 ▸ ht, fun _ _ h => h.2 ▸ ht⟩

theorem respects_persist (hr : Respectful profileId row state) (ht : HasRead row t) :
    wp (daemonAlone profileId) (persist state events)
      (Post (fun _ => RespectfulCopy profileId row state) (HasRead row)) t :=
  Post.mono (respects_write hr.id (fun hs => ⟨hr.suspended hs, hr.idle⟩) ht) fun _ _ ht => ⟨hr, ht⟩

theorem respects_commanding {serviceName : String} {verb : Verb} :
    Commanding (daemonAlone profileId) serviceName verb fun _ => HasRead row where
  asks _ _ := trivial
  asked _ _ _ ht h := h.2 ▸ ht
  commands _ _ _ := trivial
  commanded _ _ _ _ ht h := h.2 ▸ ht
  verifies _ _ := trivial
  verified _ _ _ ht h := h.2 ▸ ht
  failed _ ht := ht

/-- The unit is only stopped outside maintenance, and then any row may be written. -/
theorem respects_stop {owner : StopOwner} (hr : Respectful profileId row state)
    (hm : state.maintenance = false) (ht : HasRead row t) :
    wp (daemonAlone profileId) (DurableServiceActions.stop profile state events now owner)
      (Post (fun result => RespectfulCopy profileId row result.2.1) (HasRead row)) t := by
  have hfree := hr.free hm
  have hstopped : ∀ seen state', Stopped state owner now seen state' →
      Respectful profileId row state' := fun seen state' h =>
    ⟨h.profileId.trans hr.id, h.pendingAction, fun hs => absurd hs hfree⟩
  refine stop_outcomes (Φ := fun _ => HasRead row) (Θ := fun _ => HasRead row)
    (χ := fun state => RespectfulCopy profileId row state)
    (respects_write (by simpa using hr.id) (fun hs => absurd hs hfree) ht) respects_commanding
    (fun _ ht => ht) (fun _ ht => ht) (fun seen state' events t ht h => ?_) respects_commanding
    (fun _ _ ht => ht) fun state' events t ht h => respects_persist (hstopped _ _ h) ht
  exact Post.weaken (respects_persist (hstopped _ _ h) ht) fun _ ht => ⟨ht, fun _ => ht⟩

theorem respects_start {owner : StartOwner} (hr : Respectful profileId row state)
    (hm : state.maintenance = false) (ht : HasRead row t) :
    wp (daemonAlone profileId) (DurableServiceActions.start profile state events now owner)
      (Post (fun result => RespectfulCopy profileId row result.2.1) (HasRead row)) t := by
  have hfree := hr.free hm
  refine start_outcomes (Φ := fun _ => HasRead row)
    (χ := fun state => RespectfulCopy profileId row state)
    (respects_write (by simpa using hr.id) (fun hs => absurd hs hfree) ht) respects_commanding
    (fun _ ht => ht) (fun _ ht => ht) fun seen state' events t ht h => ?_
  exact Post.weaken (respects_persist ⟨h.profileId.trans hr.id, h.pendingAction,
    fun hs => absurd hs hfree⟩ ht) fun _ ht => ⟨ht, ht⟩

/-- Finishing the intent of the row that was read leaves maintenance only if the intent is to leave
it. -/
theorem respects_reconcileIfPending (hid : row.profileId = profileId) (ht : HasRead row t) :
    wp (daemonAlone profileId) (DurableServiceActions.reconcileIfPending profile row events now)
      (Post (fun draft => RespectfulCopy profileId row draft.1) (HasRead row)) t := by
  refine wp_ite.2 ⟨fun hsome => ?_, fun hnone => ⟨⟨hid, by simpa using hnone, fun hs => hs.1⟩, ht⟩⟩
  obtain ⟨action, hp⟩ := Option.isSome_iff_exists.1 hsome
  refine reconcilePending_outcomes (Φ := fun _ => HasRead row)
    (χ := fun state => RespectfulCopy profileId row state) hp
    (fun _ => respects_commanding) (fun _ => respects_commanding) (fun _ _ ht => ht) ?_ ht
  intro seen state' events t ht hr
  refine respects_persist ⟨hr.profileId.trans hid, hr.pendingAction, fun hs => ?_⟩ ht
  refine hr.maintenance hs.1 ?_
  rintro rfl
  exact hs.2 hp

theorem respects_reconcileServiceInAuto (hr : Respectful profileId row state) (ht : HasRead row t) :
    wp (daemonAlone profileId) (WatchdogEngine.reconcileServiceInAuto profile state now events)
      (Post (fun draft => RespectfulCopy profileId row draft.1) (HasRead row)) t := by
  have hcommanding : Commanding (daemonAlone profileId) profile.serviceName .stop
      fun _ => HasRead row := respects_commanding
  refine reconcileServiceInAuto_outcomes (χ := fun state => RespectfulCopy profileId row state) hr.idle
    ⟨hr, ht⟩ (Post.mono (hcommanding.isActive (fun _ ht => ht) ht) ?_)
  intro active t ht state' hn
  exact ⟨⟨hn.profileId.trans hr.id, hn.pendingAction.trans hr.idle,
    fun hs => hn.maintenance.trans (hr.suspended hs)⟩, ht⟩

theorem respects_countResult {result : ProbeResult} (hr : Respectful profileId row state)
    (ht : HasRead row t) :
    wp (daemonAlone profileId) (WatchdogEngine.countResult profile state result now events)
      (Post (fun draft => RespectfulCopy profileId row draft.1) (HasRead row)) t := by
  refine wp_ite.2 ⟨fun _ => ?_, fun _ => ?_⟩
  · refine successfulCheck_outcomes (Φ := HasRead row)
      (χ := fun state => RespectfulCopy profileId row state) ⟨trivial, fun _ _ h => h.2 ▸ ht⟩ ht
      (fun _ ht => ht) (fun _ _ ht hsucc _ => ⟨hr.update hsucc.service, ht⟩)
      fun _ _ _ ht hsucc _ hdue => respects_start (hr.update hsucc.service) hdue.2.1 ht
  · exact failedCheck_outcomes (χ := fun state => RespectfulCopy profileId row state)
      (fun _ hf => ⟨hr.update hf.service, ht⟩)
      fun _ _ hf _ _ _ hm _ _ => respects_stop (hr.update hf.service) hm ht

/-- Which row the daemon has read is only known after its first operation. -/
theorem respects_exists {α : Type} {p : Action α} {φ : ProfileState → α → Trace Op Ans → Prop}
    (h : wp (daemonAlone profileId) p (Post (φ row) (HasRead row)) t) :
    wp (daemonAlone profileId) p
      (Post (fun a t => ∃ row, φ row a t) fun t => ∃ row, HasRead row t) t :=
  Post.weaken (Post.mono h fun _ _ h => ⟨row, h⟩) fun _ h => ⟨row, h⟩

/-- The daemon by itself never leaves maintenance. -/
theorem respects_process {result : ProbeResult} :
    wp (daemonAlone profile.profileId) (WatchdogEngine.process profile result now)
      (fun _ _ => True) [] := by
  refine wp_mono (process_outcomes (ψ := fun t => ∃ row, HasRead row t)
    (χ := fun state t => ∃ row, RespectfulCopy profile.profileId row state t)
      ?_ ?_ ?_ ?_ ?_ ?_) fun _ _ _ => trivial
  · refine wp_getState.2 ⟨rfl, fun row t h => ?_⟩
    exact respects_exists (φ := fun row (draft : Draft) => RespectfulCopy profile.profileId row draft.1)
      (respects_reconcileIfPending h.1 (h.2 ▸ rfl))
  · rintro state t ⟨row, -, ht⟩
    exact ⟨row, ht⟩
  · rintro state checkStatus category t ⟨row, hr, ht⟩
    exact ⟨row, hr.update rfl, ht⟩
  · rintro state events t ⟨row, hr, ht⟩
    exact respects_exists (φ := fun row (draft : Draft) => RespectfulCopy profile.profileId row draft.1)
      (respects_reconcileServiceInAuto hr ht)
  · rintro state events t - ⟨row, hr, ht⟩
    exact respects_exists (φ := fun row (draft : Draft) => RespectfulCopy profile.profileId row draft.1)
      (respects_countResult hr ht)
  · rintro state events t ⟨row, hr, ht⟩
    exact respects_exists (φ := fun row _ => HasRead row)
      (Post.mono (respects_persist hr ht) fun _ _ h => h.2)

end Daemon

/-! ## `apply` by itself -/

/-- `apply` writes the row of the profile without intent, and stays in maintenance once it has committed
that. -/
def Enters (profileId : String) (t : Trace Op Ans) : Op → Prop
  | .getState id .. => id = profileId
  | .persist state _ => state.profileId = profileId ∧ state.pendingAction = none ∧
      (Committed t → state.maintenance = true)
  | _ => True

/-- The contract of `apply`. -/
abbrev adminAlone (profileId : String) : Contract Op Ans (Trace Op Ans) :=
  Pool.alone Asked (Enters profileId)

section Admin

variable {profileId : String} {events : List WatchdogEvent} {now : Int}

theorem committed_systemctl {verb : Verb} {serviceName : String} {code : Option Int} :
    Committed (⟨.systemctl verb serviceName, code⟩ :: t) ↔ Committed t := by
  simp [committed_cons, CommitsMaintenance]

theorem enters_commanding {serviceName : String} {verb : Verb} :
    Commanding (adminAlone profileId) serviceName verb fun _ t => ¬ Committed t where
  asks _ _ := trivial
  asked _ _ _ ht h := by rw [h.2, committed_systemctl]; exact ht
  commands _ _ _ := trivial
  commanded _ _ _ _ ht h := by rw [h.2, committed_systemctl]; exact ht
  verifies _ _ := trivial
  verified _ _ _ ht h := by rw [h.2, committed_systemctl]; exact ht
  failed _ ht := ht

theorem enters_reconcilePending (hid : state.profileId = profileId) (ht : ¬ Committed t) :
    wp (adminAlone profileId) (DurableServiceActions.reconcilePending profile state events now)
      (Post (fun draft _ => draft.1.profileId = profileId ∧ draft.1.pendingAction = none)
        fun _ => True) t := by
  cases hp : state.pendingAction with
  | none => exact (wp_reconcilePending_none hp).2 ⟨hid, hp⟩
  | some action =>
    refine reconcilePending_outcomes (Φ := fun _ t => ¬ Committed t)
      (χ := fun state _ => state.profileId = profileId ∧ state.pendingAction = none) hp
      (fun _ => enters_commanding) (fun _ => enters_commanding) (fun _ _ ht => ht) ?_ ht
    intro seen state' events t ht hr
    have hid' := hr.profileId.trans hid
    exact wp_persist.2 ⟨⟨hid', hr.pendingAction, fun hc => absurd hc ht⟩,
      fun _ _ => ⟨hid', hr.pendingAction⟩, fun _ _ _ => trivial⟩

/-- `apply` commits maintenance, if it returns. -/
theorem enters_apply :
    wp (adminAlone profile.profileId) (MaintenanceController.apply profile .enterKeep now)
      (Post (fun _ t => Committed t) fun _ => True) [] := by
  refine wp_bind.2 (wp_getState.2 ⟨rfl, ?_⟩)
  rintro row t ⟨hid, rfl⟩
  have hid : row.profileId = profile.profileId := hid
  refine Post.bind (enters_reconcilePending hid (by simp [Committed, CommitsMaintenance])) ?_
  rintro ⟨state, events⟩ t ⟨hid, hp⟩
  refine Post.bind (φ := fun _ _ => True) (wp_isActive.2 ⟨trivial, fun _ _ _ =>
    ⟨fun _ => trivial, fun _ => trivial, fun _ => trivial⟩⟩) fun active t _ => ?_
  refine Post.bind (φ := fun draft _ => draft.1.profileId = profile.profileId ∧
    draft.1.pendingAction = none ∧ draft.1.maintenance = true) ⟨hid, hp, rfl⟩ ?_
  rintro ⟨state, events⟩ t ⟨hid, hp, hm⟩
  refine Post.bind (φ := fun _ t => Committed t) (wp_persist.2 ⟨⟨hid, hp, fun _ => hm⟩, ?_, ?_⟩)
    fun _ _ ht => ht
  · rintro t' ⟨-, rfl⟩
    exact ⟨_, .head _, hm⟩
  · exact fun _ _ _ => trivial

end Admin

/-! ## Side by side -/

/-- From the commit of `apply` on, the database is in maintenance, and so is the row of the daemon unless
it was overtaken. -/
structure InMaintenance (profileId : String) (db : Database) (h : SharedHistory) : Prop where
  row : Committed (trace Party.admin h) → ∃ row, db.rows profileId = some row ∧
    row.maintenance = true ∧ row.pendingAction = none
  read : Committed (trace Party.admin h) → ¬ Overtaken h → ∀ row,
    readRow (trace Party.daemon h) = some row → row.Suspended
  late : ¬ LateIntent h

section SideBySide

variable {profileId : String} {db db' : Database} {h : SharedHistory} {result : ProbeResult}
  {processNow applyNow : Int}

@[simp] theorem trace_admin_daemon {e : (op : Op) × Ans op} :
    trace Party.admin ((.daemon, e) :: h) = trace Party.admin h :=
  Pool.trace_cons_other (by decide)

@[simp] theorem trace_daemon_admin {e : (op : Op) × Ans op} :
    trace Party.daemon ((.admin, e) :: h) = trace Party.daemon h :=
  Pool.trace_cons_other (by decide)

theorem overtaken_daemon {e : (op : Op) × Ans op} (he : isRead e = false) :
    Overtaken ((.daemon, e) :: h) ↔ Overtaken h := by
  simp [Overtaken, he]

/-- Operations of the daemon that neither read nor write. -/
theorem InMaintenance.daemon (hJ : InMaintenance profileId db h) {e : (op : Op) × Ans op}
    (hread : readRow (e :: trace Party.daemon h) = readRow (trace Party.daemon h))
    (hover : Overtaken ((.daemon, e) :: h) ↔ Overtaken h)
    (hlate : LateIntent ((.daemon, e) :: h) ↔ LateIntent h) :
    InMaintenance profileId db ((.daemon, e) :: h) := by
  refine ⟨fun hc => hJ.row (by simpa using hc), fun hc ho row hrow => ?_, fun hl => hJ.late (hlate.1 hl)⟩
  refine hJ.read (by simpa using hc) (fun ho' => ho (hover.2 ho')) row ?_
  rw [← hread]
  simpa using hrow

/-- Operations of `apply` that commit nothing. -/
theorem InMaintenance.admin (hJ : InMaintenance profileId db h) {e : (op : Op) × Ans op}
    (hcommit : ¬ CommitsMaintenance e) : InMaintenance profileId db ((.admin, e) :: h) := by
  have hiff : Committed (trace Party.admin ((.admin, e) :: h)) ↔ Committed (trace Party.admin h) := by
    simp [committed_cons, hcommit]
  refine ⟨fun hc => hJ.row (hiff.1 hc), fun hc ho row hrow => ?_, hJ.late⟩
  exact hJ.read (hiff.1 hc) (fun ho' => ho (.inr ho')) row (by simpa using hrow)

/-- The daemon reads the row: if `apply` has committed, it is in maintenance. -/
theorem InMaintenance.reads (hJ : InMaintenance profileId db h) {serviceName kharejIp : String} :
    InMaintenance profileId db ((.daemon, ⟨.getState profileId serviceName kharejIp,
      db.getState profileId serviceName kharejIp⟩) :: h) := by
  refine ⟨fun hc => hJ.row (by simpa using hc), fun hc _ row hrow => ?_, hJ.late⟩
  obtain ⟨row', hrow', hm, hp⟩ := hJ.row (by simpa using hc)
  have hrow : some (db.getState profileId serviceName kharejIp) = some row := by
    simpa [readRow] using hrow
  rw [Database.getState_of_row hrow'] at hrow
  cases hrow
  exact ⟨hm, by simp [hp]⟩

/-- The daemon writes: unless its row is stale, the database stays in maintenance. -/
theorem InMaintenance.daemonWrites (hJ : InMaintenance profileId db h) {events : List WatchdogEvent}
    (hg : Respects profileId (trace Party.daemon h) (.persist state events))
    (hfresh : ¬ Stale h) (hdb : db.persist state events = .ok db') :
    InMaintenance profileId db' ((.daemon, ⟨.persist state events, .ok ()⟩) :: h) := by
  obtain ⟨hid, row, hread, hrow⟩ := hg
  -- the row that the daemon has read was in maintenance, if `apply` has committed
  have hsuspended : Committed (trace Party.admin h) → row.Suspended := by
    intro hc
    by_cases hs : row.Suspended
    · exact hs
    · by_cases ho : Overtaken h
      · exact absurd ⟨ho, row, hread, hs⟩ hfresh
      · exact hJ.read hc ho row hread
  refine ⟨fun hc => ?_, fun hc ho row' hrow' => ?_, ?_⟩
  · obtain ⟨hm, hp⟩ := hrow (hsuspended (by simpa using hc))
    exact ⟨state, hid ▸ Database.persist_row_self hdb, hm, hp⟩
  · refine hJ.read (by simpa using hc) (fun ho' => ho ((overtaken_daemon rfl).2 ho')) row' ?_
    simpa [readRow] using hrow'
  · rintro (⟨hc, hp⟩ | hl)
    · obtain ⟨-, hnone⟩ := hrow (hsuspended hc)
      rw [hnone] at hp
      rcases hp with hp | hp <;> cases hp
    · exact hJ.late hl

/-- `apply` writes: either it commits maintenance, or it has not yet. -/
theorem InMaintenance.adminWrites (hJ : InMaintenance profileId db h) {events : List WatchdogEvent}
    (hg : Enters profileId (trace Party.admin h) (.persist state events))
    (hdb : db.persist state events = .ok db') :
    InMaintenance profileId db' ((.admin, ⟨.persist state events, .ok ()⟩) :: h) := by
  obtain ⟨hid, hp, hm⟩ := hg
  have hrow : state.maintenance = true → ∃ row, db'.rows profileId = some row ∧
      row.maintenance = true ∧ row.pendingAction = none :=
    fun hm => ⟨state, hid ▸ Database.persist_row_self hdb, hm, hp⟩
  refine ⟨fun hc => ?_, fun hc ho row hread => ?_, hJ.late⟩
  · rw [Pool.trace_cons_self, committed_cons] at hc
    rcases hc with hc | hc
    · exact hrow hc
    · exact hrow (hm hc)
  · rw [Pool.trace_cons_self, committed_cons] at hc
    rcases hc with hc | hc
    · exact absurd (.inl hc) ho
    · exact hJ.read hc (fun ho' => ho (.inr ho')) row (by simpa using hread)

/-- What the two processes keep by themselves. -/
def partyGuard (profileId : String) : Party → Trace Op Ans → Op → Prop
  | .daemon => Respects profileId
  | .admin => Enters profileId

/-- What is known when they end. -/
def partyPost : Party → Except Exn ProfileState → Trace Op Ans → Prop
  | .daemon => fun _ _ => True
  | .admin => Post (fun _ t => Committed t) fun _ => True

theorem party_alone (i : Party) :
    wp (Pool.alone Asked (partyGuard profile.profileId i))
      ((freshlyEnteringMaintenance profile result processNow applyNow).body i) (partyPost i) [] := by
  cases i with
  | daemon => exact respects_process
  | admin => exact enters_apply

theorem inMaintenance_step (i : Party) {op : Op} {a : Ans op}
    (hJ : InMaintenance profileId db h) (hg : partyGuard profileId i (trace i h) op)
    (ha : (freshlyEnteringMaintenance profile result processNow applyNow).answers i db h op a db') :
    InMaintenance profileId db' ((i, ⟨op, a⟩) :: h) := by
  obtain ⟨ha, hfresh⟩ := ha
  cases i with
  | daemon =>
    cases op with
    | getState id serviceName kharejIp =>
      obtain ⟨rfl, rfl⟩ := ha
      obtain rfl : id = profileId := hg
      exact hJ.reads
    | persist state events =>
      cases a with
      | ok u => exact hJ.daemonWrites hg (fun hs => hfresh ⟨trivial, hs⟩) ha
      | error e => exact ha.2 ▸ hJ.daemon rfl (overtaken_daemon rfl) Iff.rfl
    | systemctl verb serviceName =>
      exact (show db' = db from ha) ▸ hJ.daemon rfl (overtaken_daemon rfl) Iff.rfl
    | jitter maximum => exact (show db' = db from ha) ▸ hJ.daemon rfl (overtaken_daemon rfl) Iff.rfl
  | admin =>
    cases op with
    | getState => exact ha.2 ▸ hJ.admin id
    | persist state events =>
      cases a with
      | ok u => exact hJ.adminWrites hg ha
      | error e => exact ha.2 ▸ hJ.admin id
    | systemctl verb serviceName => exact (show db' = db from ha) ▸ hJ.admin id
    | jitter maximum => exact (show db' = db from ha) ▸ hJ.admin id

/-- **Maintenance.** In every interleaving in which the daemon does not write a row that `apply` has made
stale, no intent of the watchdog is written after `apply` has committed maintenance, and the row is in
maintenance from the end of `apply` on. -/
theorem maintenance_is_kept {db₀ : Database}
    {cfg : (freshlyEnteringMaintenance profile result processNow applyNow).Config}
    (hr : (freshlyEnteringMaintenance profile result processNow applyNow).Reachable db₀ cfg) :
    ¬ LateIntent cfg.history ∧ ∀ state, cfg.threads .admin = .done (.ok state) →
      ∃ row, cfg.world.rows profile.profileId = some row ∧ row.maintenance = true := by
  have hA : ∀ i db h op a db', (freshlyEnteringMaintenance profile result processNow applyNow).answers
      i db h op a db' → Asked op a := fun _ _ _ _ _ _ ha => asked_of_answers ha.1
  have hwp := @party_alone profile result processNow applyNow
  have hJ : InMaintenance profile.profileId cfg.world cfg.history :=
    Pool.invariant_of_alone hA hwp ⟨by simp [Committed, trace], by simp [Committed, trace], id⟩
      (fun i _ _ _ _ _ hJ hg ha => inMaintenance_step i hJ hg ha) hr
  refine ⟨hJ.late, fun state hdone => ?_⟩
  have hpost := Pool.wp_of_alone hA hwp hr .admin
  rw [hdone] at hpost
  obtain ⟨row, hrow, hm, -⟩ := hJ.row hpost
  exact ⟨row, hrow, hm⟩

theorem sharedEnvironment_answers (i : Party) (db : Database) (h : SharedHistory) (op : Op) (a : Ans op)
    (db' : Database) (ho : sharedEnvironment i db h op = some (a, db')) : answers True db op a db' :=
  environment_answers ho

theorem freshEnvironment_answers (i : Party) (db : Database) (h : SharedHistory) (op : Op) (a : Ans op)
    (db' : Database) (ho : freshEnvironment i db h op = some (a, db')) :
    (freshlyEnteringMaintenance profile result processNow applyNow).answers i db h op a db' := by
  obtain ⟨ho, hfresh⟩ := Option.filter_eq_some_iff.1 ho
  exact ⟨sharedEnvironment_answers i db h op a db' ho, of_decide_eq_true hfresh⟩

/-- `apply` is done before the daemon reads its row, and there is an outage. -/
theorem maintenance_is_kept_afterApply : ∃ row, (Pool.Config.schedule
      (P := freshlyEnteringMaintenance eagerProfile .unreachable 100 100) freshEnvironment
      (List.replicate 3 .admin ++ List.replicate 3 .daemon)
      ⟨.empty, [], (freshlyEnteringMaintenance eagerProfile .unreachable 100 100).body⟩).world.rows
        "iran-1" = some row ∧ row.maintenance = true := by
  have hstart : (freshlyEnteringMaintenance eagerProfile .unreachable 100 100).Reachable .empty
      ⟨.empty, [], (freshlyEnteringMaintenance eagerProfile .unreachable 100 100).body⟩ := .refl
  have hr := Pool.reachable_schedule freshEnvironment_answers
    (List.replicate 3 .admin ++ List.replicate 3 .daemon) hstart
  exact (maintenance_is_kept hr).2 _ rfl

/-- The daemon reads its row before `apply` commits, and writes it afterwards. -/
def overtakenDaemon : (enteringMaintenance eagerProfile .unreachable 100 100).Config :=
  Pool.Config.schedule sharedEnvironment
    ([.daemon, .admin, .admin, .admin] ++ List.replicate 7 .daemon)
    ⟨.empty, [], (enteringMaintenance eagerProfile .unreachable 100 100).body⟩

/-- The unit is stopped during maintenance, and the maintenance is lost. -/
theorem not_maintenance_is_kept : ¬ ∀ cfg,
    (enteringMaintenance eagerProfile .unreachable 100 100).Reachable .empty cfg →
    ¬ LateIntent cfg.history ∧ ∀ state state', cfg.threads .admin = .done (.ok state) →
      cfg.threads .daemon = .done (.ok state') →
      ∃ row, cfg.world.rows "iran-1" = some row ∧ row.maintenance = true := by
  intro h
  have hr : (enteringMaintenance eagerProfile .unreachable 100 100).Reachable .empty overtakenDaemon :=
    Pool.reachable_schedule sharedEnvironment_answers _ .refl
  obtain ⟨-, hkept⟩ := h _ hr
  obtain ⟨row, hrow, hm⟩ := hkept _ _ rfl rfl
  cases hrow
  cases hm

end SideBySide

end Watchdog
