import Mathlib.Data.List.Dedup
import Mathlib.Tactic.Linarith
import GostManager.Numbers.Proofs.GridsProofs
import GostManager.Watchdog.Daemon
import GostManager.Watchdog.Proofs.ProbesProofs

/-!
# Proofs: the daemon

What one profile does in a cycle, be it that it raises, does not reach the others: the profiles that are
due are processed once each, the deadlines are those of the active profiles, and an error is recorded when
it appears.
-/

namespace Watchdog

open Lists Numbers

/-! ## Deadlines -/

section Advancing

variable {previous interval current : ℚ}

/-- The next deadline in steps of the interval. -/
theorem advanceDeadline_point (h : 0 < interval) (previous current : ℚ) : ∃ k : ℤ, 1 ≤ k ∧
    advanceDeadline previous interval current = previous + k * interval ∧ current < previous + k * interval ∧
      (k = 1 ∨ previous + (k - 1) * interval ≤ current) := by
  unfold advanceDeadline
  by_cases hd : previous + interval > current
  · refine ⟨1, le_rfl, ?_, by simpa using hd, .inl rfl⟩
    simp only [if_pos hd, Int.cast_one, one_mul]
  · simp only [if_neg hd]
    have hlate : 0 ≤ current - (previous + interval) := by linarith
    have hnonneg : 0 ≤ ⌊(current - (previous + interval)) / interval⌋ := Int.floor_nonneg.2 (div_nonneg hlate h.le)
    have hlt := (div_lt_iff₀ h).1 (Int.lt_floor_add_one ((current - (previous + interval)) / interval))
    have hle := (le_div_iff₀ h).1 (Int.floor_le ((current - (previous + interval)) / interval))
    refine ⟨⌊(current - (previous + interval)) / interval⌋ + 2, by omega, ?_, ?_, .inr ?_⟩
    · push_cast
      ring
    · push_cast
      linarith
    · push_cast
      linarith

/-- The next deadline is the first one after the last that lies ahead of the clock. -/
theorem isLeast_advanceDeadline (h : 0 < interval) (previous current : ℚ) :
    IsLeast {x ∈ laterPoints previous interval | current < x} (advanceDeadline previous interval current) := by
  obtain ⟨k, hk, heq, hlt, hbefore⟩ := advanceDeadline_point h previous current
  rw [heq]
  refine isLeast_laterPoints (fun x y hxy hx => hx.trans_le hxy) h hk hlt ?_
  exact hbefore.imp_right not_lt.2

/-- The next deadline lies ahead. -/
theorem lt_advanceDeadline (h : 0 < interval) : current < advanceDeadline previous interval current :=
  (isLeast_advanceDeadline h previous current).1.2

theorem deadlines_eq_cons (interval previous : ℚ) (readings : List ℚ) :
    ∃ rest, deadlines interval previous readings = previous :: rest := by
  cases readings with
  | nil => exact ⟨[], rfl⟩
  | cons current readings => exact ⟨_, rfl⟩

theorem deadlines_isChain (h : 0 < interval) (previous : ℚ) (readings : List ℚ) :
    (deadlines interval previous readings).IsChain fun x y => y ∈ laterPoints x interval := by
  induction readings generalizing previous with
  | nil => exact .singleton previous
  | cons current readings ih =>
    have hchain := ih (advanceDeadline previous interval current)
    obtain ⟨rest, heq⟩ := deadlines_eq_cons interval (advanceDeadline previous interval current) readings
    rw [heq] at hchain
    rw [deadlines, heq]
    exact .cons_cons (isLeast_advanceDeadline h previous current).1.1 hchain

/-- `advance_deadline` gives the first point of the grid after the last deadline that lies ahead of the clock, and
so the deadlines increase on one grid. -/
theorem advanceDeadline_on_grid (h : 0 < interval) (previous : ℚ) :
    (∀ current, IsLeast {x | (∃ k : ℤ, 1 ≤ k ∧ x = previous + k * interval) ∧ current < x}
      (advanceDeadline previous interval current)) ∧
    ∀ readings, (deadlines interval previous readings).Pairwise (· < ·) ∧
      ∀ x ∈ deadlines interval previous readings, ∃ k : ℕ, x = previous + k * interval := by
  refine ⟨isLeast_advanceDeadline h previous, fun readings => ?_⟩
  have hchain := deadlines_isChain h previous readings
  refine ⟨pairwise_lt_of_isChain h hchain, fun x hmem => ?_⟩
  obtain ⟨rest, heq⟩ := deadlines_eq_cons interval previous readings
  rw [heq] at hmem hchain
  rcases List.mem_cons.1 hmem with rfl | hmem
  · exact ⟨0, by simp⟩
  · exact exists_nat_of_mem_laterPoints (mem_laterPoints_of_isChain hchain hmem)

theorem advanceDeadline_on_grid_of_two : (0 : ℚ) < 2 ∧
    IsLeast {x : ℚ | (∃ k : ℤ, 1 ≤ k ∧ x = 10 + k * 2) ∧ 35 / 2 < x} (advanceDeadline 10 2 (35 / 2)) :=
  ⟨two_pos, (advanceDeadline_on_grid two_pos 10).1 (35 / 2)⟩

end Advancing

section Deadlines

variable {nextDue : List (String × ℚ)} {profileId profileId' : String} {deadline : ℚ}

theorem deadlineOf_store : deadlineOf (store Prod.fst (profileId, deadline) nextDue) profileId' =
    if profileId = profileId' then some deadline else deadlineOf nextDue profileId' := by
  unfold deadlineOf
  rw [find_store]
  by_cases h : profileId = profileId'
  · rw [if_pos h, if_pos h]
    rfl
  · rw [if_neg h, if_neg h]

/-- Dropping entries drops the deadlines of their profiles. -/
theorem deadlineOf_filter {ids : List String} :
    deadlineOf (nextDue.filter fun entry => entry.1 ∈ ids) profileId =
      if profileId ∈ ids then deadlineOf nextDue profileId else none := by
  unfold deadlineOf find
  rw [List.find?_filter]
  by_cases h : profileId ∈ ids
  · rw [if_pos h]
    congr 2
    funext entry
    by_cases hid : entry.1 = profileId
    · simp [hid, h]
    · simp [hid]
  · rw [if_neg h, Option.map_eq_none_iff, List.find?_eq_none]
    intro entry _ hentry
    simp only [decide_eq_true_eq] at hentry
    exact h (hentry.2 ▸ hentry.1)

end Deadlines

/-! ## The loop over the due profiles -/

section Loop

variable {s : Surroundings} {results : List (String × ProbeResult)} {p : Processing}
  {due : List ManagedProfile} {result : ManagedProfile → ProbeResult} {profile : ManagedProfile}
  {profileId : String}

/-- The profiles of a list have their results. -/
def HaveResults (results : List (String × ProbeResult)) (result : ManagedProfile → ProbeResult)
    (due : List ManagedProfile) : Prop :=
  ∀ profile ∈ due, find Prod.fst profile.profileId results = some (profile.profileId, result profile)

theorem processed_foldl (h : HaveResults results result due) :
    (due.foldl (s.processProfile results) p).processed =
      p.processed ++ due.map fun profile => (profile, result profile) := by
  induction due generalizing p with
  | nil => exact (List.append_nil _).symm
  | cons profile due ih =>
    have hhead := h profile (.head _)
    rw [List.foldl_cons, ih fun other hother => h other (.tail _ hother)]
    simp only [Surroundings.processProfile, hhead, Option.map_some, Option.toList_some, List.map_cons,
      List.append_assoc, List.singleton_append]

theorem errors_foldl (h : HaveResults results result due) :
    (due.foldl (s.processProfile results) p).errors =
      p.errors ++ (due.filter fun profile => s.processRaises profile.profileId).map
        fun profile => runtimeError profile.profileId := by
  induction due generalizing p with
  | nil => exact (List.append_nil _).symm
  | cons profile due ih =>
    have hhead := h profile (.head _)
    rw [List.foldl_cons, ih fun other hother => h other (.tail _ hother)]
    cases hraises : s.processRaises profile.profileId with
    | true => simp [Surroundings.processProfile, hhead, hraises]
    | false => simp [Surroundings.processProfile, hhead, hraises]

theorem deadlineOf_foldl_of_not_mem (h : profileId ∉ due.map (·.profileId)) :
    deadlineOf (due.foldl (s.processProfile results) p).nextDue profileId =
      deadlineOf p.nextDue profileId := by
  induction due generalizing p with
  | nil => rfl
  | cons profile due ih =>
    rw [List.map_cons, List.mem_cons, not_or] at h
    rw [List.foldl_cons, ih h.2]
    exact deadlineOf_store.trans (if_neg (Ne.symm h.1))

theorem deadlineOf_foldl_of_mem (hnodup : (due.map (·.profileId)).Nodup) (h : profile ∈ due) :
    ∃ deadline, deadlineOf (due.foldl (s.processProfile results) p).nextDue profile.profileId =
      some deadline ∧ s.monotonicAfter profile.profileId < deadline := by
  induction due generalizing p with
  | nil => cases h
  | cons head due ih =>
    rw [List.map_cons, List.nodup_cons] at hnodup
    rw [List.foldl_cons]
    rcases List.mem_cons.1 h with rfl | hmem
    · rw [deadlineOf_foldl_of_not_mem hnodup.1]
      refine ⟨_, deadlineOf_store.trans (if_pos rfl), lt_advanceDeadline ?_⟩
      exact_mod_cast profile.config.checkIntervalSeconds_pos
    · exact ih hnodup.2 hmem

end Loop

/-! ## A cycle -/

section Cycles

variable {s : Surroundings} {loaded : Loaded} {nextDue : List (String × ℚ)} {profile : ManagedProfile}
  {profileId : String}

theorem mem_active : profile ∈ s.active loaded ↔ profile ∈ loaded.profiles ∧
    profile.config.mode ≠ .disabled ∧ s.reconcileRaises profile.profileId = false := by
  unfold Surroundings.active
  rw [List.mem_filter, decide_eq_true_eq]

theorem nodup_active : ((s.active loaded).map (·.profileId)).Nodup :=
  (List.filter_sublist.map _).nodup loaded.profiles_nodup

theorem mem_ids_active : profileId ∈ (s.active loaded).map (·.profileId) ↔
    ∃ profile ∈ loaded.profiles, profile.profileId = profileId ∧ profile.config.mode ≠ .disabled ∧
      s.reconcileRaises profileId = false := by
  rw [List.mem_map]
  constructor
  · rintro ⟨profile, hp, rfl⟩
    obtain ⟨hp, hmode, hraises⟩ := mem_active.1 hp
    exact ⟨profile, hp, rfl, hmode, hraises⟩
  · rintro ⟨profile, hp, rfl, hmode, hraises⟩
    exact ⟨profile, mem_active.2 ⟨hp, hmode, hraises⟩, rfl⟩

theorem nodup_due : ((s.due loaded nextDue).map (·.profileId)).Nodup :=
  (List.filter_sublist.map _).nodup nodup_active

/-- A profile is due when it is active and its deadline, if it has one, is reached. -/
theorem mem_due : profile ∈ s.due loaded (s.kept loaded nextDue) ↔ profile ∈ s.active loaded ∧
    ∀ deadline, deadlineOf nextDue profile.profileId = some deadline → deadline ≤ s.monotonicNow := by
  unfold Surroundings.due
  rw [List.mem_filter, decide_eq_true_eq]
  refine and_congr_right fun hp => ?_
  have hid : profile.profileId ∈ (s.active loaded).map (·.profileId) := List.mem_map.2 ⟨profile, hp, rfl⟩
  have hkept : deadlineOf (s.kept loaded nextDue) profile.profileId =
      deadlineOf nextDue profile.profileId := deadlineOf_filter.trans (if_pos hid)
  rw [hkept]
  cases hdeadline : deadlineOf nextDue profile.profileId with
  | none => simp
  | some deadline => simp

/-- The results of a probe are there for every due profile, and they are its own. -/
theorem haveResults_due : HaveResults (s.pings (s.due loaded nextDue))
    (fun profile => probeResultOf (s.executor profile.probeKey)) (s.due loaded nextDue) := by
  intro profile hp
  obtain ⟨calls, hrun⟩ := s.pings_run (s.due loaded nextDue)
  rw [Option.some_inj.1 hrun.outcome.2]
  refine (find_eq_some nodup_dictionary).2 ⟨?_, rfl⟩
  have hactive : activeProfiles (s.due loaded nextDue) = s.due loaded nextDue :=
    List.filter_eq_self.2 fun profile hp =>
      decide_eq_true (mem_active.1 (List.mem_filter.1 hp).1).2.1
  obtain ⟨earlier, later, hsplit⟩ := List.append_of_mem hp
  refine mem_ownResults (hactive.trans hsplit) fun other hother heq => ?_
  have hnodup : ((s.due loaded nextDue).map (·.profileId)).Nodup := nodup_due
  rw [hsplit, List.map_append, List.map_cons] at hnodup
  exact (List.nodup_cons.1 (List.nodup_append.1 hnodup).2.1).1 (List.mem_map.2 ⟨other, hother, heq⟩)

theorem processed_processDue : (s.processDue loaded nextDue).processed =
    (s.due loaded (s.kept loaded nextDue)).map fun profile =>
      (profile, probeResultOf (s.executor profile.probeKey)) :=
  (processed_foldl haveResults_due).trans (List.nil_append _)

theorem errors_processDue : (s.processDue loaded nextDue).errors = s.reconciled loaded ++
    ((s.due loaded (s.kept loaded nextDue)).filter fun profile => s.processRaises profile.profileId).map
      fun profile => runtimeError profile.profileId :=
  errors_foldl haveResults_due

/-- The profiles with a deadline are the active ones. -/
theorem isSome_deadlineOf_processDue :
    (deadlineOf (s.processDue loaded nextDue).nextDue profileId).isSome ↔
      profileId ∈ (s.active loaded).map (·.profileId) := by
  by_cases hdue : profileId ∈ (s.due loaded (s.kept loaded nextDue)).map (·.profileId)
  · obtain ⟨profile, hp, rfl⟩ := List.mem_map.1 hdue
    have hactive : profile ∈ s.active loaded := (List.mem_filter.1 hp).1
    refine iff_of_true (Option.isSome_iff_exists.2 ?_) (List.mem_map.2 ⟨profile, hactive, rfl⟩)
    exact (deadlineOf_foldl_of_mem nodup_due hp).imp fun deadline hdeadline => hdeadline.1
  · have hkept : deadlineOf (s.processDue loaded nextDue).nextDue profileId =
        deadlineOf (s.kept loaded nextDue) profileId := deadlineOf_foldl_of_not_mem hdue
    have hfilter : deadlineOf (s.kept loaded nextDue) profileId =
        if profileId ∈ (s.active loaded).map (·.profileId) then deadlineOf nextDue profileId else none :=
      deadlineOf_filter
    rw [hkept, hfilter]
    by_cases hid : profileId ∈ (s.active loaded).map (·.profileId)
    · rw [if_pos hid]
      refine iff_of_true ?_ hid
      -- without a deadline it would be due
      obtain ⟨profile, hp, rfl⟩ := List.mem_map.1 hid
      by_contra hnone
      rw [Option.not_isSome_iff_eq_none] at hnone
      refine hdue (List.mem_map.2 ⟨profile, mem_due.2 ⟨hp, ?_⟩, rfl⟩)
      simp [hnone]
    · rw [if_neg hid]
      exact iff_of_false nofun hid

end Cycles

/-! ## What is recorded -/

section Errors

variable {s : Surroundings} {before : List Surroundings} {e : CycleError} {loaded : Loaded}
  {d : WatchdogDaemon}

theorem processed_runCycle (h : s.load = some loaded) :
    (d.runCycle s).processed = (s.processDue loaded d.nextDue).processed := by
  unfold WatchdogDaemon.runCycle
  rw [h]

theorem nextDue_runCycle (h : s.load = some loaded) :
    (d.runCycle s).daemon.nextDue = (s.processDue loaded d.nextDue).nextDue := by
  unfold WatchdogDaemon.runCycle
  rw [h]

theorem reportedErrors_runCycle (h : s.load = some loaded) :
    (d.runCycle s).daemon.reportedErrors = (s.processDue loaded d.nextDue).errors := by
  unfold WatchdogDaemon.runCycle
  rw [h]

theorem reportedErrors_runCycle_of_none (h : s.load = none) :
    (d.runCycle s).daemon.reportedErrors = [(none, "invalid_global_config")] := by
  unfold WatchdogDaemon.runCycle
  rw [h]

theorem daemonAfter_cons :
    daemonAfter (s :: before) = ((daemonAfter before).runCycle s).daemon := rfl

theorem mem_errors_processDue {nextDue : List (String × ℚ)} :
    e ∈ (s.processDue loaded nextDue).errors ↔ e ∈ loaded.errors ∨ ∃ profile ∈ loaded.profiles,
      e = runtimeError profile.profileId ∧
        (s.reconcileRaises profile.profileId = true ∨ s.processRaises profile.profileId = true ∧
          profile ∈ (s.processDue loaded nextDue).processed.map Prod.fst) := by
  have hprocessed : ∀ profile, profile ∈ (s.processDue loaded nextDue).processed.map Prod.fst ↔
      profile ∈ s.due loaded (s.kept loaded nextDue) := by
    intro profile
    rw [processed_processDue, List.map_map]
    exact List.mem_map.trans ⟨fun ⟨_, hp, heq⟩ => heq ▸ hp, fun hp => ⟨profile, hp, rfl⟩⟩
  rw [errors_processDue, Surroundings.reconciled, List.mem_append, List.mem_append, or_assoc]
  refine or_congr_right ?_
  constructor
  · rintro (hreconcile | hprocess)
    · obtain ⟨profile, hp, rfl⟩ := List.mem_map.1 hreconcile
      obtain ⟨hp, hraises⟩ := List.mem_filter.1 hp
      exact ⟨profile, hp, rfl, .inl hraises⟩
    · obtain ⟨profile, hp, rfl⟩ := List.mem_map.1 hprocess
      obtain ⟨hdue, hraises⟩ := List.mem_filter.1 hp
      have hloaded : profile ∈ loaded.profiles := (mem_active.1 (List.mem_filter.1 hdue).1).1
      exact ⟨profile, hloaded, rfl, .inr ⟨hraises, (hprocessed profile).2 hdue⟩⟩
  · rintro ⟨profile, hp, rfl, hraises | ⟨hraises, hdue⟩⟩
    · exact .inl (List.mem_map.2 ⟨profile, List.mem_filter.2 ⟨hp, hraises⟩, rfl⟩)
    · exact .inr (List.mem_map.2
        ⟨profile, List.mem_filter.2 ⟨(hprocessed profile).1 hdue, hraises⟩, rfl⟩)

theorem present_cons_of_none (h : s.load = none) :
    Present (s :: before) e ↔ e = (none, "invalid_global_config") := by
  rw [Present, h]

theorem present_cons (h : s.load = some loaded) :
    Present (s :: before) e ↔ e ∈ (s.processDue loaded (daemonAfter before).nextDue).errors := by
  rw [mem_errors_processDue, ← processed_runCycle h, Present, h]

/-- What the daemon remembers are the errors of the newest cycle. -/
theorem mem_reportedErrors : ∀ cycles, e ∈ (daemonAfter cycles).reportedErrors ↔ Present cycles e
  | [] => iff_of_false List.not_mem_nil not_false
  | s :: before => by
    rw [daemonAfter_cons]
    cases h : s.load with
    | none => rw [reportedErrors_runCycle_of_none h, present_cons_of_none h, List.mem_singleton]
    | some loaded => rw [reportedErrors_runCycle h, present_cons h]

/-- The error that an event records. -/
def recordedError (event : WatchdogEvent) : CycleError :=
  (event.profileId, event.errorCategory.getD "")

theorem map_recordErrors {reported errors : List CycleError} {now : Int} :
    (recordErrors reported errors now).map recordedError =
      errors.dedup.filter fun e => e ∉ reported := by
  unfold recordErrors
  rw [List.map_map]
  exact List.map_id _

theorem events_runCycle : (d.runCycle s).events =
    recordErrors d.reportedErrors (d.runCycle s).daemon.reportedErrors s.wallNow := by
  unfold WatchdogDaemon.runCycle
  cases s.load with
  | none => rfl
  | some loaded => rfl

/-- The events of a cycle name each error that is present and was not present before once. -/
theorem mem_recorded : e ∈ ((daemonAfter before).runCycle s).events.map recordedError ↔
    Present (s :: before) e ∧ ¬ Present before e := by
  rw [events_runCycle, map_recordErrors, List.mem_filter, List.mem_dedup, decide_eq_true_eq,
    mem_reportedErrors before, ← daemonAfter_cons, mem_reportedErrors (s :: before)]

theorem nodup_recorded : (((daemonAfter before).runCycle s).events.map recordedError).Nodup := by
  rw [events_runCycle, map_recordErrors]
  exact (List.nodup_dedup _).filter _

/-- The store takes every error of a cycle. -/
theorem present_safe : ∀ {cycles}, Present cycles e → e.2 ∈ safeErrorCategories
  | s :: before, h => by
    cases hload : s.load with
    | none =>
      rw [present_cons_of_none hload] at h
      rw [h]
      decide
    | some loaded =>
      rw [present_cons hload, mem_errors_processDue] at h
      rcases h with h | ⟨profile, -, rfl, -⟩
      · exact loaded.errors_safe e h
      · change "runtime_error" ∈ safeErrorCategories
        decide

end Errors

/-- **Scheduling isolation.** In every cycle of every run of the daemon whose profiles are loaded,
whatever calls of the engine raise: `process` is called once for each profile that is not disabled, was
reconciled and has no deadline or one that is reached, with the result of its own probe, and for no other;
afterwards exactly the profiles that are not disabled and were reconciled have a deadline, and those that
were processed have one that lies ahead of the clock. In every cycle an error is recorded, once, if it is
present and was not in the cycle before. -/
theorem cycles_are_isolated (s : Surroundings) (before : List Surroundings) :
    (∀ loaded, s.load = some loaded →
      (((daemonAfter before).runCycle s).processed.map Prod.fst).Nodup ∧
      (∀ profile result, (profile, result) ∈ ((daemonAfter before).runCycle s).processed ↔
        profile ∈ loaded.profiles ∧ profile.config.mode ≠ .disabled ∧
        s.reconcileRaises profile.profileId = false ∧
        (∀ deadline, deadlineOf (daemonAfter before).nextDue profile.profileId = some deadline →
          deadline ≤ s.monotonicNow) ∧
        result = probeResultOf (s.executor profile.probeKey)) ∧
      (∀ profileId, (deadlineOf ((daemonAfter before).runCycle s).daemon.nextDue profileId).isSome ↔
        ∃ profile ∈ loaded.profiles, profile.profileId = profileId ∧
          profile.config.mode ≠ .disabled ∧ s.reconcileRaises profileId = false) ∧
      (∀ profile result, (profile, result) ∈ ((daemonAfter before).runCycle s).processed →
        ∃ deadline, deadlineOf ((daemonAfter before).runCycle s).daemon.nextDue profile.profileId =
          some deadline ∧ s.monotonicAfter profile.profileId < deadline)) ∧
    (((daemonAfter before).runCycle s).events.map recordedError).Nodup ∧
    (∀ e, e ∈ ((daemonAfter before).runCycle s).events.map recordedError ↔
      Present (s :: before) e ∧ ¬ Present before e) := by
  refine ⟨fun loaded hload => ?_, nodup_recorded, fun e => mem_recorded⟩
  rw [processed_runCycle hload, nextDue_runCycle hload, processed_processDue]
  have hmem : ∀ profile result, (profile, result) ∈
      (s.due loaded (s.kept loaded (daemonAfter before).nextDue)).map
        (fun profile => (profile, probeResultOf (s.executor profile.probeKey))) ↔
      profile ∈ s.due loaded (s.kept loaded (daemonAfter before).nextDue) ∧
        result = probeResultOf (s.executor profile.probeKey) := by
    intro profile result
    rw [List.mem_map]
    constructor
    · rintro ⟨_, hp, heq⟩
      cases heq
      exact ⟨hp, rfl⟩
    · rintro ⟨hp, rfl⟩
      exact ⟨profile, hp, rfl⟩
  refine ⟨?_, fun profile result => ?_, fun profileId => ?_, fun profile result h => ?_⟩
  · rw [List.map_map]
    have hnodup : ((s.due loaded (s.kept loaded (daemonAfter before).nextDue)).map
        (·.profileId)).Nodup := nodup_due
    exact (List.map_id _).symm ▸ hnodup.of_map _
  · rw [hmem, mem_due, mem_active]
    simp only [and_assoc]
  · rw [isSome_deadlineOf_processDue, mem_ids_active]
  · exact deadlineOf_foldl_of_mem nodup_due ((hmem profile result).1 h).1

end Watchdog
