import GostManager.Lists.Proofs.FirstsProofs
import GostManager.Monitoring.Incidents

/-!
# Proofs: incidents

The loop over the events keeps, of each incident, the newest event that counts.
-/

namespace Monitoring.Health

open Lists

variable {snapshot : Snapshot} {now : Int} {policy : HealthPolicy} {event : SnapshotEvent}
  {events : List SnapshotEvent} {incidents : Incidents} {identity : String × String}

/-! ## Events that count -/

theorem skipsEvent_eq_false : snapshot.skipsEvent now policy event = false ↔ snapshot.Relevant now policy event := by
  have htunnel : ((snapshot.currentTunnel (detail "tunnel_id" event.details)).all fun updatedAt =>
      decide (event.ts < updatedAt)) = false ↔
      ∃ updatedAt, snapshot.currentTunnel (detail "tunnel_id" event.details) = some updatedAt ∧
        updatedAt ≤ event.ts := by
    cases snapshot.currentTunnel (detail "tunnel_id" event.details) <;> simp
  simp only [Snapshot.skipsEvent, Bool.or_eq_false_iff, decide_eq_false_iff_not, Bool.and_eq_false_imp,
    bne_iff_ne, htunnel, Bool.not_eq_false', List.contains_iff_mem, Bool.and_eq_true, Bool.not_eq_true',
    List.any_eq_true, decide_eq_true_eq]
  constructor
  · rintro ⟨⟨⟨hrecent, htunnel⟩, hservice⟩, hsource⟩
    refine ⟨by omega, htunnel, hservice, fun hcode hne => ?_⟩
    by_cases hhost : detail "source" event.details ∈ ["proc_stat", "proc_meminfo", "filesystem:/"]
    · exact .inl hhost
    · exact .inr (hsource ⟨⟨hcode, hne⟩, by simpa using hhost⟩)
  · intro h
    refine ⟨⟨⟨by have := h.recent; omega, h.tunnel⟩, h.service⟩, ?_⟩
    rintro ⟨⟨hcode, hne⟩, hhost⟩
    exact (h.source hcode hne).resolve_left (by simpa using hhost)

/-! ## The loop -/

theorem settle_eq {active : Bool} {code : String} : incidents.settle identity active code =
    ⟨incidents.codes ++ (if active = true then some code else none).toList, identity :: incidents.resolved⟩ := by
  cases active <;> simp [Incidents.settle]

theorem lookAt_of_skips (h : snapshot.skipsEvent now policy event = true) :
    snapshot.lookAt now policy incidents event = incidents := if_pos h

/-- An event without an incident reports its code by itself. -/
theorem lookAt_of_none (h : snapshot.skipsEvent now policy event = false) (hidentity : event.identity = none) :
    snapshot.lookAt now policy incidents event =
      ⟨incidents.codes ++ (snapshot.reported event).toList, incidents.resolved⟩ := by
  unfold SnapshotEvent.identity at hidentity
  split_ifs at hidentity with hcode
  have hlookup := Option.map_eq_none_iff.mp hidentity
  simp only [Snapshot.lookAt, h, Bool.false_eq_true, if_false, if_neg hcode, hlookup, Snapshot.reported]
  split_ifs
  · rfl
  · rw [Option.toList_none, List.append_nil]

/-- An event of an incident settles it, unless a newer one has. -/
theorem lookAt_of_some (h : snapshot.skipsEvent now policy event = false)
    (hidentity : event.identity = some identity) :
    snapshot.lookAt now policy incidents event =
      if identity ∈ incidents.resolved then incidents
      else ⟨incidents.codes ++ (snapshot.reported event).toList, identity :: incidents.resolved⟩ := by
  by_cases hcode : event.code = "service_state_changed"
  · rw [SnapshotEvent.identity, if_pos hcode] at hidentity
    cases hidentity
    simp only [Snapshot.lookAt, h, Bool.false_eq_true, if_false, if_pos hcode, Snapshot.serviceStateChanged,
      settle_eq, Snapshot.reported]
  · rw [SnapshotEvent.identity, if_neg hcode] at hidentity
    obtain ⟨⟨family, active⟩, hlookup, rfl⟩ := Option.map_eq_some_iff.mp hidentity
    simp only [Snapshot.lookAt, h, Bool.false_eq_true, if_false, if_neg hcode, hlookup, Snapshot.pairedEvent,
      settle_eq, Snapshot.reported, SnapshotEvent.subject]
    split_ifs <;> rfl

/-- The loop adds what the first event of each incident reports. -/
theorem foldl_lookAt : (events.foldl (snapshot.lookAt now policy) incidents).codes = incidents.codes ++
    (firstsFrom SnapshotEvent.identity incidents.resolved
      (events.filter fun event => !snapshot.skipsEvent now policy event)).filterMap snapshot.reported := by
  induction events generalizing incidents with
  | nil => simp [firstsFrom]
  | cons event events ih =>
    rw [List.foldl_cons, ih]
    cases hskips : snapshot.skipsEvent now policy event with
    | true => rw [lookAt_of_skips hskips, List.filter_cons_of_neg (by simp [hskips])]
    | false =>
      rw [List.filter_cons_of_pos (by simp [hskips])]
      cases hidentity : event.identity with
      | none =>
        rw [lookAt_of_none hskips hidentity]
        simp only [firstsFrom, hidentity, List.filterMap_cons]
        cases snapshot.reported event <;> simp
      | some identity =>
        rw [lookAt_of_some hskips hidentity]
        simp only [firstsFrom, hidentity]
        split_ifs
        · rfl
        · simp only [List.filterMap_cons]
          cases snapshot.reported event <;> simp

theorem requiredEventCodes_eq (h : snapshot.healthEvents.Pairwise fun newer older => older.ts ≤ newer.ts) :
    snapshot.requiredEventCodes now policy =
      (firstsFrom SnapshotEvent.identity []
        (snapshot.healthEvents.filter fun event => !snapshot.skipsEvent now policy event)).filterMap
          snapshot.reported ++
      if snapshot.invalidManagedEnvSources ≠ [] then ["managed_env_invalid"] else [] := by
  rw [Snapshot.requiredEventCodes, h.insertionSort_eq, foldl_lookAt, List.nil_append]

/-! ## The newest event -/

theorem Snapshot.Newest.identity_eq (h : snapshot.Newest now policy identity event) :
    event.identity = some identity := by
  obtain ⟨_, _, _, _, hidentity, _⟩ := h
  exact hidentity

theorem newest_iff : snapshot.Newest now policy identity event ↔
    IsFirst SnapshotEvent.identity identity
      (snapshot.healthEvents.filter fun event => !snapshot.skipsEvent now policy event) event := by
  simp only [isFirst_filter, Bool.not_eq_true', skipsEvent_eq_false, Snapshot.Newest]

/-- What is reported: by events without an incident, and by the newest event of each. -/
theorem mem_requiredEventCodes {code : String}
    (h : snapshot.healthEvents.Pairwise fun newer older => older.ts ≤ newer.ts) :
    code ∈ snapshot.requiredEventCodes now policy ↔
      (∃ event ∈ snapshot.healthEvents, snapshot.Relevant now policy event ∧ event.identity = none ∧
        snapshot.reported event = some code) ∨
      (∃ identity event, snapshot.Newest now policy identity event ∧ snapshot.reported event = some code) ∨
      (code = "managed_env_invalid" ∧ snapshot.invalidManagedEnvSources ≠ []) := by
  have hinvalid : code ∈ (if snapshot.invalidManagedEnvSources ≠ [] then ["managed_env_invalid"] else []) ↔
      code = "managed_env_invalid" ∧ snapshot.invalidManagedEnvSources ≠ [] := by
    split_ifs with hsources
    · simp [hsources]
    · simp [hsources]
  rw [requiredEventCodes_eq h, List.mem_append, hinvalid, List.mem_filterMap, ← or_assoc]
  refine or_congr_left ?_
  constructor
  · rintro ⟨event, hmem, hreported⟩
    rcases mem_firstsFrom.mp hmem with ⟨hmem, hnone⟩ | ⟨identity, _, hfirst⟩
    · obtain ⟨hmem, hskips⟩ := List.mem_filter.mp hmem
      exact .inl ⟨event, hmem, skipsEvent_eq_false.mp (by simpa using hskips), hnone, hreported⟩
    · exact .inr ⟨identity, event, newest_iff.mpr hfirst, hreported⟩
  · rintro (⟨event, hmem, hrelevant, hnone, hreported⟩ | ⟨identity, event, hnewest, hreported⟩)
    · refine ⟨event, mem_firstsFrom.mpr (.inl ⟨List.mem_filter.mpr ⟨hmem, ?_⟩, hnone⟩), hreported⟩
      rw [skipsEvent_eq_false.mpr hrelevant]
      rfl
    · exact ⟨event, mem_firstsFrom.mpr (.inr ⟨identity, fun h => (nomatch h), newest_iff.mp hnewest⟩), hreported⟩

/-! ## What an event reports -/

theorem mem_of_lookup {code : String} {entry : String × Bool} (h : paired.lookup code = some entry) :
    (code, entry) ∈ paired := by
  obtain ⟨before, after, hpaired, _⟩ := List.lookup_eq_some_iff.mp h
  rw [hpaired]
  exact List.mem_append_right _ List.mem_cons_self

/-- Each code is paired once. -/
theorem lookup_of_mem {code : String} {entry : String × Bool} (h : (code, entry) ∈ paired) :
    paired.lookup code = some entry := by
  have hall : (paired.all fun entry => paired.lookup entry.1 = some entry.2) = true := by decide +kernel
  exact of_decide_eq_true (List.all_eq_true.mp hall _ h)

theorem listener_of_lookup {code : String} (h : paired.lookup code = some ("listener", true)) :
    code = "listener_disappeared" := by
  have hall : (paired.all fun entry => entry.2 = ("listener", true) → entry.1 = "listener_disappeared") = true := by
    decide +kernel
  exact of_decide_eq_true (List.all_eq_true.mp hall _ (mem_of_lookup h)) rfl

theorem overridden_of_service (h : event.code = "service_state_changed") : snapshot.Overridden event ↔
    Snapshot.sinceObserved (snapshot.metric "service" (detail "service" event.details) "service_active")
      event = true := by
  simp [Snapshot.Overridden, h]

theorem ne_service_of_paired {entry : String × Bool} (h : paired.lookup event.code = some entry) :
    event.code ≠ "service_state_changed" := by
  intro hcode
  rw [hcode] at h
  exact absurd (mem_of_lookup h) (by simp [paired])

theorem overridden_of_paired {family : String} (h : paired.lookup event.code = some (family, true)) :
    snapshot.Overridden event ↔ family = "listener" ∧ detail "tunnel_id" event.details ≠ "" ∧
      Snapshot.sinceObserved
        (snapshot.metric "tunnel" (detail "tunnel_id" event.details) "listener_ownership_exact") event = true := by
  have hlistener : event.code = "listener_disappeared" ↔ family = "listener" := by
    constructor
    · intro hcode
      have hmem : ("listener_disappeared", "listener", true) ∈ paired := by simp [paired]
      rw [hcode, lookup_of_mem hmem] at h
      cases h
      rfl
    · rintro rfl
      exact listener_of_lookup h
  rw [Snapshot.Overridden, hlistener]
  simp [ne_service_of_paired h]

theorem reported_of_service (h : event.code = "service_state_changed") {code : String} :
    snapshot.reported event = some code ↔
      code = "service_state_changed" ∧ event.Fails ∧ ¬ snapshot.Overridden event := by
  rw [Snapshot.reported, if_pos h, overridden_of_service h, SnapshotEvent.Fails, h]
  simp only [Option.ite_none_right_eq_some, Option.some.injEq, Bool.and_eq_true, Bool.not_eq_true',
    List.contains_iff_mem, Bool.not_eq_true]
  rw [and_comm, eq_comm]

theorem reported_of_paired {family : String} {active : Bool} {code : String}
    (h : paired.lookup event.code = some (family, active)) (hfamily : family ≠ "managed_env") :
    snapshot.reported event = some code ↔ code = event.code ∧ active = true ∧ ¬ snapshot.Overridden event := by
  have hservice := ne_service_of_paired h
  cases active with
  | false => simp [Snapshot.reported, hservice, h, hfamily]
  | true =>
    rw [overridden_of_paired h]
    simp only [Snapshot.reported, if_neg hservice, h, if_neg hfamily, Option.ite_none_right_eq_some,
      Option.some.injEq, Bool.true_and, Bool.not_eq_true', Bool.and_eq_false_iff, decide_eq_false_iff_not,
      true_and]
    rw [and_comm, @eq_comm _ event.code]
    refine and_congr_right fun _ => ?_
    simp [imp_iff_not_or, or_assoc]

theorem reported_of_environment {active : Bool} {code : String}
    (h : paired.lookup event.code = some ("managed_env", active))
    (hreported : snapshot.reported event = some code) :
    code = "managed_env_invalid" ∧ snapshot.invalidManagedEnvSources ≠ [] := by
  simp only [Snapshot.reported, if_neg (ne_service_of_paired h), h, if_true, Option.ite_none_right_eq_some,
    Option.some.injEq, Bool.and_eq_true, decide_eq_true_eq] at hreported
  exact ⟨hreported.2.symm, hreported.1.2⟩

theorem reported_of_none {code : String} (h : event.identity = none) (hreported : snapshot.reported event = some code) :
    code = event.code := by
  unfold SnapshotEvent.identity at h
  split_ifs at h with hservice
  have hlookup := Option.map_eq_none_iff.mp h
  simp only [Snapshot.reported, if_neg hservice, hlookup, Option.ite_none_right_eq_some,
    Option.some.injEq] at hreported
  exact hreported.2.symm

/-- What an event of an incident can report. -/
theorem reported_of_identity {code : String} (h : event.identity = some identity)
    (hreported : snapshot.reported event = some code) :
    (code = "service_state_changed" ∧ identity.1 = "service" ∧ event.Fails ∧ ¬ snapshot.Overridden event) ∨
    (code = event.code ∧ paired.lookup event.code = some (identity.1, true) ∧ identity.1 ≠ "managed_env" ∧
      ¬ snapshot.Overridden event) ∨
    (code = "managed_env_invalid" ∧ snapshot.invalidManagedEnvSources ≠ []) := by
  by_cases hservice : event.code = "service_state_changed"
  · rw [SnapshotEvent.identity, if_pos hservice] at h
    cases h
    obtain ⟨hcode, hfails, hover⟩ := (reported_of_service hservice).mp hreported
    exact .inl ⟨hcode, rfl, hfails, hover⟩
  · rw [SnapshotEvent.identity, if_neg hservice] at h
    obtain ⟨⟨family, active⟩, hlookup, rfl⟩ := Option.map_eq_some_iff.mp h
    by_cases hfamily : family = "managed_env"
    · rw [hfamily] at hlookup
      exact .inr (.inr (reported_of_environment hlookup hreported))
    · obtain ⟨hcode, hactive, hover⟩ := (reported_of_paired hlookup hfamily).mp hreported
      rw [hactive] at hlookup
      exact .inr (.inl ⟨hcode, hlookup, hfamily, hover⟩)

theorem identity_of_paired {entry : String × Bool} (h : paired.lookup event.code = some entry) :
    event.identity = some (entry.1, event.subject) := by
  rw [SnapshotEvent.identity, if_neg (ne_service_of_paired h), h]
  rfl

section Codes

variable (h : Returned snapshot.healthEvents)
include h

/-- The code of a failure is reported when the newest event that counts is that failure. -/
theorem mem_codes_of_paired {failure family : String} (hpaired : (failure, family, true) ∈ paired)
    (hfamily : family ≠ "managed_env") :
    failure ∈ snapshot.requiredEventCodes now policy ↔
      ∃ subject event, snapshot.Newest now policy (family, subject) event ∧ event.code = failure ∧
        ¬ snapshot.Overridden event := by
  have hlookup := lookup_of_mem hpaired
  rw [mem_requiredEventCodes h.sorted]
  constructor
  · rintro (⟨event, _, _, hnone, hreported⟩ | ⟨⟨family', subject⟩, event, hnewest, hreported⟩ | ⟨rfl, _⟩)
    · rw [reported_of_none hnone hreported] at hlookup
      rw [identity_of_paired hlookup] at hnone
      cases hnone
    · rcases reported_of_identity hnewest.identity_eq hreported with ⟨rfl, _⟩ | ⟨rfl, hfound, _, hover⟩ | ⟨rfl, _⟩
      · exact absurd hpaired (by simp [paired])
      · rw [hlookup] at hfound
        cases hfound
        exact ⟨subject, event, hnewest, rfl, hover⟩
      · exact absurd hpaired (by simp [paired])
    · exact absurd hpaired (by simp [paired])
  · rintro ⟨subject, event, hnewest, rfl, hover⟩
    exact .inr (.inl ⟨_, event, hnewest, (reported_of_paired hlookup hfamily).mpr ⟨rfl, rfl, hover⟩⟩)

theorem mem_codes_of_service : "service_state_changed" ∈ snapshot.requiredEventCodes now policy ↔
    ∃ subject event, snapshot.Newest now policy ("service", subject) event ∧ event.Fails ∧
      ¬ snapshot.Overridden event := by
  rw [mem_requiredEventCodes h.sorted]
  constructor
  · rintro (⟨event, _, _, hnone, hreported⟩ | ⟨⟨family, subject⟩, event, hnewest, hreported⟩ | ⟨hcode, _⟩)
    · rw [SnapshotEvent.identity, if_pos (reported_of_none hnone hreported).symm] at hnone
      cases hnone
    · rcases reported_of_identity hnewest.identity_eq hreported with ⟨_, rfl, hfails, hover⟩ | ⟨hcode, hfound, _⟩ | ⟨hcode, _⟩
      · exact ⟨subject, event, hnewest, hfails, hover⟩
      · exact absurd hcode.symm (ne_service_of_paired hfound)
      · exact absurd hcode (by decide)
    · exact absurd hcode (by decide)
  · rintro ⟨subject, event, hnewest, hfails, hover⟩
    have hidentity := hnewest.identity_eq
    have hservice : event.code = "service_state_changed" := by
      by_contra hne
      rw [SnapshotEvent.identity, if_neg hne] at hidentity
      obtain ⟨⟨family, active⟩, hlookup, hentry⟩ := Option.map_eq_some_iff.mp hidentity
      cases hentry
      exact absurd (mem_of_lookup hlookup) (by simp [paired])
    exact .inr (.inl ⟨_, event, hnewest, (reported_of_service hservice).mpr ⟨rfl, hfails, hover⟩⟩)

/-- The code for the environment does not come from events. -/
theorem mem_codes_of_environment : "managed_env_invalid" ∈ snapshot.requiredEventCodes now policy ↔
    snapshot.invalidManagedEnvSources ≠ [] := by
  rw [mem_requiredEventCodes h.sorted]
  constructor
  · rintro (⟨event, hmem, _, hnone, hreported⟩ | ⟨identity, event, hnewest, hreported⟩ | ⟨_, hinvalid⟩)
    · have hcode := h.codes event hmem
      rw [← reported_of_none hnone hreported] at hcode
      exact absurd hcode (by decide)
    · rcases reported_of_identity hnewest.identity_eq hreported with ⟨hcode, _⟩ | ⟨hcode, hfound, _⟩ | ⟨_, hinvalid⟩
      · exact absurd hcode (by decide)
      · rw [← hcode] at hfound
        exact absurd (mem_of_lookup hfound) (by simp [paired])
      · exact hinvalid
    · exact hinvalid
  · exact fun hinvalid => .inr (.inr ⟨rfl, hinvalid⟩)

theorem env_parse_error_notMem : "env_parse_error" ∉ snapshot.requiredEventCodes now policy := by
  have hlookup : paired.lookup "env_parse_error" = some ("managed_env", true) := lookup_of_mem (by simp [paired])
  rw [mem_requiredEventCodes h.sorted]
  rintro (⟨event, _, _, hnone, hreported⟩ | ⟨identity, event, hnewest, hreported⟩ | ⟨hcode, _⟩)
  · rw [reported_of_none hnone hreported] at hlookup
    rw [identity_of_paired hlookup] at hnone
    cases hnone
  · rcases reported_of_identity hnewest.identity_eq hreported with ⟨hcode, _⟩ | ⟨hcode, hfound, hfamily, _⟩ | ⟨hcode, _⟩
    · exact absurd hcode (by decide)
    · rw [← hcode, hlookup, Option.some.injEq, Prod.mk.injEq] at hfound
      exact hfamily hfound.1.symm
    · exact absurd hcode (by decide)
  · exact absurd hcode (by decide)

/-- Events of an incident that are older than one that counts do not matter. -/
theorem requiredEventCodes_older {newer older older' : List SnapshotEvent}
    (hevents : snapshot.healthEvents = newer ++ event :: older)
    (hsorted : (newer ++ event :: older').Pairwise fun newer older => older.ts ≤ newer.ts)
    (hrelevant : snapshot.Relevant now policy event) (hidentity : event.identity = some identity)
    (holder : (older.filter fun other => other.identity ≠ some identity) =
      older'.filter fun other => other.identity ≠ some identity) :
    { snapshot with healthEvents := newer ++ event :: older' }.requiredEventCodes now policy =
      snapshot.requiredEventCodes now policy := by
  have hcounts : (!snapshot.skipsEvent now policy event) = true := by
    rw [skipsEvent_eq_false.mpr hrelevant]
    rfl
  have hfilter : ((older.filter fun event => !snapshot.skipsEvent now policy event).filter
      fun other => other.identity ≠ some identity) =
      (older'.filter fun event => !snapshot.skipsEvent now policy event).filter
        fun other => other.identity ≠ some identity := by
    rw [List.filter_comm, holder, List.filter_comm]
  have hcons : ∀ l : List SnapshotEvent,
      ((event :: l).filter fun event => !snapshot.skipsEvent now policy event) =
        event :: l.filter fun event => !snapshot.skipsEvent now policy event := fun _ =>
    List.filter_cons_of_pos hcounts
  have hskips : ({ snapshot with healthEvents := newer ++ event :: older' } : Snapshot).skipsEvent now policy =
      snapshot.skipsEvent now policy := rfl
  rw [requiredEventCodes_eq h.sorted, requiredEventCodes_eq hsorted, hskips, hevents]
  rw [List.filter_append, List.filter_append, hcons, hcons, firstsFrom_append hidentity hfilter]
  rfl

end Codes

/-! ## Folding -/

/-- The newest event that counts for an incident says whether its failure is reported, and older ones do not
matter. The environment is reported by its invalid sources alone. -/
theorem requiredEventCodes_folds (snapshot : Snapshot) (now : Int) (policy : HealthPolicy)
    (h : Returned snapshot.healthEvents) :
    (∀ failure family, (failure, family, true) ∈ paired → family ≠ "managed_env" →
      (failure ∈ snapshot.requiredEventCodes now policy ↔
        ∃ subject event, snapshot.Newest now policy (family, subject) event ∧ event.code = failure ∧
          ¬ snapshot.Overridden event)) ∧
    ("service_state_changed" ∈ snapshot.requiredEventCodes now policy ↔
      ∃ subject event, snapshot.Newest now policy ("service", subject) event ∧ event.Fails ∧
        ¬ snapshot.Overridden event) ∧
    ("managed_env_invalid" ∈ snapshot.requiredEventCodes now policy ↔ snapshot.invalidManagedEnvSources ≠ []) ∧
    "env_parse_error" ∉ snapshot.requiredEventCodes now policy ∧
    ∀ newer event older older' identity, snapshot.healthEvents = newer ++ event :: older →
      ((newer ++ event :: older').Pairwise fun newer older => older.ts ≤ newer.ts) →
      snapshot.Relevant now policy event → event.identity = some identity →
      ((older.filter fun other => other.identity ≠ some identity) =
        older'.filter fun other => other.identity ≠ some identity) →
      { snapshot with healthEvents := newer ++ event :: older' }.requiredEventCodes now policy =
        snapshot.requiredEventCodes now policy :=
  ⟨fun _ _ hpaired hfamily => mem_codes_of_paired h hpaired hfamily, mem_codes_of_service h,
    mem_codes_of_environment h, env_parse_error_notMem h,
    fun _ _ _ _ _ hevents hsorted hrelevant hidentity holder =>
      requiredEventCodes_older h hevents hsorted hrelevant hidentity holder⟩

/-- An event of the node at a time. -/
def nodeEvent (ts : Int) (code : String) : SnapshotEvent where
  ts
  severity := "warning"
  code
  details := []

/-- A snapshot with some events, and perhaps invalid sources. -/
def eventfulSnapshot (events : List SnapshotEvent) (invalid : List String) : Snapshot where
  generatedAt := 100
  cycle := none
  metrics := []
  entities := []
  healthEvents := events
  healthEventsTruncated := false
  currentMembershipAuthoritative := true
  invalidManagedEnvSources := invalid

/-- A collection that has failed and recovered: it is not reported, and the failure does not matter. -/
theorem requiredEventCodes_folds_recovered :
    ("collection_failed" ∈ (eventfulSnapshot [nodeEvent 90 "collection_recovered",
        nodeEvent 80 "collection_failed"] []).requiredEventCodes 100 {} ↔
      ∃ subject event, (eventfulSnapshot [nodeEvent 90 "collection_recovered",
          nodeEvent 80 "collection_failed"] []).Newest 100 {} ("collection", subject) event ∧
        event.code = "collection_failed" ∧ ¬ (eventfulSnapshot [nodeEvent 90 "collection_recovered",
          nodeEvent 80 "collection_failed"] []).Overridden event) ∧
    (eventfulSnapshot [nodeEvent 90 "collection_recovered"] []).requiredEventCodes 100 {} =
      (eventfulSnapshot [nodeEvent 90 "collection_recovered",
        nodeEvent 80 "collection_failed"] []).requiredEventCodes 100 {} := by
  have hreturned : Returned (eventfulSnapshot [nodeEvent 90 "collection_recovered",
      nodeEvent 80 "collection_failed"] []).healthEvents := by
    refine ⟨?_, ?_⟩
    · simp [eventfulSnapshot, nodeEvent]
    · simp [eventfulSnapshot, nodeEvent, healthEventCodes]
  have hfolds := requiredEventCodes_folds _ 100 {} hreturned
  refine ⟨hfolds.1 _ _ (by simp [paired]) (by decide), ?_⟩
  refine hfolds.2.2.2.2 [] _ [nodeEvent 80 "collection_failed"] [] ("collection", "global") rfl
    (List.pairwise_singleton _ _) (skipsEvent_eq_false.mp (by decide)) (by decide) ?_
  have hidentity : (nodeEvent 80 "collection_failed").identity = some ("collection", "global") := by decide
  exact List.filter_cons_of_neg (by simp [hidentity])

/-- The code that begins an incident of the environment is never reported, and the code that is reported needs no
event. -/
theorem not_requiredEventCodes_folds :
    (¬ ∀ (snapshot : Snapshot) now policy, Returned snapshot.healthEvents →
      ("env_parse_error" ∈ snapshot.requiredEventCodes now policy ↔
        ∃ subject event, snapshot.Newest now policy ("managed_env", subject) event ∧
          event.code = "env_parse_error" ∧ snapshot.invalidManagedEnvSources ≠ [])) ∧
    ¬ ∀ (snapshot : Snapshot) now policy, Returned snapshot.healthEvents →
      ("managed_env_invalid" ∈ snapshot.requiredEventCodes now policy ↔
        ∃ subject event, snapshot.Newest now policy ("managed_env", subject) event ∧
          event.code = "env_parse_error" ∧ snapshot.invalidManagedEnvSources ≠ []) := by
  constructor
  · intro h
    have hreturned : Returned (eventfulSnapshot [nodeEvent 90 "env_parse_error"] ["iran-1.env"]).healthEvents := by
      refine ⟨List.pairwise_singleton _ _, ?_⟩
      simp [eventfulSnapshot, nodeEvent, healthEventCodes]
    refine env_parse_error_notMem hreturned ((h _ 100 {} hreturned).mpr
      ⟨"global", _, ⟨[], [], rfl, ?_, by decide, fun _ hmem => nomatch hmem⟩, rfl, List.cons_ne_nil _ _⟩)
    exact skipsEvent_eq_false.mp (by decide)
  · intro h
    have hreturned : Returned (eventfulSnapshot [] ["iran-1.env"]).healthEvents :=
      ⟨List.Pairwise.nil, fun _ hmem => nomatch hmem⟩
    obtain ⟨_, _, ⟨newer, older, hevents, _⟩, _⟩ :=
      (h _ 100 {} hreturned).mp ((mem_codes_of_environment hreturned).mpr (List.cons_ne_nil _ _))
    exact List.cons_ne_nil _ _ (List.append_eq_nil_iff.mp hevents.symm).2

end Monitoring.Health
