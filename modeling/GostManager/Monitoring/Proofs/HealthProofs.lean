import GostManager.Lists.Proofs.DictionaryProofs
import GostManager.Monitoring.Health

/-!
# Proofs: health

Each evaluator says `healthy` of exactly the observations that it looks at, and the overall status is
`healthy` when all of them do. What none of them looks at is what a healthy snapshot can lack.
-/

namespace Monitoring.Health

open Lists

variable {m : Option SnapshotMetric} {values : List SnapshotMetric} {snapshot : Snapshot}
  {policy : HealthPolicy} {percent : ℚ → String} {status status' : Status} {now : Int} {service : String}

/-! ## Statuses -/

theorem max_eq_healthy : status.max status' = .healthy ↔ status = .healthy ∧ status'.rank = 0 := by
  cases status <;> cases status' <;> simp [Status.max, Status.rank]

theorem lower_ne_healthy : status.lower ≠ .healthy := by
  cases status <;> simp [Status.lower]

/-- A remark lowers a status that is healthy. -/
theorem ite_lower_eq_healthy {remark : Prop} [Decidable remark] :
    (if remark then status.lower else status) = .healthy ↔ ¬ remark ∧ status = .healthy := by
  by_cases h : remark
  · rw [if_pos h]
    exact ⟨fun heq => absurd heq lower_ne_healthy, fun hand => absurd h hand.1⟩
  · rw [if_neg h]
    exact ⟨fun heq => ⟨h, heq⟩, And.right⟩

theorem foldl_max_eq_healthy {candidates : List Status} :
    candidates.foldl Status.max status = .healthy ↔
      status = .healthy ∧ ∀ candidate ∈ candidates, candidate.rank = 0 := by
  induction candidates generalizing status with
  | nil => simp
  | cons candidate candidates ih =>
    rw [List.foldl_cons, ih, max_eq_healthy, List.forall_mem_cons, and_assoc]

/-- The results of entities leave a status healthy when they are. -/
theorem foldl_raiseBy_eq_healthy {entityType title : String} {results : List HealthResult}
    {overall : Status × List (String × String)} :
    (results.foldl (raiseBy entityType title) overall).1 = .healthy ↔
      overall.1 = .healthy ∧ ∀ result ∈ results, result.status = .healthy := by
  induction results generalizing overall with
  | nil => simp
  | cons result results ih =>
    have hrank : (if result.status = .down then .critical else result.status).rank = 0 ↔
        result.status = .healthy := by
      cases result.status <;> simp [Status.rank]
    rw [List.foldl_cons, ih, raiseBy, max_eq_healthy, hrank, List.forall_mem_cons, and_assoc]

/-! ## The node -/

theorem thresholdStatus_rank {degraded critical : ℚ} {code : String} {verdict : Status × String × String}
    (h : thresholdStatus percent m degraded critical code = some verdict) : verdict.1.rank ≠ 0 := by
  unfold thresholdStatus at h
  split at h
  · cases h
  · split_ifs at h <;> simp only [Option.some.injEq] at h <;> subst h <;> simp [Status.rank]

theorem thresholdStatus_eq_none {degraded critical : ℚ} {code : String} :
    thresholdStatus percent m degraded critical code = none ↔ Below degraded m ∧ Below critical m := by
  unfold thresholdStatus Below
  cases hvalue : m.bind (·.numericValue) with
  | none => simp
  | some value =>
    simp only [Option.mem_some_iff, forall_eq', ← not_le]
    split_ifs <;> simp_all

/-- No threshold is exceeded. -/
theorem exceeded_eq_healthy :
    ((snapshot.exceeded percent policy).map Prod.fst).foldl Status.max .healthy = .healthy ↔
      ∀ check ∈ snapshot.checks policy, Below check.2.1 check.1 ∧ Below check.2.2.1 check.1 := by
  rw [foldl_max_eq_healthy]
  constructor
  · rintro ⟨_, hrank⟩ check hcheck
    have hnone : thresholdStatus percent check.1 check.2.1 check.2.2.1 check.2.2.2 = none := by
      rw [Option.eq_none_iff_forall_ne_some]
      intro verdict hverdict
      refine thresholdStatus_rank hverdict (hrank _ (List.mem_map_of_mem ?_))
      exact List.mem_filterMap.mpr ⟨check, hcheck, hverdict⟩
    exact thresholdStatus_eq_none.mp hnone
  · intro hchecks
    refine ⟨rfl, fun candidate hmem => ?_⟩
    obtain ⟨verdict, hverdict, rfl⟩ := List.mem_map.mp hmem
    obtain ⟨check, hcheck, hsome⟩ := List.mem_filterMap.mp hverdict
    rw [thresholdStatus_eq_none.mpr (hchecks check hcheck)] at hsome
    cases hsome

theorem observedNode_eq_healthy : (snapshot.observedNode percent now policy).1 = .healthy ↔
    (∀ check ∈ snapshot.checks policy, Below check.2.1 check.1 ∧ Below check.2.2.1 check.1) ∧
    (∀ m ∈ snapshot.required, isUnavailable m = false) ∧
    (∀ code ∈ "managed_env_invalid" :: Snapshot.incidentCodes,
      code ∉ snapshot.requiredEventCodes now policy) ∧
    snapshot.healthEventsTruncated = false := by
  have hmissing : ∀ {status : Status} {missing : Bool},
      (if missing then (if status = .critical then status else .unknown) else status) = .healthy ↔
        missing = false ∧ status = .healthy := by
    intro status missing
    cases status <;> cases missing <;> decide
  have hincident : ((snapshot.requiredEventCodes now policy).any Snapshot.incidentCodes.contains) = true ↔
      ∃ code ∈ Snapshot.incidentCodes, code ∈ snapshot.requiredEventCodes now policy := by
    simp only [List.any_eq_true, List.contains_iff_mem, and_comm]
  simp only [Snapshot.observedNode, ite_lower_eq_healthy, hmissing, exceeded_eq_healthy, hincident,
    List.contains_iff_mem, List.any_eq_false, List.forall_mem_cons, Bool.not_eq_true]
  constructor
  · rintro ⟨htruncated, hinvalid, hincident, hmissing, hchecks⟩
    exact ⟨hchecks, hmissing, ⟨hinvalid, fun code hcode hmem => hincident ⟨code, hcode, hmem⟩⟩, htruncated⟩
  · rintro ⟨hchecks, hmissing, ⟨hinvalid, hincident⟩, htruncated⟩
    exact ⟨htruncated, hinvalid, fun ⟨code, hcode, hmem⟩ => hincident code hcode hmem, hmissing, hchecks⟩

theorem evaluateNode_eq_healthy : (snapshot.evaluateNode percent now policy).status = .healthy ↔
    (∃ cycle ∈ snapshot.cycle, cycle.success = true ∧
      max 0 (now - cycle.collectedAt) ≤ policy.staleAfterSeconds) ∧
    (snapshot.observedNode percent now policy).1 = .healthy := by
  unfold Snapshot.evaluateNode
  cases hcycle : snapshot.cycle with
  | none => simp
  | some cycle =>
    simp only [Option.mem_some_iff, exists_eq_left']
    split_ifs with hage hsuccess
    · simp only [false_iff]
      exact fun h => absurd h.1.2 (not_le.mpr hage)
    · simp_all
    · simp_all

/-! ## Services and tunnels -/

theorem exactly_ne_zero :
    (isUnavailable m = false ∧ isExact m = true ∧ number m ≠ 0) ↔ Exactly (· ≠ 0) m := by
  have hnumber : number m ≠ 0 ↔ ∃ value ∈ m.bind (·.numericValue), value ≠ 0 := by
    unfold number
    cases m.bind (·.numericValue) <;> simp
  rw [hnumber]
  rfl

theorem serviceVerdict_eq_healthy : (serviceVerdict values).1 = .healthy ↔
    Exactly (· ≠ 0) (byName values "service_active") ∧
    isUnavailable (byName values "process_rss_bytes") = false ∧
    Exactly (· ≠ 0) (byName values "listener_owned_count") := by
  rw [← exactly_ne_zero, ← exactly_ne_zero]
  simp only [serviceVerdict]
  split_ifs <;> grind

theorem tunnelVerdict_eq_healthy : (tunnelVerdict values).1 = .healthy ↔
    Exactly (· ≠ 0) (byName values "service_active") ∧
    Exactly (· ≠ 0) (byName values "listener_ownership_exact") := by
  rw [← exactly_ne_zero, ← exactly_ne_zero]
  simp only [tunnelVerdict]
  split_ifs <;> grind

/-! ## Entities with metrics -/

section Groups

variable {entityType entityId metricName : String} {entity : String × List SnapshotMetric}

theorem of_metric_eq_some {observation : SnapshotMetric}
    (h : snapshot.metric entityType entityId metricName = some observation) :
    observation ∈ snapshot.metrics ∧ observation.entityType = entityType ∧
      observation.entityId = entityId := by
  obtain ⟨hmem, hkey⟩ := (find_eq_some nodup_dictionary).mp h
  simp only [SnapshotMetric.key, Prod.mk.injEq] at hkey
  exact ⟨mem_of_mem_dictionary hmem, hkey.1, hkey.2.1⟩

theorem exists_of_available (h : isUnavailable (snapshot.metric entityType entityId metricName) = false) :
    ∃ observation ∈ snapshot.metrics, observation.entityType = entityType ∧
      observation.entityId = entityId := by
  cases hmetric : snapshot.metric entityType entityId metricName with
  | none =>
    rw [hmetric] at h
    cases h
  | some observation => exact ⟨observation, of_metric_eq_some hmetric⟩

/-- The groups are the entities of the metrics, each with the metrics of it that are looked up. -/
theorem mem_grouped : entity ∈ snapshot.grouped entityType ↔
    (∃ observation ∈ snapshot.metrics, observation.entityType = entityType ∧
      observation.entityId = entity.1) ∧
    entity.2 = (snapshot.metricMap.filter (·.entityType = entityType)).filter (·.entityId = entity.1) := by
  obtain ⟨entityId, values⟩ := entity
  have hkeys : (∃ observation ∈ snapshot.metricMap, observation.entityType = entityType ∧
        observation.entityId = entityId) ↔
      ∃ observation ∈ snapshot.metrics, observation.entityType = entityType ∧
        observation.entityId = entityId := by
    constructor
    · rintro ⟨observation, hmem, hof⟩
      exact ⟨observation, mem_of_mem_dictionary hmem, hof⟩
    · rintro ⟨observation, hmem, htype, hid⟩
      have hkey : observation.key ∈ snapshot.metricMap.map SnapshotMetric.key :=
        mem_keys_dictionary.mpr (List.mem_map_of_mem hmem)
      obtain ⟨stored, hstored, heq⟩ := List.mem_map.mp hkey
      simp only [SnapshotMetric.key, Prod.mk.injEq] at heq
      exact ⟨stored, hstored, heq.1.trans htype, heq.2.1.trans hid⟩
  have hids : entityId ∈ dictionary id ((snapshot.metricMap.filter (·.entityType = entityType)).map
        (·.entityId)) ↔
      ∃ observation ∈ snapshot.metricMap, observation.entityType = entityType ∧
        observation.entityId = entityId := by
    have hmap := @mem_keys_dictionary _ _ _ id ((snapshot.metricMap.filter
      (·.entityType = entityType)).map (·.entityId)) entityId
    rw [List.map_id, List.map_id] at hmap
    rw [hmap]
    simp only [List.mem_map, List.mem_filter, decide_eq_true_eq, and_assoc]
  rw [← hkeys, ← hids]
  simp only [Snapshot.grouped, List.mem_map, Prod.mk.injEq]
  constructor
  · rintro ⟨_, hmem, rfl, rfl⟩
    exact ⟨hmem, rfl⟩
  · rintro ⟨hmem, hvalues⟩
    exact ⟨entityId, hmem, rfl, hvalues.symm⟩

theorem exists_mem_grouped (h : ∃ observation ∈ snapshot.metrics, observation.entityType = entityType ∧
    observation.entityId = entityId) : ∃ values, (entityId, values) ∈ snapshot.grouped entityType := by
  refine ⟨(snapshot.metricMap.filter (·.entityType = entityType)).filter (·.entityId = entityId), ?_⟩
  exact mem_grouped.mpr ⟨h, rfl⟩

/-- What an entity knows by a name is what the snapshot knows of it. -/
theorem byName_of_mem_grouped (h : entity ∈ snapshot.grouped entityType) :
    byName entity.2 metricName = snapshot.metric entityType entity.1 metricName := by
  obtain ⟨_, hvalues⟩ := mem_grouped.mp h
  have hnodup : (entity.2.map SnapshotMetric.metricName).Nodup := by
    rw [hvalues, List.filter_filter]
    refine List.Nodup.map_on ?_ ((nodup_dictionary.of_map _).filter _)
    intro observation hmem observation' hmem' hname
    simp only [List.mem_filter, Bool.and_eq_true, decide_eq_true_eq] at hmem hmem'
    refine List.inj_on_of_nodup_map nodup_dictionary hmem.1 hmem'.1 ?_
    simp only [SnapshotMetric.key, hname, hmem.2.1, hmem.2.2, hmem'.2.1, hmem'.2.2]
  rw [byName, dictionary_of_nodup hnodup, hvalues, Snapshot.metric, find, find, List.find?_filter,
    List.find?_filter]
  congr 1
  funext observation
  simp only [SnapshotMetric.key, Prod.mk.injEq, Bool.decide_and, decide_eq_true_eq, Bool.decide_eq_true]

end Groups

/-- Each tunnel with metrics is healthy when its service is active and its listener is owned. -/
theorem evaluateTunnels_eq_healthy :
    (∀ result ∈ snapshot.evaluateTunnels now, result.status = .healthy) ↔
      ∀ m ∈ snapshot.metrics, m.entityType = "tunnel" →
        Exactly (· ≠ 0) (snapshot.metric "tunnel" m.entityId "service_active") ∧
        Exactly (· ≠ 0) (snapshot.metric "tunnel" m.entityId "listener_ownership_exact") := by
  have hverdict : ∀ entity ∈ snapshot.grouped "tunnel",
      (entityResult tunnelVerdict now "tunnel" entity).status = .healthy ↔
        Exactly (· ≠ 0) (snapshot.metric "tunnel" entity.1 "service_active") ∧
        Exactly (· ≠ 0) (snapshot.metric "tunnel" entity.1 "listener_ownership_exact") := by
    intro entity hentity
    rw [entityResult, tunnelVerdict_eq_healthy, byName_of_mem_grouped hentity, byName_of_mem_grouped hentity]
  simp only [Snapshot.evaluateTunnels, List.forall_mem_map]
  constructor
  · intro hhealthy m hm htype
    obtain ⟨values, hentity⟩ := exists_mem_grouped ⟨m, hm, htype, rfl⟩
    exact (hverdict _ hentity).mp (hhealthy _ hentity)
  · intro hseen entity hentity
    obtain ⟨⟨m, hm, htype, hid⟩, _⟩ := mem_grouped.mp hentity
    exact (hverdict entity hentity).mpr (hid ▸ hseen m hm htype)

/-- A required service is healthy when it is active, its process is known and it owns a listener. -/
theorem evaluateServices_eq_healthy (hmembership : snapshot.currentMembershipAuthoritative = true) :
    (∀ result ∈ snapshot.evaluateServices now, result.entityId ∈ snapshot.requiredServices →
        result.status = .healthy) ↔
      ∀ service ∈ snapshot.requiredServices,
        Exactly (· ≠ 0) (snapshot.metric "service" service "service_active") ∧
        isUnavailable (snapshot.metric "service" service "process_rss_bytes") = false ∧
        Exactly (· ≠ 0) (snapshot.metric "service" service "listener_owned_count") := by
  have hverdict : ∀ entity ∈ snapshot.grouped "service",
      (entityResult serviceVerdict now "service" entity).status = .healthy ↔
        Exactly (· ≠ 0) (snapshot.metric "service" entity.1 "service_active") ∧
        isUnavailable (snapshot.metric "service" entity.1 "process_rss_bytes") = false ∧
        Exactly (· ≠ 0) (snapshot.metric "service" entity.1 "listener_owned_count") := by
    intro entity hentity
    rw [entityResult, serviceVerdict_eq_healthy, byName_of_mem_grouped hentity,
      byName_of_mem_grouped hentity, byName_of_mem_grouped hentity]
  simp only [Snapshot.evaluateServices, if_pos hmembership, List.forall_mem_append, List.forall_mem_map]
  constructor
  · rintro ⟨hgrouped, hmissing⟩ service hservice
    by_cases hentity : ∃ entity ∈ snapshot.grouped "service", entity.1 = service
    · obtain ⟨entity, hentity, rfl⟩ := hentity
      exact (hverdict entity hentity).mp (hgrouped entity hentity hservice)
    · -- A required service without metrics is reported as unknown.
      refine absurd (hmissing service (List.mem_filter.mpr ⟨hservice, ?_⟩) hservice) (by simp)
      simpa [entityResult] using fun values hvalues => hentity ⟨(service, values), hvalues, rfl⟩
  · intro hseen
    refine ⟨fun entity hentity hrequired => (hverdict entity hentity).mpr (hseen _ hrequired), ?_⟩
    intro service hservice _
    obtain ⟨hrequired, hmissing⟩ := List.mem_filter.mp hservice
    obtain ⟨values, hentity⟩ := exists_mem_grouped (exists_of_available (hseen service hrequired).1.1)
    simp only [List.map_map, Bool.not_eq_true', ← Bool.not_eq_true, List.contains_iff_mem,
      List.mem_map] at hmissing
    exact absurd ⟨_, hentity, rfl⟩ hmissing

/-! ## The snapshot -/

/-- The overall status is `healthy` when no observation that is looked at is bad. -/
theorem evaluateSnapshot_eq_healthy (hmembership : snapshot.currentMembershipAuthoritative = true) :
    (evaluateSnapshot percent snapshot policy).overall.status = .healthy ↔ snapshot.Observed policy := by
  have hrequired : ∀ results : List HealthResult,
      (∀ result ∈ results.filter fun result => snapshot.requiredServices.contains result.entityId,
        result.status = .healthy) ↔
      ∀ result ∈ results, result.entityId ∈ snapshot.requiredServices → result.status = .healthy := by
    intro results
    simp only [List.mem_filter, List.contains_iff_mem, and_imp]
  simp only [evaluateSnapshot, foldl_raiseBy_eq_healthy, hrequired, evaluateServices_eq_healthy hmembership,
    evaluateTunnels_eq_healthy, evaluateNode_eq_healthy, observedNode_eq_healthy]
  constructor
  · rintro ⟨⟨⟨hcycle, hchecks, hmissing, hincidents, hevents⟩, hservices⟩, htunnels⟩
    exact ⟨hcycle, hmissing, hchecks, hservices, htunnels, hincidents, hevents⟩
  · rintro ⟨hcycle, hmissing, hchecks, hservices, htunnels, hincidents, hevents⟩
    exact ⟨⟨⟨hcycle, hchecks, hmissing, hincidents, hevents⟩, hservices⟩, htunnels⟩

theorem seenBelow_of_below {bound : ℚ} (havailable : isUnavailable m = false) (hbelow : Below bound m)
    (hvalue : (m.bind (·.numericValue)).isSome = true) : SeenBelow bound m := by
  obtain ⟨value, hsome⟩ := Option.isSome_iff_exists.mp hvalue
  exact ⟨havailable, value, hsome, hbelow value hsome⟩

theorem isSome_of_seenBelow {bound : ℚ} (h : SeenBelow bound m) :
    (m.bind (·.numericValue)).isSome = true := by
  obtain ⟨_, value, hvalue, _⟩ := h
  exact Option.isSome_iff_exists.mpr ⟨value, hvalue⟩

theorem exactly_pos (h : Exactly (· ≠ 0) m) (hnonneg : ∀ value ∈ m.bind (·.numericValue), 0 ≤ value) :
    Exactly (0 < ·) m := by
  obtain ⟨havailable, hexact, value, hvalue, hne⟩ := h
  exact ⟨havailable, hexact, value, hvalue, lt_of_le_of_ne (hnonneg value hvalue) hne.symm⟩

theorem nonneg_of_exactly_pos (h : Exactly (0 < ·) m) : ∀ value ∈ m.bind (·.numericValue), 0 ≤ value := by
  obtain ⟨_, _, value, hvalue, hpos⟩ := h
  intro value' hvalue'
  rw [Option.mem_unique hvalue' hvalue]
  exact le_of_lt hpos

/-- What a snapshot with nothing bad lacks for what `healthy` promises. -/
theorem sound_iff_traced (hmembership : snapshot.currentMembershipAuthoritative = true)
    (h : snapshot.Observed policy) : snapshot.Sound percent policy ↔ snapshot.Traced := by
  have hcodes := h.incidents
  have hchecks := h.checks
  have hmissing := h.required
  simp only [Snapshot.checks, Snapshot.required, List.forall_mem_cons, List.not_mem_nil, false_implies,
    implies_true, and_true] at hcodes hchecks hmissing
  obtain ⟨hcpu, hmemory, hfilesystem, hconntrack, hfileHandles⟩ := hchecks
  have hhealthy := (@evaluateServices_eq_healthy snapshot snapshot.generatedAt hmembership).mpr h.services
  constructor
  · intro hsound
    constructor
    · simp only [Snapshot.required, List.forall_mem_cons, List.not_mem_nil, false_implies, implies_true,
        and_true]
      exact ⟨isSome_of_seenBelow hsound.cpu, isSome_of_seenBelow hsound.memory,
        isSome_of_seenBelow hsound.filesystem⟩
    · intro entity hentity
      exact exists_of_available (hsound.tunnels entity hentity).2.1.1
    · intro service hservice
      exact nonneg_of_exactly_pos (hsound.services service hservice).2.2
  · intro htraced
    have hvalues := htraced.required
    simp only [Snapshot.required, List.forall_mem_cons, List.not_mem_nil, false_implies, implies_true,
      and_true] at hvalues
    constructor
    · obtain ⟨cycle, hcycle, hsuccess, hage⟩ := h.cycle
      exact ⟨cycle, hcycle, hsuccess, le_trans (le_max_right _ _) hage⟩
    · exact seenBelow_of_below hmissing.1 hcpu.1 hvalues.1
    · exact seenBelow_of_below hmissing.2.1 hmemory.1 hvalues.2.1
    · exact seenBelow_of_below hmissing.2.2 hfilesystem.1 hvalues.2.2
    · exact hconntrack.1
    · exact hfileHandles.1
    · intro service hservice
      obtain ⟨hactive, hprocess, hlistener⟩ := h.services service hservice
      obtain ⟨values, hentity⟩ := exists_mem_grouped (exists_of_available hactive.1)
      have hresult : entityResult serviceVerdict snapshot.generatedAt "service" (service, values) ∈
          snapshot.evaluateServices snapshot.generatedAt :=
        List.mem_append_left _ (List.mem_map_of_mem hentity)
      refine ⟨⟨_, List.mem_map_of_mem hresult, rfl, hhealthy _ hresult hservice⟩, hactive, ?_⟩
      exact exactly_pos hlistener (htraced.listeners service hservice)
    · intro entity hentity
      obtain ⟨m, hm, htype, hid⟩ := htraced.tunnels entity hentity
      obtain ⟨values, hgroup⟩ := exists_mem_grouped ⟨m, hm, htype, hid⟩
      have hresult : entityResult tunnelVerdict snapshot.generatedAt "tunnel" (entity.entityId, values) ∈
          snapshot.evaluateTunnels snapshot.generatedAt := List.mem_map_of_mem hgroup
      exact ⟨⟨_, hresult, rfl, evaluateTunnels_eq_healthy.mpr h.tunnels _ hresult⟩,
        hid ▸ h.tunnels m hm htype⟩
    · exact hcodes.2
    · by_contra hinvalid
      refine hcodes.1 ?_
      rw [Snapshot.requiredEventCodes, if_pos hinvalid]
      exact List.mem_append_right _ (List.mem_singleton.mpr rfl)
    · exact h.events

/-- A snapshot is what its overall status `healthy` promises exactly when something that is there is bad, or
nothing that is required is missing without a trace. -/
theorem healthy_isSound_iff (hmembership : snapshot.currentMembershipAuthoritative = true) :
    ((evaluateSnapshot percent snapshot policy).overall.status = .healthy → snapshot.Sound percent policy) ↔
      (snapshot.Observed policy → snapshot.Traced) := by
  rw [evaluateSnapshot_eq_healthy hmembership]
  constructor
  · exact fun hsound hobserved => (sound_iff_traced hmembership hobserved).mp (hsound hobserved)
  · exact fun htraced hobserved => (sound_iff_traced hmembership hobserved).mpr (htraced hobserved)

/-- A snapshot whose host is fine, with one tunnel, and with such metrics of it and its service. -/
def quiet (metrics : List SnapshotMetric) : Snapshot where
  generatedAt := 1000
  cycle := some ⟨995, true⟩
  metrics := [⟨"host", "local", "cpu_utilization_percent", 995, some 10, .derived, false⟩,
    ⟨"host", "local", "memory_used_percent", 995, some 20, .derived, false⟩,
    ⟨"filesystem", "fs:/", "filesystem_used_percent", 995, some 30, .derived, false⟩] ++ metrics
  entities := [⟨"tunnel", "iran:2001", [("service", "gost-iran")], 900⟩]
  healthEvents := []
  healthEventsTruncated := false
  currentMembershipAuthoritative := true
  invalidManagedEnvSources := []

/-- What is known of a service that is active and owns a listener. -/
def serving : List SnapshotMetric :=
  [⟨"service", "gost-iran", "service_active", 995, some 1, .exact, false⟩,
    ⟨"service", "gost-iran", "process_rss_bytes", 995, some 4096, .exact, false⟩,
    ⟨"service", "gost-iran", "listener_owned_count", 995, some 1, .exact, false⟩]

/-- What is known of a tunnel of it. -/
def tunneling : List SnapshotMetric :=
  [⟨"tunnel", "iran:2001", "service_active", 995, some 1, .exact, false⟩,
    ⟨"tunnel", "iran:2001", "listener_ownership_exact", 995, some 1, .exact, false⟩]

theorem healthy_isSound_of_tunneling : (quiet (serving ++ tunneling)).Sound (fun _ => "") {} := by
  have htraced : (quiet (serving ++ tunneling)).Traced := by
    constructor
    · decide +kernel
    · intro entity hentity
      have hid : entity.entityId = "iran:2001" := by
        rw [List.mem_singleton.mp hentity]
      rw [hid]
      exact ⟨⟨"tunnel", "iran:2001", "service_active", 995, some 1, .exact, false⟩, by decide +kernel, rfl, rfl⟩
    · decide +kernel
  exact (healthy_isSound_iff rfl).mpr (fun _ => htraced) (by decide +kernel)

/-- A tunnel of which nothing is known leaves the overall status healthy. -/
theorem not_healthy_isSound : ¬ ∀ (percent : ℚ → String) (snapshot : Snapshot) (policy : HealthPolicy),
    snapshot.currentMembershipAuthoritative = true →
    (evaluateSnapshot percent snapshot policy).overall.status = .healthy → snapshot.Sound percent policy := by
  intro h
  have hsound := h (fun _ => "") (quiet serving) {} rfl (by decide +kernel)
  obtain ⟨_, hactive, _⟩ := hsound.tunnels ⟨"tunnel", "iran:2001", [("service", "gost-iran")], 900⟩
    (List.mem_singleton.mpr rfl)
  have hunknown : isUnavailable ((quiet serving).metric "tunnel" "iran:2001" "service_active") = true := by
    decide +kernel
  exact absurd hactive.1 (by simp [hunknown])

end Monitoring.Health
