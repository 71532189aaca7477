import Mathlib.Algebra.BigOperators.Group.List.Basic
import GostManager.Effects.Proofs.ExceptProofs
import GostManager.Monitoring.Proofs.RangesProofs

/-!
# Proofs: the metrics of a cycle

The memory of a service has two sources, of which one replaces the other; its other metrics have names of
their own. With this the ranges of the numbers that a cycle reads tell those of its metrics.
-/

namespace Monitoring.Readers

open Effects (bind_eq_ok)
open Lists Texts

variable {digits : Digits} {service : String} {properties : Properties} {text : Text} {key : String}

/-! ## Properties -/

theorem intIfDigits_of_not_rejected (h : ¬ Rejected digits text) :
    intIfDigits digits text = .ok (numberOf digits text) := by
  unfold intIfDigits numberOf
  by_cases hdigits : isdigit digits text
  · rw [if_pos hdigits, if_pos hdigits, pyInt]
    cases hint : toInt? digits text with
    | none => exact absurd ⟨hdigits, hint⟩ h
    | some n => rfl
  · rw [if_neg hdigits, if_neg hdigits]

theorem intIfDigits_of_rejected (h : Rejected digits text) : ∃ raised, intIfDigits digits text = .error raised := by
  obtain ⟨hdigits, hint⟩ := h
  rw [intIfDigits, if_pos hdigits, pyInt, hint]
  exact ⟨_, rfl⟩

/-- The number of a property that is read only with accounting. -/
def accountedNumber (digits : Digits) (properties : Properties) (key : String) : Option Int :=
  if lower (properties.getD "IPAccounting") = "yes".toList then numberOf digits (properties.getD key) else none

/-- The state of a service and its first numbers in `service_metrics`. -/
def statusMetrics (digits : Digits) (service : String) (properties : Properties) : List Metric :=
  let number := fun key => (numberOf digits (properties.getD key)).map MetricValue.integer
  [serviceMetric service "service_active"
      ((properties.lookup "ActiveState".toList).map fun active => .boolean (active = "active".toList)) "boolean",
    serviceMetric service "service_active_state" ((properties.lookup "ActiveState".toList).map .text) "state",
    serviceMetric service "service_sub_state" ((properties.lookup "SubState".toList).map .text) "state",
    serviceMetric service "service_main_pid" (number "MainPID") "pid",
    serviceMetric service "service_start_monotonic_us" (number "ExecMainStartTimestampMonotonic")
      "microseconds",
    serviceMetric service "service_restart_count" (number "NRestarts") "count",
    serviceMetric service "service_tasks" (number "TasksCurrent") "count"]

/-- The memory in `service_metrics`. -/
def propertyMemory (digits : Digits) (properties : Properties) : CgroupMemory where
  memoryCurrent := numberOf digits (properties.getD "MemoryCurrent")
  memoryPeak := numberOf digits (properties.getD "MemoryPeak")

/-- The accounting in `service_metrics`. -/
def accountingMetrics (digits : Digits) (service : String) (properties : Properties) : List Metric :=
  [serviceMetric service "systemd_ip_ingress_bytes"
      ((accountedNumber digits properties "IPIngressBytes").map .integer) "bytes",
    serviceMetric service "systemd_ip_egress_bytes"
      ((accountedNumber digits properties "IPEgressBytes").map .integer) "bytes"]

/-- The metrics of `service_metrics`, where no property is rejected. -/
def propertyMetrics (digits : Digits) (service : String) (properties : Properties) : List Metric :=
  statusMetrics digits service properties ++
    (cgroupMemoryMetrics service (propertyMemory digits properties) ++
      accountingMetrics digits service properties)

theorem serviceMetrics_of_not_rejected (h : ¬ PropertyRejected digits properties) :
    serviceMetrics digits service properties = .ok (propertyMetrics digits service properties) := by
  have hread : ∀ key ∈ numericProperties properties ++ ["MemoryCurrent", "MemoryPeak"],
      intProperty digits properties key = .ok (numberOf digits (properties.getD key)) :=
    fun key hkey => intIfDigits_of_not_rejected fun hrejected => h ⟨key, hkey, hrejected⟩
  unfold serviceMetrics propertyMetrics accountingMetrics accountedProperty accountedNumber
  by_cases haccounting : lower (properties.getD "IPAccounting") = "yes".toList
  · simp only [numericProperties, if_pos haccounting, List.forall_mem_append, List.forall_mem_cons,
      List.not_mem_nil, false_imp_iff, implies_true, and_true] at hread
    obtain ⟨⟨⟨hpid, hstart, hrestarts, htasks⟩, hingress, hegress⟩, hcurrent, hpeak⟩ := hread
    simp only [hpid, hstart, hrestarts, htasks, hingress, hegress, hcurrent, hpeak, if_pos haccounting]
    rfl
  · simp only [numericProperties, if_neg haccounting, List.forall_mem_append, List.forall_mem_cons,
      List.not_mem_nil, false_imp_iff, implies_true, and_true] at hread
    obtain ⟨⟨hpid, hstart, hrestarts, htasks⟩, hcurrent, hpeak⟩ := hread
    simp only [hpid, hstart, hrestarts, htasks, hcurrent, hpeak, if_neg haccounting]
    rfl

theorem serviceMetrics_of_rejected (h : PropertyRejected digits properties) :
    ∃ raised, serviceMetrics digits service properties = .error raised := by
  cases hmetrics : serviceMetrics digits service properties with
  | error raised => exact ⟨raised, rfl⟩
  | ok metrics =>
    exfalso
    have hread : ∀ key ∈ numericProperties properties ++ ["MemoryCurrent", "MemoryPeak"],
        ∃ n, intProperty digits properties key = .ok n := by
      simp only [serviceMetrics] at hmetrics
      obtain ⟨pid, hpid, hmetrics⟩ := bind_eq_ok.1 hmetrics
      obtain ⟨start, hstart, hmetrics⟩ := bind_eq_ok.1 hmetrics
      obtain ⟨restarts, hrestarts, hmetrics⟩ := bind_eq_ok.1 hmetrics
      obtain ⟨tasks, htasks, hmetrics⟩ := bind_eq_ok.1 hmetrics
      obtain ⟨current, hcurrent, hmetrics⟩ := bind_eq_ok.1 hmetrics
      obtain ⟨peak, hpeak, hmetrics⟩ := bind_eq_ok.1 hmetrics
      obtain ⟨ingress, hingress, hmetrics⟩ := bind_eq_ok.1 hmetrics
      obtain ⟨egress, hegress, _⟩ := bind_eq_ok.1 hmetrics
      by_cases haccounting : lower (properties.getD "IPAccounting") = "yes".toList
      · rw [accountedProperty, if_pos haccounting] at hingress hegress
        simp only [numericProperties, if_pos haccounting, List.forall_mem_append, List.forall_mem_cons,
          List.not_mem_nil, false_imp_iff, implies_true, and_true]
        exact ⟨⟨⟨⟨pid, hpid⟩, ⟨start, hstart⟩, ⟨restarts, hrestarts⟩, ⟨tasks, htasks⟩⟩, ⟨ingress, hingress⟩,
          ⟨egress, hegress⟩⟩, ⟨current, hcurrent⟩, ⟨peak, hpeak⟩⟩
      · simp only [numericProperties, if_neg haccounting, List.forall_mem_append, List.forall_mem_cons,
          List.not_mem_nil, false_imp_iff, implies_true, and_true]
        exact ⟨⟨⟨pid, hpid⟩, ⟨start, hstart⟩, ⟨restarts, hrestarts⟩, ⟨tasks, htasks⟩⟩, ⟨current, hcurrent⟩,
          ⟨peak, hpeak⟩⟩
    obtain ⟨key, hkey, hrejected⟩ := h
    obtain ⟨n, hn⟩ := hread key hkey
    obtain ⟨raised, hraised⟩ := intIfDigits_of_rejected hrejected
    exact absurd (hn.symm.trans hraised) (by simp)

/-! ## The entity of a service -/

/-- The names of the two metrics of the memory. -/
def memoryNames : List String := ["cgroup_memory_current_bytes", "cgroup_memory_peak_bytes"]

theorem ofEntity_statusMetrics : OfEntity "service" service (statusMetrics digits service properties) := by
  simp only [statusMetrics, OfEntity, List.forall_mem_cons, List.not_mem_nil, false_imp_iff, implies_true,
    and_true]
  exact ⟨⟨rfl, rfl⟩, ⟨rfl, rfl⟩, ⟨rfl, rfl⟩, ⟨rfl, rfl⟩, ⟨rfl, rfl⟩, ⟨rfl, rfl⟩, rfl, rfl⟩

theorem ofEntity_cgroupMemoryMetrics {memory : CgroupMemory} :
    OfEntity "service" service (cgroupMemoryMetrics service memory) := by
  simp only [cgroupMemoryMetrics, OfEntity, List.forall_mem_cons, List.not_mem_nil, false_imp_iff,
    implies_true, and_true]
  exact ⟨⟨rfl, rfl⟩, rfl, rfl⟩

theorem ofEntity_accountingMetrics :
    OfEntity "service" service (accountingMetrics digits service properties) := by
  simp only [accountingMetrics, OfEntity, List.forall_mem_cons, List.not_mem_nil, false_imp_iff, implies_true,
    and_true]
  exact ⟨⟨rfl, rfl⟩, rfl, rfl⟩

theorem map_name_statusMetrics : (statusMetrics digits service properties).map (·.name) =
    ["service_active", "service_active_state", "service_sub_state", "service_main_pid",
      "service_start_monotonic_us", "service_restart_count", "service_tasks"] := rfl

theorem map_name_accountingMetrics : (accountingMetrics digits service properties).map (·.name) =
    ["systemd_ip_ingress_bytes", "systemd_ip_egress_bytes"] := rfl

theorem map_name_cgroupMemoryMetrics {memory : CgroupMemory} :
    (cgroupMemoryMetrics service memory).map (·.name) = memoryNames := rfl

/-- The numbers among the properties, apart from the memory. -/
theorem binds_statusMetrics_accountingMetrics :
    ((∀ m ∈ statusMetrics digits service properties, m.Binds) ∧
      ∀ m ∈ accountingMetrics digits service properties, m.Binds) ↔
    ∀ key ∈ numericProperties properties, FitsIfAny (numberOf digits (properties.getD key)) := by
  have hstatus : (∀ m ∈ statusMetrics digits service properties, m.Binds) ↔
      ∀ key ∈ ["MainPID", "ExecMainStartTimestampMonotonic", "NRestarts", "TasksCurrent"],
        FitsIfAny (numberOf digits (properties.getD key)) := by
    simp only [statusMetrics, List.forall_mem_cons, List.not_mem_nil, false_imp_iff, implies_true, and_true]
    constructor
    · rintro ⟨_, _, _, hpid, hstart, hrestarts, htasks⟩
      exact ⟨(binds_of_integer? rfl).mp hpid, (binds_of_integer? rfl).mp hstart,
        (binds_of_integer? rfl).mp hrestarts, (binds_of_integer? rfl).mp htasks⟩
    · rintro ⟨hpid, hstart, hrestarts, htasks⟩
      refine ⟨?_, binds_of_text rfl, binds_of_text rfl, (binds_of_integer? rfl).mpr hpid,
        (binds_of_integer? rfl).mpr hstart, (binds_of_integer? rfl).mpr hrestarts,
        (binds_of_integer? rfl).mpr htasks⟩
      refine @binds_of_boolean _ ((properties.lookup "ActiveState".toList).map fun active =>
        active = "active".toList) ?_
      rw [Option.map_map]
      rfl
  have haccounting : (∀ m ∈ accountingMetrics digits service properties, m.Binds) ↔
      FitsIfAny (accountedNumber digits properties "IPIngressBytes") ∧
        FitsIfAny (accountedNumber digits properties "IPEgressBytes") := by
    simp only [accountingMetrics, List.forall_mem_cons, List.not_mem_nil, false_imp_iff, implies_true,
      and_true]
    exact and_congr (binds_of_integer? rfl) (binds_of_integer? rfl)
  rw [hstatus, haccounting, numericProperties, List.forall_mem_append]
  refine and_congr_right fun _ => ?_
  unfold accountedNumber
  split_ifs
  · simp only [List.forall_mem_cons, List.not_mem_nil, false_imp_iff, implies_true, and_true]
  · simp [FitsIfAny]

section

variable {snapshot : ServiceProcessSnapshot} {previous : Option ServiceProcessSnapshot}
  {elapsed maxGap : Option ℚ} {ticksPerSecond : Int} {authoritative : Bool} {slowQuality : Quality}

theorem ofEntity_serviceProcessMetrics : OfEntity "service" service (serviceProcessMetrics service snapshot
    previous elapsed ticksPerSecond maxGap authoritative slowQuality) := by
  simp only [serviceProcessMetrics, OfEntity, List.forall_mem_cons, List.not_mem_nil, false_imp_iff,
    implies_true, and_true]
  exact ⟨⟨rfl, rfl⟩, ⟨rfl, rfl⟩, ⟨rfl, rfl⟩, ⟨rfl, rfl⟩, ⟨rfl, rfl⟩, ⟨rfl, rfl⟩, ⟨rfl, rfl⟩, ⟨rfl, rfl⟩,
    ⟨rfl, rfl⟩, rfl, rfl⟩

theorem map_name_serviceProcessMetrics : (serviceProcessMetrics service snapshot previous elapsed
    ticksPerSecond maxGap authoritative slowQuality).map (·.name) = processMetricSpecs.map Prod.fst := rfl

/-- The sums and values of a snapshot have 64 bits. -/
def ServiceProcessSnapshot.InRange (snapshot : ServiceProcessSnapshot) : Prop :=
  (Fits snapshot.processCount ∧ Fits snapshot.cpuTicks ∧ Fits snapshot.rssBytes ∧ Fits snapshot.threads) ∧
  snapshot.slow.InRange

theorem binds_serviceProcessMetrics :
    (∀ m ∈ serviceProcessMetrics service snapshot previous elapsed ticksPerSecond maxGap authoritative
      slowQuality, m.Binds) ↔ snapshot.InRange := by
  simp only [serviceProcessMetrics, List.forall_mem_cons, List.not_mem_nil, false_imp_iff, implies_true,
    and_true]
  constructor
  · rintro ⟨hcount, hcpu, _, hrss, hanon, hfile, hthreads, hfds, hsoft, hhard⟩
    exact ⟨⟨(binds_of_integer rfl).mp hcount, (binds_of_integer rfl).mp hcpu, (binds_of_integer rfl).mp hrss,
      (binds_of_integer rfl).mp hthreads⟩, (binds_of_integer? rfl).mp hanon, (binds_of_integer? rfl).mp hfile,
      (binds_of_integer? rfl).mp hfds, (binds_of_integer? rfl).mp hsoft, (binds_of_integer? rfl).mp hhard⟩
  · rintro ⟨⟨hcount, hcpu, hrss, hthreads⟩, hanon, hfile, hfds, hsoft, hhard⟩
    exact ⟨(binds_of_integer rfl).mpr hcount, (binds_of_integer rfl).mpr hcpu, binds_of_real rfl,
      (binds_of_integer rfl).mpr hrss, (binds_of_integer? rfl).mpr hanon, (binds_of_integer? rfl).mpr hfile,
      (binds_of_integer rfl).mpr hthreads, (binds_of_integer? rfl).mpr hfds, (binds_of_integer? rfl).mpr hsoft,
      (binds_of_integer? rfl).mpr hhard⟩

end

/-- Metrics without a value are no integers. -/
theorem binds_unavailable {scope entityType entityId : String} {names : List (String × String)}
    {labels : List (String × String)} :
    ∀ m ∈ unavailable scope names entityType entityId labels, m.Binds := by
  intro m hm n hn
  obtain ⟨name, _, rfl⟩ := List.mem_map.mp hm
  cases hn

theorem ofEntity_unavailable {scope entityType entityId : String} {names : List (String × String)}
    {labels : List (String × String)} :
    OfEntity entityType entityId (unavailable scope names entityType entityId labels) := by
  intro m hm
  obtain ⟨name, _, rfl⟩ := List.mem_map.mp hm
  exact ⟨rfl, rfl⟩

theorem map_name_unavailable {scope entityType entityId : String} {names : List (String × String)}
    {labels : List (String × String)} :
    (unavailable scope names entityType entityId labels).map (·.name) = names.map Prod.fst := by
  rw [unavailable, List.map_map]
  rfl

/-! ## The memory of a service -/

section

variable {memory memory' : CgroupMemory}

/-- The rank of the metric of a number that may be missing. -/
def numberRank (number : Option Int) : Nat := if number.isSome then 0 else 3

theorem rank_serviceMetric {name unit : String} {number : Option Int} :
    (serviceMetric service name (number.map .integer) unit).rank = numberRank number := by
  cases number <;> rfl

theorem nodup_cgroupMemoryMetrics (hservice : service ≠ "") :
    ((cgroupMemoryMetrics service memory).map Metric.key).Nodup :=
  ofEntity_cgroupMemoryMetrics.nodup (by decide) hservice (by
    rw [map_name_cgroupMemoryMetrics]
    decide)

theorem allBind_cgroupMemoryMetrics (hservice : service ≠ "") :
    AllBind (cgroupMemoryMetrics service memory) ↔
      FitsIfAny memory.memoryCurrent ∧ FitsIfAny memory.memoryPeak := by
  rw [allBind_of_nodup (nodup_cgroupMemoryMetrics hservice)]
  simp only [cgroupMemoryMetrics, List.forall_mem_cons, List.not_mem_nil, false_imp_iff, implies_true,
    and_true]
  exact and_congr (binds_of_integer? rfl) (binds_of_integer? rfl)

theorem key_serviceMetric {name unit : String} {value : Option MetricValue} (hservice : service ≠ "") :
    (serviceMetric service name value unit).key = ("service", service, name) := by
  simp only [Metric.key, serviceMetric, optionalMetric, textOr, if_neg hservice]
  rfl

theorem binds_serviceMetric {name unit : String} {number : Option Int} :
    (serviceMetric service name (number.map .integer) unit).Binds ↔ FitsIfAny number := binds_of_integer? rfl

/-- A number that replaces another one unless it is missing. -/
theorem counts_or {number number' : Option Int} :
    ((numberRank number' ≤ numberRank number → FitsIfAny number') ∧
      (numberRank number < numberRank number' → FitsIfAny number)) ↔ FitsIfAny (number'.or number) := by
  cases number <;> cases number' <;> simp [numberRank, FitsIfAny]

theorem allBind_memory (hservice : service ≠ "") :
    AllBind (cgroupMemoryMetrics service memory ++ cgroupMemoryMetrics service memory') ↔
      FitsIfAny (memory'.memoryCurrent.or memory.memoryCurrent) ∧
      FitsIfAny (memory'.memoryPeak.or memory.memoryPeak) := by
  have hne : "cgroup_memory_current_bytes" ≠ "cgroup_memory_peak_bytes" := by decide
  rw [allBind_append_of_nodup (nodup_cgroupMemoryMetrics hservice) (nodup_cgroupMemoryMetrics hservice)]
  simp only [cgroupMemoryMetrics, List.forall_mem_cons, List.not_mem_nil, false_imp_iff, implies_true,
    and_true, key_serviceMetric hservice, Prod.mk.injEq, true_and, hne, hne.symm, true_imp_iff,
    rank_serviceMetric]
  simp only [← counts_or]
  simp only [binds_serviceMetric]
  tauto

/-- A number that replaces another one only if that is missing. -/
theorem counts_stored {number number' : Option Int} :
    (((∀ n ∈ number', 2 ≤ numberRank number → Fits n) ∧
      ((∀ n ∈ number', numberRank number < 2) → FitsIfAny number)) ↔ FitsIfAny (number.or number')) := by
  cases number <;> cases number' <;> simp [numberRank, FitsIfAny]

/-- The metric of a number that was stored. -/
def storedMetric (service name : String) (n : Int) : Metric :=
  { serviceMetric service name (some (.integer n)) "bytes" with quality := .estimated }

/-- The metrics of a memory that was stored, of which there are those with a value. -/
def storedMetrics (service : String) (values : CgroupMemory) : List Metric :=
  values.memoryCurrent.toList.map (storedMetric service "cgroup_memory_current_bytes") ++
  values.memoryPeak.toList.map (storedMetric service "cgroup_memory_peak_bytes")

theorem storedMetrics_eq {values : CgroupMemory} :
    (((cgroupMemoryMetrics service values).filter fun m => m.value ≠ none).map fun m =>
      { m with quality := .estimated }) = storedMetrics service values := by
  obtain ⟨current, peak⟩ := values
  cases current <;> cases peak <;> rfl

theorem ofEntity_storedMetrics {values : CgroupMemory} :
    OfEntity "service" service (storedMetrics service values) := by
  refine OfEntity.append (fun m hm => ?_) (fun m hm => ?_)
  · obtain ⟨n, _, rfl⟩ := List.mem_map.mp hm
    exact ⟨rfl, rfl⟩
  · obtain ⟨n, _, rfl⟩ := List.mem_map.mp hm
    exact ⟨rfl, rfl⟩

theorem map_name_storedMetrics {values : CgroupMemory} :
    ((storedMetrics service values).map (·.name)).Sublist memoryNames := by
  obtain ⟨current, peak⟩ := values
  cases current <;> cases peak <;> simp [storedMetrics, storedMetric, serviceMetric, optionalMetric, memoryNames]

theorem allBind_stored {values : CgroupMemory} (hservice : service ≠ "") :
    AllBind (cgroupMemoryMetrics service memory ++ storedMetrics service values) ↔
      FitsIfAny (memory.memoryCurrent.or values.memoryCurrent) ∧
      FitsIfAny (memory.memoryPeak.or values.memoryPeak) := by
  have hne : "cgroup_memory_current_bytes" ≠ "cgroup_memory_peak_bytes" := by decide
  have hnodup : ((storedMetrics service values).map Metric.key).Nodup :=
    ofEntity_storedMetrics.nodup (by decide) hservice
      ((show memoryNames.Nodup by decide).sublist map_name_storedMetrics)
  have hkey : ∀ name n, (storedMetric service name n).key = ("service", service, name) :=
    fun name n => @key_serviceMetric _ name "bytes" (some (.integer n)) hservice
  have hrank : ∀ name n, (storedMetric service name n).rank = 2 := fun _ _ => rfl
  have hstored : ∀ name n, (storedMetric service name n).Binds ↔ Fits n := fun name n => binds_of_integer rfl
  rw [allBind_append_of_nodup (nodup_cgroupMemoryMetrics hservice) hnodup]
  simp only [cgroupMemoryMetrics, storedMetrics, List.forall_mem_cons, List.forall_mem_append,
    List.forall_mem_map, Option.mem_toList, List.not_mem_nil, false_imp_iff, implies_true, and_true,
    key_serviceMetric hservice, hkey, hrank, hstored, Prod.mk.injEq, true_and, hne, hne.symm, true_imp_iff,
    rank_serviceMetric, binds_serviceMetric, ← counts_stored]
  tauto

end

/-! ## Processes -/

theorem sumOptional_cons {value : Option Int} {values : List (Option Int)} :
    sumOptional (value :: values) = value.bind fun n => (sumOptional values).map (n + ·) := by
  cases value with
  | none => rfl
  | some n =>
    simp only [sumOptional, List.mapM_cons]
    cases values.mapM id <;> rfl

theorem sumOptional_perm {values values' : List (Option Int)} (h : values.Perm values') :
    sumOptional values = sumOptional values' := by
  induction h with
  | nil => rfl
  | cons value _ ih => rw [sumOptional_cons, sumOptional_cons, ih]
  | swap value value' values =>
    simp only [sumOptional_cons]
    cases value <;> cases value' <;> cases sumOptional values <;> simp
    omega
  | trans _ _ ih ih' => exact ih.trans ih'

theorem mapM_perm {α β : Type} {f : α → Option β} {l l' : List α} (h : l.Perm l') :
    ∀ r, l.mapM f = some r → ∃ r', l'.mapM f = some r' ∧ r.Perm r' := by
  induction h with
  | nil => exact fun r hr => ⟨r, hr, List.Perm.refl r⟩
  | cons a _ ih =>
    intro r hr
    simp only [List.mapM_cons, Option.bind_eq_bind, Option.bind_eq_some_iff] at hr ⊢
    obtain ⟨b, hb, bs, hbs, hr⟩ := hr
    obtain ⟨bs', hbs', hperm⟩ := ih bs hbs
    cases hr
    exact ⟨b :: bs', ⟨b, hb, bs', hbs', rfl⟩, hperm.cons b⟩
  | swap a a' l =>
    intro r hr
    simp only [List.mapM_cons, Option.bind_eq_bind, Option.bind_eq_some_iff] at hr ⊢
    obtain ⟨b', hb', bs, ⟨b, hb, bs', hbs', hbs⟩, hr⟩ := hr
    cases hbs
    cases hr
    exact ⟨b :: b' :: bs', ⟨b, hb, b' :: bs', ⟨b', hb', bs', hbs', rfl⟩, rfl⟩, List.Perm.swap b b' bs'⟩
  | trans _ _ ih ih' =>
    intro r hr
    obtain ⟨r', hr', hperm⟩ := ih r hr
    obtain ⟨r'', hr'', hperm'⟩ := ih' r' hr'
    exact ⟨r'', hr'', hperm.trans hperm'⟩

theorem sumSlowValues_perm {slow slow' : List ProcessSlowSnapshot} (h : slow.Perm slow') :
    sumSlowValues slow = sumSlowValues slow' := by
  simp only [sumSlowValues, sumOptional_perm (h.map _)]

theorem inRange_none : SlowValues.none.InRange :=
  ⟨fun _ h => absurd h (by simp [SlowValues.none]), fun _ h => absurd h (by simp [SlowValues.none]),
    fun _ h => absurd h (by simp [SlowValues.none]), fun _ h => absurd h (by simp [SlowValues.none]),
    fun _ h => absurd h (by simp [SlowValues.none])⟩

/-- The processes of a service in the order of their numbers. -/
def ordered (fast : List ProcessSnapshot) : List ProcessSnapshot :=
  fast.insertionSort fun a b => a.pid ≤ b.pid

theorem ordered_perm {fast : List ProcessSnapshot} : (ordered fast).Perm fast := List.perm_insertionSort _ _

/-- The slow values of the processes, if there are any for each of them. -/
def slowOf (fast : List ProcessSnapshot) (slow : List ProcessSlowSnapshot) : SlowValues :=
  match (ordered fast).mapM fun process => find ProcessSlowSnapshot.pid process.pid slow with
  | some slowOfPid => if slow.length = (ordered fast).length then sumSlowValues slowOfPid else .none
  | none => .none

/-- The snapshot of a service, of its processes and their slow values. -/
def snapshotOf (fast : List ProcessSnapshot) (slow : SlowValues) : ServiceProcessSnapshot where
  identity := (ordered fast).map fun process => (process.pid, process.startTicks)
  processCount := (ordered fast).length
  cpuTicks := ((ordered fast).map (·.cpuTicks)).sum
  rssBytes := ((ordered fast).map (·.rssBytes)).sum
  threads := ((ordered fast).map (·.threads)).sum
  slow

section

variable {fast : List ProcessSnapshot} {slow : List ProcessSlowSnapshot} {values : SlowValues}

theorem aggregateServiceProcesses_eq (h : fast ≠ []) :
    aggregateServiceProcesses fast slow = .ok (snapshotOf fast (slowOf fast slow)) := by
  rw [aggregateServiceProcesses, if_neg h]
  rfl

theorem snapshotOf_inRange : (snapshotOf fast values).InRange ↔ ProcessesInRange fast ∧ values.InRange := by
  unfold ServiceProcessSnapshot.InRange
  refine and_congr_left fun _ => ?_
  simp only [snapshotOf, ordered_perm.length_eq, (ordered_perm.map _).sum_eq]
  exact ⟨fun ⟨hcount, hcpu, hrss, hthreads⟩ => ⟨hcount, hcpu, hrss, hthreads⟩,
    fun ⟨hcount, hcpu, hrss, hthreads⟩ => ⟨hcount, hcpu, hrss, hthreads⟩⟩

theorem slowOf_nil (h : fast ≠ []) : slowOf fast [] = .none := by
  have hordered : ordered fast ≠ [] := fun hnil =>
    h (List.eq_nil_of_length_eq_zero (by rw [← ordered_perm.length_eq, hnil, List.length_nil]))
  unfold slowOf
  cases hprocesses : ordered fast with
  | nil => exact absurd hprocesses hordered
  | cons process processes => rfl

theorem slowOf_inRange (h : slow.length = fast.length) :
    (slowOf fast slow).InRange ↔ ∀ slow',
      fast.mapM (fun process => find ProcessSlowSnapshot.pid process.pid slow) = some slow' →
        (sumSlowValues slow').InRange := by
  unfold slowOf
  cases hslow : (ordered fast).mapM fun process => find ProcessSlowSnapshot.pid process.pid slow with
  | none =>
    simp only [inRange_none, true_iff]
    intro slow' hslow'
    obtain ⟨r, hr, _⟩ := mapM_perm ordered_perm.symm slow' hslow'
    exact absurd (hslow.symm.trans hr) (by simp)
  | some slowOfPid =>
    obtain ⟨r, hr, hperm⟩ := mapM_perm ordered_perm slowOfPid hslow
    simp only [ordered_perm.length_eq, h, if_true, hr, Option.some.injEq, forall_eq']
    rw [sumSlowValues_perm hperm]

end

section

variable {s : Sources} {p : Previous} {c : ServiceCapture} {snapshot : ServiceProcessSnapshot}
  {slowComplete authoritative : Bool}

theorem processSlowValues_of_due (hdue : s.slowSourcesDue = true) :
    (s.processSlowValues p service snapshot slowComplete authoritative).1 = snapshot := by
  rw [Sources.processSlowValues, if_pos hdue]
  cases slowComplete <;> rfl

/-- What was stored for the same processes takes the place of the slow values. -/
theorem processSlowValues_of_not_due (hdue : s.slowSourcesDue = false) :
    ∃ values, (s.processSlowValues p service (snapshotOf c.fast .none) slowComplete authoritative).1 =
      snapshotOf c.fast values ∧ (values.InRange ↔ s.SlowInRange p service c) := by
  have hslow : s.SlowInRange p service c ↔ ∀ identity values,
      p.processSlow service = some (identity, values) →
        identity = (snapshotOf c.fast .none).identity → values.InRange := by
    simp only [Sources.SlowInRange, hdue, Bool.false_eq_true, if_false]
    rfl
  rw [hslow, Sources.processSlowValues, if_neg (by simp [hdue])]
  cases p.processSlow service with
  | none =>
    refine ⟨.none, rfl, ?_⟩
    simp [inRange_none]
  | some stored =>
    obtain ⟨identity, values⟩ := stored
    by_cases hidentity : identity = (snapshotOf c.fast .none).identity
    · refine ⟨values, by simp only [if_pos hidentity]; rfl, ?_⟩
      simp [hidentity]
    · refine ⟨.none, by simp only [if_neg hidentity], ?_⟩
      simp [inRange_none, hidentity]

/-- The snapshot of a service whose processes could all be read has 64 bits when their sums have. -/
theorem serviceSnapshot_inRange (hpids : c.pidSet.pids ≠ []) (hall : c.fast.length = c.pidSet.pids.length) :
    ∃ snapshot, s.serviceSnapshot p service c = .ok (some snapshot) ∧
      (snapshot.1.InRange ↔ ProcessesInRange c.fast ∧ s.SlowInRange p service c) := by
  have hfast : c.fast ≠ [] := by
    intro hnil
    rw [hnil, List.length_nil] at hall
    exact hpids (List.eq_nil_of_length_eq_zero hall.symm)
  simp only [Sources.serviceSnapshot, if_pos (And.intro hpids hall), aggregateServiceProcesses_eq hfast]
  refine ⟨_, rfl, ?_⟩
  by_cases hdue : s.slowSourcesDue
  · rw [processSlowValues_of_due hdue, snapshotOf_inRange]
    refine and_congr_right fun _ => ?_
    simp only [Sources.SlowInRange, if_pos hdue]
    by_cases hcomplete : c.slow.length = c.pidSet.pids.length
    · simp only [hdue, hcomplete, decide_true, Bool.and_self, if_true, true_imp_iff]
      exact slowOf_inRange (hcomplete.trans hall.symm)
    · simp only [hcomplete, decide_false, Bool.and_false, Bool.false_eq_true, if_false, slowOf_nil hfast,
        inRange_none, false_imp_iff]
  · rw [Bool.not_eq_true] at hdue
    simp only [hdue, Bool.false_and, Bool.false_eq_true, if_false, slowOf_nil hfast]
    obtain ⟨values, hvalues, hrange⟩ := processSlowValues_of_not_due hdue
    rw [hvalues, snapshotOf_inRange, hrange]

end

/-! ## Services -/

section

variable {processes memory : List Metric}

/-- The metrics of a service, one part after the other. Only those of the memory share their names. -/
theorem allBind_service (hservice : service ≠ "") (hprocesses : OfEntity "service" service processes)
    (hprocessNames : processes.map (·.name) = processMetricSpecs.map Prod.fst)
    (hmemory : OfEntity "service" service memory) (hmemoryNames : (memory.map (·.name)).Sublist memoryNames) :
    AllBind (propertyMetrics digits service properties ++ (processes ++ memory)) ↔
      (∀ key ∈ numericProperties properties, FitsIfAny (numberOf digits (properties.getD key))) ∧
      (∀ m ∈ processes, m.Binds) ∧
      AllBind (cgroupMemoryMetrics service (propertyMemory digits properties) ++ memory) := by
  have happart : ∀ {l l' : List Metric}, OfEntity "service" service l → OfEntity "service" service l' →
      (∀ name ∈ l.map (·.name), ∀ name' ∈ l'.map (·.name), name ≠ name') →
      ∀ m ∈ l, ∀ m' ∈ l', m.key ≠ m'.key := by
    intro l l' hl hl' hnames m hm m' hm' heq
    rw [hl.key (by decide) hservice hm, hl'.key (by decide) hservice hm'] at heq
    exact hnames _ (List.mem_map_of_mem hm) _ (List.mem_map_of_mem hm') (congrArg (·.2.2) heq)
  have hnodup : ∀ {l : List Metric}, OfEntity "service" service l → (l.map (·.name)).Nodup →
      (AllBind l ↔ ∀ m ∈ l, m.Binds) := fun hl hnames =>
    allBind_of_nodup (hl.nodup (by decide) hservice hnames)
  have hmemoryAll : ∀ name ∈ (cgroupMemoryMetrics service (propertyMemory digits properties) ++ memory).map
      (·.name), name ∈ memoryNames := by
    intro name hname
    rw [List.map_append, map_name_cgroupMemoryMetrics] at hname
    rcases List.mem_append.mp hname with hname | hname
    · exact hname
    · exact hmemoryNames.subset hname
  -- Between the two memories stand the accounting and the processes.
  have hmiddle : OfEntity "service" service (accountingMetrics digits service properties ++ processes) :=
    ofEntity_accountingMetrics.append hprocesses
  have hmiddleNames : (accountingMetrics digits service properties ++ processes).map (·.name) =
      ["systemd_ip_ingress_bytes", "systemd_ip_egress_bytes"] ++ processMetricSpecs.map Prod.fst := by
    rw [List.map_append, map_name_accountingMetrics, hprocessNames]
  have hmemories : OfEntity "service" service
      (cgroupMemoryMetrics service (propertyMemory digits properties) ++ memory) :=
    ofEntity_cgroupMemoryMetrics.append hmemory
  have hsplit : AllBind (cgroupMemoryMetrics service (propertyMemory digits properties) ++
      ((accountingMetrics digits service properties ++ processes) ++ memory)) ↔
      (∀ m ∈ accountingMetrics digits service properties ++ processes, m.Binds) ∧
      AllBind (cgroupMemoryMetrics service (propertyMemory digits properties) ++ memory) := by
    rw [allBind_append_middle, hnodup hmiddle]
    · rw [hmiddleNames]
      decide
    · refine happart hmiddle hmemories ?_
      rw [hmiddleNames]
      intro name hname name' hname'
      exact (show ∀ name ∈ ["systemd_ip_ingress_bytes", "systemd_ip_egress_bytes"] ++
        processMetricSpecs.map Prod.fst, ∀ name' ∈ memoryNames, name ≠ name' by decide)
          name hname name' (hmemoryAll name' hname')
  have hstatus : ∀ m ∈ statusMetrics digits service properties,
      ∀ m' ∈ cgroupMemoryMetrics service (propertyMemory digits properties) ++
        ((accountingMetrics digits service properties ++ processes) ++ memory), m.key ≠ m'.key := by
    refine happart ofEntity_statusMetrics (ofEntity_cgroupMemoryMetrics.append (hmiddle.append hmemory)) ?_
    rw [map_name_statusMetrics]
    intro name hname name' hname'
    have hall : name' ∈ memoryNames ++ (["systemd_ip_ingress_bytes", "systemd_ip_egress_bytes"] ++
        processMetricSpecs.map Prod.fst) := by
      rw [List.map_append, List.map_append, hmiddleNames] at hname'
      rcases List.mem_append.mp hname' with hname' | hname'
      · exact List.mem_append_left _ hname'
      · rcases List.mem_append.mp hname' with hname' | hname'
        · exact List.mem_append_right _ hname'
        · exact List.mem_append_left _ (hmemoryNames.subset hname')
    exact (show ∀ name ∈ ["service_active", "service_active_state", "service_sub_state", "service_main_pid",
      "service_start_monotonic_us", "service_restart_count", "service_tasks"], ∀ name' ∈ memoryNames ++
        (["systemd_ip_ingress_bytes", "systemd_ip_egress_bytes"] ++ processMetricSpecs.map Prod.fst),
        name ≠ name' by decide) name hname name' hall
  have hassoc : propertyMetrics digits service properties ++ (processes ++ memory) =
      statusMetrics digits service properties ++
        (cgroupMemoryMetrics service (propertyMemory digits properties) ++
          ((accountingMetrics digits service properties ++ processes) ++ memory)) := by
    simp only [propertyMetrics, List.append_assoc]
  rw [hassoc, allBind_append_of_disjoint hstatus, hnodup ofEntity_statusMetrics (by
    rw [map_name_statusMetrics]
    decide), hsplit, List.forall_mem_append, ← binds_statusMetrics_accountingMetrics]
  tauto

end

section

variable {s : Sources} {p : Previous} {c : ServiceCapture}

/-- What a service adds of its control group. -/
def memoryMetrics (s : Sources) (p : Previous) (service : String) (c : ServiceCapture)
    (identity : Option Text) : List Metric :=
  if c.properties.getD "ControlGroup" = [] then []
  else s.cgroupMemoryValues p service (c.properties.getD "ControlGroup") identity c.cgroupMemory

/-- The identity of the processes of a service. -/
def serviceIdentity (c : ServiceCapture) (snapshot : Option (ServiceProcessSnapshot × Quality)) : Option Text :=
  snapshot.map fun snapshot =>
    processIdentity (c.properties.getD "ExecMainStartTimestampMonotonic") snapshot.1

theorem memoryMetrics_of_not_due {snapshot : Option (ServiceProcessSnapshot × Quality)}
    (hsnapshot : s.serviceSnapshot p service c = .ok snapshot) (hgroup : c.properties.getD "ControlGroup" ≠ [])
    (hdue : s.slowSourcesDue = false) :
    memoryMetrics s p service c (serviceIdentity c snapshot) =
      (s.storedMemory p service c).elim [] (storedMetrics service) := by
  simp only [memoryMetrics, if_neg hgroup, Sources.cgroupMemoryValues, hdue, Bool.false_eq_true, if_false,
    Sources.storedMemory, hsnapshot, serviceIdentity]
  cases snapshot with
  | none => rfl
  | some snapshot =>
    cases p.cgroupMemory service with
    | none => rfl
    | some stored =>
      obtain ⟨group, identity, values⟩ := stored
      simp only [Option.map_some, storedMetrics_eq]
      split_ifs <;> rfl

theorem ofEntity_nil : OfEntity "service" service [] := fun _ h => absurd h List.not_mem_nil

/-- The memory of a service counts as `memoryNumber` says. -/
theorem allBind_memoryMetrics {snapshot : Option (ServiceProcessSnapshot × Quality)} (hservice : service ≠ "")
    (hsnapshot : s.serviceSnapshot p service c = .ok snapshot) :
    OfEntity "service" service (memoryMetrics s p service c (serviceIdentity c snapshot)) ∧
    ((memoryMetrics s p service c (serviceIdentity c snapshot)).map (·.name)).Sublist memoryNames ∧
    (AllBind (cgroupMemoryMetrics service (propertyMemory s.digits c.properties) ++
        memoryMetrics s p service c (serviceIdentity c snapshot)) ↔
      FitsIfAny (s.memoryNumber p service c "MemoryCurrent" (·.memoryCurrent)) ∧
      FitsIfAny (s.memoryNumber p service c "MemoryPeak" (·.memoryPeak))) := by
  have hproperty : AllBind (cgroupMemoryMetrics service (propertyMemory s.digits c.properties) ++ []) ↔
      FitsIfAny (numberOf s.digits (c.properties.getD "MemoryCurrent")) ∧
      FitsIfAny (numberOf s.digits (c.properties.getD "MemoryPeak")) := by
    rw [List.append_nil]
    exact allBind_cgroupMemoryMetrics hservice
  by_cases hgroup : c.properties.getD "ControlGroup" = []
  · simp only [memoryMetrics, Sources.memoryNumber, if_pos hgroup]
    exact ⟨ofEntity_nil, List.nil_sublist _, hproperty⟩
  · by_cases hdue : s.slowSourcesDue
    · simp only [memoryMetrics, Sources.memoryNumber, if_neg hgroup, Sources.cgroupMemoryValues, if_pos hdue]
      cases c.cgroupMemory with
      | none => exact ⟨ofEntity_nil, List.nil_sublist _, hproperty⟩
      | some memory =>
        exact ⟨ofEntity_cgroupMemoryMetrics, List.Sublist.refl _, allBind_memory hservice⟩
    · rw [Bool.not_eq_true] at hdue
      rw [memoryMetrics_of_not_due hsnapshot hgroup hdue]
      simp only [Sources.memoryNumber, if_neg hgroup, hdue, Bool.false_eq_true, if_false]
      cases s.storedMemory p service c with
      | none =>
        simp only [Option.elim_none, Option.bind_none, Option.or_none]
        exact ⟨ofEntity_nil, List.nil_sublist _, hproperty⟩
      | some values => exact ⟨ofEntity_storedMetrics, map_name_storedMetrics, allBind_stored hservice⟩

/-- The metrics of the processes of a service. -/
theorem processMetrics_spec {snapshot : Option (ServiceProcessSnapshot × Quality)} {authoritative : Bool} :
    OfEntity "service" service (s.processMetrics p service authoritative snapshot) ∧
    (s.processMetrics p service authoritative snapshot).map (·.name) = processMetricSpecs.map Prod.fst ∧
    ((∀ m ∈ s.processMetrics p service authoritative snapshot, m.Binds) ↔
      ∀ snapshot' ∈ snapshot, snapshot'.1.InRange) := by
  cases snapshot with
  | none =>
    refine ⟨ofEntity_unavailable, map_name_unavailable, ?_⟩
    simp only [Option.not_mem_none, false_imp_iff, implies_true, iff_true]
    exact binds_unavailable
  | some snapshot =>
    refine ⟨ofEntity_serviceProcessMetrics, map_name_serviceProcessMetrics, ?_⟩
    simp only [Option.mem_some_iff, forall_eq']
    exact binds_serviceProcessMetrics

/-- The metrics of a service whose properties are not rejected. -/
theorem serviceEntity_of_not_rejected (hservice : service ≠ "")
    (hrejected : ¬ PropertyRejected s.digits c.properties) :
    ∃ metrics, s.serviceEntity p service (some c) = .ok metrics ∧ OfEntity "service" service metrics ∧
      (AllBind metrics ↔ s.ServiceInRange p service c) := by
  obtain ⟨snapshot, hsnapshot, hrange⟩ : ∃ snapshot, s.serviceSnapshot p service c = .ok snapshot ∧
      ((∀ snapshot' ∈ snapshot, snapshot'.1.InRange) ↔
        (c.pidSet.pids ≠ [] → c.fast.length = c.pidSet.pids.length →
          ProcessesInRange c.fast ∧ s.SlowInRange p service c)) := by
    by_cases hall : c.pidSet.pids ≠ [] ∧ c.fast.length = c.pidSet.pids.length
    · obtain ⟨snapshot, hsnapshot, hrange⟩ := serviceSnapshot_inRange hall.1 hall.2
      refine ⟨some snapshot, hsnapshot, ?_⟩
      simp only [Option.mem_some_iff, forall_eq', hrange, hall, not_false_eq_true, ne_eq, true_imp_iff]
    · refine ⟨none, by rw [Sources.serviceSnapshot, if_neg hall], ?_⟩
      simp only [Option.not_mem_none, false_imp_iff, implies_true, true_iff]
      exact fun hpids hlength => absurd ⟨hpids, hlength⟩ hall
  obtain ⟨hprocesses, hprocessNames, hprocessBinds⟩ :=
    @processMetrics_spec service s p snapshot c.pidSet.authoritative
  obtain ⟨hmemory, hmemoryNames, hmemoryBinds⟩ := allBind_memoryMetrics hservice hsnapshot
  refine ⟨propertyMetrics s.digits service c.properties ++
    (s.processMetrics p service c.pidSet.authoritative snapshot ++
      memoryMetrics s p service c (serviceIdentity c snapshot)), ?_, ?_, ?_⟩
  · simp only [Sources.serviceEntity, serviceMetrics_of_not_rejected hrejected, hsnapshot]
    rfl
  · exact (ofEntity_statusMetrics.append (ofEntity_cgroupMemoryMetrics.append ofEntity_accountingMetrics)).append
      (hprocesses.append hmemory)
  · rw [allBind_service hservice hprocesses hprocessNames hmemory hmemoryNames, hprocessBinds, hrange,
      hmemoryBinds]
    constructor
    · rintro ⟨hproperties, hprocesses, hcurrent, hpeak⟩
      exact ⟨hproperties, hcurrent, hpeak, hprocesses⟩
    · rintro ⟨hproperties, hcurrent, hpeak, hprocesses⟩
      exact ⟨hproperties, hprocesses, hcurrent, hpeak⟩

end

end Monitoring.Readers
