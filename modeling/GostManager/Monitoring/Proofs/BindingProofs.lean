import GostManager.Monitoring.Proofs.CollectionProofs

/-!
# Proofs: binding

A cycle passes integers of more than 64 bits to SQLite exactly when it reads numbers that are too large, and
then it is rolled back as a whole. The number that `systemctl` shows for an unlimited or unknown memory is
one of them.
-/

namespace Monitoring.Readers

open Effects (bind_eq_ok exists_ok_of_mapM mapM_eq_ok_map)
open Lists Texts

variable {s : Sources} {p : Previous} {service : String}

/-! ## The parts of a cycle -/

theorem ofEntity_serviceUnavailable {specs : List (String × String)} :
    OfEntity "service" service (serviceUnavailable specs service) := ofEntity_unavailable

theorem allBind_of_binds {metrics : List Metric} (h : ∀ m ∈ metrics, m.Binds) : AllBind metrics :=
  fun m hm => h m (mem_of_mem_keepBest hm)

/-- The numbers of a service count if none of its properties is rejected and nothing else raises. -/
theorem serviceEntityMetrics_spec (hservice : service ≠ "") (captured : Option ServiceCapture) :
    OfEntity "service" service (s.serviceEntityMetrics p service captured) ∧
    (AllBind (s.serviceEntityMetrics p service captured) ↔
      (s.serviceRaises service = false → ∀ c ∈ captured, ¬ PropertyRejected s.digits c.properties →
        s.ServiceInRange p service c)) := by
  have hunavailable : AllBind (serviceUnavailable serviceMetricSpecs service) :=
    allBind_of_binds binds_unavailable
  cases captured with
  | none =>
    have hmetrics : s.serviceEntityMetrics p service none = serviceUnavailable serviceMetricSpecs service := by
      simp only [Sources.serviceEntityMetrics, Sources.serviceEntity, ite_self]
    rw [hmetrics]
    refine ⟨ofEntity_serviceUnavailable, iff_of_true hunavailable fun _ c hc => absurd hc (by simp)⟩
  | some c =>
    simp only [Option.mem_some_iff, forall_eq']
    by_cases hrejected : PropertyRejected s.digits c.properties
    · have hraised : ∃ raised, s.serviceEntity p service (some c) = .error raised := by
        obtain ⟨raised, hmetrics⟩ := @serviceMetrics_of_rejected s.digits service c.properties hrejected
        refine ⟨raised, ?_⟩
        simp only [Sources.serviceEntity, hmetrics]
        rfl
      obtain ⟨raised, hraised⟩ := hraised
      simp only [Sources.serviceEntityMetrics, hraised]
      exact ⟨ofEntity_serviceUnavailable, iff_of_true hunavailable fun _ hnot => absurd hrejected hnot⟩
    · obtain ⟨metrics, hmetrics, hentity, hbind⟩ :=
        @serviceEntity_of_not_rejected service s p c hservice hrejected
      simp only [Sources.serviceEntityMetrics, hmetrics]
      cases hraises : s.serviceRaises service with
      | true =>
        simp only [if_true]
        exact ⟨ofEntity_serviceUnavailable, iff_of_true hunavailable fun h => absurd h (by simp)⟩
      | false =>
        simp only [Bool.false_eq_true, if_false, true_imp_iff]
        exact ⟨hentity, hbind.trans ⟨fun h _ => h, fun h => h hrejected⟩⟩

theorem allBind_storageMetrics : AllBind (s.storageMetrics p) ↔ (s.storageRaises = false →
    ∀ disk ∈ s.currentDisks, (∀ disk' ∈ s.currentDisks, disk.name < disk'.name →
      disk'.identity ≠ disk.identity) → disk.InRange) := by
  have hsorted : s.currentDisks.Pairwise fun disk disk' => disk.name < disk'.name := by
    unfold Sources.currentDisks
    cases s.diskstats with
    | error raised => exact List.Pairwise.nil
    | ok text => exact lt_sortedBy nodup_dictionary
  rw [Sources.storageMetrics]
  cases s.storageRaises with
  | true => simp [AllBind, deduplicateMetrics, keepBest]
  | false =>
    simp only [Bool.false_eq_true, if_false, true_imp_iff]
    exact @allBind_disks _ (fun disk => find DiskCounters.name disk.name p.disks) _ _ hsorted

/-- The names of the interfaces captured differ. -/
theorem nodup_interfaces {current : List InterfaceCounters} (h : s.interfaces = .ok current) :
    (current.map (·.name)).Nodup := by
  obtain ⟨text, _, hparse⟩ := bind_eq_ok.1 h
  rw [parseNetDev] at hparse
  split_ifs at hparse
  obtain ⟨interfaces, _, hdictionary⟩ := bind_eq_ok.1 hparse
  cases hdictionary
  exact nodup_dictionary

theorem allBind_interfacesMetrics : AllBind (s.interfacesMetrics p) ↔ ∀ current, s.interfaces = .ok current →
    (∀ counters ∈ current, counters.name ≠ "external-total" →
      counters.InRange ∧ (s.interfaceLink counters.name).InRange) ∧
    ∀ field, Fits ((current.filter (·.name ≠ "lo")).map (·.get field)).sum := by
  rw [Sources.interfacesMetrics]
  cases hinterfaces : s.interfaces with
  | error raised =>
    exact iff_of_true (allBind_of_binds binds_unavailable) fun current h => absurd h (by simp)
  | ok current =>
    simp only [Except.ok.injEq, forall_eq']
    exact @allBind_interfaces current (nodup_interfaces hinterfaces)
      (fun counters => find InterfaceCounters.name counters.name p.interfaces) _
      (fun counters => s.interfaceLink counters.name) _ _

theorem currentTcp_sublist :
    (s.currentTcp.map Prod.fst).Sublist ((tcpCounters ++ tcpextCounters).map Prod.snd) := by
  rw [Sources.currentTcp, selectedTcpCounters, List.map_append, List.map_append]
  exact selectCounters_sublist.append selectCounters_sublist

/-! ## Entity types -/

theorem type_storageMetrics : ∀ m ∈ s.storageMetrics p, m.key.1 = "disk" := by
  intro m hm
  rw [Sources.storageMetrics] at hm
  split_ifs at hm
  · exact absurd hm List.not_mem_nil
  · obtain ⟨disk, _, hm⟩ := List.mem_flatMap.mp hm
    rw [key_of_mem_diskMetrics hm]

theorem type_interfacesMetrics : ∀ m ∈ s.interfacesMetrics p, m.key.1 = "interface" := by
  intro m hm
  rw [Sources.interfacesMetrics] at hm
  cases hinterfaces : s.interfaces with
  | error raised =>
    simp only [hinterfaces] at hm
    rw [ofEntity_unavailable.key (by decide) (by decide) hm]
  | ok current =>
    simp only [hinterfaces] at hm
    rcases List.mem_append.mp hm with hm | hm
    · obtain ⟨counters, _, hm⟩ := List.mem_flatMap.mp hm
      rw [key_of_mem_interfaceMetrics hm]
    · rw [key_of_mem_interfaceMetrics hm]

theorem type_tcpMetrics {current : List (String × Int)} {previous : Option (List (String × Int))}
    {elapsed maxGap : Option ℚ} :
    ∀ m ∈ tcpCounterMetrics current previous elapsed maxGap ++ missingTcpMetrics current, m.key.1 = "host" := by
  intro m hm
  rw [(ofEntity_tcpCounterMetrics.append ofEntity_missingTcpMetrics).key (by decide) (by decide) hm]

theorem type_networkMetrics : ∀ m ∈ s.networkMetrics p, m.key.1 = "interface" ∨ m.key.1 = "host" := by
  intro m hm
  rw [Sources.networkMetrics] at hm
  split_ifs at hm
  · exact absurd hm List.not_mem_nil
  · rcases List.mem_append.mp hm with hm | hm
    · exact .inl (type_interfacesMetrics m hm)
    · exact .inr (type_tcpMetrics m hm)

theorem key_ne_of_type {m m' : Metric} {entityType entityType' : String} (h : m.key.1 = entityType)
    (h' : m'.key.1 = entityType') (hne : entityType ≠ entityType') : m.key ≠ m'.key := by
  intro heq
  rw [heq, h'] at h
  exact hne h.symm

theorem allBind_networkMetrics : AllBind (s.networkMetrics p) ↔ (s.networkRaises = false →
    (∀ current, s.interfaces = .ok current →
      (∀ counters ∈ current, counters.name ≠ "external-total" →
        counters.InRange ∧ (s.interfaceLink counters.name).InRange) ∧
      ∀ field, Fits ((current.filter (·.name ≠ "lo")).map (·.get field)).sum) ∧
    ∀ counter ∈ s.currentTcp, Fits counter.2) := by
  rw [Sources.networkMetrics]
  cases s.networkRaises with
  | true => simp [AllBind, deduplicateMetrics, keepBest]
  | false =>
    simp only [Bool.false_eq_true, if_false, true_imp_iff]
    rw [allBind_append_of_disjoint fun m hm m' hm' =>
      key_ne_of_type (type_interfacesMetrics m hm) (type_tcpMetrics m' hm') (by decide),
      allBind_interfacesMetrics, allBind_tcp currentTcp_sublist]

/-! ## The cycle -/

/-- What is captured of a service, if anything. -/
def captured (s : Sources) (service : String) : Option ServiceCapture :=
  (s.captureService service).toOption.join

theorem captureService_cases (s : Sources) (service : String) :
    (∃ properties, s.readProperties service = .ok properties ∧
      Rejected s.digits (properties.getD "MainPID") ∧ ∃ raised, s.captureService service = .error raised) ∨
    ((∀ properties, s.readProperties service = .ok properties →
      ¬ Rejected s.digits (properties.getD "MainPID")) ∧
      s.captureService service = .ok (captured s service)) := by
  unfold captured Sources.captureService
  cases hproperties : s.readProperties service with
  | error raised => exact .inr ⟨fun properties h => absurd h (by simp), rfl⟩
  | ok properties =>
    by_cases hrejected : Rejected s.digits (properties.getD "MainPID")
    · obtain ⟨raised, hraised⟩ := intIfDigits_of_rejected hrejected
      refine .inl ⟨properties, rfl, hrejected, raised, ?_⟩
      simp only [intProperty, hraised]
      rfl
    · refine .inr ⟨fun properties' h => ?_, ?_⟩
      · cases h
        exact hrejected
      · simp only [intProperty, intIfDigits_of_not_rejected hrejected]
        rfl

/-- The metrics of a cycle, before they are deduplicated. -/
def gathered (s : Sources) (p : Previous) : List Metric :=
  s.storageMetrics p ++ (s.networkMetrics p ++
    s.services.flatMap fun service => s.serviceEntityMetrics p service (captured s service))

theorem collectMetrics_of_accepted (h : s.PidsAccepted) :
    s.collectMetrics p = .ok (deduplicateMetrics (gathered s p)) := by
  have hcapture : ∀ service ∈ s.services,
      (do .ok (service, ← s.captureService service) : Except Raised (String × Option ServiceCapture)) =
        .ok (service, captured s service) := by
    intro service hservice
    rcases captureService_cases s service with ⟨properties, hproperties, hrejected, _⟩ | ⟨_, hok⟩
    · exact absurd hrejected (h service hservice properties hproperties)
    · rw [hok]
      rfl
  rw [Sources.collectMetrics, mapM_eq_ok_map hcapture]
  simp only [bind, Except.bind, gathered, List.flatMap_map]

theorem accepted_of_collectMetrics {metrics : List Metric} (h : s.collectMetrics p = .ok metrics) :
    s.PidsAccepted := by
  obtain ⟨services, hservices, _⟩ := bind_eq_ok.1 h
  intro service hservice properties hproperties hrejected
  obtain ⟨captured, hcaptured⟩ := exists_ok_of_mapM hservices hservice
  rcases captureService_cases s service with ⟨_, _, _, raised, hraised⟩ | ⟨hnot, _⟩
  · rw [hraised] at hcaptured
    cases hcaptured
  · exact hnot properties hproperties hrejected

theorem allBind_gathered : AllBind (gathered s p) ↔ s.InRange p := by
  have hservices : ∀ m ∈ s.services.flatMap fun service =>
      s.serviceEntityMetrics p service (captured s service), m.key.1 = "service" := by
    intro m hm
    obtain ⟨service, hservice, hm⟩ := List.mem_flatMap.mp hm
    have hnamed := s.services_named service hservice
    rw [(serviceEntityMetrics_spec hnamed _).1.key (by decide) hnamed hm]
  have hapart : s.services.Pairwise fun service service' =>
      ∀ m ∈ s.serviceEntityMetrics p service (captured s service),
      ∀ m' ∈ s.serviceEntityMetrics p service' (captured s service'), m.key ≠ m'.key := by
    refine s.services_nodup.imp_of_mem fun {service service'} hservice hservice' hne m hm m' hm' heq => hne ?_
    have hnamed := s.services_named service hservice
    have hnamed' := s.services_named service' hservice'
    rw [(serviceEntityMetrics_spec hnamed _).1.key (by decide) hnamed hm,
      (serviceEntityMetrics_spec hnamed' _).1.key (by decide) hnamed' hm'] at heq
    exact congrArg (·.2.1) heq
  have hnetwork : ∀ m ∈ s.networkMetrics p, ∀ m' ∈ s.services.flatMap (fun service =>
      s.serviceEntityMetrics p service (captured s service)), m.key ≠ m'.key := by
    intro m hm m' hm'
    rcases type_networkMetrics m hm with htype | htype
    · exact key_ne_of_type htype (hservices m' hm') (by decide)
    · exact key_ne_of_type htype (hservices m' hm') (by decide)
  have hstorage : ∀ m ∈ s.storageMetrics p, ∀ m' ∈ s.networkMetrics p ++ s.services.flatMap (fun service =>
      s.serviceEntityMetrics p service (captured s service)), m.key ≠ m'.key := by
    intro m hm m' hm'
    rcases List.mem_append.mp hm' with hm' | hm'
    · rcases type_networkMetrics m' hm' with htype | htype
      · exact key_ne_of_type (type_storageMetrics m hm) htype (by decide)
      · exact key_ne_of_type (type_storageMetrics m hm) htype (by decide)
    · exact key_ne_of_type (type_storageMetrics m hm) (hservices m' hm') (by decide)
  have hservice : ∀ service ∈ s.services,
      (AllBind (s.serviceEntityMetrics p service (captured s service)) ↔
        (s.serviceRaises service = false → ∀ c ∈ captured s service, ¬ PropertyRejected s.digits c.properties →
          s.ServiceInRange p service c)) :=
    fun service hservice => (serviceEntityMetrics_spec (s.services_named service hservice) _).2
  have hcaptured : ∀ service c, c ∈ captured s service ↔ s.captureService service = .ok (some c) := by
    intro service c
    unfold captured
    cases s.captureService service with
    | error raised => simp [Except.toOption]
    | ok c' => simp [Except.toOption]
  rw [gathered, allBind_append_of_disjoint hstorage, allBind_append_of_disjoint hnetwork,
    allBind_flatMap hapart, forall₂_congr hservice, allBind_storageMetrics, allBind_networkMetrics]
  simp only [hcaptured]
  constructor
  · rintro ⟨hdisks, hnetwork, hservices⟩
    exact {
      interfaces := fun hraises current hcurrent => ((hnetwork hraises).1 current hcurrent).1
      external := fun hraises current hcurrent => ((hnetwork hraises).1 current hcurrent).2
      tcp := fun hraises => (hnetwork hraises).2
      disks := hdisks
      services := hservices }
  · intro hrange
    exact ⟨hrange.disks, fun hraises => ⟨fun current hcurrent =>
      ⟨hrange.interfaces hraises current hcurrent, hrange.external hraises current hcurrent⟩,
      hrange.tcp hraises⟩, hrange.services⟩

/-- All integers that a cycle passes to `insert_metric` have 64 bits exactly when the numbers that it reads
are in range, unless a process number ends it before. -/
theorem metrics_bind_iff (s : Sources) (p : Previous) :
    (∀ metrics, s.collectMetrics p = .ok metrics → ∀ m ∈ metrics, m.Binds) ↔
      (s.PidsAccepted → s.InRange p) := by
  rw [← allBind_gathered]
  constructor
  · exact fun hbinds haccepted => hbinds _ (collectMetrics_of_accepted haccepted)
  · intro hrange metrics hmetrics
    have haccepted := accepted_of_collectMetrics hmetrics
    rw [collectMetrics_of_accepted haccepted] at hmetrics
    cases hmetrics
    exact hrange haccepted

/-! ## Writing -/

/-- Metrics are written unless one of them, which is not left out, does not bind. -/
theorem writeMetrics_ok_iff {metrics : List Metric} :
    (∃ rows, writeMetrics metrics = .ok rows) ↔ ∀ m ∈ metrics, isSensitive m.name = false → m.Binds := by
  have hloop : ∀ rows, (∃ rows', metrics.foldlM (fun rows m => insertMetric m rows) rows = .ok rows') ↔
      ∀ m ∈ metrics, isSensitive m.name = false → m.Binds := by
    induction metrics with
    | nil => exact fun rows => iff_of_true ⟨rows, rfl⟩ fun m hm => absurd hm List.not_mem_nil
    | cons m metrics ih =>
      intro rows
      rw [List.foldlM_cons, List.forall_mem_cons]
      by_cases hsensitive : isSensitive m.name
      · rw [insertMetric, if_pos hsensitive]
        simp only [hsensitive, Bool.true_eq_false, false_imp_iff, true_and]
        exact ih rows
      · rw [insertMetric, if_neg hsensitive]
        rw [Bool.not_eq_true] at hsensitive
        simp only [hsensitive, true_imp_iff]
        by_cases hbinds : m.Binds
        · rw [if_pos hbinds]
          exact (ih _).trans (and_iff_right hbinds).symm
        · rw [if_neg hbinds]
          refine iff_of_false ?_ fun hall => hbinds hall.1
          rintro ⟨rows', hrows'⟩
          cases hrows'
  exact hloop []

/-- The metrics of a cycle are stored exactly when its process numbers are accepted and those with an
inoffensive name bind. Else the cycle fails as a whole. -/
theorem collectOnce_ok_iff : (∃ rows, s.collectOnce p = .ok rows) ↔ s.PidsAccepted ∧
    ∀ m ∈ deduplicateMetrics (gathered s p), isSensitive m.name = false → m.Binds := by
  constructor
  · rintro ⟨rows, hrows⟩
    obtain ⟨metrics, hmetrics, hwrite⟩ := bind_eq_ok.1 hrows
    have haccepted := accepted_of_collectMetrics hmetrics
    rw [collectMetrics_of_accepted haccepted] at hmetrics
    cases hmetrics
    exact ⟨haccepted, writeMetrics_ok_iff.mp ⟨rows, hwrite⟩⟩
  · rintro ⟨haccepted, hbind⟩
    simp only [Sources.collectOnce, collectMetrics_of_accepted haccepted]
    exact writeMetrics_ok_iff.mpr hbind

/-- A cycle whose numbers are in range is stored. -/
theorem collectOnce_of_inRange (haccepted : s.PidsAccepted) (hrange : s.InRange p) :
    ∃ rows, s.collectOnce p = .ok rows :=
  collectOnce_ok_iff.mpr ⟨haccepted, fun m hm _ => allBind_gathered.mpr hrange m hm⟩

/-! ## A number that is too large -/

/-- A file that cannot be opened. -/
def missingFile {α : Type} : Except Raised α := .error (.osError "No such file or directory")

/-- A cycle that reads nothing but what `systemctl` shows of one service, whose memory is not known. -/
def unknownMemory : Sources where
  digits := .ascii
  netDev := missingFile
  netLink _ _ := missingFile
  snmp := missingFile
  netstat := missingFile
  diskstats := missingFile
  services := ["gost-iran-1.service"]
  services_nodup := List.nodup_singleton _
  services_named := by decide
  systemctlShow _ :=
    .ok "ActiveState=active\nMainPID=0\nMemoryCurrent=18446744073709551615".toList
  cgroupFile _ := missingFile
  procStat _ := missingFile
  procStatus _ := missingFile
  procLimits _ := missingFile
  procFds _ := missingFile
  pageSize := 4096
  ticksPerSecond := 100
  maxGap := none
  slowSourcesDue := false
  networkRaises := false
  storageRaises := false
  serviceRaises _ := false

/-- The first cycle. -/
def noPrevious : Previous where
  interfaces := []
  interfacesElapsed := none
  tcp := none
  tcpElapsed := none
  disks := []
  disksElapsed := none
  process _ := none
  processElapsed _ := none
  processSlow _ := none
  cgroupMemory _ := none

/-- The properties that it reads. -/
def unknownProperties : Properties :=
  [("ActiveState".toList, "active".toList), ("MainPID".toList, "0".toList),
    ("MemoryCurrent".toList, "18446744073709551615".toList)]

/-- What it captures of the service. -/
def unknownCapture : ServiceCapture where
  properties := unknownProperties
  pidSet := ⟨[], false⟩
  fast := []
  slow := []
  cgroupMemory := none

theorem readProperties_unknownMemory :
    unknownMemory.readProperties "gost-iran-1.service" = .ok unknownProperties := by decide +kernel

theorem captureService_unknownMemory :
    unknownMemory.captureService "gost-iran-1.service" = .ok (some unknownCapture) := by
  have hpid : intProperty .ascii unknownProperties "MainPID" = .ok (some 0) := by decide +kernel
  have hgroup : unknownProperties.getD "ControlGroup" = [] := by decide +kernel
  simp only [Sources.captureService, readProperties_unknownMemory]
  simp only [unknownMemory, hpid, Sources.servicePids, hgroup]
  rfl

theorem pidsAccepted_unknownMemory : unknownMemory.PidsAccepted := by
  have haccepted : ¬ Rejected .ascii (unknownProperties.getD "MainPID") := by decide +kernel
  intro service hservice properties hproperties
  obtain rfl := List.mem_singleton.mp hservice
  rw [readProperties_unknownMemory] at hproperties
  cases hproperties
  exact haccepted

theorem not_inRange_unknownMemory : ¬ unknownMemory.InRange noPrevious := by
  have hrejected : ¬ PropertyRejected .ascii unknownProperties := by decide +kernel
  have hnumber : unknownMemory.memoryNumber noPrevious "gost-iran-1.service" unknownCapture "MemoryCurrent"
      (·.memoryCurrent) = some 18446744073709551615 := by decide +kernel
  intro hrange
  have hmemory := (hrange.services "gost-iran-1.service" (List.mem_singleton.mpr rfl) rfl unknownCapture
    captureService_unknownMemory hrejected).memoryCurrent
  rw [hnumber] at hmemory
  exact absurd (hmemory _ rfl) (by decide)

/-- The largest unsigned number of 64 bits is passed on. -/
theorem not_metrics_bind :
    ¬ ∀ (s : Sources) (p : Previous) metrics, s.collectMetrics p = .ok metrics → ∀ m ∈ metrics, m.Binds := by
  intro hall
  exact not_inRange_unknownMemory (allBind_gathered.mp
    (hall _ _ _ (collectMetrics_of_accepted pidsAccepted_unknownMemory)))

end Monitoring.Readers
