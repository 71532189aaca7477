import Mathlib.Data.List.Flatten
import Mathlib.Data.List.Perm.Subperm
import Mathlib.Data.String.Basic
import GostManager.Lists.Proofs.DictionaryProofs
import GostManager.Monitoring.Ranges

/-!
# Proofs: ranges

The metrics of a cycle are taken apart by their entities. What is kept of the metrics of one entity depends
on no other, and an integer with the quality `exact` is replaced only by a later one.
-/

namespace Monitoring.Readers

open Lists Texts

variable {m m' : Metric} {metrics metrics' : List Metric} {entityType entityId entityType' entityId' : String}

/-! ## Values -/

theorem binds_of_integer {n : Int} (h : m.value = some (.integer n)) : m.Binds ↔ Fits n := by
  unfold Metric.Binds
  rw [h]
  constructor
  · exact fun hbinds => hbinds n rfl
  · intro hfits k hk
    cases hk
    exact hfits

theorem binds_of_integer? {n : Option Int} (h : m.value = n.map .integer) : m.Binds ↔ FitsIfAny n := by
  cases n with
  | none => simp [Metric.Binds, FitsIfAny, h]
  | some n =>
    rw [binds_of_integer h]
    simp [FitsIfAny]

theorem binds_of_boolean {b : Option Bool} (h : m.value = b.map .boolean) : m.Binds := by
  intro n hn
  rw [h] at hn
  cases b with
  | none => cases hn
  | some b =>
    cases hn
    cases b <;> decide

theorem binds_of_real {x : Option ℚ} (h : m.value = x.map .real) : m.Binds := by
  intro n hn
  rw [h] at hn
  cases x <;> cases hn

theorem binds_of_text {text : Option Text} (h : m.value = text.map .text) : m.Binds := by
  intro n hn
  rw [h] at hn
  cases text <;> cases hn

/-! ## Entities -/

theorem OfEntity.append (h : OfEntity entityType entityId metrics)
    (h' : OfEntity entityType entityId metrics') : OfEntity entityType entityId (metrics ++ metrics') :=
  List.forall_mem_append.mpr ⟨h, h'⟩

theorem OfEntity.key (h : OfEntity entityType entityId metrics) (ht : entityType ≠ "") (hi : entityId ≠ "")
    (hm : m ∈ metrics) : m.key = (entityType, entityId, m.name) := by
  obtain ⟨htype, hid⟩ := h m hm
  simp only [Metric.key, textOr, htype, hid, if_neg ht, if_neg hi]

theorem OfEntity.nodup (h : OfEntity entityType entityId metrics) (ht : entityType ≠ "") (hi : entityId ≠ "")
    (hnames : (metrics.map (·.name)).Nodup) : (metrics.map Metric.key).Nodup := by
  have hkeys : metrics.map Metric.key =
      (metrics.map (·.name)).map fun name => (entityType, entityId, name) := by
    rw [List.map_map]
    exact List.map_congr_left fun m hm => h.key ht hi hm
  rw [hkeys]
  exact hnames.map fun name name' heq => congrArg (·.2.2) heq

theorem allBind_append_of_disjoint (h : ∀ m ∈ metrics, ∀ m' ∈ metrics', m.key ≠ m'.key) :
    AllBind (metrics ++ metrics') ↔ AllBind metrics ∧ AllBind metrics' := by
  simp only [AllBind, deduplicateMetrics, mem_keepBest_append_of_disjoint h, or_imp, forall_and]

/-- What lies between two lists and shares no keys with them does not matter to them. -/
theorem allBind_append_middle {middle : List Metric} (h : ∀ m ∈ middle, ∀ m' ∈ metrics ++ metrics', m.key ≠ m'.key) :
    AllBind (metrics ++ (middle ++ metrics')) ↔ AllBind middle ∧ AllBind (metrics ++ metrics') := by
  obtain ⟨hleft, hright⟩ : (∀ m ∈ middle, ∀ m' ∈ metrics, m.key ≠ m'.key) ∧
      ∀ m ∈ middle, ∀ m' ∈ metrics', m.key ≠ m'.key :=
    ⟨fun m hm m' hm' => h m hm m' (List.mem_append_left _ hm'),
      fun m hm m' hm' => h m hm m' (List.mem_append_right _ hm')⟩
  simp only [AllBind, deduplicateMetrics, mem_keepBest_append (l := metrics), List.forall_mem_append,
    mem_keepBest_append_of_disjoint hright]
  constructor
  · intro hall
    constructor
    · intro m hm
      exact hall m (.inl ⟨.inl hm, fun m' hm' heq =>
        absurd heq.symm (hleft m (mem_of_mem_keepBest hm) m' hm')⟩)
    · rintro m (⟨hm, hbest⟩ | ⟨hm, hbest⟩)
      · exact hall m (.inl ⟨.inr hm, hbest⟩)
      · exact hall m (.inr ⟨hm, fun m' hm' heq =>
          absurd heq (hleft m' hm' m (mem_of_mem_keepBest hm)), hbest⟩)
  · rintro ⟨hmiddle, hall⟩ m (⟨hm | hm, hbest⟩ | ⟨hm, _, hbest⟩)
    · exact hmiddle m hm
    · exact hall m (.inl ⟨hm, hbest⟩)
    · exact hall m (.inr ⟨hm, hbest⟩)

theorem allBind_flatMap {β : Type} {f : β → List Metric} {bs : List β}
    (h : bs.Pairwise fun b b' => ∀ m ∈ f b, ∀ m' ∈ f b', m.key ≠ m'.key) :
    AllBind (bs.flatMap f) ↔ ∀ b ∈ bs, AllBind (f b) := by
  simp only [AllBind, deduplicateMetrics, mem_keepBest_flatMap h]
  constructor
  · exact fun hall b hb m hm => hall m ⟨b, hb, hm⟩
  · rintro hall m ⟨b, hb, hm⟩
    exact hall b hb m hm

theorem allBind_of_nodup (h : (metrics.map Metric.key).Nodup) :
    AllBind metrics ↔ ∀ m ∈ metrics, m.Binds := by
  simp only [AllBind, deduplicateMetrics, mem_keepBest_of_nodup h]

/-- Of two lists a later metric counts unless it is worse, and an earlier one only if it is better. -/
theorem allBind_append_of_nodup (h : (metrics.map Metric.key).Nodup) (h' : (metrics'.map Metric.key).Nodup) :
    AllBind (metrics ++ metrics') ↔
      (∀ m ∈ metrics', (∀ m' ∈ metrics, m'.key = m.key → m.rank ≤ m'.rank) → m.Binds) ∧
      ∀ m ∈ metrics, (∀ m' ∈ metrics', m'.key = m.key → m.rank < m'.rank) → m.Binds := by
  simp only [AllBind, deduplicateMetrics, mem_keepBest_append, mem_keepBest_of_nodup h,
    mem_keepBest_of_nodup h', or_imp, and_imp, forall_and]

/-! ## Sorting -/

section

variable {α : Type} {key : α → String} {l : List α}

theorem sortedBy_perm : (sortedBy key l).Perm l := List.perm_insertionSort _ _

theorem nodup_sortedBy (h : (l.map key).Nodup) : (sortedBy key l).Pairwise fun a b => key a ≠ key b :=
  List.pairwise_map.mp ((sortedBy_perm.map key).nodup_iff.mpr h)

theorem lt_sortedBy (h : (l.map key).Nodup) : (sortedBy key l).Pairwise fun a b => key a < key b := by
  have : Std.Total fun a b : α => key a ≤ key b := ⟨fun a b => le_total (key a) (key b)⟩
  have : IsTrans α fun a b => key a ≤ key b := ⟨fun _ _ _ => le_trans⟩
  have hsorted := List.pairwise_insertionSort (fun a b => key a ≤ key b) l
  exact (hsorted.and (nodup_sortedBy h)).imp fun h => lt_of_le_of_ne h.1 h.2

end

/-! ## Interfaces -/

section

variable {counters : InterfaceCounters} {previous : Option InterfaceCounters} {elapsed maxGap : Option ℚ}
  {link : InterfaceLink} {scope : String} {labels : List (String × String)}

theorem ofEntity_linkMetrics : OfEntity "interface" entityId (linkMetrics link scope entityId labels) := by
  simp only [linkMetrics, OfEntity, List.forall_mem_cons, List.not_mem_nil, false_imp_iff, implies_true,
    and_true]
  exact ⟨⟨rfl, rfl⟩, ⟨rfl, rfl⟩, ⟨rfl, rfl⟩, rfl, rfl⟩

theorem ofEntity_interfaceMetrics {link : Option InterfaceLink} :
    OfEntity "interface" ("interface:" ++ counters.name)
      (interfaceMetrics counters previous elapsed link maxGap) := by
  unfold interfaceMetrics
  refine OfEntity.append (fun m hm => ?_) ?_
  · obtain ⟨field, _, hfield⟩ := List.mem_flatMap.mp hm
    simp only [interfaceFieldMetrics, List.mem_cons, List.not_mem_nil, or_false] at hfield
    rcases hfield with rfl | rfl <;> exact ⟨rfl, rfl⟩
  · cases link with
    | none => exact fun m hm => absurd hm List.not_mem_nil
    | some link =>
      by_cases hname : counters.name = "external-total"
      · simp only [if_pos hname]
        exact fun m hm => absurd hm List.not_mem_nil
      · simp only [if_neg hname]
        exact ofEntity_linkMetrics

/-- The names of the metrics of an interface. -/
theorem map_name_fieldMetrics :
    (InterfaceField.all.flatMap (interfaceFieldMetrics counters previous elapsed maxGap scope entityId)).map
      (·.name) = InterfaceField.all.flatMap fun field => [field.name, field.name ++ "_per_second"] := rfl

/-- The names of all metrics that an interface may have. -/
def interfaceMetricNames : List String :=
  (InterfaceField.all.flatMap fun field => [field.name, field.name ++ "_per_second"]) ++
    ["link_up", "link_state", "mtu", "speed_mbps"]

theorem map_name_interfaceMetrics {link : Option InterfaceLink} :
    ((interfaceMetrics counters previous elapsed link maxGap).map (·.name)).Sublist interfaceMetricNames := by
  simp only [interfaceMetrics, List.map_append, map_name_fieldMetrics]
  refine List.Sublist.append_left ?_ _
  cases link with
  | none => exact List.nil_sublist _
  | some link =>
    by_cases hname : counters.name = "external-total"
    · simp only [if_pos hname]
      exact List.nil_sublist _
    · simp only [if_neg hname]
      exact List.Sublist.refl _

theorem nodup_names_interfaceMetrics {link : Option InterfaceLink} :
    ((interfaceMetrics counters previous elapsed link maxGap).map (·.name)).Nodup :=
  (show interfaceMetricNames.Nodup by decide).sublist map_name_interfaceMetrics

theorem binds_fieldMetrics :
    (∀ m ∈ InterfaceField.all.flatMap (interfaceFieldMetrics counters previous elapsed maxGap scope entityId),
      m.Binds) ↔ counters.InRange := by
  constructor
  · intro hbinds field
    refine (binds_of_integer rfl).mp (hbinds _ (List.mem_flatMap.mpr ⟨field, ?_, List.mem_cons_self⟩))
    cases field <;> decide
  · intro hrange m hm
    obtain ⟨field, _, hfield⟩ := List.mem_flatMap.mp hm
    simp only [interfaceFieldMetrics, List.mem_cons, List.not_mem_nil, or_false] at hfield
    rcases hfield with rfl | rfl
    · exact (binds_of_integer rfl).mpr (hrange field)
    · exact binds_of_real rfl

theorem binds_linkMetrics :
    (∀ m ∈ linkMetrics link scope entityId labels, m.Binds) ↔ link.InRange := by
  simp only [linkMetrics, List.forall_mem_cons, List.not_mem_nil, false_imp_iff, implies_true, and_true]
  constructor
  · rintro ⟨_, _, hmtu, hspeed⟩
    exact ⟨(binds_of_integer? rfl).mp hmtu, (binds_of_integer? rfl).mp hspeed⟩
  · rintro ⟨hmtu, hspeed⟩
    exact ⟨binds_of_boolean rfl, binds_of_text rfl, (binds_of_integer? rfl).mpr hmtu,
      (binds_of_integer? rfl).mpr hspeed⟩

theorem binds_interfaceMetrics (hname : counters.name ≠ "external-total") :
    (∀ m ∈ interfaceMetrics counters previous elapsed (some link) maxGap, m.Binds) ↔
      counters.InRange ∧ link.InRange := by
  simp only [interfaceMetrics, if_neg hname]
  rw [List.forall_mem_append, binds_fieldMetrics, binds_linkMetrics]

/-- The integers among the metrics of an interface without a link are its counters. -/
theorem of_integer_interfaceMetrics {link : Option InterfaceLink} {n : Int}
    (hlink : link = none ∨ counters.name = "external-total")
    (hm : m ∈ interfaceMetrics counters previous elapsed link maxGap) (hn : m.value = some (.integer n)) :
    m.quality = .exact ∧ ∃ field ∈ InterfaceField.all, m.name = field.name := by
  have hfields : m ∈ InterfaceField.all.flatMap (interfaceFieldMetrics counters previous elapsed maxGap
      (if counters.name = "lo" then "net.loopback" else "net.external") ("interface:" ++ counters.name)) := by
    rcases hlink with rfl | hname
    · simpa only [interfaceMetrics, List.append_nil] using hm
    · cases link <;> simpa only [interfaceMetrics, if_pos hname, List.append_nil] using hm
  obtain ⟨field, hall, hfield⟩ := List.mem_flatMap.mp hfields
  simp only [interfaceFieldMetrics, List.mem_cons, List.not_mem_nil, or_false] at hfield
  rcases hfield with rfl | rfl
  · exact ⟨rfl, field, hall, rfl⟩
  · simp only [Option.map_eq_some_iff] at hn
    obtain ⟨x, _, hx⟩ := hn
    cases hx

theorem binds_aggregateMetrics :
    (∀ m ∈ interfaceMetrics counters previous elapsed none maxGap, m.Binds) ↔ counters.InRange := by
  simp only [interfaceMetrics, List.append_nil, binds_fieldMetrics]

theorem nodup_interfaceMetrics {link : Option InterfaceLink} :
    ((interfaceMetrics counters previous elapsed link maxGap).map Metric.key).Nodup :=
  ofEntity_interfaceMetrics.nodup (by decide) (by simp) nodup_names_interfaceMetrics

theorem key_of_mem_interfaceMetrics {link : Option InterfaceLink}
    (hm : m ∈ interfaceMetrics counters previous elapsed link maxGap) :
    m.key = ("interface", "interface:" ++ counters.name, m.name) :=
  ofEntity_interfaceMetrics.key (by decide) (by simp) hm

end

/-- An interface with the name of the aggregate is replaced by it; all others count. -/
theorem allBind_interfaces {current : List InterfaceCounters} (hnodup : (current.map (·.name)).Nodup)
    {previous : InterfaceCounters → Option InterfaceCounters} {previousTotal : Option InterfaceCounters}
    {link : InterfaceCounters → InterfaceLink} {elapsed maxGap : Option ℚ} :
    AllBind ((sortedBy InterfaceCounters.name current).flatMap (fun counters =>
        interfaceMetrics counters (previous counters) elapsed (some (link counters)) maxGap) ++
      interfaceMetrics (aggregateExternal current) previousTotal elapsed none maxGap) ↔
    (∀ counters ∈ current, counters.name ≠ "external-total" →
      counters.InRange ∧ (link counters).InRange) ∧ (aggregateExternal current).InRange := by
  have hblocks : (sortedBy InterfaceCounters.name current).Pairwise fun counters counters' =>
      ∀ m ∈ interfaceMetrics counters (previous counters) elapsed (some (link counters)) maxGap,
      ∀ m' ∈ interfaceMetrics counters' (previous counters') elapsed (some (link counters')) maxGap,
        m.key ≠ m'.key := by
    refine (nodup_sortedBy hnodup).imp fun hne m hm m' hm' heq => hne ?_
    rw [key_of_mem_interfaceMetrics hm, key_of_mem_interfaceMetrics hm'] at heq
    exact (String.append_right_inj _).mp (congrArg (·.2.1) heq)
  have htotal : ∀ m ∈ interfaceMetrics (aggregateExternal current) previousTotal elapsed none maxGap,
      m.key = ("interface", "interface:" ++ "external-total", m.name) :=
    fun m hm => key_of_mem_interfaceMetrics hm
  simp only [AllBind, deduplicateMetrics, mem_keepBest_append, mem_keepBest_flatMap hblocks,
    mem_keepBest_of_nodup nodup_interfaceMetrics, sortedBy_perm.mem_iff]
  constructor
  · intro hall
    constructor
    · intro counters hmem hname
      refine (binds_interfaceMetrics hname).mp fun m hm => hall m (.inr ⟨⟨counters, hmem, hm⟩, ?_⟩)
      intro m' hm' heq
      rw [htotal m' hm', key_of_mem_interfaceMetrics hm] at heq
      exact absurd ((String.append_right_inj _).mp (congrArg (·.2.1) heq).symm) hname
    · refine binds_aggregateMetrics.mp fun m hm n hn => hall m (.inl ⟨hm, fun m' _ _ => ?_⟩) n hn
      rw [Metric.rank, (of_integer_interfaceMetrics (.inl rfl) hm hn).1]
      exact Nat.zero_le _
  · rintro ⟨hinterfaces, hexternal⟩ m (⟨hm, _⟩ | ⟨⟨counters, hmem, hm⟩, hkept⟩)
    · exact binds_aggregateMetrics.mpr hexternal m hm
    · by_cases hname : counters.name = "external-total"
      · -- The aggregate has a metric with the same name, which is as good.
        intro n hn
        obtain ⟨_, field, hfield, hfieldname⟩ := of_integer_interfaceMetrics (.inr hname) hm hn
        have htotal_mem : _ ∈ interfaceMetrics (aggregateExternal current) previousTotal elapsed none maxGap :=
          List.mem_append_left _ (List.mem_flatMap.mpr ⟨field, hfield, List.mem_cons_self⟩)
        have hlt := hkept _ htotal_mem (by
          rw [htotal _ htotal_mem, key_of_mem_interfaceMetrics hm, hname, hfieldname])
        exact absurd hlt (Nat.not_lt_zero _)
      · exact (binds_interfaceMetrics hname).mpr (hinterfaces counters hmem hname) m hm

/-! ## TCP -/

section

variable {current : List (String × Int)} {previous : Option (List (String × Int))} {elapsed maxGap : Option ℚ}

/-- The names of the metrics of a counter. -/
def tcpMetricNames (name : String) : List String :=
  if name = "tcp_current_established" then [name] else [name, name ++ "_per_second"]

theorem map_name_tcpCounterMetrics : (tcpCounterMetrics current previous elapsed maxGap).map (·.name) =
    ((sortedBy Prod.fst current).map Prod.fst).flatMap tcpMetricNames := by
  rw [tcpCounterMetrics, List.map_flatMap, List.flatMap_map]
  refine List.flatMap_congr fun counter _ => ?_
  simp only [tcpFieldMetrics, tcpMetricNames]
  split_ifs <;> rfl

theorem map_name_missingTcpMetrics : (missingTcpMetrics current).map (·.name) =
    (sortedBy id (((tcpCounters ++ tcpextCounters).map Prod.snd).filter fun name =>
      (current.lookup name).isNone)).flatMap tcpMetricNames := by
  rw [missingTcpMetrics, List.map_flatMap]
  refine List.flatMap_congr fun name _ => ?_
  simp only [tcpMetricNames]
  split_ifs <;> rfl

/-- Different counters have different metrics. -/
theorem nodup_tcpMetricNames {names : List String} (hnodup : names.Nodup)
    (hall : names ⊆ (tcpCounters ++ tcpextCounters).map Prod.snd) : (names.flatMap tcpMetricNames).Nodup := by
  have htable : (((tcpCounters ++ tcpextCounters).map Prod.snd).flatMap tcpMetricNames).Nodup := by
    decide
  obtain ⟨names', hperm, hsub⟩ := List.subperm_of_subset hnodup hall
  exact (hperm.flatMap_right tcpMetricNames).nodup_iff.mp (htable.sublist (hsub.flatMap tcpMetricNames))

theorem ofEntity_tcpCounterMetrics :
    OfEntity "host" "local" (tcpCounterMetrics current previous elapsed maxGap) := by
  intro m hm
  obtain ⟨counter, _, hcounter⟩ := List.mem_flatMap.mp hm
  simp only [tcpFieldMetrics] at hcounter
  split_ifs at hcounter <;> simp only [List.mem_cons, List.not_mem_nil, or_false] at hcounter
  · rw [hcounter]
    exact ⟨rfl, rfl⟩
  · rcases hcounter with rfl | rfl <;> exact ⟨rfl, rfl⟩

theorem ofEntity_missingTcpMetrics : OfEntity "host" "local" (missingTcpMetrics current) := by
  intro m hm
  obtain ⟨name, _, hname⟩ := List.mem_flatMap.mp hm
  split_ifs at hname <;> simp only [List.mem_cons, List.not_mem_nil, or_false] at hname
  · rw [hname]
    exact ⟨rfl, rfl⟩
  · rcases hname with rfl | rfl <;> exact ⟨rfl, rfl⟩

theorem binds_tcpCounterMetrics :
    (∀ m ∈ tcpCounterMetrics current previous elapsed maxGap, m.Binds) ↔ ∀ counter ∈ current, Fits counter.2 := by
  constructor
  · intro hbinds counter hcounter
    exact (binds_of_integer rfl).mp (hbinds _ (List.mem_flatMap.mpr
      ⟨counter, sortedBy_perm.mem_iff.mpr hcounter, List.mem_cons_self⟩))
  · intro hfits m hm
    obtain ⟨counter, hcounter, hmem⟩ := List.mem_flatMap.mp hm
    have hfit := hfits counter (sortedBy_perm.mem_iff.mp hcounter)
    simp only [tcpFieldMetrics] at hmem
    split_ifs at hmem <;> simp only [List.mem_cons, List.not_mem_nil, or_false] at hmem
    · rw [hmem]
      exact (binds_of_integer rfl).mpr hfit
    · rcases hmem with rfl | rfl
      · exact (binds_of_integer rfl).mpr hfit
      · exact binds_of_real rfl

theorem binds_missingTcpMetrics : ∀ m ∈ missingTcpMetrics current, m.Binds := by
  intro m hm
  obtain ⟨name, _, hname⟩ := List.mem_flatMap.mp hm
  split_ifs at hname <;> simp only [List.mem_cons, List.not_mem_nil, or_false] at hname
  · rw [hname]
    exact @binds_of_integer? _ none rfl |>.mpr fun _ h => absurd h (by simp)
  · rcases hname with rfl | rfl <;> exact @binds_of_integer? _ none rfl |>.mpr fun _ h => absurd h (by simp)

theorem allBind_tcp (hcurrent : (current.map Prod.fst).Sublist ((tcpCounters ++ tcpextCounters).map Prod.snd)) :
    AllBind (tcpCounterMetrics current previous elapsed maxGap ++ missingTcpMetrics current) ↔
      ∀ counter ∈ current, Fits counter.2 := by
  have htable : ((tcpCounters ++ tcpextCounters).map Prod.snd).Nodup := by decide
  have hsorted := (@sortedBy_perm _ Prod.fst current).map Prod.fst
  have hmissing : ∀ name ∈ sortedBy id (((tcpCounters ++ tcpextCounters).map Prod.snd).filter fun name =>
      (current.lookup name).isNone), name ∈ (tcpCounters ++ tcpextCounters).map Prod.snd ∧
        name ∉ current.map Prod.fst := by
    intro name hname
    obtain ⟨htable, hnone⟩ := List.mem_filter.mp (sortedBy_perm.mem_iff.mp hname)
    refine ⟨htable, fun hmem => ?_⟩
    obtain ⟨counter, hcounter, rfl⟩ := List.mem_map.mp hmem
    have hlookup := List.lookup_eq_none_iff.mp (Option.isNone_iff_eq_none.mp hnone) counter hcounter
    simp at hlookup
  have hnames : (((tcpCounterMetrics current previous elapsed maxGap ++ missingTcpMetrics current)).map
      (·.name)).Nodup := by
    rw [List.map_append, map_name_tcpCounterMetrics, map_name_missingTcpMetrics, ← List.flatMap_append]
    refine nodup_tcpMetricNames (List.nodup_append.mpr ⟨?_, ?_, ?_⟩) ?_
    · exact hsorted.nodup_iff.mpr (htable.sublist hcurrent)
    · exact sortedBy_perm.nodup_iff.mpr (htable.filter _)
    · rintro name hname _ hname' rfl
      exact (hmissing name hname').2 (hsorted.mem_iff.mp hname)
    · intro name hname
      rcases List.mem_append.mp hname with hname | hname
      · exact hcurrent.subset (hsorted.mem_iff.mp hname)
      · exact (hmissing name hname).1
  rw [allBind_of_nodup ((ofEntity_tcpCounterMetrics.append ofEntity_missingTcpMetrics).nodup (by decide)
    (by decide) hnames), List.forall_mem_append, binds_tcpCounterMetrics]
  exact and_iff_left binds_missingTcpMetrics

theorem selectCounters_sublist {names : List (String × String)} {counters : Counters} :
    ((selectCounters names counters).map Prod.fst).Sublist (names.map Prod.snd) := by
  induction names with
  | nil => exact List.Sublist.slnil
  | cons name names ih =>
    rw [selectCounters, List.filterMap_cons]
    cases counters.lookup name.1.toList with
    | none => exact ih.cons _
    | some n => exact ih.cons_cons _

end

/-! ## Disks -/

section

variable {disk : DiskCounters} {previous : Option DiskCounters} {elapsed maxGap : Option ℚ}

theorem ofEntity_diskMetrics :
    OfEntity "disk" ("disk:" ++ disk.identity) (diskMetrics disk previous elapsed maxGap) := by
  refine OfEntity.append (fun m hm => ?_) (fun m hm => ?_)
  · obtain ⟨counter, _, rfl⟩ := List.mem_map.mp hm
    exact ⟨rfl, rfl⟩
  · obtain ⟨counter, _, rfl⟩ := List.mem_map.mp hm
    exact ⟨rfl, rfl⟩

/-- The names of the counters of a disk. -/
def diskCounterNames : List String :=
  ["disk_reads_completed", "disk_read_bytes", "disk_writes_completed", "disk_written_bytes", "disk_io_time_ms"]

theorem map_name_diskMetrics : (diskMetrics disk previous elapsed maxGap).map (·.name) =
    diskCounterNames ++ ["disk_reads_completed_per_second", "disk_read_bytes_per_second",
      "disk_writes_completed_per_second", "disk_written_bytes_per_second", "disk_utilization_percent"] := by
  simp [diskMetrics, DiskCounters.cumulative, diskRateMetric, diskCounterNames]

theorem nodup_names_diskMetrics : ((diskMetrics disk previous elapsed maxGap).map (·.name)).Nodup := by
  rw [map_name_diskMetrics]
  decide

theorem nodup_diskMetrics : ((diskMetrics disk previous elapsed maxGap).map Metric.key).Nodup :=
  ofEntity_diskMetrics.nodup (by decide) (by simp) nodup_names_diskMetrics

theorem key_of_mem_diskMetrics (hm : m ∈ diskMetrics disk previous elapsed maxGap) :
    m.key = ("disk", "disk:" ++ disk.identity, m.name) :=
  ofEntity_diskMetrics.key (by decide) (by simp) hm

/-- The integers among the metrics of a disk are its counters. -/
theorem of_integer_diskMetrics {n : Int} (hm : m ∈ diskMetrics disk previous elapsed maxGap)
    (hn : m.value = some (.integer n)) : m.quality = .exact ∧ m.name ∈ diskCounterNames := by
  rcases List.mem_append.mp hm with hm | hm
  · obtain ⟨counter, hcounter, rfl⟩ := List.mem_map.mp hm
    exact ⟨rfl, List.mem_map_of_mem (f := Prod.fst) hcounter⟩
  · obtain ⟨counter, _, rfl⟩ := List.mem_map.mp hm
    exact absurd hn (by simp [diskRateMetric])

/-- Each counter of a disk has a metric that nothing is better than. -/
theorem exists_mem_diskMetrics {name : String} (h : name ∈ diskCounterNames) :
    ∃ m ∈ diskMetrics disk previous elapsed maxGap, m.name = name ∧ m.rank = 0 := by
  obtain ⟨counter, hcounter, rfl⟩ := List.mem_map.mp (show name ∈ disk.cumulative.map Prod.fst from h)
  exact ⟨_, List.mem_append_left _ (List.mem_map_of_mem hcounter), rfl, rfl⟩

theorem fits_mul_512 {n : Int} : Fits (n * 512) ↔ -2 ^ 54 ≤ n ∧ n < 2 ^ 54 := by
  unfold Fits
  constructor
  · rintro ⟨hlow, hhigh⟩
    constructor <;> omega
  · rintro ⟨hlow, hhigh⟩
    constructor <;> omega

theorem binds_diskMetrics : (∀ m ∈ diskMetrics disk previous elapsed maxGap, m.Binds) ↔ disk.InRange := by
  have hrates : ∀ m ∈ disk.cumulative.map (diskRateMetric disk previous elapsed maxGap), m.Binds := by
    intro m hm
    obtain ⟨counter, _, rfl⟩ := List.mem_map.mp hm
    exact binds_of_real rfl
  rw [diskMetrics, List.forall_mem_append, and_iff_left hrates, List.forall_mem_map]
  simp only [DiskCounters.cumulative, List.forall_mem_cons, List.not_mem_nil, false_imp_iff, implies_true,
    and_true, Metric.Binds, Option.some.injEq, MetricValue.integer.injEq, forall_eq', fits_mul_512]
  constructor
  · rintro ⟨hreads, hsectorsRead, hwrites, hsectorsWritten, hio⟩
    exact ⟨hreads, hsectorsRead, hwrites, hsectorsWritten, hio⟩
  · rintro ⟨hreads, hsectorsRead, hwrites, hsectorsWritten, hio⟩
    exact ⟨hreads, hsectorsRead, hwrites, hsectorsWritten, hio⟩

end

section

variable {disk : DiskCounters} {disks : List DiskCounters} {previous : DiskCounters → Option DiskCounters}
  {elapsed maxGap : Option ℚ}

/-- A disk counts unless one of those after it has its numbers. -/
theorem allBind_cons_disk :
    AllBind ((disk :: disks).flatMap fun d => diskMetrics d (previous d) elapsed maxGap) ↔
      ((∀ d ∈ disks, d.identity ≠ disk.identity) → disk.InRange) ∧
      AllBind (disks.flatMap fun d => diskMetrics d (previous d) elapsed maxGap) := by
  simp only [List.flatMap_cons, AllBind, deduplicateMetrics, mem_keepBest_append,
    mem_keepBest_of_nodup nodup_diskMetrics]
  constructor
  · intro hall
    constructor
    · intro hidentity
      refine binds_diskMetrics.mp fun m hm => hall m (.inr ⟨hm, fun m' hm' heq => ?_⟩)
      obtain ⟨d, hd, hm'⟩ := List.mem_flatMap.mp hm'
      rw [key_of_mem_diskMetrics hm, key_of_mem_diskMetrics hm'] at heq
      exact absurd ((String.append_right_inj _).mp (congrArg (·.2.1) heq)) (hidentity d hd)
    · intro m hm n hn
      obtain ⟨d, _, hmem⟩ := List.mem_flatMap.mp (mem_of_mem_keepBest hm)
      refine hall m (.inl ⟨hm, fun m' _ _ => ?_⟩) n hn
      rw [Metric.rank, (of_integer_diskMetrics hmem hn).1]
      exact Nat.zero_le _
  · rintro ⟨hdisk, hdisks⟩ m (⟨hm, _⟩ | ⟨hm, hkept⟩)
    · exact hdisks m hm
    · by_cases hidentity : ∀ d ∈ disks, d.identity ≠ disk.identity
      · exact binds_diskMetrics.mpr (hdisk hidentity) m hm
      · -- A later disk with the same numbers has a metric that is as good.
        intro n hn
        obtain ⟨d, hd, heq⟩ : ∃ d ∈ disks, d.identity = disk.identity := by
          simpa using hidentity
        obtain ⟨m', hm', hname, hrank⟩ := @exists_mem_diskMetrics d (previous d) elapsed maxGap _
          (of_integer_diskMetrics hm hn).2
        have hlt := hkept m' (List.mem_flatMap.mpr ⟨d, hd, hm'⟩) (by
          rw [key_of_mem_diskMetrics hm, key_of_mem_diskMetrics hm', heq, hname])
        exact absurd hlt (hrank ▸ Nat.not_lt_zero _)

theorem allBind_disks (hsorted : disks.Pairwise fun d d' => d.name < d'.name) :
    AllBind (disks.flatMap fun d => diskMetrics d (previous d) elapsed maxGap) ↔
      ∀ d ∈ disks, (∀ d' ∈ disks, d.name < d'.name → d'.identity ≠ d.identity) → d.InRange := by
  induction disks with
  | nil => simp [AllBind, deduplicateMetrics, keepBest]
  | cons disk disks ih =>
    obtain ⟨hfirst, hrest⟩ := List.pairwise_cons.mp hsorted
    have hrest_of : ∀ d ∈ disks, ¬ d.name < disk.name := fun d hd => lt_asymm (hfirst d hd)
    rw [allBind_cons_disk, ih hrest, List.forall_mem_cons]
    simp only [List.forall_mem_cons, lt_irrefl, false_imp_iff, true_and]
    refine and_congr ?_ (forall₂_congr fun d hd => ?_)
    · exact imp_congr_left (forall₂_congr fun d hd => ⟨fun h _ => h, fun h => h (hfirst d hd)⟩)
    · simp only [hrest_of d hd, false_imp_iff, true_and]

end

end Monitoring.Readers
