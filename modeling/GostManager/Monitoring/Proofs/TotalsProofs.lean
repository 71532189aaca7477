import Mathlib.Algebra.Order.BigOperators.Group.List
import Mathlib.Tactic.Ring
import GostManager.Monitoring.Proofs.BindingProofs
import GostManager.Monitoring.Totals

/-!
# Proofs: the total of the external interfaces

The counters of the total are the sums of those of the interfaces, so its difference is the sum of their
differences. Its rate is therefore the sum of their rates while none of them resets; and a reset shows in
the total exactly if the sum goes back as well.
-/

namespace Monitoring.Readers

open Lists

section Counters

variable {previous : Option Int} {current before : Int} {elapsed : ℚ} {maxGap : Option ℚ}

theorem counterDelta_of_elapsed_nonpos (h : elapsed ≤ 0) :
    counterDelta previous current elapsed maxGap = ⟨none, none, .unavailable, false, false⟩ := by
  cases previous with
  | none => rfl
  | some before => simp [counterDelta, h]

theorem rate_isSome (h : 0 < elapsed) :
    (counterDelta (some before) current elapsed maxGap).rate.isSome = true ↔ before ≤ current := by
  have hpos : ¬ elapsed ≤ 0 := not_le.2 h
  by_cases hreset : current < before
  · simp [counterDelta, hpos, hreset]
  · simp [counterDelta, hpos, hreset, not_lt.1 hreset]

theorem reset_eq_true (h : 0 < elapsed) :
    (counterDelta (some before) current elapsed maxGap).reset = true ↔ current < before := by
  have hpos : ¬ elapsed ≤ 0 := not_le.2 h
  by_cases hreset : current < before <;> simp [counterDelta, hpos, hreset]

theorem rate_eq_some (h : 0 < elapsed) (hle : before ≤ current) :
    (counterDelta (some before) current elapsed maxGap).rate =
      some ((current - before : Int) / elapsed) := by
  simp [counterDelta, not_le.2 h, not_lt.2 hle]

end Counters

section Totals

variable {s : Sources} {p : Previous} {current : List InterfaceCounters} {field : InterfaceField}
  {counters : InterfaceCounters}

/-- The counter of an interface in the last snapshot. -/
def earlier (p : Previous) (field : InterfaceField) (counters : InterfaceCounters) : Int :=
  ((find InterfaceCounters.name counters.name p.interfaces).map (·.get field)).getD 0

/-- An interface of the last snapshot is found under its name. -/
theorem earlier_eq (hprevious : (p.interfaces.map (·.name)).Nodup) {before : InterfaceCounters}
    (hbefore : before ∈ external p.interfaces) (hname : before.name = counters.name) :
    find InterfaceCounters.name counters.name p.interfaces = some before ∧
      earlier p field counters = before.get field := by
  have hfind : find InterfaceCounters.name counters.name p.interfaces = some before :=
    (find_eq_some hprevious).2 ⟨(List.mem_filter.1 hbefore).1, hname⟩
  exact ⟨hfind, by rw [earlier, hfind]; rfl⟩

/-- Every interface of the present snapshot was in the last one. -/
theorem exists_earlier (hsame : SameInterfaces p.interfaces current) (hc : counters ∈ external current) :
    ∃ before ∈ external p.interfaces, before.name = counters.name :=
  List.mem_map.1 ((hsame counters.name).2 (List.mem_map_of_mem hc))

theorem nodup_external {interfaces : List InterfaceCounters} (h : (interfaces.map (·.name)).Nodup) :
    ((external interfaces).map (·.name)).Nodup :=
  (List.filter_sublist.map _).nodup h

/-- The sum of the last snapshot, in the order of the present one. -/
theorem sum_earlier (hprevious : (p.interfaces.map (·.name)).Nodup)
    (hcurrent : (current.map (·.name)).Nodup) (hsame : SameInterfaces p.interfaces current) :
    (aggregateExternal p.interfaces).get field = ((external current).map (earlier p field)).sum := by
  let ofName : String → Int := fun name =>
    ((find InterfaceCounters.name name p.interfaces).map (·.get field)).getD 0
  have hown : (external p.interfaces).map (·.get field) =
      ((external p.interfaces).map (·.name)).map ofName := by
    rw [List.map_map]
    exact List.map_congr_left fun before hbefore => (earlier_eq hprevious hbefore rfl).2.symm
  have hperm : ((external p.interfaces).map (·.name)).Perm ((external current).map (·.name)) :=
    (List.perm_ext_iff_of_nodup (nodup_external hprevious) (nodup_external hcurrent)).2 hsame
  calc ((external p.interfaces).map (·.get field)).sum
      = (((external p.interfaces).map (·.name)).map ofName).sum := by rw [hown]
    _ = (((external current).map (·.name)).map ofName).sum := (hperm.map ofName).sum_eq
    _ = ((external current).map (earlier p field)).sum := by rw [List.map_map]; rfl

/-- The difference of the sums is the sum of the differences. -/
theorem sum_div_elapsed {elapsed : ℚ} (l : List InterfaceCounters) (before : InterfaceCounters → Int) :
    (((l.map (·.get field)).sum - (l.map before).sum : Int) : ℚ) / elapsed =
      (l.map fun counters => ((counters.get field - before counters : Int) : ℚ) / elapsed).sum := by
  induction l with
  | nil => simp
  | cons counters l ih =>
    simp only [List.map_cons, List.sum_cons, ← ih]
    push_cast
    ring

theorem totalRate_eq (hne : p.interfaces ≠ []) : s.totalRate p field current =
    rateMetric (aggregateExternal current) (some (aggregateExternal p.interfaces)) p.interfacesElapsed
      s.maxGap field := by
  rw [Sources.totalRate, if_neg hne]

/-- What the metrics of the interfaces and of the total say, in terms of their counters. -/
structure Rates (s : Sources) (p : Previous) (field : InterfaceField) (current : List InterfaceCounters) :
    Prop where
  total_isSome : (s.totalRate p field current).value.isSome = true ↔
    (aggregateExternal p.interfaces).get field ≤ (aggregateExternal current).get field
  total_reset : (s.totalRate p field current).reset = true ↔
    (aggregateExternal current).get field < (aggregateExternal p.interfaces).get field
  isSome : ∀ counters ∈ external current, (s.interfaceRate p field counters).value.isSome = true ↔
    earlier p field counters ≤ counters.get field
  reset : ∀ counters ∈ external current, (s.interfaceRate p field counters).reset = true ↔
    counters.get field < earlier p field counters

theorem find_earlier (hprevious : (p.interfaces.map (·.name)).Nodup)
    (hsame : SameInterfaces p.interfaces current) (hc : counters ∈ external current) :
    (find InterfaceCounters.name counters.name p.interfaces).map (·.get field) =
      some (earlier p field counters) := by
  obtain ⟨before, hbefore, hname⟩ := exists_earlier hsame hc
  obtain ⟨hfind, hearlier⟩ := @earlier_eq _ field _ hprevious _ hbefore hname
  rw [hfind, hearlier]
  rfl

theorem interfaceRate_value (hprevious : (p.interfaces.map (·.name)).Nodup)
    (hsame : SameInterfaces p.interfaces current) (helapsed : 0 < p.interfacesElapsed.getD 0)
    (hc : counters ∈ external current) (hle : earlier p field counters ≤ counters.get field) :
    (s.interfaceRate p field counters).value = some (.real
      (((counters.get field - earlier p field counters : Int) : ℚ) / p.interfacesElapsed.getD 0)) := by
  rw [Sources.interfaceRate, rateMetric, find_earlier hprevious hsame hc]
  exact congrArg (Option.map MetricValue.real) (rate_eq_some helapsed hle)

theorem rates (hprevious : (p.interfaces.map (·.name)).Nodup) (hsame : SameInterfaces p.interfaces current)
    (hne : p.interfaces ≠ []) (helapsed : 0 < p.interfacesElapsed.getD 0) : Rates s p field current := by
  refine ⟨?_, ?_, fun counters hc => ?_, fun counters hc => ?_⟩
  · rw [totalRate_eq hne, rateMetric, Option.isSome_map]
    exact rate_isSome helapsed
  · rw [totalRate_eq hne]
    exact reset_eq_true helapsed
  · rw [Sources.interfaceRate, rateMetric, Option.isSome_map, find_earlier hprevious hsame hc]
    exact rate_isSome helapsed
  · rw [Sources.interfaceRate, rateMetric, find_earlier hprevious hsame hc]
    exact reset_eq_true helapsed

/-- While time has passed, the total is right unless the sums hide a reset. -/
theorem isTotal_iff_of_elapsed (hprevious : (p.interfaces.map (·.name)).Nodup)
    (hcurrent : (current.map (·.name)).Nodup) (hsame : SameInterfaces p.interfaces current)
    (hne : p.interfaces ≠ []) (helapsed : 0 < p.interfacesElapsed.getD 0) :
    IsTotal (s.totalRate p field current) ((external current).map (s.interfaceRate p field)) ↔
      ¬ HidesReset p.interfaces current p.interfacesElapsed field := by
  obtain ⟨htotal, htotal', hrate, hreset⟩ := @rates s p current field hprevious hsame hne helapsed
  constructor
  · rintro h ⟨-, ⟨counters, hc, before, hbefore, hname, hlt⟩, hle⟩
    have havailable := h.available.1 (htotal.2 hle) _ (List.mem_map_of_mem hc)
    have hle' : earlier p field counters ≤ counters.get field := (hrate counters hc).1 havailable
    rw [(earlier_eq hprevious hbefore hname).2] at hle'
    exact absurd hlt (not_lt.2 hle')
  · intro hhides
    by_cases hgrown : ∀ counters ∈ external current, earlier p field counters ≤ counters.get field
    · have hsum : (aggregateExternal p.interfaces).get field ≤ (aggregateExternal current).get field := by
        rw [sum_earlier hprevious hcurrent hsame]
        exact List.sum_le_sum hgrown
      refine ⟨iff_of_true (htotal.2 hsum) ?_, fun _ => ?_, iff_of_false ?_ ?_⟩
      · rw [List.forall_mem_map]
        exact fun counters hc => (hrate counters hc).2 (hgrown counters hc)
      · refine ⟨(external current).map fun counters =>
          ((counters.get field - earlier p field counters : Int) : ℚ) / p.interfacesElapsed.getD 0, ?_, ?_⟩
        · rw [List.map_map, List.map_map]
          exact List.map_congr_left fun counters hc =>
            interfaceRate_value hprevious hsame helapsed hc (hgrown counters hc)
        · rw [← sum_div_elapsed, ← sum_earlier hprevious hcurrent hsame, totalRate_eq hne]
          exact congrArg (Option.map MetricValue.real) (rate_eq_some helapsed hsum)
      · exact fun hr => absurd (htotal'.1 hr) (not_lt.2 hsum)
      · rintro ⟨_, hmem, hr⟩
        obtain ⟨counters, hc, rfl⟩ := List.mem_map.1 hmem
        exact absurd ((hreset counters hc).1 hr) (not_lt.2 (hgrown counters hc))
    · push Not at hgrown
      obtain ⟨counters, hc, hlt⟩ := hgrown
      have hsum : (aggregateExternal current).get field < (aggregateExternal p.interfaces).get field := by
        by_contra hle
        obtain ⟨before, hbefore, hname⟩ := exists_earlier hsame hc
        rw [(earlier_eq hprevious hbefore hname).2] at hlt
        exact hhides ⟨helapsed, ⟨counters, hc, before, hbefore, hname, hlt⟩, not_lt.1 hle⟩
      have hmissing : ¬ (s.totalRate p field current).value.isSome = true :=
        fun havailable => absurd (htotal.1 havailable) (not_le.2 hsum)
      refine ⟨iff_of_false hmissing fun hall => ?_, fun havailable => absurd havailable hmissing,
        iff_of_true (htotal'.2 hsum) ⟨_, List.mem_map_of_mem hc, (hreset counters hc).2 hlt⟩⟩
      have havailable := hall _ (List.mem_map_of_mem hc)
      exact absurd ((hrate counters hc).1 havailable) (not_le.2 hlt)

/-- While no time has passed, there is no rate and no reset. -/
theorem isTotal_of_elapsed_nonpos (hne : external current ≠ [])
    (helapsed : p.interfacesElapsed.getD 0 ≤ 0) :
    IsTotal (s.totalRate p field current) ((external current).map (s.interfaceRate p field)) := by
  have hrate : ∀ counters previous, (rateMetric counters previous p.interfacesElapsed s.maxGap
      field).value = none ∧ (rateMetric counters previous p.interfacesElapsed s.maxGap field).reset = false :=
    fun counters previous => by simp [rateMetric, counterDelta_of_elapsed_nonpos helapsed]
  obtain ⟨counters, hc⟩ := List.exists_mem_of_ne_nil _ hne
  refine ⟨iff_of_false ?_ fun hall => ?_, fun havailable => ?_, iff_of_false ?_ ?_⟩
  · simp [Sources.totalRate, hrate]
  · have havailable := hall _ (List.mem_map_of_mem hc)
    simp [Sources.interfaceRate, hrate] at havailable
  · simp [Sources.totalRate, hrate] at havailable
  · simp [Sources.totalRate, hrate]
  · rintro ⟨_, hmem, hr⟩
    obtain ⟨counters, -, rfl⟩ := List.mem_map.1 hmem
    simp [Sources.interfaceRate, hrate] at hr

/-- The rates are among the metrics of `interface_metrics`. -/
theorem rateMetric_mem {previous : Option InterfaceCounters} {elapsed maxGap : Option ℚ}
    {link : Option InterfaceLink} :
    rateMetric counters previous elapsed maxGap field ∈
      interfaceMetrics counters previous elapsed link maxGap := by
  refine List.mem_append_left _ (List.mem_flatMap.2 ⟨field, ?_, List.mem_cons_of_mem _ List.mem_cons_self⟩)
  cases field <;> decide

/-- **The total.** Of two snapshots with the same interfaces, at least one of them external: the rate that
`_network_metrics` gives of `external-total` is the total of the rates that it gives of the external
interfaces, for a field, if and only if the sums of that field hide no reset. -/
theorem externalTotal_isTotal_iff (hcurrent : s.interfaces = .ok current)
    (hprevious : (p.interfaces.map (·.name)).Nodup) (hsame : SameInterfaces p.interfaces current)
    (hne : external current ≠ []) (field : InterfaceField) :
    s.totalRate p field current ∈ s.interfacesMetrics p ∧
    (∀ counters ∈ external current, s.interfaceRate p field counters ∈ s.interfacesMetrics p) ∧
    (IsTotal (s.totalRate p field current) ((external current).map (s.interfaceRate p field)) ↔
      ¬ HidesReset p.interfaces current p.interfacesElapsed field) := by
  rw [Sources.interfacesMetrics, hcurrent]
  refine ⟨List.mem_append_right _ rateMetric_mem, fun counters hc => List.mem_append_left _
    (List.mem_flatMap.2 ⟨counters, ?_, rateMetric_mem⟩), ?_⟩
  · exact sortedBy_perm.mem_iff.2 (List.mem_filter.1 hc).1
  · by_cases helapsed : 0 < p.interfacesElapsed.getD 0
    · obtain ⟨counters, hc⟩ := List.exists_mem_of_ne_nil _ hne
      obtain ⟨before, hbefore, -⟩ := exists_earlier hsame hc
      exact isTotal_iff_of_elapsed hprevious (nodup_interfaces hcurrent) hsame
        (List.ne_nil_of_mem (List.mem_filter.1 hbefore).1) helapsed
    · exact iff_of_true (isTotal_of_elapsed_nonpos hne (not_lt.1 helapsed)) fun h => helapsed h.1

end Totals

/-! ## Two interfaces -/

/-- The counters of an interface that has only received bytes. -/
def received (name : String) (rxBytes : Int) : InterfaceCounters where
  name
  get
    | .rxBytes => rxBytes
    | _ => 0

/-- A cycle that reads two interfaces. -/
def twoInterfaces (netDev : String) : Sources := { unknownMemory with netDev := .ok netDev.toList }

/-- Both have received more. -/
def growth : Sources := twoInterfaces
  "eth0: 150 0 0 0 0 0 0 0 0 0 0 0 0 0 0 0\neth1: 300 0 0 0 0 0 0 0 0 0 0 0 0 0 0 0"

/-- The first counts from zero again. -/
def maskedReset : Sources := twoInterfaces
  "eth0: 50 0 0 0 0 0 0 0 0 0 0 0 0 0 0 0\neth1: 300 0 0 0 0 0 0 0 0 0 0 0 0 0 0 0"

/-- Two seconds before it, both had received 100 bytes. -/
def hundredEach : Previous :=
  { noPrevious with
    interfaces := [received "eth0" 100, received "eth1" 100]
    interfacesElapsed := some 2 }

theorem nodup_hundredEach : (hundredEach.interfaces.map (·.name)).Nodup := by decide

theorem sameInterfaces_hundredEach {current : List InterfaceCounters}
    (hnames : (external current).map (·.name) = ["eth0", "eth1"]) :
    SameInterfaces hundredEach.interfaces current := by
  intro name
  rw [hnames, show (external hundredEach.interfaces).map (·.name) = ["eth0", "eth1"] by decide]

theorem parsed {s : Sources} {names : List String} {rxBytes : List Int}
    (h : (s.interfaces.toOption.map fun current =>
      ((external current).map (·.name), (external current).map (·.get .rxBytes))) = some (names, rxBytes)) :
    ∃ current, s.interfaces = .ok current ∧ (external current).map (·.name) = names ∧
      (external current).map (·.get .rxBytes) = rxBytes := by
  cases hcurrent : s.interfaces with
  | error raised =>
    rw [hcurrent] at h
    cases h
  | ok current =>
    rw [hcurrent] at h
    obtain ⟨hnames, hbytes⟩ := Prod.mk.inj (Option.some.inj h)
    exact ⟨current, rfl, hnames, hbytes⟩

/-- Both have received more. -/
theorem externalTotal_isTotal_of_growth : ∃ current, growth.interfaces = .ok current ∧
    IsTotal (growth.totalRate hundredEach .rxBytes current)
      ((external current).map (growth.interfaceRate hundredEach .rxBytes)) := by
  obtain ⟨current, hcurrent, hnames, hbytes⟩ : ∃ current, growth.interfaces = .ok current ∧
      (external current).map (·.name) = ["eth0", "eth1"] ∧
      (external current).map (·.get .rxBytes) = [150, 300] := parsed (by decide +kernel)
  have hne : external current ≠ [] := by
    intro hnil
    rw [hnil] at hnames
    cases hnames
  refine ⟨current, hcurrent, (externalTotal_isTotal_iff hcurrent nodup_hundredEach
    (sameInterfaces_hundredEach hnames) hne .rxBytes).2.2.2 ?_⟩
  rintro ⟨-, ⟨counters, hc, before, hbefore, -, hlt⟩, -⟩
  have hmore : counters.get .rxBytes ∈ [150, 300] := hbytes ▸ List.mem_map_of_mem hc
  have hhundred : before.get .rxBytes ∈ [100, 100] := by
    rw [← show (external hundredEach.interfaces).map (·.get .rxBytes) = [100, 100] by decide]
    exact List.mem_map_of_mem hbefore
  simp only [List.mem_cons, List.not_mem_nil, or_false, or_self] at hmore hhundred
  omega

/-- The first is reset and counts 50 again, and the second has received more than the first has lost. The
total has a rate, as if nothing had happened. -/
theorem not_externalTotal_isTotal : ¬ ∀ (s : Sources) (p : Previous) (current : List InterfaceCounters),
    s.interfaces = .ok current → (p.interfaces.map (·.name)).Nodup →
    SameInterfaces p.interfaces current → external current ≠ [] → ∀ field,
    IsTotal (s.totalRate p field current) ((external current).map (s.interfaceRate p field)) := by
  intro h
  obtain ⟨current, hcurrent, hnames, hbytes⟩ : ∃ current, maskedReset.interfaces = .ok current ∧
      (external current).map (·.name) = ["eth0", "eth1"] ∧
      (external current).map (·.get .rxBytes) = [50, 300] := parsed (by decide +kernel)
  have hsame : SameInterfaces hundredEach.interfaces current := sameInterfaces_hundredEach hnames
  obtain ⟨counters, interfaces, hexternal⟩ : ∃ counters interfaces,
      external current = counters :: interfaces := by
    refine List.exists_cons_of_ne_nil fun hnil => ?_
    rw [hnil] at hnames
    cases hnames
  have hne : external current ≠ [] := hexternal ▸ List.cons_ne_nil _ _
  have htotal := h _ _ _ hcurrent nodup_hundredEach hsame hne .rxBytes
  have helapsed : 0 < hundredEach.interfacesElapsed.getD 0 := by norm_num [hundredEach]
  refine (isTotal_iff_of_elapsed nodup_hundredEach (nodup_interfaces hcurrent) hsame (by decide)
    helapsed).1 htotal ⟨helapsed, ?_, ?_⟩
  · rw [hexternal] at hnames hbytes ⊢
    refine ⟨counters, List.mem_cons_self, received "eth0" 100, List.mem_cons_self, ?_, ?_⟩
    · exact (List.cons.inj hnames).1.symm
    · have hreset : counters.get .rxBytes = 50 := (List.cons.inj hbytes).1
      rw [hreset]
      decide
  · have hsum : (aggregateExternal current).get .rxBytes =
      ((external current).map (·.get .rxBytes)).sum := rfl
    rw [hsum, hbytes]
    decide

end Monitoring.Readers
