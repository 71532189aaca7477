import Mathlib.Algebra.Ring.Rat
import GostManager.Monitoring.Collection

/-!
# Monitoring: the total of the external interfaces

The rates that `_network_metrics` gives of every interface and of `external-total`. The counters of the total
are the sums of those of the interfaces other than `lo`, and its rates are differences of these sums.
-/

namespace Monitoring.Readers

open Lists

/-- The interfaces other than `lo`. -/
def external (interfaces : List InterfaceCounters) : List InterfaceCounters :=
  interfaces.filter (·.name ≠ "lo")

/-- The rate of a field in `interface_metrics`. -/
def rateMetric (current : InterfaceCounters) (previous : Option InterfaceCounters)
    (elapsed maxGap : Option ℚ) (field : InterfaceField) : Metric :=
  let delta := counterDelta (previous.map (·.get field)) (current.get field) (elapsed.getD 0) maxGap
  { scope := if current.name = "lo" then "net.loopback" else "net.external"
    name := field.name ++ "_per_second"
    value := delta.rate.map .real
    unit := field.rateUnit
    quality := delta.quality
    labels := [("interface", current.name)]
    entityType := some "interface"
    entityId := some ("interface:" ++ current.name)
    reset := delta.reset
    gap := delta.gap }

namespace Sources

/-- The rate of a field that `_network_metrics` gives of an interface. -/
def interfaceRate (s : Sources) (p : Previous) (field : InterfaceField) (counters : InterfaceCounters) :
    Metric :=
  rateMetric counters (find InterfaceCounters.name counters.name p.interfaces) p.interfacesElapsed s.maxGap
    field

/-- The rate of a field that it gives of `external-total`. -/
def totalRate (s : Sources) (p : Previous) (field : InterfaceField) (current : List InterfaceCounters) :
    Metric :=
  rateMetric (aggregateExternal current)
    (if p.interfaces = [] then none else some (aggregateExternal p.interfaces)) p.interfacesElapsed s.maxGap
    field

end Sources

/-- A metric is the total of some others: it is available if they all are, and their sum; and it tells of a
reset if one of them does. -/
structure IsTotal (total : Metric) (rates : List Metric) : Prop where
  available : total.value.isSome = true ↔ ∀ rate ∈ rates, rate.value.isSome = true
  sum : total.value.isSome = true → ∃ xs : List ℚ,
    rates.map (·.value) = xs.map (fun x => some (.real x)) ∧ total.value = some (.real xs.sum)
  reset : total.reset = true ↔ ∃ rate ∈ rates, rate.reset = true

/-- The sums hide a reset: the counter of an interface has gone back, but not the sum of all. -/
def HidesReset (previous current : List InterfaceCounters) (elapsed : Option ℚ) (field : InterfaceField) :
    Prop :=
  0 < elapsed.getD 0 ∧
  (∃ counters ∈ external current, ∃ earlier ∈ external previous,
    earlier.name = counters.name ∧ counters.get field < earlier.get field) ∧
  (aggregateExternal previous).get field ≤ (aggregateExternal current).get field

/-- Two snapshots have the same interfaces other than `lo`. -/
def SameInterfaces (previous current : List InterfaceCounters) : Prop :=
  ∀ name, name ∈ (external previous).map (·.name) ↔ name ∈ (external current).map (·.name)

end Monitoring.Readers
