import Mathlib.Data.List.Perm.Subperm
import GostManager.Monitoring.Cycles

/-!
# Proofs: a collection cycle

What a collector returned before it raised is lost, if no savepoint takes its entries back. Nothing else is
lost: the events of a commit are those that were returned for its entries.
-/

namespace Monitoring

variable {ts : List Transition} {entries entries' : Entries} {t : Transition} {k : StateKey}
  {transaction : Transaction} {collector : Collector}

/-! ## Calls and their keys -/

theorem runTransitions_append {ts' : List Transition} : runTransitions (ts ++ ts') entries =
    ((runTransitions ts entries).1 ++ (runTransitions ts' (runTransitions ts entries).2).1,
      (runTransitions ts' (runTransitions ts entries).2).2) := by
  induction ts generalizing entries with
  | nil => rfl
  | cons t ts ih => simp only [List.cons_append, runTransitions, ih, List.append_assoc]

/-- Other entries are not touched. -/
theorem runTransitions_of_ne (h : ∀ t ∈ ts, t.key ≠ k) : (runTransitions ts entries).2 k = entries k := by
  induction ts generalizing entries with
  | nil => rfl
  | cons t ts ih =>
    show (runTransitions ts (t.save entries)).2 k = entries k
    rw [ih fun t' h' => h t' (.tail _ h')]
    exact Function.update_of_ne (h t (.head _)).symm _ _

/-- The events depend on the entries of the calls only. -/
theorem runTransitions_congr (h : ∀ t ∈ ts, entries t.key = entries' t.key) :
    (runTransitions ts entries).1 = (runTransitions ts entries').1 := by
  induction ts generalizing entries entries' with
  | nil => rfl
  | cons t ts ih =>
    have hsaved : ∀ t' ∈ ts, t.save entries t'.key = t.save entries' t'.key := by
      intro t' h'
      unfold Transition.save
      by_cases hkey : t'.key = t.key
      · rw [hkey, Function.update_self, Function.update_self]
      · rw [Function.update_of_ne hkey, Function.update_of_ne hkey]
        exact h t' (.tail _ h')
    show t.report entries ++ (runTransitions ts (t.save entries)).1 = _
    rw [ih hsaved]
    unfold Transition.report
    rw [h t (.head _)]
    rfl

/-! ## Collectors -/

/-- What a collector has returned when it raises. -/
def Collector.swallowed (collector : Collector) (entries : Entries) : List Event :=
  match collector.raisesAfter with
  | none => []
  | some calls => (runTransitions (collector.transitions.take calls) entries).1

/-- The events of a transaction, and how many returned events are missing. -/
structure Transaction.Lost (transaction : Transaction) (n : Nat) : Prop where
  kept : n = 0 → transaction.returned = transaction.events
  count : transaction.returned.length = transaction.events.length + n

section Parts

variable {n : Nat}

theorem Transaction.Lost.run (h : transaction.Lost n) : (transaction.run ts).Lost n := by
  refine ⟨fun hn => ?_, ?_⟩
  · show transaction.returned ++ _ = transaction.events ++ _
    rw [h.kept hn]
  · show (transaction.returned ++ _).length = (transaction.events ++ _).length + n
    rw [List.length_append, List.length_append, h.count]
    omega

theorem Transaction.Lost.tryPlain (h : transaction.Lost n) : (transaction.tryPlain collector).Lost
    (n + (collector.swallowed transaction.entries).length) := by
  unfold Transaction.tryPlain Collector.swallowed
  cases collector.raisesAfter with
  | none => exact h.run
  | some calls =>
    simp only
    refine ⟨fun hn => ?_, ?_⟩
    · have hlost : (runTransitions (collector.transitions.take calls) transaction.entries).1 = [] :=
        List.eq_nil_of_length_eq_zero (by omega)
      show transaction.returned ++ _ = transaction.events
      rw [h.kept (by omega), hlost, List.append_nil]
    · show (transaction.returned ++ _).length = transaction.events.length + _
      rw [List.length_append, h.count]
      omega

theorem Transaction.Lost.trySavepoint (h : transaction.Lost n) :
    (transaction.trySavepoint collector).Lost n := by
  unfold Transaction.trySavepoint
  cases collector.raisesAfter with
  | none => exact h.run
  | some calls => exact h

theorem Transaction.Lost.foldl_trySavepoint (h : transaction.Lost n) (collectors : List Collector) :
    (collectors.foldl Transaction.trySavepoint transaction).Lost n := by
  induction collectors generalizing transaction with
  | nil => exact h
  | cons collector collectors ih => exact ih h.trySavepoint

/-- Each returned event has an inserted one if and only if none is missing. -/
theorem Transaction.Lost.subperm_iff (h : transaction.Lost n) :
    transaction.returned.Subperm transaction.events ↔ n = 0 := by
  constructor
  · intro hsub
    have hlength := hsub.length_le
    rw [h.count] at hlength
    omega
  · intro hn
    rw [h.kept hn]

end Parts

/-! ## Keys of the collectors -/

theorem Transaction.tryPlain_entries (h : ∀ t ∈ collector.transitions, t.key ≠ k) :
    (transaction.tryPlain collector).entries k = transaction.entries k := by
  unfold Transaction.tryPlain
  cases collector.raisesAfter with
  | none => exact runTransitions_of_ne h
  | some calls => exact runTransitions_of_ne fun t ht => h t (List.mem_of_mem_take ht)

theorem Collector.swallowed_congr (h : ∀ t ∈ collector.transitions, entries t.key = entries' t.key) :
    collector.swallowed entries = collector.swallowed entries' := by
  unfold Collector.swallowed
  cases collector.raisesAfter with
  | none => rfl
  | some calls => exact runTransitions_congr fun t ht => h t (List.mem_of_mem_take ht)

/-- Which collector a key belongs to: the first letter of its device tells. -/
def StateKey.owner : StateKey → Option Char
  | .edge key => key.toList.head?
  | .source _ => some 'd'
  | .set _ => some 'i'
  | _ => none

section Keys

theorem owner_recordFlagEvent {key code : String} {active : Bool} {ts : Nat}
    {details : List (String × Detail)} :
    (recordFlagEvent key active ts code details).key.owner = key.toList.head? := rfl

theorem host_keys (c : Cycle) : ∀ t ∈ c.host.transitions, t.key.owner = some 'c' := by
  intro t ht
  unfold Cycle.host hostMetrics at ht
  cases hcpu : c.cpu with
  | none =>
    rw [hcpu] at ht
    cases ht
  | some flags =>
    rw [hcpu] at ht
    rcases List.mem_cons.1 ht with rfl | ht
    · rw [owner_recordFlagEvent]
      decide
    · rw [List.mem_singleton.1 ht, owner_recordFlagEvent]
      decide

theorem storage_keys (c : Cycle) : ∀ t ∈ c.storage.transitions, t.key.owner = some 'd' := by
  intro t ht
  rcases List.mem_append.1 ht with ht | ht
  · obtain ⟨filesystem, -, rfl⟩ := List.mem_map.1 ht
    rfl
  · obtain ⟨disk, -, ht⟩ := List.mem_flatMap.1 ht
    rcases List.mem_cons.1 ht with rfl | ht
    · simp [owner_recordFlagEvent]
    · simp [List.mem_singleton.1 ht, owner_recordFlagEvent]

theorem network_keys (c : Cycle) :
    ∀ t ∈ c.network.transitions, t.key.owner = some 'i' ∨ t.key.owner = some 't' := by
  intro t ht
  rcases List.mem_append.1 ht with ht | ht
  · cases hinterfaces : c.interfaces with
    | none =>
      rw [hinterfaces] at ht
      cases ht
    | some interfaces =>
      rw [hinterfaces] at ht
      rcases List.mem_cons.1 ht with rfl | ht
      · exact .inl rfl
      · obtain ⟨interface, -, ht⟩ := List.mem_flatMap.1 ht
        rcases List.mem_cons.1 ht with rfl | ht
        · simp [owner_recordFlagEvent]
        · simp [List.mem_singleton.1 ht, owner_recordFlagEvent]
  · right
    rcases List.mem_cons.1 ht with rfl | ht
    · rw [owner_recordFlagEvent]
      decide
    · rw [List.mem_singleton.1 ht, owner_recordFlagEvent]
      decide

/-- The collectors start from the entries that they find in the database. -/
theorem entries_at_keys (c : Cycle) (entries : Entries) {begun : Transaction}
    (hbegun : begun = Transaction.run ⟨entries, [], []⟩ [malformedEnvPaths c.malformedPaths c.ts]) :
    (∀ t ∈ c.host.transitions, begun.entries t.key = entries t.key) ∧
    (∀ t ∈ c.storage.transitions, (begun.tryPlain c.host).entries t.key = entries t.key) ∧
    (∀ t ∈ c.network.transitions,
      ((begun.tryPlain c.host).tryPlain c.storage).entries t.key = entries t.key) := by
  have hmalformed : ∀ k, k.owner ≠ none → begun.entries k = entries k := by
    intro k hk
    have hother : ∀ t ∈ [malformedEnvPaths c.malformedPaths c.ts], t.key ≠ k := by
      rintro t ht rfl
      rw [List.mem_singleton.1 ht] at hk
      exact hk rfl
    rw [hbegun]
    exact runTransitions_of_ne hother
  have hhost : ∀ k, k.owner ≠ none → k.owner ≠ some 'c' → (begun.tryPlain c.host).entries k = entries k := by
    intro k hk hc
    have hother : ∀ t ∈ c.host.transitions, t.key ≠ k := by
      rintro t ht rfl
      exact hc (host_keys c t ht)
    rw [Transaction.tryPlain_entries hother, hmalformed k hk]
  have hstorage : ∀ k, k.owner ≠ none → k.owner ≠ some 'c' → k.owner ≠ some 'd' →
      ((begun.tryPlain c.host).tryPlain c.storage).entries k = entries k := by
    intro k hk hc hd
    have hother : ∀ t ∈ c.storage.transitions, t.key ≠ k := by
      rintro t ht rfl
      exact hd (storage_keys c t ht)
    rw [Transaction.tryPlain_entries hother, hhost k hk hc]
  refine ⟨?_, ?_, ?_⟩
  · intro t ht
    refine hmalformed _ ?_
    rw [host_keys c t ht]
    decide
  · intro t ht
    refine hhost _ ?_ ?_ <;> rw [storage_keys c t ht] <;> decide
  · intro t ht
    rcases network_keys c t ht with h | h <;> refine hstorage _ ?_ ?_ ?_ <;> rw [h] <;> decide

end Keys

/-! ## The cycle -/

/-- What the three collectors without a savepoint lose. -/
theorem transaction_lost (c : Cycle) (entries : Entries) : (c.transaction entries).Lost
    ((c.host.swallowed entries).length + (c.storage.swallowed entries).length +
      (c.network.swallowed entries).length) := by
  have hbegun : (⟨entries, [], []⟩ : Transaction).Lost 0 := ⟨fun _ => rfl, rfl⟩
  obtain ⟨hhost, hstorage, hnetwork⟩ := entries_at_keys c entries rfl
  rw [← Collector.swallowed_congr hhost, ← Collector.swallowed_congr hstorage,
    ← Collector.swallowed_congr hnetwork]
  have hplain : ((((Transaction.run ⟨entries, [], []⟩ [malformedEnvPaths c.malformedPaths c.ts]).tryPlain
      c.host).tryPlain c.storage).tryPlain c.network).Lost _ :=
    hbegun.run.tryPlain.tryPlain.tryPlain
  rw [Nat.zero_add] at hplain
  exact (hplain.foldl_trySavepoint c.entities).run

/-- **Events and their states.** The commits of a cycle have an inserted event for each event that was
returned for their entries, if and only if none of the three collectors without a savepoint raises after it
returned one, or the whole cycle is rolled back. -/
theorem events_kept_iff (c : Cycle) (entries : Entries) :
    (∀ commit ∈ c.collectOnce entries, commit.returned.Subperm commit.inserted) ↔
      c.aborts ≠ none ∨
        ∀ collector ∈ [c.host, c.storage, c.network], collector.swallowed entries = [] := by
  have hrun : ∀ entries ts, (Cycle.commit (Transaction.run ⟨entries, [], []⟩ ts)).returned.Subperm
      (Cycle.commit (Transaction.run ⟨entries, [], []⟩ ts)).inserted := by
    intro entries ts
    have hbegun : (⟨entries, [], []⟩ : Transaction).Lost 0 := ⟨fun _ => rfl, rfl⟩
    exact hbegun.run.subperm_iff.2 rfl
  unfold Cycle.collectOnce
  cases haborts : c.aborts with
  | some reason =>
    refine iff_of_true ?_ (.inl nofun)
    intro commit hcommit
    simp only at hcommit
    split at hcommit
    · rw [List.mem_singleton.1 hcommit]
      exact hrun _ _
    · cases hcommit
  | none =>
    have hcycle := (transaction_lost c entries).subperm_iff
    have hsum : (∀ collector ∈ [c.host, c.storage, c.network], collector.swallowed entries = []) ↔
        (c.host.swallowed entries).length + (c.storage.swallowed entries).length +
          (c.network.swallowed entries).length = 0 := by
      simp [← List.length_eq_zero_iff, and_assoc]
    rw [hsum, ← hcycle]
    constructor
    · intro h
      exact .inr (h _ (.head _))
    · rintro (h | h) commit hcommit
      · exact absurd rfl h
      · rcases List.mem_cons.1 hcommit with rfl | hcommit
        · exact h
        · split at hcommit
          · rw [List.mem_singleton.1 hcommit]
            exact hrun _ _
          · cases hcommit

/-- A new interface, and an exception after the names of the interfaces are stored. -/
def newInterface : Cycle where
  ts := 1000
  cycleId := 1
  malformedPaths := []
  cpu := none
  hostRaisesAfter := none
  filesystems := []
  disks := []
  storageRaisesAfter := none
  interfaces := some [⟨"eth1", false, false⟩, ⟨"lo", false, false⟩]
  tcp := (false, false)
  networkRaisesAfter := some 1
  services := []
  tunnels := []
  sources := [("network_metrics", .failed), ("proc_net_dev", .available)]
  maintenance := none
  aborts := none
  failureRecorded := true
  checkpoint := none
  checkpointRecorded := true

/-- The interface is stored, and its event is lost. -/
theorem not_events_kept : ¬ ∀ (c : Cycle) (entries : Entries), ∀ commit ∈ c.collectOnce entries,
    commit.returned.Subperm commit.inserted := by
  intro h
  let entries : Entries := Function.update (fun _ => none) (.set "interfaces") (some (.texts ["lo"]))
  have hsub := h newInterface entries _ (.head _)
  have hlength := hsub.length_le
  revert hlength
  decide

end Monitoring
