import Mathlib.Data.Finset.Dedup
import GostManager.Lists.Proofs.DictionaryProofs
import GostManager.Lists.Proofs.RecordersProofs
import GostManager.Monitoring.Cycles
import GostManager.Monitoring.EventLogs

/-!
# Proofs: event logs

The events of a key tell the states that were observed. Calls about other keys do not matter.
-/

namespace Monitoring

open Lists

variable {entries : Entries} {calls : List Transition} {k : StateKey} {v : Option StateValue} {source key : String}

/-! ## Calls about a key -/

/-- The calls about a key return what they return by themselves. -/
theorem reports_filter : ((reports calls entries).filter (·.1.key = k)).map (·.2) =
    (recorder id).log (entries k) (calls.filter (·.key = k)) := by
  induction calls generalizing entries with
  | nil => rfl
  | cons call calls ih =>
    by_cases hkey : call.key = k
    · have hsaved : call.save entries k = some call.value := by
        rw [Transition.save, hkey, Function.update_self]
      rw [reports, List.filter_cons_of_pos (by simpa using hkey), List.map_cons, ih, hsaved,
        List.filter_cons_of_pos (by simpa using hkey), Recorder.log, Transition.report, hkey]
      rfl
    · have hsaved : call.save entries k = entries k := by
        rw [Transition.save, Function.update_of_ne (Ne.symm hkey)]
      rw [reports, List.filter_cons_of_neg (by simpa using hkey), ih, hsaved,
        List.filter_cons_of_neg (by simpa using hkey)]

/-- What a cycle returns is what its calls return. -/
theorem runTransitions_eq_reports : (runTransitions calls entries).1 = (reports calls entries).flatMap (·.2) := by
  induction calls generalizing entries with
  | nil => rfl
  | cons call calls ih => rw [reports, List.flatMap_cons, ← ih]; rfl

/-- Calls of one method are recorded as any calls. -/
theorem log_map {O : Type} {call : O → Transition} {os : List O} :
    (recorder id).log v (os.map call) = (recorder call).log v os := by
  induction os generalizing v with
  | nil => rfl
  | cons o os ih => rw [List.map_cons, Recorder.log, ih]; rfl

/-! ## Sources -/

theorem announced_sourceEvent {available : Bool} {ts : Nat} :
    announced (sourceEvent source available ts) = some (SourceState.ofBool available) := by
  cases available <;> rfl

/-- A call of `availability` announces the state unless it is the stored one. -/
theorem availabilities_events {o : Availability} : (availabilities source).events v o =
    if o.available = (v.map (·.truth)).getD true then [] else [sourceEvent source o.available o.ts] := by
  obtain ⟨available, ts⟩ := o
  cases v with
  | none => cases available <;> rfl
  | some previous =>
    show (if previous.truth = available then [] else [sourceEvent source available ts]) = _
    exact if_congr eq_comm rfl rfl

theorem readSourceState_text {state : SourceState} : readSourceState (some (.text state.text)) = some state := by
  cases state <;> rfl

theorem optionalAvailabilities_events {o : OptionalAvailability} :
    ((optionalAvailabilities source).events v o = [] ∧ o.current = optionalState v) ∨
      ∃ e, (optionalAvailabilities source).events v o = [e] ∧ announced e = some o.current ∧
        o.current ≠ optionalState v := by
  obtain ⟨current, ts⟩ := o
  simp only [optionalAvailabilities, recorder, optionalAvailability, optionalState]
  cases readSourceState v with
  | none =>
    cases current with
    | available => exact .inl ⟨rfl, rfl⟩
    | unsupported => exact .inr ⟨_, rfl, rfl, by decide⟩
    | failed => exact .inr ⟨_, rfl, rfl, by decide⟩
  | some previous =>
    by_cases hsame : current = previous
    · subst hsame
      exact .inl ⟨if_pos (.inl rfl), rfl⟩
    · refine .inr ?_
      cases previous <;> cases current <;>
        first | exact absurd rfl hsame | exact ⟨_, rfl, rfl, hsame⟩

/-! ## Values -/

theorem find_current {details : List (String × Detail)} {previous : Detail} {value : StateValue} :
    find Prod.fst "current" (safeDetails (dictionary Prod.fst
      (details ++ [("previous", previous), ("current", .value value)]))) = some ("current", .value value) := by
  have hsafe : isSensitiveKey "current" = false := by decide +kernel
  have hkeep : ∀ detail : String × Detail, detail.1 = "current" → (!isSensitiveKey detail.1) = true := by
    intro detail hkey
    rw [hkey, hsafe]
    rfl
  rw [safeDetails, find_filter hkeep, List.append_cons, dictionary_concat, find_store, if_pos rfl]

theorem valueTransitions_events {o : ValueTransition} :
    (v = some o.value ∨ v = none ∧ o.emitInitial = false) ∧ (valueTransitions key).events v o = [] ∨
      ¬ (v = some o.value ∨ v = none ∧ o.emitInitial = false) ∧
        ∃ e, (valueTransitions key).events v o = [e] ∧ ∀ value, readValue value e = o.value := by
  by_cases hsame : v = some o.value ∨ v = none ∧ o.emitInitial = false
  · exact .inl ⟨hsame, if_pos hsame⟩
  · refine .inr ⟨hsame, _, if_neg hsame, fun value => ?_⟩
    simp only [readValue, find_current]

theorem edges_events {o : Edge} : (edges key).events v o ≠ [] ↔ o.active = true ∧ v ≠ some (.bool true) := by
  show (if o.active = false ∨ v = some (.bool true) then [] else _) ≠ [] ↔ _
  split_ifs with hquiet
  · simp only [ne_eq, not_true_eq_false, false_iff, not_and, not_not]
    exact fun hactive => hquiet.resolve_left (by simp [hactive])
  · rw [not_or, Bool.not_eq_false] at hquiet
    exact iff_of_true (List.cons_ne_nil _ _) hquiet

/-! ## Sets -/

/-- What is stored of a set. -/
def storedSet : StateValue → List String
  | .texts known => known
  | _ => []

/-- The events for values that were added and removed. -/
theorem setsTransitions_events {o : SetTransitions} {previous : StateValue} :
    (setsTransitions key).events (some previous) o =
      (o.values.filter fun value => value ∉ storedSet previous).map (fun value =>
        { ts := o.ts
          severity := "info"
          code := o.addedCode
          message := o.noun ++ " added"
          details := [(o.noun, .value (.text value))] }) ++
      ((storedSet previous).filter fun value => value ∉ o.values).map fun value =>
        { ts := o.ts
          severity := "warning"
          code := o.removedCode
          message := o.noun ++ " removed"
          details := [(o.noun, .value (.text value))] } := rfl

theorem foldl_added {values : Finset String} {o : SetTransitions} {added : List String} :
    (added.map fun value =>
      ({ ts := o.ts
         severity := "info"
         code := o.addedCode
         message := o.noun ++ " added"
         details := [(o.noun, .value (.text value))] } : Event)).foldl readSet values = values ∪ added.toFinset := by
  induction added generalizing values with
  | nil => simp
  | cons value added ih =>
    rw [List.map_cons, List.foldl_cons, ih, List.toFinset_cons]
    show insert value values ∪ _ = _
    ext other
    simp only [Finset.mem_union, Finset.mem_insert]
    tauto

theorem foldl_removed {values : Finset String} {o : SetTransitions} {removed : List String} :
    (removed.map fun value =>
      ({ ts := o.ts
         severity := "warning"
         code := o.removedCode
         message := o.noun ++ " removed"
         details := [(o.noun, .value (.text value))] } : Event)).foldl readSet values =
      values \ removed.toFinset := by
  induction removed generalizing values with
  | nil => simp
  | cons value removed ih =>
    rw [List.map_cons, List.foldl_cons, ih, List.toFinset_cons]
    show values.erase value \ _ = _
    ext other
    simp only [Finset.mem_sdiff, Finset.mem_erase, Finset.mem_insert]
    tauto

/-- The events lead from the set that was stored to the one that was observed. -/
theorem foldl_setsTransitions {o : SetTransitions} {previous : StateValue} :
    ((setsTransitions key).events (some previous) o).foldl readSet (storedSet previous).toFinset =
      o.values.toFinset := by
  rw [setsTransitions_events, List.foldl_append, foldl_added, foldl_removed]
  ext value
  simp only [Finset.mem_sdiff, Finset.mem_union, List.mem_toFinset, List.mem_filter, decide_eq_true_eq]
  tauto

theorem setsTransitions_ne_nil {o : SetTransitions} {previous : StateValue} :
    (setsTransitions key).events (some previous) o ≠ [] ↔ (storedSet previous).toFinset ≠ o.values.toFinset := by
  rw [setsTransitions_events, ← not_iff_not, not_not, not_not, List.append_eq_nil_iff, List.map_eq_nil_iff,
    List.map_eq_nil_iff, List.filter_eq_nil_iff, List.filter_eq_nil_iff, Finset.ext_iff]
  simp only [decide_eq_true_eq, not_not, List.mem_toFinset]
  exact ⟨fun h value => ⟨h.2 value, h.1 value⟩, fun h => ⟨fun value => (h value).mpr, fun value => (h value).mp⟩⟩

/-! ## The log of a source -/

section Sources

variable {O : Type} {r : Recorder O StateValue Event} {state : O → SourceState}
  {decode : Option StateValue → SourceState}

/-- A source is tracked when each call announces the state that it stores, if that is a new one. -/
theorem tracks_of_announces (hstored : ∀ o, decode (some (r.stored o)) = state o)
    (h : ∀ v o, (r.events v o = [] ∧ state o = decode v) ∨
      ∃ e, r.events v o = [e] ∧ announced e = some (state o) ∧ state o ≠ decode v) :
    Tracks r state v (decode v) where
  emits before o := by
    have hlast : decode (r.last v before) = (before.getLast?.map state).getD (decode v) := by
      rw [Recorder.last_eq]
      cases before.getLast? with
      | none => rfl
      | some p => exact hstored p
    rw [← hlast]
    rcases h (r.last v before) o with ⟨hnone, hsame⟩ | ⟨e, hone, _, hne⟩
    · exact iff_of_false (not_not.mpr hnone) (not_not.mpr hsame)
    · exact iff_of_true (hone ▸ List.cons_ne_nil _ _) hne
  replay os := by
    rw [Recorder.foldl_log decode readSource, Recorder.last_eq]
    · cases hlast : os.getLast? with
      | none => rfl
      | some o => exact hstored o
    · intro v o
      rcases h v o with ⟨hnone, hsame⟩ | ⟨e, hone, hannounced, _⟩
      · rw [hnone, hstored, hsame]
        rfl
      · rw [hone, hstored, List.foldl_cons, List.foldl_nil, readSource, hannounced]
        rfl
  alternate os := by
    refine (Recorder.isChain_log announced (fun v => some (decode v)) fun v o => ?_).1
    rcases h v o with ⟨hnone, hsame⟩ | ⟨e, hone, hannounced, hne⟩
    · exact .inl ⟨hnone, by rw [hstored, hsame]⟩
    · refine .inr ⟨e, hone, by rw [hannounced, hstored], ?_⟩
      rw [hannounced]
      exact fun heq => hne (Option.some.inj heq)

end Sources

theorem availabilities_tracks :
    Tracks (availabilities source) (fun o => .ofBool o.available) v (availableState v) := by
  refine tracks_of_announces (fun o => rfl) fun v o => ?_
  have hinj : SourceState.ofBool o.available = availableState v ↔ o.available = (v.map (·.truth)).getD true := by
    rw [availableState]
    cases o.available <;> cases (v.map (·.truth)).getD true <;> decide
  rw [availabilities_events, hinj]
  split_ifs with hsame
  · exact .inl ⟨rfl, hsame⟩
  · exact .inr ⟨_, rfl, announced_sourceEvent, mt hinj.mp hsame⟩

theorem optionalAvailabilities_tracks :
    Tracks (optionalAvailabilities source) (·.current) v (optionalState v) := by
  refine tracks_of_announces (fun o => ?_) fun v o => optionalAvailabilities_events
  show (readSourceState (some (.text o.current.text))).getD .available = o.current
  rw [readSourceState_text]
  rfl

/-! ## The logs of values and sets -/

theorem valueTransitions_ne_nil {before : List ValueTransition} {o : ValueTransition} :
    (valueTransitions key).events ((valueTransitions key).last none before) o ≠ [] ↔
      (before = [] ∧ o.emitInitial = true) ∨ ∃ p ∈ before.getLast?, p.value ≠ o.value := by
  have hsame : (valueTransitions key).events ((valueTransitions key).last none before) o ≠ [] ↔
      ¬ ((valueTransitions key).last none before = some o.value ∨
        (valueTransitions key).last none before = none ∧ o.emitInitial = false) := by
    rcases @valueTransitions_events ((valueTransitions key).last none before) key o with
      ⟨hquiet, hnone⟩ | ⟨hchanged, e, hone, _⟩
    · exact iff_of_false (not_not.mpr hnone) (not_not.mpr hquiet)
    · exact iff_of_true (hone ▸ List.cons_ne_nil _ _) hchanged
  rw [hsame, Recorder.last_eq, ← List.getLast?_eq_none_iff]
  cases before.getLast? with
  | none => simp
  | some p => simp [valueTransitions, recorder, valueTransition]

theorem foldl_readValue {o : ValueTransition} {os : List ValueTransition} :
    ((valueTransitions key).log none (o :: os)).flatten.foldl readValue o.value = (os.getLast?.getD o).value := by
  have hread : ∀ (v : Option StateValue) (o : ValueTransition) (value : StateValue), value = v.getD o.value →
      ((valueTransitions key).events v o).foldl readValue value = o.value := by
    rintro v o value rfl
    rcases @valueTransitions_events v key o with ⟨hquiet, hnone⟩ | ⟨_, e, hone, hcurrent⟩
    · rw [hnone]
      rcases hquiet with rfl | ⟨rfl, _⟩
      · rfl
      · rfl
    · rw [hone, List.foldl_cons, List.foldl_nil, hcurrent]
  have hlog : ((valueTransitions key).log none (o :: os)).flatten.foldl readValue o.value = _ :=
    Recorder.foldl_log_cons id readValue (fun o => hread none o _ rfl) fun v o => hread (some v) o _ rfl
  refine hlog.trans ?_
  cases os.getLast? <;> rfl

theorem edges_ne_nil {before : List Edge} {o : Edge} :
    (edges key).events ((edges key).last none before) o ≠ [] ↔
      o.active = true ∧ ∀ p ∈ before.getLast?, p.active = false := by
  rw [edges_events, Recorder.last_eq]
  cases before.getLast? with
  | none => simp
  | some p => simp [edges, recorder, edge]

theorem setsTransitions_last_ne_nil {before : List SetTransitions} {o : SetTransitions} :
    (setsTransitions key).events ((setsTransitions key).last none before) o ≠ [] ↔
      ∃ p ∈ before.getLast?, p.values.toFinset ≠ o.values.toFinset := by
  rw [Recorder.last_eq]
  cases before.getLast? with
  | none => exact iff_of_false (not_not.mpr rfl) (fun ⟨_, h, _⟩ => nomatch h)
  | some p =>
    show (setsTransitions key).events (some (.texts p.values)) o ≠ [] ↔ _
    rw [setsTransitions_ne_nil]
    simp [storedSet]

theorem foldl_readSet {o : SetTransitions} {os : List SetTransitions} :
    ((setsTransitions key).log none (o :: os)).flatten.foldl readSet o.values.toFinset =
      (os.getLast?.getD o).values.toFinset := by
  have hlog : ((setsTransitions key).log none (o :: os)).flatten.foldl readSet o.values.toFinset = _ :=
    Recorder.foldl_log_cons (fun v => (storedSet v).toFinset) readSet (fun o => rfl)
      fun v o => foldl_setsTransitions
  refine hlog.trans ?_
  cases os.getLast? <;> rfl

/-! ## The log of all states -/

/-- The log of each key is that of its own calls, in whatever cycles they are made, and it tells the states that
were observed. -/
theorem eventLog_reproduces :
    (∀ calls entries k, ((reports calls entries).filter (·.1.key = k)).map (·.2) =
      (recorder id).log (entries k) (calls.filter (·.key = k))) ∧
    (∀ (O : Type) (call : O → Transition) v os, (recorder id).log v (os.map call) = (recorder call).log v os) ∧
    (∀ source v, Tracks (availabilities source) (fun o => .ofBool o.available) v (availableState v)) ∧
    (∀ source v, Tracks (optionalAvailabilities source) (·.current) v (optionalState v)) ∧
    (∀ key,
      (∀ before o, (valueTransitions key).events ((valueTransitions key).last none before) o ≠ [] ↔
        (before = [] ∧ o.emitInitial = true) ∨ ∃ p ∈ before.getLast?, p.value ≠ o.value) ∧
      ∀ o os, ((valueTransitions key).log none (o :: os)).flatten.foldl readValue o.value =
        (os.getLast?.getD o).value) ∧
    (∀ key before o, (edges key).events ((edges key).last none before) o ≠ [] ↔
      o.active = true ∧ ∀ p ∈ before.getLast?, p.active = false) ∧
    ∀ key,
      (∀ before o, (setsTransitions key).events ((setsTransitions key).last none before) o ≠ [] ↔
        ∃ p ∈ before.getLast?, p.values.toFinset ≠ o.values.toFinset) ∧
      ∀ o os, ((setsTransitions key).log none (o :: os)).flatten.foldl readSet o.values.toFinset =
        (os.getLast?.getD o).values.toFinset :=
  ⟨fun _ _ _ => reports_filter, fun _ _ _ _ => log_map, fun _ _ => availabilities_tracks,
    fun _ _ => optionalAvailabilities_tracks, fun _ => ⟨fun _ _ => valueTransitions_ne_nil, fun _ _ => foldl_readValue⟩,
    fun _ _ _ => edges_ne_nil, fun _ => ⟨fun _ _ => setsTransitions_last_ne_nil, fun _ _ => foldl_readSet⟩⟩

end Monitoring
