import GostManager.Watchdog.Ownership

/-!
# Proofs: what the allowed marks look like

Marks that are allowed alternate between the intents of a stop and of a start, have at most one command
after each intent, and no intent after a manual override.
-/

namespace Watchdog

variable {ms newer older : List Mark} {m : Mark}

/-- What came before allowed marks was allowed. -/
theorem phase_of_append {p : Phase} (h : phase (newer ++ older) = some p) :
    ∃ q, phase older = some q := by
  induction newer generalizing p with
  | nil => exact ⟨p, h⟩
  | cons m newer ih =>
    obtain ⟨q, hq, -⟩ := Option.bind_eq_some_iff.1 h
    exact ih hq

theorem phase_cons {p : Phase} (h : phase (m :: ms) = some p) :
    ∃ q, phase ms = some q ∧ q.next m = some p :=
  Option.bind_eq_some_iff.1 h

/-- While the watchdog acts, the phase has its last intent. -/
theorem last_of_phase {last : Option PendingAction} {spent : Bool}
    (h : phase ms = some (.acting last spent)) : (intents ms).head? = last := by
  induction ms generalizing last spent with
  | nil => cases h; rfl
  | cons m ms ih =>
    obtain ⟨q, hq, hnext⟩ := phase_cons h
    rcases q with ⟨_ | action, spent'⟩ | _
    · cases m with
      | intent action =>
        rw [Phase.next] at hnext
        split at hnext
        · cases hnext; rfl
        · cases hnext
      | _ => cases hnext
    · cases m with
      | intent action' =>
        rw [Phase.next] at hnext
        split at hnext
        · cases hnext; rfl
        · cases hnext
      | command verb =>
        cases spent' with
        | true => cases hnext
        | false =>
          rw [Phase.next] at hnext
          split at hnext
          · cases hnext; exact ih hq
          · cases hnext
      | overridden => cases hnext
    · cases m <;> cases hnext

/-- Once the watchdog leaves the unit alone it keeps doing so. -/
theorem intents_of_overridden {p : Phase} (h : phase (newer ++ .overridden :: older) = some p) :
    intents newer = [] ∧ p = .overridden := by
  induction newer generalizing p with
  | nil =>
    obtain ⟨q, -, hnext⟩ := phase_cons h
    cases q <;> cases hnext <;> exact ⟨rfl, rfl⟩
  | cons m newer ih =>
    obtain ⟨q, hq, hnext⟩ := phase_cons h
    obtain ⟨hnone, rfl⟩ := ih hq
    cases m with
    | overridden => exact ⟨hnone, (Option.some.inj hnext).symm⟩
    | _ => cases hnext

/-- A command comes right after an intent that asks for it. -/
theorem intent_of_command {verb : Verb} {p : Phase}
    (h : phase (newer ++ .command verb :: older) = some p) :
    ∃ action older', older = .intent action :: older' ∧ verb = action.verb := by
  obtain ⟨q, hq⟩ := phase_of_append h
  obtain ⟨q', hq', hnext⟩ := phase_cons hq
  rcases q' with ⟨_ | action, _ | _⟩ | _
  · cases hnext
  · cases hnext
  · -- the phase before the command can only come from its intent
    rw [Phase.next] at hnext
    split at hnext
    · next hverb =>
      cases older with
      | nil => cases hq'
      | cons m older =>
        obtain ⟨q'', -, hnext''⟩ := phase_cons hq'
        refine ⟨action, older, ?_, hverb⟩
        rcases q'' with ⟨last, spent⟩ | _
        · cases m with
          | intent action' =>
            rw [Phase.next] at hnext''
            split at hnext''
            · cases hnext''; rfl
            · cases hnext''
          | command verb' =>
            rcases last with _ | last <;> cases spent <;> simp [Phase.next] at hnext''
          | overridden => cases hnext''
        · cases m <;> cases hnext''
    · cases hnext
  · cases hnext
  · cases hnext

/-- The intent at a place in the sequence of turns. -/
def turnAt (i : Nat) : PendingAction := if i % 2 = 0 then .stopWatchdog else .startWatchdog

theorem turn_turnAt (i : Nat) : turn (some (turnAt i)) = turnAt (i + 1) := by
  by_cases h : i % 2 = 0
  · have h' : (i + 1) % 2 ≠ 0 := by omega
    simp [turnAt, h, h', turn]
  · have h' : (i + 1) % 2 = 0 := by omega
    simp [turnAt, h, h', turn]

/-- Allowed intents take turns, beginning with a stop. -/
theorem intents_take_turns {p : Phase} (h : phase ms = some p) :
    (intents ms).reverse = (List.range (intents ms).length).map turnAt := by
  induction ms generalizing p with
  | nil => rfl
  | cons m ms ih =>
    obtain ⟨q, hq, hnext⟩ := phase_cons h
    have ih := ih hq
    cases m with
    | command verb => exact ih
    | overridden => exact ih
    | intent action =>
      have hcons : intents (.intent action :: ms) = action :: intents ms := rfl
      rw [hcons, List.reverse_cons, ih, List.length_cons, List.range_succ, List.map_append]
      refine congrArg _ (congrArg (fun a => [a]) ?_)
      rcases q with ⟨last, spent⟩ | _
      · rw [Phase.next] at hnext
        split at hnext
        · next hturn =>
          rw [hturn, ← last_of_phase hq]
          cases hlast : intents ms with
          | nil => rfl
          | cons action' actions =>
            rw [hlast, List.reverse_cons, List.length_cons, List.range_succ, List.map_append] at ih
            have haction : action' = turnAt actions.length := by
              simpa using (List.append_inj' ih rfl).2
            rw [List.head?_cons, haction, List.length_cons, turn_turnAt]
        · cases hnext
      · cases hnext

end Watchdog
