import GostManager.Lists.Recorders

/-!
# Proofs: recorders

A log is replayed: if the events of each observation lead from the state before it to the state that it has
observed, then those of all observations lead to the last state.
-/

namespace Lists.Recorder

variable {O V E S : Type} {r : Recorder O V E} {v : Option V} {o : O} {os os' : List O}

theorem last_eq : r.last v os = (os.getLast?.map r.stored).or v := by
  induction os generalizing v with
  | nil => rfl
  | cons o os ih =>
    rw [last, List.foldl_cons, ← last, ih, List.getLast?_cons]
    cases os.getLast? <;> rfl

theorem log_append : r.log v (os ++ os') = r.log v os ++ r.log (r.last v os) os' := by
  induction os generalizing v with
  | nil => rfl
  | cons o os ih =>
    rw [List.cons_append, log, log, List.cons_append, ih]
    rfl

/-- The events lead from the state that was stored to the last one. -/
theorem foldl_log (decode : Option V → S) (read : S → E → S)
    (h : ∀ v o, (r.events v o).foldl read (decode v) = decode (some (r.stored o))) :
    (r.log v os).flatten.foldl read (decode v) = decode (r.last v os) := by
  induction os generalizing v with
  | nil => rfl
  | cons o os ih =>
    rw [log, List.flatten_cons, List.foldl_append, h, ih]
    rfl

/-- The events lead from the first state to the last one. -/
theorem foldl_log_cons (decode : V → S) (read : S → E → S)
    (hfirst : ∀ o, (r.events none o).foldl read (decode (r.stored o)) = decode (r.stored o))
    (h : ∀ v o, (r.events (some v) o).foldl read (decode v) = decode (r.stored o)) :
    (r.log none (o :: os)).flatten.foldl read (decode (r.stored o)) =
      decode ((os.getLast?.map r.stored).getD (r.stored o)) := by
  have hrest : ∀ {v : V} {os : List O}, (r.log (some v) os).flatten.foldl read (decode v) =
      decode ((os.getLast?.map r.stored).getD v) := by
    intro v os
    induction os generalizing v with
    | nil => rfl
    | cons o os ih =>
      rw [log, List.flatten_cons, List.foldl_append, h, ih, List.getLast?_cons]
      cases os.getLast? <;> rfl
  rw [log, List.flatten_cons, List.foldl_append, hfirst, hrest]

/-- Events that announce a state, and are added only when it is a new one, announce different states one after
the other. -/
theorem isChain_log (announce : E → S) (decode : Option V → S)
    (h : ∀ v o, (r.events v o = [] ∧ decode (some (r.stored o)) = decode v) ∨
      ∃ e, r.events v o = [e] ∧ announce e = decode (some (r.stored o)) ∧ announce e ≠ decode v) :
    (r.log v os).flatten.IsChain (fun e e' => announce e ≠ announce e') ∧
      ∀ e ∈ (r.log v os).flatten.head?, announce e ≠ decode v := by
  induction os generalizing v with
  | nil => exact ⟨.nil, fun _ he => nomatch he⟩
  | cons o os ih =>
    obtain ⟨hchain, hhead⟩ := @ih (some (r.stored o))
    rw [log, List.flatten_cons]
    rcases h v o with ⟨hnone, hsame⟩ | ⟨e, hone, hstate, hne⟩
    · rw [hnone, List.nil_append]
      exact ⟨hchain, hsame ▸ hhead⟩
    · rw [hone, List.singleton_append]
      refine ⟨hchain.cons fun e' he' => ?_, fun e' he' => ?_⟩
      · rw [hstate]
        exact (hhead e' he').symm
      · cases he'
        exact hne

end Lists.Recorder
