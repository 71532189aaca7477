import Mathlib.Data.List.Basic
import Mathlib.Order.WellFounded
import GostManager.Effects.Executor

/-!
# Proofs: executors

No task is lost or worked on twice: the tasks in work, the finished and the collected ones are those
that were started, in some order. A run of an executor that has a worker ends, with all tasks collected.
-/

namespace Effects.Executor

variable {κ : Type} {workers : Nat} {tasks : List κ} {s s' : State κ}

/-- Where the tasks are. -/
structure Accounted (workers : Nat) (tasks : List κ) (s : State κ) : Prop where
  tasks : s.started ++ s.waiting = tasks
  started : (s.working ++ s.finished ++ s.collected).Perm s.started
  bound : s.working.length ≤ workers

/-- Taking a task out of one list and appending it to the next leaves the tasks of both. -/
theorem perm_move (before after l l' : List κ) (k : κ) :
    (before ++ after ++ (l ++ [k]) ++ l').Perm (before ++ k :: after ++ l ++ l') := by
  have hmiddle : (before ++ k :: after).Perm (before ++ after ++ [k]) := by
    have hperm : (k :: after).Perm (after ++ [k]) := List.perm_append_singleton k after |>.symm
    rw [List.append_assoc]
    exact hperm.append_left before
  have hswap : (l ++ [k]).Perm ([k] ++ l) := List.perm_append_comm
  calc (before ++ after ++ (l ++ [k]) ++ l').Perm (before ++ after ++ ([k] ++ l) ++ l') :=
        (hswap.append_left _).append_right _
    _ = before ++ after ++ [k] ++ l ++ l' := by rw [← List.append_assoc _ [k] l]
    List.Perm _ (before ++ k :: after ++ l ++ l') := (hmiddle.symm.append_right l).append_right l'

theorem Accounted.step (h : Accounted workers tasks s) (hs : Step workers s s') :
    Accounted workers tasks s' := by
  cases hs with
  | @start k _ waiting hw hlt =>
    refine ⟨?_, ?_, ?_⟩
    · rw [List.append_assoc, List.singleton_append, ← hw]
      exact h.tasks
    · have hmove := perm_move s.working [] [] (s.finished ++ s.collected) k
      simp only [List.append_nil, List.nil_append, ← List.append_assoc] at hmove ⊢
      have hfront : (s.working ++ [k] ++ s.finished ++ s.collected).Perm
          (s.working ++ s.finished ++ s.collected ++ [k]) := by
        rw [List.append_assoc, List.append_assoc, List.append_assoc (s.working ++ s.finished),
          List.append_assoc s.working s.finished]
        refine List.Perm.append_left _ ?_
        rw [← List.append_assoc s.finished]
        exact List.perm_append_comm
      exact hfront.trans (h.started.append_right [k])
    · simp only [List.length_append, List.length_singleton]
      omega
  | @finish k _ before after hw =>
    refine ⟨h.tasks, ?_, ?_⟩
    · refine (perm_move before after s.finished s.collected k).trans ?_
      rw [← hw]
      exact h.started
    · have hlen := h.bound
      rw [hw] at hlen
      simp only [List.length_append, List.length_cons] at hlen ⊢
      omega
  | @collect k _ before after hf =>
    refine ⟨h.tasks, ?_, h.bound⟩
    have hmove := (perm_move before after s.collected [] k).append_left s.working
    simp only [List.append_nil] at hmove
    have hold := h.started
    rw [hf, List.append_assoc] at hold
    rw [List.append_assoc]
    exact hmove.trans hold

theorem Reachable.accounted (h : Reachable workers tasks s) : Accounted workers tasks s := by
  induction h with
  | refl => exact ⟨rfl, .refl _, Nat.zero_le _⟩
  | tail _ hs ih => exact ih.step hs

/-- When all is done, each task was started and collected. -/
theorem Reachable.started_eq (h : Reachable workers tasks s) (hd : s.Done) : s.started = tasks := by
  have htasks := h.accounted.tasks
  rwa [hd.waiting, List.append_nil] at htasks

theorem Reachable.collected_perm (h : Reachable workers tasks s) (hd : s.Done) :
    s.collected.Perm tasks := by
  have hperm := h.accounted.started
  rwa [hd.working, hd.finished, List.nil_append, List.nil_append, h.started_eq hd] at hperm

/-! ## Progress -/

theorem Step.remaining (hs : Step workers s s') : s'.remaining + 1 = s.remaining := by
  unfold State.remaining
  cases hs with
  | start hw hlt =>
    rw [hw]
    simp only [List.length_append, List.length_cons, List.length_nil]
    omega
  | finish hw =>
    rw [hw]
    simp only [List.length_append, List.length_cons, List.length_nil]
    omega
  | collect hf =>
    rw [hf]
    simp only [List.length_append, List.length_cons]
    omega

/-- Every run ends. -/
theorem acc_step (workers : Nat) (s : State κ) : Acc (fun s' s => Step workers s s') s := by
  have hlt : ∀ s' s, Step workers s s' → (State.remaining (κ := κ) s') < s.remaining := by
    intro s' s hs
    have heq := hs.remaining
    omega
  exact Subrelation.accessible (hlt _ _) (InvImage.accessible State.remaining (Nat.lt_wfRel.wf.apply _))

/-- An executor with a worker does not get stuck. -/
theorem exists_step (hpos : 0 < workers) (hd : ¬ s.Done) : ∃ s', Step workers s s' := by
  by_cases hworking : s.working = []
  · by_cases hfinished : s.finished = []
    · cases hwaiting : s.waiting with
      | nil => exact absurd ⟨hwaiting, hworking, hfinished⟩ hd
      | cons k waiting => exact ⟨_, .start hwaiting (by rw [hworking]; exact hpos)⟩
    · obtain ⟨k, after, hf⟩ := List.exists_cons_of_ne_nil hfinished
      have hf' : s.finished = [] ++ k :: after := hf
      exact ⟨_, .collect hf'⟩
  · obtain ⟨k, after, hw⟩ := List.exists_cons_of_ne_nil hworking
    have hw' : s.working = [] ++ k :: after := hw
    exact ⟨_, .finish hw'⟩

/-- All tasks can be collected. -/
theorem exists_done (hpos : 0 < workers) (s : State κ) :
    ∃ s', Relation.ReflTransGen (Step workers) s s' ∧ s'.Done := by
  induction acc_step workers s with
  | intro s _ ih =>
    by_cases hd : s.Done
    · exact ⟨s, .refl, hd⟩
    · obtain ⟨s₁, hs⟩ := exists_step hpos hd
      obtain ⟨s', hr, hd'⟩ := ih s₁ hs
      exact ⟨s', .head hs hr, hd'⟩

end Effects.Executor
