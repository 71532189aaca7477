import GostManager.Effects.Crash

/-!
# Proofs: programs that are cut off

A program with a weakest precondition under `crashing` ends with its postcondition, and wherever it is
killed, the world is one in which it issues its next effect, or the last one.
-/

namespace Effects.Prog

variable {Op : Type} {Ans : Op → Type} {ε α σ : Type} {respond : σ → (op : Op) → Ans op × σ}
  {isEffect : Op → Bool} {K : σ → Nat → Prop} {p : Prog Op Ans ε α}
  {Q : Except ε α → σ × Nat → Prop}

/-- An operation has one answer. -/
theorem forall_crashing {s : σ × Nat} {op : Op} {P : Ans op → σ × Nat → Prop} :
    (∀ a s', (crashing respond isEffect K).answers s op a s' → P a s') ↔
      P (respond s.1 op).1 ((respond s.1 op).2, if isEffect op then s.2 + 1 else s.2) := by
  refine ⟨fun h => h _ _ ⟨rfl, rfl⟩, ?_⟩
  rintro h a ⟨w', n'⟩ ⟨ha, rfl⟩
  obtain rfl : a = (respond s.1 op).1 := congrArg Prod.fst ha
  obtain rfl : w' = (respond s.1 op).2 := congrArg Prod.snd ha
  exact h

theorem wp_crashing {op : Op} {k : Ans op → Prog Op Ans ε α} {s : σ × Nat} :
    wp (crashing respond isEffect K) (.call op k) Q s ↔ (isEffect op → K s.1 s.2) ∧
      wp (crashing respond isEffect K) (k (respond s.1 op).1) Q
        ((respond s.1 op).2, if isEffect op then s.2 + 1 else s.2) :=
  and_congr_right fun _ => forall_crashing

theorem run_of_wp {s : σ} {n : Nat} (h : wp (crashing respond isEffect K) p Q (s, n)) :
    ∃ n', Q (run respond p s).1 ((run respond p s).2, n') := by
  induction p generalizing s n with
  | done r => exact ⟨n, h⟩
  | call op k ih => exact ih _ (wp_crashing.1 h).2

/-- Wherever a program is killed, it was about to issue an effect, or it had ended. -/
theorem cut_of_wp {s : σ} {m n : Nat} (h : wp (crashing respond isEffect K) p Q (s, m)) :
    K (cut respond isEffect p n s) (m + n) ∨ ∃ r n', Q r (cut respond isEffect p n s, n') := by
  induction p generalizing s m n with
  | done r => exact .inr ⟨r, m, h⟩
  | call op k ih =>
    obtain ⟨hK, h⟩ := wp_crashing.1 h
    unfold cut
    cases he : isEffect op with
    | false => exact ih _ (by simpa [he] using h)
    | true =>
      cases n with
      | zero => exact .inl (hK he)
      | succ n =>
        have hwp := ih (respond s op).1 (m := m + 1) (n := n) (by simpa [he] using h)
        rwa [Nat.add_right_comm] at hwp

end Effects.Prog
