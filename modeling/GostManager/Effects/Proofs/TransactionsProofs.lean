import Mathlib.Data.List.Basic
import GostManager.Effects.Transactions

/-!
# Proofs: the rules of scripts and of transactions

One rule for each way of building a script, an invariant for loops, and what a transaction leaves.
-/

namespace Effects.Script

variable {σ ε α β : Type} {faults : Faults ε} {reason : Prop} {x : Script σ ε α} {f : α → Script σ ε β} {s s' t : σ} {a : α} {e : ε}
  {Q R : α → σ → Prop}

theorem wp_pure (h : Q a s) : wp faults reason (pure a : Script σ ε α) Q s := fun _ => h

theorem wp_raise (h : Faulty faults ∨ reason) : wp faults reason (raise e : Script σ ε α) Q s := fun _ => h

/-- Consequence: the postcondition may be weakened. -/
theorem wp_mono (h : wp faults reason x R s) (hQ : ∀ a s', R a s' → Q a s') : wp faults reason x Q s := by
  intro n
  have hx := h n
  generalize x faults n s = result at hx ⊢
  obtain ⟨r, n', s'⟩ := result
  cases r with
  | ok a => exact hQ a s' hx
  | error e => exact hx

theorem bind_apply {n : Nat} : (x >>= f) faults n s = Script.bind x f faults n s := rfl

theorem wp_bind {Q : β → σ → Prop} (h : wp faults reason x (fun a s' => wp faults reason (f a) Q s') s) :
    wp faults reason (x >>= f) Q s := by
  intro n
  have hx := h n
  rw [bind_apply]
  unfold Script.bind
  generalize x faults n s = result at hx ⊢
  obtain ⟨r, n', s'⟩ := result
  cases r with
  | ok a => exact hx n'
  | error e => exact hx

/-- A statement that does not raise by itself. -/
theorem wp_execute {statement : σ → Except ε (α × σ)} (h : statement s = .ok (a, t)) (hQ : Q a t) :
    wp faults reason (execute statement) Q s := by
  intro n
  unfold execute
  cases hfault : faults n with
  | some e => exact .inl ⟨n, by rw [hfault]; rfl⟩
  | none =>
    rw [h]
    exact hQ

theorem wp_query {read : σ → Except ε α} (h : read s = .ok a) (hQ : Q a s) : wp faults reason (query read) Q s :=
  wp_execute (a := a) (by rw [h]; rfl) hQ

theorem wp_update {change : σ → Except ε σ} {Q : Unit → σ → Prop} (h : change s = .ok t) (hQ : Q () t) :
    wp faults reason (update change) Q s :=
  wp_execute (a := ()) (by rw [h]; rfl) hQ

/-- A statement whose exceptions are handled. -/
theorem wp_handle_query {read : σ → Except ε α} {handler : ε → Script σ ε α} (h : read s = .ok a) (hQ : Q a s)
    (hhandler : Faulty faults → ∀ e, wp faults reason (handler e) Q s) : wp faults reason (handle (query read) handler) Q s := by
  intro n
  unfold handle query execute
  cases hfault : faults n with
  | some e => exact hhandler ⟨n, by rw [hfault]; rfl⟩ e (n + 1)
  | none =>
    simp only [h, Except.map]
    exact hQ

/-- A loop keeps what holds of the part of the list that is behind it. -/
theorem wp_forEach {f : β → Script σ ε Unit} {I : List β → σ → Prop} {bs : List β}
    (hstep : ∀ before b after s, bs = before ++ b :: after → I before s →
      wp faults reason (f b) (fun _ => I (before ++ [b])) s)
    (h : I [] s) : wp faults reason (forEach f bs) (fun _ => I bs) s := by
  have hrun : ∀ after before s, bs = before ++ after → I before s →
      wp faults reason (forEach f after) (fun _ => I bs) s := by
    intro after
    induction after with
    | nil =>
      intro before s hbs hI
      rw [List.append_nil] at hbs
      exact wp_pure (by rwa [hbs])
    | cons b after ih =>
      intro before s hbs hI
      refine wp_bind (wp_mono (hstep before b after s hbs hI) fun _ s' hI' => ?_)
      exact ih (before ++ [b]) s' (by rw [hbs, List.append_assoc]; rfl) hI'
  exact hrun bs [] s rfl h

/-- Changes one after the other. -/
theorem wp_forEach_update {changes : List (σ → σ)} {Q : Unit → σ → Prop}
    (h : Q () (changes.foldl (fun s change => change s) s)) :
    wp faults reason (forEach (fun change => update fun s => .ok (change s)) changes) Q s := by
  induction changes generalizing s with
  | nil => exact wp_pure h
  | cons change changes ih => exact wp_bind (wp_update rfl (ih h))

/-- Reading something for each of a list. -/
theorem wp_collect_query {read : β → σ → Except ε α} {g : β → α} {bs : List β} {Q : List α → σ → Prop}
    (h : ∀ b ∈ bs, read b s = .ok (g b)) (hQ : Q (bs.map g) s) : wp faults reason (collect (fun b => query (read b)) bs) Q s := by
  induction bs generalizing Q with
  | nil => exact wp_pure hQ
  | cons b bs ih =>
    rw [List.forall_mem_cons] at h
    refine wp_bind (wp_query h.1 (wp_bind (ih h.2 ?_)))
    exact wp_pure hQ

/-! ## Transactions -/

variable {script : Script σ ε α}

/-- A transaction that raises changes nothing. -/
theorem eq_of_transaction_error (h : transaction script faults s = (.error e, s')) : s' = s := by
  unfold transaction at h
  split at h
  · exact (Prod.mk.inj h).2.symm
  · split at h
    · exact nomatch (Prod.mk.inj h).1
    · exact (Prod.mk.inj h).2.symm

/-- A transaction ends with what its script ends with, or changes nothing, and then there is a reason. -/
theorem transaction_spec (h : wp faults reason script Q s) :
    (∃ e, transaction script faults s = (.error e, s) ∧ (Faulty faults ∨ reason)) ∨
      ∃ a s', transaction script faults s = (.ok a, s') ∧ Q a s' := by
  unfold transaction
  cases hbegin : faults 0 with
  | some e => exact .inl ⟨e, rfl, .inl ⟨0, by rw [hbegin]; rfl⟩⟩
  | none =>
    have hcommit : wp faults reason (do let a ← script; execute fun s => .ok (a, s) : Script σ ε α) Q s :=
      wp_bind (wp_mono h fun a s' hQ => wp_execute rfl hQ)
    have hends := hcommit 1
    simp only
    generalize (do let a ← script; execute fun s => .ok (a, s) : Script σ ε α) faults 1 s = result at hends ⊢
    obtain ⟨r, n, s'⟩ := result
    cases r with
    | ok a => exact .inr ⟨a, s', rfl, hends⟩
    | error e => exact .inl ⟨e, rfl, hends⟩

end Effects.Script
