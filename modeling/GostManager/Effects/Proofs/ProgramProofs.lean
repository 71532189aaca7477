import GostManager.Effects.Program

/-!
# Proofs: the rules of the weakest precondition

One rule for each way of building a program, the rule of consequence, and soundness: along any
execution of a program the weakest precondition is kept, so its guard holds whenever an operation is
issued.
-/

namespace Effects.Prog

variable {Op : Type} {Ans : Op → Type} {ε α β σ : Type}
variable {C : Contract Op Ans σ} {s : σ}

@[simp] theorem wp_done {r : Except ε α} {Q : Except ε α → σ → Prop} :
    wp C (.done r : Prog Op Ans ε α) Q s ↔ Q r s := Iff.rfl

@[simp] theorem wp_call {op : Op} {k : Ans op → Prog Op Ans ε α} {Q : Except ε α → σ → Prop} :
    wp C (.call op k) Q s ↔ C.guard s op ∧ ∀ a s', C.answers s op a s' → wp C (k a) Q s' := Iff.rfl

@[simp] theorem wp_pure {a : α} {Q : Except ε α → σ → Prop} :
    wp C (pure a : Prog Op Ans ε α) Q s ↔ Q (.ok a) s := Iff.rfl

@[simp] theorem wp_raise {e : ε} {Q : Except ε α → σ → Prop} :
    wp C (raise e : Prog Op Ans ε α) Q s ↔ Q (.error e) s := Iff.rfl

@[simp] theorem wp_perform {op : Op} {Q : Except ε (Ans op) → σ → Prop} :
    wp C (perform op : Prog Op Ans ε (Ans op)) Q s ↔
      C.guard s op ∧ ∀ a s', C.answers s op a s' → Q (.ok a) s' := Iff.rfl

/-- Consequence: the postcondition may be weakened. -/
theorem wp_mono {p : Prog Op Ans ε α} {Q Q' : Except ε α → σ → Prop}
    (h : wp C p Q s) (hQ : ∀ r s', Q r s' → Q' r s') : wp C p Q' s := by
  induction p generalizing s with
  | done r => exact hQ r s h
  | call op k ih => exact ⟨h.1, fun a s' ha => ih a (h.2 a s' ha)⟩

/-- With fewer answers there is less to show. -/
theorem wp_of_answers {C' : Contract Op Ans σ} {p : Prog Op Ans ε α} {Q : Except ε α → σ → Prop}
    (hg : ∀ s op, C.guard s op → C'.guard s op)
    (ha : ∀ s op a s', C'.answers s op a s' → C.answers s op a s') (h : wp C p Q s) :
    wp C' p Q s := by
  induction p generalizing s with
  | done r => exact h
  | call op k ih => exact ⟨hg s op h.1, fun a s' h' => ih a (h.2 a s' (ha s op a s' h'))⟩

/-- What every answer keeps also holds in the end. -/
theorem wp_and_stable {A : σ → Prop} (hA : ∀ s op a s', A s → C.answers s op a s' → A s')
    {p : Prog Op Ans ε α} {Q : Except ε α → σ → Prop} (h : wp C p Q s) (hs : A s) :
    wp C p (fun r s => Q r s ∧ A s) s := by
  induction p generalizing s with
  | done r => exact ⟨h, hs⟩
  | call op k ih => exact ⟨h.1, fun a s' ha => ih a (h.2 a s' ha) (hA s op a s' hs ha)⟩

/-- A contract that asks for nothing is kept by every program. -/
theorem wp_of_guard (hg : ∀ s op, C.guard s op) {p : Prog Op Ans ε α} :
    wp C p (fun _ _ => True) s := by
  induction p generalizing s with
  | done r => trivial
  | call op k ih => exact ⟨hg s op, fun a s' _ => ih a⟩

/-- What the second half of a sequence has to establish. -/
def andThen (C : Contract Op Ans σ) (f : α → Prog Op Ans ε β) (Q : Except ε β → σ → Prop) :
    Except ε α → σ → Prop
  | .ok a, s => wp C (f a) Q s
  | .error e, s => Q (.error e) s

@[simp] theorem andThen_ok {f : α → Prog Op Ans ε β} {Q : Except ε β → σ → Prop} {a : α} :
    andThen C f Q (.ok a) s ↔ wp C (f a) Q s := Iff.rfl

@[simp] theorem andThen_error {f : α → Prog Op Ans ε β} {Q : Except ε β → σ → Prop} {e : ε} :
    andThen C f Q (.error e) s ↔ Q (.error e) s := Iff.rfl

@[simp] theorem wp_bind {p : Prog Op Ans ε α} {f : α → Prog Op Ans ε β}
    {Q : Except ε β → σ → Prop} : wp C (p >>= f) Q s ↔ wp C p (andThen C f Q) s := by
  show wp C (p.bind f) Q s ↔ _
  induction p generalizing s with
  | done r => cases r <;> rfl
  | call op k ih => simp only [bind, wp_call, ih]

/-- What a handler has to establish. -/
def orElse (C : Contract Op Ans σ) (f : ε → Prog Op Ans ε α) (Q : Except ε α → σ → Prop) :
    Except ε α → σ → Prop
  | .ok a, s => Q (.ok a) s
  | .error e, s => wp C (f e) Q s

@[simp] theorem orElse_ok {f : ε → Prog Op Ans ε α} {Q : Except ε α → σ → Prop} {a : α} :
    orElse C f Q (.ok a) s ↔ Q (.ok a) s := Iff.rfl

@[simp] theorem orElse_error {f : ε → Prog Op Ans ε α} {Q : Except ε α → σ → Prop} {e : ε} :
    orElse C f Q (.error e) s ↔ wp C (f e) Q s := Iff.rfl

@[simp] theorem wp_handle {p : Prog Op Ans ε α} {f : ε → Prog Op Ans ε α}
    {Q : Except ε α → σ → Prop} : wp C (p.handle f) Q s ↔ wp C p (orElse C f Q) s := by
  induction p generalizing s with
  | done r => cases r <;> rfl
  | call op k ih => simp only [handle, wp_call, ih]

/-- An embedded program keeps what its part of the contract asks for. -/
@[simp] theorem wp_embed {Op' : Type} {Ans' : Op' → Type} {ε' : Type} {C : Contract Op' Ans' σ}
    {f : Op → Op'} {g : ∀ op, Ans' (f op) → Ans op} {p : Prog Op Ans ε α}
    {Q : Except ε' (Except ε α) → σ → Prop} :
    wp C (p.embed f g) Q s ↔ wp (C.part f g) p (fun r => Q (.ok r)) s := by
  induction p generalizing s with
  | done r => rfl
  | call op k ih =>
    rw [embed, wp_call, wp_call]
    refine and_congr_right fun _ => ⟨?_, ?_⟩
    · rintro h a s' ⟨a', rfl, ha⟩
      exact ih _ |>.1 (h a' s' ha)
    · intro h a' s' ha
      exact ih _ |>.2 (h _ s' ⟨a', rfl, ha⟩)

theorem Contract.part_id {C : Contract Op Ans σ} : C.part id (fun _ a => a) = C := by
  unfold Contract.part
  congr 1
  funext s op a s'
  exact propext ⟨fun ⟨_, hsame, hanswer⟩ => hsame ▸ hanswer, fun hanswer => ⟨a, rfl, hanswer⟩⟩

/-- A program gives its outcome as a value. -/
theorem wp_embed_id {ε' : Type} {C : Contract Op Ans σ} {p : Prog Op Ans ε α}
    {Q : Except ε' (Except ε α) → σ → Prop} :
    wp C (p.embed id fun _ a => a) Q s ↔ wp C p (fun r => Q (.ok r)) s := by
  rw [wp_embed, Contract.part_id]

/-- Answers that another contract allows between related states. -/
theorem wp_of_simulates {τ : Type} {C : Contract Op Ans σ} {C' : Contract Op Ans τ} {R : σ → τ → Prop}
    (hguard : ∀ s t op, R s t → C.guard s op → C'.guard t op)
    (hanswers : ∀ s t op a t', R s t → C'.answers t op a t' → ∃ s', C.answers s op a s' ∧ R s' t')
    {p : Prog Op Ans ε α} {Q : Except ε α → σ → Prop} {t : τ} (h : wp C p Q s) (hR : R s t) :
    wp C' p (fun r t => ∃ s, R s t ∧ Q r s) t := by
  induction p generalizing s t with
  | done r => exact ⟨s, hR, h⟩
  | call op k ih =>
    refine ⟨hguard s t op hR h.1, fun a t' ha => ?_⟩
    obtain ⟨s', hs', hR'⟩ := hanswers s t op a t' hR ha
    exact ih a (h.2 a s' hs') hR'

/-- The postcondition `φ` for values and `ψ` for exceptions. -/
def Post (φ : α → σ → Prop) (ψ : σ → Prop) : Except ε α → σ → Prop
  | .ok a, s => φ a s
  | .error _, s => ψ s

@[simp] theorem post_ok {φ : α → σ → Prop} {ψ : σ → Prop} {a : α} :
    Post φ ψ (.ok a : Except ε α) s ↔ φ a s := Iff.rfl

@[simp] theorem post_error {φ : α → σ → Prop} {ψ : σ → Prop} {e : ε} :
    Post φ ψ (.error e : Except ε α) s ↔ ψ s := Iff.rfl

/-- Sequencing: the second half begins where the first ends with a value. -/
theorem Post.bind {p : Prog Op Ans ε α} {f : α → Prog Op Ans ε β} {φ : α → σ → Prop}
    {χ : β → σ → Prop} {ψ : σ → Prop} (hp : wp C p (Post φ ψ) s)
    (hf : ∀ a s', φ a s' → wp C (f a) (Post χ ψ) s') : wp C (p >>= f) (Post χ ψ) s :=
  wp_bind.2 <| wp_mono hp fun
    | .ok a, s', h => hf a s' h
    | .error _, _, h => h

/-- A handler begins where the program raises. -/
theorem Post.handle {p : Prog Op Ans ε α} {f : ε → Prog Op Ans ε α} {φ : α → σ → Prop}
    {χ ψ : σ → Prop} (hp : wp C p (Post φ χ) s)
    (hf : ∀ e s', χ s' → wp C (f e) (Post φ ψ) s') : wp C (p.handle f) (Post φ ψ) s :=
  wp_handle.2 <| wp_mono hp fun
    | .ok _, _, h => h
    | .error e, s', h => hf e s' h

/-- The last part runs after a value and after an exception. -/
theorem Post.andFinally {p : Prog Op Ans ε α} {last : Prog Op Ans ε Unit} {φ χ : α → σ → Prop} {ψ ω : σ → Prop}
    (hp : wp C p (Post φ ψ) s) (hok : ∀ a s', φ a s' → wp C last (Post (fun _ => χ a) ω) s')
    (herror : ∀ s', ψ s' → wp C last (Post (fun _ => ω) ω) s') : wp C (p.andFinally last) (Post χ ω) s := by
  refine wp_bind.2 (wp_embed_id.2 (wp_mono hp fun r s' hr => ?_))
  cases r with
  | ok a => exact Post.bind (hok a s' hr) fun _ _ h => wp_pure.2 h
  | error e => exact Post.bind (herror s' hr) fun _ _ h => wp_raise.2 h

theorem Post.mono {p : Prog Op Ans ε α} {φ χ : α → σ → Prop} {ψ : σ → Prop}
    (hp : wp C p (Post φ ψ) s) (h : ∀ a s', φ a s' → χ a s') : wp C p (Post χ ψ) s :=
  wp_mono hp fun
    | .ok a, s', ha => h a s' ha
    | .error _, _, ha => ha

theorem Post.weaken {p : Prog Op Ans ε α} {φ : α → σ → Prop} {χ ψ : σ → Prop}
    (hp : wp C p (Post φ χ) s) (h : ∀ s', χ s' → ψ s') : wp C p (Post φ ψ) s :=
  wp_mono hp fun
    | .ok _, _, ha => ha
    | .error _, s', ha => h s' ha

/-- A branch of the program is a case split of its precondition. -/
@[simp] theorem wp_ite {c : Prop} [Decidable c] {p q : Prog Op Ans ε α}
    {Q : Except ε α → σ → Prop} :
    wp C (if c then p else q) Q s ↔ (c → wp C p Q s) ∧ (¬ c → wp C q Q s) := by
  split <;> simp [*]

section Issues

variable {P P' : Op → Prop}

@[simp] theorem issues_done {r : Except ε α} : (.done r : Prog Op Ans ε α).Issues P := trivial

@[simp] theorem issues_pure {a : α} : (pure a : Prog Op Ans ε α).Issues P := trivial

@[simp] theorem issues_raise {e : ε} : (raise e : Prog Op Ans ε α).Issues P := trivial

@[simp] theorem issues_perform {op : Op} : (perform op : Prog Op Ans ε (Ans op)).Issues P ↔ P op :=
  ⟨And.left, fun h => ⟨h, fun _ => trivial⟩⟩

theorem Issues.bind {p : Prog Op Ans ε α} {f : α → Prog Op Ans ε β} (hp : p.Issues P)
    (hf : ∀ a, (f a).Issues P) : (p >>= f).Issues P := by
  show (p.bind f).Issues P
  induction p with
  | done r => cases r with
    | error e => trivial
    | ok a => exact hf a
  | call op k ih => exact ⟨hp.1, fun a => ih a (hp.2 a)⟩

theorem Issues.ite {c : Prop} [Decidable c] {p q : Prog Op Ans ε α} (hp : p.Issues P) (hq : q.Issues P) :
    (if c then p else q).Issues P := by
  split
  · exact hp
  · exact hq

theorem Issues.mono {p : Prog Op Ans ε α} (h : p.Issues P) (hP : ∀ op, P op → P' op) : p.Issues P' := by
  induction p with
  | done r => trivial
  | call op k ih => exact ⟨hP op h.1, fun a => ih a (h.2 a)⟩

/-- What all operations of one kind keep is kept by a program that issues no others. -/
theorem Issues.wp {A : σ → Prop} {p : Prog Op Ans ε α} (h : p.Issues P)
    (hA : ∀ s op a s', A s → P op → C.answers s op a s' → A s') (hG : ∀ s op, A s → P op → C.guard s op)
    (hs : A s) : wp C p (fun _ => A) s := by
  induction p generalizing s with
  | done r => exact hs
  | call op k ih =>
    exact ⟨hG s op hs h.1, fun a s' ha => ih a (h.2 a) (hA s op a s' hs h.1 ha)⟩

end Issues

/-- Soundness: the weakest precondition is kept along every execution. -/
theorem wp_steps {p p' : Prog Op Ans ε α} {s' : σ} {Q : Except ε α → σ → Prop}
    (h : Steps C.answers (p, s) (p', s')) (hp : wp C p Q s) : wp C p' Q s' := by
  generalize hx : (p, s) = x at h
  generalize hy : (p', s') = y at h
  induction h generalizing p' s' with
  | refl =>
    obtain ⟨rfl, rfl⟩ := Prod.mk.inj (hx.trans hy.symm)
    exact hp
  | tail _ hstep ih =>
    cases hstep with
    | call ha =>
      obtain ⟨rfl, rfl⟩ := Prod.mk.inj hy
      exact (ih rfl).2 _ _ ha

/-- What every answer keeps that is given under the guard holds along every execution. -/
theorem steps_keep {A : σ → Prop} {p p' : Prog Op Ans ε α} {s' : σ} {Q : Except ε α → σ → Prop}
    (hA : ∀ s op a s', A s → C.guard s op → C.answers s op a s' → A s')
    (h : Steps C.answers (p, s) (p', s')) (hp : wp C p Q s) (hs : A s) : A s' := by
  generalize hx : (p, s) = x at h
  generalize hy : (p', s') = y at h
  induction h generalizing p' s' with
  | refl =>
    obtain ⟨-, rfl⟩ := Prod.mk.inj (hx.trans hy.symm)
    exact hs
  | tail hsteps hstep ih =>
    cases hstep with
    | call ha =>
      obtain ⟨-, rfl⟩ := Prod.mk.inj hy
      subst hx
      have hcall := wp_steps hsteps hp
      exact hA _ _ _ _ (ih rfl) (wp_call.1 hcall).1 ha

/-- A run against a function is an execution. -/
theorem runFor_steps {answers : σ → (op : Op) → Ans op → σ → Prop} {oracle : σ → (op : Op) → Ans op × σ}
    (h : ∀ s op, answers s op (oracle s op).1 (oracle s op).2) (n : Nat) (p : Prog Op Ans ε α) (s : σ) :
    Steps answers (p, s) (runFor oracle n p s) := by
  induction n generalizing p s with
  | zero => exact .refl
  | succ n ih =>
    cases p with
    | done r => exact .refl
    | call op k => exact .head (.call (h s op)) (ih _ _)

theorem runWhile_steps {answers : σ → (op : Op) → Ans op → σ → Prop}
    {oracle : σ → (op : Op) → Option (Ans op × σ)}
    (h : ∀ s op a s', oracle s op = some (a, s') → answers s op a s') (n : Nat) (p : Prog Op Ans ε α)
    (s : σ) : Steps answers (p, s) (runWhile oracle n p s) := by
  induction n generalizing p s with
  | zero => exact .refl
  | succ n ih =>
    cases p with
    | done r => exact .refl
    | call op k =>
      unfold runWhile
      split
      · next a s' ho => exact .head (.call (h s op a s' ho)) (ih _ _)
      · exact .refl

end Effects.Prog
