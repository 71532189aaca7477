import GostManager.Effects.Machine
import GostManager.Effects.Proofs.ProgramProofs

/-!
# Proofs: invariants of machines

An invariant of a machine is shown one call at a time: from the invariant, the body of every call
that may begin keeps a guard and ends in the invariant again. The invariant then holds between the
calls of every run, and the guard at every operation issued on the way.
-/

namespace Effects.Machine

open Prog

variable {Op : Type} {Ans : Op → Type} {ε α Call Ext World : Type}

section Invariant

variable (M : Machine Op Ans ε α Call Ext World)

/-- The contract of a call `c` over the world together with the history, which records every answer. -/
def contract (G : Call → World → M.History → Op → Prop) (c : Call) :
    Prog.Contract Op Ans (World × M.History) where
  answers s op a s' := M.answers c s.1 s.2 op a s'.1 ∧ s'.2 = .did op a :: s.2
  guard s op := G c s.1 s.2 op

/-- A contract that does not look at the history is kept with any history. -/
theorem wp_contract {C : Prog.Contract Op Ans World} {c : Call} {β : Type} {p : Prog Op Ans ε β}
    {Q : Except ε β → World → Prop} (ha : ∀ w h op a w', M.answers c w h op a w' → C.answers w op a w')
    {w : World} {h : M.History} (hp : Prog.wp C p Q w) :
    Prog.wp (M.contract (fun _ w _ op => C.guard w op) c) p (fun r s => Q r s.1) (w, h) := by
  induction p generalizing w h with
  | done r => exact hp
  | call op k ih =>
    exact ⟨hp.1, fun a s' hs => ih a (hp.2 a s'.1 (ha w h op a s'.1 hs.1))⟩

/-- An invariant `I` between calls, with a guard `G` at the operations and a postcondition `R` of the
calls. -/
structure Keeps (I : World → M.History → Prop) (G : Call → World → M.History → Op → Prop)
    (R : Call → World → M.History → Except ε α → Prop) : Prop where
  /-- A call that begins in the invariant keeps the guard and ends in its postcondition. -/
  call : ∀ w h c, I w h → M.admits w h c →
    Prog.wp (M.contract G c) (M.body c) (fun r s => R c s.1 s.2 r) (w, .called c :: h)
  finish : ∀ c w h r, R c w h r → I w (.returned r :: h)
  /-- Nobody else touches the world. -/
  alone : ∀ w x w', ¬ M.outside w x w'
  /-- A call that is cut off before an operation leaves the invariant. -/
  cut : M.kills → ∀ c w h op, G c w h op → I w (.killed :: h)
  /-- A call that is cut off just before it returns leaves the invariant. -/
  cut_last : M.kills → ∀ c w h r, R c w h r → I w (.killed :: h)

variable {M} {I : World → M.History → Prop} {G : Call → World → M.History → Op → Prop}
  {R : Call → World → M.History → Except ε α → Prop}

/-- What the invariant says of a configuration: itself between calls, and the weakest precondition of
the rest of the program during a call. -/
def Holds (I : World → M.History → Prop) (G : Call → World → M.History → Op → Prop)
    (R : Call → World → M.History → Except ε α → Prop) (cfg : M.Config) : Prop :=
  match cfg.running with
  | none => I cfg.world cfg.history
  | some (c, p) =>
    Prog.wp (M.contract G c) p (fun r s => R c s.1 s.2 r) (cfg.world, cfg.history)

theorem Keeps.step (K : M.Keeps I G R) {cfg cfg' : M.Config} (hs : M.Step cfg cfg')
    (hI : Holds I G R cfg) : Holds I G R cfg' := by
  cases hs with
  | call ha => exact K.call _ _ _ hI ha
  | answer ha => exact hI.2 _ (_, _) ⟨ha, rfl⟩
  | finish => exact K.finish _ _ _ _ hI
  | @kill w h c p hk =>
    cases p with
    | done r => exact K.cut_last hk c _ _ r hI
    | call op k => exact K.cut hk _ _ _ _ hI.1
  | outside ho => exact absurd ho (K.alone _ _ _)

theorem Keeps.holds (K : M.Keeps I G R) {w₀ : World} (h₀ : I w₀ []) {cfg : M.Config}
    (hr : M.Reachable w₀ cfg) : Holds I G R cfg := by
  induction hr with
  | refl => exact h₀
  | tail _ hs ih => exact K.step hs ih

/-- In every run the guard holds at every operation that a call issues. -/
theorem Keeps.issues (K : M.Keeps I G R) {w₀ : World} (h₀ : I w₀ []) {cfg : M.Config}
    (hr : M.Reachable w₀ cfg) {c : Call} {op : Op} (hi : cfg.Issues c op) :
    G c cfg.world cfg.history op := by
  have h := K.holds h₀ hr
  obtain ⟨k, hk⟩ := hi
  simp only [Holds, hk] at h
  exact h.1

/-- In every run the postcondition holds whenever a call is about to return. -/
theorem Keeps.returns (K : M.Keeps I G R) {w₀ : World} (h₀ : I w₀ []) {cfg : M.Config}
    (hr : M.Reachable w₀ cfg) {c : Call} {r : Except ε α} (hi : cfg.Returns c r) :
    R c cfg.world cfg.history r := by
  have h := K.holds h₀ hr
  rw [Config.Returns] at hi
  simpa only [Holds, hi, wp_done] using h

/-- In every run the invariant holds between calls. -/
theorem Keeps.idle (K : M.Keeps I G R) {w₀ : World} (h₀ : I w₀ []) {cfg : M.Config}
    (hr : M.Reachable w₀ cfg) (hi : cfg.running = none) : I cfg.world cfg.history := by
  have h := K.holds h₀ hr
  simpa only [Holds, hi] using h

/-- What the invariant, the guard and the postcondition all say holds throughout every run. -/
theorem Keeps.always (K : M.Keeps I G R) {A : World → M.History → Prop}
    (hI : ∀ w h, I w h → A w h) (hG : ∀ c w h op, G c w h op → A w h)
    (hR : ∀ c w h r, R c w h r → A w h) {w₀ : World} (h₀ : I w₀ []) {cfg : M.Config}
    (hr : M.Reachable w₀ cfg) : A cfg.world cfg.history := by
  have h := K.holds h₀ hr
  obtain ⟨w, hist, _ | ⟨c, r | ⟨op, k⟩⟩⟩ := cfg
  · exact hI _ _ h
  · exact hR c _ _ r h
  · exact hG c _ _ op h.1

/-- What a program does in the machine, it does in the machine with fewer runs. -/
theorem wp_restrict {okAnswer : Call → World → M.History → (op : Op) → Ans op → Prop} {c : Call}
    {β : Type} {p : Prog Op Ans ε β} {Q : Except ε β → World × M.History → Prop}
    {s : World × M.History} (h : Prog.wp (M.contract G c) p Q s) :
    Prog.wp ((M.restrict okAnswer).contract G c) p Q s :=
  wp_of_answers (C := M.contract G c) (fun _ _ hg => hg) (fun _ _ _ _ ha => ⟨ha.1.1, ha.2⟩) h

end Invariant

/-! ## Runs against an oracle -/

section Oracle

variable {M : Machine Op Ans ε α Call Ext World} {w₀ : World} {cfg : M.Config}

theorem reachable_begin (hr : M.Reachable w₀ cfg) {c : Call}
    (ha : M.admits cfg.world cfg.history c) : M.Reachable w₀ (cfg.begin c) := by
  obtain ⟨w, h, _ | run⟩ := cfg
  · exact hr.tail (.call ha)
  · exact hr

theorem reachable_advance {oracle : M.Oracle}
    (ho : ∀ c w h op a w', oracle c w h op = some (a, w') → M.answers c w h op a w') (n : Nat)
    (hr : M.Reachable w₀ cfg) : M.Reachable w₀ (cfg.advance oracle n) := by
  induction n generalizing cfg with
  | zero => exact hr
  | succ n ih =>
    obtain ⟨w, h, _ | ⟨c, r | ⟨op, k⟩⟩⟩ := cfg
    · exact hr
    · exact hr.tail .finish
    · rw [Config.advance]
      split
      · next hop => exact ih (hr.tail (.answer (ho _ _ _ _ _ _ hop)))
      · exact hr

theorem reachable_disturb (hr : M.Reachable w₀ cfg) {x : Ext} {w' : World}
    (ho : M.outside cfg.world x w') : M.Reachable w₀ (cfg.disturb x w') :=
  hr.tail (.outside ho)

/-- The calls of a script may follow a run if they may begin, and their oracles only give answers that
the machine allows. -/
theorem reachable_play {cs : List M.Scene} (hr : M.Reachable w₀ cfg) (ha : cfg.Admits cs)
    (ho : ∀ x ∈ cs, ∀ c w h op a w', x.2.1 c w h op = some (a, w') → M.answers c w h op a w') :
    M.Reachable w₀ (Config.play cs cfg) := by
  induction cs generalizing cfg with
  | nil => exact hr
  | cons x cs ih =>
    exact ih (reachable_advance (ho x (.head _)) x.2.2 (reachable_begin hr ha.1)) ha.2
      fun y hy => ho y (.tail _ hy)

theorem reachable_script {cs : List M.Scene} (ha : Config.Admits cs (⟨w₀, [], none⟩ : M.Config))
    (ho : ∀ x ∈ cs, ∀ c w h op a w', x.2.1 c w h op = some (a, w') → M.answers c w h op a w') :
    M.Reachable w₀ (M.script w₀ cs) :=
  reachable_play Relation.ReflTransGen.refl ha ho

/-- Calls that may begin at any time. -/
theorem Config.admits_of_forall {cs : List M.Scene} {cfg : M.Config}
    (ha : ∀ w h, ∀ x ∈ cs, M.admits w h x.1) : cfg.Admits cs := by
  induction cs generalizing cfg with
  | nil => trivial
  | cons x cs ih => exact ⟨ha _ _ x (.head _), ih fun w h y hy => ha w h y (.tail _ hy)⟩

end Oracle

/-! ## Hiding what others do -/

section Hiding

variable {World' : Type} {M : Machine Op Ans ε α Call Ext World}
  {N : Machine Op Ans ε α Call Empty World'} {view : World → World'} {cfg cfg' : M.Config}

/-- A step of `M` is a step of `N`, or `N` does not see it. -/
theorem Hides.step (H : M.Hides N view) (hs : M.Step cfg cfg') :
    N.Step (cfg.seenBy N view) (cfg'.seenBy N view) ∨ cfg'.seenBy N view = cfg.seenBy N view := by
  cases hs with
  | @call w h c ha =>
    have hcall := Step.call (H.admits w h c ha)
    rw [H.body] at hcall
    exact .inl hcall
  | answer ha => exact .inl (.answer (H.answers _ _ _ _ _ _ ha))
  | finish => exact .inl .finish
  | kill hk => exact .inl (.kill (H.kills hk))
  | @outside w w' h run x ho =>
    refine .inr ?_
    rw [Config.seenBy, Config.seenBy, H.outside w x w' ho]
    rfl

/-- Every run of `M` is a run of `N`. -/
theorem Hides.reachable (H : M.Hides N view) {w₀ : World} (hr : M.Reachable w₀ cfg) :
    N.Reachable (view w₀) (cfg.seenBy N view) := by
  induction hr with
  | refl => exact .refl
  | tail _ hs ih =>
    rcases H.step hs with h | h
    · exact ih.tail h
    · exact h ▸ ih

end Hiding

end Effects.Machine
