import GostManager.Effects.Locks
import GostManager.Effects.Proofs.ProgramProofs

/-!
# Proofs: from one process to all

What a process keeps by itself it keeps among others, as only one at a time can change the world.
-/

namespace Effects.Processes

open Prog

variable {ι Op : Type} {Ans : Op → Type} {δ ε α World : Type} [DecidableEq ι]
variable {P : Processes ι Op Ans δ ε α World} {w₀ w : World} {cfg cfg' : P.Config} {holder : Option (ι × World)}
  {threads : ι → Option (Prog (LockOp Op) (LockOp.Ans Ans δ) ε α)} {i j : ι}
variable {J : World → Prop} {A : ι → World → World → Prop} {F : Op → Prop} {G : ι → World → World → Op → Prop}
  {Q : ι → Except ε α → Option (World × World) → Prop}

/-! ## Holders -/

theorem without_eq_some {h : ι × World} : without i holder = some h ↔ holder = some h ∧ h.1 ≠ i := by
  unfold without
  rw [Option.filter_eq_some_iff, decide_eq_true_eq]

theorem seenBy_eq_some {v : World × World} : seenBy i holder w = some v ↔ holder = some (i, v.1) ∧ v.2 = w := by
  unfold seenBy
  rw [Option.map_eq_some_iff]
  constructor
  · rintro ⟨h, hfilter, rfl⟩
    obtain ⟨hholder, hi⟩ := Option.filter_eq_some_iff.1 hfilter
    obtain rfl := of_decide_eq_true hi
    exact ⟨hholder, rfl⟩
  · rintro ⟨rfl, rfl⟩
    exact ⟨(i, v.1), Option.filter_eq_some_iff.2 ⟨rfl, decide_eq_true rfl⟩, rfl⟩

theorem seenBy_eq_none : seenBy i holder w = none ↔ ∀ w', holder ≠ some (i, w') := by
  rw [Option.eq_none_iff_forall_ne_some]
  constructor
  · exact fun h w' hholder => h (w', w) (seenBy_eq_some.2 ⟨hholder, rfl⟩)
  · exact fun h v hv => h v.1 (seenBy_eq_some.1 hv).1

theorem seenBy_without_self : seenBy i (without i holder) w = none :=
  seenBy_eq_none.2 fun _ hholder => (without_eq_some.1 hholder).2 rfl

theorem seenBy_without (hj : j ≠ i) : seenBy j (without i holder) w = seenBy j holder w := by
  refine Option.ext fun v => ?_
  rw [seenBy_eq_some, seenBy_eq_some, without_eq_some]
  exact ⟨fun h => ⟨h.1.1, h.2⟩, fun h => ⟨⟨h.1, hj⟩, h.2⟩⟩

theorem seenBy_holder_ne {w' : World} (hj : j ≠ i) : seenBy j (some (i, w')) w = none :=
  seenBy_eq_none.2 fun _ h => hj (Prod.mk.inj (Option.some.inj h)).1.symm

/-! ## Steps -/

/-- What holds in every state. -/
structure Sound (P : Processes ι Op Ans δ ε α World) (J : World → Prop) (A : ι → World → World → Prop) (F : Op → Prop)
    (G : ι → World → World → Op → Prop) (Q : ι → Except ε α → Option (World × World) → Prop)
    (cfg : P.Config) : Prop where
  world : J cfg.world
  held : ∀ i w, cfg.holder = some (i, w) → A i w cfg.world
  threads : ∀ i p, cfg.threads i = some p → wp (P.alone i J F (G i)) p (Q i) (seenBy i cfg.holder cfg.world)

/-- One process goes on, and the others see what they saw. -/
theorem Sound.resume {p : Option (Prog (LockOp Op) (LockOp.Ans Ans δ) ε α)} {w' : World} {holder' : Option (ι × World)}
    (h : Sound P J A F G Q ⟨w, holder, threads⟩) (hworld : J w') (hheld : ∀ j w₁, holder' = some (j, w₁) → A j w₁ w')
    (hothers : ∀ j, j ≠ i → seenBy j holder' w' = seenBy j holder w)
    (hi : ∀ q, p = some q → wp (P.alone i J F (G i)) q (Q i) (seenBy i holder' w')) :
    Sound P J A F G Q ⟨w', holder', Function.update threads i p⟩ := by
  refine ⟨hworld, hheld, fun j q hq => ?_⟩
  by_cases hj : j = i
  · subst hj
    exact hi q ((Function.update_self j p threads).symm.trans hq)
  · have hq' : threads j = some q := (Function.update_of_ne hj p threads).symm.trans hq
    have hwp := h.threads j q hq'
    exact (hothers j hj).symm ▸ hwp

/-- The lock is given back, or the process is killed. -/
theorem Sound.without {p : Option (Prog (LockOp Op) (LockOp.Ans Ans δ) ε α)}
    (h : Sound P J A F G Q ⟨w, holder, threads⟩) (hi : ∀ q, p = some q → wp (P.alone i J F (G i)) q (Q i) none) :
    Sound P J A F G Q ⟨w, without i holder, Function.update threads i p⟩ := by
  refine h.resume h.world (fun j w hw => h.held j w (without_eq_some.1 hw).1) (fun j hj => seenBy_without hj) ?_
  intro q hq
  rw [seenBy_without_self]
  exact hi q hq

/-- One step keeps it. -/
theorem Sound.step (hkeeps : Keeps P J A F G) (h : Sound P J A F G Q cfg) (hstep : P.Step cfg cfg') :
    Sound P J A F G Q cfg' := by
  cases hstep with
  | @take w threads i k hi =>
    refine h.resume h.world (fun j w' hw => ?_) (fun j hj => ?_) fun q hq => ?_
    · obtain ⟨rfl, rfl⟩ := Prod.mk.inj (Option.some.inj hw)
      exact hkeeps.taken _ _ h.world
    · rw [seenBy_holder_ne hj]
      rfl
    · obtain rfl := Option.some.inj hq
      have hseen : seenBy i (some (i, w)) w = some (w, w) := seenBy_eq_some.2 ⟨rfl, rfl⟩
      rw [hseen]
      exact (h.threads i _ hi).2 (.ok ()) _ ⟨rfl, w, h.world, rfl⟩
  | @refuse w holder i e threads k hi =>
    refine h.resume h.world h.held (fun _ _ => rfl) fun q hq => ?_
    obtain rfl := Option.some.inj hq
    exact (h.threads i _ hi).2 (.error e) _ rfl
  | @drop w holder i a threads k hi =>
    refine h.without fun q hq => ?_
    obtain rfl := Option.some.inj hq
    cases a with
    | ok u => exact (h.threads i _ hi).2 (.ok ()) _ rfl
    | error e => exact (h.threads i _ hi).2 (.error e) _ (.inr rfl)
  | @keep w holder i e threads k hi =>
    refine h.resume h.world h.held (fun _ _ => rfl) fun q hq => ?_
    obtain rfl := Option.some.inj hq
    exact (h.threads i _ hi).2 (.error e) _ (.inl rfl)
  | @other w w' holder i op a threads k hi ha =>
    have hwp := h.threads i _ hi
    dsimp only at hwp
    cases hseen : seenBy i holder w with
    | none =>
      rw [hseen] at hwp
      obtain rfl := hkeeps.free i _ op a _ hwp.1 ha
      refine h.resume h.world h.held (fun _ _ => rfl) fun q hq => ?_
      obtain rfl := Option.some.inj hq
      rw [hseen]
      exact hwp.2 a none ⟨rfl, _, h.world, ha⟩
    | some v =>
      obtain ⟨w₁, w₂⟩ := v
      obtain ⟨rfl, rfl⟩ := seenBy_eq_some.1 hseen
      rw [hseen] at hwp
      have hA := hkeeps.kept i w₁ _ op a w' (h.held i w₁ rfl) hwp.1 ha
      refine h.resume (hkeeps.given i w₁ w' hA) (fun j w₃ hw => ?_) (fun j hj => ?_) fun q hq => ?_
      · obtain ⟨rfl, rfl⟩ := Prod.mk.inj (Option.some.inj hw)
        exact hA
      · exact (seenBy_holder_ne hj).trans (seenBy_holder_ne hj).symm
      · obtain rfl := Option.some.inj hq
        have hseen' : seenBy i (some (i, w₁)) w' = some (w₁, w') := seenBy_eq_some.2 ⟨rfl, rfl⟩
        rw [hseen']
        exact hwp.2 a _ ⟨w', ha, rfl⟩
  | kill i => exact h.without nofun

section

variable (hkeeps : Keeps P J A F G) (hwp : ∀ i, wp (P.alone i J F (G i)) (P.body i) (Q i) none)

include hkeeps hwp

/-- What a process keeps by itself holds in every state that an interleaving reaches. -/
theorem sound_of_reachable (h₀ : J w₀) (hr : P.Reachable w₀ cfg) : Sound P J A F G Q cfg := by
  induction hr with
  | refl =>
    refine ⟨h₀, nofun, fun i p hp => ?_⟩
    obtain rfl := Option.some.inj hp
    exact hwp i
  | tail _ hstep ih => exact ih.step hkeeps hstep

/-- Only the holder of the lock changes the world. -/
theorem holder_of_changes (h₀ : J w₀) (hr : P.Reachable w₀ cfg) (hstep : P.Step cfg cfg')
    (hne : cfg'.world ≠ cfg.world) :
    ∃ i w, cfg.holder = some (i, w) ∧ A i w cfg.world ∧ A i w cfg'.world := by
  have hsound := sound_of_reachable hkeeps hwp h₀ hr
  cases hstep with
  | take hi => exact absurd rfl hne
  | refuse hi => exact absurd rfl hne
  | drop hi => exact absurd rfl hne
  | keep hi => exact absurd rfl hne
  | @other w w' holder i op a threads k hi ha =>
    have hthread := hsound.threads i _ hi
    dsimp only at hthread
    cases hseen : seenBy i holder w with
    | none =>
      rw [hseen] at hthread
      exact absurd (hkeeps.free i _ op a _ hthread.1 ha) hne
    | some v =>
      obtain ⟨w₁, w₂⟩ := v
      obtain ⟨rfl, rfl⟩ := seenBy_eq_some.1 hseen
      rw [hseen] at hthread
      have hA := hsound.held i w₁ rfl
      exact ⟨i, w₁, rfl, hA, hkeeps.kept i w₁ _ op a w' hA hthread.1 ha⟩
  | kill i => exact absurd rfl hne

end

/-- Processes that take turns are one interleaving. -/
theorem reachable_turns {respond : ι → World → (op : Op) → Ans op × World} {busy : δ}
    (h : ∀ i w op, P.answers i w op (respond i w op).1 (respond i w op).2) (hr : P.Reachable w₀ cfg) (turns : List ι) :
    P.Reachable w₀ (turns.foldl (P.turn respond busy) cfg) := by
  induction turns generalizing cfg with
  | nil => exact hr
  | cons i turns ih =>
    refine ih ?_
    obtain ⟨w, holder, threads⟩ := cfg
    unfold turn
    split
    · next k hi =>
      cases holder with
      | none => exact hr.tail (.take hi)
      | some holder => exact hr.tail (.refuse hi)
    · next k hi => exact hr.tail (.drop hi)
    · next op k hi => exact hr.tail (.other hi (h i w op))
    · exact hr

end Effects.Processes
