import Mathlib.Init

/-!
# Proofs: exceptions in sequence

How a sequence of two computations that may raise has ended.
-/

namespace Effects

variable {ε α β : Type} {x : Except ε α} {f : α → Except ε β}

theorem bind_eq_ok {b : β} : (x >>= f) = .ok b ↔ ∃ a, x = .ok a ∧ f a = .ok b := by
  cases x with
  | error e => exact ⟨fun h => (nomatch h), fun ⟨_, h, _⟩ => (nomatch h)⟩
  | ok a => exact ⟨fun h => ⟨a, rfl, h⟩, fun ⟨_, ha, h⟩ => by cases ha; exact h⟩

/-- A check comes first. -/
theorem check_eq_ok {check : Except ε Unit} {f : Unit → Except ε β} {b : β} :
    (check >>= f) = .ok b ↔ check = .ok () ∧ f () = .ok b := by
  rw [bind_eq_ok]
  exact ⟨fun ⟨_, hcheck, h⟩ => ⟨hcheck, h⟩, fun ⟨hcheck, h⟩ => ⟨(), hcheck, h⟩⟩

theorem bind_eq_error {e : ε} : (x >>= f) = .error e ↔ x = .error e ∨ ∃ a, x = .ok a ∧ f a = .error e := by
  cases x with
  | error e' =>
    constructor
    · rintro ⟨⟩
      exact .inl rfl
    · rintro (h | ⟨_, h, _⟩)
      · cases h
        rfl
      · cases h
  | ok a =>
    refine ⟨fun h => .inr ⟨a, rfl, h⟩, ?_⟩
    rintro (h | ⟨_, ha, h⟩)
    · cases h
    · cases ha
      exact h

/-- Loops end alike if their steps do. -/
theorem foldlM_eq_ok_congr {σ : Type} {f g : σ → α → Except ε σ} {s s' : σ} {as : List α}
    (h : ∀ s, ∀ a ∈ as, ∀ s', f s a = .ok s' ↔ g s a = .ok s') :
    as.foldlM f s = .ok s' ↔ as.foldlM g s = .ok s' := by
  induction as generalizing s with
  | nil => exact Iff.rfl
  | cons a as ih =>
    rw [List.foldlM_cons, List.foldlM_cons, bind_eq_ok, bind_eq_ok]
    refine exists_congr fun next => and_congr (h s a List.mem_cons_self next) ?_
    exact ih fun s a' ha' => h s a' (List.mem_cons_of_mem a ha')

/-- A loop that collects results has collected them all. -/
theorem mapM_eq_ok_iff {as : List α} {bs : List β} : as.mapM f = .ok bs ↔ as.map f = bs.map .ok := by
  induction as generalizing bs with
  | nil => cases bs <;> simp [pure, Except.pure]
  | cons a as ih =>
    rw [List.mapM_cons, bind_eq_ok]
    constructor
    · rintro ⟨b, hb, h⟩
      obtain ⟨rest, hrest, h⟩ := bind_eq_ok.1 h
      obtain rfl := Except.ok.inj h
      rw [List.map_cons, List.map_cons, hb, ih.1 hrest]
    · intro h
      cases bs with
      | nil => cases h
      | cons b bs =>
        obtain ⟨hb, hrest⟩ := List.cons.inj h
        exact ⟨b, hb, bind_eq_ok.2 ⟨bs, ih.2 hrest, rfl⟩⟩

theorem mapM_eq_some_iff {g : α → Option β} {as : List α} {bs : List β} :
    as.mapM g = some bs ↔ as.map g = bs.map some := by
  induction as generalizing bs with
  | nil => cases bs <;> simp
  | cons a as ih =>
    rw [List.mapM_cons]
    constructor
    · intro h
      obtain ⟨b, hb, h⟩ := Option.bind_eq_some_iff.1 h
      obtain ⟨rest, hrest, h⟩ := Option.bind_eq_some_iff.1 h
      obtain rfl := Option.some.inj h
      rw [List.map_cons, List.map_cons, hb, ih.1 hrest]
    · intro h
      cases bs with
      | nil => cases h
      | cons b bs =>
        obtain ⟨hb, hrest⟩ := List.cons.inj h
        exact Option.bind_eq_some_iff.2 ⟨b, hb, Option.bind_eq_some_iff.2 ⟨bs, ih.2 hrest, rfl⟩⟩

theorem mapM_eq_ok_map {g : α → β} {as : List α} (h : ∀ a ∈ as, f a = .ok (g a)) : as.mapM f = .ok (as.map g) := by
  rw [mapM_eq_ok_iff, List.map_map]
  exact List.map_congr_left h

theorem mapM_eq_some_map {f : α → Option β} {g : α → β} {as : List α} (h : ∀ a ∈ as, f a = some (g a)) :
    as.mapM f = some (as.map g) := by
  rw [mapM_eq_some_iff, List.map_map]
  exact List.map_congr_left h

/-- Each step of a loop that has collected its results has one. -/
theorem exists_ok_of_mapM {as : List α} {bs : List β} (h : as.mapM f = .ok bs) {a : α} (ha : a ∈ as) :
    ∃ b, f a = .ok b := by
  have hmem : f a ∈ bs.map .ok := mapM_eq_ok_iff.1 h ▸ List.mem_map_of_mem ha
  obtain ⟨b, -, hb⟩ := List.mem_map.1 hmem
  exact ⟨b, hb.symm⟩

/-- Each collected result is that of a step. -/
theorem mem_of_mapM {as : List α} {bs : List β} (h : as.mapM f = .ok bs) {b : β} (hb : b ∈ bs) :
    ∃ a ∈ as, f a = .ok b := by
  have hmem : Except.ok b ∈ as.map f := (mapM_eq_ok_iff.1 h).symm ▸ List.mem_map_of_mem hb
  exact List.mem_map.1 hmem

/-- The collected results are those of a function, if the result of each step is. -/
theorem eq_map_of_mapM {g : α → β} {as : List α} {bs : List β} (h : as.mapM f = .ok bs)
    (hstep : ∀ a b, f a = .ok b → b = g a) : bs = as.map g := by
  have hsteps : as.mapM f = .ok (as.map g) := by
    refine mapM_eq_ok_map fun a ha => ?_
    obtain ⟨b, hb⟩ := exists_ok_of_mapM h ha
    rw [hb, hstep a b hb]
  exact Except.ok.inj (h.symm.trans hsteps)

/-- A loop that may raise gives what the loop gives that only says that there is nothing. -/
theorem mapM_ok_iff_mapM_some {g : α → Option β} {as : List α} {bs : List β}
    (h : ∀ a b, f a = .ok b ↔ g a = some b) : as.mapM f = .ok bs ↔ as.mapM g = some bs := by
  rw [mapM_eq_ok_iff, mapM_eq_some_iff]
  induction as generalizing bs with
  | nil => cases bs <;> simp
  | cons a as ih =>
    cases bs with
    | nil => exact ⟨nofun, nofun⟩
    | cons b bs => simp only [List.map_cons, List.cons.injEq, h, ih]

end Effects
