import Mathlib.Algebra.GroupWithZero.Nat
import Mathlib.Data.List.Nodup
import GostManager.Lists.Steps

/-!
# Proofs: steps

The values that elements hold are laid one after the other: an element holds its value from its own time on,
up to the time of the next element, its limit and the end.
-/

namespace Lists

variable {α β : Type} {time : α → Int} {value : α → Option β} {limit : α → Int} {l l' : List α} {a : α}
  {t start stop : Int}

/-! ## Ranges of integers -/

theorem length_range : (Int.range start stop).length = (stop - start).toNat := by
  unfold Int.range
  rw [List.length_map, List.length_range]

/-- A range is cut in two. -/
theorem range_append {middle : Int} (h : start ≤ middle) (h' : middle ≤ stop) :
    Int.range start stop = Int.range start middle ++ Int.range middle stop := by
  have hlength : (stop - start).toNat = (middle - start).toNat + (stop - middle).toNat := by omega
  unfold Int.range
  rw [hlength, List.range_add, List.map_append, List.map_map]
  congr 1
  refine List.map_congr_left fun r _ => ?_
  show start + ((middle - start).toNat + r : Nat) = middle + r
  omega

/-- A function with no value in a range. -/
theorem filterMap_range_none {f : Int → Option β} (h : ∀ t, start ≤ t → t < stop → f t = none) :
    (Int.range start stop).filterMap f = [] := by
  refine List.filterMap_eq_nil_iff.2 fun t ht => ?_
  obtain ⟨hstart, hstop⟩ := Int.mem_range_iff.1 ht
  exact h t hstart hstop

/-- A function with one value in a range. -/
theorem filterMap_range_some {f : Int → Option β} {b : β} (h : ∀ t, start ≤ t → t < stop → f t = some b) :
    (Int.range start stop).filterMap f = List.replicate (stop - start).toNat b := by
  have hsome : (Int.range start stop).filterMap f = (Int.range start stop).filterMap fun _ => some b := by
    refine List.filterMap_congr fun t ht => ?_
    obtain ⟨hstart, hstop⟩ := Int.mem_range_iff.1 ht
    exact h t hstart hstop
  rw [hsome, List.filterMap_eq_map', List.map_const', length_range]

/-- A function with one value from `low` on and before `high`. -/
theorem filterMap_range_between {f : Int → Option β} {b : β} {low high : Int}
    (h : ∀ t, start ≤ t → t < stop → f t = if low ≤ t ∧ t < high then some b else none) :
    (Int.range start stop).filterMap f = List.replicate (min stop high - max start low).toNat b := by
  by_cases hempty : min stop high ≤ max start low
  · have hzero : (min stop high - max start low).toNat = 0 := by omega
    rw [hzero, List.replicate_zero]
    refine filterMap_range_none fun t hstart hstop => ?_
    rw [h t hstart hstop, if_neg (by omega)]
  · have hcut : Int.range start stop = Int.range start (max start low) ++
        (Int.range (max start low) (min stop high) ++ Int.range (min stop high) stop) := by
      rw [← range_append (by omega) (by omega), ← range_append (by omega) (by omega)]
    have hbefore : (Int.range start (max start low)).filterMap f = [] := by
      refine filterMap_range_none fun t hstart hstop => ?_
      rw [h t hstart (by omega), if_neg (by omega)]
    have hafter : (Int.range (min stop high) stop).filterMap f = [] := by
      refine filterMap_range_none fun t hstart hstop => ?_
      rw [h t (by omega) hstop, if_neg (by omega)]
    have hbetween : (Int.range (max start low) (min stop high)).filterMap f =
        List.replicate (min stop high - max start low).toNat b := by
      refine filterMap_range_some fun t hstart hstop => ?_
      rw [h t (by omega) (by omega), if_pos (by omega)]
    rw [hcut, List.filterMap_append, List.filterMap_append, hbefore, hafter, hbetween, List.append_nil,
      List.nil_append]

/-- How many integers of a range are from `low` on and before `high`. -/
theorem countP_range_between {p : Int → Bool} {low high : Int}
    (h : ∀ t, start ≤ t → t < stop → (p t = true ↔ low ≤ t ∧ t < high)) :
    (Int.range start stop).countP p = (min stop high - max start low).toNat := by
  have hfilter : (Int.range start stop).filterMap (fun t => if p t then some () else none) =
      List.replicate (min stop high - max start low).toNat () :=
    filterMap_range_between fun t hstart hstop => by simp only [h t hstart hstop]
  have hlength := congrArg List.length hfilter
  rw [List.length_replicate] at hlength
  rw [← hlength, List.length_filterMap_eq_countP]
  refine List.countP_congr fun t _ => ?_
  cases p t <;> simp

/-! ## Counting -/

/-- An element is counted once if at most one of two properties holds of it. -/
theorem countP_or_of_disjoint {p q : α → Bool} (h : ∀ a ∈ l, p a = true → q a = false) :
    l.countP (fun a => p a || q a) = l.countP p + l.countP q := by
  induction l with
  | nil => rfl
  | cons a l ih =>
    have hl := ih fun b hb => h b (.tail _ hb)
    have ha := h a (.head _)
    simp only [List.countP_cons, hl]
    cases hp : p a <;> cases hq : q a <;> simp_all <;> omega

/-- So it is for any number of properties. -/
theorem countP_any_of_disjoint {ps : List (α → Bool)}
    (h : ps.Pairwise fun p q => ∀ a ∈ l, p a = true → q a = false) :
    l.countP (fun a => ps.any (· a)) = (ps.map (l.countP ·)).sum := by
  induction ps with
  | nil => simp
  | cons p ps ih =>
    obtain ⟨hp, hps⟩ := List.pairwise_cons.1 h
    have hdisjoint : ∀ a ∈ l, p a = true → ps.any (· a) = false := by
      intro a ha hpa
      exact List.any_eq_false.2 fun q hq => by simp [hp q hq a ha hpa]
    simp only [List.any_cons, List.map_cons, List.sum_cons, countP_or_of_disjoint hdisjoint, ih hps]

/-! ## The latest element -/

theorem latestAt_eq_none_iff : latestAt time l t = none ↔ ∀ b ∈ l, t < time b := by
  unfold latestAt
  rw [List.argmax_eq_none, List.filter_eq_nil_iff]
  simp only [decide_eq_true_eq, not_le]

theorem mem_of_latestAt (h : latestAt time l t = some a) :
    a ∈ l ∧ time a ≤ t ∧ ∀ b ∈ l, time b ≤ t → time b ≤ time a := by
  unfold latestAt at h
  obtain ⟨hmem, hle⟩ := List.mem_filter.1 (List.argmax_mem h)
  refine ⟨hmem, of_decide_eq_true hle, fun b hb hbt => ?_⟩
  exact List.le_of_mem_argmax (List.mem_filter.2 ⟨hb, decide_eq_true hbt⟩) h

/-- If the times are distinct, it is the only one that no other is between. -/
theorem latestAt_eq_some_iff (hdistinct : (l.map time).Nodup) : latestAt time l t = some a ↔
    a ∈ l ∧ time a ≤ t ∧ ∀ b ∈ l, time b ≤ t → time b ≤ time a := by
  refine ⟨mem_of_latestAt, fun ⟨hmem, hle, hmax⟩ => ?_⟩
  cases hlatest : latestAt time l t with
  | none =>
    have hlt := latestAt_eq_none_iff.1 hlatest a hmem
    omega
  | some a' =>
    obtain ⟨hmem', hle', hmax'⟩ := mem_of_latestAt hlatest
    have hsame : time a' = time a := le_antisymm (hmax a' hmem' hle') (hmax' a hmem hle)
    rw [List.inj_on_of_nodup_map hdistinct hmem' hmem hsame]

/-- The order of the elements does not count. -/
theorem latestAt_perm (h : l.Perm l') (hdistinct : (l.map time).Nodup) :
    latestAt time l t = latestAt time l' t := by
  refine Option.ext fun a => ?_
  rw [latestAt_eq_some_iff hdistinct, latestAt_eq_some_iff ((h.map time).nodup_iff.1 hdistinct)]
  simp only [h.mem_iff]

theorem held_perm (h : l.Perm l') (hdistinct : (l.map time).Nodup) :
    held time value limit l start stop = held time value limit l' start stop := by
  unfold held
  refine List.filterMap_congr fun t _ => ?_
  unfold heldAt
  rw [latestAt_perm h hdistinct]

/-! ## One element after the other -/

/-- Before the next element comes, the first one holds. -/
theorem heldAt_cons_of_lt (hnext : ∀ b ∈ l, t < time b) :
    heldAt time value limit (a :: l) t = if time a ≤ t ∧ t < limit a then value a else none := by
  have hnone : l.filter (fun b => time b ≤ t) = [] := by
    refine List.filter_eq_nil_iff.2 fun b hb => ?_
    have hlt := hnext b hb
    simp only [decide_eq_true_eq]
    omega
  unfold heldAt latestAt
  rw [List.filter_cons, hnone]
  by_cases hle : time a ≤ t
  · simp [hle]
  · simp [hle]

/-- Then it does not count. -/
theorem heldAt_cons_of_le (h : ∀ b ∈ l, time a < time b) (hdistinct : (l.map time).Nodup) {b : α}
    (hb : b ∈ l) (hle : time b ≤ t) :
    heldAt time value limit (a :: l) t = heldAt time value limit l t := by
  obtain ⟨c, hc⟩ : ∃ c, latestAt time l t = some c := by
    refine Option.ne_none_iff_exists'.1 fun hnone => ?_
    have hlt := latestAt_eq_none_iff.1 hnone b hb
    omega
  obtain ⟨hmem, hct, hmax⟩ := mem_of_latestAt hc
  have hcons : ((a :: l).map time).Nodup := by
    refine List.nodup_cons.2 ⟨fun hmem => ?_, hdistinct⟩
    obtain ⟨b', hb', hsame⟩ := List.mem_map.1 hmem
    have hlt := h b' hb'
    omega
  have hlatest : latestAt time (a :: l) t = some c := by
    refine (latestAt_eq_some_iff hcons).2 ⟨.tail _ hmem, hct, fun b' hb' hbt => ?_⟩
    rcases List.mem_cons.1 hb' with rfl | hb'
    · exact (h c hmem).le
    · exact hmax b' hb' hbt
  unfold heldAt
  rw [hc, hlatest]

/-- When the next element comes. -/
def nextTime (time : α → Int) (stop : Int) (l : List α) : Int := l.head?.elim stop time

/-- The first element holds its value up to the time of the next one. -/
theorem held_cons (h : ((a :: l).Pairwise fun b c => time b < time c)) :
    held time value limit (a :: l) start stop =
      (value a).toList.flatMap (fun b => List.replicate
        (min stop (min (nextTime time stop l) (limit a)) - max start (time a)).toNat b) ++
      held time value limit l start stop := by
  obtain ⟨hfirst, hsorted⟩ := List.pairwise_cons.1 h
  have hdistinct : (l.map time).Nodup := by
    rw [List.nodup_iff_pairwise_ne, List.pairwise_map]
    exact hsorted.imp fun hlt => hlt.ne
  -- the elements of the rest come at `next` or later
  have hrest : ∀ b ∈ l, nextTime time stop l ≤ time b := by
    intro b hb
    cases l with
    | nil => cases hb
    | cons c l =>
      show time c ≤ time b
      rcases List.mem_cons.1 hb with rfl | hb
      · exact le_rfl
      · exact ((List.pairwise_cons.1 hsorted).1 b hb).le
  have hcame : nextTime time stop l < stop → ∃ b ∈ l, time b = nextTime time stop l := by
    intro hlt
    cases l with
    | nil => exact absurd hlt (lt_irrefl stop)
    | cons c l => exact ⟨c, .head _, rfl⟩
  generalize nextTime time stop l = next at hrest hcame
  have hcut : Int.range start stop = Int.range start (max start (min stop next)) ++
      Int.range (max start (min stop next)) stop ∨ stop ≤ start := by
    by_cases hempty : stop ≤ start
    · exact .inr hempty
    · exact .inl (range_append (by omega) (by omega))
  rcases hcut with hcut | hempty
  · have hearly : (Int.range start (max start (min stop next))).filterMap (heldAt time value limit l) = [] := by
      refine filterMap_range_none fun t hstart hlt => ?_
      have hnone : latestAt time l t = none := by
        refine latestAt_eq_none_iff.2 fun b hb => ?_
        have hle := hrest b hb
        omega
      unfold heldAt
      rw [hnone, Option.bind_none]
    have hlate : (Int.range (max start (min stop next)) stop).filterMap (heldAt time value limit (a :: l)) =
        (Int.range (max start (min stop next)) stop).filterMap (heldAt time value limit l) := by
      refine List.filterMap_congr fun t ht => ?_
      obtain ⟨hle, hlt⟩ := Int.mem_range_iff.1 ht
      obtain ⟨b, hb, hnext⟩ := hcame (by omega)
      exact heldAt_cons_of_le hfirst hdistinct hb (by omega)
    have hown : (Int.range start (max start (min stop next))).filterMap (heldAt time value limit (a :: l)) =
        (value a).toList.flatMap (fun b => List.replicate
          (min stop (min next (limit a)) - max start (time a)).toNat b) := by
      have hheld : ∀ t, start ≤ t → t < max start (min stop next) → heldAt time value limit (a :: l) t =
          if time a ≤ t ∧ t < limit a then value a else none := by
        intro t hstart hlt
        refine heldAt_cons_of_lt fun b hb => ?_
        have hle := hrest b hb
        omega
      cases hvalue : value a with
      | none =>
        refine filterMap_range_none fun t hstart hlt => ?_
        rw [hheld t hstart hlt, hvalue, ite_self]
      | some b =>
        rw [hvalue] at hheld
        rw [filterMap_range_between hheld]
        have hlength : (min (max start (min stop next)) (limit a) - max start (time a)).toNat =
            (min stop (min next (limit a)) - max start (time a)).toNat := by omega
        rw [hlength]
        simp
    unfold held
    rw [hcut, List.filterMap_append, List.filterMap_append, hearly, hlate, hown, List.nil_append]
  · have hzero : (min stop (min next (limit a)) - max start (time a)).toNat = 0 := by omega
    unfold held
    rw [filterMap_range_none (by omega), filterMap_range_none (by omega), hzero]
    cases value a <;> rfl

end Lists
