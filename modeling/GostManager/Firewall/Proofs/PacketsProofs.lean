import GostManager.Firewall.Packets
import GostManager.Firewall.Proofs.TransitionProofs

/-!
# Proofs: packets during a transition

A rule that does not decide a packet may be left out of the chain. So an unrelated packet only sees the
unmanaged rules, which are the same all the time, and an unwanted packet that sees an end of the
candidate passes its allow rules and is dropped.
-/

namespace Firewall

open Effects Effects.Prog Lists

namespace PacketFilter

variable {F : PacketFilter} {packet : F.Packet} {chain rest : Chain} {r : Request}

/-! ## First match -/

theorem verdict_append_of_none (h : ∀ rule ∈ chain, F.decide rule packet = none) :
    F.verdict (chain ++ rest) packet = F.verdict rest packet := by
  unfold verdict
  rw [List.findSome?_append, List.findSome?_eq_none_iff.2 h, Option.none_or]

theorem verdict_cons_of_some {rule : Rule} {v : Verdict} (h : F.decide rule packet = some v) :
    F.verdict (rule :: chain) packet = v := by
  unfold verdict
  rw [List.findSome?_cons_of_isSome (by rw [h]; rfl), h]
  rfl

theorem verdict_cons_of_none {rule : Rule} (h : F.decide rule packet = none) :
    F.verdict (rule :: chain) packet = F.verdict chain packet :=
  @verdict_append_of_none F packet [rule] chain (by simpa using h)

/-- Marked rules that do not decide a packet do not count. -/
theorem verdict_unmarked {p : Rule → Bool}
    (h : ∀ rule ∈ chain, p rule = true → F.decide rule packet = none) :
    F.verdict (unmarked p chain) packet = F.verdict chain packet := by
  induction chain with
  | nil => rfl
  | cons rule chain ih =>
    have htail := ih fun rule hrule => h rule (.tail _ hrule)
    rw [unmarked_cons]
    by_cases hp : p rule = true
    · rw [if_pos hp, List.nil_append, htail, verdict_cons_of_none (h rule (.head _) hp)]
    · rw [if_neg hp, List.singleton_append]
      cases hd : F.decide rule packet with
      | none => rw [verdict_cons_of_none hd, verdict_cons_of_none hd, htail]
      | some v => rw [verdict_cons_of_some hd, verdict_cons_of_some hd]

/-! ## The rules of a profile -/

theorem Unwanted.not_allowed (h : F.Unwanted r packet) {source : String} (hs : source ∈ r.sources) :
    F.decide (allowRule r.number r.port source) packet = none := by
  rw [F.decide_allowRule, if_neg]
  rintro ⟨-, hfrom, -⟩
  rw [h.source source hs] at hfrom
  cases hfrom

theorem Unwanted.dropped (h : F.Unwanted r packet) :
    F.decide (dropRule r.number r.port) packet = some .drop := by
  rw [F.decide_dropRule, if_pos ⟨h.tcp, h.port⟩]

/-- The rules of a profile decide packets to its port only. -/
theorem decide_candidate (hp : F.port packet ≠ F.portNumber r.port) :
    ∀ rule ∈ r.candidate, F.decide rule packet = none := by
  intro rule hrule
  unfold Request.candidate at hrule
  split at hrule
  · rcases List.mem_append.1 hrule with h | h
    · obtain ⟨source, -, rfl⟩ := List.mem_map.1 h
      rw [F.decide_allowRule, if_neg fun h => hp h.2.2]
    · rw [List.mem_singleton.1 h, F.decide_dropRule, if_neg fun h => hp h.2]
  · cases hrule

/-- An end of the candidate is empty or drops what is not wanted: the drop rule is its last rule, and
the others do not decide the packet. -/
theorem Unwanted.verdict_front (h : F.Unwanted r packet) (he : r.enabled = true) {front : List Rule}
    (hfront : front <:+ r.candidate) : front = [] ∨ F.verdict (front ++ rest) packet = .drop := by
  unfold Request.candidate at hfront
  rw [if_pos he, List.suffix_concat_iff] at hfront
  rcases hfront with rfl | ⟨allowed, rfl, hallowed⟩
  · exact .inl rfl
  · have hnone : ∀ rule ∈ allowed, F.decide rule packet = none := by
      intro rule hrule
      obtain ⟨source, hsource, rfl⟩ := List.mem_map.1 (hallowed.subset hrule)
      exact h.not_allowed hsource
    refine .inr ?_
    rw [List.append_assoc, verdict_append_of_none hnone]
    exact verdict_cons_of_some h.dropped

theorem candidate_ne_nil (he : r.enabled = true) : r.candidate ≠ [] := by
  unfold Request.candidate
  rw [if_pos he]
  exact List.concat_ne_nil _ _

/-! ## A transition -/

section Transition

variable {before : Chain}

/-- The new drop rule comes first and goes last. -/
theorem Unwanted.verdict_staged (h : F.Unwanted r packet) (he : r.enabled = true)
    (hstaged : Staged r.number r.candidate before chain) :
    F.verdict chain packet = .drop ∨ F.verdict chain packet = F.verdict before packet := by
  obtain ⟨front, rest, rfl, hfront, -, hcomplete⟩ := hstaged
  have hends : front = [] ∨ F.verdict (front ++ rest) packet = .drop := h.verdict_front he hfront
  rcases hends with rfl | hdrop
  · rcases hcomplete with rfl | hnil
    · exact .inr rfl
    · exact absurd hnil.symm (candidate_ne_nil he)
  · exact .inl hdrop

/-- An unrelated packet only sees the unmanaged rules. -/
theorem Unrelated.verdict_staged (h : F.Unrelated r before packet)
    (hstaged : Staged r.number r.candidate before chain) :
    F.verdict chain packet = F.verdict before packet := by
  have hold : ∀ rule ∈ before, isManaged r.number rule = true → F.decide rule packet = none := by
    intro rule hrule hm
    by_contra hd
    exact h.old rule hrule hm ⟨packet, rfl, hd⟩
  have hunmanaged := hstaged.unmanaged r.isManaged_candidate
  obtain ⟨front, rest, rfl, hfront, hrest, -⟩ := hstaged
  have hnew : ∀ rule ∈ front ++ rest, isManaged r.number rule = true → F.decide rule packet = none := by
    intro rule hrule hm
    rcases List.mem_append.1 hrule with hrule | hrule
    · exact decide_candidate h.port rule (hfront.subset hrule)
    · exact hold rule (hrest.old rule hrule hm) hm
  calc F.verdict (front ++ rest) packet
      = F.verdict (unmanaged r.number (front ++ rest)) packet := (verdict_unmarked hnew).symm
    _ = F.verdict (unmanaged r.number before) packet := by rw [hunmanaged]
    _ = F.verdict before packet := verdict_unmarked hold

end Transition

end PacketFilter

/-- **Edits fail closed.** At every moment of a transition, whatever commands fail: a packet to the port
of the profile that comes from none of its sources is dropped or gets the verdict it got before, and a
packet to another port, if it is not an old port of the profile, gets the verdict it got before. -/
theorem edits_fail_closed (F : PacketFilter) {r : Request} (he : r.enabled = true) {before chain : Chain}
    (hchain : Intermediate r before chain) (packet : F.Packet) :
    (F.Unwanted r packet →
      F.verdict chain packet = .drop ∨ F.verdict chain packet = F.verdict before packet) ∧
    (F.Unrelated r before packet → F.verdict chain packet = F.verdict before packet) :=
  ⟨fun h => h.verdict_staged he hchain.staged, fun h => h.verdict_staged hchain.staged⟩

/-- A filter that reads the options that the rules of a profile have. -/
def tcpFilter : PacketFilter where
  Packet := TcpPacket
  isTcp _ := true
  comesFrom packet source := packet.source = source
  port packet := packet.port
  portNumber := readNumber
  decide rule packet := matchOptions packet rule
  policy := .accept
  decide_allowRule number text source packet := by
    by_cases hs : packet.source = source <;> by_cases hp : packet.port = readNumber text <;>
      simp [allowRule, matchOptions, hs, hp]
  decide_dropRule number text packet := by
    by_cases hp : packet.port = readNumber text <;> simp [dropRule, matchOptions, hp]

/-- The port is being moved, and the drop rule is already there: who is not a source is dropped or gets
the old verdict, and the port `22` does not notice. -/
theorem edits_fail_closed_firstPort :
    (tcpFilter.verdict (runFor obeying 2 (prepare firstPort) busyChain).2 ⟨"10.0.0.2", 8080⟩ = .drop ∨
      tcpFilter.verdict (runFor obeying 2 (prepare firstPort) busyChain).2 ⟨"10.0.0.2", 8080⟩ =
        tcpFilter.verdict busyChain ⟨"10.0.0.2", 8080⟩) ∧
    tcpFilter.verdict (runFor obeying 2 (prepare firstPort) busyChain).2 ⟨"10.0.0.2", 22⟩ =
      tcpFilter.verdict busyChain ⟨"10.0.0.2", 22⟩ := by
  have hchain : Intermediate firstPort busyChain (runFor obeying 2 (prepare firstPort) busyChain).2 :=
    .prepare (visits_of_obeying _ 2)
  have hp : tcpFilter.portNumber "8080" = 8080 := by decide
  have hunwanted : tcpFilter.Unwanted firstPort ⟨"10.0.0.2", 8080⟩ := by
    refine ⟨rfl, hp.symm, ?_⟩
    decide
  have hunrelated : tcpFilter.Unrelated firstPort busyChain ⟨"10.0.0.2", 22⟩ := by
    refine ⟨?_, ?_⟩
    · show (22 : Nat) ≠ tcpFilter.portNumber "8080"
      rw [hp]
      decide
    · intro rule hrule hm
      -- the only old rule of the profile is for the port 9090
      obtain rfl : rule = dropRule 1 "9090" := by
        revert hm hrule
        revert rule
        decide
      rintro ⟨packet, hport, hd⟩
      have hold : tcpFilter.portNumber "9090" = 9090 := by decide
      rw [tcpFilter.decide_dropRule, if_neg] at hd
      · exact hd rfl
      · rw [hold, hport]
        exact fun h => absurd h.2 (by decide)
  exact ⟨(edits_fail_closed tcpFilter rfl hchain _).1 hunwanted,
    (edits_fail_closed tcpFilter rfl hchain _).2 hunrelated⟩

end Firewall
