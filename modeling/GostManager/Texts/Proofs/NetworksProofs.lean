import GostManager.Effects.Proofs.ExceptProofs
import GostManager.Texts.Networks
import GostManager.Texts.Proofs.ShellProofs
import GostManager.Texts.Proofs.StringsProofs

/-!
# Proofs: networks

A network is read as it is printed.
-/

namespace Texts

variable {text : Text} {network : Ipv4Network} {n k : Nat} {c : Char}

/-! ## Octets -/

theorem le_of_parseOctet (h : parseOctet text = some k) : k ≤ 255 := by
  unfold parseOctet at h
  split at h
  · exact of_decide_eq_true (Option.filter_eq_some_iff.1 h).2
  · cases h

theorem parseIpv4_lt (h : parseIpv4 text = some n) : n < 2 ^ 32 := by
  unfold parseIpv4 at h
  dsimp only at h
  split at h
  · next hlength =>
    obtain ⟨octets, hoctets, rfl⟩ := Option.map_eq_some_iff.1 h
    have hmap := Effects.mapM_eq_some_iff.1 hoctets
    have hlength' : octets.length = 4 := by
      have hlengths := congrArg List.length hmap
      rw [List.length_map, List.length_map, hlength] at hlengths
      exact hlengths.symm
    have hlt : ∀ d ∈ octets, d < 256 := by
      intro d hd
      have hmem : some d ∈ (splitOn '.' text).map parseOctet := hmap ▸ List.mem_map_of_mem hd
      obtain ⟨octet, -, hoctet⟩ := List.mem_map.1 hmem
      exact Nat.lt_succ_of_le (le_of_parseOctet hoctet)
    have hbound := numberOf_lt (by decide) hlt
    rw [hlength'] at hbound
    exact hbound
  · cases h

/-! ## Printing -/

theorem parseOctet_toDigits (h : k < 256) : parseOctet (Nat.toDigits 10 k) = some k := by
  have hall : ∀ k < 256, parseOctet (Nat.toDigits 10 k) = some k := by decide +kernel
  exact hall k h

theorem parsePrefix_toDigits (h : k ≤ 32) : parsePrefix 32 (Nat.toDigits 10 k) = some k := by
  have hall : ∀ k ≤ 32, parsePrefix 32 (Nat.toDigits 10 k) = some k := by decide +kernel
  exact hall k h

theorem not_mem_toDigits (hc : c.isDigit = false) : c ∉ Nat.toDigits 10 k := by
  intro hmem
  rw [Nat.isDigit_of_mem_toDigits (by decide) (by decide) hmem] at hc
  cases hc

theorem parseIpv4_print {address : BitVec 32} :
    parseIpv4 (['.'].intercalate ((Ipv4Network.octets address).map (Nat.toDigits 10))) =
      some address.toNat := by
  have hlt := address.isLt
  have hsplit : splitOn '.' (['.'].intercalate ((Ipv4Network.octets address).map (Nat.toDigits 10))) =
      (Ipv4Network.octets address).map (Nat.toDigits 10) := by
    refine splitOn_intercalate (fun part hpart => ?_) (by simp [Ipv4Network.octets])
    obtain ⟨k, -, rfl⟩ := List.mem_map.1 hpart
    exact not_mem_toDigits (by decide)
  have hoctets : ∀ k ∈ Ipv4Network.octets address, k < 256 := by
    simp only [Ipv4Network.octets, List.forall_mem_cons, List.not_mem_nil, false_implies, implies_true, and_true]
    omega
  have hread : ((Ipv4Network.octets address).map (Nat.toDigits 10)).mapM parseOctet =
      some (Ipv4Network.octets address) := by
    rw [Effects.mapM_eq_some_iff, List.map_map]
    exact List.map_congr_left fun k hk => parseOctet_toDigits (hoctets k hk)
  have hnumber : numberOf 256 (Ipv4Network.octets address) = address.toNat := by
    simp only [numberOf, Ipv4Network.octets, List.foldl_cons, List.foldl_nil]
    omega
  unfold parseIpv4
  dsimp only
  rw [hsplit, if_pos (by simp [Ipv4Network.octets]), hread, Option.map_some, hnumber]

theorem not_mem_print (hc : c.isDigit = false) (hdot : c ≠ '.') (hslash : c ≠ '/') : c ∉ network.print := by
  unfold Ipv4Network.print
  intro hmem
  rcases List.mem_append.1 hmem with hmem | hmem
  · rcases mem_of_mem_intercalate hmem with hmem | ⟨part, hpart, hmem⟩
    · exact hdot (List.mem_singleton.1 hmem)
    · obtain ⟨k, -, rfl⟩ := List.mem_map.1 hpart
      exact not_mem_toDigits hc hmem
  · rcases List.mem_cons.1 hmem with hmem | hmem
    · exact hslash hmem
    · exact not_mem_toDigits hc hmem

theorem print_ne_nil : network.print ≠ [] := by
  unfold Ipv4Network.print
  exact List.append_ne_nil_of_right_ne_nil _ (List.cons_ne_nil _ _)

/-- A network is read as it is printed. -/
theorem parseIpv4Network_print : parseIpv4Network network.print = some network := by
  have haddress : '/' ∉ ['.'].intercalate ((Ipv4Network.octets network.address).map (Nat.toDigits 10)) := by
    intro hmem
    rcases mem_of_mem_intercalate hmem with hmem | ⟨part, hpart, hmem⟩
    · exact absurd (List.mem_singleton.1 hmem) (by decide)
    · obtain ⟨k, -, rfl⟩ := List.mem_map.1 hpart
      exact not_mem_toDigits (by decide) hmem
  have hprefix : '/' ∉ Nat.toDigits 10 network.prefixlen := not_mem_toDigits (by decide)
  have hsplit : splitOn '/' network.print =
      [['.'].intercalate ((Ipv4Network.octets network.address).map (Nat.toDigits 10)),
        Nat.toDigits 10 network.prefixlen] := by
    unfold Ipv4Network.print splitOn
    rw [splitOnFrom_append, splitOnFrom_of_not_mem haddress, splitOn, splitOnFrom_of_not_mem hprefix]
    rfl
  unfold parseIpv4Network
  rw [hsplit]
  simp only [parseIpv4_print, parsePrefix_toDigits network.prefixlen_le, Option.some_or, Option.bind_eq_bind,
    Option.bind_some, network.prefixlen_le, dite_true, BitVec.ofNat_toNat, BitVec.setWidth_eq]
  rw [Option.some.injEq]
  unfold Ipv4Network.ofAddress
  cases network
  simp_all

end Texts
