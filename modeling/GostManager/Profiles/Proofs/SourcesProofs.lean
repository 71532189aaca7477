import GostManager.Lists.Proofs.CanonicalProofs
import GostManager.Profiles.Sources
import GostManager.Profiles.Proofs.MappingsProofs
import GostManager.Texts.Proofs.NetworksProofs

/-!
# Proofs: canonical sources

The manager and the collector bring sources into the same canonical form. It lists the networks of the sources
in ascending order, and does not depend on the order of the sources or on how often they are named.
-/

namespace Profiles

open Texts Lists

variable {raw out part : Text} {parts parts' : List Text} {networks networks' : List Ipv4Network}
  {network : Ipv4Network} {values : List (Text × Text)} {texts : List Text}

/-! ## Parts -/

theorem allowedSource_eq_ok : allowedSource part = .ok network ↔ sourceNetwork part = some network := by
  unfold allowedSource sourceNetwork
  cases ipNetwork part with
  | none => exact ⟨nofun, nofun⟩
  | some found =>
    cases found with
    | v6 text => exact ⟨nofun, nofun⟩
    | v4 found =>
      dsimp only
      split
      · exact ⟨nofun, nofun⟩
      · rw [Except.ok.injEq, Option.some.injEq]

theorem sourceNetwork_eq_some : sourceNetwork part = some network ↔
    ipNetwork part = some (.v4 network) ∧ 8 ≤ network.prefixlen := by
  unfold sourceNetwork
  cases ipNetwork part with
  | none => exact ⟨nofun, fun h => nomatch h.1⟩
  | some found =>
    cases found with
    | v6 text => exact ⟨nofun, fun h => nomatch h.1⟩
    | v4 found =>
      dsimp only
      rw [Option.some.injEq, Network.v4.injEq]
      constructor
      · intro h
        split at h
        · cases h
        · obtain rfl := Option.some.inj h
          exact ⟨rfl, by omega⟩
      · rintro ⟨rfl, h⟩
        rw [if_neg (by omega)]

/-- A network that is printed is read as a source. -/
theorem sourceNetwork_print (h : 8 ≤ network.prefixlen) : sourceNetwork network.print = some network := by
  refine sourceNetwork_eq_some.2 ⟨?_, h⟩
  unfold ipNetwork
  rw [parseIpv4Network_print]

/-- The parts of a list of sources that is taken. -/
structure AreSources (parts : List Text) (networks : List Ipv4Network) : Prop where
  count : parts.length ≤ 64
  nonempty : [] ∉ parts
  space : ∀ part ∈ parts, ∀ c ∈ part, isspace c = false
  networks : parts.mapM sourceNetwork = some networks

theorem any_isspace_iff : raw.any isspace = true ↔ ∃ part ∈ splitOn ',' raw, ∃ c ∈ part, isspace c = true := by
  rw [List.any_eq_true]
  constructor
  · rintro ⟨c, hc, hspace⟩
    have hcomma : c ≠ ',' := by
      rintro rfl
      exact absurd hspace (by decide)
    obtain ⟨part, hpart, hmem⟩ := exists_mem_splitOn hc hcomma
    exact ⟨part, hpart, c, hmem, hspace⟩
  · rintro ⟨part, hpart, c, hc, hspace⟩
    exact ⟨c, mem_of_mem_splitOn hpart hc, hspace⟩

/-- What `canonicalize_allowed_sources` prints. -/
theorem canonicalizeAllowedSources_eq_some : canonicalizeAllowedSources raw = some out ↔
    ∃ networks, AreSources (splitOn ',' raw) networks ∧ out = printNetworks (canonical networks) := by
  unfold canonicalizeAllowedSources
  split
  · next hbad =>
    refine ⟨nofun, fun ⟨networks, hsources, _⟩ => ?_⟩
    rcases hbad with rfl | hspace
    · exact absurd (List.mem_singleton_self []) hsources.nonempty
    · obtain ⟨part, hpart, c, hc, hc'⟩ := any_isspace_iff.1 hspace
      rw [hsources.space part hpart c hc] at hc'
      cases hc'
  · next hgood =>
    dsimp only
    split
    · next hbad =>
      refine ⟨nofun, fun ⟨networks, hsources, _⟩ => ?_⟩
      rcases hbad with hcount | hnil
      · exact absurd hsources.count (by omega)
      · exact absurd hnil hsources.nonempty
    · next hparts =>
      have hspace : ∀ part ∈ splitOn ',' raw, ∀ c ∈ part, isspace c = false := by
        intro part hpart c hc
        refine Bool.eq_false_iff.2 fun hc' => hgood (.inr (any_isspace_iff.2 ⟨part, hpart, c, hc, hc'⟩))
      rw [Option.map_eq_some_iff]
      refine exists_congr fun networks => and_congr ?_ eq_comm
      exact ⟨fun h => ⟨by omega, fun hnil => hparts (.inr hnil), hspace, h⟩, fun h => h.networks⟩

/-- What `canonical_allowed_sources` returns for a source string. -/
theorem canonicalAllowedSources_eq_ok (hraw : raw ≠ [])
    (hvalues : get values Key.iranIp = raw ∧ get values Key.allowedIranSources = [] ∨
      get values Key.allowedIranSources = raw ∧ get values Key.iranIp = []) :
    canonicalAllowedSources values = .ok texts ↔
      ∃ networks, AreSources (splitOn ',' raw) networks ∧ texts = (canonical networks).map (·.print) := by
  have hstyle : ¬ (get values Key.iranIp ≠ [] ∧ get values Key.allowedIranSources ≠ []) := by tauto
  have hvalue : (if get values Key.allowedIranSources ≠ [] then get values Key.allowedIranSources
      else get values Key.iranIp) = raw := by
    rcases hvalues with ⟨rfl, hnil⟩ | ⟨rfl, -⟩
    · exact if_neg (by simp [hnil])
    · exact if_pos hraw
  unfold canonicalAllowedSources
  dsimp only
  rw [if_neg hstyle, hvalue, if_neg hraw]
  split
  · next hspace =>
    refine ⟨nofun, fun ⟨networks, hsources, _⟩ => ?_⟩
    obtain ⟨part, hpart, c, hc, hc'⟩ := any_isspace_iff.1 hspace
    rw [hsources.space part hpart c hc] at hc'
    cases hc'
  · next hgood =>
    split
    · next hbad =>
      refine ⟨nofun, fun ⟨networks, hsources, _⟩ => ?_⟩
      rcases hbad with hcount | hnil
      · exact absurd hsources.count (by omega)
      · exact absurd hnil hsources.nonempty
    · next hparts =>
      have hspace : ∀ part ∈ splitOn ',' raw, ∀ c ∈ part, isspace c = false := by
        intro part hpart c hc
        refine Bool.eq_false_iff.2 fun hc' => hgood (any_isspace_iff.2 ⟨part, hpart, c, hc, hc'⟩)
      have hread : ∀ networks, (splitOn ',' raw).mapM allowedSource = .ok networks ↔
          (splitOn ',' raw).mapM sourceNetwork = some networks := fun networks =>
        Effects.mapM_ok_iff_mapM_some fun part network => allowedSource_eq_ok
      rw [ok_bind]
      refine exists_congr fun networks => and_congr ((hread networks).trans ?_) ?_
      · exact ⟨fun h => ⟨by omega, fun hnil => hparts (.inr hnil), hspace, h⟩, fun h => h.networks⟩
      · exact ⟨fun h => (Except.ok.inj h).symm, fun h => h ▸ rfl⟩

/-! ## The canonical form -/

theorem mem_of_areSources (h : AreSources parts networks) :
    network ∈ networks ↔ ∃ part ∈ parts, sourceNetwork part = some network := by
  have hmap := Effects.mapM_eq_some_iff.1 h.networks
  constructor
  · intro hmem
    have hsome : some network ∈ parts.map sourceNetwork := hmap ▸ List.mem_map_of_mem hmem
    exact List.mem_map.1 hsome
  · rintro ⟨part, hpart, hsome⟩
    have hmem : some network ∈ networks.map some := hmap ▸ List.mem_map.2 ⟨part, hpart, hsome⟩
    obtain ⟨found, hfound, heq⟩ := List.mem_map.1 hmem
    exact Option.some.inj heq ▸ hfound

theorem length_of_areSources (h : AreSources parts networks) : networks.length = parts.length := by
  have hlength := congrArg List.length (Effects.mapM_eq_some_iff.1 h.networks)
  rw [List.length_map, List.length_map] at hlength
  exact hlength.symm

theorem ne_nil_of_areSources (h : AreSources parts networks) (hparts : parts ≠ []) : canonical networks ≠ [] := by
  obtain ⟨part, hpart⟩ := List.exists_mem_of_ne_nil parts hparts
  have hsome : sourceNetwork part ∈ networks.map some :=
    Effects.mapM_eq_some_iff.1 h.networks ▸ List.mem_map_of_mem hpart
  obtain ⟨network, hnetwork, -⟩ := List.mem_map.1 hsome
  exact List.ne_nil_of_mem (mem_canonical.2 hnetwork)

theorem comma_not_mem_print : ',' ∉ network.print := not_mem_print (by decide) (by decide) (by decide)

theorem splitOn_printNetworks (h : networks ≠ []) :
    splitOn ',' (printNetworks networks) = networks.map (·.print) := by
  refine splitOn_intercalate (fun part hpart => ?_) (by simpa using h)
  obtain ⟨network, -, rfl⟩ := List.mem_map.1 hpart
  exact comma_not_mem_print

/-- The canonical form of sources is a list of sources for the same networks. -/
theorem areSources_canonical (h : AreSources parts networks) :
    AreSources ((canonical networks).map (·.print)) (canonical networks) where
  count := by
    have hle : (canonical networks).length ≤ networks.length := length_canonical_le
    have hlength := length_of_areSources h
    have hcount := h.count
    rw [List.length_map]
    omega
  nonempty := by
    intro hnil
    obtain ⟨network, -, heq⟩ := List.mem_map.1 hnil
    exact print_ne_nil heq
  space := by
    intro part hpart c hc
    obtain ⟨network, -, rfl⟩ := List.mem_map.1 hpart
    refine Bool.eq_false_iff.2 fun hspace => ?_
    have hdigit : c.isDigit = false := by
      refine Bool.eq_false_iff.2 fun hdigit => ?_
      rw [isspace_of_isValueChar (isValueChar_of_isDigit hdigit)] at hspace
      cases hspace
    refine not_mem_print hdigit ?_ ?_ hc
    · rintro rfl
      exact absurd hspace (by decide)
    · rintro rfl
      exact absurd hspace (by decide)
  networks := by
    rw [Effects.mapM_eq_some_iff, List.map_map]
    refine List.map_congr_left fun network hnetwork => sourceNetwork_print ?_
    obtain ⟨part, -, hsome⟩ := (mem_of_areSources h).1 (mem_canonical.1 hnetwork)
    exact (sourceNetwork_eq_some.1 hsome).2

theorem print_injective : Function.Injective Ipv4Network.print := by
  intro network network' h
  have hread : parseIpv4Network network.print = some network := parseIpv4Network_print
  rw [h, parseIpv4Network_print] at hread
  exact (Option.some.inj hread).symm

/-- Parts that are the same, in whatever order and however often, are sources together. -/
theorem areSources_congr (hmem : ∀ part, part ∈ parts' ↔ part ∈ parts) (hcount : parts'.length ≤ 64)
    (h : AreSources parts networks) : ∃ networks', AreSources parts' networks' ∧
      canonical networks' = canonical networks := by
  have hsome : ∀ part ∈ parts', ∃ network, sourceNetwork part = some network := by
    intro part hpart
    have hmap : sourceNetwork part ∈ networks.map some :=
      Effects.mapM_eq_some_iff.1 h.networks ▸ List.mem_map_of_mem ((hmem part).1 hpart)
    obtain ⟨network, -, heq⟩ := List.mem_map.1 hmap
    exact ⟨network, heq.symm⟩
  have hread : ∃ networks', parts'.mapM sourceNetwork = some networks' := by
    refine ⟨parts'.filterMap sourceNetwork, Effects.mapM_eq_some_iff.2 ?_⟩
    clear hmem hcount
    induction parts' with
    | nil => rfl
    | cons part parts' ih =>
      rw [List.forall_mem_cons] at hsome
      obtain ⟨⟨network, hnetwork⟩, hrest⟩ := hsome
      rw [List.filterMap_cons_some hnetwork, List.map_cons, List.map_cons, hnetwork, ih hrest]
  obtain ⟨networks', hnetworks'⟩ := hread
  have hsources : AreSources parts' networks' :=
    ⟨hcount, fun hnil => h.nonempty ((hmem []).1 hnil), fun part hpart => h.space part ((hmem part).1 hpart),
      hnetworks'⟩
  refine ⟨networks', hsources, canonical_congr fun network => ?_⟩
  rw [mem_of_areSources hsources, mem_of_areSources h]
  exact exists_congr fun part => and_congr_left fun _ => hmem part

theorem network_lt_iff {network' : Ipv4Network} : network < network' ↔
    network.address < network'.address ∨
      network.address = network'.address ∧ network.prefixlen < network'.prefixlen := by
  have hkey : network < network' ↔ network.key < network'.key := Iff.rfl
  rw [hkey, Ipv4Network.key, Ipv4Network.key, Prod.Lex.toLex_lt_toLex, BitVec.lt_def, BitVec.toNat_inj]

theorem isCanonical_of_areSources (h : AreSources (splitOn ',' raw) networks) :
    IsCanonical raw (printNetworks (canonical networks)) (canonical networks) := by
  have hsplit := splitOn_printNetworks (ne_nil_of_areSources h splitOn_ne_nil)
  refine ⟨rfl, ?_, ?_, fun address => ?_, ?_⟩
  · exact sortedLT_canonical.pairwise.imp fun hlt => network_lt_iff.1 hlt
  · rw [hsplit]
    exact nodup_canonical.map print_injective
  · constructor
    · rintro ⟨network, hnetwork, hcontains⟩
      obtain ⟨part, hpart, hsome⟩ := (mem_of_areSources h).1 (mem_canonical.1 hnetwork)
      exact ⟨part, hpart, network, (sourceNetwork_eq_some.1 hsome).1, hcontains⟩
    · rintro ⟨part, hpart, network, hread, hcontains⟩
      have hmap : sourceNetwork part ∈ networks.map some :=
        Effects.mapM_eq_some_iff.1 h.networks ▸ List.mem_map_of_mem hpart
      obtain ⟨found, hfound, heq⟩ := List.mem_map.1 hmap
      have hread' := (sourceNetwork_eq_some.1 heq.symm).1
      obtain rfl : network = found := by
        rw [hread] at hread'
        exact Network.v4.inj (Option.some.inj hread')
      exact ⟨network, mem_canonical.2 hfound, hcontains⟩
  · refine canonicalizeAllowedSources_eq_some.2 ⟨canonical networks, ?_, ?_⟩
    · rw [hsplit]
      exact areSources_canonical h
    · rw [canonical_eq_self sortedLT_canonical]

/-- The two readers of sources give one list, which is canonical and which the same parts give again. -/
theorem canonical_sources :
    (raw ≠ [] → ∀ values, get values Key.iranIp = raw ∧ get values Key.allowedIranSources = [] ∨
        get values Key.allowedIranSources = raw ∧ get values Key.iranIp = [] →
      ∀ texts, canonicalAllowedSources values = .ok texts ↔
        ∃ out, canonicalizeAllowedSources raw = some out ∧ texts = splitOn ',' out) ∧
      (∀ out, canonicalizeAllowedSources raw = some out → ∃ networks, IsCanonical raw out networks) ∧
      ∀ parts, (∀ part, part ∈ parts ↔ part ∈ splitOn ',' raw) → parts.length ≤ 64 →
        (splitOn ',' raw).length ≤ 64 →
        canonicalizeAllowedSources ([','].intercalate parts) = canonicalizeAllowedSources raw := by
  refine ⟨fun hraw values hvalues texts => ?_, fun out hout => ?_, fun parts hmem hcount hcount' => ?_⟩
  · rw [canonicalAllowedSources_eq_ok hraw hvalues]
    constructor
    · rintro ⟨networks, hsources, rfl⟩
      have hsplit := splitOn_printNetworks (ne_nil_of_areSources hsources splitOn_ne_nil)
      exact ⟨_, canonicalizeAllowedSources_eq_some.2 ⟨networks, hsources, rfl⟩, hsplit.symm⟩
    · rintro ⟨out, hout, rfl⟩
      obtain ⟨networks, hsources, rfl⟩ := canonicalizeAllowedSources_eq_some.1 hout
      exact ⟨networks, hsources, splitOn_printNetworks (ne_nil_of_areSources hsources splitOn_ne_nil)⟩
  · obtain ⟨networks, hsources, rfl⟩ := canonicalizeAllowedSources_eq_some.1 hout
    exact ⟨canonical networks, isCanonical_of_areSources hsources⟩
  · have hsplit : splitOn ',' ([','].intercalate parts) = parts := by
      refine splitOn_intercalate (fun part hpart => not_mem_of_mem_splitOn ((hmem part).1 hpart)) ?_
      obtain ⟨part, hpart⟩ : ∃ part, part ∈ splitOn ',' raw := List.exists_mem_of_ne_nil _ splitOn_ne_nil
      exact List.ne_nil_of_mem ((hmem part).2 hpart)
    refine Option.ext fun out => ?_
    rw [canonicalizeAllowedSources_eq_some, canonicalizeAllowedSources_eq_some, hsplit]
    constructor
    · rintro ⟨networks, hsources, rfl⟩
      obtain ⟨networks', hsources', hsame⟩ := areSources_congr (fun part => (hmem part).symm) hcount' hsources
      exact ⟨networks', hsources', by rw [hsame]⟩
    · rintro ⟨networks, hsources, rfl⟩
      obtain ⟨networks', hsources', hsame⟩ := areSources_congr hmem hcount hsources
      exact ⟨networks', hsources', by rw [hsame]⟩

/-- Without sources the collector has an empty list, and the program of the manager fails. -/
theorem not_canonical_sources : ¬ ∀ raw values, get values Key.allowedIranSources = raw ∧ get values Key.iranIp = [] →
    ((canonicalizeAllowedSources raw).isSome = true ↔ (canonicalAllowedSources values).toBool = true) := by
  intro h
  have hempty := (h [] [] ⟨rfl, rfl⟩).2 (by decide)
  exact absurd hempty (by decide)

end Profiles
