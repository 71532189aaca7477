import GostManager.Texts.Proofs.StringsProofs
import GostManager.Monitoring.Proofs.CollectionProofs
import GostManager.Monitoring.Measurements

/-!
# Proofs: cached values

The text of an identity determines it, each function keeps that the entries were measured in some cycle, and
an entry that is reported was measured in an earlier one, since a cycle that measures reads no entries.
-/

namespace Monitoring.Readers

open Effects (bind_eq_ok mem_of_mapM)
open Texts

/-! ## Identities -/

/-- The text of a process in an identity. -/
def memberText (member : Int × Int) : Text :=
  (toString member.1).toList ++ ':' :: (toString member.2).toList

theorem mem_memberText {member : Int × Int} {c : Char} (hc : c ∈ memberText member) :
    c = '-' ∨ c = ':' ∨ c.isDigit := by
  rcases List.mem_append.mp hc with hc | hc
  · exact (mem_numeral hc).imp_right .inr
  · rcases List.mem_cons.mp hc with rfl | hc
    · exact .inr (.inl rfl)
    · exact (mem_numeral hc).imp_right .inr

theorem memberText_inj {member member' : Int × Int} (h : memberText member = memberText member') :
    member = member' := by
  have hcolon : ∀ n : Int, ':' ∉ (toString n).toList := by
    intro n hn
    rcases mem_numeral hn with hn | hn <;> exact absurd hn (by decide)
  obtain ⟨hpid, hstart⟩ := append_separator_inj (hcolon _) (hcolon _) h
  exact Prod.ext (numeral_inj hpid) (numeral_inj hstart)

theorem ProcessIdentity.text_eq (i : ProcessIdentity) :
    i.text = i.startIdentity ++ '|' :: [','].intercalate (i.members.map memberText) := by
  have hmembers : i.members.map (String.toList ∘ fun member =>
      toString member.1 ++ ":" ++ toString member.2) = i.members.map memberText :=
    List.map_congr_left fun member _ => by simp [memberText]
  rw [ProcessIdentity.text, String.toList_intercalate, List.map_map, List.append_assoc, hmembers]
  rfl

theorem ProcessIdentity.text_inj {i i' : ProcessIdentity} (h : i.text = i'.text) : i = i' := by
  rw [text_eq, text_eq] at h
  have hbar : ∀ members : List (Int × Int), '|' ∉ [','].intercalate (members.map memberText) := by
    intro members hmem
    rcases mem_of_mem_intercalate hmem with hmem | ⟨part, hpart, hmem⟩
    · exact absurd hmem (by decide)
    · obtain ⟨member, _, rfl⟩ := List.mem_map.mp hpart
      rcases mem_memberText hmem with h | h | h <;> exact absurd h (by decide)
  obtain ⟨hstart, hmembers⟩ := append_separator_inj (hbar _) (hbar _) h
  have hparts : ∀ members : List (Int × Int), ∀ part ∈ members.map memberText, ',' ∉ part ∧ part ≠ [] := by
    intro members part hpart
    obtain ⟨member, _, rfl⟩ := List.mem_map.mp hpart
    refine ⟨fun hcomma => ?_, by simp [memberText]⟩
    rcases mem_memberText hcomma with h | h | h <;> exact absurd h (by decide)
  have hmap := intercalate_inj (hparts _) (hparts _) hmembers
  have hinj : Function.Injective memberText := fun _ _ => memberText_inj
  cases i
  cases i'
  exact congr (congrArg _ hstart) (hinj.list_map hmap)

/-! ## Entries that were measured -/

/-- Each entry holds what one of the cycles has measured, and the identity that it has found. -/
structure Caches.Measured (cycles : List Cycle) (caches : Caches) : Prop where
  serviceSockets : ∀ service entry, caches.serviceSockets service = some entry → ∃ c ∈ cycles,
    (c.identity service).map ProcessIdentity.text = some entry.identity ∧
      c.measuredStates service = some entry.states ∧ entry.established = entry.states .estab
  tunnelSockets : ∀ tunnelId entry, caches.tunnelSockets tunnelId = some entry → ∃ c ∈ cycles,
    ∃ tunnel ∈ c.tunnels, tunnel.tunnelId = tunnelId ∧ tunnel.remoteEndpoint = entry.endpoint ∧
      (c.identity tunnel.serviceName).map ProcessIdentity.text = some entry.identity ∧
      c.measuredRemote tunnel = some entry.value
  processSlow : ∀ service entry, caches.processSlow service = some entry → ∃ c ∈ cycles,
    (c.identity service).map ProcessIdentity.members = some entry.identity ∧
      c.measuredSlow service = some entry.values
  cgroupMemory : ∀ service entry, caches.cgroupMemory service = some entry → ∃ c ∈ cycles,
    (c.identity service).map ProcessIdentity.text = some entry.identity ∧
      c.measuredMemory service = some entry.values

variable {c : Cycle} {cycles : List Cycle} {caches : Caches} {service : String}
  {captured : ServiceCapture} {m : Metric} {v : MetricValue}

theorem Caches.Measured.empty : Caches.empty.Measured cycles := by
  refine ⟨?_, ?_, ?_, ?_⟩ <;> intro _ _ h <;> cases h

theorem Caches.Measured.mono {cycles' : List Cycle} (h : caches.Measured cycles)
    (hsub : ∀ c ∈ cycles, c ∈ cycles') : caches.Measured cycles' where
  serviceSockets service entry hentry := by
    obtain ⟨c, hc, hmeasured⟩ := h.serviceSockets service entry hentry
    exact ⟨c, hsub c hc, hmeasured⟩
  tunnelSockets tunnelId entry hentry := by
    obtain ⟨c, hc, hmeasured⟩ := h.tunnelSockets tunnelId entry hentry
    exact ⟨c, hsub c hc, hmeasured⟩
  processSlow service entry hentry := by
    obtain ⟨c, hc, hmeasured⟩ := h.processSlow service entry hentry
    exact ⟨c, hsub c hc, hmeasured⟩
  cgroupMemory service entry hentry := by
    obtain ⟨c, hc, hmeasured⟩ := h.cgroupMemory service entry hentry
    exact ⟨c, hsub c hc, hmeasured⟩

/-- Two cycles whose identities have the same text have the same identity. -/
theorem Cycle.sameIdentity_of_text {c' : Cycle} {text : Text}
    (h : (c.identity service).map ProcessIdentity.text = some text)
    (h' : (c'.identity service).map ProcessIdentity.text = some text) : c.SameIdentity c' service := by
  obtain ⟨i, hi, htext⟩ := Option.map_eq_some_iff.mp h
  obtain ⟨i', hi', htext'⟩ := Option.map_eq_some_iff.mp h'
  have hsame := ProcessIdentity.text_inj (htext.trans htext'.symm)
  subst hsame
  exact ⟨i, hi, hi'⟩

/-- A table after an entry is stored. -/
theorem update_some {β : Type} {table : String → Option β} {key key' : String} {entry entry' : β}
    (h : Function.update table key (some entry) key' = some entry') :
    (key' = key ∧ entry' = entry) ∨ table key' = some entry' := by
  by_cases hkey : key' = key
  · subst hkey
    rw [Function.update_self] at h
    exact .inl ⟨rfl, (Option.some.inj h).symm⟩
  · rw [Function.update_of_ne hkey] at h
    exact .inr h

theorem Cycle.fullRecords_of_due (c : Cycle) :
    (if c.fullSocketDue then c.fullRecords else none) = c.fullRecords := by
  unfold Cycle.fullRecords
  split <;> rfl

/-! ## Sockets of services -/

/-- What is reported of the sockets of a service, and what is stored. -/
theorem Caches.serviceSocketMetrics_cases (c : Cycle) (caches : Caches) (service : String) (pids : List Int) (authoritative : Bool)
    (identity : Option Text) :
    (pids ≠ [] ∧ authoritative ∧ ∃ records, c.fullRecords = some records ∧
      caches.serviceSocketMetrics service pids authoritative identity c.fullSocketDue c.fullRecords =
        (socketMetrics service (countState records pids .estab) (countState records pids) .exact,
          match identity with
          | none => caches
          | some identity =>
            { caches with
              serviceSockets := Function.update caches.serviceSockets service
                (some ⟨identity, countState records pids .estab, countState records pids⟩) })) ∨
    (pids ≠ [] ∧ authoritative ∧ c.fullRecords = none ∧ ∃ cached, caches.serviceSockets service = some cached ∧
      identity = some cached.identity ∧
      caches.serviceSocketMetrics service pids authoritative identity c.fullSocketDue c.fullRecords =
        (socketMetrics service cached.established cached.states .estimated, caches)) ∨
    caches.serviceSocketMetrics service pids authoritative identity c.fullSocketDue c.fullRecords =
      (socketMetrics service none (fun _ => none) .unavailable, caches) := by
  unfold Caches.serviceSocketMetrics
  rw [c.fullRecords_of_due]
  by_cases hpids : pids ≠ [] ∧ authoritative
  · have hmatch : (decide (pids ≠ []) && authoritative) = true := by simpa using hpids
    rw [hmatch]
    cases hrecords : c.fullRecords with
    | some records => exact .inl ⟨hpids.1, hpids.2, records, rfl, rfl⟩
    | none =>
      cases identity with
      | none => exact .inr (.inr rfl)
      | some identity =>
        cases hcached : caches.serviceSockets service with
        | none =>
          exact .inr (.inr rfl)
        | some cached =>
          by_cases hsame : cached.identity = identity
          · refine .inr (.inl ⟨hpids.1, hpids.2, rfl, cached, rfl, by rw [hsame], ?_⟩)
            simp only [if_pos hsame]
          · refine .inr (.inr ?_)
            simp only [if_neg hsame]
  · have hmatch : (decide (pids ≠ []) && authoritative) = false := by
      rw [Bool.eq_false_iff]
      simpa using hpids
    rw [hmatch]
    exact .inr (.inr rfl)

theorem Cycle.measuredStates_of_captured {records : List SocketRecord}
    (hcaptured : c.captured service = some captured) (hrecords : c.fullRecords = some records)
    (hpids : captured.pidSet.pids ≠ []) (hauthoritative : captured.pidSet.authoritative) :
    c.measuredStates service = some (countState records captured.pidSet.pids) := by
  simp only [measuredStates, hcaptured, hrecords, Option.bind_eq_bind, Option.bind_some,
    if_pos (And.intro hpids hauthoritative)]

theorem Caches.Measured.serviceSocketMetrics (h : caches.Measured cycles) (hc : c ∈ cycles)
    (hcaptured : c.captured service = some captured) :
    (caches.serviceSocketMetrics service captured.pidSet.pids captured.pidSet.authoritative
      ((c.identity service).map ProcessIdentity.text) c.fullSocketDue c.fullRecords).2.Measured cycles := by
  rcases Caches.serviceSocketMetrics_cases c caches service captured.pidSet.pids
    captured.pidSet.authoritative ((c.identity service).map ProcessIdentity.text) with
    ⟨hpids, hauthoritative, records, hrecords, hresult⟩ | ⟨_, _, _, _, _, _, hresult⟩ | hresult
  · rw [hresult]
    cases hidentity : (c.identity service).map ProcessIdentity.text with
    | none => exact h
    | some text =>
      refine { h with serviceSockets := fun service' entry hentry => ?_ }
      rcases update_some hentry with ⟨rfl, rfl⟩ | hentry
      · exact ⟨c, hc, hidentity,
          c.measuredStates_of_captured hcaptured hrecords hpids hauthoritative, rfl⟩
      · exact h.serviceSockets service' entry hentry
  · rw [hresult]
    exact h
  · rw [hresult]
    exact h

/-- A metric of sockets with a value counts a state. -/
theorem of_mem_socketMetrics {established : Option Nat} {states : TcpSocketState → Option Nat}
    {quality : Quality} (hm : m ∈ socketMetrics service established states quality)
    (hestablished : established = states .estab) (hv : m.value = some v) :
    m.quality = quality ∧ ∃ state n, states state = some n ∧ v = .integer n ∧ m.name ∈ state.metricNames := by
  have hmetric : ∀ name value, m = socketMetric service name value quality →
      m.quality = quality ∧ ∃ n, value = some n ∧ v = .integer n ∧ m.name = name := by
    rintro name value rfl
    obtain ⟨n, rfl, hn⟩ := Option.map_eq_some_iff.mp hv
    exact ⟨rfl, n, rfl, hn.symm, rfl⟩
  rcases List.mem_cons.mp hm with hm | hm
  · obtain ⟨hquality, n, hn, hvalue, hname⟩ := hmetric _ _ hm
    exact ⟨hquality, .estab, n, hestablished ▸ hn, hvalue, hname ▸ List.mem_cons_self⟩
  · obtain ⟨state, _, hstate⟩ := List.mem_map.mp hm
    obtain ⟨hquality, n, hn, hvalue, hname⟩ := hmetric _ _ hstate.symm
    refine ⟨hquality, state, n, hn, hvalue, ?_⟩
    rw [hname]
    cases state <;> simp [TcpSocketState.metricNames]

/-- A cached count of sockets was measured in a cycle that has found the same processes. -/
theorem Caches.Measured.of_serviceSocketMetrics (h : caches.Measured cycles)
    (hm : m ∈ (caches.serviceSocketMetrics service captured.pidSet.pids captured.pidSet.authoritative
      ((c.identity service).map ProcessIdentity.text) c.fullSocketDue c.fullRecords).1)
    (hquality : m.quality = .estimated) (hv : m.value = some v) :
    captured.pidSet.authoritative ∧ c.fullRecords = none ∧ ∃ earlier ∈ cycles,
      earlier.SameIdentity c service ∧ ∃ states, earlier.measuredStates service = some states ∧
        ∃ state n, states state = some n ∧ v = .integer n ∧ m.name ∈ state.metricNames := by
  rcases Caches.serviceSocketMetrics_cases c caches service captured.pidSet.pids
    captured.pidSet.authoritative ((c.identity service).map ProcessIdentity.text) with
    ⟨_, _, records, _, hresult⟩ | ⟨_, hauthoritative, hrecords, cached, hcached, hidentity, hresult⟩ |
    hresult
  · rw [hresult] at hm
    have hexact := (of_mem_socketMetrics hm rfl hv).1
    rw [hexact] at hquality
    cases hquality
  · rw [hresult] at hm
    obtain ⟨earlier, hearlier, hsame, hstates, hestablished⟩ := h.serviceSockets service cached hcached
    obtain ⟨_, hcounted⟩ := of_mem_socketMetrics hm hestablished hv
    exact ⟨hauthoritative, hrecords, earlier, hearlier, Cycle.sameIdentity_of_text hsame hidentity,
      cached.states, hstates, hcounted⟩
  · rw [hresult] at hm
    obtain ⟨_, _, _, hnone, _⟩ := of_mem_socketMetrics hm rfl hv
    cases hnone

/-! ## Sockets of tunnels -/

/-- The entries after the sockets of a tunnel are stored, if it has an identity. -/
def Caches.withTunnelSockets (caches : Caches) (tunnel : Tunnel) (value : Nat) : Option Text → Caches
  | none => caches
  | some identity =>
    { caches with
      tunnelSockets := Function.update caches.tunnelSockets tunnel.tunnelId
        (some ⟨identity, tunnel.remoteEndpoint, value⟩) }

/-- What is reported of the sockets of a tunnel, and what is stored. -/
theorem Caches.tunnelRemoteSocketMetric_cases {tunnel : Tunnel} {pids : List Int} {authoritative : Bool}
    {identity : Option Text} {metric : Metric} {after : Caches}
    (h : caches.tunnelRemoteSocketMetric c.sources.digits tunnel pids authoritative identity
      c.fullSocketDue c.fullRecords = .ok (metric, after)) :
    (pids ≠ [] ∧ authoritative ∧ ∃ host port records value,
      numericRemoteEndpoint c.sources.digits tunnel.remoteEndpoint = .ok (some (host, port)) ∧
      c.fullRecords = some records ∧ establishedRemoteSocketCount records pids host port = some value ∧
      metric = remoteSocketMetric tunnel (some value) .exact ∧
      after = caches.withTunnelSockets tunnel value identity) ∨
    (pids ≠ [] ∧ authoritative ∧ c.fullRecords = none ∧ ∃ cached,
      caches.tunnelSockets tunnel.tunnelId = some cached ∧ identity = some cached.identity ∧
      cached.endpoint = tunnel.remoteEndpoint ∧
      metric = remoteSocketMetric tunnel (some cached.value) .estimated ∧ after = caches) ∨
    (metric = remoteSocketMetric tunnel none .unavailable ∧ after = caches) := by
  obtain ⟨endpoint, hendpoint, h⟩ := bind_eq_ok.1 h
  rw [c.fullRecords_of_due] at h
  rcases endpoint with _ | ⟨host, port⟩
  · cases h
    exact .inr (.inr ⟨rfl, rfl⟩)
  by_cases hpids : pids ≠ [] ∧ authoritative
  · have hmatch : (decide (pids ≠ []) && authoritative) = true := by simpa using hpids
    rw [hmatch] at h
    cases hrecords : c.fullRecords with
    | some records =>
      rw [hrecords] at h
      cases hcount : establishedRemoteSocketCount records pids host port with
      | none =>
        simp only [hcount] at h
        cases h
        exact .inr (.inr ⟨rfl, rfl⟩)
      | some value =>
        simp only [hcount] at h
        cases h
        refine .inl ⟨hpids.1, hpids.2, host, port, records, value, hendpoint, rfl, hcount, rfl, ?_⟩
        cases identity <;> rfl
    | none =>
      rw [hrecords] at h
      cases identity with
      | none =>
        cases h
        exact .inr (.inr ⟨rfl, rfl⟩)
      | some identity =>
        cases hcached : caches.tunnelSockets tunnel.tunnelId with
        | none =>
          simp only [hcached] at h
          cases h
          exact .inr (.inr ⟨rfl, rfl⟩)
        | some cached =>
          simp only [hcached] at h
          by_cases hsame : cached.identity = identity ∧ cached.endpoint = tunnel.remoteEndpoint
          · rw [if_pos hsame] at h
            cases h
            exact .inr (.inl ⟨hpids.1, hpids.2, rfl, cached, rfl, by rw [hsame.1], hsame.2, rfl, rfl⟩)
          · rw [if_neg hsame] at h
            cases h
            exact .inr (.inr ⟨rfl, rfl⟩)
  · have hmatch : (decide (pids ≠ []) && authoritative) = false := by
      rw [Bool.eq_false_iff]
      simpa using hpids
    rw [hmatch] at h
    cases h
    exact .inr (.inr ⟨rfl, rfl⟩)

variable {tunnel : Tunnel} {metric : Metric} {after : Caches}

theorem Caches.Measured.tunnelRemoteSocketMetric (h : caches.Measured cycles) (hc : c ∈ cycles)
    (htunnel : tunnel ∈ c.tunnels) (hcaptured : c.captured tunnel.serviceName = some captured)
    (hresult : caches.tunnelRemoteSocketMetric c.sources.digits tunnel captured.pidSet.pids
      captured.pidSet.authoritative ((c.identity tunnel.serviceName).map ProcessIdentity.text)
      c.fullSocketDue c.fullRecords = .ok (metric, after)) : after.Measured cycles := by
  rcases Caches.tunnelRemoteSocketMetric_cases hresult with
    ⟨hpids, hauthoritative, host, port, records, value, hendpoint, hrecords, hvalue, _, hafter⟩ |
    ⟨_, _, _, _, _, _, _, _, hafter⟩ | ⟨_, hafter⟩
  · subst hafter
    cases hidentity : (c.identity tunnel.serviceName).map ProcessIdentity.text with
    | none => exact h
    | some text =>
      refine { h with tunnelSockets := fun tunnelId entry hentry => ?_ }
      rcases update_some hentry with ⟨rfl, rfl⟩ | hentry
      · refine ⟨c, hc, tunnel, htunnel, rfl, rfl, hidentity, ?_⟩
        simp only [Cycle.measuredRemote, hcaptured, hrecords, hendpoint, Except.toOption,
          Option.bind_eq_bind, Option.bind_some, if_pos (And.intro hpids hauthoritative), hvalue]
      · exact h.tunnelSockets tunnelId entry hentry
  · exact hafter ▸ h
  · exact hafter ▸ h

/-- A cached count of the sockets of a tunnel was measured in a cycle that has found the same processes and
the same endpoint. -/
theorem Caches.Measured.of_tunnelRemoteSocketMetric (h : caches.Measured cycles)
    (hresult : caches.tunnelRemoteSocketMetric c.sources.digits tunnel captured.pidSet.pids
      captured.pidSet.authoritative ((c.identity tunnel.serviceName).map ProcessIdentity.text)
      c.fullSocketDue c.fullRecords = .ok (metric, after))
    (hquality : metric.quality = .estimated) (hv : metric.value = some v) :
    captured.pidSet.authoritative ∧ c.fullRecords = none ∧ ∃ earlier ∈ cycles,
      ∃ tunnel' ∈ earlier.tunnels, tunnel'.tunnelId = tunnel.tunnelId ∧
        tunnel'.remoteEndpoint = tunnel.remoteEndpoint ∧
        (∃ i, earlier.identity tunnel'.serviceName = some i ∧ c.identity tunnel.serviceName = some i) ∧
        ∃ n, earlier.measuredRemote tunnel' = some n ∧ v = .integer n := by
  rcases Caches.tunnelRemoteSocketMetric_cases hresult with
    ⟨_, _, _, _, _, _, _, _, _, rfl, _⟩ |
    ⟨_, hauthoritative, hrecords, cached, hcached, hidentity, hendpoint, rfl, _⟩ | ⟨rfl, _⟩
  · cases hquality
  · obtain ⟨earlier, hearlier, tunnel', htunnel', hid, hendpoint', hidentity', hvalue⟩ :=
      h.tunnelSockets tunnel.tunnelId cached hcached
    obtain ⟨i, hi, htext⟩ := Option.map_eq_some_iff.mp hidentity
    obtain ⟨i', hi', htext'⟩ := Option.map_eq_some_iff.mp hidentity'
    have hsame := ProcessIdentity.text_inj (htext'.trans htext.symm)
    subst hsame
    exact ⟨hauthoritative, hrecords, earlier, hearlier, tunnel', htunnel', hid,
      hendpoint'.trans hendpoint, ⟨i', hi', hi⟩, cached.value, hvalue, (Option.some.inj hv).symm⟩
  · cases hquality

/-! ## Slow values -/

theorem Cycle.identity_of_captured (hcaptured : c.captured service = some captured) :
    c.identity service = captured.members.map fun members =>
      ⟨captured.properties.getD "ExecMainStartTimestampMonotonic", members⟩ := by
  simp only [identity, hcaptured, Option.bind_eq_bind, Option.bind_some]
  cases captured.members <;> rfl

theorem identity_aggregateServiceProcesses {fast : List ProcessSnapshot} {slow : List ProcessSlowSnapshot}
    {snapshot : ServiceProcessSnapshot} (h : aggregateServiceProcesses fast slow = .ok snapshot) :
    snapshot.identity = (fast.insertionSort fun a b => a.pid ≤ b.pid).map fun process =>
      (process.pid, process.startTicks) := by
  unfold aggregateServiceProcesses at h
  split at h
  · cases h
  · cases h
    rfl

/-- What is reported of the slow values, and what is stored. -/
theorem Caches.processSlowValues_cases (caches : Caches) (service : String)
    (current : ServiceProcessSnapshot) (due complete authoritative : Bool) :
    (due ∧ complete ∧ caches.processSlowValues service current due complete authoritative =
      ((current, if authoritative then .exact else .estimated),
        { caches with
          processSlow := Function.update caches.processSlow service
            (some ⟨current.identity, current.slow⟩) })) ∨
    (¬ due ∧ ∃ cached, caches.processSlow service = some cached ∧ cached.identity = current.identity ∧
      caches.processSlowValues service current due complete authoritative =
        (({ current with slow := cached.values }, .estimated), caches)) ∨
    caches.processSlowValues service current due complete authoritative =
      ((current, .unavailable), caches) := by
  unfold Caches.processSlowValues
  cases due with
  | true =>
    cases complete with
    | true => exact .inl ⟨rfl, rfl, rfl⟩
    | false => exact .inr (.inr rfl)
  | false =>
    cases hcached : caches.processSlow service with
    | none => exact .inr (.inr rfl)
    | some cached =>
      by_cases hsame : cached.identity = current.identity
      · refine .inr (.inl ⟨Bool.false_ne_true, cached, rfl, hsame, ?_⟩)
        simp only [Bool.false_eq_true, if_false, if_pos hsame]
      · refine .inr (.inr ?_)
        simp only [Bool.false_eq_true, if_false, if_neg hsame]

/-- What `_process_slow_values` keeps, and where its cached values come from. -/
theorem Caches.Measured.serviceSnapshot (h : caches.Measured cycles) (hc : c ∈ cycles)
    (hcaptured : c.captured service = some captured)
    {slow : Option (ServiceProcessSnapshot × Quality)}
    (hresult : c.serviceSnapshot service captured caches = .ok (slow, after)) :
    after.Measured cycles ∧ slow.map (fun slow => slow.1.identity) = captured.members ∧
      (¬ c.sources.slowSourcesDue → ∀ snapshot, slow = some (snapshot, .estimated) →
        ∃ earlier ∈ cycles, earlier.SameMembers c service ∧
          earlier.measuredSlow service = some snapshot.slow) := by
  unfold Cycle.serviceSnapshot at hresult
  by_cases hpids : captured.pidSet.pids ≠ [] ∧ captured.fast.length = captured.pidSet.pids.length
  · rw [if_pos hpids] at hresult
    obtain ⟨snapshot, hsnapshot, hresult⟩ := bind_eq_ok.1 hresult
    have hmembers : captured.members = some snapshot.identity := by
      rw [ServiceCapture.members, if_pos hpids, identity_aggregateServiceProcesses hsnapshot]
    have hidentity : (c.identity service).map ProcessIdentity.members = some snapshot.identity := by
      rw [Cycle.identity_of_captured hcaptured, hmembers]
      rfl
    rcases caches.processSlowValues_cases service snapshot c.sources.slowSourcesDue
      (c.sources.slowSourcesDue && captured.slow.length = captured.pidSet.pids.length)
      captured.pidSet.authoritative with ⟨hdue, hcomplete, hvalues⟩ |
      ⟨_, cached, hcached, hsame, hvalues⟩ | hvalues
    · rw [hvalues] at hresult
      cases hresult
      refine ⟨{ h with processSlow := fun service' entry hentry => ?_ }, hmembers.symm,
        fun hnot => absurd hdue hnot⟩
      rcases update_some hentry with ⟨rfl, rfl⟩ | hentry
      · rw [if_pos hcomplete] at hsnapshot
        rw [hdue, Bool.true_and, decide_eq_true_eq] at hcomplete
        refine ⟨c, hc, hidentity, ?_⟩
        simp only [Cycle.measuredSlow, hcaptured, hsnapshot, Except.toOption, Option.bind_eq_bind,
          Option.bind_some, if_pos (And.intro hdue hcomplete), Option.map_some]
      · exact h.processSlow service' entry hentry
    · rw [hvalues] at hresult
      cases hresult
      refine ⟨h, hmembers.symm, fun _ snapshot' hestimated => ?_⟩
      cases hestimated
      obtain ⟨earlier, hearlier, hidentity', hmeasured⟩ := h.processSlow service cached hcached
      obtain ⟨i, hi, hi'⟩ := Option.map_eq_some_iff.mp hidentity'
      obtain ⟨j, hj, hj'⟩ := Option.map_eq_some_iff.mp hidentity
      exact ⟨earlier, hearlier, ⟨i, j, hi, hj, hi'.trans (hsame.trans hj'.symm)⟩, hmeasured⟩
    · rw [hvalues] at hresult
      cases hresult
      exact ⟨h, hmembers.symm, fun _ snapshot' hestimated => by cases hestimated⟩
  · rw [if_neg hpids] at hresult
    cases hresult
    refine ⟨h, ?_, fun _ _ hestimated => by cases hestimated⟩
    rw [ServiceCapture.members, if_neg hpids]
    rfl

/-! ## Memory of control groups -/

/-- What `_cgroup_memory_values` keeps, and where its cached values come from. -/
theorem Caches.Measured.cgroupMemoryValues (h : caches.Measured cycles) (hc : c ∈ cycles)
    (hcaptured : c.captured service = some captured) (controlGroup : Text) :
    (caches.cgroupMemoryValues service controlGroup ((c.identity service).map ProcessIdentity.text)
      c.sources.slowSourcesDue captured.cgroupMemory).2.Measured cycles := by
  unfold Caches.cgroupMemoryValues
  cases hdue : c.sources.slowSourcesDue with
  | true =>
    cases hmemory : captured.cgroupMemory with
    | none => exact h
    | some memory =>
      cases hidentity : (c.identity service).map ProcessIdentity.text with
      | none => exact h
      | some text =>
        refine { h with cgroupMemory := fun service' entry hentry => ?_ }
        rcases update_some hentry with ⟨rfl, rfl⟩ | hentry
        · refine ⟨c, hc, hidentity, ?_⟩
          simp only [Cycle.measuredMemory, hcaptured, hmemory, hdue, Option.bind_eq_bind,
            Option.bind_some, if_true]
        · exact h.cgroupMemory service' entry hentry
  | false =>
    cases (c.identity service).map ProcessIdentity.text with
    | none => exact h
    | some text =>
      cases caches.cgroupMemory service with
      | none => exact h
      | some cached =>
        simp only [Bool.false_eq_true, if_false]
        split <;> exact h

theorem quality_cgroupMemoryMetrics {memory : CgroupMemory} (hm : m ∈ cgroupMemoryMetrics service memory) :
    m.quality ≠ .estimated := by
  have hmetric : ∀ name value unit, (serviceMetric service name value unit).quality ≠ .estimated := by
    intro name value unit
    cases value <;> simp [serviceMetric, optionalMetric]
  rcases List.mem_pair.mp hm with rfl | rfl
  · exact hmetric _ _ _
  · exact hmetric _ _ _

/-- Cached memory was measured in a cycle that has found the same processes. -/
theorem Caches.Measured.of_cgroupMemoryValues (h : caches.Measured cycles) {controlGroup : Text}
    (hm : m ∈ (caches.cgroupMemoryValues service controlGroup
      ((c.identity service).map ProcessIdentity.text) c.sources.slowSourcesDue captured.cgroupMemory).1)
    (hquality : m.quality = .estimated) (hv : m.value = some v) :
    ¬ c.sources.slowSourcesDue ∧ ∃ earlier ∈ cycles, earlier.SameIdentity c service ∧
      ∃ memory, earlier.measuredMemory service = some memory ∧
        ∃ m' ∈ cgroupMemoryMetrics service memory, m'.name = m.name ∧ m'.value = some v := by
  unfold Caches.cgroupMemoryValues at hm
  cases hdue : c.sources.slowSourcesDue with
  | true =>
    rw [hdue, if_pos rfl] at hm
    cases hmemory : captured.cgroupMemory with
    | none =>
      rw [hmemory] at hm
      exact absurd hm List.not_mem_nil
    | some memory =>
      rw [hmemory] at hm
      exact absurd hquality (quality_cgroupMemoryMetrics hm)
  | false =>
    refine ⟨Bool.false_ne_true, ?_⟩
    rw [hdue, if_neg Bool.false_ne_true] at hm
    cases hidentity : (c.identity service).map ProcessIdentity.text with
    | none =>
      rw [hidentity] at hm
      exact absurd hm List.not_mem_nil
    | some text =>
      cases hcached : caches.cgroupMemory service with
      | none =>
        rw [hidentity, hcached] at hm
        exact absurd hm List.not_mem_nil
      | some cached =>
        simp only [hidentity, hcached] at hm
        split at hm
        · rename_i hsame
          obtain ⟨m', hm', rfl⟩ := List.mem_map.mp hm
          obtain ⟨earlier, hearlier, hidentity', hmeasured⟩ := h.cgroupMemory service cached hcached
          rw [hsame.2] at hidentity'
          exact ⟨earlier, hearlier, Cycle.sameIdentity_of_text hidentity' hidentity, cached.values,
            hmeasured, m', List.mem_of_mem_filter hm', rfl, hv⟩
        · exact absurd hm List.not_mem_nil

/-! ## What is reported without regard to what is stored -/

/-- The slow values are those that the metrics are made of. -/
theorem Caches.processSlowValues_fst (s : Sources) (p : Previous) (caches : Caches) (service : String)
    (current : ServiceProcessSnapshot) (complete authoritative : Bool) :
    (caches.processSlowValues service current s.slowSourcesDue complete authoritative).1 =
      s.processSlowValues (caches.previous p) service current complete authoritative := by
  unfold Caches.processSlowValues Sources.processSlowValues Caches.previous
  cases s.slowSourcesDue with
  | true => cases complete <;> rfl
  | false =>
    cases hcached : caches.processSlow service with
    | none => simp only [Bool.false_eq_true, if_false, hcached, Option.map_none]
    | some cached =>
      simp only [Bool.false_eq_true, if_false, hcached, Option.map_some]
      split <;> rfl

/-- The memory is the one that the metrics are made of. -/
theorem Caches.cgroupMemoryValues_fst (s : Sources) (p : Previous) (caches : Caches) (service : String)
    (controlGroup : Text) (identity : Option Text) (memory : Option CgroupMemory) :
    (caches.cgroupMemoryValues service controlGroup identity s.slowSourcesDue memory).1 =
      s.cgroupMemoryValues (caches.previous p) service controlGroup identity memory := by
  unfold Caches.cgroupMemoryValues Sources.cgroupMemoryValues Caches.previous
  cases s.slowSourcesDue with
  | true => cases memory <;> rfl
  | false =>
    cases identity with
    | none => rfl
    | some identity =>
      cases hcached : caches.cgroupMemory service with
      | none => simp only [Bool.false_eq_true, if_false, hcached, Option.map_none]
      | some cached =>
        simp only [Bool.false_eq_true, if_false, hcached, Option.map_some]
        split <;> rfl

/-! ## Cycles -/

/-- What a report knows of a service that was captured. -/
structure ServiceReport.Of (c : Cycle) (service : String) (report : ServiceReport) : Prop where
  captured : ∃ captured, c.captured service = some captured ∧ report.pidSet = captured.pidSet
  identity : report.processIdentity = (c.identity service).map ProcessIdentity.text

/-- A cycle that is not among the earlier ones does not measure what it reads from the entries. -/
theorem mem_past {α : Type} {past : List Cycle} {earlier : Cycle} (measured : Cycle → Option α) {a : α}
    (hearlier : earlier ∈ past ++ [c]) (ha : measured earlier = some a) (hnone : measured c = none) :
    earlier ∈ past := by
  rcases List.mem_append.mp hearlier with hearlier | hearlier
  · exact hearlier
  · obtain rfl := List.mem_singleton.mp hearlier
    rw [hnone] at ha
    cases ha

theorem Cycle.measuredStates_eq_none (h : c.fullRecords = none) : c.measuredStates service = none := by
  simp [measuredStates, h]

theorem Cycle.measuredRemote_eq_none (h : c.fullRecords = none) (tunnel : Tunnel) :
    c.measuredRemote tunnel = none := by
  simp [measuredRemote, h]

theorem Cycle.measuredSlow_eq_none (h : ¬ c.sources.slowSourcesDue) : c.measuredSlow service = none := by
  simp [measuredSlow, h]

theorem Cycle.measuredMemory_eq_none (h : ¬ c.sources.slowSourcesDue) :
    c.measuredMemory service = none := by
  simp [measuredMemory, h]

variable {past : List Cycle} {report : ServiceReport}

/-- The savepoint of a service. -/
theorem Caches.Measured.serviceEntity (h : caches.Measured (past ++ [c]))
    (hcaptured : c.captured service = some captured)
    (hresult : c.serviceEntity service captured caches = .ok (report, after)) :
    after.Measured (past ++ [c]) ∧ report.Of c service ∧
      report.Attributed Cycle.SameMembers past c service := by
  have hc : c ∈ past ++ [c] := List.mem_append_right past (List.mem_singleton_self c)
  obtain ⟨_, _, hresult⟩ := bind_eq_ok.1 hresult
  obtain ⟨⟨slow, caches'⟩, hsnapshot, hresult⟩ := bind_eq_ok.1 hresult
  obtain ⟨h', hmembers, hslow⟩ := h.serviceSnapshot hc hcaptured hsnapshot
  have hidentity : slow.map (fun slow => processIdentity
      (captured.properties.getD "ExecMainStartTimestampMonotonic") slow.1) =
        (c.identity service).map ProcessIdentity.text := by
    rw [Cycle.identity_of_captured hcaptured, ← hmembers, Option.map_map, Option.map_map]
    rfl
  simp only [hidentity] at hresult
  have hmemory : ∃ memory caches'', (if captured.properties.getD "ControlGroup" = [] then ([], caches')
      else caches'.cgroupMemoryValues service (captured.properties.getD "ControlGroup")
        ((c.identity service).map ProcessIdentity.text) c.sources.slowSourcesDue captured.cgroupMemory) =
        (memory, caches'') ∧ caches''.Measured (past ++ [c]) ∧
      ∀ m ∈ memory, m.quality = .estimated → ∀ v, m.value = some v →
        ∃ earlier ∈ past, earlier.SameIdentity c service ∧
          ∃ memory, earlier.measuredMemory service = some memory ∧
            ∃ m' ∈ cgroupMemoryMetrics service memory, m'.name = m.name ∧ m'.value = some v := by
    split
    · exact ⟨[], caches', rfl, h', fun m hm => absurd hm List.not_mem_nil⟩
    · refine ⟨_, _, rfl, h'.cgroupMemoryValues hc hcaptured _, fun m hm hquality v hv => ?_⟩
      obtain ⟨hdue, earlier, hearlier, hsame, memory, hmeasured, hvalue⟩ :=
        h'.of_cgroupMemoryValues hm hquality hv
      exact ⟨earlier, mem_past (·.measuredMemory service) hearlier hmeasured (Cycle.measuredMemory_eq_none hdue), hsame, memory,
        hmeasured, hvalue⟩
  obtain ⟨memory, caches'', hpair, h'', hmemory⟩ := hmemory
  rw [hpair] at hresult
  cases hresult
  refine ⟨h''.serviceSocketMetrics hc hcaptured, ⟨⟨captured, hcaptured, rfl⟩, rfl⟩, ?_, ?_, hmemory⟩
  · intro m hm hquality v hv
    obtain ⟨hauthoritative, hrecords, earlier, hearlier, hsame, states, hstates, hcounted⟩ :=
      h''.of_serviceSocketMetrics hm hquality hv
    exact ⟨hauthoritative, earlier, mem_past (·.measuredStates service) hearlier hstates (Cycle.measuredStates_eq_none hrecords),
      hsame, states, hstates, hcounted⟩
  · intro hdue snapshot hestimated
    obtain ⟨earlier, hearlier, hsame, hmeasured⟩ := hslow hdue snapshot hestimated
    exact ⟨earlier, mem_past (·.measuredSlow service) hearlier hmeasured (Cycle.measuredSlow_eq_none hdue), hsame, hmeasured⟩

/-- The reports of the services so far, with the entries. -/
structure ServicesDone (past : List Cycle) (c : Cycle) (state : List (String × ServiceReport) × Caches) :
    Prop where
  measured : state.2.Measured (past ++ [c])
  reports : ∀ entry ∈ state.1, entry.2.Of c entry.1 ∧ entry.2.Attributed Cycle.SameMembers past c entry.1

theorem ServicesDone.serviceStep {state : List (String × ServiceReport) × Caches}
    (h : ServicesDone past c state) {entry : String × Option ServiceCapture}
    (hentry : ∀ captured, entry.2 = some captured → c.captured entry.1 = some captured) :
    ServicesDone past c (c.serviceStep state entry) := by
  unfold Cycle.serviceStep
  cases hcapture : entry.2 with
  | none => exact h
  | some captured =>
    cases hresult : c.serviceEntity entry.1 captured state.2 with
    | error raised =>
      simp only [hresult]
      exact h
    | ok result =>
      simp only [hresult]
      split
      · exact h
      · obtain ⟨hmeasured, hof, hattributed⟩ := h.measured.serviceEntity (hentry captured hcapture) hresult
        refine ⟨hmeasured, fun entry' hentry' => ?_⟩
        rcases List.mem_append.mp hentry' with hentry' | hentry'
        · exact h.reports entry' hentry'
        · obtain rfl := List.mem_singleton.mp hentry'
          exact ⟨hof, hattributed⟩

theorem ServicesDone.foldl {state : List (String × ServiceReport) × Caches} (h : ServicesDone past c state)
    {entries : List (String × Option ServiceCapture)}
    (hentries : ∀ entry ∈ entries, ∀ captured, entry.2 = some captured →
      c.captured entry.1 = some captured) : ServicesDone past c (entries.foldl c.serviceStep state) := by
  induction entries generalizing state with
  | nil => exact h
  | cons entry entries ih =>
    exact ih (h.serviceStep (hentries entry List.mem_cons_self)) fun entry' hentry' =>
      hentries entry' (List.mem_cons_of_mem entry hentry')

/-- The reports of the tunnels so far, with the entries. -/
structure TunnelsDone (past : List Cycle) (c : Cycle) (state : List (Tunnel × Metric) × Caches) : Prop where
  measured : state.2.Measured (past ++ [c])
  reports : ∀ entry ∈ state.1, entry.2.quality = .estimated → ∀ v, entry.2.value = some v →
    (∃ captured, c.captured entry.1.serviceName = some captured ∧ captured.pidSet.authoritative) ∧
    ∃ earlier ∈ past, ∃ tunnel ∈ earlier.tunnels, tunnel.tunnelId = entry.1.tunnelId ∧
      tunnel.remoteEndpoint = entry.1.remoteEndpoint ∧
      (∃ i, earlier.identity tunnel.serviceName = some i ∧ c.identity entry.1.serviceName = some i) ∧
      ∃ n, earlier.measuredRemote tunnel = some n ∧ v = .integer n

/-- The service of a tunnel, as its loop finds it, has no processes or was captured. -/
theorem of_lookup {services : List (String × ServiceReport)}
    (h : ∀ entry ∈ services, entry.2.Of c entry.1) (name : String) :
    services.lookup name = none ∨ ∃ captured report, services.lookup name = some report ∧
      c.captured name = some captured ∧ report.pidSet = captured.pidSet ∧
      report.processIdentity = (c.identity name).map ProcessIdentity.text := by
  cases hlookup : services.lookup name with
  | none => exact .inl rfl
  | some report =>
    obtain ⟨before, later, rfl, _⟩ := List.lookup_eq_some_iff.mp hlookup
    have hof := h (name, report) (by simp)
    obtain ⟨captured, hcaptured, hpids⟩ := hof.captured
    exact .inr ⟨captured, report, rfl, hcaptured, hpids, hof.identity⟩

theorem TunnelsDone.tunnelStep {services : List (String × ServiceReport)}
    (hservices : ∀ entry ∈ services, entry.2.Of c entry.1) {state : List (Tunnel × Metric) × Caches}
    (h : TunnelsDone past c state) (htunnel : tunnel ∈ c.tunnels) :
    TunnelsDone past c (c.tunnelStep services state tunnel) := by
  have hc : c ∈ past ++ [c] := List.mem_append_right past (List.mem_singleton_self c)
  unfold Cycle.tunnelStep
  rcases of_lookup hservices tunnel.serviceName with hlookup | ⟨captured, report, hlookup, hcaptured, hpids,
    hidentity⟩
  · simp only [hlookup, Option.map_none, Option.getD_none, Option.bind_none]
    split
    · exact h
    · rename_i metric after hresult
      split
      · exact h
      · rcases Caches.tunnelRemoteSocketMetric_cases hresult with ⟨hpids, _⟩ | ⟨hpids, _⟩ | ⟨rfl, rfl⟩
        · exact absurd rfl hpids
        · exact absurd rfl hpids
        · refine ⟨h.measured, fun entry hentry hquality => ?_⟩
          rcases List.mem_append.mp hentry with hentry | hentry
          · exact h.reports entry hentry hquality
          · obtain rfl := List.mem_singleton.mp hentry
            cases hquality
  · simp only [hlookup, Option.map_some, Option.getD_some, Option.bind_some, hpids, hidentity]
    split
    · exact h
    · rename_i metric after hresult
      split
      · exact h
      · refine ⟨h.measured.tunnelRemoteSocketMetric hc htunnel hcaptured hresult,
          fun entry hentry hquality v hv => ?_⟩
        rcases List.mem_append.mp hentry with hentry | hentry
        · exact h.reports entry hentry hquality v hv
        · obtain rfl := List.mem_singleton.mp hentry
          obtain ⟨hauthoritative, hrecords, earlier, hearlier, tunnel', htunnel', hid, hendpoint, hsame, n,
            hn, hvalue⟩ := h.measured.of_tunnelRemoteSocketMetric hresult hquality hv
          exact ⟨⟨captured, hcaptured, hauthoritative⟩, earlier,
            mem_past (·.measuredRemote tunnel') hearlier hn (Cycle.measuredRemote_eq_none hrecords tunnel'),
            tunnel', htunnel', hid, hendpoint, hsame, n, hn, hvalue⟩

theorem TunnelsDone.foldl {services : List (String × ServiceReport)}
    (hservices : ∀ entry ∈ services, entry.2.Of c entry.1) {state : List (Tunnel × Metric) × Caches}
    (h : TunnelsDone past c state) {tunnels : List Tunnel} (htunnels : ∀ tunnel ∈ tunnels, tunnel ∈ c.tunnels) :
    TunnelsDone past c (tunnels.foldl (c.tunnelStep services) state) := by
  induction tunnels generalizing state with
  | nil => exact h
  | cons tunnel tunnels ih =>
    exact ih (h.tunnelStep hservices (htunnels tunnel List.mem_cons_self)) fun tunnel' htunnel' =>
      htunnels tunnel' (List.mem_cons_of_mem tunnel htunnel')

variable {reports : Reports}

/-- A cycle keeps that its entries were measured, and attributes what it reports from them. -/
theorem Caches.Measured.collect (h : caches.Measured past)
    (hresult : c.collect caches = .ok (reports, after)) :
    after.Measured (past ++ [c]) ∧ reports.Attributed Cycle.SameMembers past c := by
  obtain ⟨entries, hentries, hresult⟩ := bind_eq_ok.1 hresult
  have hcaptured : ∀ entry ∈ entries, ∀ captured, entry.2 = some captured →
      c.captured entry.1 = some captured := by
    intro entry hentry captured hsome
    obtain ⟨service, hservice, hcaptures⟩ := mem_of_mapM hentries hentry
    obtain ⟨capture, hcapture, hpair⟩ := (bind_eq_ok (x := c.sources.captureService service)).1 hcaptures
    cases hpair
    cases hsome
    simp only [Cycle.captured, if_pos hservice, hcapture]
    rfl
  have hservices : ServicesDone past c (entries.foldl c.serviceStep ([], caches)) :=
    ServicesDone.foldl ⟨h.mono fun c hc => List.mem_append_left _ hc,
      fun entry hentry => absurd hentry List.not_mem_nil⟩ hcaptured
  have htunnels : TunnelsDone past c (c.tunnels.foldl
      (c.tunnelStep (entries.foldl c.serviceStep ([], caches)).1)
      ([], (entries.foldl c.serviceStep ([], caches)).2)) :=
    TunnelsDone.foldl (fun entry hentry => (hservices.reports entry hentry).1)
      ⟨hservices.measured, fun entry hentry => absurd hentry List.not_mem_nil⟩ fun tunnel htunnel => htunnel
  cases hresult
  exact ⟨htunnels.measured, fun entry hentry => (hservices.reports entry hentry).2, htunnels.reports⟩

theorem Caches.Measured.next (h : caches.Measured past) : (c.next caches).Measured (past ++ [c]) := by
  have hpast : caches.Measured (past ++ [c]) := h.mono fun c hc => List.mem_append_left _ hc
  unfold Cycle.next
  cases hresult : c.collect caches with
  | error raised => exact hpast
  | ok result =>
    simp only
    split
    · exact (h.collect hresult).1
    · exact hpast

/-- The entries after some cycles were measured in one of them. -/
theorem measured_runAll (cycles : List Cycle) : (Cycle.runAll cycles).Measured cycles := by
  induction cycles using List.reverseRecOn with
  | nil => exact Caches.Measured.empty
  | append_singleton past c ih =>
    rw [Cycle.runAll, List.foldl_append]
    exact ih.next

/-- In every run, cached values that a cycle reports were measured in an earlier cycle of the same service or
tunnel, in which it had the same processes; those of control groups and of sockets also after the same start
of its main process. -/
theorem cached_values_attributed (past : List Cycle) (c : Cycle) (reports : Reports) (after : Caches)
    (h : c.collect (Cycle.runAll past) = .ok (reports, after)) :
    reports.Attributed Cycle.SameMembers past c :=
  ((measured_runAll past).collect h).2

/-- A cycle that finds a service with one process, whose main process was started at some time. -/
def oneProcess (start : String) (due : Bool) : Cycle where
  sources :=
    { digits := Digits.ascii
      netDev := .error (.osError "")
      netLink := fun _ _ => .error (.osError "")
      snmp := .error (.osError "")
      netstat := .error (.osError "")
      diskstats := .error (.osError "")
      services := ["s"]
      services_nodup := List.nodup_singleton "s"
      services_named := by simp
      systemctlShow := fun _ =>
        .ok (("MainPID=7\nExecMainStartTimestampMonotonic=" ++ start).toList)
      cgroupFile := fun _ => .error (.osError "")
      procStat := fun _ => .ok "7 (g) S 1 1 1 0 0 0 0 0 0 0 5 5 0 0 0 0 1 0 9 0 3".toList
      procStatus := fun _ => .ok "RssAnon: 4".toList
      procLimits := fun _ => .ok []
      procFds := fun _ => .ok 2
      pageSize := 4096
      ticksPerSecond := 100
      maxGap := none
      slowSourcesDue := due
      networkRaises := false
      storageRaises := false
      serviceRaises := fun _ => false }
  fullSocketDue := due
  connections := none
  tunnels := []
  tunnelRaises _ := false
  commits := true

/-- The slow values of the second of two cycles are cached. -/
theorem exists_cached_oneProcess (start : String) (h : start = "1" ∨ start = "2") :
    ∃ reports after entry snapshot, (oneProcess start false).collect
        (Cycle.runAll [oneProcess "1" true]) = .ok (reports, after) ∧ entry ∈ reports.services ∧
      entry.1 = "s" ∧ entry.2.slow = some (snapshot, .estimated) ∧ snapshot.slow.fdCount = some 2 := by
  have hvalues : (((oneProcess start false).collect (Cycle.runAll [oneProcess "1" true])).toOption.map
      fun result => result.1.services.map fun entry =>
        (entry.1, entry.2.slow.map fun slow => (slow.1.slow.fdCount, slow.2))) =
          some [("s", some (some 2, .estimated))] := by
    rcases h with rfl | rfl <;> decide +kernel
  obtain ⟨⟨reports, after⟩, hresult, hmap⟩ := Option.map_eq_some_iff.mp hvalues
  have hmem : ("s", some (some 2, Quality.estimated)) ∈ reports.services.map fun entry =>
      (entry.1, entry.2.slow.map fun slow => (slow.1.slow.fdCount, slow.2)) := by
    rw [hmap]
    exact List.mem_singleton_self _
  obtain ⟨entry, hentry, hpair⟩ := List.mem_map.mp hmem
  obtain ⟨hname, hslow⟩ := Prod.mk.inj hpair
  obtain ⟨⟨snapshot, quality⟩, hslow, hpair⟩ := Option.map_eq_some_iff.mp hslow
  obtain ⟨hcount, rfl⟩ := Prod.mk.inj hpair
  refine ⟨reports, after, entry, snapshot, ?_, hentry, hname, hslow, hcount⟩
  cases hcollect : (oneProcess start false).collect (Cycle.runAll [oneProcess "1" true]) with
  | error raised =>
    rw [hcollect] at hresult
    cases hresult
  | ok result =>
    rw [hcollect] at hresult
    exact congrArg Except.ok (Option.some.inj hresult)

theorem cached_values_attributed_oneProcess :
    ∃ reports after entry snapshot, (oneProcess "1" false).collect
        (Cycle.runAll [oneProcess "1" true]) = .ok (reports, after) ∧
      entry ∈ reports.services ∧ entry.2.slow = some (snapshot, .estimated) ∧
      snapshot.slow.fdCount = some 2 ∧
      reports.Attributed Cycle.SameMembers [oneProcess "1" true] (oneProcess "1" false) := by
  obtain ⟨reports, after, entry, snapshot, hcollect, hentry, _, hslow, hcount⟩ :=
    exists_cached_oneProcess "1" (.inl rfl)
  exact ⟨reports, after, entry, snapshot, hcollect, hentry, hslow, hcount,
    cached_values_attributed _ _ reports after hcollect⟩

/-- After another start of the main process, cached slow values of the same processes are reported still. -/
theorem not_cached_values_attributed : ¬ ∀ past c reports after,
    Cycle.collect c (Cycle.runAll past) = .ok (reports, after) →
      reports.Attributed Cycle.SameIdentity past c := by
  intro h
  obtain ⟨reports, after, entry, snapshot, hcollect, hentry, hname, hslow, _⟩ :=
    exists_cached_oneProcess "2" (.inr rfl)
  obtain ⟨earlier, hearlier, ⟨i, hi, hi'⟩, _⟩ := ((h _ _ reports after hcollect).services entry hentry).slow
    Bool.false_ne_true snapshot hslow
  obtain rfl := List.mem_singleton.mp hearlier
  rw [hname] at hi hi'
  have hstart : ((oneProcess "1" true).identity "s").map ProcessIdentity.startIdentity =
      some "1".toList := by decide +kernel
  have hstart' : ((oneProcess "2" false).identity "s").map ProcessIdentity.startIdentity =
      some "2".toList := by decide +kernel
  rw [hi] at hstart
  rw [hi', hstart] at hstart'
  exact absurd hstart' (by decide)

end Monitoring.Readers
