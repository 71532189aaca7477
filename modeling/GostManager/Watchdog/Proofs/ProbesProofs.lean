import GostManager.Effects.Proofs.ExceptProofs
import GostManager.Effects.Proofs.ExecutorProofs
import GostManager.Lists.Proofs.DictionaryProofs
import GostManager.Lists.Proofs.GroupsProofs
import GostManager.Watchdog.Probes

/-!
# Proofs: sharing probes

Each probe is made once, in whatever order the probes are finished, and every profile gets the result of
its own probe.
-/

namespace Watchdog

open Effects Lists

variable {ε : Type} {executor : ProbeKey → Except ε Returned} {profiles : List ManagedProfile}
  {maxWorkers : Int} {calls : List ProbeKey} {returned : Option (List (String × ProbeResult))}
  {profile : ManagedProfile} {key : ProbeKey}

/-- The result that is due to a profile. -/
def ownResult (executor : ProbeKey → Except ε Returned) (profile : ManagedProfile) : String × ProbeResult :=
  (profile.profileId, probeResultOf (executor profile.probeKey))

/-- The mapping with the results of all profiles that are not disabled. -/
def ownResults (executor : ProbeKey → Except ε Returned) (profiles : List ManagedProfile) :
    List (String × ProbeResult) :=
  dictionary Prod.fst ((activeProfiles profiles).map (ownResult executor))

theorem mem_activeProfiles :
    profile ∈ activeProfiles profiles ↔ profile ∈ profiles ∧ profile.config.mode ≠ .disabled := by
  unfold activeProfiles
  rw [List.mem_filter, decide_eq_true_eq]

/-! ## The probes -/

theorem nodup_probes : ((byProbe profiles).map Prod.fst).Nodup := (groups_spec _ _).nodup

theorem mem_probes : key ∈ (byProbe profiles).map Prod.fst ↔
    ∃ profile ∈ profiles, profile.config.mode ≠ .disabled ∧ profile.probeKey = key := by
  have hspec := groups_spec ManagedProfile.probeKey (activeProfiles profiles)
  constructor
  · intro hkey
    obtain ⟨⟨key, group⟩, hmem, rfl⟩ := List.mem_map.1 hkey
    obtain ⟨rfl, hne⟩ := (hspec.mem key group).1 hmem
    obtain ⟨profile, hprofile⟩ := List.exists_mem_of_ne_nil _ hne
    obtain ⟨hactive, hprobe⟩ := List.mem_filter.1 hprofile
    obtain ⟨hp, hmode⟩ := mem_activeProfiles.1 hactive
    exact ⟨profile, hp, hmode, of_decide_eq_true hprobe⟩
  · rintro ⟨profile, hp, hmode, rfl⟩
    have hgroup : profile ∈ (activeProfiles profiles).filter fun p => p.probeKey = profile.probeKey :=
      List.mem_filter.2 ⟨mem_activeProfiles.2 ⟨hp, hmode⟩, decide_eq_true rfl⟩
    exact List.mem_map.2 ⟨_, (hspec.mem _ _).2 ⟨rfl, List.ne_nil_of_mem hgroup⟩, rfl⟩

theorem pingWorkers_pos (maxWorkers : Int) (probes : Nat) : 0 < pingWorkers maxWorkers probes :=
  Nat.lt_of_lt_of_le Nat.one_pos (Nat.le_max_left _ _)

/-! ## The results -/

/-- A completed probe has its result. -/
theorem probeResults_of_mem {completed : List ProbeKey} (h : key ∈ completed) :
    probeResults executor completed key = some (probeResultOf (executor key)) :=
  storeAll_of_mem (f := id) h fun _ _ heq => heq

/-- No result is missing when the probes of all profiles are completed. -/
theorem resultsOf_completed {completed : List ProbeKey}
    (h : ∀ profile ∈ activeProfiles profiles, profile.probeKey ∈ completed) :
    resultsOf profiles (probeResults executor completed) = some (ownResults executor profiles) := by
  have hpairs : ((activeProfiles profiles).mapM fun profile =>
      (probeResults executor completed profile.probeKey).map (profile.profileId, ·)) =
      some ((activeProfiles profiles).map (ownResult executor)) := by
    refine mapM_eq_some_map fun profile hp => ?_
    rw [probeResults_of_mem (h profile hp)]
    rfl
  unfold resultsOf
  rw [hpairs]
  rfl

/-- What is called and what is returned, whatever the order in which the probes are finished. -/
theorem RunPingChecks.outcome (h : RunPingChecks executor profiles maxWorkers calls returned) :
    calls = (byProbe profiles).map Prod.fst ∧ returned = some (ownResults executor profiles) := by
  cases h with
  | none h =>
    have hactive : activeProfiles profiles = [] := by
      refine List.eq_nil_iff_forall_not_mem.2 fun profile hp => ?_
      obtain ⟨hp, hmode⟩ := mem_activeProfiles.1 hp
      have hkey := mem_probes.2 ⟨profile, hp, hmode, rfl⟩
      rw [h] at hkey
      cases hkey
    rw [h, ownResults, hactive]
    exact ⟨rfl, rfl⟩
  | run h hr hd =>
    refine ⟨hr.started_eq hd, resultsOf_completed fun profile hp => ?_⟩
    obtain ⟨hp, hmode⟩ := mem_activeProfiles.1 hp
    exact (hr.collected_perm hd).mem_iff.2 (mem_probes.2 ⟨profile, hp, hmode, rfl⟩)

theorem exists_runPingChecks (executor : ProbeKey → Except ε Returned) (profiles : List ManagedProfile)
    (maxWorkers : Int) : ∃ calls returned, RunPingChecks executor profiles maxWorkers calls returned := by
  by_cases h : byProbe profiles = []
  · exact ⟨_, _, .none h⟩
  · obtain ⟨s, hr, hd⟩ := Executor.exists_done
      (pingWorkers_pos maxWorkers (byProbe profiles).length)
      { waiting := (byProbe profiles).map Prod.fst }
    exact ⟨_, _, .run h hr hd⟩

theorem mem_ids_ownResults {profileId : String} :
    profileId ∈ (ownResults executor profiles).map Prod.fst ↔
      ∃ profile ∈ profiles, profile.config.mode ≠ .disabled ∧ profile.profileId = profileId := by
  unfold ownResults
  rw [mem_keys_dictionary, List.map_map, List.mem_map]
  constructor
  · rintro ⟨profile, hp, rfl⟩
    obtain ⟨hp, hmode⟩ := mem_activeProfiles.1 hp
    exact ⟨profile, hp, hmode, rfl⟩
  · rintro ⟨profile, hp, hmode, rfl⟩
    exact ⟨profile, mem_activeProfiles.2 ⟨hp, hmode⟩, rfl⟩

/-- The last profile with an id has its own result under that id. -/
theorem mem_ownResults {earlier later : List ManagedProfile}
    (hsplit : activeProfiles profiles = earlier ++ profile :: later)
    (hlast : ∀ other ∈ later, other.profileId ≠ profile.profileId) :
    (profile.profileId, probeResultOf (executor profile.probeKey)) ∈ ownResults executor profiles := by
  unfold ownResults
  rw [hsplit, List.map_append, List.map_cons]
  refine mem_dictionary_append fun pair hpair => ?_
  obtain ⟨other, hother, rfl⟩ := List.mem_map.1 hpair
  exact hlast other hother

/-- **Probe sharing.** However the thread pool runs the probes, the run ends: it does not get stuck, and
there is no infinite run. Then the executor was called once for each destination and timeout of the
profiles that are not disabled, and for no other, and the mapping has exactly the ids of these profiles
with the results of their own probes, the same in every run. -/
theorem probes_are_shared (executor : ProbeKey → Except ε Returned) (profiles : List ManagedProfile)
    (maxWorkers : Int) :
    (∀ s, Executor.Reachable (pingWorkers maxWorkers (byProbe profiles).length)
        ((byProbe profiles).map Prod.fst) s →
      Acc (fun s' s => Executor.Step (pingWorkers maxWorkers (byProbe profiles).length) s s') s ∧
      (s.Done ∨ ∃ s', Executor.Step (pingWorkers maxWorkers (byProbe profiles).length) s s')) ∧
    (∃ calls returned, RunPingChecks executor profiles maxWorkers calls returned) ∧
    ∀ calls returned, RunPingChecks executor profiles maxWorkers calls returned →
      calls.Nodup ∧
      (∀ key, key ∈ calls ↔
        ∃ profile ∈ profiles, profile.config.mode ≠ .disabled ∧ profile.probeKey = key) ∧
      ∃ results, returned = some results ∧ (results.map Prod.fst).Nodup ∧
        (∀ profileId, profileId ∈ results.map Prod.fst ↔
          ∃ profile ∈ profiles, profile.config.mode ≠ .disabled ∧ profile.profileId = profileId) ∧
        (∀ earlier profile later, activeProfiles profiles = earlier ++ profile :: later →
          (∀ other ∈ later, other.profileId ≠ profile.profileId) →
          (profile.profileId, probeResultOf (executor profile.probeKey)) ∈ results) ∧
        ∀ calls' returned', RunPingChecks executor profiles maxWorkers calls' returned' →
          returned' = some results := by
  refine ⟨fun s _ => ⟨Executor.acc_step _ s, ?_⟩, exists_runPingChecks executor profiles maxWorkers, ?_⟩
  · by_cases hd : s.Done
    · exact .inl hd
    · exact .inr (Executor.exists_step (pingWorkers_pos _ _) hd)
  · intro calls returned h
    obtain ⟨rfl, hreturned⟩ := h.outcome
    refine ⟨nodup_probes, fun key => mem_probes, _, hreturned, nodup_dictionary, ?_, ?_, ?_⟩
    · exact fun profileId => mem_ids_ownResults
    · exact fun earlier profile later hsplit hlast => mem_ownResults hsplit hlast
    · exact fun calls' returned' h' => h'.outcome.2

end Watchdog
