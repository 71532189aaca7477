import GostManager.Monitoring.Administration
import GostManager.Monitoring.Proofs.ConfigurationProofs
import GostManager.Texts.Proofs.PathsProofs

/-!
# Proofs: which database and which lock

Under the policy of the installed service every database is within the directory of the state. The collector and the
administration come to the same database and to the same lock.
-/

namespace Monitoring.Administration

open Monitoring.Configuration Texts
open Effects (bind_eq_ok)

variable {fs : FileSystem} {root : Option Text} {text raw : Text} {path : PurePath}
  {config : Configuration.MonitoringConfig}

/-! ## Paths below the root -/

/-- Where a path is below the root. -/
def located (root : Option Text) (path : PurePath) : PurePath := ((boundaryOf root).map (·.below path)).getD path

theorem names_located : (located root path).names = rootNames root ++ path.names := by
  unfold located rootNames
  cases boundaryOf root with
  | none => rfl
  | some boundary => rfl

/-- A root that `rooted_path` takes. -/
def IsRoot (fs : FileSystem) (root : Option Text) : Prop :=
  ∀ boundary ∈ boundaryOf root, boundary.isAbsolute = true ∧ fs.isSymlink boundary = false

theorem rootedPath_eq_ok : rootedPath fs text root = .ok path ↔
    (PurePath.ofText text).isAbsolute = true ∧ IsRoot fs root ∧ path = located root (PurePath.ofText text) := by
  unfold rootedPath
  by_cases hrelative : (PurePath.ofText text).isAbsolute = false
  · rw [if_pos hrelative]
    refine iff_of_false (fun h => by cases h) fun h => ?_
    rw [h.1] at hrelative
    cases hrelative
  rw [if_neg hrelative]
  rw [Bool.not_eq_false] at hrelative
  cases root with
  | none =>
    refine ⟨fun h => ⟨hrelative, nofun, (Except.ok.inj h).symm⟩, fun h => congrArg Except.ok h.2.2.symm⟩
  | some root =>
    by_cases hempty : root = []
    · subst hempty
      refine ⟨fun h => ⟨hrelative, nofun, (Except.ok.inj h).symm⟩, fun h => congrArg Except.ok h.2.2.symm⟩
    · have hboundary : boundaryOf (some root) = some (PurePath.ofText root) := by
        unfold boundaryOf
        rw [Option.filter_some, if_pos (decide_eq_true hempty)]
        rfl
      have hlocated : located (some root) (PurePath.ofText text) =
        (PurePath.ofText root).below (PurePath.ofText text) := by
        unfold located
        rw [hboundary]
        rfl
      have hroot : IsRoot fs (some root) ↔
          (PurePath.ofText root).isAbsolute = true ∧ fs.isSymlink (PurePath.ofText root) = false := by
        unfold IsRoot
        rw [hboundary]
        simp
      dsimp only
      rw [if_neg hempty, hlocated, hroot]
      by_cases hunsafe : (PurePath.ofText root).isAbsolute = false ∨ fs.isSymlink (PurePath.ofText root) = true
      · rw [if_pos hunsafe]
        refine iff_of_false (fun h => by cases h) ?_
        rintro ⟨-, ⟨habsolute, hreal⟩, -⟩
        rw [habsolute, hreal] at hunsafe
        exact hunsafe.elim nofun nofun
      · rw [if_neg hunsafe]
        rw [not_or, Bool.not_eq_false, Bool.not_eq_true] at hunsafe
        exact ⟨fun h => ⟨hrelative, hunsafe, (Except.ok.inj h).symm⟩, fun h => congrArg Except.ok h.2.2.symm⟩

theorem isAbsolute_located (h : path.isAbsolute = true) (hroot : IsRoot fs root) :
    (located root path).isAbsolute = true := by
  unfold located
  cases hboundary : boundaryOf root with
  | none => exact h
  | some boundary => exact (hroot boundary hboundary).1

theorem mem_drop_range {m k n : Nat} : n ∈ (List.range m).drop k ↔ k ≤ n ∧ n < m := by
  rw [List.range_eq_range', List.drop_range', List.mem_range'_1]
  omega

theorem rejectSymlinkComponents_eq_ok : rejectSymlinkComponents fs path (boundaryOf root) = .ok () ↔
    ∀ n, (rootNames root).length ≤ n → n ≤ path.names.length → fs.isSymlink (path.take n) = false := by
  have hdepth : ((boundaryOf root).map (·.names.length)).getD 0 = (rootNames root).length := by
    unfold rootNames
    cases boundaryOf root with
    | none => rfl
    | some boundary => rfl
  have hnone : (((List.range (path.names.length + 1)).drop (rootNames root).length).map path.take).find?
    fs.isSymlink = none ↔
      ∀ n, (rootNames root).length ≤ n → n ≤ path.names.length → fs.isSymlink (path.take n) = false := by
    simp only [List.find?_eq_none, List.forall_mem_map, mem_drop_range, Bool.not_eq_true, and_imp, Nat.lt_succ_iff]
  unfold rejectSymlinkComponents
  dsimp only
  rw [hdepth, ← hnone]
  cases (((List.range (path.names.length + 1)).drop (rootNames root).length).map path.take).find? fs.isSymlink with
  | none => exact iff_of_true rfl rfl
  | some current => exact iff_of_false (fun h => by cases h) (fun h => by cases h)

theorem pathUnder_eq_true (h : pathUnder raw installedStateDir false = true) :
    ∃ rest, rest ≠ [] ∧ (PurePath.ofText raw).names = (PurePath.ofText installedStateDir).names ++ rest := by
  unfold pathUnder at h
  dsimp only at h
  split at h
  · cases h
  · obtain ⟨-, rest, hrest, hnames⟩ := PurePath.mem_parents.1 (of_decide_eq_true h)
    exact ⟨rest, hrest, hnames⟩

/-- What the policy of the installed service asks. -/
structure IsInstalled (fs : FileSystem) (root : Option Text) (config : Configuration.MonitoringConfig) : Prop where
  dbPath : pathUnder config.dbPath installedStateDir false = true
  envDir : pathUnder config.envDir installedEnvDir true = true
  dbAbsolute : (PurePath.ofText config.dbPath).isAbsolute = true
  envAbsolute : (PurePath.ofText config.envDir).isAbsolute = true
  isRoot : IsRoot fs root
  real : ∀ n, (rootNames root).length ≤ n → n ≤ (located root (PurePath.ofText config.dbPath)).names.length →
    fs.isSymlink ((located root (PurePath.ofText config.dbPath)).take n) = false
  regular : fs.isThere (located root (PurePath.ofText config.dbPath)) = true →
    fs.isFile (located root (PurePath.ofText config.dbPath)) = true

theorem isInstalled_of_validate {result : Configuration.MonitoringConfig}
    (h : validateInstalledConfig fs config root = .ok result) : result = config ∧ IsInstalled fs root config := by
  unfold validateInstalledConfig at h
  split at h
  · cases h
  next hdb =>
  split at h
  · cases h
  next henv =>
  rw [Bool.not_eq_false] at hdb henv
  obtain ⟨dbPath, hdbPath, h⟩ := bind_eq_ok.1 h
  obtain ⟨envPath, henvPath, h⟩ := bind_eq_ok.1 h
  obtain ⟨_, hdbReal, h⟩ := bind_eq_ok.1 h
  obtain ⟨_, henvReal, h⟩ := bind_eq_ok.1 h
  obtain ⟨hdbAbsolute, hroot, rfl⟩ := rootedPath_eq_ok.1 hdbPath
  obtain ⟨henvAbsolute, -, rfl⟩ := rootedPath_eq_ok.1 henvPath
  split at h
  · cases h
  next hregular =>
  split at h
  · cases h
  obtain rfl := Except.ok.inj h
  refine ⟨rfl, hdb, henv, hdbAbsolute, henvAbsolute, hroot, rejectSymlinkComponents_eq_ok.1 hdbReal, fun hthere => ?_⟩
  exact Bool.ne_false_iff.1 fun hfile => hregular ⟨hthere, hfile⟩

/-! ## The administration -/

theorem safeDatabasePath_eq_ok {mustExist : Bool} (h : safeDatabasePath fs text mustExist = .ok path) :
    path = PurePath.ofText text ∧ path.isAbsolute = true ∧ path.text = normpath path.text ∧
      (∀ n, 1 ≤ n → n ≤ path.names.length → fs.isSymlink (path.take n) = false) ∧
      (fs.isThere path = true → fs.isFile path = true) := by
  unfold safeDatabasePath at h
  dsimp only at h
  split at h
  · cases h
  next hnormal =>
  split at h
  · cases h
  next hreal =>
  split at h
  · cases h
  split at h
  · cases h
  next hregular =>
  obtain rfl := Except.ok.inj h
  rw [not_or, Bool.not_eq_false, not_not] at hnormal
  refine ⟨rfl, hnormal.1, hnormal.2, fun n hn hlength => ?_, fun hthere => ?_⟩
  · rw [Bool.not_eq_true, List.any_eq_false] at hreal
    have hmem : n ∈ (List.range ((PurePath.ofText text).names.length + 1)).drop 1 :=
      mem_drop_range.2 ⟨hn, Nat.lt_succ_of_le hlength⟩
    exact Bool.eq_false_iff.2 (hreal _ (List.mem_map_of_mem hmem))
  · exact Bool.ne_false_iff.1 fun hfile => hregular ⟨hthere, hfile⟩

theorem upright_of_normpath (habsolute : path.root ≠ .relative) (h : normpath path.text = path.text) :
    parentName ∉ path.names := by
  have hread := PurePath.ofText_text habsolute
  have hroot : pathRoot path.text = path.root := congrArg PurePath.root hread
  have hupright := (of_normpath_eq (hroot ▸ habsolute) h).2
  rwa [hread] at hupright

theorem loadConfig_eq_ok {content : Except String Text} {policy : ConfigPolicy}
    (h : loadConfig fs path content policy root = .ok config) :
    config.Valid ∧ applyConfigPolicy fs config policy root = .ok config := by
  unfold loadConfig at h
  split at h
  · cases h
  split at h
  · cases h
  obtain ⟨parsed, hparsed, h⟩ := bind_eq_ok.1 h
  obtain ⟨-, hvalid, -⟩ := parseConfigText_eq_entries.1 hparsed
  cases policy with
  | generic =>
    obtain rfl := Except.ok.inj h
    exact ⟨hvalid, rfl⟩
  | installed =>
    obtain ⟨rfl, -⟩ := isInstalled_of_validate h
    exact ⟨hvalid, h⟩

/-- What is resolved under the policy of the installed service. -/
theorem resolved_eq_ok (h : resolved fs .installed root raw = .ok text) :
    text = (located root (PurePath.ofText raw)).text ∧ PurePath.ofText text = located root (PurePath.ofText raw) := by
  obtain ⟨path, hpath, htext⟩ := bind_eq_ok.1 h
  obtain rfl := Except.ok.inj htext
  obtain ⟨habsolute, hroot, rfl⟩ := rootedPath_eq_ok.1 hpath
  refine ⟨rfl, PurePath.ofText_text fun hrelative => ?_⟩
  have hlocated := isAbsolute_located habsolute hroot
  unfold PurePath.isAbsolute at hlocated
  exact of_decide_eq_true hlocated hrelative

theorem isInstalled_of_resolve {args : AdminArguments} {content : Except String Text}
    (hpolicy : args.policy = .installed)
    (h : resolveDatabase fs content args = .ok text) : ∃ config : Configuration.MonitoringConfig,
      IsInstalled fs args.pathRoot config ∧
        PurePath.ofText text = located args.pathRoot (PurePath.ofText config.dbPath) := by
  unfold resolveDatabase at h
  rw [hpolicy] at h
  split at h
  next raw hraw =>
    obtain ⟨_, hconfig, h⟩ := bind_eq_ok.1 h
    exact ⟨_, (isInstalled_of_validate hconfig).2, (resolved_eq_ok h).2⟩
  next =>
    obtain ⟨config, hconfig, h⟩ := bind_eq_ok.1 h
    unfold loadForArgs at hconfig
    rw [hpolicy] at hconfig
    exact ⟨config, (isInstalled_of_validate (loadConfig_eq_ok hconfig).2).2, (resolved_eq_ok h).2⟩

/-- No command of the administration leaves the directory of the state, whatever is asked for and configured. -/
theorem databasePath_confined {args : AdminArguments} {content : Except String Text} {mustExist : Bool}
    (hpolicy : args.policy = .installed) (h : databasePath fs content args mustExist = .ok path) :
    IsConfined fs args.pathRoot path ∧ parentName ∉ path.names ∧
      ∀ n, 1 ≤ n → n ≤ path.names.length → fs.isSymlink (path.take n) = false := by
  unfold databasePath at h
  split at h
  · cases h
  next raw hresolve =>
  obtain ⟨config, hinstalled, hlocated⟩ := isInstalled_of_resolve hpolicy hresolve
  obtain ⟨rfl, habsolute, hnormal, hreal, hregular⟩ := safeDatabasePath_eq_ok h
  obtain ⟨rest, hrest, hnames⟩ := pathUnder_eq_true hinstalled.dbPath
  have hupright : parentName ∉ (PurePath.ofText raw).names :=
    upright_of_normpath (of_decide_eq_true habsolute) hnormal.symm
  refine ⟨⟨⟨rest, hrest, ?_⟩, fun hmem => hupright (List.mem_of_mem_drop hmem), ?_, hregular⟩, hupright, hreal⟩
  · rw [hlocated, names_located, hnames, List.append_assoc]
  · rw [hlocated]
    exact hinstalled.real

/-- A system without symlinks, on which there is the database of the defaults. -/
def plainFiles : FileSystem where
  isSymlink _ := false
  isThere path := path.text = Configuration.MonitoringConfig.dbPath {}
  isFile path := path.text = Configuration.MonitoringConfig.dbPath {}
  isDir _ := false

theorem databasePath_confined_default :
    IsConfined plainFiles none (PurePath.ofText (Configuration.MonitoringConfig.dbPath {})) ∧
      parentName ∉ (PurePath.ofText (Configuration.MonitoringConfig.dbPath {})).names ∧
      ∀ n, 1 ≤ n → n ≤ (PurePath.ofText (Configuration.MonitoringConfig.dbPath {})).names.length →
        plainFiles.isSymlink ((PurePath.ofText (Configuration.MonitoringConfig.dbPath {})).take n) = false :=
  databasePath_confined (show ({} : AdminArguments).policy = .installed from rfl)
    (show databasePath plainFiles (.ok defaultConfigText) {} true = .ok _ by decide +kernel)

/-! ## The collector -/

theorem isSafePath_upright {value : Text} (h : IsSafePath value) : parentName ∉ (PurePath.ofText value).names :=
  (of_normpath_eq (pathRoot_ne_relative (head?_of_safePathRe h.safe)) h.normal).2

/-- The collector does not leave it either. -/
theorem collectorPaths_confined {args : CollectorArguments} {content : Except String Text}
    {environment : Text → Option Text} {paths : CollectorPaths} (hpolicy : args.policy = .installed)
    (h : collectorPaths fs content environment args = .ok paths) :
    IsConfined fs args.pathRoot (PurePath.ofText paths.db) := by
  unfold collectorPaths at h
  obtain ⟨active, hactive, h⟩ := bind_eq_ok.1 h
  obtain ⟨db, hdb, h⟩ := bind_eq_ok.1 h
  obtain ⟨envDir, -, h⟩ := bind_eq_ok.1 h
  have hpaths : paths.db = db := by
    split at h
    · obtain ⟨_, -, h⟩ := bind_eq_ok.1 h
      exact (congrArg CollectorPaths.db (Except.ok.inj h)).symm
    · exact (congrArg CollectorPaths.db (Except.ok.inj h)).symm
  rw [hpolicy] at hdb
  obtain ⟨-, hlocated⟩ := resolved_eq_ok hdb
  unfold activeConfig at hactive
  obtain ⟨_, -, hactive⟩ := bind_eq_ok.1 hactive
  obtain ⟨config, hconfig, hactive⟩ := bind_eq_ok.1 hactive
  obtain ⟨-, hvalid, -⟩ := configFromMapping_eq_ok.1 hconfig
  rw [hpolicy] at hactive
  obtain ⟨rfl, hinstalled⟩ := isInstalled_of_validate hactive
  obtain ⟨rest, hrest, hnames⟩ := pathUnder_eq_true hinstalled.dbPath
  rw [hpaths, hlocated]
  refine ⟨⟨rest, hrest, ?_⟩, ?_, hinstalled.real, hinstalled.regular⟩
  · rw [names_located, hnames, List.append_assoc]
  · rw [names_located, List.drop_left]
    exact isSafePath_upright hvalid.dbPath

/-- Without options that stand over the configuration, the collector keeps what it has loaded. -/
theorem activeConfig_eq {args : CollectorArguments} {content : Except String Text} {environment : Text → Option Text}
    (hoverride : ∀ key, args.override key = none) (hconfig : args.config = some text) (hne : text ≠ []) :
    activeConfig fs content environment args =
      loadConfig fs (PurePath.ofText text) content args.policy args.pathRoot := by
  have henvironment : environmentConfig fs content environment args =
      loadConfig fs (PurePath.ofText text) content args.policy args.pathRoot := by
    unfold environmentConfig
    rw [hconfig, Option.filter_some, if_pos (decide_eq_true hne)]
  unfold activeConfig
  rw [henvironment]
  cases hloaded : loadConfig fs (PurePath.ofText text) content args.policy args.pathRoot with
  | error exception => rfl
  | ok config =>
    obtain ⟨hvalid, hpolicy⟩ := loadConfig_eq_ok hloaded
    have hoverrides : overrides args config = config.asMapping := by
      unfold overrides
      simp only [hoverride, Option.getD_none, List.map_id']
    refine bind_eq_ok.2 ⟨config, rfl, bind_eq_ok.2 ⟨config, ?_, hpolicy⟩⟩
    exact hoverrides ▸ configFromMapping_asMapping hvalid

theorem override_none {policy : ConfigPolicy} {config : Option Text} (key : Text) :
    CollectorArguments.override { policy, pathRoot := root, config } key = none := by
  unfold CollectorArguments.override
  dsimp only
  cases Interval.all.find? (·.key = key) with
  | none => rw [Option.bind_none, ite_self, ite_self]
  | some interval => rw [Option.bind_some, ite_self, ite_self]

theorem resolved_of_isRoot (habsolute : (PurePath.ofText raw).isAbsolute = true) (hroot : IsRoot fs root) :
    resolved fs .installed root raw = .ok (located root (PurePath.ofText raw)).text :=
  bind_eq_ok.2 ⟨_, rootedPath_eq_ok.2 ⟨habsolute, hroot, rfl⟩, rfl⟩

theorem rootedPath_lock (hroot : IsRoot fs root) :
    rootedPath fs defaultLockPath root = .ok (located root (PurePath.ofText defaultLockPath)) :=
  rootedPath_eq_ok.2 ⟨by decide, hroot, rfl⟩

theorem resolveLock_eq {args : AdminArguments}
    (hroot : IsRoot fs args.pathRoot) (hlock : args.lockPath = defaultLockPath) :
    resolveLock fs args = .ok (located args.pathRoot (PurePath.ofText defaultLockPath)).text := by
  unfold resolveLock
  by_cases hnone : args.pathRoot.filter (· ≠ []) = none
  · have hlocated : located args.pathRoot (PurePath.ofText defaultLockPath) = PurePath.ofText defaultLockPath := by
      unfold located boundaryOf
      rw [hnone]
      rfl
    rw [if_neg fun h => h.1 hnone, hlock, hlocated]
    rfl
  · rw [if_pos ⟨hnone, hlock⟩, rootedPath_lock hroot]
    rfl

/-- With one configuration file and one root, the collector and the administration come to the same database and the
same lock, or fail alike. -/
theorem collectorPaths_eq {config : Text} {content : Except String Text} {environment : Text → Option Text}
    (hne : config ≠ []) :
    (collectorPaths fs content environment { pathRoot := root, config := some config }).map
        (fun paths => (paths.db, paths.lock)) =
      (do
        let db ← resolveDatabase fs content { pathRoot := root, config }
        let lock ← resolveLock fs { pathRoot := root, config }
        return (db, some lock)) := by
  have hactive : activeConfig fs content environment { pathRoot := root, config := some config } =
      loadConfig fs (PurePath.ofText config) content .installed root := activeConfig_eq override_none rfl hne
  have hload : loadForArgs fs content { pathRoot := root, config } =
      loadConfig fs (PurePath.ofText config) content .installed root := rfl
  unfold collectorPaths resolveDatabase
  rw [hactive, Option.filter_none]
  dsimp only
  rw [hload]
  cases hloaded : loadConfig fs (PurePath.ofText config) content .installed root with
  | error exception => rfl
  | ok loaded =>
    obtain ⟨-, hinstalled⟩ := isInstalled_of_validate (loadConfig_eq_ok hloaded).2
    have hdb := resolved_of_isRoot hinstalled.dbAbsolute hinstalled.isRoot
    have henv := resolved_of_isRoot hinstalled.envAbsolute hinstalled.isRoot
    have hlock : resolveLock fs { pathRoot := root, config } = _ := resolveLock_eq hinstalled.isRoot rfl
    have hok {α β : Type} (a : α) (f : α → Loading β) : (Except.ok a >>= f) = f a := rfl
    simp only [hok, hdb, henv, hlock, rootedPath_lock hinstalled.isRoot]
    rfl

theorem collectorPaths_eq_default :
    (collectorPaths plainFiles (.ok defaultConfigText) (fun _ => none) { config := some defaultConfigPath }).map
        (fun paths => (paths.db, paths.lock)) = .ok (Configuration.MonitoringConfig.dbPath {}, some defaultLockPath) :=
  (collectorPaths_eq (by decide)).trans (by decide +kernel)

end Monitoring.Administration
