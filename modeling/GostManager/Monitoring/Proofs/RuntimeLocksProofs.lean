import GostManager.Effects.Proofs.LocksProofs
import GostManager.Monitoring.RuntimeLocks
import GostManager.Monitoring.Proofs.AdministrationProofs
import GostManager.Monitoring.Proofs.PurgesProofs

/-!
# Proofs: the runtime lock

A process by itself takes the lock before its first operation on the history, and gives it back after its last one.
What a purge keeps by itself it then keeps among collectors and other purges.
-/

namespace Monitoring.RuntimeLocks

open Administration Monitoring.Configuration Effects Prog Purges Texts

variable {δ : Type} {fs : FileSystem} {path : PurePath} {layout : Layout δ} {roles : Nat → Role} {pid : Nat}
  {found now host : Host δ} {op : HostOp} {v : Option (Host δ × Host δ)} {α : Type}

/-! ## What is asked of each process -/

/-- The database can be read. -/
def Readable (host : Host δ) : Prop := host.dir.seen ≠ none

/-- What a process may have done since it took the lock. -/
structure Allowed (layout : Layout δ) (role : Role) (found now : Host δ) : Prop where
  readable : Readable now
  mayChange : MayChange layout role found.dir now.dir

/-- The operations that a process may issue while it holds the lock. -/
def Guarded (layout : Layout δ) (role : Role) (pid : Nat) (found now : Host δ) : HostOp → Prop
  | .purge op => now.text = pidText pid ∧
    ∃ history, found.dir.seen = some history ∧ (purgeContract layout history).guard now.dir op
  | .collect => now.text = pidText pid ∧ ∃ transactions, role = .collector transactions
  | _ => True

/-- The contract of a process. -/
def contract (fs : FileSystem) (path : PurePath) (layout : Layout δ) (roles : Nat → Role) (pid : Nat) :
    Prog.Contract (LockOp HostOp) (LockOp.Ans HostAns Refusal) (Option (Host δ × Host δ)) :=
  (processes fs path layout roles).alone pid Readable (fun op => op.needsLock = false) (Guarded layout (roles pid) pid)

/-- An operation that needs no lock changes nothing. -/
theorem eq_of_needsLock_eq_false {a : HostAns op} {host' : Host δ} (hop : op.needsLock = false)
    (ha : answers layout host op a host') : host' = host := by
  cases op with
  | lockFile s =>
    cases s with
    | truncate => cases hop
    | write text => cases hop
    | mkdir | chmodParent | openFile | fstat | fchmod | fsync => exact ha
  | isDirectory | isSymlink | isRegular => exact ha
  | purge op => cases hop
  | collect => cases hop

theorem dir_of_lockFile {s : LockStep} {a : HostAns (.lockFile s)} {host' : Host δ}
    (ha : answers layout host (.lockFile s) a host') : host'.dir = host.dir := by
  cases s with
  | truncate =>
    cases a with
    | ok u =>
      obtain rfl : host' = { host with text := [] } := ha
      rfl
    | error e =>
      obtain rfl : host' = host := ha
      rfl
  | write text =>
    cases a with
    | ok u =>
      obtain rfl : host' = { host with text := text } := ha
      rfl
    | error e => exact ha
  | mkdir | chmodParent | openFile | fstat | fchmod | fsync =>
    obtain rfl : host' = host := ha
    rfl

theorem readable_of_shows {history : δ} (h : Shows layout history now.dir) : Readable now := by
  obtain ⟨db, hseen, -⟩ := h
  exact Option.ne_none_iff_exists'.2 ⟨db, hseen⟩

theorem mayChange_of_shows {role : Role} {history : δ} (hfound : found.dir.seen = some history)
    (h : Shows layout history now.dir) : MayChange layout role found.dir now.dir := by
  cases role with
  | collector transactions => trivial
  | purge failPhase located => exact ⟨history, hfound, h⟩

theorem Allowed.dir {role : Role} {now' : Host δ} (h : Allowed layout role found now) (hdir : now'.dir = now.dir) :
    Allowed layout role found now' := by
  refine ⟨?_, ?_⟩
  · rw [Readable, hdir]
    exact h.readable
  · rw [hdir]
    exact h.mayChange

/-- Each operation under its guard keeps what is allowed. -/
theorem keeps_allowed : (processes fs path layout roles).Keeps Readable (fun pid => Allowed layout (roles pid))
    (fun op => op.needsLock = false) (fun pid => Guarded layout (roles pid) pid) where
  free _ _ _ _ _ hop ha := eq_of_needsLock_eq_false hop ha
  taken pid host h := by
    obtain ⟨history, hhistory⟩ := Option.ne_none_iff_exists'.1 h
    exact ⟨h, mayChange_of_shows hhistory (.of_seen hhistory)⟩
  kept pid found now op a now' hallowed hguard ha := by
    cases op with
    | lockFile s => exact hallowed.dir (dir_of_lockFile ha)
    | isDirectory => exact hallowed.dir (congrArg Host.dir (show now' = now from ha))
    | isSymlink => exact hallowed.dir (congrArg Host.dir (show now' = now from ha))
    | isRegular => exact hallowed.dir (congrArg Host.dir (show now' = now from ha))
    | purge op =>
      obtain ⟨-, history, hhistory, hshows⟩ := hguard
      have hnow : Shows layout history now'.dir := hshows a now'.dir ha.2
      exact ⟨readable_of_shows hnow, mayChange_of_shows hhistory hnow⟩
    | collect =>
      obtain ⟨-, transactions, hrole⟩ := hguard
      refine ⟨ha.2.seen, ?_⟩
      rw [hrole]
      trivial
  given _ _ _ h := h.readable

/-! ## Taking the lock -/

/-- The lock was taken, nothing was changed since, and the lock file says by whom. -/
def Claimed (pid : Nat) (v : Option (Host δ × Host δ)) : Prop :=
  ∃ found now, v = some (found, now) ∧ Readable found ∧ now.dir = found.dir ∧ now.text = pidText pid

theorem wp_ask {Q : Except HostException (HostAns op) → Option (Host δ × Host δ) → Prop} (hop : op.needsLock = false)
    (hQ : ∀ a, Q (.ok a) v) : wp (contract fs path layout roles pid) (ask op) Q v := by
  cases v with
  | none =>
    refine wp_perform.2 ⟨hop, fun a v' ha => ?_⟩
    obtain ⟨rfl, -⟩ := ha
    exact hQ a
  | some v =>
    obtain ⟨found, now⟩ := v
    refine wp_perform.2 ⟨?_, fun a v' ha => ?_⟩
    · cases op with
      | lockFile | isDirectory | isSymlink | isRegular => trivial
      | purge => cases hop
      | collect => cases hop
    · obtain ⟨now', ha, rfl⟩ := ha
      rw [eq_of_needsLock_eq_false hop ha]
      exact hQ a

theorem wp_lockStep {s : LockStep} (hs : (HostOp.lockFile s).needsLock = false) :
    wp (contract fs path layout roles pid) (lockStep s) (Post (fun _ v' => v' = v) fun v' => v' = v) v := by
  unfold lockStep
  refine wp_bind.2 (wp_ask hs fun a => ?_)
  cases a with
  | ok u => exact rfl
  | error e => exact rfl

theorem wp_orRefuse {p : Work Unit} {message : String} {χ : Unit → Option (Host δ × Host δ) → Prop}
    {ψ : Option (Host δ × Host δ) → Prop} (hp : wp (contract fs path layout roles pid) p (Post χ ψ) v) :
    wp (contract fs path layout roles pid) (orRefuse p message) (Post χ ψ) v := by
  unfold orRefuse
  refine Post.handle hp fun e v' hv' => ?_
  cases e with
  | step e => exact wp_ite.2 ⟨fun _ => wp_raise.2 hv', fun _ => wp_raise.2 hv'⟩
  | runtimeLockError message => exact wp_raise.2 hv'
  | purge e => exact wp_raise.2 hv'

/-- Nothing is done to the host before the lock is taken. -/
theorem wp_validateParent :
    wp (contract fs path layout roles pid) (validateParent fs path) (Post (fun _ v' => v' = v) fun v' => v' = v) v := by
  unfold validateParent
  refine wp_ite.2 ⟨fun _ => wp_raise.2 rfl, fun _ => wp_ite.2 ⟨fun _ => wp_raise.2 rfl, fun _ => ?_⟩⟩
  refine Post.bind (wp_orRefuse (wp_lockStep rfl)) fun _ v₁ h₁ => ?_
  subst h₁
  refine wp_bind.2 (wp_ask rfl fun directory => wp_ite.2 ⟨fun _ => wp_raise.2 rfl, fun _ => ?_⟩)
  exact wp_orRefuse (wp_lockStep rfl)

theorem wp_flock : wp (contract fs path layout roles pid) flock
    (Post (fun _ v' => ∃ found, v' = some (found, found) ∧ Readable found) fun _ => True) none := by
  unfold flock
  refine wp_bind.2 (wp_perform.2 ⟨trivial, fun a v' ha => ?_⟩)
  cases a with
  | ok u =>
    obtain ⟨-, host, hhost, rfl⟩ := ha
    exact ⟨host, rfl, hhost⟩
  | error refusal => exact trivial

theorem wp_unlock :
    wp (contract fs path layout roles pid) unlock (Post (fun _ v' => v' = none) fun _ => True) v := by
  unfold unlock
  cases v with
  | none =>
    refine wp_bind.2 (wp_perform.2 ⟨trivial, fun a v' ha => ?_⟩)
    cases a with
    | ok u => exact ha
    | error refusal => cases refusal <;> exact trivial
  | some v =>
    refine wp_bind.2 (wp_perform.2 ⟨trivial, fun a v' ha => ?_⟩)
    cases a with
    | ok u => exact ha
    | error refusal => cases refusal <;> exact trivial

/-- A step on the lock file by the holder of the lock. -/
theorem wp_lockStep_holder {s : LockStep} {φ : Host δ → Prop}
    (h : ∀ now', answers layout now (.lockFile s) (.ok ()) now' → φ now') :
    wp (contract fs path layout roles pid) (lockStep s)
      (Post (fun _ v' => ∃ now', v' = some (found, now') ∧ φ now') fun _ => True) (some (found, now)) := by
  unfold lockStep
  refine wp_bind.2 (wp_perform.2 ⟨trivial, fun a v' ha => ?_⟩)
  obtain ⟨now', ha, rfl⟩ := ha
  cases a with
  | ok u => exact ⟨now', rfl, h now' ha⟩
  | error e => exact trivial

theorem wp_claim :
    wp (contract fs path layout roles pid) (claim pid) (Post (fun _ => Claimed pid) fun _ => True) none := by
  unfold claim
  refine Post.bind (Post.weaken (wp_lockStep rfl) fun _ _ => trivial) fun _ v hv => ?_
  subst hv
  refine wp_bind.2 (wp_ask rfl fun regular => wp_ite.2 ⟨fun _ => wp_raise.2 trivial, fun _ => ?_⟩)
  refine Post.bind (Post.weaken (wp_lockStep rfl) fun _ _ => trivial) fun _ v hv => ?_
  subst hv
  refine Post.bind wp_flock fun _ v hv => ?_
  obtain ⟨found, rfl, hfound⟩ := hv
  refine Post.bind (wp_lockStep_holder (φ := fun now => now.dir = found.dir) fun now' h => dir_of_lockFile h)
    fun _ v hv => ?_
  obtain ⟨now, rfl, hdir⟩ := hv
  refine Post.bind (wp_lockStep_holder (φ := fun now => now.dir = found.dir ∧ now.text = pidText pid) fun now' h => ?_)
    fun _ v hv => ?_
  · obtain rfl : now' = { now with text := pidText pid } := h
    exact ⟨hdir, rfl⟩
  obtain ⟨now, rfl, hnow⟩ := hv
  refine Post.mono (wp_lockStep_holder (φ := fun now' => now' = now) fun now' h => h) fun _ v hv => ?_
  obtain ⟨now', rfl, rfl⟩ := hv
  exact ⟨found, now', rfl, hfound, hnow.1, hnow.2⟩

/-- A lock that is acquired is held, and its file names the process. -/
theorem wp_acquire :
    wp (contract fs path layout roles pid) (acquire fs path pid) (Post (fun _ => Claimed pid) fun _ => True) none := by
  unfold acquire
  refine Post.bind (Post.weaken wp_validateParent fun _ _ => trivial) fun _ v hv => ?_
  subst hv
  refine wp_bind.2 (wp_ask rfl fun symlink => wp_ite.2 ⟨fun _ => wp_raise.2 trivial, fun _ => ?_⟩)
  refine Post.bind (Post.weaken (wp_orRefuse (wp_lockStep rfl)) fun _ _ => trivial) fun _ v hv => ?_
  subst hv
  refine Post.handle wp_claim fun e v _ => ?_
  exact Post.bind (χ := fun _ => Claimed pid) wp_unlock fun _ v _ => wp_raise.2 trivial

theorem wp_release :
    wp (contract fs path layout roles pid) release (Post (fun _ _ => True) fun _ => True) v := by
  unfold release
  exact Post.andFinally wp_unlock (fun _ v _ => Post.mono wp_unlock fun _ _ _ => trivial)
    fun v _ => Post.mono wp_unlock fun _ _ _ => trivial

theorem wp_withRuntimeLock {p : Work Unit}
    (hp : ∀ v, Claimed pid v → wp (contract fs path layout roles pid) p (Post (fun _ _ => True) fun _ => True) v) :
    wp (contract fs path layout roles pid) (withRuntimeLock fs path pid p) (Post (fun _ _ => True) fun _ => True)
      none := by
  unfold withRuntimeLock
  refine Post.bind wp_acquire fun _ v hv => ?_
  exact Post.andFinally (hp v hv) (fun _ v _ => wp_release) fun v _ => wp_release

/-! ## The processes by themselves -/

/-- A collector changes the database only while the lock file names it. -/
theorem wp_execute {transactions n : Nat} (hrole : roles pid = .collector transactions)
    (hv : ∃ found now, v = some (found, now) ∧ now.text = pidText pid) :
    wp (contract fs path layout roles pid) (execute n) (Post (fun _ _ => True) fun _ => True) v := by
  induction n generalizing v with
  | zero => exact wp_pure.2 trivial
  | succ n ih =>
    obtain ⟨found, now, rfl, htext⟩ := hv
    unfold execute
    refine wp_bind.2 (wp_perform.2 ⟨⟨htext, transactions, hrole⟩, fun a v' ha => ?_⟩)
    obtain ⟨now', ha, rfl⟩ := ha
    cases a with
    | ok u => exact ih ⟨found, now', rfl, ha.1.trans htext⟩
    | error e => trivial

/-- A purge under the lock is a purge. -/
theorem wp_purgeWork {failPhase : Option String} {located : Admin PurePath} (hv : Claimed pid v) :
    wp (contract fs path layout roles pid) (purgeWork failPhase located) (Post (fun _ _ => True) fun _ => True) v := by
  obtain ⟨found, now, rfl, hfound, hdir, htext⟩ := hv
  obtain ⟨history, hhistory⟩ := Option.ne_none_iff_exists'.1 hfound
  have hseen : now.dir.seen = some history := hdir ▸ hhistory
  have hpurge : wp (purgeContract layout history) (purgeHistory failPhase located) (Purges.Ends layout history now.dir)
      now.dir := wp_purgeHistory hseen
  unfold purgeWork
  refine wp_bind.2 (wp_embed.2 (wp_mono (wp_of_simulates
    (R := fun dir v => ∃ now', v = some (found, now') ∧ now'.dir = dir ∧ now'.text = pidText pid) ?_ ?_ hpurge
    ⟨now, rfl, rfl, htext⟩) fun r v _ => ?_))
  · rintro dir v op ⟨now', rfl, rfl, htext'⟩ hguard
    exact ⟨htext', history, hhistory, hguard⟩
  · rintro dir v op a v' ⟨now', rfl, rfl, htext'⟩ ⟨a', rfl, now'', ha, rfl⟩
    exact ⟨now''.dir, ha.2, now'', rfl, rfl, ha.1.trans htext'⟩
  · cases r with
    | ok u => trivial
    | error e => trivial

/-- Each process keeps its contract. -/
theorem wp_body : wp (contract fs path layout roles pid) ((processes fs path layout roles).body pid)
    (Post (fun _ _ => True) fun _ => True) none := by
  show wp _ ((roles pid).work fs path pid) _ _
  cases hrole : roles pid with
  | collector transactions =>
    refine wp_withRuntimeLock fun v hv => wp_execute hrole ?_
    obtain ⟨found, now, hv, -, -, htext⟩ := hv
    exact ⟨found, now, hv, htext⟩
  | purge failPhase located =>
    exact Post.handle (wp_withRuntimeLock fun v hv => wp_purgeWork hv) fun e v _ => wp_raise.2 trivial

/-! ## A run -/

/-- What is answered when nothing fails. -/
def Host.respond (host : Host Nat) : (op : HostOp) → HostAns op × Host Nat
  | .lockFile .truncate => (.ok (), { host with text := [] })
  | .lockFile (.write text) => (.ok (), { host with text := text })
  | .lockFile _ => (.ok (), host)
  | .isDirectory | .isRegular => (true, host)
  | .isSymlink => (false, host)
  | .purge op => ((host.dir.respond op).1, { host with dir := (host.dir.respond op).2 })
  | .collect => (.ok (), { host with dir := host.dir.set .database (some (.regular (.database 5))) })

theorem Host.respond_answers (host : Host Nat) (op : HostOp) :
    answers countingLayout host op (host.respond op).1 (host.respond op).2 := by
  cases op with
  | lockFile s => cases s <;> rfl
  | isDirectory | isRegular | isSymlink => rfl
  | purge op => exact ⟨rfl, host.dir.respond_answers op⟩
  | collect =>
    refine ⟨rfl, fun name hname => Directory.set_of_ne fun heq => hname (heq ▸ rfl), ?_⟩
    have hmain : (host.dir.set .database (some (.regular (.database 5)))).main = some 5 :=
      Directory.main_eq_some.2 Directory.set_self
    show Directory.seen (host.dir.set .database (some (.regular (.database 5)))) ≠ none
    unfold Directory.seen
    rw [hmain]
    nofun

/-- A host with a history, on which nobody works. -/
def busyHost : Host Nat := { dir := busyDirectory, text := [] }

/-- Process 1 is a collector, and the others are purges. -/
def busyRoles : Nat → Role
  | 1 => .collector 3
  | _ => .purge none (.ok (PurePath.ofText []))

/-- The collector finds the lock taken, and the purge that holds it has put an empty database in place. -/
def busyConfig :
    (processes plainFiles (PurePath.ofText "/run/collector.lock".toList) countingLayout busyRoles).Config :=
  (List.replicate 8 2 ++ List.replicate 8 1 ++ [2, 1, 1] ++ List.replicate 38 2).foldl
    (Processes.turn _ (fun _ host op => host.respond op) Refusal.busy) (Processes.start _ busyHost)

theorem reachable_busyConfig : (processes _ _ _ _).Reachable busyHost busyConfig :=
  Processes.reachable_turns (fun _ host op => host.respond_answers op) .refl _

theorem readable_busyHost : busyHost.dir.seen ≠ none := Option.some_ne_none 3

set_option maxRecDepth 4000 in
theorem busyConfig_holder : busyConfig.holder = some (2, busyHost) := rfl

set_option maxRecDepth 4000 in
theorem busyConfig_seen : busyConfig.world.dir.seen = some 0 := rfl

/-! ## All processes -/

variable {cfg : (processes fs path layout roles).Config}

/-- In every state the database can be read. While a process holds the lock, what is read is what the process may have
made of what it found, and only such a process changes what is read. -/
theorem reads_of_reachable (hreadable : host.dir.seen ≠ none)
    (hr : (processes fs path layout roles).Reachable host cfg) :
    cfg.world.dir.seen ≠ none ∧
      (∀ pid found, cfg.holder = some (pid, found) → MayChange layout (roles pid) found.dir cfg.world.dir) ∧
        ∀ cfg', (processes fs path layout roles).Step cfg cfg' → cfg'.world.dir.seen ≠ cfg.world.dir.seen →
          ∃ pid found, cfg.holder = some (pid, found) ∧ MayChange layout (roles pid) found.dir cfg'.world.dir := by
  have hsound := Processes.sound_of_reachable keeps_allowed (fun _ => wp_body) hreadable hr
  refine ⟨hsound.world, fun pid found hholder => (hsound.held pid found hholder).mayChange, fun cfg' hstep hne => ?_⟩
  have hworld : cfg'.world ≠ cfg.world := fun heq => hne (heq ▸ rfl)
  obtain ⟨pid, found, hholder, -, hallowed⟩ :=
    Processes.holder_of_changes keeps_allowed (fun _ => wp_body) hreadable hr hstep hworld
  exact ⟨pid, found, hholder, hallowed.mayChange⟩

theorem reads_of_reachable_busy : busyConfig.holder = some (2, busyHost) ∧ busyConfig.world.dir.seen = some 0 ∧
    MayChange countingLayout (busyRoles 2) busyHost.dir busyConfig.world.dir :=
  ⟨busyConfig_holder, busyConfig_seen,
    (reads_of_reachable readable_busyHost reachable_busyConfig).2.1 2 busyHost busyConfig_holder⟩

theorem claimed_of_isWork {k : LockOp.Ans HostAns Refusal (.other op) → Work Unit} {Q : Except HostException Unit →
    Option (Host δ × Host δ) → Prop} (hop : op.isWork = true)
    (h : wp (contract fs path layout roles pid) (.call (.other op) k) Q v) :
    ∃ found now, v = some (found, now) ∧ now.text = pidText pid := by
  cases v with
  | none =>
    have hfree : op.needsLock = false := h.1
    cases op with
    | purge op => cases hfree
    | collect => cases hfree
    | lockFile | isDirectory | isSymlink | isRegular => cases hop
  | some v =>
    obtain ⟨found, now⟩ := v
    have hguard : Guarded layout (roles pid) pid found now op := h.1
    refine ⟨found, now, rfl, ?_⟩
    cases op with
    | purge op => exact hguard.1
    | collect => exact hguard.1
    | lockFile | isDirectory | isSymlink | isRegular => cases hop

/-- A process that is about to work on the history holds the lock, and the lock file names it. -/
theorem works_alone (hreadable : host.dir.seen ≠ none) (hr : (processes fs path layout roles).Reachable host cfg)
    {op : HostOp} {k : LockOp.Ans HostAns Refusal (.other op) → Work Unit} (hop : op.isWork = true)
    (hthread : cfg.threads pid = some (.call (.other op) k)) :
    (∃ found, cfg.holder = some (pid, found)) ∧ cfg.world.text = pidText pid := by
  have hsound := Processes.sound_of_reachable keeps_allowed (fun _ => wp_body) hreadable hr
  obtain ⟨found, now, hseen, htext⟩ := claimed_of_isWork hop (hsound.threads pid _ hthread)
  obtain ⟨hholder, rfl⟩ := Processes.seenBy_eq_some.1 hseen
  exact ⟨⟨found, hholder⟩, htext⟩

set_option maxRecDepth 4000 in
theorem works_alone_busy : (∃ found, busyConfig.holder = some (2, found)) ∧ busyConfig.world.text = pidText 2 :=
  works_alone readable_busyHost reachable_busyConfig
    (show HostOp.isWork (.purge (.step (.fsync none))) = true from rfl) rfl

end Monitoring.RuntimeLocks
