import GostManager.Effects.Proofs.MachineProofs
import GostManager.Watchdog.Proofs.OutcomesProofs
import GostManager.Watchdog.Runs

/-!
# Proofs: the operations in a run

What the operations of a call may answer in a run of `machine`, and what they leave behind: the
database and the history with one more event.
-/

namespace Watchdog

open Effects Effects.Prog

section Contract

variable {admits : Database → List RunEvent → Call → Prop} {fails kills : Prop}
variable {G : Call → Database → List RunEvent → Op → Prop} {c : Call} {db : Database}
  {h : List RunEvent} {profile : ManagedProfile}

@[simp] theorem contract_guard {op : Op} :
    ((machine admits fails kills).contract G c).guard (db, h) op ↔ G c db h op := Iff.rfl

@[simp] theorem contract_getState {profileId serviceName kharejIp : String} {state : ProfileState}
    {s' : Database × List RunEvent} :
    ((machine admits fails kills).contract G c).answers (db, h)
      (.getState profileId serviceName kharejIp) state s' ↔
      state = db.getState profileId serviceName kharejIp ∧
      s' = (db, .did (.getState profileId serviceName kharejIp) state :: h) := by
  obtain ⟨db', h'⟩ := s'
  simp [Machine.contract, machine, answers, and_assoc]

@[simp] theorem contract_persist_ok {state : ProfileState} {events : List WatchdogEvent}
    {s' : Database × List RunEvent} :
    ((machine admits fails kills).contract G c).answers (db, h) (.persist state events) (.ok ()) s' ↔
      db.persist state events = .ok s'.1 ∧
        s'.2 = .did (.persist state events) (.ok ()) :: h := Iff.rfl

@[simp] theorem contract_persist_error {state : ProfileState} {events : List WatchdogEvent}
    {e : Exn} {s' : Database × List RunEvent} :
    ((machine admits fails kills).contract G c).answers (db, h) (.persist state events) (.error e)
      s' ↔ fails ∧ s' = (db, .did (.persist state events) (.error e) :: h) := by
  obtain ⟨db', h'⟩ := s'
  simp [Machine.contract, machine, answers, and_assoc]

@[simp] theorem contract_systemctl {verb : Verb} {serviceName : String} {code : Option Int}
    {s' : Database × List RunEvent} :
    ((machine admits fails kills).contract G c).answers (db, h) (.systemctl verb serviceName) code
      s' ↔ s' = (db, .did (.systemctl verb serviceName) code :: h) := by
  obtain ⟨db', h'⟩ := s'
  simp [Machine.contract, machine, answers]

@[simp] theorem contract_jitter {maximum : Nat} {drawn : Int} {s' : Database × List RunEvent} :
    ((machine admits fails kills).contract G c).answers (db, h) (.jitter maximum) drawn s' ↔
      s' = (db, .did (.jitter maximum) drawn :: h) := by
  obtain ⟨db', h'⟩ := s'
  simp [Machine.contract, machine, answers]

@[simp] theorem run_getState {Q : Except Exn ProfileState → Database × List RunEvent → Prop} :
    wp ((machine admits fails kills).contract G c) (getState profile) Q (db, h) ↔
      G c db h (.getState profile.profileId profile.serviceName profile.kharejIp) ∧
      Q (.ok (db.getState profile.profileId profile.serviceName profile.kharejIp))
        (db, .did (.getState profile.profileId profile.serviceName profile.kharejIp)
          (db.getState profile.profileId profile.serviceName profile.kharejIp) :: h) := by
  simp [wp_getState]

@[simp] theorem run_persist {state : ProfileState} {events : List WatchdogEvent}
    {Q : Except Exn (List WatchdogEvent) → Database × List RunEvent → Prop} :
    wp ((machine admits fails kills).contract G c) (persist state events) Q (db, h) ↔
      G c db h (.persist state events) ∧
      (∀ db', db.persist state events = .ok db' →
        Q (.ok []) (db', .did (.persist state events) (.ok ()) :: h)) ∧
      (fails → ∀ e, Q (.error e) (db, .did (.persist state events) (.error e) :: h)) := by
  simp only [wp_persist, contract_guard, contract_persist_ok, contract_persist_error]
  refine and_congr_right fun _ => and_congr ⟨fun H db' hp => H (_, _) ⟨hp, rfl⟩, ?_⟩
    ⟨fun H hf e => H e _ ⟨hf, rfl⟩, fun H e _ he => he.2 ▸ H he.1 e⟩
  rintro H ⟨db', h'⟩ ⟨hp, rfl⟩
  exact H db' hp

@[simp] theorem run_jitter {maximum : Nat}
    {Q : Except Exn Int → Database × List RunEvent → Prop} :
    wp ((machine admits fails kills).contract G c) (Prog.perform (Op.jitter maximum)) Q (db, h) ↔
      G c db h (.jitter maximum) ∧
      ∀ drawn : Int, Q (.ok drawn) (db, .did (.jitter maximum) drawn :: h) := by
  simp

@[simp] theorem run_isActive {Q : Except Exn Bool → Database × List RunEvent → Prop} :
    wp ((machine admits fails kills).contract G c)
      (SystemdController.isActive profile.serviceName) Q (db, h) ↔
      G c db h (.systemctl .isActive profile.serviceName) ∧ ∀ code,
        (seenActive code = some true →
          Q (.ok true) (db, .did (.systemctl .isActive profile.serviceName) code :: h)) ∧
        (seenActive code = some false →
          Q (.ok false) (db, .did (.systemctl .isActive profile.serviceName) code :: h)) ∧
        (seenActive code = none → Q (.error (.commandError (activeError code)))
          (db, .did (.systemctl .isActive profile.serviceName) code :: h)) := by
  simp

@[simp] theorem run_queryActive {Q : Except Exn (Option Bool) → Database × List RunEvent → Prop} :
    wp ((machine admits fails kills).contract G c)
      (DurableServiceActions.queryActive profile.serviceName) Q (db, h) ↔
      G c db h (.systemctl .isActive profile.serviceName) ∧ ∀ code,
        Q (.ok (seenActive code))
          (db, .did (.systemctl .isActive profile.serviceName) code :: h) := by
  simp only [wp_queryActive, contract_guard, contract_systemctl, forall_eq]
  refine and_congr_right fun _ => forall_congr' fun code => ?_
  rcases seenActive code with _ | _ | _ <;> simp

@[simp] theorem run_commanded {verb : Verb} {wanted : Bool} {serviceName : String}
    {yes no : Database × List RunEvent → Prop} :
    commanded ((machine admits fails kills).contract G c) verb serviceName wanted yes no (db, h) ↔
      G c db h (.systemctl verb serviceName) ∧
      (∀ code, code ≠ some 0 → no (db, .did (.systemctl verb serviceName) code :: h)) ∧
      G c db (.did (.systemctl verb serviceName) (some 0) :: h) (.systemctl .isActive serviceName) ∧
      ∀ code, (seenActive code = some wanted →
          yes (db, .did (.systemctl .isActive serviceName) code ::
            .did (.systemctl verb serviceName) (some 0) :: h)) ∧
        (seenActive code ≠ some wanted →
          no (db, .did (.systemctl .isActive serviceName) code ::
            .did (.systemctl verb serviceName) (some 0) :: h)) := by
  simp only [commanded, contract_guard, contract_systemctl, forall_eq]
  refine and_congr_right fun _ => ⟨fun H => ⟨fun code => (H code).1, (H (some 0)).2 rfl⟩, ?_⟩
  rintro ⟨hno, hyes⟩ code
  exact ⟨hno code, by rintro rfl; exact hyes⟩

/-! ### Assertions that commands and queries do not affect -/

/-- In `Φ` any `systemctl` command may be issued, and `Φ` survives it. -/
structure Unaffected (G : Call → Database → List RunEvent → Op → Prop) (c : Call)
    (Φ : Database × List RunEvent → Prop) : Prop where
  allowed : ∀ s verb serviceName, Φ s → G c s.1 s.2 (.systemctl verb serviceName)
  kept : ∀ db h verb serviceName code,
    Φ (db, h) → Φ (db, .did (.systemctl verb serviceName) code :: h)

/-- Commanding and asking make no difference to such an assertion. -/
theorem Unaffected.commanding {Φ : Database × List RunEvent → Prop} (h : Unaffected G c Φ)
    {serviceName : String} {verb : Verb} :
    Commanding ((machine admits fails kills).contract G c) serviceName verb fun _ => Φ where
  asks s hs := h.allowed s .isActive serviceName hs
  asked := by
    rintro ⟨db, h'⟩ code s' hs ha
    exact contract_systemctl.1 ha ▸ h.kept _ _ _ _ _ hs
  commands _ s hs := h.allowed s verb serviceName hs
  commanded := by
    rintro - ⟨db, h'⟩ code s' hs ha
    exact contract_systemctl.1 ha ▸ h.kept _ _ _ _ _ hs
  verifies s hs := h.allowed s .isActive serviceName hs
  verified := by
    rintro ⟨db, h'⟩ code s' hs ha
    exact contract_systemctl.1 ha ▸ h.kept _ _ _ _ _ hs
  failed _ hs := hs

namespace Unaffected

open DurableServiceActions

variable {Φ ψ : Database × List RunEvent → Prop} {s : Database × List RunEvent} {active : Bool}

theorem isActive (hΦ : Unaffected G c Φ) (hψ : ∀ s, Φ s → ψ s) (hs : Φ s) :
    wp ((machine admits fails kills).contract G c) (SystemdController.isActive profile.serviceName)
      (Post (fun _ => Φ) ψ) s := by
  obtain ⟨db, h⟩ := s
  have hk := hΦ.kept db h .isActive profile.serviceName
  exact run_isActive.2 ⟨hΦ.allowed _ _ _ hs, fun code => ⟨fun _ => hk code hs, fun _ => hk code hs,
    fun _ => hψ _ (hk code hs)⟩⟩

theorem queryActive (hΦ : Unaffected G c Φ) (hs : Φ s) :
    wp ((machine admits fails kills).contract G c) (queryActive profile.serviceName)
      (Post (fun _ => Φ) ψ) s := by
  obtain ⟨db, h⟩ := s
  exact run_queryActive.2 ⟨hΦ.allowed _ _ _ hs, fun code => hΦ.kept _ _ _ _ _ hs⟩

theorem commanded (hΦ : Unaffected G c Φ) (hs : Φ s) {verb : Verb} {serviceName : String}
    {wanted : Bool} {yes no : Database × List RunEvent → Prop} (hy : ∀ s, Φ s → yes s)
    (hn : ∀ s, Φ s → no s) :
    commanded ((machine admits fails kills).contract G c) verb serviceName wanted yes no s := by
  obtain ⟨db, h⟩ := s
  have hk := fun code => hΦ.kept db h verb serviceName code hs
  exact run_commanded.2 ⟨hΦ.allowed _ _ _ hs, fun code _ => hn _ (hk code),
    hΦ.allowed _ _ _ (hk _), fun code => ⟨fun _ => hy _ (hΦ.kept _ _ _ _ _ (hk _)),
      fun _ => hn _ (hΦ.kept _ _ _ _ _ (hk _))⟩⟩

theorem stopCommand (hΦ : Unaffected G c Φ) (hs : Φ s) :
    wp ((machine admits fails kills).contract G c)
      (orOnCommandError (SystemdController.stop profile.serviceName) false)
      (Post (fun _ => Φ) ψ) s :=
  wp_stop_command.2 (hΦ.commanded hs (fun _ h => h) fun _ h => h)

theorem startCommand (hΦ : Unaffected G c Φ) (hs : Φ s) :
    wp ((machine admits fails kills).contract G c)
      (orOnCommandError (SystemdController.start profile.serviceName) false)
      (Post (fun _ => Φ) ψ) s :=
  wp_start_command.2 (hΦ.commanded hs (fun _ h => h) fun _ h => h)

theorem stopIfActive (hΦ : Unaffected G c Φ) (hs : Φ s) :
    wp ((machine admits fails kills).contract G c) (stopIfActive profile.serviceName active)
      (Post (fun _ => Φ) ψ) s := by
  cases active with
  | false => exact hs
  | true => exact wp_resumed_stop.2 (hΦ.commanded hs (fun _ h => h) fun _ h => h)

theorem startIfInactive (hΦ : Unaffected G c Φ) (hs : Φ s) :
    wp ((machine admits fails kills).contract G c) (startIfInactive profile.serviceName active)
      (Post (fun _ => Φ) ψ) s := by
  cases active with
  | false => exact hΦ.startCommand hs
  | true => exact hs

end Unaffected

end Contract

/-! ## The computed environment -/

theorem environment_answers {fails : Prop} {query : Bool → Option Int} {db db' : Database}
    {h : List RunEvent} {op : Op} {a : Ans op} (ho : environment query db h op = some (a, db')) :
    answers fails db op a db' := by
  cases op with
  | getState => cases ho; exact ⟨rfl, rfl⟩
  | persist state events =>
    rw [environment] at ho
    split at ho
    · next hp => cases ho; exact hp
    · cases ho
  | systemctl verb => cases verb <;> cases ho <;> rfl
  | jitter => cases ho; rfl

/-- The scripts of calls that a machine admits, run in this environment, are runs of the machine. -/
theorem reachable_script_played {admits : Database → List RunEvent → Call → Prop} {fails kills : Prop}
    {db : Database} {cs : List Scene} (ha : Machine.Config.Admits (played cs)
      (⟨db, [], none⟩ : (machine admits fails kills).Config)) :
    (machine admits fails kills).Reachable db
      ((machine admits fails kills).script db (played cs)) := by
  refine Machine.reachable_script ha fun c hc _ w h op a w' ho => ?_
  obtain ⟨x, _, rfl⟩ := List.mem_map.1 hc
  exact environment_answers ho

/-- Calls that are admitted at any time. -/
theorem reachable_played {admits : Database → List RunEvent → Call → Prop} {fails kills : Prop}
    {db : Database} {cs : List Scene} (ha : ∀ w h, ∀ c ∈ cs, admits w h c.1) :
    (machine admits fails kills).Reachable db
      ((machine admits fails kills).script db (played cs)) := by
  refine reachable_script_played (Machine.Config.admits_of_forall fun w h c hc => ?_)
  obtain ⟨x, hx, rfl⟩ := List.mem_map.1 hc
  exact ha w h x hx

end Watchdog
