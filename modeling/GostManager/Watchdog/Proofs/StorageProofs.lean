import GostManager.Watchdog.Storage

/-!
# Proofs: reading and writing the store
-/

namespace Watchdog.Database

variable {db db' : Database} {state : ProfileState} {event : WatchdogEvent}
  {events : List WatchdogEvent} {profileId serviceName kharejIp : String}

theorem insertEvent_rows (h : db.insertEvent event = .ok db') : db'.rows = db.rows := by
  unfold insertEvent at h
  split at h
  · cases h; rfl
  · split at h <;> cases h
    rfl

/-- A write that succeeds has saved the row. -/
theorem persist_rows (h : db.persist state events = .ok db') :
    db'.rows = (db.saveState state).rows := by
  unfold persist at h
  generalize db.saveState state = saved at h
  induction events generalizing saved with
  | nil => cases h; rfl
  | cons event events ih =>
    rw [List.foldlM_cons] at h
    cases he : saved.insertEvent event with
    | error e => rw [he] at h; cases h
    | ok db'' =>
      rw [he] at h
      rw [ih _ h, insertEvent_rows he]

theorem insertEvent_events (h : db.insertEvent event = .ok db') : db'.events = db.events ++ [event] := by
  unfold insertEvent at h
  split at h
  · cases h; rfl
  · split at h <;> cases h
    rfl

/-- So has it stored the events, in their order. -/
theorem persist_events (h : db.persist state events = .ok db') : db'.events = db.events ++ events := by
  unfold persist at h
  have hsaved : (db.saveState state).events = db.events := rfl
  generalize db.saveState state = saved at h hsaved
  induction events generalizing saved db with
  | nil => cases h; simp [hsaved]
  | cons event events ih =>
    rw [List.foldlM_cons] at h
    cases he : saved.insertEvent event with
    | error e => rw [he] at h; cases h
    | ok db'' =>
      rw [he] at h
      rw [ih db'' h rfl, insertEvent_events he, hsaved, List.append_assoc, List.singleton_append]

/-- The row written is the row of its profile afterwards. -/
theorem persist_row_self (h : db.persist state events = .ok db') :
    db'.rows state.profileId = some state := by
  simp [persist_rows h, saveState]

/-- The rows of other profiles are as before. -/
theorem persist_row_other (h : db.persist state events = .ok db')
    (hne : profileId ≠ state.profileId) : db'.rows profileId = db.rows profileId := by
  simp [persist_rows h, saveState, hne]

/-- A row is read under its own profile. -/
@[simp] theorem getState_profileId :
    (db.getState profileId serviceName kharejIp).profileId = profileId := by
  unfold getState
  split
  · rfl
  · next state h => exact db.keyed _ state h

theorem getState_of_row (h : db.rows profileId = some state) :
    db.getState profileId serviceName kharejIp = { state with serviceName, kharejIp } := by
  simp [getState, h]

/-- A property of rows that the unit and the address of a profile have no part in holds of the row
read, if it holds of a fresh row and of every row stored. -/
theorem getState_of_rows {P : ProfileState → Prop} (hfresh : P { profileId, serviceName, kharejIp })
    (hrows : ∀ state, db.rows profileId = some state → P { state with serviceName, kharejIp }) :
    P (db.getState profileId serviceName kharejIp) := by
  unfold getState
  split
  · exact hfresh
  · next h => exact hrows _ h

end Watchdog.Database
