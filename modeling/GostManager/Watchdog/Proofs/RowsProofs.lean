import GostManager.Effects.Proofs.ExceptProofs
import GostManager.Watchdog.Proofs.StorageProofs
import GostManager.Watchdog.Rows

/-!
# Proofs: the rows of the store

A write either takes its state and all its events or changes nothing, and what it takes is read back. So the
store of rows does what the store of states does.
-/

namespace Watchdog.Rows

open Lists Tables

variable {db db' : Database} {state : StateRecord} {event : EventRecord} {events : List EventRecord} {now : Int}
  {t t' : Transaction} {raised : Raised} {profileId : String}

/-! ## Statements -/

theorem any_notMem {text : Option String} {texts : List String} :
    text.any (· ∉ texts) = true ↔ ¬ ∀ value ∈ text, value ∈ texts := by
  cases text with
  | none => simp
  | some value => simp

/-- `_save_state` takes the states with allowed values. -/
theorem saveState_of_allowed (h : state.Allowed now) : db.saveState state now = .ok (db.withState state now) := by
  unfold Database.saveState
  rw [if_neg (not_not.2 h.healthState), if_neg (not_not.2 h.checkStatus),
    if_neg fun hany => any_notMem.1 hany h.pendingAction, if_pos h.binds]

theorem saveState_of_not_allowed (db : Database) (h : ¬ state.Allowed now) : ∃ raised, db.saveState state now = .error raised := by
  unfold Database.saveState
  by_cases hhealth : state.healthState ∉ healthStates
  · exact ⟨_, if_pos hhealth⟩
  rw [if_neg hhealth]
  by_cases hcheck : state.checkStatus ∉ checkStatuses
  · exact ⟨_, if_pos hcheck⟩
  rw [if_neg hcheck]
  by_cases hpending : state.pendingAction.any (· ∉ pendingActions) = true
  · exact ⟨_, if_pos hpending⟩
  rw [if_neg hpending]
  refine ⟨_, if_neg fun hbinds => h ?_⟩
  exact ⟨not_not.1 hhealth, not_not.1 hcheck, not_not.1 fun hnot => hpending (any_notMem.2 hnot), hbinds⟩

/-- `_insert_event` takes the events with allowed values. -/
theorem insertEvent_of_allowed (h : event.Allowed) :
    db.insertEvent event = .ok (db.withEvents [eventRow event]) := by
  unfold Database.insertEvent
  rw [if_neg (not_not.2 h.code), if_neg fun hany => any_notMem.1 hany h.actionResult,
    if_neg fun hany => any_notMem.1 hany h.errorCategory, if_pos h.binds, insertedEventRow_eq]

theorem insertEvent_of_not_allowed (db : Database) (h : ¬ event.Allowed) : ∃ raised, db.insertEvent event = .error raised := by
  unfold Database.insertEvent
  by_cases hcode : event.code ∉ eventCodes
  · exact ⟨_, if_pos hcode⟩
  rw [if_neg hcode]
  by_cases hresult : event.actionResult.any (· ∉ safeActionResults) = true
  · exact ⟨_, if_pos hresult⟩
  rw [if_neg hresult]
  by_cases hcategory : event.errorCategory.any (· ∉ safeErrorCategories) = true
  · exact ⟨_, if_pos hcategory⟩
  rw [if_neg hcategory]
  refine ⟨_, if_neg fun hbinds => h ?_⟩
  exact ⟨not_not.1 hcode, not_not.1 fun hnot => hresult (any_notMem.2 hnot),
    not_not.1 fun hnot => hcategory (any_notMem.2 hnot), hbinds⟩

/-! ## The transaction -/

section Statements

variable {statement : Database → Except Raised Database}

theorem execute_of_ok (h : statement t.working = .ok db) :
    t.execute statement = (.ok (), { t with working := db }) := by
  rw [Transaction.execute, h]

theorem execute_of_error (h : statement t.working = .error raised) : t.execute statement = (.error raised, t) := by
  rw [Transaction.execute, h]

theorem execute_before : (t.execute statement).2.before = t.before := by
  unfold Transaction.execute
  split <;> rfl

end Statements

theorem withEvents_nil : db.withEvents [] = db := by
  rw [Database.withEvents, List.append_nil]

theorem withEvents_withEvents (rows rows' : List (Row EventColumn)) :
    (db.withEvents rows).withEvents rows' = db.withEvents (rows ++ rows') := by
  simp only [Database.withEvents, List.append_assoc]

/-- What the loop leaves for a rollback. -/
theorem insertEvents_before (t : Transaction) (events : List EventRecord) :
    (t.insertEvents events).2.before = t.before := by
  induction events generalizing t with
  | nil => rfl
  | cons event events ih =>
    have hbefore : (t.execute (·.insertEvent event)).2.before = t.before := execute_before
    unfold Transaction.insertEvents
    split
    · next h => rwa [h] at hbefore
    · next h =>
      rw [h] at hbefore
      exact (ih _).trans hbefore

/-- The loop inserts all events in their order, or raises. -/
theorem insertEvents_cases (t : Transaction) (events : List EventRecord) :
    ((∀ event ∈ events, event.Allowed) ∧
        t.insertEvents events = (.ok (), { t with working := t.working.withEvents (events.map eventRow) })) ∨
      (¬ ∀ event ∈ events, event.Allowed) ∧ ∃ raised t', t.insertEvents events = (.error raised, t') := by
  induction events generalizing t with
  | nil =>
    refine .inl ⟨(fun _ h => nomatch h), ?_⟩
    rw [List.map_nil, withEvents_nil]
    rfl
  | cons event events ih =>
    rw [List.forall_mem_cons, Transaction.insertEvents]
    by_cases h : event.Allowed
    · rw [execute_of_ok (insertEvent_of_allowed h)]
      rcases ih { t with working := t.working.withEvents [eventRow event] } with ⟨hall, heq⟩ | ⟨hnot, hraised⟩
      · refine .inl ⟨⟨h, hall⟩, heq.trans ?_⟩
        rw [withEvents_withEvents]
        rfl
      · exact .inr ⟨fun hall => hnot hall.2, hraised⟩
    · obtain ⟨raised, hraised⟩ := insertEvent_of_not_allowed t.working h
      rw [execute_of_error hraised]
      exact .inr ⟨fun hall => h hall.1, raised, t, rfl⟩

/-- What a write that succeeds leaves. -/
abbrev written (db : Database) (state : StateRecord) (events : List EventRecord) (now : Int) : Database :=
  (db.withState state now).withEvents (events.map eventRow)

/-- The state and the events can be written. -/
abbrev Allowed (state : StateRecord) (events : List EventRecord) (now : Int) : Prop :=
  state.Allowed now ∧ ∀ event ∈ events, event.Allowed

/-- A write takes everything or changes nothing. -/
theorem persist_cases (db : Database) (state : StateRecord) (events : List EventRecord) (now : Int) :
    (Allowed state events now ∧ db.persist state events now = (.ok (), written db state events now)) ∨
      ¬ Allowed state events now ∧ ∃ raised, db.persist state events now = (.error raised, db) := by
  unfold Database.persist
  by_cases h : state.Allowed now
  · rw [execute_of_ok (saveState_of_allowed h)]
    have hbefore := insertEvents_before ⟨db, db.withState state now⟩ events
    rcases insertEvents_cases ⟨db, db.withState state now⟩ events with ⟨hall, heq⟩ | ⟨hnot, raised, t', heq⟩
    · refine .inl ⟨⟨h, hall⟩, ?_⟩
      simp only [Transaction.begin, heq]
      rfl
    · rw [heq] at hbefore
      refine .inr ⟨fun hall => hnot hall.2, raised, ?_⟩
      simp only [Transaction.begin, heq, Transaction.rollback]
      rw [hbefore]
  · obtain ⟨raised, hraised⟩ := saveState_of_not_allowed db h
    rw [execute_of_error hraised]
    exact .inr ⟨fun hall => h hall.1, raised, rfl⟩

/-! ## Reading -/

theorem forall_mem_bind {α β : Type} {x : Option α} {f : α → Option β} {P : β → Prop}
    (h : ∀ a ∈ x, ∀ b ∈ f a, P b) : ∀ b ∈ x.bind f, P b := by
  intro b hb
  obtain ⟨a, ha, hb⟩ := Option.bind_eq_some_iff.1 hb
  exact h a ha b hb

/-- A state is read under its key. -/
theorem profileId_of_stateFromRow {row : Row Column} :
    ∀ state ∈ stateFromRow row, row .profileId = .text state.profileId := by
  refine forall_mem_bind fun profileId hid => ?_
  iterate 21 refine forall_mem_bind fun _ _ => ?_
  rintro _ ⟨⟩
  cases hcell : row .profileId with
  | text text =>
    rw [hcell] at hid
    cases hid
    rfl
  | null =>
    rw [hcell] at hid
    cases hid
  | integer n =>
    rw [hcell] at hid
    cases hid

/-- The states that are read of readable rows, one for each row. -/
theorem mapM_stateFromRow (rows : List (Row Column)) (h : ∀ row ∈ rows, (stateFromRow row).isSome) :
    ∃ states, rows.mapM stateFromRow = some states ∧
      states.map (fun state => Value.text state.profileId) = rows.map (fun row => row .profileId) ∧
      ∀ profileId, find StateRecord.profileId profileId states =
        (rowOf .profileId (.text profileId) rows).bind stateFromRow := by
  induction rows with
  | nil => exact ⟨[], rfl, rfl, fun _ => rfl⟩
  | cons row rows ih =>
    rw [List.forall_mem_cons] at h
    obtain ⟨state, hstate⟩ := Option.isSome_iff_exists.1 h.1
    obtain ⟨states, hstates, hkeys, hfind⟩ := ih h.2
    have hkey := profileId_of_stateFromRow state hstate
    refine ⟨state :: states, ?_, ?_, fun profileId => ?_⟩
    · rw [List.mapM_cons, hstate, hstates]
      rfl
    · rw [List.map_cons, List.map_cons, hkeys, hkey]
    · have hfind := hfind profileId
      unfold rowOf find at hfind ⊢
      simp only [List.find?_cons, hkey]
      by_cases hid : state.profileId = profileId
      · rw [decide_eq_true hid, decide_eq_true (congrArg Value.text hid)]
        exact hstate.symm
      · rw [decide_eq_false hid, decide_eq_false fun heq => hid (Value.text.inj heq)]
        exact hfind

/-- What `all_states` finds of a profile. -/
theorem allStates_find (db : Database) : ∃ states, db.allStates = some states ∧ ∀ profileId,
    find StateRecord.profileId profileId states =
      (rowOf .profileId (.text profileId) db.rows).bind stateFromRow := by
  obtain ⟨states, hstates, hkeys, hfind⟩ := mapM_stateFromRow db.rows db.readable
  refine ⟨states, ?_, hfind⟩
  have hnodup : ((states.map (·.profileId)).map Value.text).Nodup := by
    rw [List.map_map]
    exact hkeys ▸ db.keyed
  rw [Database.allStates, hstates, Option.map_some, dictionary_of_nodup hnodup.of_map]

/-- The rows after a write that succeeds. -/
theorem rowOf_written (profileId : String) : rowOf .profileId (.text profileId) (written db state events now).rows =
    if state.profileId = profileId then some (stateRow state now)
    else rowOf .profileId (.text profileId) db.rows := by
  have hkey : stateRow state now .profileId = .text profileId ↔ state.profileId = profileId := by
    rw [stateRow_eq]
    exact ⟨Value.text.inj, congrArg Value.text⟩
  rw [← if_congr hkey rfl rfl]
  exact rowOf_upsert copiesAll_updates

theorem getState_written (serviceName kharejIp : String) :
    (written db state events now).getState state.profileId serviceName kharejIp =
      some { state with serviceName, kharejIp } := by
  unfold Database.getState
  rw [rowOf_written, if_pos rfl]
  simp only [stateFromRow_stateRow, Option.map_some]

/-! ## The store of states -/

section Refinement

variable {store : Watchdog.Database}

theorem represents_empty : Represents .empty .empty := ⟨fun _ => rfl, rfl⟩

/-- The store of states takes the events that the tables take. -/
theorem exists_persist {events : List WatchdogEvent} (store : Watchdog.Database) (state : ProfileState)
    (h : ∀ event ∈ events, (eventRecord event).Allowed) : ∃ store', store.persist state events = .ok store' := by
  unfold Watchdog.Database.persist
  generalize store.saveState state = saved
  induction events generalizing saved with
  | nil => exact ⟨saved, rfl⟩
  | cons event events ih =>
    rw [List.forall_mem_cons] at h
    have hinsert : saved.insertEvent event = .ok { saved with events := saved.events ++ [event] } := by
      unfold Watchdog.Database.insertEvent
      cases hcategory : event.errorCategory with
      | none => rfl
      | some category => exact if_pos (h.1.errorCategory category hcategory)
    obtain ⟨store', hstore'⟩ := ih h.2 { saved with events := saved.events ++ [event] }
    refine ⟨store', ?_⟩
    rw [List.foldlM_cons, hinsert]
    exact hstore'

/-- A write to the tables is a write to the store of states, or leaves it. -/
theorem persist_refines (h : Represents db store) (state : ProfileState) (events : List WatchdogEvent) (now : Int) :
    (∃ db' store', db.persist (stateRecord state) (events.map eventRecord) now = (.ok (), db') ∧
      store.persist state events = .ok store' ∧ Represents db' store') ∨
    ∃ raised, db.persist (stateRecord state) (events.map eventRecord) now = (.error raised, db) := by
  rcases persist_cases db (stateRecord state) (events.map eventRecord) now with ⟨⟨-, hevents⟩, heq⟩ | ⟨-, hraised⟩
  · obtain ⟨store', hstore'⟩ := exists_persist store state (List.forall_mem_map.1 hevents)
    refine .inl ⟨_, store', heq, hstore', fun profileId => ?_, ?_⟩
    · rw [rowOf_written, Watchdog.Database.persist_rows hstore', Watchdog.Database.saveState]
      by_cases hid : (stateRecord state).profileId = profileId
      · have hid' : profileId = state.profileId := hid.symm
        rw [if_pos hid, Option.bind_some, stateFromRow_stateRow]
        simp only [if_pos hid', Option.map_some]
      · have hid' : profileId ≠ state.profileId := Ne.symm hid
        rw [if_neg hid, h.states]
        simp only [if_neg hid']
    · have hrows : (written db (stateRecord state) (events.map eventRecord) now).events =
          db.events ++ (events.map eventRecord).map eventRow := rfl
      rw [hrows, Watchdog.Database.persist_events hstore', List.map_append, ← h.events, List.map_map]
      rfl
  · exact .inr hraised

end Refinement

/-! ## Persistence -/

/-- `persist` keeps all fields of the state and appends the events, and leaves the other rows; if it raises, it leaves
everything, and it raises only for values that are not allowed. -/
theorem persist_lossless (db : Database) (state : StateRecord) (events : List EventRecord) (now : Int) :
    (∀ db', db.persist state events now = (.ok (), db') →
      db'.getState state.profileId state.serviceName state.kharejIp = some state ∧
      (∃ states, db'.allStates = some states ∧ find StateRecord.profileId state.profileId states = some state) ∧
      (∀ profileId, profileId ≠ state.profileId →
        rowOf .profileId (.text profileId) db'.rows = rowOf .profileId (.text profileId) db.rows) ∧
      db'.events = db.events ++ events.map eventRow) ∧
    (∀ raised db', db.persist state events now = (.error raised, db') → db' = db) ∧
    ((∃ db', db.persist state events now = (.ok (), db')) ↔
      state.Allowed now ∧ ∀ event ∈ events, event.Allowed) := by
  rcases persist_cases db state events now with ⟨hallowed, heq⟩ | ⟨hnot, raised, heq⟩
  · refine ⟨fun db' hdb' => ?_, fun raised db' hdb' => ?_, fun _ => hallowed, fun _ => ⟨_, heq⟩⟩
    · rw [heq] at hdb'
      obtain rfl := (Prod.mk.inj hdb').2
      refine ⟨getState_written _ _, ?_, fun profileId hne => ?_, rfl⟩
      · obtain ⟨states, hstates, hfind⟩ := allStates_find (written db state events now)
        refine ⟨states, hstates, ?_⟩
        rw [hfind, rowOf_written, if_pos rfl, Option.bind_some, stateFromRow_stateRow]
      · rw [rowOf_written, if_neg hne.symm]
    · rw [heq] at hdb'
      cases (Prod.mk.inj hdb').1
  · refine ⟨fun db' hdb' => ?_, fun raised' db' hdb' => ?_, fun ⟨db', hdb'⟩ => ?_, fun h => absurd h hnot⟩
    · rw [heq] at hdb'
      cases (Prod.mk.inj hdb').1
    · rw [heq] at hdb'
      exact (Prod.mk.inj hdb').2.symm
    · rw [heq] at hdb'
      cases (Prod.mk.inj hdb').1

end Watchdog.Rows
