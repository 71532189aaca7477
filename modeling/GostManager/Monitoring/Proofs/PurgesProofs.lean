import GostManager.Effects.Proofs.ProgramProofs
import GostManager.Monitoring.Purges

/-!
# Proofs: purges

The database is emptied by one replacement, at a time when its log is empty and the old main file has another name.
Everything before that works on temporary names, and everything after that can be undone by one replacement more.
-/

namespace Monitoring.Purges

open Administration Effects Prog Texts

variable {δ : Type} {layout : Layout δ} {history : δ} {start dir dir' : Directory δ} {db : δ} {name : Name} {n : Nat}
  {α β : Type}

/-! ## Directories -/

namespace Directory

@[simp] theorem set_self {entry : Option (Entry δ)} : dir.set name entry name = entry := Function.update_self _ _ _

theorem set_of_ne {entry : Option (Entry δ)} {other : Name} (h : other ≠ name) : dir.set name entry other = dir other :=
  Function.update_of_ne h _ _

/-- The names of the database and of its sidecars are as before. -/
def Same (dir dir' : Directory δ) : Prop := ∀ name, name.temporary = none → dir' name = dir name

theorem Same.refl : dir.Same dir := fun _ _ => rfl

theorem Same.trans {dir'' : Directory δ} (h : dir.Same dir') (h' : dir'.Same dir'') : dir.Same dir'' :=
  fun name hname => (h' name hname).trans (h name hname)

theorem Same.set {entry : Option (Entry δ)} (h : name.temporary ≠ none) : dir.Same (dir.set name entry) :=
  fun _ hname' => set_of_ne fun heq => h (heq ▸ hname')

theorem Same.commits (h : dir.Same dir') : dir'.commits = dir.commits := by
  unfold Directory.commits
  rw [h _ rfl]

theorem Same.main (h : dir.Same dir') : dir'.main = dir.main := by
  unfold Directory.main
  rw [h _ rfl]

theorem Same.seen (h : dir.Same dir') : dir'.seen = dir.seen := by
  unfold Directory.seen
  rw [h.main, h.commits]

theorem Same.rests (h : dir.Same dir') (hrests : dir.Rests db) : dir'.Rests db :=
  ⟨h.main.trans hrests.main, h.commits.trans hrests.commits⟩

theorem Rests.seen (h : dir.Rests db) : dir.seen = some db := by
  unfold Directory.seen
  rw [h.main, h.commits]
  rfl

theorem rests_of_seen (hseen : dir.seen = some db) (hcommits : dir.commits = []) : dir.Rests db := by
  refine ⟨?_, hcommits⟩
  unfold Directory.seen at hseen
  rw [hcommits] at hseen
  obtain ⟨db', hmain, rfl⟩ := Option.map_eq_some_iff.1 hseen
  exact hmain

theorem main_eq_some : dir.main = some db ↔ dir .database = some (.regular (.database db)) := by
  unfold Directory.main
  split
  · next db' hentry =>
    rw [hentry]
    simp
  · next hentry => exact iff_of_false nofun fun h => hentry db h

/-- A connection that writes nothing leaves what is read. -/
theorem Settles.seen (h : dir.Settles dir') (hseen : dir.seen = some db) : dir'.seen = some db := by
  unfold Directory.seen at hseen ⊢
  obtain ⟨db₁, hmain, rfl⟩ := Option.map_eq_some_iff.1 hseen
  obtain ⟨db₂, hmain', hlog | hlog⟩ := h.main db₁ hmain
  · rw [hmain', hlog.1, Option.map_some]
    congr 1
    cases hcommits : dir.commits with
    | nil => exact hlog.2 hcommits
    | cons commit commits => rw [List.getLast?_cons, Option.getD_some, Option.getD_some]
  · rw [hmain', hlog.1, hlog.2]
    rfl

theorem Settles.commits (h : dir.Settles dir') (hseen : dir.seen = some db) (hcommits : dir.commits = []) :
    dir'.commits = [] := by
  obtain ⟨db', -, hlog | hlog⟩ := h.main db (rests_of_seen hseen hcommits).main
  · exact hlog.1.trans hcommits
  · exact hlog.1

theorem Touches.same (h : dir.Touches dir' (some n)) : dir.Same dir' :=
  fun name hname => h.elsewhere name fun heq => by
    rw [hname] at heq
    cases heq

end Directory

theorem Shows.of_seen (h : dir.seen = some history) : Shows layout history dir := ⟨history, h, .inl rfl⟩

theorem Shows.of_isPurged (h : IsPurged layout dir) : Shows layout history dir := by
  obtain ⟨db, hempty, hrests⟩ := h
  exact ⟨db, hrests.seen, .inr hempty⟩

theorem IsPurged.same (h : IsPurged layout dir) (hsame : dir.Same dir') : IsPurged layout dir' := by
  obtain ⟨db, hempty, hrests⟩ := h
  exact ⟨db, hempty, hsame.rests hrests⟩

/-! ## What is asked of the steps -/

/-- After every step, what is read is the history or an empty one. -/
def purgeContract (layout : Layout δ) (history : δ) : Prog.Contract PurgeOp PurgeAns (Directory δ) where
  answers dir op a dir' := dir.answers layout op a dir'
  guard dir op := ∀ a dir', dir.answers layout op a dir' → Shows layout history dir'

section Rules

variable {φ ψ : Directory δ → Prop} {χ : α → Directory δ → Prop}

/-- The postcondition `χ` for values and `ψ` for the exceptions of steps; there are no others. -/
def StepPost (χ : α → Directory δ → Prop) (ψ : Directory δ → Prop) : Except PurgeException α → Directory δ → Prop
  | .ok a, d => χ a d
  | .error e, d => (∃ exception, e = .step exception) ∧ ψ d

theorem StepPost.post {p : Purge α} (hp : wp (purgeContract layout history) p (StepPost χ ψ) dir) :
    wp (purgeContract layout history) p (Post χ ψ) dir :=
  wp_mono hp fun
    | .ok _, _, h => h
    | .error _, _, h => h.2

theorem StepPost.bind {p : Purge α} {f : α → Purge β} {χ' : β → Directory δ → Prop}
    (hp : wp (purgeContract layout history) p (StepPost χ ψ) dir)
    (hf : ∀ a d, χ a d → wp (purgeContract layout history) (f a) (StepPost χ' ψ) d) :
    wp (purgeContract layout history) (p >>= f) (StepPost χ' ψ) dir :=
  wp_bind.2 <| wp_mono hp fun
    | .ok a, d, h => hf a d h
    | .error _, _, h => h

theorem StepPost.mono {p : Purge α} {χ' : α → Directory δ → Prop}
    (hp : wp (purgeContract layout history) p (StepPost χ ψ) dir) (h : ∀ a d, χ a d → χ' a d) :
    wp (purgeContract layout history) p (StepPost χ' ψ) dir :=
  wp_mono hp fun
    | .ok a, d, ha => h a d ha
    | .error _, _, ha => ha

theorem StepPost.forEach {f : β → Purge Unit} {bs : List β} (h : φ dir)
    (hf : ∀ b ∈ bs, ∀ d, φ d → wp (purgeContract layout history) (f b) (StepPost (fun _ => φ) φ) d) :
    wp (purgeContract layout history) (forEach f bs) (StepPost (fun _ => φ) φ) dir := by
  induction bs generalizing dir with
  | nil => exact wp_pure.2 h
  | cons b bs ih =>
    unfold Purges.forEach
    rw [List.forall_mem_cons] at hf
    exact StepPost.bind (hf.1 dir h) fun _ d hd => ih hd hf.2

theorem wp_step_raises {s : PurgeStep} {χ : Directory δ → Prop} (hχ : ∀ d, χ d → Shows layout history d)
    (hψ : ∀ d, ψ d → Shows layout history d) (hsucceeds : ∀ d, dir.succeeds s d → χ d)
    (hfails : ∀ d, dir.fails s d → ψ d) :
    wp (purgeContract layout history) (step s) (StepPost (fun _ => χ) ψ) dir := by
  unfold step
  refine wp_bind.2 (wp_perform.2 ⟨fun a d h => ?_, fun a d h => ?_⟩)
  · cases a with
    | ok u => exact hχ d (hsucceeds d h)
    | error e => exact hψ d (hfails d h)
  · cases a with
    | ok u => exact hsucceeds d h
    | error e => exact ⟨⟨e, rfl⟩, hfails d h⟩

theorem wp_step {s : PurgeStep} {χ : Directory δ → Prop} (hχ : ∀ d, χ d → Shows layout history d)
    (hψ : ∀ d, ψ d → Shows layout history d) (hsucceeds : ∀ d, dir.succeeds s d → χ d)
    (hfails : ∀ d, dir.fails s d → ψ d) :
    wp (purgeContract layout history) (step s) (Post (fun _ => χ) ψ) dir :=
  StepPost.post (wp_step_raises hχ hψ hsucceeds hfails)

/-- A step that changes nothing. -/
theorem wp_idle {s : PurgeStep} (hφ : ∀ d, φ d → Shows layout history d) (h : φ dir)
    (hsucceeds : ∀ d, dir.succeeds s d → d = dir) (hfails : ∀ d, dir.fails s d → d = dir) :
    wp (purgeContract layout history) (step s) (Post (fun _ => φ) φ) dir :=
  wp_step hφ hφ (fun d hd => hsucceeds d hd ▸ h) fun d hd => hfails d hd ▸ h

theorem wp_query {q : PurgeQuery} {χ : Nat → Directory δ → Prop} (hχ : ∀ n d, χ n d → Shows layout history d)
    (hψ : ∀ d, ψ d → Shows layout history d) (hgives : ∀ n d, dir.gives layout q n d → χ n d)
    (hrefuses : ∀ d, dir.refuses q d → ψ d) :
    wp (purgeContract layout history) (query q) (Post χ ψ) dir := by
  unfold query
  refine wp_bind.2 (wp_perform.2 ⟨fun a d h => ?_, fun a d h => ?_⟩)
  · cases a with
    | ok n => exact hχ n d (hgives n d h)
    | error e => exact hψ d (hrefuses d h)
  · cases a with
    | ok n => exact hgives n d h
    | error e => exact hrefuses d h

theorem wp_close {immutable : Bool} (hφ : ∀ d, φ d → Shows layout history d)
    (hcloses : ∀ d, dir.Uses name immutable d → φ d) :
    wp (purgeContract layout history) (close name immutable) (Post (fun _ => φ) ψ) dir :=
  wp_perform.2 ⟨fun _ d h => hφ d (hcloses d h), fun _ d h => hcloses d h⟩

/-- What is known of a name after `exists`. -/
def ToldThere (dir : Directory δ) (name : Name) (there : Bool) : Prop :=
  (there = true → dir name ≠ none) ∧ (there = false → dir name = none ∨ dir name = some .symlink)

theorem wp_isThere_value {Q : Except PurgeException Bool → Directory δ → Prop} (hshows : Shows layout history dir)
    (h : ∀ there, ToldThere dir name there → Q (.ok there) dir) :
    wp (purgeContract layout history) (isThere name) Q dir := by
  refine wp_perform.2 ⟨fun a d hd => hd.1 ▸ hshows, fun a d hd => ?_⟩
  obtain ⟨rfl, htold⟩ := hd
  refine h a ?_
  unfold ToldThere
  cases hentry : d name with
  | none =>
    rw [hentry] at htold
    exact ⟨fun hthere => absurd (hthere.symm.trans htold) nofun, fun _ => .inl rfl⟩
  | some entry =>
    rw [hentry] at htold
    refine ⟨fun _ => nofun, fun hthere => ?_⟩
    cases entry with
    | symlink => exact .inr rfl
    | regular content => exact absurd (hthere.symm.trans htold) nofun
    | special => exact absurd (hthere.symm.trans htold) nofun

theorem wp_isThere {χ : Bool → Directory δ → Prop} (hshows : Shows layout history dir)
    (h : ∀ there, ToldThere dir name there → χ there dir) :
    wp (purgeContract layout history) (isThere name) (Post χ ψ) dir := wp_isThere_value hshows h

theorem wp_isSymlink_value {Q : Except PurgeException Bool → Directory δ → Prop} (hshows : Shows layout history dir)
    (h : ∀ symlink : Bool, (symlink = true ↔ dir name = some .symlink) → Q (.ok symlink) dir) :
    wp (purgeContract layout history) (isSymlink name) Q dir := by
  refine wp_perform.2 ⟨fun a d hd => hd.1 ▸ hshows, fun a d hd => ?_⟩
  obtain ⟨rfl, htold⟩ := hd
  exact h a htold

theorem wp_isSymlink {χ : Bool → Directory δ → Prop} (hshows : Shows layout history dir)
    (h : ∀ symlink : Bool, (symlink = true ↔ dir name = some .symlink) → χ symlink dir) :
    wp (purgeContract layout history) (isSymlink name) (Post χ ψ) dir := wp_isSymlink_value hshows h

theorem wp_isFile {χ : Bool → Directory δ → Prop} (hshows : Shows layout history dir) (h : ∀ file, χ file dir) :
    wp (purgeContract layout history) (isFile name) (Post χ ψ) dir :=
  wp_perform.2 ⟨fun _ _ hd => hd.1 ▸ hshows, fun a _ hd => hd.1 ▸ h a⟩

theorem wp_isSuperuser {χ : Bool → Directory δ → Prop} (hshows : Shows layout history dir)
    (h : ∀ superuser, χ superuser dir) :
    wp (purgeContract layout history) isSuperuser (Post χ ψ) dir :=
  wp_perform.2 ⟨fun _ _ hd => hd ▸ hshows, fun a _ hd => hd ▸ h a⟩

theorem wp_injectFailure {failPhase : Option String} {phase : String} (h : φ dir) :
    wp (purgeContract layout history) (injectFailure failPhase phase) (Post (fun _ => φ) φ) dir := by
  unfold injectFailure
  exact wp_ite.2 ⟨fun _ => h, fun _ => h⟩

/-- What is not needed after an exception is kept as well. -/
theorem wp_injectFailure_and {failPhase : Option String} {phase : String} (h : ψ dir ∧ φ dir) :
    wp (purgeContract layout history) (injectFailure failPhase phase) (Post (fun _ d => ψ d ∧ φ d) ψ) dir :=
  Post.weaken (wp_injectFailure (φ := fun d => ψ d ∧ φ d) h) fun _ h => h.1

theorem wp_idle_and {s : PurgeStep} (hψ : ∀ d, ψ d → Shows layout history d) (h : ψ dir ∧ φ dir)
    (hsucceeds : ∀ d, dir.succeeds s d → d = dir) (hfails : ∀ d, dir.fails s d → d = dir) :
    wp (purgeContract layout history) (step s) (Post (fun _ d => ψ d ∧ φ d) ψ) dir :=
  Post.weaken (wp_idle (φ := fun d => ψ d ∧ φ d) (fun d h => hψ d h.1) h hsucceeds hfails) fun _ h => h.1

theorem wp_forEach {f : β → Purge Unit} {bs : List β} (h : φ dir)
    (hf : ∀ b ∈ bs, ∀ d, φ d → wp (purgeContract layout history) (f b) (Post (fun _ => φ) ψ) d) :
    wp (purgeContract layout history) (forEach f bs) (Post (fun _ => φ) ψ) dir := by
  induction bs generalizing dir with
  | nil => exact wp_pure.2 h
  | cons b bs ih =>
    unfold forEach
    rw [List.forall_mem_cons] at hf
    exact Post.bind (hf.1 dir h) fun _ d hd => ih hd hf.2

/-- An exception is replaced by another. -/
theorem wp_raising {p : Purge α} {f : PurgeException → PurgeException}
    (hp : wp (purgeContract layout history) p (Post χ ψ) dir) :
    wp (purgeContract layout history) (p.handle fun e => .raise (f e)) (Post χ ψ) dir :=
  Post.handle hp fun _ _ h => wp_raise.2 h

end Rules

/-! ## Connections -/

section Connections

variable {φ : Directory δ → Prop} {χ : α → Directory δ → Prop} {immutable : Bool}

theorem wp_requireSchema (hφ : ∀ d, φ d → Shows layout history d)
    (hstable : ∀ d d', φ d → d.Uses name immutable d' → φ d') (h : φ dir) :
    wp (purgeContract layout history) (requireSchema name immutable)
      (Post (fun _ d => φ d ∧ ∃ db, dir.Reads name immutable db ∧ layout.version db = 4) φ) dir := by
  have hquery : wp (purgeContract layout history) (query (.version name immutable))
      (Post (fun version d => φ d ∧ ∃ db, dir.Reads name immutable db ∧ version = layout.version db) φ) dir := by
    refine wp_query (fun _ d hd => hφ d hd.1) hφ (fun version d hd => ?_) fun d hd => hstable dir d h hd
    exact ⟨hstable dir d h hd.2, hd.1⟩
  unfold requireSchema
  refine Post.bind (Post.handle hquery fun e d hd => ?_) fun version d hd => ?_
  · cases e with
    | step e => exact wp_ite.2 ⟨fun _ => wp_raise.2 hd, fun _ => wp_raise.2 hd⟩
    | admin e => exact wp_raise.2 hd
    | injected phase => exact wp_raise.2 hd
    | unverified diagnostic e => exact wp_raise.2 hd
  · refine wp_ite.2 ⟨fun _ => wp_raise.2 hd.1, fun hversion => wp_pure.2 ⟨hd.1, ?_⟩⟩
    obtain ⟨db, hreads, hdb⟩ := hd.2
    exact ⟨db, hreads, hdb.symm.trans (not_not.1 hversion)⟩

theorem wp_connected {p : Purge α} (hφ : ∀ d, φ d → Shows layout history d)
    (hstable : ∀ d d', φ d → d.Uses name immutable d' → φ d') (hχ : ∀ a d, χ a d → φ d)
    (hχstable : ∀ a d d', χ a d → d.Uses name immutable d' → χ a d')
    (hp : ∀ d, φ d → wp (purgeContract layout history) p (Post χ φ) d) (h : φ dir) :
    wp (purgeContract layout history) (connected name immutable p) (Post χ φ) dir := by
  unfold connected
  have hconnect : wp (purgeContract layout history) (step (.connect name immutable)) (Post (fun _ => φ) φ) dir :=
    wp_step hφ hφ (fun d hd => hstable dir d h hd) fun d hd => hstable dir d h hd
  refine Post.bind hconnect fun _ d hd => Post.andFinally (hp d hd) (fun a d' hd' => ?_) fun d' hd' => ?_
  · exact wp_close (fun d'' h'' => hφ d'' (hχ a d'' h'')) fun d'' h'' => hχstable a d' d'' hd' h''
  · exact wp_close hφ fun d'' h'' => hstable d' d'' hd' h''

end Connections

theorem uses_immutable (h : dir.Uses name true dir') : dir' = dir := by
  rwa [Directory.Uses, if_pos rfl] at h

theorem uses_database (h : dir.Uses .database false dir') : dir.Settles dir' := by
  have htemporary : Name.database.temporary = none := rfl
  rwa [Directory.Uses, if_neg Bool.false_ne_true, if_pos htemporary] at h

theorem uses_temp (h : dir.Uses (.temp n) false dir') : dir.Touches dir' (some n) := by
  rwa [Directory.Uses, if_neg Bool.false_ne_true, if_neg nofun] at h

/-- A database that is found to be empty has been read as it is. -/
theorem wp_validateEmptyDatabase (hshows : Shows layout history dir) :
    wp (purgeContract layout history) (validateEmptyDatabase name)
      (Post (fun _ d => d = dir ∧ ∃ db, dir name = some (.regular (.database db)) ∧ layout.IsEmpty db)
        (· = dir)) dir := by
  have hφ : ∀ d, d = dir → Shows layout history d := fun d hd => hd ▸ hshows
  have hstable : ∀ d d', d = dir → d.Uses name true d' → d' = dir := fun d d' hd h => (uses_immutable h).trans hd
  refine wp_raising (wp_connected hφ hstable (fun _ _ h => h.1) ?_ (fun d hd => ?_) rfl)
  · exact fun _ d d' hd h => ⟨(uses_immutable h).trans hd.1, hd.2⟩
  subst hd
  refine Post.bind (wp_requireSchema hφ hstable rfl) fun _ d' h => ?_
  obtain ⟨rfl, db, hreads, hversion⟩ := h
  rw [Directory.Reads, if_pos rfl] at hreads
  have hrow (table : HistoryTable) : wp (purgeContract layout history) (requireNoRows name table)
      (Post (fun _ d => d = d' ∧ layout.count db table = 0) (· = d')) d' := by
    unfold requireNoRows
    have hcount : wp (purgeContract layout history) (query (.count name table))
        (Post (fun count d => d = d' ∧ count = layout.count db table) (· = d')) d' := by
      refine wp_query (fun _ d h => hφ d h.1) hφ (fun count d h => ?_) fun d h => h
      obtain ⟨⟨db', hreads', rfl⟩, rfl⟩ := h
      rw [Directory.Reads, if_pos rfl, hreads] at hreads'
      cases hreads'
      exact ⟨rfl, rfl⟩
    refine Post.bind hcount fun count d h => wp_ite.2 ⟨fun _ => wp_raise.2 h.1, fun hzero => wp_pure.2 ⟨h.1, ?_⟩⟩
    exact h.2.symm.trans (not_not.1 hzero)
  have hnext (tables : List HistoryTable) {table : HistoryTable} {d : Directory δ}
      (h : d = d' ∧ ∀ t ∈ tables, layout.count db t = 0) :
      wp (purgeContract layout history) (requireNoRows name table)
        (Post (fun _ d => d = d' ∧ ∀ t ∈ table :: tables, layout.count db t = 0) (· = d')) d := by
    rw [h.1]
    refine Post.mono (hrow table) fun _ d'' h' => ⟨h'.1, ?_⟩
    exact List.forall_mem_cons.2 ⟨h'.2, h.2⟩
  unfold HistoryTable.all
  simp only [forEach]
  refine Post.bind (hnext [] ⟨rfl, nofun⟩) fun _ d h => ?_
  refine Post.bind (hnext _ h) fun _ d h => ?_
  refine Post.bind (hnext _ h) fun _ d h => ?_
  refine Post.bind (hnext _ h) fun _ d h => wp_pure.2 ⟨h.1, db, hreads, hversion, fun table => h.2 table ?_⟩
  cases table <;> decide

/-- The history is read, and there is nothing new under temporary names. -/
structure Unpurged (history : δ) (start dir : Directory δ) : Prop where
  seen : dir.seen = some history
  elsewhere : ∀ name, name.temporary ≠ none → dir name = start name

theorem Unpurged.settles (h : Unpurged history start dir) (hsettles : dir.Settles dir') : Unpurged history start dir' :=
  ⟨hsettles.seen h.seen, fun name hname => (hsettles.elsewhere name hname).trans (h.elsewhere name hname)⟩

/-- A checkpoint that is complete leaves nothing in the log. -/
theorem wp_checkpointForPurge (h : Unpurged history start dir) :
    wp (purgeContract layout history) checkpointForPurge
      (Post (fun _ d => Unpurged history start d ∧ d.Rests history) (Unpurged history start)) dir := by
  have hshows : ∀ d, Unpurged history start d → Shows layout history d := fun _ hd => .of_seen hd.seen
  have hstable : ∀ d d', Unpurged history start d → d.Uses .database false d' → Unpurged history start d' :=
    fun d d' hd huses => hd.settles (uses_database huses)
  have hconnected : wp (purgeContract layout history)
      (connected .database false do
        requireSchema .database false
        query (.checkpoint .database))
      (Post (fun busy d => Unpurged history start d ∧ (busy = 0 → d.commits = [])) (Unpurged history start)) dir := by
    refine wp_connected hshows hstable (fun _ _ hd => hd.1) ?_ (fun d hd => ?_) h
    · exact fun busy d d' hd huses =>
        ⟨hstable d d' hd.1 huses, fun hbusy => (uses_database huses).commits hd.1.seen (hd.2 hbusy)⟩
    · refine Post.bind (Post.mono (wp_requireSchema hshows hstable hd) fun _ _ h => h.1) fun _ d' hd' => ?_
      refine wp_query (fun _ d'' h => hshows d'' h.1) hshows (fun busy d'' h => ?_) fun d'' h => hstable d' d'' hd' h
      exact ⟨hstable d' d'' hd' h.1, h.2 rfl⟩
  unfold checkpointForPurge
  refine Post.bind (wp_raising hconnected) fun busy d hd => wp_ite.2 ⟨fun _ => wp_raise.2 hd.1, fun hbusy => ?_⟩
  exact wp_pure.2 ⟨hd.1, Directory.rests_of_seen hd.1.seen (hd.2 (not_not.1 hbusy))⟩

/-! ## Temporary files -/

theorem Directory.Same.shows (h : dir.Same dir') (hshows : Shows layout history dir) : Shows layout history dir' := by
  obtain ⟨db, hseen, hdb⟩ := hshows
  exact ⟨db, h.seen.trans hseen, hdb⟩

theorem Directory.Touches.refl {m : Option Nat} : dir.Touches dir m := ⟨fun _ _ => rfl, fun _ => .inl rfl⟩

theorem Directory.Touches.trans {dir'' : Directory δ} {m : Option Nat} (h : dir.Touches dir' m)
    (h' : dir'.Touches dir'' m) : dir.Touches dir'' m := by
  refine ⟨fun name hname => (h'.elsewhere name hname).trans (h.elsewhere name hname), fun name => ?_⟩
  rcases h'.regular name with hsame | hnew
  · rw [hsame]
    exact h.regular name
  · exact .inr hnew

theorem Directory.Touches.set_none {m : Option Nat} (h : name.temporary = m) : dir.Touches (dir.set name none) m := by
  refine ⟨fun other hother => Directory.set_of_ne fun heq => hother (heq ▸ h), fun other => ?_⟩
  by_cases heq : other = name
  · rw [heq, Directory.set_self]
    exact .inr (.inl rfl)
  · exact .inl (Directory.set_of_ne heq)

section Temporary

variable {φ : Directory δ → Prop}

theorem wp_unlink_raises (hφ : ∀ d, φ d → Shows layout history d) (h : φ dir) (hset : φ (dir.set name none)) :
    wp (purgeContract layout history) (step (.unlink name)) (StepPost (fun _ d => φ d ∧ d name = none) φ) dir := by
  refine wp_step_raises (fun d hd => hφ d hd.1) hφ (fun d hd => ?_) fun d hd => hd ▸ h
  rw [hd.2]
  exact ⟨hset, Directory.set_self⟩

theorem wp_unlinkThere_raises (hφ : ∀ d, φ d → Shows layout history d) (h : φ dir) (hset : φ (dir.set name none)) :
    wp (purgeContract layout history) (unlinkThere name)
      (StepPost (fun _ d => φ d ∧ (d name = none ∨ d name = some .symlink)) φ) dir := by
  unfold unlinkThere
  refine wp_bind.2 (wp_isThere_value (hφ dir h) fun there htold => wp_ite.2 ⟨fun _ => ?_, fun hthere => ?_⟩)
  · refine wp_bind.2 (wp_isSymlink_value (hφ dir h) fun symlink htold => wp_ite.2 ⟨fun hsymlink => ?_, fun _ => ?_⟩)
    · exact wp_pure.2 ⟨h, .inr (htold.1 hsymlink)⟩
    · exact StepPost.mono (wp_unlink_raises hφ h hset) fun _ d hd => ⟨hd.1, .inl hd.2⟩
  · exact wp_pure.2 ⟨h, htold.2 (Bool.eq_false_iff.2 hthere)⟩

theorem wp_unlinkThere (hφ : ∀ d, φ d → Shows layout history d) (h : φ dir) (hset : φ (dir.set name none)) :
    wp (purgeContract layout history) (unlinkThere name)
      (Post (fun _ d => φ d ∧ (d name = none ∨ d name = some .symlink)) φ) dir :=
  StepPost.post (wp_unlinkThere_raises hφ h hset)

theorem wp_chown (hφ : ∀ d, φ d → Shows layout history d) (h : φ dir) :
    wp (purgeContract layout history) chown (Post (fun _ => φ) φ) dir := by
  unfold chown
  refine Post.handle (wp_idle hφ h (fun _ hd => hd) fun _ hd => hd) fun e d hd => ?_
  split
  · exact Post.bind (wp_isSuperuser (χ := fun _ => φ) (hφ d hd) fun _ => hd) fun _ d' hd' =>
      wp_ite.2 ⟨fun _ => wp_raise.2 hd', fun _ => wp_pure.2 hd'⟩
  · exact wp_raise.2 hd

/-- Everything but the temporary file is as before, and of its sidecars none is new. -/
structure IsCreated (dir : Directory δ) (n : Nat) (dir' : Directory δ) : Prop where
  elsewhere : ∀ name, name.temporary ≠ some n → dir' name = dir name
  sidecars : ∀ sidecar, dir' ((Name.temp n).beside sidecar) ≠ none →
    dir' ((Name.temp n).beside sidecar) = dir ((Name.temp n).beside sidecar)

theorem wp_fillReplacement (hshows : Shows layout history dir) :
    wp (purgeContract layout history) (fillReplacement n)
      (Post (fun _ => IsCreated dir n) fun d => dir.Touches d (some n)) dir := by
  have hφ : ∀ d, dir.Touches d (some n) → Shows layout history d := fun d hd => hd.same.shows hshows
  have hstable : ∀ d d', dir.Touches d (some n) → d.Uses (.temp n) false d' → dir.Touches d' (some n) :=
    fun d d' hd huses => hd.trans (uses_temp huses)
  have hsidecar (sidecar : Sidecar) {d : Directory δ} (hd : dir.Touches d (some n)) :
      wp (purgeContract layout history) (unlinkThere ((Name.temp n).beside sidecar))
        (Post (fun _ d' => (dir.Touches d' (some n) ∧
            ∀ other, other ≠ (Name.temp n).beside sidecar → d' other = d other) ∧
          (d' ((Name.temp n).beside sidecar) ≠ none →
            d' ((Name.temp n).beside sidecar) = dir ((Name.temp n).beside sidecar)))
          fun d' => dir.Touches d' (some n)) d := by
    have hunlink : wp (purgeContract layout history) (unlinkThere ((Name.temp n).beside sidecar)) _ d := wp_unlinkThere
      (φ := fun d' => dir.Touches d' (some n) ∧ ∀ other, other ≠ (Name.temp n).beside sidecar → d' other = d other)
      (fun d' hd' => hφ d' hd'.1) ⟨hd, fun _ _ => rfl⟩
      ⟨hd.trans (Directory.Touches.set_none rfl), fun other hother => Directory.set_of_ne hother⟩
    refine Post.weaken (Post.mono hunlink fun _ d' h => ⟨h.1, fun hne => ?_⟩) fun d' h => h.1
    rcases h.2 with hnone | hsymlink
    · exact absurd hnone hne
    · rcases h.1.1.regular ((Name.temp n).beside sidecar) with hsame | hnone | ⟨content, hregular⟩
      · exact hsame
      · exact absurd hnone hne
      · rw [hsymlink] at hregular
        cases hregular
  have hsidecars {d : Directory δ} (hd : dir.Touches d (some n)) : wp (purgeContract layout history)
      (forEach (fun sidecar => unlinkThere ((Name.temp n).beside sidecar)) [.wal, .shm])
      (Post (fun _ d' => IsCreated dir n d' ∧ dir.Touches d' (some n)) fun d' => dir.Touches d' (some n)) d := by
    simp only [forEach]
    refine Post.bind (hsidecar .wal hd) fun _ d hwal => Post.bind (hsidecar .shm hwal.1.1) fun _ d' hshm => wp_pure.2 ?_
    refine ⟨⟨hshm.1.1.elsewhere, fun sidecar hne => ?_⟩, hshm.1.1⟩
    cases sidecar with
    | wal =>
      have hother : (Name.temp n).beside .wal ≠ (Name.temp n).beside .shm := nofun
      rw [hshm.1.2 _ hother] at hne ⊢
      exact hwal.2 hne
    | shm => exact hshm.2 hne
  unfold fillReplacement
  refine Post.bind (wp_step (χ := fun d => dir.Touches d (some n)) hφ hφ (fun d hd => hd) fun d hd => hd)
    fun _ d hd => ?_
  refine Post.bind (Post.mono (wp_requireSchema hφ hstable hd) fun _ _ h => h.1) fun _ d hd => ?_
  refine Post.bind (wp_query (χ := fun _ d => dir.Touches d (some n)) (fun _ => hφ) hφ
    (fun _ d' h => hstable d d' hd h.1) fun d' h => hstable d d' hd h) fun _ d hd => ?_
  refine Post.bind (wp_close hφ fun d' h => hstable d d' hd h) fun _ d hd => ?_
  refine Post.bind (hsidecars hd) fun _ d hd => ?_
  have hψ : ∀ d, IsCreated dir n d ∧ dir.Touches d (some n) → Shows layout history d := fun d hd => hφ d hd.2
  refine Post.bind (Post.weaken (wp_idle hψ hd (fun _ h => h) fun _ h => h) fun d hd => hd.2) fun _ d hd => ?_
  exact Post.weaken (Post.mono (wp_chown hψ hd) fun _ _ h => h.1) fun d hd => hd.2

theorem wp_reserve {χ : Nat → Directory δ → Prop} (hχ : ∀ n d, χ n d → Shows layout history d)
    (hφ : ∀ d, φ d → Shows layout history d) (h : φ dir)
    (hreserved : ∀ n, dir (.temp n) = none → χ n (dir.set (.temp n) (some (.regular .other)))) :
    wp (purgeContract layout history) (query .reserve) (Post χ φ) dir := by
  refine wp_query hχ hφ (fun n d hd => ?_) fun d hd => hd ▸ h
  rw [hd.2]
  exact hreserved n hd.1

theorem same_set_temp {entry : Option (Entry δ)} : dir.Same (dir.set (.temp n) entry) := Directory.Same.set nofun

theorem wp_createReplacement (hshows : Shows layout history dir) :
    wp (purgeContract layout history) createReplacement
      (Post (fun n d => IsCreated dir n d ∧ dir (.temp n) = none) dir.Same) dir := by
  have hφ : ∀ d, dir.Same d → Shows layout history d := fun d hd => hd.shows hshows
  unfold createReplacement
  refine Post.bind (wp_reserve (χ := fun n d => dir (.temp n) = none ∧ d = dir.set (.temp n) (some (.regular .other)))
    ?_ hφ Directory.Same.refl fun n hn => ⟨hn, rfl⟩) fun n d hd => ?_
  · rintro n d ⟨-, rfl⟩
    exact hφ _ same_set_temp
  obtain ⟨hn, rfl⟩ := hd
  have hidle : wp (purgeContract layout history) (step .closeDescriptor) _ _ := wp_idle
    (φ := fun d => d = dir.set (.temp n) (some (.regular .other))) (fun d hd => hd ▸ hφ _ same_set_temp) rfl
    (fun _ h => h) fun _ h => h
  refine Post.bind (Post.weaken hidle fun d hd => hd ▸ same_set_temp) fun _ d hd => ?_
  subst hd
  have hfill := wp_fillReplacement (n := n) (hφ (dir.set (.temp n) (some (.regular .other))) same_set_temp)
  have hcleaned : ∀ d, (dir.set (.temp n) (some (.regular .other))).Touches d (some n) →
      wp (purgeContract layout history)
        (forEach unlinkThere [.temp n, (Name.temp n).beside .wal, (Name.temp n).beside .shm])
        (Post (fun _ => dir.Same) dir.Same) d := by
    refine fun d hd => wp_forEach (same_set_temp.trans hd.same) fun name hname d hd => ?_
    have htemporary : name.temporary ≠ none := by
      simp only [List.mem_cons, List.not_mem_nil, or_false] at hname
      rcases hname with rfl | rfl | rfl <;> exact nofun
    exact Post.mono (wp_unlinkThere hφ hd (hd.trans (Directory.Same.set htemporary))) fun _ _ h => h.1
  have htry : wp (purgeContract layout history)
      ((fillReplacement n).handle fun e => do
        forEach unlinkThere [.temp n, (Name.temp n).beside .wal, (Name.temp n).beside .shm]
        .raise e)
      (Post (fun _ => IsCreated (dir.set (.temp n) (some (.regular .other))) n) dir.Same)
      (dir.set (.temp n) (some (.regular .other))) :=
    Post.handle hfill fun e d hd => Post.bind (hcleaned d hd) fun _ _ h => wp_raise.2 h
  refine Post.bind htry fun _ d hd => wp_pure.2 ⟨⟨fun name hname => ?_, fun sidecar hne => ?_⟩, hn⟩
  · exact (hd.elsewhere name hname).trans (Directory.set_of_ne fun heq => hname (heq ▸ rfl))
  · have hother : (Name.temp n).beside sidecar ≠ .temp n := nofun
    exact (hd.sidecars sidecar hne).trans (Directory.set_of_ne hother)

theorem set_set {entry entry' : Option (Entry δ)} : (dir.set name entry).set name entry' = dir.set name entry' :=
  Function.update_idem _ _ _

/-- A hard link is a new name for what there is. -/
theorem wp_hardLink (hshows : Shows layout history dir) (hname : name.temporary = none) :
    wp (purgeContract layout history) (hardLink name)
      (Post (fun n d => dir (.temp n) = none ∧ dir name ≠ none ∧ d = dir.set (.temp n) (dir name)) dir.Same) dir := by
  have hφ : ∀ d, dir.Same d → Shows layout history d := fun d hd => hd.shows hshows
  have hreserve : wp (purgeContract layout history) reserveUniquePath
      (Post (fun n d => dir (.temp n) = none ∧ d = dir.set (.temp n) none) dir.Same) dir := by
    unfold reserveUniquePath
    refine Post.bind (wp_reserve (χ := fun n d => dir (.temp n) = none ∧ d = dir.set (.temp n) (some (.regular .other)))
      ?_ hφ Directory.Same.refl fun n hn => ⟨hn, rfl⟩) fun n d hd => ?_
    · rintro n d ⟨-, rfl⟩
      exact hφ _ same_set_temp
    obtain ⟨hn, rfl⟩ := hd
    have hidle : wp (purgeContract layout history) (step .closeDescriptor) _ _ := wp_idle
      (φ := fun d => d = dir.set (.temp n) (some (.regular .other))) (fun d hd => hd ▸ hφ _ same_set_temp) rfl
      (fun _ h => h) fun _ h => h
    refine Post.bind (Post.weaken hidle fun d hd => hd ▸ same_set_temp) fun _ d hd => ?_
    subst hd
    refine Post.bind (wp_step (χ := fun d => d = dir.set (.temp n) none) (fun d hd => hd ▸ hφ _ same_set_temp) hφ
      (fun d hd => hd.2.trans set_set) fun d hd => hd ▸ same_set_temp) fun _ d hd => wp_pure.2 ⟨hn, hd⟩
  unfold hardLink
  refine Post.bind hreserve fun n d hd => ?_
  obtain ⟨hn, rfl⟩ := hd
  have hsource : dir.set (.temp n) none name = dir name :=
    Directory.set_of_ne fun heq => by
      rw [heq] at hname
      cases hname
  have hlink : wp (purgeContract layout history) (step (.link name (.temp n)))
      (Post (fun _ d => dir name ≠ none ∧ d = dir.set (.temp n) (dir name)) dir.Same) (dir.set (.temp n) none) := by
    refine wp_step (fun d hd => hd.2 ▸ hφ _ same_set_temp) hφ (fun d hd => ?_) fun d hd => hd ▸ same_set_temp
    obtain ⟨hne, -, rfl⟩ := hd
    rw [hsource] at hne ⊢
    exact ⟨hne, set_set⟩
  refine Post.bind (Post.handle hlink fun e d hd => ?_) fun _ d hd => wp_pure.2 ⟨hn, hd⟩
  split
  · exact wp_ite.2 ⟨fun _ => wp_raise.2 hd, fun _ => wp_raise.2 hd⟩
  · exact wp_raise.2 hd

end Temporary

/-! ## Preparing the replacement -/

/-- How a part of the `try` block ends. -/
def HoldingPost (φ : α → Directory δ → Prop) (ψ : PurgeException → Held → Directory δ → Prop) :
    Except (PurgeException × Held) α → Directory δ → Prop
  | .ok a, d => φ a d
  | .error (e, held), d => ψ e held d

section Holding

variable {χ : α → Directory δ → Prop} {ψ : PurgeException → Held → Directory δ → Prop} {held : Held}

theorem HoldingPost.bind {p : Holding α} {f : α → Holding β} {χ' : β → Directory δ → Prop}
    (hp : wp (purgeContract layout history) p (HoldingPost χ ψ) dir)
    (hf : ∀ a d, χ a d → wp (purgeContract layout history) (f a) (HoldingPost χ' ψ) d) :
    wp (purgeContract layout history) (p >>= f) (HoldingPost χ' ψ) dir :=
  wp_bind.2 <| wp_mono hp fun
    | .ok a, d, h => hf a d h
    | .error _, _, h => h

theorem wp_holding_iff {p : Purge α} : wp (purgeContract layout history) (holding held p) (HoldingPost χ ψ) dir ↔
    wp (purgeContract layout history) p (fun r d => match r with
      | .ok a => χ a d
      | .error e => ψ e held d) dir := by
  unfold holding
  rw [wp_bind, wp_embed_id]
  constructor
  · refine fun h => wp_mono h fun r d hr => ?_
    cases r with
    | ok a => exact hr
    | error e => exact hr
  · refine fun h => wp_mono h fun r d hr => ?_
    cases r with
    | ok a => exact hr
    | error e => exact hr

theorem wp_holding {p : Purge α} {φ : Directory δ → Prop} (hp : wp (purgeContract layout history) p (Post χ φ) dir)
    (hψ : ∀ e d, φ d → ψ e held d) : wp (purgeContract layout history) (holding held p) (HoldingPost χ ψ) dir := by
  refine wp_holding_iff.2 (wp_mono hp fun r d hr => ?_)
  cases r with
  | ok a => exact hr
  | error e => exact hψ e d hr

theorem wp_holding_raises {p : Purge α} {φ : Directory δ → Prop}
    (hp : wp (purgeContract layout history) p (StepPost χ φ) dir)
    (hψ : ∀ exception d, φ d → ψ (.step exception) held d) :
    wp (purgeContract layout history) (holding held p) (HoldingPost χ ψ) dir := by
  refine wp_holding_iff.2 (wp_mono hp fun r d hr => ?_)
  cases r with
  | ok a => exact hr
  | error e =>
    obtain ⟨⟨exception, rfl⟩, hd⟩ := hr
    exact hψ exception d hd

end Holding

/-- The main file of the history. -/
def original (history : δ) : Option (Entry δ) := some (.regular (.database history))

/-- The commits of what is under a name. -/
def commitsOf (entry : Option (Entry δ)) : List δ := (entry.map Entry.commits).getD []

/-- The links of sidecars can be put back: they are files, and a log has no commits. -/
def Restorable (sidecars : List (Sidecar × Nat)) (dir : Directory δ) : Prop :=
  ∀ saved ∈ sidecars, dir (.temp saved.2) ≠ some .symlink ∧ (saved.1 = .wal → commitsOf (dir (.temp saved.2)) = [])

/-- Under temporary names there is nothing new, except for these. -/
def NewAt (temps : List Nat) (start dir : Directory δ) : Prop :=
  ∀ name, name.temporary ≠ none → dir name ≠ none → dir name = start name ∨ ∃ n ∈ temps, name = .temp n

/-- The temporary names that are held beside that of the replacement. -/
def Held.temps (held : Held) : List Nat := held.recovery.toList ++ held.backup.toList ++ held.sidecars.map (·.2)

/-- The history is still in its place, and the replacement and the links are ready. -/
structure Linked (layout : Layout δ) (history : δ) (start : Directory δ) (n : Nat) (held : Held) (dir : Directory δ) :
    Prop where
  rests : dir.Rests history
  replacement : ∃ db, layout.IsEmpty db ∧ dir (.temp n) = original db
  recovery : ∀ v, held.recovery = some v → dir (.temp v) = original history ∧ v ≠ n
  backup : ∀ b, held.backup = some b → held.recovery ≠ some b
  restorable : Restorable held.sidecars dir
  saved : ∀ saved ∈ held.sidecars, dir (.temp saved.2) ≠ none
  new : NewAt (n :: held.temps) start dir
  unreplaced : held.replaced = false

theorem NewAt.set {temps temps' : List Nat} {entry : Option (Entry δ)} (h : NewAt temps start dir)
    (htemps : ∀ m, m ∈ n :: temps → m ∈ temps') : NewAt temps' start (dir.set (.temp n) entry) := by
  intro name hname hne
  by_cases heq : name = .temp n
  · exact .inr ⟨n, htemps n List.mem_cons_self, heq⟩
  · rw [Directory.set_of_ne heq] at hne ⊢
    refine (h name hname hne).imp_right fun ⟨m, hm, hnamed⟩ => ⟨m, htemps m (List.mem_cons_of_mem n hm), hnamed⟩

theorem NewAt.set_none {temps temps' : List Nat} (h : NewAt temps start dir)
    (htemps : ∀ m ∈ temps, m = n ∨ m ∈ temps') : NewAt temps' start (dir.set (.temp n) none) := by
  intro name hname hne
  by_cases heq : name = .temp n
  · rw [heq, Directory.set_self] at hne
    exact absurd rfl hne
  · rw [Directory.set_of_ne heq] at hne ⊢
    refine (h name hname hne).imp_right ?_
    rintro ⟨m, hm, rfl⟩
    rcases htemps m hm with rfl | hm
    · exact absurd rfl heq
    · exact ⟨m, hm, rfl⟩

theorem temp_ne_database : Name.temp n ≠ .database := nofun

theorem temp_ne {m : Nat} (h : m ≠ n) : Name.temp m ≠ .temp n := fun heq => by
  cases heq
  exact h rfl

/-- One more link. -/
theorem Linked.set {held held' : Held} {m : Nat} {entry : Option (Entry δ)} (h : Linked layout history start n held dir)
    (hfresh : dir (.temp m) = none) (hentry : entry ≠ none)
    (hrecovery : ∀ v, held'.recovery = some v → held.recovery = some v ∨ v = m ∧ entry = original history)
    (hbackup : ∀ b, held'.backup = some b → held'.recovery ≠ some b)
    (hsidecars : ∀ saved ∈ held'.sidecars, saved ∈ held.sidecars ∨ saved.2 = m ∧ entry ≠ some .symlink ∧
      (saved.1 = .wal → commitsOf entry = []))
    (htemps : ∀ k, k ∈ m :: held.temps → k ∈ held'.temps) (hunreplaced : held'.replaced = false) :
    Linked layout history start n held' (dir.set (.temp m) entry) := by
  have hother (k : Nat) (hk : dir (.temp k) ≠ none) : dir.set (.temp m) entry (.temp k) = dir (.temp k) :=
    Directory.set_of_ne (temp_ne fun heq => hk (heq ▸ hfresh))
  obtain ⟨db, hempty, hdb⟩ := h.replacement
  have hn : dir (.temp n) ≠ none := by
    rw [hdb]
    exact nofun
  refine ⟨same_set_temp.rests h.rests, ⟨db, hempty, (hother n hn).trans hdb⟩, fun v hv => ?_,
      hbackup, fun saved hsaved => ?_,
    fun saved hsaved => ?_, ?_, hunreplaced⟩
  · rcases hrecovery v hv with hv | ⟨rfl, hentry⟩
    · obtain ⟨horiginal, hne⟩ := h.recovery v hv
      refine ⟨(hother v ?_).trans horiginal, hne⟩
      rw [horiginal]
      exact nofun
    · exact ⟨Directory.set_self.trans hentry, fun heq => hn (heq ▸ hfresh)⟩
  · rcases hsidecars saved hsaved with hold | ⟨rfl, hnew⟩
    · rw [hother saved.2 (h.saved saved hold)]
      exact h.restorable saved hold
    · rw [Directory.set_self]
      exact hnew
  · rcases hsidecars saved hsaved with hold | ⟨rfl, -⟩
    · rw [hother saved.2 (h.saved saved hold)]
      exact h.saved saved hold
    · rw [Directory.set_self]
      exact hentry
  · refine h.new.set fun k hk => ?_
    rcases List.mem_cons.1 hk with rfl | hk
    · exact List.mem_cons_of_mem n (htemps k List.mem_cons_self)
    · rcases List.mem_cons.1 hk with rfl | hk
      · exact List.mem_cons_self
      · exact List.mem_cons_of_mem n (htemps k (List.mem_cons_of_mem m hk))

theorem wp_linkSidecar {sidecar : Sidecar} (hshows : Shows layout history dir) :
    wp (purgeContract layout history) (linkSidecar sidecar)
      (Post (fun linked d => linked = none ∧ d = dir ∨ ∃ m, linked = some m ∧ dir (.temp m) = none ∧
        d = dir.set (.temp m) (dir (Name.database.beside sidecar)) ∧ dir (Name.database.beside sidecar) ≠ none ∧
        dir (Name.database.beside sidecar) ≠ some .symlink) dir.Same) dir := by
  unfold linkSidecar
  refine Post.bind (wp_isThere (χ := fun _ d => d = dir) hshows fun _ _ => rfl) fun there d hd => ?_
  subst hd
  refine wp_ite.2 ⟨fun _ => ?_, fun _ => wp_pure.2 (.inl ⟨rfl, rfl⟩)⟩
  refine Post.bind (wp_isSymlink (χ := fun symlink d' => d' = d ∧
    (symlink = true ↔ d (Name.database.beside sidecar) = some .symlink)) hshows fun _ h => ⟨rfl, h⟩)
      fun symlink d' hd' => ?_
  obtain ⟨rfl, hsymlink⟩ := hd'
  refine Post.bind (wp_isFile (χ := fun _ d => d = d') hshows fun _ => rfl) fun file d hd => ?_
  subst hd
  refine wp_ite.2 ⟨fun _ => wp_raise.2 Directory.Same.refl, fun hsafe => ?_⟩
  refine Post.bind (wp_hardLink hshows rfl) fun m d' hd' => wp_pure.2 (.inr ⟨m, rfl, hd'.1, hd'.2.2, hd'.2.1, ?_⟩)
  exact fun heq => hsafe (.inl (hsymlink.2 heq))

/-- What the `except` block finds. -/
inductive CanRecover (layout : Layout δ) (history : δ) (e : PurgeException) (held : Held) (dir : Directory δ) :
    Prop where
  | unreplaced (hreplaced : held.replaced = false) (hrests : dir.Rests history)
  | linked {v : Nat} (hreplaced : held.replaced = true) (hreplacement : held.replacement = none)
    (hpurged : IsPurged layout dir) (hrestorable : Restorable held.sidecars dir) (hrecovery : held.recovery = some v)
    (horiginal : dir (.temp v) = original history)
  | done (hreplaced : held.replaced = true) (hrecovery : held.recovery = none) (hpurged : IsPurged layout dir)
    (hstep : ∃ exception, e = .step exception)

theorem Directory.Same.canRecover {e : PurgeException} {held : Held} (h : dir.Same dir') (hrests : dir.Rests history)
    (hreplaced : held.replaced = false) : CanRecover layout history e held dir' :=
  .unreplaced hreplaced (h.rests hrests)

theorem commitsOf_wal (h : dir.Rests db) : commitsOf (dir (Name.database.beside .wal)) = [] := h.commits

theorem wp_linkSidecars {held : Held} {sidecars : List Sidecar} (h : Linked layout history start n held dir) :
    wp (purgeContract layout history) (linkSidecars held sidecars)
      (HoldingPost (fun held' d => Linked layout history start n held' d ∧ held'.recovery = held.recovery)
        (CanRecover layout history)) dir := by
  induction sidecars generalizing held dir with
  | nil => exact wp_pure.2 ⟨h, rfl⟩
  | cons sidecar sidecars ih =>
    unfold linkSidecars
    have hshows : Shows layout history dir := .of_seen h.rests.seen
    refine HoldingPost.bind (wp_holding (wp_linkSidecar hshows) fun e d hd => hd.canRecover h.rests h.unreplaced)
      fun linked d hd => ?_
    rcases hd with ⟨rfl, rfl⟩ | ⟨m, rfl, hfresh, rfl, hne, hsymlink⟩
    · exact ih h
    · refine ih (h.set hfresh hne (fun v hv => .inl hv) h.backup (fun saved hsaved => ?_) (fun k hk => ?_) h.unreplaced)
      · rcases List.mem_append.1 hsaved with hold | hnew
        · exact .inl hold
        · obtain rfl := List.mem_singleton.1 hnew
          refine .inr ⟨rfl, hsymlink, ?_⟩
          rintro rfl
          exact commitsOf_wal h.rests
      · unfold Held.temps at hk ⊢
        rw [List.map_append, ← List.append_assoc, List.mem_append]
        rcases List.mem_cons.1 hk with rfl | hk
        · exact .inr List.mem_cons_self
        · exact .inl hk

/-- The replacement is in place, and can be undone. -/
structure Placed (layout : Layout δ) (history : δ) (start : Directory δ) (held : Held) (dir : Directory δ) : Prop where
  purged : IsPurged layout dir
  recovery : ∃ v, held.recovery = some v ∧ dir (.temp v) = original history
  backup : ∀ b, held.backup = some b → held.recovery ≠ some b
  restorable : Restorable held.sidecars dir
  new : NewAt held.temps start dir
  replaced : held.replaced = true
  replacement : held.replacement = none

theorem Linked.placed {held : Held} (h : Linked layout history start n held dir) (hrecovery : held.recovery.isSome) :
    Placed layout history start { held with replacement := none, replaced := true }
      ((dir.set .database (dir (.temp n))).set (.temp n) none) := by
  obtain ⟨db, hempty, hdb⟩ := h.replacement
  have hother {m : Nat} (hm : m ≠ n) :
      (dir.set .database (dir (.temp n))).set (.temp n) none (.temp m) = dir (.temp m) := by
    rw [Directory.set_of_ne (temp_ne hm), Directory.set_of_ne temp_ne_database]
  refine ⟨⟨db, hempty, same_set_temp.rests ⟨?_, ?_⟩⟩, ?_, h.backup, fun saved hsaved => ?_, ?_, rfl, rfl⟩
  · rw [Directory.main_eq_some, Directory.set_self]
    exact hdb
  · have hwal : Name.database.beside .wal ≠ .database := nofun
    exact (congrArg commitsOf (Directory.set_of_ne hwal)).trans h.rests.commits
  · obtain ⟨v, hv⟩ := Option.isSome_iff_exists.1 hrecovery
    obtain ⟨horiginal, hne⟩ := h.recovery v hv
    exact ⟨v, hv, (hother hne).trans horiginal⟩
  · by_cases heq : saved.2 = n
    · rw [heq, Directory.set_self]
      exact ⟨nofun, fun _ => rfl⟩
    · rw [hother heq]
      exact h.restorable saved hsaved
  · have hnew : NewAt (n :: held.temps) start (dir.set .database (dir (.temp n))) := by
      intro name hname hne
      have hdatabase : name ≠ .database := fun heq => hname (heq ▸ rfl)
      rw [Directory.set_of_ne hdatabase] at hne ⊢
      exact h.new name hname hne
    exact hnew.set_none fun m hm => List.mem_cons.1 hm

/-- Up to the replacement nothing has happened to the history, and with it everything. -/
theorem wp_prepare {failPhase : Option String} (h : dir.Rests history) :
    wp (purgeContract layout history) (prepare failPhase)
      (HoldingPost (fun held => Placed layout history dir held) (CanRecover layout history)) dir := by
  have hshows : Shows layout history dir := .of_seen h.seen
  unfold prepare
  refine HoldingPost.bind (wp_holding (wp_createReplacement hshows) fun e d hd => hd.canRecover h rfl) fun n d hd => ?_
  obtain ⟨hcreated, hfresh⟩ := hd
  have hsame : dir.Same d := fun name hname => hcreated.elsewhere name fun heq => by
    rw [hname] at heq
    cases heq
  have hrests := hsame.rests h
  have hvalid : wp (purgeContract layout history)
      (do
        injectFailure failPhase "after_replacement_create"
        validateEmptyDatabase (.temp n)
        injectFailure failPhase "after_replacement_validate"
        step (.fsync (some (.temp n)))
        injectFailure failPhase "after_replacement_fsync")
      (Post (fun _ d' => d' = d ∧ ∃ db, d (.temp n) = original db ∧ layout.IsEmpty db) (· = d)) d := by
    have hd : Shows layout history d := .of_seen hrests.seen
    refine Post.bind (wp_injectFailure rfl) fun _ d' h => ?_
    subst h
    refine Post.bind (wp_validateEmptyDatabase hd) fun _ d h => ?_
    obtain ⟨rfl, hempty⟩ := h
    refine Post.bind (wp_injectFailure (φ := (· = d)) rfl) fun _ d' h => ?_
    refine Post.bind (wp_idle (φ := (· = d)) (fun _ h => h ▸ hd) h (fun _ h => h) fun _ h => h) fun _ d' h => ?_
    exact Post.mono (wp_injectFailure (φ := (· = d)) h) fun _ d' h => ⟨h, hempty⟩
  refine HoldingPost.bind (wp_holding hvalid fun e d' hd' => .unreplaced rfl (hd' ▸ hrests)) fun _ d' hd' => ?_
  obtain ⟨rfl, db, hdb, hempty⟩ := hd'
  have hready : Linked layout history dir n { replacement := some n } d' := by
    refine ⟨hrests, ⟨db, hempty, hdb⟩, nofun, nofun, nofun, nofun, fun name hname hne => ?_, rfl⟩
    by_cases hn : name.temporary = some n
    · obtain ⟨temporary, sidecar⟩ := name
      obtain rfl := hn
      cases sidecar with
      | none => exact .inr ⟨n, List.mem_cons_self, rfl⟩
      | some sidecar => exact .inl (hcreated.sidecars sidecar hne)
    · exact .inl (hcreated.elsewhere name hn)
  have hdatabase {d : Directory δ} (hd : d.Rests history) : d .database = original history :=
    Directory.main_eq_some.1 hd.main
  have hlink {held : Held} {d : Directory δ} (hd : Linked layout history dir n held d) :
      wp (purgeContract layout history) (holding held (hardLink .database))
        (HoldingPost (fun m d' => d (.temp m) = none ∧ d' = d.set (.temp m) (original history))
          (CanRecover layout history)) d := by
    refine wp_holding (Post.mono (wp_hardLink (.of_seen hd.rests.seen) rfl) fun m d' h => ⟨h.1, ?_⟩)
      fun e d' hd' => hd'.canRecover hd.rests hd.unreplaced
    rw [h.2.2, hdatabase hd.rests]
  refine HoldingPost.bind (hlink hready) fun v d hd => ?_
  obtain ⟨hv, rfl⟩ := hd
  have hrecovery : Linked layout history dir n { replacement := some n, recovery := some v }
      (d'.set (.temp v) (original history)) := by
    refine hready.set hv nofun (fun v' hv' => .inr ⟨(Option.some.inj hv').symm, rfl⟩) nofun nofun (fun k hk => hk) rfl
  refine HoldingPost.bind (hlink hrecovery) fun b d hd => ?_
  obtain ⟨hb, rfl⟩ := hd
  have hne : v ≠ b := by
    rintro rfl
    rw [Directory.set_self] at hb
    cases hb
  have hbackup : Linked layout history dir n { replacement := some n, recovery := some v, backup := some b }
      ((d'.set (.temp v) (original history)).set (.temp b) (original history)) := by
    refine hrecovery.set hb nofun (fun v' hv' => .inl hv') (fun b' hb' heq => ?_) nofun (fun k hk => ?_) rfl
    · exact hne ((Option.some.inj heq).trans (Option.some.inj hb').symm)
    · simp only [Held.temps, Option.toList_some, Option.toList_none, List.map_nil, List.append_nil, List.mem_append,
        List.mem_cons, List.not_mem_nil, or_false] at hk ⊢
      exact hk.symm
  refine HoldingPost.bind (wp_linkSidecars hbackup) fun held d hd => ?_
  obtain ⟨hlinked, hheld⟩ := hd
  have hsome : held.recovery.isSome := by
    rw [hheld]
    rfl
  have hplaced := hlinked.placed hsome
  refine HoldingPost.bind (wp_holding (φ := fun d' => d' = d) ?_
    fun e d' hd' => .unreplaced hlinked.unreplaced (hd' ▸ hlinked.rests)) fun _ d' hd' => wp_pure.2 hd'
  have hd : Shows layout history d := .of_seen hlinked.rests.seen
  refine Post.bind (wp_injectFailure (φ := (· = d)) rfl) fun _ d' hd' => ?_
  subst hd'
  refine wp_step (fun d' hd' => .of_isPurged hd'.purged) (fun d' hd' => hd' ▸ hd) (fun d' hd' => ?_) fun d' hd' => hd'
  exact hd'.2 ▸ hplaced

/-! ## Concluding the purge -/

section Concluding

variable {φ : Directory δ → Prop} {sidecar : Sidecar} {path : Text} {held : Held}

theorem wp_unlinkRegular (hφ : ∀ d, φ d → Shows layout history d) (h : φ dir)
    (hset : φ (dir.set (Name.database.beside sidecar) none)) :
    wp (purgeContract layout history) (unlinkRegular path sidecar)
      (Post (fun _ d => φ d ∧ d (Name.database.beside sidecar) = none) φ) dir := by
  unfold unlinkRegular
  refine wp_bind.2 (wp_isSymlink_value (hφ dir h) fun symlink hsymlink =>
    wp_ite.2 ⟨fun _ => wp_raise.2 h, fun hnot => ?_⟩)
  refine wp_bind.2 (wp_isThere_value (hφ dir h) fun there htold => wp_ite.2 ⟨fun _ => ?_, fun hthere => ?_⟩)
  · exact StepPost.post (wp_unlink_raises hφ h hset)
  · refine wp_pure.2 ⟨h, ?_⟩
    rcases htold.2 (Bool.eq_false_iff.2 hthere) with hnone | hlink
    · exact hnone
    · exact absurd (hsymlink.2 hlink) hnot

theorem Directory.Rests.set_sidecar {entry : Option (Entry δ)} (h : dir.Rests db)
    (hentry : sidecar = .wal → commitsOf entry = []) : (dir.set (Name.database.beside sidecar) entry).Rests db := by
  have hmain : Name.database ≠ Name.database.beside sidecar := nofun
  refine ⟨Directory.main_eq_some.2 ((Directory.set_of_ne hmain).trans (Directory.main_eq_some.1 h.main)), ?_⟩
  cases sidecar with
  | wal => exact (congrArg commitsOf Directory.set_self).trans (hentry rfl)
  | shm =>
    have hwal : Name.database.beside .wal ≠ Name.database.beside .shm := nofun
    exact (congrArg commitsOf (Directory.set_of_ne hwal)).trans h.commits

theorem IsPurged.set_sidecar {entry : Option (Entry δ)} (h : IsPurged layout dir)
    (hentry : sidecar = .wal → commitsOf entry = []) :
    IsPurged layout (dir.set (Name.database.beside sidecar) entry) := by
  obtain ⟨db, hempty, hrests⟩ := h
  exact ⟨db, hempty, hrests.set_sidecar hentry⟩

theorem temp_ne_sidecar : Name.temp n ≠ Name.database.beside sidecar := nofun

theorem Placed.set_sidecar (h : Placed layout history start held dir) :
    Placed layout history start held (dir.set (Name.database.beside sidecar) none) := by
  obtain ⟨v, hv, horiginal⟩ := h.recovery
  refine ⟨h.purged.set_sidecar fun _ => rfl, ⟨v, hv, (Directory.set_of_ne temp_ne_sidecar).trans horiginal⟩, h.backup,
    fun saved hsaved => ?_, fun name hname hne => ?_, h.replaced, h.replacement⟩
  · rw [Directory.set_of_ne temp_ne_sidecar]
    exact h.restorable saved hsaved
  · have hother : name ≠ Name.database.beside sidecar := fun heq => hname (heq ▸ rfl)
    rw [Directory.set_of_ne hother] at hne ⊢
    exact h.new name hname hne

theorem Restorable.set_none {sidecars : List (Sidecar × Nat)} (h : Restorable sidecars dir) :
    Restorable sidecars (dir.set (.temp n) none) := by
  intro saved hsaved
  by_cases heq : saved.2 = n
  · rw [heq, Directory.set_self]
    exact ⟨nofun, fun _ => rfl⟩
  · rw [Directory.set_of_ne (temp_ne heq)]
    exact h saved hsaved

theorem Placed.canRecover {e : PurgeException} (h : Placed layout history start held dir) :
    CanRecover layout history e held dir := by
  obtain ⟨v, hv, horiginal⟩ := h.recovery
  exact .linked h.replaced h.replacement h.purged h.restorable hv horiginal

/-- The database has no sidecars. -/
def HasNoSidecars (dir : Directory δ) : Prop := ∀ sidecar, dir (Name.database.beside sidecar) = none

theorem HasNoSidecars.set_temp {entry : Option (Entry δ)} (h : HasNoSidecars dir) :
    HasNoSidecars (dir.set (.temp n) entry) :=
  fun sidecar => (Directory.set_of_ne temp_ne_sidecar.symm).trans (h sidecar)

/-- The backup is given up. -/
theorem Placed.unlink_backup {b : Nat} (h : Placed layout history start held dir) (hb : held.backup = some b) :
    Placed layout history start { held with backup := none } (dir.set (.temp b) none) := by
  obtain ⟨v, hv, horiginal⟩ := h.recovery
  have hne : v ≠ b := fun heq => h.backup b hb (heq ▸ hv)
  refine ⟨h.purged.same same_set_temp, ⟨v, hv, (Directory.set_of_ne (temp_ne hne)).trans horiginal⟩, nofun,
    h.restorable.set_none, h.new.set_none fun m hm => ?_, h.replaced, h.replacement⟩
  simp only [Held.temps, hb, Option.toList_some, Option.toList_none, List.append_nil, List.mem_append,
    List.mem_singleton] at hm ⊢
  rcases hm with (hm | hm) | hm
  · exact .inr (.inl hm)
  · exact .inl hm
  · exact .inr (.inr hm)

theorem Placed.without_backup (h : Placed layout history start held dir) (hb : held.backup = none) :
    Placed layout history start { held with backup := none } dir := by
  rw [← hb]
  exact h

/-- The history is given up. Its sidecars may still have links. -/
structure Emptied (layout : Layout δ) (start : Directory δ) (sidecars : List (Sidecar × Nat)) (dir : Directory δ) :
    Prop where
  purged : IsPurged layout dir
  noSidecars : HasNoSidecars dir
  restorable : Restorable sidecars dir
  new : NewAt (sidecars.map (·.2)) start dir

theorem Placed.unlink_recovery {v : Nat} (h : Placed layout history start { held with backup := none } dir)
    (hsidecars : HasNoSidecars dir) (hv : held.recovery = some v) :
    Emptied layout start held.sidecars (dir.set (.temp v) none) := by
  refine ⟨h.purged.same same_set_temp, hsidecars.set_temp, h.restorable.set_none, h.new.set_none fun m hm => ?_⟩
  simp only [Held.temps, hv, Option.toList_some, Option.toList_none, List.append_nil, List.mem_append,
    List.mem_singleton] at hm
  exact hm

theorem wp_conclude {failPhase : Option String} (h : Placed layout history start held dir) :
    wp (purgeContract layout history) (conclude path failPhase held)
      (HoldingPost (fun held d => Emptied layout start held.sidecars d ∧ held.replaced = true ∧ held.recovery = none)
        (CanRecover layout history)) dir := by
  have hφ : ∀ d, Placed layout history start held d → Shows layout history d := fun d hd => .of_isPurged hd.purged
  have hplaced : wp (purgeContract layout history)
      (do
        injectFailure failPhase "after_atomic_replace"
        step (.fsync none)
        validateEmptyDatabase .database
        injectFailure failPhase "after_replacement_validation"
        unlinkRegular path .wal
        injectFailure failPhase "after_wal_cleanup"
        unlinkRegular path .shm
        injectFailure failPhase "after_shm_cleanup"
        step (.fsync none)
        injectFailure failPhase "after_first_directory_fsync"
        forEach (fun backup => step (.unlink (.temp backup))) held.backup.toList)
      (Post (fun _ d => Placed layout history start { held with backup := none } d ∧ HasNoSidecars d)
        (Placed layout history start held)) dir := by
    refine Post.bind (wp_injectFailure h) fun _ d hd => ?_
    refine Post.bind (wp_idle hφ hd (fun _ h => h) fun _ h => h) fun _ d hd => ?_
    refine Post.bind (Post.weaken (Post.mono (wp_validateEmptyDatabase (hφ d hd)) fun _ d' h => (h.1 ▸ hd :
      Placed layout history start held d')) fun d' h => h ▸ hd) fun _ d hd => ?_
    refine Post.bind (wp_injectFailure hd) fun _ d hd => ?_
    refine Post.bind (wp_unlinkRegular hφ hd hd.set_sidecar) fun _ d hd => ?_
    have hφ' : ∀ d, (Placed layout history start held d ∧ d (Name.database.beside .wal) = none) →
        Shows layout history d := fun d hd => hφ d hd.1
    refine Post.bind (wp_injectFailure_and (φ := fun d => d (Name.database.beside .wal) = none) hd) fun _ d hd => ?_
    have hother : Name.database.beside .wal ≠ Name.database.beside .shm := nofun
    refine Post.bind (Post.weaken (wp_unlinkRegular hφ' hd
      ⟨hd.1.set_sidecar, (Directory.set_of_ne hother).trans hd.2⟩) fun d h => h.1) fun _ d hd => ?_
    have htidy : Placed layout history start held d ∧ HasNoSidecars d := by
      refine ⟨hd.1.1, fun sidecar => ?_⟩
      cases sidecar with
      | wal => exact hd.1.2
      | shm => exact hd.2
    refine Post.bind (wp_injectFailure_and htidy) fun _ d hd => ?_
    refine Post.bind (wp_idle_and hφ hd (fun _ h => h) fun _ h => h) fun _ d hd => ?_
    refine Post.bind (wp_injectFailure_and hd) fun _ d hd => ?_
    cases hb : held.backup with
    | none => exact wp_pure.2 ⟨hd.1.without_backup hb, hd.2⟩
    | some b =>
      refine Post.bind (wp_step (χ := fun d => Placed layout history start { held with backup := none } d ∧
        HasNoSidecars d) (fun d hd => .of_isPurged hd.1.purged) hφ (fun d' hd' => ?_) fun d' hd' => hd' ▸ hd.1)
        fun _ d hd => wp_pure.2 hd
      rw [hd'.2]
      exact ⟨hd.1.unlink_backup hb, hd.2.set_temp⟩
  have hrecovered {d : Directory δ}
      (hd : Placed layout history start { held with backup := none } d ∧ HasNoSidecars d) :
      wp (purgeContract layout history)
        (do
          injectFailure failPhase "after_backup_deletion"
          step (.fsync none)
          injectFailure failPhase "after_final_directory_fsync"
          forEach (fun recovery => step (.unlink (.temp recovery))) held.recovery.toList)
        (Post (fun _ => Emptied layout start held.sidecars)
          (Placed layout history start { held with backup := none })) d := by
    refine Post.bind (wp_injectFailure_and hd) fun _ d hd => ?_
    refine Post.bind (wp_idle_and (fun d hd => .of_isPurged hd.purged) hd (fun _ h => h) fun _ h => h) fun _ d hd => ?_
    refine Post.bind (wp_injectFailure_and hd) fun _ d hd => ?_
    obtain ⟨v, hv, -⟩ := hd.1.recovery
    have hv : held.recovery = some v := hv
    have hlist : held.recovery.toList = [v] := congrArg Option.toList hv
    rw [hlist]
    refine Post.bind (wp_step (χ := Emptied layout start held.sidecars) (fun d hd => .of_isPurged hd.purged)
      (fun d hd => .of_isPurged hd.purged) (fun d' hd' => ?_) fun d' hd' => hd' ▸ hd.1) fun _ d hd => wp_pure.2 hd
    rw [hd'.2]
    exact hd.1.unlink_recovery hd.2 hv
  unfold conclude
  refine HoldingPost.bind (wp_holding hplaced fun e d hd => hd.canRecover) fun _ d hd => ?_
  refine HoldingPost.bind (wp_holding (hrecovered hd) fun e d hd => hd.canRecover) fun _ d hd => wp_pure.2 ?_
  exact ⟨hd, h.replaced, rfl⟩

/-- The links of the sidecars are removed one after the other. -/
theorem wp_unlinkSaved {sidecars : List (Sidecar × Nat)} (h : Emptied layout start sidecars dir) :
    wp (purgeContract layout history) (forEach unlinkSaved sidecars)
      (StepPost (fun _ => Emptied layout start []) (IsPurged layout)) dir := by
  induction sidecars generalizing dir with
  | nil => exact wp_pure.2 h
  | cons saved sidecars ih =>
    have hrest : Restorable sidecars dir := fun saved hsaved => h.restorable saved (List.mem_cons_of_mem _ hsaved)
    have hsaved : wp (purgeContract layout history) (unlinkSaved saved)
        (StepPost (fun _ => Emptied layout start sidecars) (IsPurged layout)) dir := by
      unfold unlinkSaved
      refine wp_bind.2 (wp_isThere_value (.of_isPurged h.purged) fun there htold =>
        wp_ite.2 ⟨fun _ => ?_, fun hthere => ?_⟩)
      · refine wp_step_raises (fun d hd => .of_isPurged hd.purged) (fun d hd => .of_isPurged hd) (fun d hd => ?_)
          fun d hd => hd ▸ h.purged
        rw [hd.2]
        refine ⟨h.purged.same same_set_temp, h.noSidecars.set_temp, hrest.set_none, h.new.set_none fun m hm => ?_⟩
        exact List.mem_cons.1 hm
      · have hnone : dir (.temp saved.2) = none := by
          rcases htold.2 (Bool.eq_false_iff.2 hthere) with hnone | hlink
          · exact hnone
          · exact absurd hlink (h.restorable saved List.mem_cons_self).1
        refine wp_pure.2 ⟨h.purged, h.noSidecars, hrest, fun name hname hne => (h.new name hname hne).imp_right ?_⟩
        rintro ⟨m, hm, rfl⟩
        rcases List.mem_cons.1 hm with rfl | hm
        · exact absurd hnone hne
        · exact ⟨m, hm, rfl⟩
    exact StepPost.bind hsaved fun _ d hd => ih hd

theorem wp_clear (h : Emptied layout start held.sidecars dir) (hreplaced : held.replaced = true)
    (hrecovery : held.recovery = none) :
    wp (purgeContract layout history) (clear held)
      (HoldingPost (fun _ => Emptied layout start []) (CanRecover layout history)) dir := by
  have hφ : ∀ d, Emptied layout start [] d → Shows layout history d := fun d hd => .of_isPurged hd.purged
  have hdone {held' : Held} (hreplaced' : held'.replaced = true) (hrecovery' : held'.recovery = none)
      (exception : StepException) (d : Directory δ) (hd : IsPurged layout d) :
      CanRecover layout history (.step exception) held' d := .done hreplaced' hrecovery' hd ⟨exception, rfl⟩
  have hfsync {d : Directory δ} (hd : Emptied layout start [] d) : wp (purgeContract layout history) fsyncLast
      (StepPost (fun _ => Emptied layout start []) (IsPurged layout)) d := by
    unfold fsyncLast
    refine wp_handle.2 (wp_mono (wp_step_raises hφ hφ (fun d' hd' => hd' ▸ hd)
      fun d' hd' => hd' ▸ hd) fun r d' hr => ?_)
    cases r with
    | ok a => exact hr
    | error e =>
      obtain ⟨⟨exception, rfl⟩, hd'⟩ := hr
      exact wp_ite.2 ⟨fun _ => hd', fun _ => ⟨⟨exception, rfl⟩, hd'.purged⟩⟩
  unfold clear
  refine HoldingPost.bind (wp_holding_raises (wp_unlinkSaved h) (hdone hreplaced hrecovery)) fun _ d hd => ?_
  exact wp_holding_raises (hfsync hd) (hdone hreplaced hrecovery)

theorem wp_tryPurge {failPhase : Option String} (h : dir.Rests history) :
    wp (purgeContract layout history) (tryPurge path failPhase)
      (HoldingPost (fun _ => Emptied layout dir []) (CanRecover layout history)) dir := by
  unfold tryPurge
  refine HoldingPost.bind (wp_prepare h) fun held d hd => ?_
  refine HoldingPost.bind (wp_conclude hd) fun held d hd => ?_
  exact wp_clear hd.1 hd.2.1 hd.2.2

end Concluding

/-! ## Rolling back -/

section Recovering

variable {path : Text} {held : Held} {φ : Directory δ → Prop}

theorem wp_finish {verified : Bool} (hφ : ∀ d, φ d → Shows layout history d) (hsame : ∀ d d', φ d → d.Same d' → φ d')
    (h : φ dir) : wp (purgeContract layout history) (finish held verified) (StepPost (fun _ => φ) φ) dir := by
  have htemps {temps : List Nat} {d : Directory δ} (hd : φ d) : wp (purgeContract layout history)
      (forEach (fun n => unlinkThere (.temp n)) temps) (StepPost (fun _ => φ) φ) d :=
    StepPost.forEach hd fun n _ d hd =>
      StepPost.mono (wp_unlinkThere_raises hφ hd (hsame d _ hd same_set_temp)) fun _ _ h => h.1
  unfold finish
  exact StepPost.bind (htemps h) fun _ d hd => wp_ite.2 ⟨fun _ => htemps hd, fun _ => wp_pure.2 hd⟩

/-- The history is back, and what is left of its sidecars can follow. -/
def Restored (history : δ) (sidecars : List (Sidecar × Nat)) (dir : Directory δ) : Prop :=
  dir.Rests history ∧ Restorable sidecars dir

theorem wp_restoreSidecar {sidecars : List (Sidecar × Nat)} {sidecar : Sidecar} (h : Restored history sidecars dir) :
    wp (purgeContract layout history) (restoreSidecar path sidecars sidecar)
      (Post (fun _ => Restored history sidecars) (Restored history sidecars)) dir := by
  have hφ : ∀ d, Restored history sidecars d → Shows layout history d := fun d hd => .of_seen hd.1.seen
  have hset {d : Directory δ} {entry : Option (Entry δ)} (hd : Restored history sidecars d)
      (hentry : sidecar = .wal → commitsOf entry = []) :
      Restored history sidecars (d.set (Name.database.beside sidecar) entry) := by
    refine ⟨hd.1.set_sidecar hentry, fun saved hsaved => ?_⟩
    rw [Directory.set_of_ne temp_ne_sidecar]
    exact hd.2 saved hsaved
  unfold restoreSidecar
  refine Post.bind (Post.mono (wp_unlinkRegular hφ h (hset h fun _ => rfl)) fun _ _ h => h.1) fun _ d hd => ?_
  cases hlookup : sidecars.lookup sidecar with
  | none => exact wp_pure.2 hd
  | some saved =>
    have hmem : (sidecar, saved) ∈ sidecars := by
      obtain ⟨before, after, rfl, -⟩ := List.lookup_eq_some_iff.1 hlookup
      exact List.mem_append_right _ List.mem_cons_self
    refine wp_bind.2 (wp_isThere_value (hφ d hd) fun there _ => wp_ite.2 ⟨fun _ => ?_, fun _ => wp_pure.2 hd⟩)
    refine wp_step hφ hφ (fun d' hd' => ?_) fun d' hd' => hd' ▸ hd
    rw [hd'.2]
    have hplaced := hset hd (hd.2 _ hmem).2
    exact ⟨same_set_temp.rests hplaced.1, hplaced.2.set_none⟩

theorem wp_verifyRollback {sidecars : List (Sidecar × Nat)} (h : Restored history sidecars dir) :
    wp (purgeContract layout history) (verifyRollback path sidecars)
      (Post (fun _ => Restored history sidecars) (Restored history sidecars)) dir := by
  have hφ : ∀ d, Restored history sidecars d → Shows layout history d := fun d hd => .of_seen hd.1.seen
  have hstable : ∀ d d', Restored history sidecars d → d.Uses .database true d' → Restored history sidecars d' :=
    fun d d' hd huses => (uses_immutable huses).symm ▸ hd
  unfold verifyRollback
  refine Post.bind (wp_forEach h fun sidecar _ d hd => wp_restoreSidecar hd) fun _ d hd => ?_
  refine Post.bind (wp_idle hφ hd (fun _ h => h) fun _ h => h) fun _ d hd => ?_
  refine Post.bind (wp_idle hφ hd (fun _ h => uses_immutable h) fun _ h => uses_immutable h) fun _ d hd => ?_
  refine Post.bind (Post.mono (wp_requireSchema hφ hstable hd) fun _ _ h => h.1) fun _ d hd => ?_
  exact wp_close hφ fun d' h => hstable d d' hd h

theorem restored_of_replace {v : Nat} (hpurged : IsPurged layout dir) (hrestorable : Restorable held.sidecars dir)
    (horiginal : dir (.temp v) = original history) :
    Restored history held.sidecars ((dir.set .database (dir (.temp v))).set (.temp v) none) := by
  obtain ⟨db, -, hrests⟩ := hpurged
  have hwal : Name.database.beside .wal ≠ .database := nofun
  refine ⟨same_set_temp.rests ⟨?_, ?_⟩, Restorable.set_none fun saved hsaved => ?_⟩
  · rw [Directory.main_eq_some, Directory.set_self]
    exact horiginal
  · exact (congrArg commitsOf (Directory.set_of_ne hwal)).trans hrests.commits
  · rw [Directory.set_of_ne temp_ne_database]
    exact hrestorable saved hsaved

theorem wp_finish_original {e : PurgeException} {verified : Bool} (h : dir.Rests history) :
    wp (purgeContract layout history)
      (do
        finish held verified
        .raise e)
      (Ends layout history start) dir := by
  refine wp_bind.2 (wp_mono (wp_finish (φ := fun d => d.Rests history) (fun d hd => .of_seen hd.seen)
    (fun d d' hd hsame => hsame.rests hd) h) fun r d hr => ?_)
  cases r with
  | ok u => exact .inl hr.seen
  | error e' => exact .inl hr.2.seen

/-- Whatever the `except` block finds, the purge ends as it should. -/
theorem wp_recover {e : PurgeException} (h : CanRecover layout history e held dir) :
    wp (purgeContract layout history) (recover path e held) (Ends layout history start) dir := by
  unfold recover
  cases h with
  | unreplaced hreplaced hrests =>
    rw [hreplaced, if_neg Bool.false_ne_true]
    exact wp_finish_original hrests
  | done hreplaced hrecovery hpurged hstep =>
    rw [hrecovery, ite_self]
    refine wp_bind.2 (wp_mono (wp_finish (φ := IsPurged layout) (fun d hd => .of_isPurged hd)
      (fun d d' hd hsame => hd.same hsame) hpurged) fun r d hr => ?_)
    cases r with
    | ok u => exact .inr (.inl ⟨hstep, hr⟩)
    | error e' => exact .inr (.inl hr)
  | @linked v hreplaced hreplacement hpurged hrestorable hrecovery horiginal =>
    rw [if_pos hreplaced, hrecovery]
    refine wp_bind.2 (wp_isThere_value (.of_isPurged hpurged) fun there htold =>
      wp_ite.2 ⟨fun _ => ?_, fun hthere => ?_⟩)
    · refine wp_bind.2 (wp_embed_id.2 (wp_mono (wp_step_raises
        (χ := Restored history held.sidecars)
        (ψ := fun d => d = dir) (fun d hd => .of_seen hd.1.seen)
        (fun d hd => hd ▸ .of_isPurged hpurged) (fun d hd => ?_)
        fun d hd => hd) fun r d hr => ?_))
      · rw [hd.2]
        exact restored_of_replace hpurged hrestorable horiginal
      cases r with
      | error e' =>
        obtain ⟨-, rfl⟩ := hr
        have hfinish : finish held false = pure () := by
          unfold finish
          rw [hreplacement, if_neg Bool.false_ne_true]
          rfl
        show wp _ (finish held false >>= fun _ => Prog.raise _) _ d
        rw [hfinish]
        exact .inr (.inr ⟨⟨v, e', rfl, horiginal⟩, hpurged⟩)
      | ok u =>
        refine wp_bind.2 (wp_embed_id.2 (wp_mono (wp_verifyRollback hr) fun r d hr => ?_))
        cases r with
        | error e' => exact wp_finish_original hr.1
        | ok u => exact wp_finish_original hr.1
    · rcases htold.2 (Bool.eq_false_iff.2 hthere) with hnone | hlink
      · rw [hnone] at horiginal
        cases horiginal
      · rw [hlink] at horiginal
        cases horiginal

/-- A purge replaces the history, or leaves it. -/
theorem wp_purgeHistory {failPhase : Option String} {located : Admin PurePath} (h : dir.seen = some history) :
    wp (purgeContract layout history) (purgeHistory failPhase located) (Ends layout history dir) dir := by
  have hunpurged : Unpurged history dir dir := ⟨h, fun _ _ => rfl⟩
  have hraised {α : Type} {p : Purge α} {χ : α → Directory δ → Prop} {f : α → Purge Unit} {d : Directory δ}
      (hp : wp (purgeContract layout history) p (Post χ (Unpurged history dir)) d)
      (hf : ∀ a d, χ a d → wp (purgeContract layout history) (f a) (Ends layout history dir) d) :
      wp (purgeContract layout history) (p >>= f) (Ends layout history dir) d :=
    wp_bind.2 <| wp_mono hp fun
      | .ok a, d, h => hf a d h
      | .error _, _, h => .inl h.seen
  have hshows : ∀ d, Unpurged history dir d → Shows layout history d := fun d hd => .of_seen hd.seen
  unfold purgeHistory
  refine hraised (wp_injectFailure hunpurged) fun _ d hd => ?_
  cases located with
  | error e => exact .inl hd.seen
  | ok path =>
    refine hraised (wp_idle hshows hd (fun _ h => h) fun _ h => h) fun _ d hd => ?_
    refine hraised (wp_checkpointForPurge hd) fun _ d hd => ?_
    refine hraised (wp_injectFailure_and (φ := fun d => d.Rests history) hd) fun _ d hd => ?_
    refine hraised (wp_idle_and (φ := fun d => d.Rests history) hshows hd (fun _ h => h) fun _ h => h) fun _ d hd => ?_
    refine wp_bind.2 (wp_embed_id.2 (wp_mono (wp_tryPurge hd.2) fun r d' hr => ?_))
    cases r with
    | error e => exact wp_recover hr
    | ok u =>
      refine ⟨hr.purged, hr.noSidecars, fun name hname hne => ?_⟩
      rcases hr.new name hname hne with hsame | ⟨m, hm, -⟩
      · exact hsame.trans (hd.1.elsewhere name hname)
      · cases hm

end Recovering

/-- Wherever a purge is cut off, the history is there as it was, or there is none; and a purge that ends has replaced
it as a whole, or not at all. -/
theorem purge_atomic {failPhase : Option String} {located : Admin PurePath} {p : Purge Unit}
    (hseen : dir.seen = some history)
    (hrun : Steps (fun d op a d' => d.answers layout op a d') (purgeHistory failPhase located, dir) (p, dir')) :
    Shows layout history dir' ∧ ∀ r, p = .done r → Ends layout history dir r dir' := by
  have hsteps : Steps (purgeContract layout history).answers (purgeHistory failPhase located, dir) (p, dir') := hrun
  have hwp : wp (purgeContract layout history) (purgeHistory failPhase located) (Ends layout history dir) dir :=
    wp_purgeHistory hseen
  refine ⟨steps_keep (C := purgeContract layout history) (A := Shows layout history)
    (fun _ _ a s' _ hguard hanswer => hguard a s' hanswer) hsteps hwp (.of_seen hseen), ?_⟩
  rintro r rfl
  exact wp_steps hsteps hwp

/-! ## A run -/

/-- Databases that have only a number of events. -/
def countingLayout : Layout Nat where
  version _ := 4
  count
    | rows, .events => rows
    | _, _ => 0

namespace Directory

/-- What is done when nothing fails but what has to. -/
def perform (dir : Directory Nat) : PurgeStep → Except StepException (Directory Nat)
  | .migrate n => .ok (dir.set (.temp n) (some (.regular (.database 0))))
  | .unlink name => if (dir name).isSome then .ok (dir.set name none) else .error .os
  | .link source destination =>
    if (dir source).isSome && (dir destination).isNone then .ok (dir.set destination (dir source)) else .error .os
  | .replace source destination =>
    if (dir source).isSome then .ok ((dir.set destination (dir source)).set source none) else .error .os
  | _ => .ok dir

/-- What is answered to a query, and what follows. -/
def look (dir : Directory Nat) : PurgeQuery → Except StepException (Nat × Directory Nat)
  | .version name immutable =>
    if immutable = true then
      match dir name with
      | some (.regular (.database db)) => .ok (countingLayout.version db, dir)
      | _ => .error .database
    else if name.temporary = none then
      match dir.seen with
      | some db => .ok (countingLayout.version db, dir)
      | none => .error .database
    else .ok (4, dir)
  | .count name table =>
    match dir name with
    | some (.regular (.database db)) => .ok (countingLayout.count db table, dir)
    | _ => .error .database
  | .checkpoint name =>
    if name.temporary = none then
      match dir.seen with
      | some db => .ok (0, (dir.set .database (some (.regular (.database db)))).set (Name.database.beside .wal) none)
      | none => .error .database
    else .ok (0, dir)
  | .reserve =>
    match (List.range 8).find? fun n => (dir (.temp n)).isNone with
    | some n => .ok (n, dir.set (.temp n) (some (.regular .other)))
    | none => .error .os

/-- An answer to each operation. -/
def respond (dir : Directory Nat) : (op : PurgeOp) → PurgeAns op × Directory Nat
  | .step step =>
    match dir.perform step with
    | .ok dir' => (.ok (), dir')
    | .error e => (.error e, dir)
  | .query query =>
    match dir.look query with
    | .ok (n, dir') => (.ok n, dir')
    | .error e => (.error e, dir)
  | .close _ _ => ((), dir)
  | .isThere name => ((dir name).isSome, dir)
  | .isSymlink name => (dir name matches some .symlink, dir)
  | .isFile name => (dir name matches some (.regular _), dir)
  | .isSuperuser => (true, dir)

theorem Settles.refl : dir.Settles dir := ⟨fun _ _ => rfl, fun db h => ⟨db, h, .inl ⟨rfl, fun _ => rfl⟩⟩⟩

theorem Uses.refl {immutable : Bool} : dir.Uses name immutable dir := by
  unfold Uses
  split
  · rfl
  · split
    · exact Settles.refl
    · exact Touches.refl

theorem settles_checkpoint (h : dir.seen = some db) :
    dir.Settles ((dir.set .database (some (.regular (.database db)))).set (Name.database.beside .wal) none) ∧
      Directory.commits ((dir.set .database (some (.regular (.database db)))).set (Name.database.beside .wal) none) =
        [] := by
  have hmain : Name.database ≠ Name.database.beside .wal := nofun
  have hcommits : Directory.commits
      ((dir.set .database (some (.regular (.database db)))).set (Name.database.beside .wal) none) = [] :=
    congrArg commitsOf set_self
  refine ⟨⟨fun name hname => ?_, fun db₁ hdb₁ => ⟨db, ?_, .inr ⟨hcommits, ?_⟩⟩⟩, hcommits⟩
  · have hwal : name ≠ Name.database.beside .wal := fun heq => hname (heq ▸ rfl)
    have hdatabase : name ≠ .database := fun heq => hname (heq ▸ rfl)
    rw [set_of_ne hwal, set_of_ne hdatabase]
  · rw [main_eq_some, set_of_ne hmain, set_self]
  · unfold Directory.seen at h
    rw [hdb₁] at h
    exact (Option.some.inj h).symm

theorem perform_answers {dir dir' : Directory Nat} {s : PurgeStep} (h : dir.perform s = .ok dir') :
    dir.succeeds s dir' := by
  cases s with
  | connect name immutable =>
    obtain rfl := Except.ok.inj h
    exact Uses.refl
  | migrate n =>
    obtain rfl := Except.ok.inj h
    refine ⟨fun name hname => set_of_ne fun heq => hname (heq ▸ rfl), fun name => ?_⟩
    by_cases heq : name = .temp n
    · exact .inr (.inr ⟨.database 0, by rw [heq, set_self]⟩)
    · exact .inl (set_of_ne heq)
  | unlink name =>
    dsimp only [perform] at h
    split at h
    · next hsome =>
      obtain rfl := Except.ok.inj h
      exact ⟨Option.isSome_iff_ne_none.1 hsome, rfl⟩
    · cases h
  | link source destination =>
    dsimp only [perform] at h
    split at h
    · next hsome =>
      obtain rfl := Except.ok.inj h
      rw [Bool.and_eq_true] at hsome
      exact ⟨Option.isSome_iff_ne_none.1 hsome.1, Option.isNone_iff_eq_none.1 hsome.2, rfl⟩
    · cases h
  | replace source destination =>
    dsimp only [perform] at h
    split at h
    · next hsome =>
      obtain rfl := Except.ok.inj h
      exact ⟨Option.isSome_iff_ne_none.1 hsome, rfl⟩
    · cases h
  | stat | chmod | chown | closeDescriptor | fsync => exact (Except.ok.inj h).symm

theorem fails_self {s : PurgeStep} : dir.fails s dir := by
  cases s with
  | connect name immutable => exact Uses.refl
  | migrate n => exact Touches.refl
  | stat | chmod | chown | closeDescriptor | fsync | unlink | link | replace => rfl

theorem refuses_self {q : PurgeQuery} : dir.refuses q dir := by
  cases q with
  | version name immutable => exact Uses.refl
  | checkpoint name => exact Uses.refl
  | count | reserve => rfl

theorem look_answers {dir dir' : Directory Nat} {q : PurgeQuery} (h : dir.look q = .ok (n, dir')) :
    dir.gives countingLayout q n dir' := by
  cases q with
  | version name immutable =>
    dsimp only [look] at h
    split at h
    · next himmutable =>
      split at h
      · next db hentry =>
        obtain ⟨rfl, rfl⟩ := Prod.mk.inj (Except.ok.inj h)
        refine ⟨⟨db, ?_, rfl⟩, Uses.refl⟩
        rw [Reads, if_pos himmutable]
        exact hentry
      · cases h
    · next himmutable =>
      split at h
      · split at h
        · next db hseen =>
          obtain ⟨rfl, rfl⟩ := Prod.mk.inj (Except.ok.inj h)
          refine ⟨⟨db, ?_, rfl⟩, Uses.refl⟩
          rw [Reads, if_neg himmutable]
          exact fun _ => hseen
        · cases h
      · next htemporary =>
        obtain ⟨rfl, rfl⟩ := Prod.mk.inj (Except.ok.inj h)
        refine ⟨⟨0, ?_, rfl⟩, Uses.refl⟩
        rw [Reads, if_neg himmutable]
        exact fun hnone => absurd hnone htemporary
  | count name table =>
    dsimp only [look] at h
    split at h
    · next db hentry =>
      obtain ⟨rfl, rfl⟩ := Prod.mk.inj (Except.ok.inj h)
      refine ⟨⟨db, ?_, rfl⟩, rfl⟩
      rw [Reads, if_pos rfl]
      exact hentry
    · cases h
  | checkpoint name =>
    dsimp only [look] at h
    split at h
    · next htemporary =>
      split at h
      · next db hseen =>
        obtain ⟨rfl, rfl⟩ := Prod.mk.inj (Except.ok.inj h)
        refine ⟨?_, fun _ _ => (settles_checkpoint hseen).2⟩
        rw [Uses, if_neg Bool.false_ne_true, if_pos htemporary]
        exact (settles_checkpoint hseen).1
      · cases h
    · next htemporary =>
      obtain ⟨rfl, rfl⟩ := Prod.mk.inj (Except.ok.inj h)
      exact ⟨Uses.refl, fun hnone => absurd hnone htemporary⟩
  | reserve =>
    dsimp only [look] at h
    split at h
    · next m hm =>
      obtain ⟨rfl, rfl⟩ := Prod.mk.inj (Except.ok.inj h)
      have hfree : (dir (.temp m)).isNone = true := List.find?_some (p := fun n => (dir (.temp n)).isNone) hm
      exact ⟨Option.isNone_iff_eq_none.1 hfree, rfl⟩
    · cases h

theorem respond_answers (dir : Directory Nat) (op : PurgeOp) :
    dir.answers countingLayout op (dir.respond op).1 (dir.respond op).2 := by
  cases op with
  | step s =>
    dsimp only [respond]
    cases hperform : dir.perform s with
    | ok dir' => exact perform_answers hperform
    | error e => exact fails_self
  | query q =>
    dsimp only [respond]
    cases hlook : dir.look q with
    | ok result => exact look_answers hlook
    | error e => exact refuses_self
  | close name immutable => exact Uses.refl
  | isThere name =>
    refine ⟨rfl, ?_⟩
    dsimp only [respond]
    cases dir name with
    | none => rfl
    | some entry => cases entry <;> trivial
  | isSymlink name =>
    refine ⟨rfl, ?_⟩
    dsimp only [respond]
    cases dir name with
    | none => exact iff_of_false nofun nofun
    | some entry => cases entry <;> simp
  | isFile name =>
    refine ⟨rfl, ?_⟩
    dsimp only [respond]
    cases dir name with
    | none => rfl
    | some entry => cases entry <;> trivial
  | isSuperuser => rfl

end Directory

/-- A database with events, the last of them in the log. -/
def busyDirectory : Directory Nat :=
  (Directory.set (fun _ => none) .database (some (.regular (.database 2)))).set (Name.database.beside .wal)
    (some (.regular (.log [3])))

theorem purge_atomic_busy : ∃ dir', Steps (fun d op a d' => d.answers countingLayout op a d')
    (purgeHistory none (.ok (PurePath.ofText [])), busyDirectory) (.done (.ok ()), dir') ∧
      Shows countingLayout 3 dir' ∧ Ends countingLayout 3 busyDirectory (.ok ()) dir' := by
  have hrun := runFor_steps Directory.respond_answers 120 (purgeHistory none (.ok (PurePath.ofText []))) busyDirectory
  have hatomic := purge_atomic (show busyDirectory.seen = some 3 from rfl) hrun
  exact ⟨_, hrun, hatomic.1, hatomic.2 _ rfl⟩

end Monitoring.Purges
