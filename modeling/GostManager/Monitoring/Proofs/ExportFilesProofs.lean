import GostManager.Effects.Proofs.ProgramProofs
import GostManager.Monitoring.ExportFiles
import GostManager.Monitoring.Proofs.ExportsProofs

/-!
# Proofs: exports are atomic

While the document is written, the file and the stream together have what was written so far. The destination
is replaced once the stream is empty and the rows are counted.
-/

namespace Monitoring

open Effects Prog

variable {limits : ExportLimits} {format : ExportFormat} {metadata : ExportMetadata}
  {destination : Option (List Chunk)} {connections : Nat} {s s' : ExportWorld × Bool} {held : Held}
  {chunks : List Chunk} {chunk : Chunk} {α β : Type}

/-! ## What is asked of the steps -/

/-- Only a complete export may replace the destination. -/
def exportContract (limits : ExportLimits) (format : ExportFormat) :
    Prog.Contract ExportOp ExportAns (ExportWorld × Bool) where
  answers := ExportWorld.answers
  guard s op := op = .step .replace → ∃ metadata, IsExport limits format metadata s.1.temporary

/-- The destination is as before, and the connections are as they should. -/
structure Unreplaced (destination : Option (List Chunk)) (connections : Nat) (s : ExportWorld × Bool) :
    Prop where
  destination : s.1.destination = destination
  connections : s.1.connections = connections

/-- The destination is as before, and a temporary file that is not held is not there. -/
def Raised (destination : Option (List Chunk)) (connections : Nat) (held : Held) (s : ExportWorld × Bool) :
    Prop :=
  Unreplaced destination connections s ∧ (held.temporaryPath = false → s.1.temporary = none)

/-- How a part of the `try` block ends: if it raises, it has not replaced the destination. -/
def Ends (destination : Option (List Chunk)) (connections : Nat) (φ : α → ExportWorld × Bool → Prop) :
    Except (ExportExn × Held) α → ExportWorld × Bool → Prop
  | .ok a, s => φ a s
  | .error (_, held), s => Raised destination connections held s

theorem Ends.bind {p : Holding α} {f : α → Holding β} {φ : α → ExportWorld × Bool → Prop}
    {χ : β → ExportWorld × Bool → Prop}
    (hp : wp (exportContract limits format) p (Ends destination connections φ) s)
    (hf : ∀ a s', φ a s' → wp (exportContract limits format) (f a) (Ends destination connections χ) s') :
    wp (exportContract limits format) (p >>= f) (Ends destination connections χ) s :=
  wp_bind.2 <| wp_mono hp fun
    | .ok a, s', h => hf a s' h
    | .error _, _, h => h

theorem Ends.mono {p : Holding α} {φ χ : α → ExportWorld × Bool → Prop}
    (hp : wp (exportContract limits format) p (Ends destination connections φ) s)
    (h : ∀ a s', φ a s' → χ a s') :
    wp (exportContract limits format) p (Ends destination connections χ) s :=
  wp_mono hp fun
    | .ok a, s', ha => h a s' ha
    | .error _, _, ha => ha

/-- A step of the `try` block. -/
theorem wp_holding {step : ExportStep} {φ : Unit → ExportWorld × Bool → Prop}
    (hguard : step = .replace → ∃ metadata, IsExport limits format metadata s.1.temporary)
    (hsucceeds : ∀ w', s.1.succeeds step w' → φ () (w', s.2))
    (hfails : ∀ e w', s.1.fails step e w' → Raised destination connections held (w', true)) :
    wp (exportContract limits format) (holding held step) (Ends destination connections φ) s := by
  unfold holding
  refine wp_bind.2 (wp_perform.2 ⟨fun h => hguard (ExportOp.step.inj h), ?_⟩)
  rintro (e | _) ⟨w', failed⟩ ⟨hstep, rfl⟩
  · exact hfails e w' hstep
  · exact hsucceeds w' hstep

/-! ## Writing -/

/-- So much has been written, and nothing has failed. -/
structure Written (destination : Option (List Chunk)) (connections : Nat) (chunks : List Chunk)
    (s : ExportWorld × Bool) : Prop extends Unreplaced destination connections s where
  written : ∃ content pending, s.1.temporary = some content ∧ s.1.stream = some pending ∧
    content ++ pending = chunks
  noFailure : s.2 = false

theorem Written.spill (h : Written destination connections chunks s) (n : Nat) :
    Written destination connections chunks (s.1.spill n, s.2) := by
  obtain ⟨⟨hdestination, hconnections⟩, ⟨content, pending, htemporary, hstream, hchunks⟩, hfailed⟩ := h
  refine ⟨⟨hdestination, hconnections⟩, ⟨content ++ pending.take n, pending.drop n, ?_, ?_, ?_⟩, hfailed⟩
  · simp only [ExportWorld.spill, htemporary, hstream, Option.map_some, Option.getD_some]
  · simp only [ExportWorld.spill, hstream, Option.map_some]
  · rw [List.append_assoc, List.take_append_drop, hchunks]

theorem Written.buffer (h : Written destination connections chunks s) (chunk : Chunk) :
    Written destination connections (chunks ++ [chunk]) (s.1.buffer chunk, s.2) := by
  obtain ⟨⟨hdestination, hconnections⟩, ⟨content, pending, htemporary, hstream, hchunks⟩, hfailed⟩ := h
  refine ⟨⟨hdestination, hconnections⟩, ⟨content, pending ++ [chunk], htemporary, ?_, ?_⟩, hfailed⟩
  · simp only [ExportWorld.buffer, hstream, Option.map_some]
  · rw [← List.append_assoc, hchunks]

/-- A step that leaves everything as it is. -/
theorem wp_holding_idle {step : ExportStep} (h : Written destination connections chunks s)
    (hstep : step ≠ .replace) (hsucceeds : ∀ w', s.1.succeeds step w' → w' = s.1)
    (hfails : ∀ e w', s.1.fails step e w' → w' = s.1) :
    wp (exportContract limits format) (holding writingHeld step)
      (Ends destination connections fun _ => Written destination connections chunks) s := by
  refine wp_holding (fun heq => absurd heq hstep) (fun w' hw => ?_) (fun e w' hw => ⟨?_, nofun⟩)
  · rw [hsucceeds w' hw]
    exact h
  · rw [hfails e w' hw]
    exact ⟨h.destination, h.connections⟩

variable {head : List Chunk} {rows : List ExportLine} {row : ExportLine} {count : Nat}
  {engine : ExportEngine} {request : ExportRequest}

theorem wp_query {query : ExportQuery} (h : Written destination connections chunks s) :
    wp (exportContract limits format) (holding writingHeld (.query query))
      (Ends destination connections fun _ => Written destination connections chunks) s :=
  wp_holding_idle h nofun (fun _ hw => hw) fun _ _ hw => hw

/-- The export has replaced the destination, and nothing has failed. -/
structure Replaced (limits : ExportLimits) (format : ExportFormat) (metadata : ExportMetadata)
    (connections : Nat) (s : ExportWorld × Bool) : Prop where
  temporary : s.1.temporary = none
  connections : s.1.connections = connections
  noFailure : s.2 = false
  isExport : IsExport limits format metadata s.1.destination

/-- A complete document is passed on, closed, and put in place. -/
theorem wp_finish {rows : List ExportLine} (hlength : rows.length = metadata.rowCount)
    (hcount : metadata.rowCount ≤ limits.maxExportRows)
    (h : Written destination connections (document format metadata rows) s) :
    wp (exportContract limits format)
      (do
        holding writingHeld .flush
        holding writingHeld .closeStream
        holding { temporaryPath := true } .replace)
      (Ends destination connections fun _ => Replaced limits format metadata connections) s := by
  have hflushed : ∀ {s : ExportWorld × Bool},
      Written destination connections (document format metadata rows) s →
      s.1.spillAll.temporary = some (document format metadata rows) := by
    intro s h
    obtain ⟨content, pending, htemporary, hstream, hchunks⟩ := h.written
    simp only [ExportWorld.spillAll, ExportWorld.spill, htemporary, hstream, Option.map_some,
      Option.getD_some, List.take_length, hchunks]
  refine Ends.bind (φ := fun _ => Written destination connections (document format metadata rows))
    (wp_holding (fun heq => nomatch heq) ?_ ?_) fun _ s' h' => ?_
  · rintro w' rfl
    exact h.spill _
  · rintro e w' ⟨n, rfl⟩
    exact ⟨⟨h.destination, h.connections⟩, nofun⟩
  refine Ends.bind (φ := fun _ s => Unreplaced destination connections s ∧ s.2 = false ∧
      s.1.temporary = some (document format metadata rows))
    (wp_holding (fun heq => nomatch heq) ?_ ?_) fun _ s'' h'' => ?_
  · rintro w' rfl
    exact ⟨⟨h'.destination, h'.connections⟩, h'.noFailure, hflushed h'⟩
  · rintro e w' ⟨-, n, rfl⟩
    exact ⟨⟨h'.destination, h'.connections⟩, nofun⟩
  obtain ⟨hunreplaced, hnoFailure, htemporary⟩ := h''
  have hexport : IsExport limits format metadata s''.1.temporary := ⟨rows, htemporary, hlength, hcount⟩
  refine wp_holding (fun _ => ⟨metadata, hexport⟩) ?_ ?_
  · rintro w' rfl
    exact ⟨rfl, hunreplaced.connections, hnoFailure, hexport⟩
  · rintro e w' rfl
    exact ⟨⟨hunreplaced.destination, hunreplaced.connections⟩, nofun⟩

/-- The program returns, and then something holds. -/
def Returns (A : ExportWorld × Bool → Prop) : Except ExportExn α → ExportWorld × Bool → Prop
  | .ok _, s => A s
  | .error _, _ => False

theorem Returns.bind {A B : ExportWorld × Bool → Prop} {p : Export α} {f : α → Export β}
    (hp : wp (exportContract limits format) p (Returns A) s)
    (hf : ∀ a s', A s' → wp (exportContract limits format) (f a) (Returns B) s') :
    wp (exportContract limits format) (p >>= f) (Returns B) s :=
  wp_bind.2 <| wp_mono hp fun
    | .ok a, s', h => hf a s' h
    | .error _, _, h => h.elim

/-- The destination is as it was, or has a complete export. -/
def Intact (limits : ExportLimits) (format : ExportFormat) (destination : Option (List Chunk))
    (s : ExportWorld × Bool) : Prop :=
  s.1.destination = destination ∨ ∃ metadata, IsExport limits format metadata s.1.destination

end Monitoring
