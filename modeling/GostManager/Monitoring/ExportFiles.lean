import GostManager.Effects.Program
import GostManager.Monitoring.Exports

/-!
# Monitoring: export files

`export_data` of `monitoring/exporters.py` to a file, with the context manager `connection` of
`monitoring/query_db.py`. The export writes a temporary file, and replaces the destination by it. Every step may
fail. Within the transaction of the connection all reads see one state of the database.
-/

namespace Monitoring

open Effects

/-! ## What is exported -/

/-- `QueryWindow`. -/
structure QueryWindow where
  requestedStart : Int
  requestedEnd : Int
  effectiveStart : Int
  effectiveEnd : Int
  truncated : Bool := false
  deriving DecidableEq

/-- `output_format`. -/
inductive ExportFormat where
  | json | csv | unknown
  deriving DecidableEq

/-- `granularity`. -/
inductive ExportGranularity where
  | summary
  | points (granularity : Granularity)
  | unknown
  deriving DecidableEq

/-- What the clock of an engine gives: a time that `datetime` can show. -/
abbrev ClockTime : Type := {time : Int // -62135596800 ≤ time ∧ time ≤ 253402300799}

/-- The arguments of an export. -/
structure ExportRequest where
  window : QueryWindow
  format : ExportFormat
  granularity : ExportGranularity
  filters : ExportFilters := {}

/-- What an export reads of the engine, and the state of the database. -/
structure ExportEngine where
  planner : QueryEngine
  limits : ExportLimits := {}
  generatedAt : ClockTime
  rollupSeconds : Int := rollupRetentionSeconds
  eventSeconds : Int
  registry : CadenceRegistry
  db : ExportDatabase

/-- `metadata`. The version of the schema is 4, and that of exports 2. -/
structure ExportMetadata where
  exportVersion : Nat := 2
  databaseSchemaVersion : Nat := 4
  generatedAt : ClockTime
  window : QueryWindow
  sourceMode : SourceMode
  granularity : ExportGranularity
  filters : ExportFilters
  rawSeconds : Int
  rollupSeconds : Int
  eventSeconds : Int
  rowCount : Nat

/-- A row of an export. -/
inductive ExportLine where
  | point (record : ExportRecord)
  | summary (record : SeriesRecord)

/-- What is written at a time: a text of the program, or what `json.dumps` or the CSV writer makes of a value. -/
inductive Chunk where
  | text (text : String)
  | json (metadata : ExportMetadata)
  | jsonRow (row : ExportLine)
  | csvHeader
  | csvMetadata (metadata : ExportMetadata)
  | csvRow (metadata : ExportMetadata) (row : ExportLine)

/-! ## Steps -/

/-- The exceptions, of class `Exception`. -/
inductive ExportExn where
  | query (message : String)
  | osError
  | valueError
  | other
  deriving DecidableEq

/-- The queries of an export. -/
inductive ExportQuery where
  | selection | counting | cadences | summary
  | part (part : ExportPart)
  | row

/-- The steps that may fail. -/
inductive ExportStep where
  | connect
  | query (query : ExportQuery)
  | makeTemporary | chmod | openStream
  | serialize (chunk : Chunk)
  | write (chunk : Chunk)
  | flush | closeStream | closeDescriptor | replace | unlink

/-- The operations. A connection is closed without a failure. -/
inductive ExportOp where
  | step (step : ExportStep)
  | parentExists
  | disconnect
  | summarize

/-- Their answers. -/
abbrev ExportAns : ExportOp → Type
  | .step _ => Except ExportExn Unit
  | .parentExists => Except ExportExn Bool
  | .disconnect => Unit
  | .summarize => Except ExportExn (SourceMode × List SeriesRecord)

/-- A part of an export outside of the `try` block. -/
abbrev Export (α : Type) : Type := Prog ExportOp ExportAns ExportExn α

/-- Which of `file_descriptor`, `temporary_path` and `handle` are not `None`. -/
structure Held where
  fileDescriptor : Bool := false
  temporaryPath : Bool := false
  handle : Bool := false

/-- A part of the `try` block: an exception comes with what is held. -/
abbrev Holding (α : Type) : Type := Prog ExportOp ExportAns (ExportExn × Held) α

/-- A step of the `try` block. -/
def holding (held : Held) (step : ExportStep) : Holding Unit := do
  match ← (Prog.perform (ExportOp.step step) : Holding (Except ExportExn Unit)) with
  | .ok () => pure ()
  | .error e => .raise (e, held)

/-- What is held while the document is written. -/
def writingHeld : Held where
  temporaryPath := true
  handle := true

/-! ## The document -/

/-- `__exit__` of the connection. -/
def disconnect : Export Unit := Prog.perform ExportOp.disconnect

/-- `metadata`. -/
def ExportEngine.metadata (engine : ExportEngine) (request : ExportRequest) (sourceMode : SourceMode)
    (granularity : ExportGranularity) (rowCount : Nat) : ExportMetadata where
  generatedAt := engine.generatedAt
  window := request.window
  sourceMode
  granularity
  filters := request.filters
  rawSeconds := engine.planner.rawSeconds
  rollupSeconds := engine.rollupSeconds
  eventSeconds := engine.eventSeconds
  rowCount

/-- What an export works on: the destination, the temporary file, the descriptor of that file while no stream
has it, what the stream holds back, and the connections. -/
structure ExportWorld where
  destination : Option (List Chunk)
  temporary : Option (List Chunk) := none
  descriptor : Bool := false
  stream : Option (List Chunk) := none
  connections : Nat

namespace ExportWorld

/-- The stream passes some chunks on to the file. -/
def spill (w : ExportWorld) (n : Nat) : ExportWorld :=
  { w with
    temporary := w.temporary.map (· ++ (w.stream.getD []).take n)
    stream := w.stream.map (·.drop n) }

/-- The stream passes everything on. -/
def spillAll (w : ExportWorld) : ExportWorld := w.spill (w.stream.getD []).length

/-- The stream takes a chunk. -/
def buffer (w : ExportWorld) (chunk : Chunk) : ExportWorld := { w with stream := w.stream.map (· ++ [chunk]) }

/-- What a step does that succeeds. -/
def succeeds (w : ExportWorld) : ExportStep → ExportWorld → Prop
  | .connect, w' => w' = { w with connections := w.connections + 1 }
  | .makeTemporary, w' => w' = { w with temporary := some [], descriptor := true }
  | .openStream, w' => w' = { w with descriptor := false, stream := some [] }
  | .write chunk, w' => ∃ n, w' = (w.buffer chunk).spill n
  | .flush, w' => w' = w.spillAll
  | .closeStream, w' => w' = { w.spillAll with stream := none }
  | .closeDescriptor, w' => w' = { w with descriptor := false }
  | .replace, w' => w' = { w with destination := w.temporary, temporary := none }
  | .unlink, w' => w' = { w with temporary := none }
  | _, w' => w' = w

/-- What a step does that fails. Files are closed with the exceptions of the system, and a file that is there
can be unlinked. -/
def fails (w : ExportWorld) : ExportStep → ExportExn → ExportWorld → Prop
  | .write chunk, _, w' => ∃ n, w' = w.spill n ∨ w' = (w.buffer chunk).spill n
  | .flush, _, w' => ∃ n, w' = w.spill n
  | .closeStream, e, w' => e ∈ [ExportExn.osError, .valueError] ∧ ∃ n, w' = { w.spill n with stream := none }
  | .closeDescriptor, e, w' => e = .osError ∧ w' = w
  | .unlink, _, _ => False
  | _, _, w' => w' = w

/-- How operations are answered. It is recorded whether a step has failed. -/
def answers (s : ExportWorld × Bool) : (op : ExportOp) → ExportAns op → ExportWorld × Bool → Prop
  | .step step, .ok (), s' => s.1.succeeds step s'.1 ∧ s'.2 = s.2
  | .step step, .error e, s' => s.1.fails step e s'.1 ∧ s'.2 = true
  | .parentExists, .ok _, s' => s' = s
  | .parentExists, .error _, s' => s' = (s.1, true)
  | .disconnect, (), s' => s' = ({ s.1 with connections := s.1.connections - 1 }, s.2)
  | .summarize, .ok _, s' => s' = s
  | .summarize, .error _, s' => s' = (s.1, true)

end ExportWorld

/-! ## What is asked of an export -/

/-- The rows of a JSON document, with commas between them. -/
def jsonRows : List ExportLine → List Chunk
  | [] => []
  | row :: rows => .jsonRow row :: rows.flatMap fun row => [.text ",", .jsonRow row]

/-- A document. -/
def document (format : ExportFormat) (metadata : ExportMetadata) (rows : List ExportLine) : List Chunk :=
  match format with
  | .csv => .csvHeader :: .csvMetadata metadata :: rows.map (.csvRow metadata)
  | _ => [.text "\x7b\"metadata\":", .json metadata, .text ",\"rows\":["] ++ jsonRows rows ++
      [.text "]\x7d", .text "\n"]

/-- A file has a document with as many rows as its metadata says, and not too many. -/
def IsExport (limits : ExportLimits) (format : ExportFormat) (metadata : ExportMetadata)
    (content : Option (List Chunk)) : Prop :=
  ∃ rows, content = some (document format metadata rows) ∧ rows.length = metadata.rowCount ∧
    metadata.rowCount ≤ limits.maxExportRows

end Monitoring
