import Mathlib.Algebra.Ring.Int.Defs
import Mathlib.Data.List.Sort
import GostManager.Lists.Dictionary
import GostManager.Lists.Tallies
import GostManager.Texts.Strings

/-!
# Monitoring: counters of source errors

The counters that `_source_status` of `monitoring/collector.py` keeps in the table `collector_state`. What it
reports of the availability of the sources is not part of it.
-/

namespace Monitoring.Errors

open Lists Texts

/-- `MAX_TRACKED_SOURCE_ERRORS`. -/
def maxTrackedSourceErrors : Nat := 64

/-- `SOURCE_ERROR_RETENTION_SECONDS`. -/
def sourceErrorRetentionSeconds : Int := 48 * 3600

/-- The entry of a source. -/
structure ErrorCount where
  source : String
  count : Int
  lastSeen : Int
  deriving DecidableEq, Repr

/-- A stored text, with the number that it is the numeral of, if any. -/
structure StoredTotal where
  text : Text
  number : Option Int
  deriving DecidableEq

/-- `str(total)`. -/
def StoredTotal.ofInt (total : Int) : StoredTotal := ⟨(toString total).toList, some total⟩

/-- What is stored under `counter.*`. An object that is stored has each key once; an entry of it that is malformed
has no numbers. -/
structure CollectorState where
  /-- `counter.source_errors_total` -/
  total : Option StoredTotal := none
  /-- `counter.source_errors_by_source`, if it is an object: the counts and when they were last seen. -/
  bySource : Option (List (String × Option (Int × Int))) := none
  /-- `counter.source_errors`, if it is an object. -/
  legacy : Option (List (String × Option Int)) := none

/-- The entries of `counter.source_errors_by_source` that are not malformed. -/
def entries (values : List (String × Option (Int × Int))) : List ErrorCount :=
  values.filterMap fun value => value.2.map fun numbers => ⟨value.1, numbers.1, numbers.2⟩

/-- `counts`, as they are read. -/
def readCounts (s : CollectorState) (ts : Int) : List ErrorCount :=
  match s.bySource, s.legacy with
  | some values, _ => entries values
  | none, some values => values.filterMap fun value => value.2.map fun count => ⟨value.1, count, ts⟩
  | none, none => []

/-- The loop over `capture.errors`. -/
def recordError (ts : Int) (counts : List ErrorCount) (source : String) : List ErrorCount :=
  let count := (find ErrorCount.source source counts).elim 0 (·.count)
  store ErrorCount.source ⟨source, count + 1, ts⟩ counts

/-- The reverse order of `(last_seen, source)`. -/
abbrev MoreRecent (a b : ErrorCount) : Prop :=
  b.lastSeen < a.lastSeen ∨ b.lastSeen = a.lastSeen ∧ b.source ≤ a.source

/-- `sorted(..., key=lambda item: (item[1]["last_seen"], item[0]), reverse=True)`. -/
def byRecency (counts : List ErrorCount) : List ErrorCount := counts.insertionSort MoreRecent

/-- The entries that are not too old, or fail now. -/
def unexpired (counts : List ErrorCount) (errors : List String) (ts : Int) : List ErrorCount :=
  let cutoff := ts - sourceErrorRetentionSeconds
  counts.filter fun entry => entry.source ∈ errors ∨ cutoff ≤ entry.lastSeen

/-- `retained`. -/
def retained (counts : List ErrorCount) (errors : List String) (ts : Int) : List ErrorCount :=
  (byRecency (unexpired counts errors ts)).take maxTrackedSourceErrors

/-- Two dictionaries are equal. -/
def sameEntries (a b : List ErrorCount) : Bool :=
  a.length = b.length && a.all fun entry => find ErrorCount.source entry.source b = some entry

/-- A call of `_source_status`: its time, and the keys of `capture.errors`. -/
structure Call where
  ts : Int
  errors : List String
  errors_nodup : errors.Nodup

/-- What the call reports: `source_errors_total`, and the counts of the failing sources. -/
structure Report where
  total : Int
  activeCounts : List (String × Int)

/-- The counters in `_source_status`. -/
def sourceStatus (s : CollectorState) (call : Call) : CollectorState × Report :=
  let previousCounts := readCounts s call.ts
  let counts := call.errors.foldl (recordError call.ts) previousCounts
  let total := (s.total.bind (·.number)).getD (previousCounts.map (·.count)).sum + call.errors.length
  let retained := retained counts call.errors call.ts
  let stored : CollectorState :=
    { total := if s.total = some (.ofInt total) then s.total else some (.ofInt total)
      bySource := if s.bySource.isNone || !sameEntries retained previousCounts then
          some (retained.map fun entry => (entry.source, some (entry.count, entry.lastSeen)))
        else s.bySource
      legacy := if s.legacy.any (· ≠ []) then some [] else s.legacy }
  (stored,
    { total
      activeCounts := (call.errors.insertionSort (· ≤ ·)).map fun source =>
        (source, (find ErrorCount.source source retained).elim 1 (·.count)) })

/-! ## What the counters say -/

/-- The tracked map. -/
def tracked (s : CollectorState) : List ErrorCount := (s.bySource.map entries).getD []

/-- The source fails in the call. -/
def Call.fails (call : Call) (source : String) : Bool := source ∈ call.errors

/-- What a call makes of the counters. -/
def step (s : CollectorState) (call : Call) : CollectorState := (sourceStatus s call).1

/-- The calls, one after the other. -/
def runCalls (calls : List Call) : CollectorState := calls.foldl step {}

end Monitoring.Errors
