import GostManager.Lists.Completions
import GostManager.Monitoring.Caches

/-!
# Monitoring: sockets and their owners

The rows of `ss` as `parse_ss_sockets` of `monitoring/socket_readers.py` reads them, and what they leave open: a
row may name its owners, or none of them, and a peer that is no address. `upper` is the method of `str`.
-/

namespace Monitoring.Readers

open Texts Lists

/-! ## Rows -/

/-- The parts before and after the first occurrence of a separator. -/
def partition (separator : Text) : Text → Option (Text × Text)
  | [] => none
  | c :: text =>
    if separator.isPrefixOf (c :: text) then some ([], (c :: text).drop separator.length)
    else (partition separator text).map fun parts => (c :: parts.1, parts.2)

/-- `text.rpartition(separator)`, where the separator occurs. -/
def rpartition (separator text : Text) : Option (Text × Text) :=
  (partition separator.reverse text.reverse).map fun parts => (parts.2.reverse, parts.1.reverse)

/-- `SocketRecord`. -/
structure SsRecord extends SocketRecord where
  localAddress : Text
  localPort : Nat
  process : Option Text

/-- A row with the text that it was read of. -/
structure Row where
  raw : Text
  record : SsRecord

section Rows

variable (upper : Text → Text) (digits : Digits)

/-- `parse_socket_address`. -/
def parseSocketAddress (value : Text) : Except Raised (Option (Text × Nat)) :=
  let value := strip value
  let parts :=
    if value.head? = some '[' then
      (rpartition "]:".toList value).map fun parts => (parts.1.drop 1, parts.2)
    else rsplitOnce ':' value
  match parts with
  | none => .ok none
  | some (host, port) =>
    if port = ['*'] then .ok (some (host, 0))
    else if !isdigit digits port then .ok none
    else match toInt? digits port with
      | none => .error (.valueError "invalid literal for int() with base 10")
      | some number => .ok (if 0 ≤ number ∧ number ≤ 65535 then some (host, number.toNat) else none)

/-- The numeral at the beginning of a text, `\d+`, and what follows. -/
def digitRun (text : Text) : Option (Text × Text) :=
  let isDecimal := fun c => (digits.decimal c).isSome
  if text.takeWhile isDecimal = [] then none
  else some (text.takeWhile isDecimal, text.dropWhile isDecimal)

/-- `SS_PROCESS_RE` at the beginning of a text: the process, its numeral, and what follows. -/
def matchProcess (text : Text) : Option ((Text × Text) × Text) := do
  let rest ← text.dropPrefix? ['"']
  let process := rest.takeWhile (· ≠ '"')
  if process = [] then none
  else do
    let rest ← (rest.dropWhile (· ≠ '"')).dropPrefix? "\",pid=".toList
    let (pid, rest) ← digitRun digits rest
    let rest ← rest.dropPrefix? ",fd=".toList
    let (_, rest) ← digitRun digits rest
    some ((process, pid), rest)

/-- `SS_PROCESS_RE.search`. -/
def searchProcess : Text → Option (Text × Text)
  | [] => none
  | c :: text =>
    match matchProcess digits (c :: text) with
    | some (found, _) => some found
    | none => searchProcess text

/-- One row of `parse_ss_sockets`. -/
def parseRow (raw : Text) : Except Raised Row :=
  match split (strip raw) with
  | state :: _ :: _ :: localText :: peerText :: _ => do
    let localParts ← parseSocketAddress digits localText
    let peerParts ← parseSocketAddress digits peerText
    match localParts, peerParts with
    | some (localAddress, localPort), some (peerAddress, peerPort) =>
      match searchProcess digits raw with
      | none =>
        return { raw, record := {
          state := upper state, localAddress, localPort, peerAddress, peerPort, pid := none, process := none } }
      | some (process, pidText) =>
        match toInt? digits pidText with
        | none => .error (.valueError "invalid literal for int() with base 10")
        | some pid =>
          return { raw, record := {
            state := upper state, localAddress, localPort, peerAddress, peerPort, pid := some pid,
            process := some process } }
    | _, _ => .error (.valueError "malformed ss socket address")
  | _ => .error (.valueError "malformed ss row")

/-- `parse_ss_sockets`, with the texts of the rows. -/
def parseRows (text : Text) : Except Raised (List Row) :=
  if strip text = [] then .ok []
  else ((splitlines text).filter fun raw => strip raw ≠ []).mapM (parseRow upper digits)

/-- `parse_ss_sockets`. -/
def parseSsSockets (text : Text) : Except Raised (List SsRecord) :=
  (parseRows upper digits text).map fun rows => rows.map (·.record)

end Rows

namespace Socket

variable (pids : List Int)

end Socket

section Owners

variable (digits : Digits)

/-- The numerals of all processes that a row names, as by `SS_PROCESS_RE.finditer`, after some characters. -/
def processesFrom : Nat → Text → List Text
  | _, [] => []
  | skip + 1, _ :: text => processesFrom skip text
  | 0, c :: text =>
    match matchProcess digits (c :: text) with
    | some ((_, pid), rest) => pid :: processesFrom (text.length - rest.length) text
    | none => processesFrom 0 text

/-- The processes that a row names as owners of its socket. -/
def Row.owners (row : Row) : List Int := (processesFrom digits 0 row.raw).filterMap (toInt? digits)

variable (rows : List Row) (pids : List Int)

/-- A process of the set owns the socket, as the row says. -/
def Row.IsOwned (row : Row) : Prop := ∃ pid ∈ row.owners digits, pid ∈ pids

end Owners

end Monitoring.Readers
