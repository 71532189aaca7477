import GostManager.Lists.Proofs.CompletionsProofs
import GostManager.Effects.Proofs.ExceptProofs
import GostManager.Monitoring.Sockets

/-!
# Proofs: sockets and their owners

A record has the owner that its row names first. So what is reported as exact is right where that tells whether
a process of the set owns the socket.
-/

namespace Monitoring.Readers

open Effects Lists Texts

variable {upper : Text → Text} {digits : Digits} {text : Text} {row : Row} {rows : List Row} {pids : List Int}

/-! ## The owner of a record -/

section Owned

variable {socket : Socket}

theorem Row.IsOwned.known (h : row.IsOwned digits pids) : row.owners digits ≠ [] := by
  obtain ⟨pid, hpid, -⟩ := h
  exact List.ne_nil_of_mem hpid

end Owned

/-! ## Listeners -/

section Listeners

variable {ports : List Nat}

end Listeners

/-! ## Connections to a remote endpoint -/

section Remote

variable {expected : Address} {port : Nat}

/-- A row that is counted. -/
def Row.counts (pids : List Int) (expected : Address) (port : Nat) (row : Row) : Bool :=
  row.record.state = TcpSocketState.estab.text && row.record.peerPort = port &&
    normalized row.record.peerAddress = some expected && row.record.pid.any pids.contains

end Remote

/-! ## States of sockets -/

section States

variable {state : TcpSocketState}

variable {service : String} {authoritative due : Bool} {identity : Option Text} {caches : Caches}
  {records : List SocketRecord} {metric : Metric}

end States

/-! ## Attribution -/

end Monitoring.Readers
