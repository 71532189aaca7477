import GostManager.Texts.Addresses
import GostManager.Monitoring.Metrics

/-!
# Monitoring: readers of sockets

`monitoring/socket_readers.py`: the connections that `ss` lists, as far as the services and the tunnels are
counted by them. Addresses and ports of this end, the names of processes and what is listening are left out.
-/

namespace Monitoring.Readers

open Texts

/-- `TCP_SOCKET_STATES`. -/
inductive TcpSocketState where
  | estab | synSent | synRecv | finWait1 | finWait2 | closeWait | timeWait
  deriving DecidableEq

namespace TcpSocketState

/-- The states in their order. -/
def all : List TcpSocketState := [estab, synSent, synRecv, finWait1, finWait2, closeWait, timeWait]

/-- The name that `ss` gives to a state. -/
def text : TcpSocketState → Text
  | estab => "ESTAB".toList
  | synSent => "SYN-SENT".toList
  | synRecv => "SYN-RECV".toList
  | finWait1 => "FIN-WAIT-1".toList
  | finWait2 => "FIN-WAIT-2".toList
  | closeWait => "CLOSE-WAIT".toList
  | timeWait => "TIME-WAIT".toList

/-- The metric of a state. -/
def metricName : TcpSocketState → String
  | estab => "tcp_state_estab"
  | synSent => "tcp_state_syn_sent"
  | synRecv => "tcp_state_syn_recv"
  | finWait1 => "tcp_state_fin_wait_1"
  | finWait2 => "tcp_state_fin_wait_2"
  | closeWait => "tcp_state_close_wait"
  | timeWait => "tcp_state_time_wait"

end TcpSocketState

/-- `SocketRecord`, as far as it is counted. -/
structure SocketRecord where
  state : Text
  peerAddress : Text
  peerPort : Nat
  pid : Option Int

/-- The sockets of some processes in a state, if the owners of all sockets in it are known. -/
def countState (records : List SocketRecord) (pids : List Int) (state : TcpSocketState) : Option Nat :=
  let stateRecords := records.filter (·.state = state.text)
  if stateRecords.any (·.pid.isNone) then none
  else some (stateRecords.countP fun record => record.pid.any pids.contains)

/-- `normalized`. -/
def normalized (value : Text) : Option Address :=
  (ipAddress (value.takeWhile (· ≠ '%'))).map Address.unmapped

/-- The loop of `established_remote_socket_count`. -/
def countRemote (pids : List Int) (expected : Address) (remotePort : Nat) :
    List SocketRecord → Option Nat
  | [] => some 0
  | row :: rows =>
    if row.state ≠ TcpSocketState.estab.text ∨ row.peerPort ≠ remotePort then
      countRemote pids expected remotePort rows
    else match normalized row.peerAddress with
      | none =>
        -- A socket that another process owns may have any peer.
        if row.pid.all pids.contains then none else countRemote pids expected remotePort rows
      | some peer =>
        if peer ≠ expected then countRemote pids expected remotePort rows
        else match row.pid with
          | none => none
          | some pid =>
            if pid ∈ pids then (countRemote pids expected remotePort rows).map (· + 1)
            else countRemote pids expected remotePort rows

/-- `established_remote_socket_count`. -/
def establishedRemoteSocketCount (records : List SocketRecord) (pids : List Int) (remoteHost : Text)
    (remotePort : Nat) : Option Nat :=
  match normalized remoteHost with
  | none => none
  | some expected => countRemote pids expected remotePort records

/-- `_numeric_remote_endpoint`. -/
def numericRemoteEndpoint (digits : Digits) (endpoint : Option Text) : Except Raised (Option (Text × Nat)) :=
  match endpoint.bind (rsplitOnce ':') with
  | none => .ok none
  | some (host, portRaw) =>
    if isdigit digits portRaw ∧ (ipAddress host).isSome then
      match toInt? digits portRaw with
      | none => .error (.valueError "invalid literal for int() with base 10")
      | some port => .ok (if 0 < port ∧ port ≤ 65535 then some (host, port.toNat) else none)
    else .ok none

end Monitoring.Readers
