import GostManager.Firewall.Rules

/-!
# Firewall: packets

What the rules mean. The kernel looks for the first rule of the chain that decides a packet, and applies
the policy of the chain if there is none. Most rules of a chain are not ours, so how a rule decides is a
parameter; what is known is how the rules of a profile decide.
-/

namespace Firewall

/-- What happens to a packet. -/
inductive Verdict where
  | accept
  | drop
  | reject
  deriving DecidableEq, Repr

/-- A packet filter. -/
structure PacketFilter where
  /-- The packets. -/
  Packet : Type
  /-- `-p tcp`. -/
  isTcp : Packet → Bool
  /-- `-s source`. -/
  comesFrom : Packet → String → Bool
  /-- The destination port. -/
  port : Packet → Nat
  /-- The port that is meant by `--dport`. -/
  portNumber : String → Nat
  /-- The verdict of a rule, if it matches and has one. -/
  decide : Rule → Packet → Option Verdict
  /-- The policy of the chain. -/
  policy : Verdict
  decide_allowRule : ∀ number text source packet, decide (allowRule number text source) packet =
    if isTcp packet ∧ comesFrom packet source ∧ port packet = portNumber text then some .accept else none
  decide_dropRule : ∀ number text packet, decide (dropRule number text) packet =
    if isTcp packet ∧ port packet = portNumber text then some .drop else none

namespace PacketFilter

variable (F : PacketFilter)

/-- First match. -/
def verdict (chain : Chain) (packet : F.Packet) : Verdict :=
  (chain.findSome? fun rule => F.decide rule packet).getD F.policy

/-- A port of a rule is one at which it decides a packet. -/
def HasPort (rule : Rule) (port : Nat) : Prop :=
  ∃ packet, F.port packet = port ∧ F.decide rule packet ≠ none

/-- A packet to the port of a profile that does not come from one of its sources. -/
structure Unwanted (r : Request) (packet : F.Packet) : Prop where
  tcp : F.isTcp packet = true
  port : F.port packet = F.portNumber r.port
  source : ∀ source ∈ r.sources, F.comesFrom packet source = false

/-- A packet to a port that is neither the port of a profile nor one of its ports in a chain. -/
structure Unrelated (r : Request) (before : Chain) (packet : F.Packet) : Prop where
  port : F.port packet ≠ F.portNumber r.port
  old : ∀ rule ∈ before, isManaged r.number rule = true → ¬ F.HasPort rule (F.port packet)

end PacketFilter

/-! ## A simple filter -/

/-- A TCP packet, with the text of its source. -/
structure TcpPacket where
  source : String
  port : Nat

/-- The number that a text of digits means. -/
def readNumber (text : String) : Nat :=
  text.toList.foldl (fun n c => 10 * n + (c.toNat - 48)) 0

/-- Reads the options of a rule, each with its value. -/
def matchOptions (packet : TcpPacket) : List String → Option Verdict
  | "-p" :: protocol :: options => if protocol = "tcp" then matchOptions packet options else none
  | "-s" :: source :: options => if packet.source = source then matchOptions packet options else none
  | "--dport" :: text :: options =>
    if packet.port = readNumber text then matchOptions packet options else none
  | "-m" :: _ :: options => matchOptions packet options
  | "--comment" :: _ :: options => matchOptions packet options
  | "-j" :: target :: _ =>
    if target = "ACCEPT" then some .accept else if target = "DROP" then some .drop else none
  | _ => none

end Firewall
