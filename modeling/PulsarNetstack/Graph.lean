import PulsarNetstack.Mbuf
import PulsarNetstack.Neighbour
import PulsarNetstack.RingBuffer
import PulsarNetstack.SocketCalls
import PulsarNetstack.StateTriples

namespace PulsarNetstack

def graphFrameSize : ℕ := 64
def graphFramePoolSize : ℕ := 16
def neighbourPendingMax : ℕ := 16
def neighbourPendingQueueMax : ℕ := 8

instance : NeZero graphFramePoolSize := ⟨by decide⟩

inductive NodeId
  | drop | ethInput | arpInput | ipv4Input | icmpInput | udpInput | tcpInput | ipv4Route | udpOutput
  | ipv4Output | ethOutput | arpOutput | tx | ipv4Forward | ipv4Acl
  deriving DecidableEq, Repr

def NodeId.all : List NodeId :=
  [.drop, .ethInput, .arpInput, .ipv4Input, .icmpInput, .udpInput, .tcpInput, .ipv4Route, .udpOutput, .ipv4Output,
    .ethOutput, .arpOutput, .tx, .ipv4Forward, .ipv4Acl]

structure PacketCtx where
  ingressPortId : ℕ := 0
  egressPortId : ℕ := 0
  l3Offset : ℕ := 0
  l4Offset : ℕ := 0
  srcIp : Word := 0
  dstIp : Word := 0
  nextHop : Word := 0
  srcPort : Word16 := 0
  dstPort : Word16 := 0
  ipProtocol : Byte := 0
  dropReason : DropReason := .none
  reportAcceptance : Bool := false
  transit : Bool := false
  deriving DecidableEq, Repr

abbrev Packet := Mbuf × PacketCtx

abbrev Frame := List Packet

structure FrameSlot where
  frame : Frame := []
  node : NodeId := .drop
  used : Bool := false

structure NodeStats where
  packets : ℕ := 0
  bytes : ℕ := 0
  drops : ℕ := 0
  errors : ℕ := 0

abbrev SlotId := Fin graphFramePoolSize

structure Graph where
  stats : NodeId → NodeStats := fun _ => {}
  slots : SlotId → FrameSlot := fun _ => {}
  queue : RingBuffer SlotId graphFramePoolSize := .empty 0
  dropReasons : DropReason → ℕ := fun _ => 0

structure NodeOutput where
  pending : NodeId → Option SlotId := fun _ => none

structure PendingNeighbour where
  ip : Word := 0
  netifId : Word16 := 0
  requests : ℕ := 0
  lastRequest : ℕ := 0
  packets : List Packet := []

/-- What happened to an entry, with the clock reading that its function was called with. No function of the source
reads it. -/
inductive PendingEvent
  | opened (now : ℕ)
  | stored (p : Packet)
  | asked (now : ℕ)
  | timedOut (now : ℕ)

inductive FreeCause
  | dropped (reason : DropReason)
  | enqueueFailed
  | discarded (reason : DropReason)
  | consumed
  deriving DecidableEq, Repr

/-- What became of the mbufs, in the order in which it happened. No function of the source reads it. -/
structure Ledger where
  allocated : List ℕ := []
  freed : List (ℕ × FreeCause) := []
  sent : List ℕ := []
  arpFailures : ℕ := 0

/-- What the outside decides: clock, random numbers, allocations, and how many packets of a batch a port takes. Each
call uses up one position. -/
structure World where
  hz : ℕ
  time : ℕ → ℕ
  random : ℕ → Word
  alloc : ℕ → Bool
  burst : ℕ → ℕ

structure AclCounters where
  rules : ℕ → ℕ × ℕ := fun _ => (0, 0)
  accepted : ℕ := 0
  dropped : ℕ := 0
  defaults : ℕ := 0

structure IcmpErrorState where
  generated : ℕ := 0
  suppressed : ℕ := 0
  rateLimited : ℕ := 0
  failed : ℕ := 0
  lastRefill : ℕ := 0
  tokens : ℕ := 0
  initialized : Bool := false

structure PortCounters where
  txPackets : ℕ := 0
  txDrops : ℕ := 0
  txBytes : ℕ := 0

structure TcpStats where
  sent : ℕ := 0
  outputFailed : ℕ := 0
  events : TcpCounter → ℕ := fun _ => 0

def DistinctPorts (ports : List PortState) : Prop :=
  ports.Pairwise fun p q => p.configured = true → q.configured = true → p.portId ≠ q.portId

theorem distinctPorts_nil : DistinctPorts [] := List.Pairwise.nil

structure Runtime where
  routing : Routing
  distinct : DistinctPorts routing.ports
  world : World
  calls : ℕ := 0
  nextMbuf : ℕ := 0
  ledger : Ledger := {}
  graph : Graph := {}
  activeOutput : Option NodeOutput := none
  neighbours : NeighbourTable := emptyNeighbours
  pendingNeighbours : Fin neighbourPendingMax → PendingNeighbour := fun _ => {}
  pendingLog : Fin neighbourPendingMax → List PendingEvent := fun _ => []
  sockets : SocketTable
  tcpStats : TcpStats := {}
  icmpErrors : IcmpErrorState := {}
  aclStats : AclCounters := {}
  portCounters : ℕ → PortCounters := fun _ => {}
  ipv4Forwarding : Bool := false
  neighbourLearnFailures : ℕ := 0
  nextIpId : ℕ := 0
  txPackets : ℕ := 0
  acceptedSends : ℕ := 0

def Graph.countDrop (g : Graph) (reason : DropReason) (count : ℕ) : Graph :=
  { g with dropReasons := Function.update g.dropReasons reason (g.dropReasons reason + count) }

def Graph.updateStats (g : Graph) (node : NodeId) (f : NodeStats → NodeStats) : Graph :=
  { g with stats := Function.update g.stats node (f (g.stats node)) }

def Graph.countFull (g : Graph) (node : NodeId) (count : ℕ) : Graph :=
  (g.countDrop .graphFull count).updateStats node fun s =>
    { s with drops := s.drops + count, errors := s.errors + count }

def Runtime.noting (rt : Runtime) (i : Fin neighbourPendingMax) (events : List PendingEvent) :
    Fin neighbourPendingMax → List PendingEvent :=
  Function.update rt.pendingLog i (rt.pendingLog i ++ events)

def Runtime.free (rt : Runtime) (m : Mbuf) (cause : FreeCause) : Runtime :=
  { rt with ledger := { rt.ledger with freed := rt.ledger.freed ++ [(m.id, cause)] } }

def slotAlloc (g : Graph) : Option (SlotId × Graph) :=
  ((List.finRange graphFramePoolSize).find? fun i => !(g.slots i).used).map fun i =>
    (i, { g with slots := Function.update g.slots i { g.slots i with used := true, frame := [] } })

def queueSlot (g : Graph) (slot : SlotId) : Option Graph := (g.queue.push slot).map fun q => { g with queue := q }

def freeFrame (rt : Runtime) (frame : Frame) : Runtime := frame.foldl (fun rt p => rt.free p.1 .enqueueFailed) rt

def flushPending (rt : Runtime) (out : NodeOutput) (node : NodeId) : Runtime × NodeOutput × Bool :=
  match out.pending node with
  | none => (rt, out, true)
  | some slot =>
    let out := { out with pending := Function.update out.pending node none }
    match queueSlot rt.graph slot with
    | some g => ({ rt with graph := g }, out, true)
    | none =>
      let frame := (rt.graph.slots slot).frame
      let rt := freeFrame rt frame
      let slots := Function.update rt.graph.slots slot { rt.graph.slots slot with used := false }
      ({ rt with graph := ({ rt.graph with slots := slots }.countFull node frame.length) }, out, false)

def appendPacket (rt : Runtime) (out : NodeOutput) (node : NodeId) (slot : SlotId) (p : Packet) :
    Runtime × NodeOutput × Bool :=
  let s := rt.graph.slots slot
  let frame := s.frame ++ [p]
  let rt := { rt with graph := { rt.graph with slots := Function.update rt.graph.slots slot { s with frame := frame } } }
  if frame.length = graphFrameSize then flushPending rt out node else (rt, out, true)

def nodeEnqueue (rt : Runtime) (out : NodeOutput) (node : NodeId) (p : Packet) : Runtime × NodeOutput × Bool :=
  match out.pending node with
  | some slot => appendPacket rt out node slot p
  | none =>
    match slotAlloc rt.graph with
    | none => ({ rt.free p.1 .enqueueFailed with graph := rt.graph.countFull node 1 }, out, false)
    | some (slot, g) =>
      let out := { out with pending := Function.update out.pending node (some slot) }
      let slots := Function.update g.slots slot { g.slots slot with node := node }
      appendPacket { rt with graph := { g with slots := slots } } out node slot p

abbrev GraphM := Program Runtime

def enqueueActive (out : NodeOutput) (node : NodeId) (p : Packet) : GraphM Bool := fun rt =>
  let (rt, out, ok) := nodeEnqueue rt out node p
  some (ok, { rt with activeOutput := some out })

def graphDrop (owner : NodeId) (p : Packet) (reason : DropReason) (error : Bool) : GraphM PUnit := fun rt =>
  let ctx := { p.2 with dropReason := reason }
  let rt := { rt with graph := rt.graph.updateStats owner fun s =>
    { s with drops := s.drops + 1, errors := s.errors + if error then 1 else 0 } }
  match rt.activeOutput with
  | some out => (enqueueActive out .drop (p.1, ctx) rt).map fun r => (⟨⟩, r.2)
  | none =>
    match nodeEnqueue rt {} .drop (p.1, ctx) with
    | (rt, out, true) => some (⟨⟩, (flushPending rt out .drop).1)
    | (rt, _, false) => some (⟨⟩, rt)

end PulsarNetstack
