import PulsarNetstack.NodeVerdicts

namespace PulsarNetstack

abbrev Submit := NodeId → Frame → GraphM PUnit

def timerCycles : GraphM ℕ :=
  modifyGet fun rt => (rt.world.time rt.calls, { rt with calls := rt.calls + 1 })

def allocMbuf : GraphM (Option Mbuf) := modifyGet fun rt =>
  if rt.world.alloc rt.calls then
    (some ⟨rt.nextMbuf, freshBuffer⟩,
      { rt with
        calls := rt.calls + 1
        nextMbuf := rt.nextMbuf + 1
        ledger := { rt.ledger with allocated := rt.ledger.allocated ++ [rt.nextMbuf] } })
  else (none, { rt with calls := rt.calls + 1 })

def freeMbuf (m : Mbuf) (cause : FreeCause) : GraphM PUnit := modify fun rt => rt.free m cause

def modifyGraph (f : Graph → Graph) : GraphM PUnit := modify fun rt => { rt with graph := f rt.graph }

def emit (node : NodeId) (p : Packet) : GraphM Bool := do
  let rt ← get
  match rt.activeOutput with
  | some out => enqueueActive out node p
  | none => return false

/-- A packet that a helper builds goes to the output of the running node, or through the graph if none is running. The
result says whether the node got it. -/
def inject (submit : Submit) (node : NodeId) (p : Packet) : GraphM Bool := do
  let rt ← get
  match rt.activeOutput with
  | some out => enqueueActive out node p
  | none =>
    submit node [p]
    let rt' ← get
    return (rt'.graph.stats node).packets != (rt.graph.stats node).packets

section Active

variable {rt : Runtime} {out : NodeOutput} {node owner : NodeId} {p : Packet} {submit : Submit}

theorem emit_eq (rt : Runtime) {out : NodeOutput} (h : rt.activeOutput = some out) : emit node p rt =
    some ((nodeEnqueue rt out node p).2.2,
      { (nodeEnqueue rt out node p).1 with activeOutput := some (nodeEnqueue rt out node p).2.1 }) := by
  change (match rt.activeOutput with | some out => enqueueActive out node p | none => pure false) rt = _
  rw [h]
  rfl

theorem inject_eq_emit (h : rt.activeOutput.isSome) : inject submit node p rt = emit node p rt := by
  obtain ⟨out, hout⟩ := Option.isSome_iff_exists.mp h
  change (match rt.activeOutput with
    | some out => enqueueActive out node p
    | none => _ : GraphM Bool) rt = (match rt.activeOutput with
    | some out => enqueueActive out node p
    | none => pure false : GraphM Bool) rt
  rw [hout]

theorem graphDrop_eq_emit {reason : DropReason} {error : Bool} (h : rt.activeOutput.isSome) :
    graphDrop owner p reason error rt =
      (emit .drop (p.1, { p.2 with dropReason := reason }) { rt with graph := rt.graph.updateStats owner fun s =>
        { s with drops := s.drops + 1, errors := s.errors + if error then 1 else 0 } }).map fun r => (⟨⟩, r.2) := by
  obtain ⟨out, hout⟩ := Option.isSome_iff_exists.mp h
  unfold graphDrop
  dsimp only
  rw [hout]
  rfl

end Active

def arpRequest (submit : Submit) (port : PortState) (target : Word) : GraphM PUnit := do
  match ← allocMbuf with
  | none => modify fun rt =>
    let g := (rt.graph.countDrop .mbufAllocationFailed 1).updateStats .arpOutput fun s =>
      { s with drops := s.drops + 1, errors := s.errors + 1 }
    { rt with graph := g, ledger := { rt.ledger with arpFailures := rt.ledger.arpFailures + 1 } }
  | some m =>
    let _ ← inject submit .arpOutput (m, { egressPortId := port.portId, nextHop := target })

def releasePending (submit : Submit) (i : Fin neighbourPendingMax) : GraphM PUnit := do
  let rt ← get
  let frame := (rt.pendingNeighbours i).packets
  -- The entry is cleared before its packets are handed back.
  set { rt with pendingNeighbours := Function.update rt.pendingNeighbours i {} }
  if rt.activeOutput.isSome then frame.forM fun p => do let _ ← emit .ethOutput p
  else submit .ethOutput frame

def pendingEntry (entries : Fin neighbourPendingMax → PendingNeighbour) (netifId : Word16) (ip : Word) :
    Option (Fin neighbourPendingMax) :=
  let indices := List.finRange neighbourPendingMax
  (indices.find? fun i => (entries i).packets ≠ [] ∧ (entries i).netifId = netifId ∧ (entries i).ip = ip).or
    (indices.find? fun i => (entries i).packets = [])

def neighbourQueue (submit : Submit) (netifId : ℕ) (p : Packet) (now : ℕ) : GraphM DropReason := do
  let rt ← get
  let dev := BitVec.ofNat 16 netifId
  match pendingEntry rt.pendingNeighbours dev p.2.nextHop with
  | none => return .neighbourPendingFull
  | some i =>
    let entry := rt.pendingNeighbours i
    if entry.packets.length = neighbourPendingQueueMax then return .neighbourQueueFull
    else
      match (netifById rt.routing netifId).filter fun port => port.up && port.portId == p.2.egressPortId with
      | none => return .invalidEgress
      | some port =>
        let first := entry.packets = []
        let entry := if first then
          { entry with netifId := dev, ip := p.2.nextHop, requests := 1, lastRequest := now } else entry
        let entry := { entry with packets := entry.packets ++ [(p.1, { p.2 with reportAcceptance := false })] }
        set { rt with
          pendingNeighbours := Function.update rt.pendingNeighbours i entry
          pendingLog := rt.noting i (if first then [.opened now, .stored p] else [.stored p])
          acceptedSends := rt.acceptedSends + if p.2.reportAcceptance then 1 else 0 }
        if first then arpRequest submit port entry.ip
        return .none

def neighbourUpdate (submit : Submit) (netifId : ℕ) (ip : Word) (mac : Mac) : GraphM (Except Errno Unit) := do
  let rt ← get
  let dev := BitVec.ofNat 16 netifId
  let (neighbours, result) := neighbourLearn rt.neighbours dev ip mac
  set { rt with neighbours := neighbours }
  if result.isOk then
    (List.finRange neighbourPendingMax).forM fun i => do
      let rt ← get
      let entry := rt.pendingNeighbours i
      if entry.packets ≠ [] ∧ entry.netifId = dev ∧ entry.ip = ip then releasePending submit i
  return result

def icmpErrorRate : ℕ := 10
def icmpErrorBurst : ℕ := 10

def takeTokenMod (w hz : ℕ) (s : IcmpErrorState) (now : ℕ) : IcmpErrorState × Bool :=
  let interval := hz / icmpErrorRate
  let s := if s.initialized then s else { s with initialized := true, lastRefill := now, tokens := icmpErrorBurst }
  let elapsed := (now + w - s.lastRefill) % w
  let refill := elapsed / interval
  let s := if refill = 0 then s
    else
      { s with
        tokens := if icmpErrorBurst - s.tokens ≤ refill then icmpErrorBurst else s.tokens + refill
        lastRefill := (now + w - elapsed % interval) % w }
  if s.tokens = 0 then (s, false) else ({ s with tokens := s.tokens - 1 }, true)

def takeToken (hz : ℕ) (s : IcmpErrorState) (now : ℕ) : IcmpErrorState × Bool := takeTokenMod 18446744073709551616 hz s now

def icmpErrorSuppressed (rt : Routing) (b : Buffer) (ctx : PacketCtx) : Bool :=
  let ip := b.data.drop ctx.l3Offset
  let ihl := (byteAt ip 0).toNat % 16 * 4
  let total := be16 ip 2
  let src := wordAt ip 12
  let dst := wordAt ip 16
  let type := (byteAt ip ihl).toNat
  !b.isContiguous || decide (b.data.length < ctx.l3Offset + ipv4HdrLen) ||
    (byteAt ip 0).toNat / 16 != 4 || decide (ihl < ipv4HdrLen) || decide (total < ihl) ||
    decide (b.data.length < ctx.l3Offset + total) || ipv4Cksum ip != 0 || !ipv4DestinationValid rt src ||
    (!netifIsLocalIp rt dst && !ipv4DestinationValid rt dst) || be16 ip 6 % 0x2000 != 0 ||
    (decide (etherHdrLen ≤ ctx.l3Offset) && (macAt b.data 0).getLsbD 40) ||
    (byteAt ip 9 == protoIcmp &&
      (decide (total - ihl < 8) || type == 3 || type == 4 || type == 5 || type == 11 || type == 12))

def sendNew (submit : Submit) (bytes : List Byte) (ctx : PacketCtx) (sent failed : GraphM PUnit) : GraphM PUnit := do
  match ← allocMbuf with
  | none => failed
  | some m =>
    match m.buffer.append bytes with
    | none =>
      freeMbuf m .consumed
      failed
    | some buffer => if ← inject submit .ipv4Output (⟨m.id, buffer⟩, ctx) then sent else failed

def modifyIcmp (f : IcmpErrorState → IcmpErrorState) : GraphM PUnit :=
  modify fun rt => { rt with icmpErrors := f rt.icmpErrors }

def icmpErrorBytes (ip : List Byte) (type code : Byte) (mtu quote : ℕ) : List Byte :=
  let next := if type = 3 ∧ code = 4 then be16Bytes mtu else [0, 0]
  let message (cksum : List Byte) := [type, code] ++ cksum ++ [0, 0] ++ next ++ ip.take quote
  message (cksumBytes (65535 - rawCksum (message [0, 0])))

def icmpSendError (submit : Submit) (b : Buffer) (ctx : PacketCtx) (type code : Byte) (mtu now : ℕ) : GraphM PUnit := do
  let rt ← get
  let ip := b.data.drop ctx.l3Offset
  let ihl := (byteAt ip 0).toNat % 16 * 4
  let total := be16 ip 2
  let src := wordAt ip 12
  let dst := wordAt ip 16
  if icmpErrorSuppressed rt.routing b ctx then modifyIcmp fun s => { s with suppressed := s.suppressed + 1 }
  else
    let (state, granted) := takeToken rt.world.hz rt.icmpErrors now
    modifyIcmp fun _ => state
    if !granted then modifyIcmp fun s => { s with rateLimited := s.rateLimited + 1 }
    else
      let own := netifIsLocalIp rt.routing dst
      let (reason, route) := ipv4RouteQuery rt.routing src (if own then dst else 0) netIifNone {}
      if reason ≠ .none ∨ route.mtu < ipv4HdrLen + 8 + ihl + min (total - ihl) 8 then
        modifyIcmp fun s => { s with failed := s.failed + 1 }
      else
        let quote := min total (min route.mtu 576 - ipv4HdrLen - 8)
        let response : PacketCtx := { egressPortId := routePortId rt.routing route, srcIp := if own then dst else route.sourceIp,
                                      dstIp := src, nextHop := route.nextHop, ipProtocol := protoIcmp }
        sendNew submit (icmpErrorBytes ip type code mtu quote) response
          (modifyIcmp fun s => { s with generated := s.generated + 1 }) (modifyIcmp fun s => { s with failed := s.failed + 1 })

def modifyTcp (f : TcpStats → TcpStats) : GraphM PUnit := modify fun rt => { rt with tcpStats := f rt.tcpStats }

def tcpOutputFailed : GraphM PUnit := modifyTcp fun s => { s with outputFailed := s.outputFailed + 1 }

def tcpSegmentBytes (localAddr remoteAddr : SockAddr) (seq ack : Word) (flags : Byte) (window mtu : ℕ) (data : List Byte) :
    List Byte :=
  let options := if flag flags synFlag then [2, 4] ++ be16Bytes (sub16 mtu 40) else []
  let offset := BitVec.ofNat 8 ((20 + options.length) / 4 * 16)
  let segment (cksum : List Byte) := be16Bytes localAddr.port.toNat ++ be16Bytes remoteAddr.port.toNat ++ be32Bytes seq ++
    be32Bytes ack ++ [offset, flags] ++ be16Bytes window ++ cksum ++ [0, 0] ++ options ++ data
  segment (cksumBytes (udptcpCksum localAddr.ip remoteAddr.ip protoTcp (segment [0, 0])))

def tcpEmit (submit : Submit) (localAddr remoteAddr : SockAddr) (seq ack : Word) (flags : Byte) (window : ℕ)
    (data : List Byte) : GraphM PUnit := do
  let rt ← get
  let (reason, route) := ipv4RouteQuery rt.routing remoteAddr.ip localAddr.ip netIifNone {}
  let headerLen := 20 + if flag flags synFlag then 4 else 0
  if reason ≠ .none ∨ route.mtu < 20 + headerLen + data.length then tcpOutputFailed
  else
    let ctx : PacketCtx := { egressPortId := routePortId rt.routing route, srcIp := localAddr.ip, dstIp := remoteAddr.ip,
                             nextHop := route.nextHop, srcPort := localAddr.port, dstPort := remoteAddr.port,
                             ipProtocol := protoTcp }
    sendNew submit (tcpSegmentBytes localAddr remoteAddr seq ack flags window route.mtu data) ctx
      (modifyTcp fun s => { s with sent := s.sent + 1 }) tcpOutputFailed

def queuedBy (localAddr remoteAddr : SockAddr) (p : Packet) : Bool :=
  p.2.ipProtocol == protoTcp && p.2.srcIp == localAddr.ip && p.2.dstIp == remoteAddr.ip &&
    p.2.srcPort == localAddr.port && p.2.dstPort == remoteAddr.port

def discardPacket (reason : DropReason) (p : Packet) : GraphM PUnit := do
  modifyGraph fun g => ((g.countDrop reason 1).updateStats .drop fun s =>
    { s with packets := s.packets + 1, drops := s.drops + 1, bytes := s.bytes + p.1.buffer.pktLen }).updateStats .ethOutput
      fun s => { s with drops := s.drops + 1 }
  freeMbuf p.1 (.discarded reason)

def cancelQueued (localAddr remoteAddr : SockAddr) : GraphM PUnit :=
  (List.finRange neighbourPendingMax).forM fun i => do
    let rt ← get
    let entry := rt.pendingNeighbours i
    let keep := entry.packets.filter fun p => !queuedBy localAddr remoteAddr p
    set { rt with pendingNeighbours :=
      Function.update rt.pendingNeighbours i (if keep = [] then {} else { entry with packets := keep }) }
    (entry.packets.filter (queuedBy localAddr remoteAddr)).forM (discardPacket .neighbourCancelled)

def tcpEffect (submit : Submit) : TcpEffect → GraphM PUnit
  | .emit localAddr remoteAddr seq ack flags window data => tcpEmit submit localAddr remoteAddr seq ack flags window data
  | .cancelQueued localAddr remoteAddr => cancelQueued localAddr remoteAddr
  | .count counter => modifyTcp fun s => { s with events := Function.update s.events counter (s.events counter + 1) }

def Runtime.tcpEnv (rt : Runtime) : TcpEnv where
  hz := rt.world.hz
  routeQuery dst src := ipv4RouteQuery rt.routing dst src netIifNone {}
  destinationValid := ipv4DestinationValid rt.routing
  isLocalIp := netifIsLocalIp rt.routing
  busy := rt.activeOutput.isSome

def settle (owner : NodeId) (p : Packet) : Verdict → GraphM PUnit
  | .drop reason error => graphDrop owner p reason error
  | .enqueue node buffer ctx => do let _ ← emit node (⟨p.1.id, buffer⟩, ctx)

def decideEach (owner : NodeId) (verdict : Runtime → Buffer → PacketCtx → Verdict) (frame : Frame) : GraphM PUnit :=
  frame.forM fun p => do
    let rt ← get
    settle owner p (verdict rt p.1.buffer p.2)

def dropNodeRun (frame : Frame) : GraphM PUnit := do
  modifyGraph fun g => g.updateStats .drop fun s => { s with drops := s.drops + frame.length }
  frame.forM fun p => do
    modifyGraph fun g => g.countDrop p.2.dropReason 1
    freeMbuf p.1 (.dropped p.2.dropReason)

def ethInputNodeRun : Frame → GraphM PUnit := decideEach .ethInput fun rt => ethInput rt.routing
def ipv4InputNodeRun : Frame → GraphM PUnit := decideEach .ipv4Input fun rt => ipv4Input rt.routing
def icmpInputNodeRun : Frame → GraphM PUnit := decideEach .icmpInput fun rt => icmpInput rt.routing
def ipv4RouteNodeRun : Frame → GraphM PUnit := decideEach .ipv4Route fun rt => ipv4Route rt.routing
def udpOutputNodeRun : Frame → GraphM PUnit := decideEach .udpOutput fun _ => udpOutput
def arpOutputNodeRun : Frame → GraphM PUnit := decideEach .arpOutput fun rt => arpOutput rt.routing

def ipv4OutputNodeRun (frame : Frame) : GraphM PUnit := frame.forM fun p => do
  let rt ← get
  let verdict := ipv4Output rt.routing rt.nextIpId p.1.buffer p.2
  if let .enqueue .. := verdict then set { rt with nextIpId := add16 rt.nextIpId 1 }
  settle .ipv4Output p verdict

def ipv4AclNodeRun (frame : Frame) : GraphM PUnit := frame.forM fun p => do
  let rt ← get
  let accepted ← match rt.routing.network with
    | none => pure true
    | some c => do
      let rule := netAclClassify c (aclKey rt.routing p.1.buffer p.2)
      let (stats, accepted) := netAclAccount c rt.aclStats rule (be16 (p.1.buffer.data.drop p.2.l3Offset) 2)
      set { rt with aclStats := stats }
      pure accepted
  if accepted then settle .ipv4Acl p (ipv4Acl rt.routing rt.ipv4Forwarding p.1.buffer p.2)
  else graphDrop .ipv4Acl p .acl false

def forwardError (reason : DropReason) : Option Byte :=
  if reason = .noRoute ∨ reason = .invalidEgress ∨ reason = .routeUnreachable then some 0
  else if reason = .routeProhibit then some 13
  else none

def ipv4ForwardNodeRun (submit : Submit) (frame : Frame) : GraphM PUnit := frame.forM fun p => do
  let rt ← get
  let ip := p.1.buffer.data.drop p.2.l3Offset
  let report (type code : Byte) (mtu : ℕ) : GraphM PUnit := do
    let now ← timerCycles
    icmpSendError submit p.1.buffer p.2 type code mtu now
  if (byteAt ip 8).toNat ≤ 1 then
    report 11 0 0
    graphDrop .ipv4Forward p .ttlExpired false
  else
    let (reason, route) := ipv4RouteQuery rt.routing (wordAt ip 16) (wordAt ip 12) (ingressId rt.routing p.2.ingressPortId) {}
    if reason ≠ .none then
      if let some code := forwardError reason then report 3 code 0
      graphDrop .ipv4Forward p reason false
    else if route.mtu < be16 ip 2 then
      if be16 ip 6 / 0x4000 % 2 = 1 then report 3 4 route.mtu
      graphDrop .ipv4Forward p .mtu false
    else
      let header := withIpv4Cksum (putBytes ip 8 [byteAt ip 8 - 1])
      let b := { p.1.buffer with data := p.1.buffer.data.take p.2.l3Offset ++ header }
      let ctx := { p.2 with egressPortId := routePortId rt.routing route, nextHop := route.nextHop }
      let (b, ctx) := stripToIpv4 b ctx
      settle .ipv4Forward p (.enqueue .ethOutput b ctx)

def arpRefused (rt : Routing) (port : PortState) (b : Buffer) (ctx : PacketCtx) : Option (DropReason × Bool) :=
  let arp := b.data.drop ctx.l3Offset
  let opcode := be16 arp 6
  let sip := wordAt arp 14
  if b.data.length < ctx.l3Offset + arpHdrLen then some (.invalidArp, true)
  else if be16 arp 0 ≠ 1 ∨ be16 arp 2 ≠ etherTypeIpv4 ∨ byteAt arp 4 ≠ 6 ∨ byteAt arp 5 ≠ 4 ∨
      macAt b.data 6 ≠ macAt arp 8 ∨ (opcode ≠ 1 ∧ opcode ≠ 2) ∨ (sip ≠ 0 ∧ !validSourceIp rt port sip) then
    some (.invalidArp, true)
  else if !netAddressOn rt (BitVec.ofNat 32 port.id) (wordAt arp 24) then some (.notLocal, false)
  else if opcode = 2 ∧ macAt arp 18 ≠ port.mac then some (.invalidArp, true)
  else none

def arpReply (port : PortState) (b : Buffer) (ctx : PacketCtx) : Buffer :=
  let arp := b.data.drop ctx.l3Offset
  let requester := macAt arp 8
  let reply := be16Bytes 2 ++ macBytes port.mac ++ wordBytes (wordAt arp 24) ++ macBytes requester ++ wordBytes (wordAt arp 14)
  let data := putBytes (putBytes b.data 0 (macBytes requester ++ macBytes port.mac)) (ctx.l3Offset + 6) reply
  { b with data := data }.trim (b.pktLen - (ctx.l3Offset + arpHdrLen))

def arpInputNodeRun (submit : Submit) (frame : Frame) : GraphM PUnit := frame.forM fun p => do
  let rt ← get
  match ingressPort rt.routing p.2.ingressPortId with
  | none => graphDrop .arpInput p .portBinding true
  | some port =>
    match arpRefused rt.routing port p.1.buffer p.2 with
    | some (reason, error) => graphDrop .arpInput p reason error
    | none =>
      let arp := p.1.buffer.data.drop p.2.l3Offset
      let sip := wordAt arp 14
      if sip ≠ 0 ∧ !netifIsLocalIp rt.routing sip ∧ netDirect rt.routing (BitVec.ofNat 32 port.id) sip then
        let result ← neighbourUpdate submit port.id sip (macAt arp 8)
        if !result.isOk then modify fun rt => { rt with neighbourLearnFailures := rt.neighbourLearnFailures + 1 }
      if be16 arp 6 = 2 then freeMbuf p.1 .consumed
      else settle .arpInput p (.enqueue .tx (arpReply port p.1.buffer p.2) { p.2 with egressPortId := port.portId })

def udpLength (b : Buffer) (ctx : PacketCtx) : Except DropReason ℕ :=
  let available := sub16 b.pktLen ctx.l4Offset
  let udp := b.data.drop ctx.l4Offset
  let ip := b.data.drop ctx.l3Offset
  let length := be16 udp 4
  if available < udpHdrLen then .error .invalidUdp
  else if length < udpHdrLen ∨ available < length then .error .udpBadLength
  else
    let sum := rawCksum (udp.take length) + phdrCksum (wordAt ip 12) (wordAt ip 16) (byteAt ip 9) length
    if be16 udp 6 ≠ 0 ∧ cksumFold (cksumFold sum) ≠ 65535 then .error .udpBadChecksum
    else .ok length

def udpInputNodeRun (submit : Submit) (frame : Frame) : GraphM PUnit := frame.forM fun p => do
  let rt ← get
  match udpLength p.1.buffer p.2 with
  | .error reason => graphDrop .udpInput p reason true
  | .ok length =>
    let udp := p.1.buffer.data.drop p.2.l4Offset
    let ip := p.1.buffer.data.drop p.2.l3Offset
    let source : SockAddr := ⟨wordAt ip 12, BitVec.ofNat 16 (be16 udp 0)⟩
    let (sockets, result) := udpDeliver rt.sockets (wordAt ip 16) (BitVec.ofNat 16 (be16 udp 2)) source
      ((udp.take length).drop udpHdrLen)
    set { rt with sockets := sockets }
    match result with
    | .ok _ => freeMbuf p.1 .consumed
    | .error .enoent =>
      let now ← timerCycles
      icmpSendError submit p.1.buffer p.2 3 3 0 now
      graphDrop .udpInput p .udpUnboundPort false
    | .error .enobufs => graphDrop .udpInput p .udpRxQueueFull false
    | .error _ => graphDrop .udpInput p .mtu false

def tcpHeaderAt (tcp : List Byte) (headerLen : ℕ) : TcpHeader where
  srcPort := BitVec.ofNat 16 (be16 tcp 0)
  dstPort := BitVec.ofNat 16 (be16 tcp 2)
  seq := BitVec.ofNat 32 (be32 tcp 4)
  ack := BitVec.ofNat 32 (be32 tcp 8)
  flags := byteAt tcp 13
  window := be16 tcp 14
  options := (tcp.take headerLen).drop 20

def tcpInputNodeRun (submit : Submit) (frame : Frame) : GraphM PUnit := frame.forM fun p => do
  let rt ← get
  let length := sub16 p.1.buffer.pktLen p.2.l4Offset
  let tcp := (p.1.buffer.data.drop p.2.l4Offset).take length
  let headerLen := (byteAt tcp 12).toNat / 16 * 4
  if length < 20 ∨ headerLen < 20 ∨ length < headerLen ∨ tcpFlagsInvalid (byteAt tcp 13) then
    graphDrop .tcpInput p .invalidTcp true
  else
    let ip := p.1.buffer.data.drop p.2.l3Offset
    if udptcpCksum (wordAt ip 12) (wordAt ip 16) protoTcp tcp ≠ 0 then graphDrop .tcpInput p .tcpBadChecksum true
    else
      let header := tcpHeaderAt tcp headerLen
      -- The clock is read for `tcp_input`, which segments with invalid options do not reach.
      let valid := (tcpOptions (flag header.flags synFlag) 0 536 header.options).isSome
      let now ← (if valid then timerCycles else pure 0 : GraphM ℕ)
      let (sockets, effects, reason) := tcpInputSegment rt.tcpEnv rt.sockets p.2.srcIp p.2.dstIp header
        (tcp.drop headerLen) (rt.world.random rt.calls) now
      modify fun rt => { rt with sockets := sockets }
      effects.forM (tcpEffect submit)
      if reason ≠ .none then graphDrop .tcpInput p reason (reason == .invalidTcp || reason == .tcpInvalidState)
      else freeMbuf p.1 .consumed

def ethOutputNodeRun (submit : Submit) (frame : Frame) : GraphM PUnit := frame.forM fun p => do
  let rt ← get
  match egressPort rt.routing p.2.egressPortId with
  | none => graphDrop .ethOutput p .invalidEgress true
  | some port =>
    if port.mtu < p.1.buffer.pktLen then graphDrop .ethOutput p .mtu false
    else
      match neighbourLookup rt.neighbours (BitVec.ofNat 16 port.id) p.2.nextHop with
      | .error _ =>
        let now ← timerCycles
        let reason ← neighbourQueue submit port.id p now
        if reason ≠ .none then graphDrop .ethOutput p reason false
      | .ok mac =>
        match p.1.buffer.prepend (macBytes mac ++ macBytes port.mac ++ be16Bytes etherTypeIpv4) with
        | none => graphDrop .ethOutput p .noHeadroom true
        | some b =>
          let ctx := { p.2 with l3Offset := add16 p.2.l3Offset etherHdrLen, l4Offset := add16 p.2.l4Offset etherHdrLen }
          settle .ethOutput p (.enqueue .tx b ctx)

def etherMinLen : ℕ := 60

def modifyPort (portId : ℕ) (f : PortCounters → PortCounters) : GraphM PUnit :=
  modify fun rt => { rt with portCounters := Function.update rt.portCounters portId (f (rt.portCounters portId)) }

def txPrepare : Frame → GraphM (List Packet)
  | [] => pure []
  | p :: frame => do
    let rt ← get
    match egressPort rt.routing p.2.egressPortId with
    | none =>
      graphDrop .tx p .invalidEgress true
      txPrepare frame
    | some port =>
      match p.1.buffer.append (List.replicate (etherMinLen - p.1.buffer.pktLen) 0) with
      | none =>
        modifyPort port.portId fun s => { s with txDrops := s.txDrops + 1 }
        graphDrop .tx p .noTailroom true
        txPrepare frame
      | some b =>
        let rest ← txPrepare frame
        return (⟨p.1.id, b⟩, p.2) :: rest

def txPort (packets : List Packet) (port : PortState) : GraphM PUnit := do
  let batch := packets.filter fun p => p.2.egressPortId == port.portId
  if !port.configured ∨ !port.up ∨ batch = [] then return ⟨⟩
  let rt ← get
  let sent := min (rt.world.burst rt.calls) batch.length
  let taken := batch.take sent
  set { rt with
    calls := rt.calls + 1
    txPackets := rt.txPackets + sent
    acceptedSends := rt.acceptedSends + taken.countP fun (p : Packet) => p.2.reportAcceptance
    ledger := { rt.ledger with sent := rt.ledger.sent ++ taken.map fun (p : Packet) => p.1.id } }
  modifyPort port.portId fun s => { s with
    txPackets := s.txPackets + sent, txDrops := s.txDrops + (batch.length - sent)
    txBytes := s.txBytes + (taken.map fun p => p.1.buffer.pktLen).sum }
  (batch.drop sent).forM fun p => graphDrop .tx p .txFailed true

def txNodeRun (frame : Frame) : GraphM PUnit := do
  let packets ← txPrepare frame
  let rt ← get
  rt.routing.ports.forM (txPort packets)

def runNode (submit : Submit) : NodeId → Frame → GraphM PUnit
  | .drop => dropNodeRun
  | .ethInput => ethInputNodeRun
  | .arpInput => arpInputNodeRun submit
  | .ipv4Input => ipv4InputNodeRun
  | .icmpInput => icmpInputNodeRun
  | .udpInput => udpInputNodeRun submit
  | .tcpInput => tcpInputNodeRun submit
  | .ipv4Route => ipv4RouteNodeRun
  | .udpOutput => udpOutputNodeRun
  | .ipv4Output => ipv4OutputNodeRun
  | .ethOutput => ethOutputNodeRun submit
  | .arpOutput => arpOutputNodeRun
  | .tx => txNodeRun
  | .ipv4Forward => ipv4ForwardNodeRun submit
  | .ipv4Acl => ipv4AclNodeRun

def flushAll (rt : Runtime) (out : NodeOutput) : Runtime :=
  (NodeId.all.foldl (fun s node => let r := flushPending s.1 s.2 node; (r.1, r.2.1)) (rt, out)).1

def runSlot (submit : Submit) (slot : SlotId) : GraphM PUnit := do
  let rt ← get
  let s := rt.graph.slots slot
  modifyGraph fun g => g.updateStats s.node fun stats => { stats with
    packets := stats.packets + s.frame.length, bytes := stats.bytes + (s.frame.map fun p => p.1.buffer.pktLen).sum }
  modify fun rt => { rt with activeOutput := some {} }
  runNode submit s.node s.frame
  modify fun rt =>
    let slots := Function.update rt.graph.slots slot { rt.graph.slots slot with used := false }
    flushAll { rt with activeOutput := none, graph := { rt.graph with slots := slots } } (rt.activeOutput.getD {})

def seedFrame (node : NodeId) (frame : Frame) (rt : Runtime) : Runtime :=
  let (rt, out) := frame.foldl (fun s p => let r := nodeEnqueue s.1 s.2 node p; (r.1, r.2.1)) (rt, {})
  (flushPending rt out node).1

/-- The loop of `graph_submit`, which runs out of fuel rather than run forever. A nested call has the fuel that is
left. -/
def drain : ℕ → GraphM PUnit
  | 0 => fun rt => if rt.graph.queue.count = 0 then some (⟨⟩, rt) else none
  | fuel + 1 => fun rt =>
    match rt.graph.queue.pop with
    | none => some (⟨⟩, rt)
    | some (slot, queue) =>
      let submit : Submit := fun node frame rt =>
        if graphFrameSize < frame.length then some (⟨⟩, rt) else drain fuel (seedFrame node frame rt)
      (do runSlot submit slot; drain fuel : GraphM PUnit) { rt with graph := { rt.graph with queue := queue } }

def graphSubmit (fuel : ℕ) : Submit := fun node frame rt =>
  if graphFrameSize < frame.length then some (⟨⟩, rt) else drain fuel (seedFrame node frame rt)

end PulsarNetstack
