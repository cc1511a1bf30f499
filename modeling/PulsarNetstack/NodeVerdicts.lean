import PulsarNetstack.Graph

namespace PulsarNetstack

/-- What a node decides about one packet. The buffer has no identity here, so that a decision cannot exchange one mbuf
for another. -/
inductive Verdict
  | drop (reason : DropReason) (error : Bool)
  | enqueue (node : NodeId) (buffer : Buffer) (ctx : PacketCtx)

def etherHdrLen : ℕ := 14
def arpHdrLen : ℕ := 28
def ipv4HdrLen : ℕ := 20
def udpHdrLen : ℕ := 8

def etherTypeIpv4 : ℕ := 0x0800
def etherTypeArp : ℕ := 0x0806
def protoIcmp : Byte := 1
def protoTcp : Byte := 6
def protoUdp : Byte := 17

def broadcastMac : Mac := 0xffffffffffff

variable (rt : Routing)

def egressPort (portId : ℕ) : Option PortState := (netifByDpdkPort rt portId).filter PortState.up

def ingressPort (portId : ℕ) : Option PortState := (netifByDpdkPort rt portId).filter fun p => !p.adminDown

def ingressId (portId : ℕ) : Word := BitVec.ofNat 32 (((netifByDpdkPort rt portId).map PortState.id).getD 0)

def routePortId (route : RouteResult) : ℕ := ((netifById rt route.netifId).map PortState.portId).getD 0

def validSourceIp (port : PortState) (ip : Word) : Bool :=
  if netifIsLocalIp rt ip then false
  else if rt.network.isSome then ipv4DestinationValid rt ip
  else
    let host := htonl ip
    let own := htonl port.ip
    let mask := prefixMask port.prefixLen
    if host >>> 24 = 0 ∨ host >>> 24 = 127 ∨ 0xe0000000 ≤ host ∨ host = own then false
    else if port.prefixLen ≤ 30 ∧ host &&& mask = own &&& mask ∧
        (host &&& ~~~ mask = 0 ∨ host &&& ~~~ mask = ~~~ mask) then false
    else true

def ethInput (b : Buffer) (ctx : PacketCtx) : Verdict :=
  match ingressPort rt ctx.ingressPortId with
  | none => .drop .portBinding true
  | some port =>
    if !b.isContiguous ∨ !b.direct ∨ b.refcnt ≠ 1 then .drop .noncontiguous true
    else if b.data.length < etherHdrLen then .drop .truncatedEth true
    else
      let dst := macAt b.data 0
      let src := macAt b.data 6
      let type := be16 b.data 12
      if !validAssignedEtherAddr src ∨ src = port.mac then .drop .invalidSource true
      else if dst ≠ port.mac ∧ ¬ (type = etherTypeArp ∧ dst = broadcastMac) then .drop .notLocal false
      else
        let ctx := { ctx with l3Offset := etherHdrLen }
        if type = etherTypeArp then .enqueue .arpInput b ctx
        else if type = etherTypeIpv4 then .enqueue .ipv4Input b ctx
        else .drop .unsupportedEthertype false

def ipv4Input (b : Buffer) (ctx : PacketCtx) : Verdict :=
  match ingressPort rt ctx.ingressPortId with
  | none => .drop .portBinding true
  | some port =>
    if b.data.length < ctx.l3Offset + ipv4HdrLen then .drop .invalidIpv4 true
    else
      let ip := b.data.drop ctx.l3Offset
      let version := (byteAt ip 0).toNat / 16
      let ihl := (byteAt ip 0).toNat % 16 * 4
      let total := be16 ip 2
      let fragment := be16 ip 6
      let src := wordAt ip 12
      if version ≠ 4 ∨ ihl < ipv4HdrLen ∨ total < ihl ∨ b.data.length < ctx.l3Offset + total ∨ ipv4Cksum ip ≠ 0 ∨
          0x8000 ≤ fragment then .drop .invalidIpv4 true
      else if !validSourceIp rt port src ∨ netifIsLocalIp rt src then .drop .invalidSource true
      else if port.mtu < total then .drop .mtu false
      -- More fragments follow, or the offset is not zero.
      else if fragment % 0x4000 ≠ 0 then .drop .ipv4Fragment false
      else if ihl ≠ ipv4HdrLen then .drop .ipv4Options false
      else
        let ctx := { ctx with
          l4Offset := ctx.l3Offset + ihl, srcIp := src, dstIp := wordAt ip 16, ipProtocol := byteAt ip 9 }
        .enqueue .ipv4Acl (b.trim (b.pktLen - (ctx.l3Offset + total))) ctx

structure AclKey where
  src : Word
  dst : Word
  iif : Word
  proto : Byte
  portsValid : Bool
  sport : ℕ
  dport : ℕ

def aclMatches (k : AclKey) (a : NetAcl) : Bool :=
  netMatch k.src a.src a.srcPrefix && netMatch k.dst a.dst a.dstPrefix && (a.iif == netIifNone || a.iif == k.iif) &&
    (a.proto == 0 || a.proto == k.proto.setWidth 32) && (a.ports == 0 || k.portsValid) &&
    (a.ports &&& 1 == 0 || (decide (a.sportMin.toNat ≤ k.sport) && decide (k.sport ≤ a.sportMax.toNat))) &&
    (a.ports &&& 2 == 0 || (decide (a.dportMin.toNat ≤ k.dport) && decide (k.dport ≤ a.dportMax.toNat)))

def netAclClassify (c : NetConfig) (k : AclKey) : Option ℕ := c.acls.findIdx? (aclMatches k)

def netAclAccount (c : NetConfig) (s : AclCounters) (rule : Option ℕ) (bytes : ℕ) : AclCounters × Bool :=
  let matched := rule.bind fun i => c.acls[i]?.map fun a => (i, a)
  let drop := (matched.map fun p => p.2.drop).getD c.defaultDrop != 0
  let s := match matched with
    | some (i, _) => { s with rules := Function.update s.rules i ((s.rules i).1 + 1, (s.rules i).2 + bytes) }
    | none => { s with defaults := s.defaults + 1 }
  (if drop then { s with dropped := s.dropped + 1 } else { s with accepted := s.accepted + 1 }, !drop)

def aclKey (b : Buffer) (ctx : PacketCtx) : AclKey :=
  let ip := b.data.drop ctx.l3Offset
  let l4 := ip.drop ipv4HdrLen
  let length := (be16 ip 2 + 4294967296 - ipv4HdrLen) % 4294967296
  let valid := (ctx.ipProtocol == protoUdp && decide (8 ≤ length)) || (ctx.ipProtocol == protoTcp && decide (20 ≤ length))
  { src := ctx.srcIp, dst := ctx.dstIp, iif := ingressId rt ctx.ingressPortId, proto := ctx.ipProtocol,
    portsValid := valid, sport := if valid then be16 l4 0 else 0, dport := if valid then be16 l4 2 else 0 }

def ipv4Acl (forwarding : Bool) (b : Buffer) (ctx : PacketCtx) : Verdict :=
  let ip := b.data.drop ctx.l3Offset
  let src := wordAt ip 12
  let dst := wordAt ip 16
  if !netifIsLocalIp rt dst then
    if !forwarding then .drop .forwardingDisabled false
    else if !ipv4DestinationValid rt src ∨ htonl src >>> 16 = 0xa9fe then .drop .invalidSource false
    else if !ipv4DestinationValid rt dst ∨ htonl dst >>> 16 = 0xa9fe then .drop .invalidDestination false
    else .enqueue .ipv4Forward b { ctx with transit := true }
  else if byteAt ip 9 = protoIcmp then .enqueue .icmpInput b ctx
  else if byteAt ip 9 = protoUdp then .enqueue .udpInput b ctx
  else if byteAt ip 9 = protoTcp then .enqueue .tcpInput b ctx
  else .drop .unsupportedProtocol false

def stripToIpv4 (b : Buffer) (ctx : PacketCtx) : Buffer × PacketCtx :=
  (b.adj ctx.l3Offset, { ctx with l4Offset := sub16 ctx.l4Offset ctx.l3Offset, l3Offset := 0 })

def withIpv4Cksum (ip : List Byte) : List Byte :=
  let ip := putBytes ip 10 [0, 0]
  putBytes ip 10 (cksumBytes (ipv4Cksum ip))

def icmpInput (b : Buffer) (ctx : PacketCtx) : Verdict :=
  let length := sub16 b.pktLen ctx.l4Offset
  let icmp := (b.data.drop ctx.l4Offset).take length
  if length < 8 ∨ rawCksum icmp ≠ 65535 ∨ byteAt icmp 1 ≠ 0 then .drop .invalidIcmp true
  else if byteAt icmp 0 ≠ 8 then .drop .unsupportedIcmp false
  else
    let ip := b.data.drop ctx.l3Offset
    let requester := wordAt ip 12
    let own := wordAt ip 16
    let (reason, route) := ipv4RouteQuery rt requester own netIifNone {}
    if reason ≠ .none then .drop reason false
    else if route.mtu < be16 ip 2 then .drop .mtu false
    else
      let reply := putBytes (putBytes icmp 0 [0]) 2 [0, 0]
      let reply := putBytes reply 2 (cksumBytes (65535 - rawCksum reply))
      let ip := putBytes (putBytes (putBytes ip 12 (wordBytes own ++ wordBytes requester)) 8 [64]) (ctx.l4Offset - ctx.l3Offset) reply
      let b := { b with data := b.data.take ctx.l3Offset ++ withIpv4Cksum ip }
      let ctx := { ctx with egressPortId := routePortId rt route, nextHop := route.nextHop }
      if ctx.egressPortId = ctx.ingressPortId ∧ ctx.nextHop = requester then
        let mac := ((netifById rt route.netifId).map PortState.mac).getD 0
        .enqueue .tx { b with data := putBytes b.data 0 (macBytes (macAt b.data 6) ++ macBytes mac) } ctx
      else
        let (b, ctx) := stripToIpv4 b ctx
        .enqueue .ethOutput b ctx

def ipv4Route (b : Buffer) (ctx : PacketCtx) : Verdict :=
  let (reason, route) := ipv4RouteQuery rt ctx.dstIp ctx.srcIp netIifNone {}
  if reason ≠ .none then .drop reason false
  else if ctx.ipProtocol ≠ protoUdp then .drop .unsupportedProtocol false
  else
    let src := if ctx.srcIp = 0 then route.sourceIp else ctx.srcIp
    .enqueue .udpOutput b { ctx with egressPortId := routePortId rt route, srcIp := src, nextHop := route.nextHop }

def udpOutput (b : Buffer) (ctx : PacketCtx) : Verdict :=
  let length := b.pktLen + udpHdrLen
  if 65535 - ipv4HdrLen < length then .drop .mtu false
  else
    let header (cksum : List Byte) := be16Bytes ctx.srcPort.toNat ++ be16Bytes ctx.dstPort.toNat ++ be16Bytes length ++ cksum
    let cksum := udptcpCksum ctx.srcIp ctx.dstIp protoUdp (header [0, 0] ++ b.data)
    match b.prepend (header (cksumBytes cksum)) with
    | none => .drop .noHeadroom true
    | some b => .enqueue .ipv4Output b { ctx with ipProtocol := protoUdp }

def ipv4Header (ctx : PacketCtx) (total id : ℕ) : List Byte :=
  withIpv4Cksum ([0x45, 0] ++ be16Bytes total ++ be16Bytes id ++ be16Bytes 0x4000 ++ [64, ctx.ipProtocol, 0, 0] ++
    wordBytes ctx.srcIp ++ wordBytes ctx.dstIp)

def ipv4Output (id : ℕ) (b : Buffer) (ctx : PacketCtx) : Verdict :=
  match egressPort rt ctx.egressPortId with
  | none => .drop .invalidEgress true
  | some port =>
    let total := b.pktLen + ipv4HdrLen
    if port.mtu < total ∨ 65535 < total then .drop .mtu false
    else
      match b.prepend (ipv4Header ctx total id) with
      | none => .drop .noHeadroom true
      | some b => .enqueue .ethOutput b { ctx with l3Offset := 0, l4Offset := ipv4HdrLen }

def arpRequestBytes (port : PortState) (ctx : PacketCtx) : List Byte :=
  macBytes broadcastMac ++ macBytes port.mac ++ be16Bytes etherTypeArp ++ be16Bytes 1 ++ be16Bytes etherTypeIpv4 ++
    [6, 4] ++ be16Bytes 1 ++ macBytes port.mac ++ wordBytes (netSource rt (BitVec.ofNat 32 port.id) ctx.nextHop) ++
    macBytes 0 ++ wordBytes ctx.nextHop

def arpOutput (b : Buffer) (ctx : PacketCtx) : Verdict :=
  match egressPort rt ctx.egressPortId with
  | none => .drop .invalidEgress true
  | some port =>
    match b.append (arpRequestBytes rt port ctx) with
    | none => .drop .noTailroom true
    | some b => .enqueue .tx b ctx

end PulsarNetstack
