import PulsarNetstack.CheckedAccess
import PulsarNetstack.RouteDevices

namespace PulsarNetstack

open Checked

section Loads

variable {α β : Type} {b : Buffer} {base i n : ℕ}

def load (b : Buffer) (base i n : ℕ) (field : List Byte → ℕ → α) : Checked α := do
  access b.data.length (base + i) n
  .ok (field (b.data.drop base) i)

def loadBytes (b : Buffer) (base n : ℕ) : Checked (List Byte) := do
  access b.data.length base n
  .ok ((b.data.drop base).take n)

theorem load_bind {field : List Byte → ℕ → α} (h : base + i + n ≤ b.data.length) (k : α → Checked β) :
    (load b base i n field >>= k) = k (field (b.data.drop base) i) := by
  rw [load, access_bind h]
  rfl

theorem loadBytes_bind (h : base + n ≤ b.data.length) (k : List Byte → Checked β) :
    (loadBytes b base n >>= k) = k ((b.data.drop base).take n) := by
  rw [loadBytes, access_bind h]
  rfl

end Loads

section Nodes

variable (rt : Routing) (b : Buffer) (ctx : PacketCtx)

def ethInputChecked : Checked Verdict :=
  match ingressPort rt ctx.ingressPortId with
  | none => .ok (.drop .portBinding true)
  | some port =>
    if !b.isContiguous ∨ !b.direct ∨ b.refcnt ≠ 1 then .ok (.drop .noncontiguous true)
    else if b.data.length < etherHdrLen then .ok (.drop .truncatedEth true)
    else do
      let src ← load b 0 6 6 macAt
      if !validAssignedEtherAddr src ∨ src = port.mac then .ok (.drop .invalidSource true)
      else do
        let type ← load b 0 12 2 be16
        let dst ← load b 0 0 6 macAt
        if dst ≠ port.mac ∧ ¬ (type = etherTypeArp ∧ dst = broadcastMac) then .ok (.drop .notLocal false)
        else
          let ctx := { ctx with l3Offset := etherHdrLen }
          .ok (if type = etherTypeArp then .enqueue .arpInput b ctx
            else if type = etherTypeIpv4 then .enqueue .ipv4Input b ctx
            else .drop .unsupportedEthertype false)

def arpRefusedChecked (port : PortState) : Checked (Option (DropReason × Bool)) :=
  if b.data.length < ctx.l3Offset + arpHdrLen then .ok (some (.invalidArp, true))
  else do
    let hardware ← load b ctx.l3Offset 0 2 be16
    let protocol ← load b ctx.l3Offset 2 2 be16
    let hlen ← load b ctx.l3Offset 4 1 byteAt
    let plen ← load b ctx.l3Offset 5 1 byteAt
    let source ← load b 0 6 6 macAt
    let sha ← load b ctx.l3Offset 8 6 macAt
    let opcode ← load b ctx.l3Offset 6 2 be16
    let sip ← load b ctx.l3Offset 14 4 wordAt
    if hardware ≠ 1 ∨ protocol ≠ etherTypeIpv4 ∨ hlen ≠ 6 ∨ plen ≠ 4 ∨ source ≠ sha ∨ (opcode ≠ 1 ∧ opcode ≠ 2) ∨
        (sip ≠ 0 ∧ !validSourceIp rt port sip) then .ok (some (.invalidArp, true))
    else do
      let tip ← load b ctx.l3Offset 24 4 wordAt
      if !netAddressOn rt (BitVec.ofNat 32 port.id) tip then .ok (some (.notLocal, false))
      else do
        let tha ← load b ctx.l3Offset 18 6 macAt
        .ok (if opcode = 2 ∧ tha ≠ port.mac then some (.invalidArp, true) else none)

def arpReplyChecked (port : PortState) : Checked Buffer := do
  let sha ← load b ctx.l3Offset 8 6 macAt
  let sip ← load b ctx.l3Offset 14 4 wordAt
  let tip ← load b ctx.l3Offset 24 4 wordAt
  access b.data.length 0 12
  access b.data.length (ctx.l3Offset + 6) 22
  let reply := be16Bytes 2 ++ macBytes port.mac ++ wordBytes tip ++ macBytes sha ++ wordBytes sip
  let data := putBytes (putBytes b.data 0 (macBytes sha ++ macBytes port.mac)) (ctx.l3Offset + 6) reply
  let padding ← sub 65536 b.pktLen (ctx.l3Offset + arpHdrLen)
  access b.data.length 0 padding
  .ok ({ b with data := data }.trim padding)

def ipv4InputChecked : Checked Verdict :=
  match ingressPort rt ctx.ingressPortId with
  | none => .ok (.drop .portBinding true)
  | some port =>
    if b.data.length < ctx.l3Offset + ipv4HdrLen then .ok (.drop .invalidIpv4 true)
    else do
      let first ← load b ctx.l3Offset 0 1 byteAt
      let ihl := first.toNat % 16 * 4
      let total ← load b ctx.l3Offset 2 2 be16
      if first.toNat / 16 ≠ 4 ∨ ihl < ipv4HdrLen ∨ total < ihl ∨ b.data.length < ctx.l3Offset + total then
        .ok (.drop .invalidIpv4 true)
      else do
        -- `rte_ipv4_cksum` goes over the header with its options.
        let header ← loadBytes b ctx.l3Offset ihl
        let fragment ← load b ctx.l3Offset 6 2 be16
        if 65535 - rawCksum header ≠ 0 ∨ 0x8000 ≤ fragment then .ok (.drop .invalidIpv4 true)
        else do
          let src ← load b ctx.l3Offset 12 4 wordAt
          if !validSourceIp rt port src ∨ netifIsLocalIp rt src then .ok (.drop .invalidSource true)
          else if port.mtu < total then .ok (.drop .mtu false)
          else if fragment % 0x4000 ≠ 0 then .ok (.drop .ipv4Fragment false)
          else if ihl ≠ ipv4HdrLen then .ok (.drop .ipv4Options false)
          else do
            let dst ← load b ctx.l3Offset 16 4 wordAt
            let protocol ← load b ctx.l3Offset 9 1 byteAt
            let padding ← sub 65536 b.pktLen (ctx.l3Offset + total)
            access b.data.length 0 padding
            .ok (.enqueue .ipv4Acl (b.trim padding)
              { ctx with l4Offset := ctx.l3Offset + ihl, srcIp := src, dstIp := dst, ipProtocol := protocol })

def aclKeyChecked : Checked (AclKey × ℕ) := do
  let port ← deref (netifByDpdkPort rt ctx.ingressPortId)
  let total ← load b ctx.l3Offset 2 2 be16
  let length ← sub 65536 total ipv4HdrLen
  let key (valid : Bool) (sport dport : ℕ) : AclKey :=
    { src := ctx.srcIp, dst := ctx.dstIp, iif := BitVec.ofNat 32 port.id, proto := ctx.ipProtocol, portsValid := valid,
      sport := sport, dport := dport }
  if (ctx.ipProtocol == protoUdp && decide (8 ≤ length)) || (ctx.ipProtocol == protoTcp && decide (20 ≤ length)) then do
    let sport ← load b (ctx.l3Offset + ipv4HdrLen) 0 2 be16
    let dport ← load b (ctx.l3Offset + ipv4HdrLen) 2 2 be16
    .ok (key true sport dport, total)
  else .ok (key false 0 0, total)

def ipv4AclChecked (forwarding : Bool) : Checked Verdict := do
  let dst ← load b ctx.l3Offset 16 4 wordAt
  if !netifIsLocalIp rt dst then
    if !forwarding then .ok (.drop .forwardingDisabled false)
    else do
      let src ← load b ctx.l3Offset 12 4 wordAt
      .ok (if !ipv4DestinationValid rt src ∨ htonl src >>> 16 = 0xa9fe then .drop .invalidSource false
        else if !ipv4DestinationValid rt dst ∨ htonl dst >>> 16 = 0xa9fe then .drop .invalidDestination false
        else .enqueue .ipv4Forward b { ctx with transit := true })
  else do
    let protocol ← load b ctx.l3Offset 9 1 byteAt
    .ok (if protocol = protoIcmp then .enqueue .icmpInput b ctx
      else if protocol = protoUdp then .enqueue .udpInput b ctx
      else if protocol = protoTcp then .enqueue .tcpInput b ctx
      else .drop .unsupportedProtocol false)

def ipv4Forward : Option (Byte × Byte × ℕ) × Verdict :=
  let ip := b.data.drop ctx.l3Offset
  if (byteAt ip 8).toNat ≤ 1 then (some (11, 0, 0), .drop .ttlExpired false)
  else
    let found := ipv4RouteQuery rt (wordAt ip 16) (wordAt ip 12) (ingressId rt ctx.ingressPortId) {}
    if found.1 ≠ .none then ((forwardError found.1).map fun code => (3, code, 0), .drop found.1 false)
    else if found.2.mtu < be16 ip 2 then
      (if be16 ip 6 / 0x4000 % 2 = 1 then some (3, 4, found.2.mtu) else none, .drop .mtu false)
    else
      let header := withIpv4Cksum (putBytes ip 8 [byteAt ip 8 - 1])
      let stripped := stripToIpv4 { b with data := b.data.take ctx.l3Offset ++ header }
        { ctx with egressPortId := routePortId rt found.2, nextHop := found.2.nextHop }
      (none, .enqueue .ethOutput stripped.1 stripped.2)

def ipv4ForwardChecked : Checked (Option (Byte × Byte × ℕ) × Verdict) := do
  let ip := b.data.drop ctx.l3Offset
  let ttl ← load b ctx.l3Offset 8 1 byteAt
  if ttl.toNat ≤ 1 then .ok (some (11, 0, 0), .drop .ttlExpired false)
  else do
    let dst ← load b ctx.l3Offset 16 4 wordAt
    let src ← load b ctx.l3Offset 12 4 wordAt
    let ingress ← deref (netifByDpdkPort rt ctx.ingressPortId)
    let found := ipv4RouteQuery rt dst src (BitVec.ofNat 32 ingress.id) {}
    if found.1 ≠ .none then .ok ((forwardError found.1).map fun code => (3, code, 0), .drop found.1 false)
    else do
      let total ← load b ctx.l3Offset 2 2 be16
      if found.2.mtu < total then do
        let fragment ← load b ctx.l3Offset 6 2 be16
        .ok (if fragment / 0x4000 % 2 = 1 then some (3, 4, found.2.mtu) else none, .drop .mtu false)
      else do
        -- The time to live and the checksum are written, the checksum over the header as long as it says it is.
        access b.data.length ctx.l3Offset ipv4HdrLen
        let first ← load b ctx.l3Offset 0 1 byteAt
        access b.data.length ctx.l3Offset (first.toNat % 16 * 4)
        let egress ← deref (netifById rt found.2.netifId)
        access b.data.length 0 ctx.l3Offset
        let l4Offset ← sub 65536 ctx.l4Offset ctx.l3Offset
        let data := b.data.take ctx.l3Offset ++ withIpv4Cksum (putBytes ip 8 [ttl - 1])
        .ok (none, .enqueue .ethOutput (Buffer.adj { b with data := data } ctx.l3Offset)
          { ctx with egressPortId := egress.portId, nextHop := found.2.nextHop, l4Offset := l4Offset, l3Offset := 0 })

def icmpInputChecked : Checked Verdict := do
  let length ← sub 65536 b.pktLen ctx.l4Offset
  if length < 8 then .ok (.drop .invalidIcmp true)
  else do
    let icmp ← loadBytes b ctx.l4Offset length
    let code ← load b ctx.l4Offset 1 1 byteAt
    if rawCksum icmp ≠ 65535 ∨ code ≠ 0 then .ok (.drop .invalidIcmp true)
    else do
      let type ← load b ctx.l4Offset 0 1 byteAt
      if type ≠ 8 then .ok (.drop .unsupportedIcmp false)
      else do
        let requester ← load b ctx.l3Offset 12 4 wordAt
        let own ← load b ctx.l3Offset 16 4 wordAt
        let found := ipv4RouteQuery rt requester own netIifNone {}
        if found.1 ≠ .none then .ok (.drop found.1 false)
        else do
          let total ← load b ctx.l3Offset 2 2 be16
          if found.2.mtu < total then .ok (.drop .mtu false)
          else do
            -- Both headers are written, each with a checksum over its own length.
            access b.data.length ctx.l3Offset ipv4HdrLen
            let first ← load b ctx.l3Offset 0 1 byteAt
            access b.data.length ctx.l3Offset (first.toNat % 16 * 4)
            access b.data.length ctx.l4Offset length
            let hlen ← sub 65536 ctx.l4Offset ctx.l3Offset
            let reply := putBytes (putBytes icmp 0 [0]) 2 [0, 0]
            let reply := putBytes reply 2 (cksumBytes (65535 - rawCksum reply))
            let ip := putBytes (putBytes (b.data.drop ctx.l3Offset) 12 (wordBytes own ++ wordBytes requester)) 8 [64]
            let data := b.data.take ctx.l3Offset ++ withIpv4Cksum (putBytes ip hlen reply)
            let egress ← deref (netifById rt found.2.netifId)
            let ctx := { ctx with egressPortId := egress.portId, nextHop := found.2.nextHop }
            if ctx.egressPortId = ctx.ingressPortId ∧ ctx.nextHop = requester then do
              access b.data.length 0 12
              .ok (.enqueue .tx { b with data := putBytes data 0 (macBytes (macAt data 6) ++ macBytes egress.mac) } ctx)
            else do
              access b.data.length 0 ctx.l3Offset
              .ok (.enqueue .ethOutput (Buffer.adj { b with data := data } ctx.l3Offset)
                { ctx with l4Offset := hlen, l3Offset := 0 })

end Nodes

section Transports

variable (b : Buffer) (ctx : PacketCtx)

def udpLengthChecked : Checked (Except DropReason ℕ) := do
  let available ← sub 65536 b.pktLen ctx.l4Offset
  if available < udpHdrLen then .ok (.error .invalidUdp)
  else do
    let length ← load b ctx.l4Offset 4 2 be16
    if length < udpHdrLen ∨ available < length then .ok (.error .udpBadLength)
    else do
      -- The whole header is copied for the pseudo header.
      access b.data.length ctx.l3Offset ipv4HdrLen
      let src ← load b ctx.l3Offset 12 4 wordAt
      let dst ← load b ctx.l3Offset 16 4 wordAt
      let protocol ← load b ctx.l3Offset 9 1 byteAt
      let datagram ← loadBytes b ctx.l4Offset length
      let cksum ← load b ctx.l4Offset 6 2 be16
      let sum := rawCksum datagram + phdrCksum src dst protocol length
      .ok (if cksum ≠ 0 ∧ cksumFold (cksumFold sum) ≠ 65535 then .error .udpBadChecksum else .ok length)

structure UdpInput where
  localIp : Word
  port : Word16
  source : SockAddr
  payload : List Byte

def udpInput (length : ℕ) : UdpInput :=
  let udp := b.data.drop ctx.l4Offset
  let ip := b.data.drop ctx.l3Offset
  { localIp := wordAt ip 16, port := BitVec.ofNat 16 (be16 udp 2),
    source := ⟨wordAt ip 12, BitVec.ofNat 16 (be16 udp 0)⟩, payload := (udp.take length).drop udpHdrLen }

def udpInputChecked (length : ℕ) : Checked UdpInput := do
  let src ← load b ctx.l3Offset 12 4 wordAt
  let sport ← load b ctx.l4Offset 0 2 be16
  let dst ← load b ctx.l3Offset 16 4 wordAt
  let dport ← load b ctx.l4Offset 2 2 be16
  let size ← sub 65536 length udpHdrLen
  let payload ← loadBytes b (ctx.l4Offset + udpHdrLen) size
  .ok { localIp := dst, port := BitVec.ofNat 16 dport, source := ⟨src, BitVec.ofNat 16 sport⟩, payload := payload }

def tcpOptionsChecked (base headerLen : ℕ) (syn : Bool) (offset mss : ℕ) : Checked (Option ℕ) :=
  if offset < headerLen then do
    let kind ← load b base offset 1 byteAt
    if kind = 0 then .ok (some mss)
    else if kind = 1 then tcpOptionsChecked base headerLen syn (offset + 1) mss
    else do
      let room ← sub 65536 headerLen offset
      if room < 2 then .ok none
      else do
        let size ← load b base (offset + 1) 1 byteAt
        if size.toNat < 2 ∨ room < size.toNat ∨ (kind = 2 ∧ size ≠ 4) then .ok none
        else if kind = 2 ∧ size = 4 ∧ syn = true then do
          let value ← load b base (offset + 2) 2 be16
          tcpOptionsChecked base headerLen syn (offset + size.toNat) (if value ≠ 0 then value else mss)
        else tcpOptionsChecked base headerLen syn (offset + size.toNat) mss
  else .ok (some mss)
termination_by headerLen - offset
decreasing_by all_goals omega

def tcpSegment : Except DropReason (TcpHeader × List Byte) :=
  let length := sub16 b.pktLen ctx.l4Offset
  let tcp := (b.data.drop ctx.l4Offset).take length
  let headerLen := (byteAt tcp 12).toNat / 16 * 4
  let ip := b.data.drop ctx.l3Offset
  if length < 20 ∨ headerLen < 20 ∨ length < headerLen ∨ tcpFlagsInvalid (byteAt tcp 13) then .error .invalidTcp
  else if udptcpCksum (wordAt ip 12) (wordAt ip 16) protoTcp tcp ≠ 0 then .error .tcpBadChecksum
  else .ok (tcpHeaderAt tcp headerLen, tcp.drop headerLen)

def tcpSegmentChecked : Checked (Except DropReason (TcpHeader × Option ℕ × ℕ)) := do
  let length ← sub 65536 b.pktLen ctx.l4Offset
  if length < 20 then .ok (.error .invalidTcp)
  else do
    let first ← load b ctx.l4Offset 12 1 byteAt
    let headerLen := first.toNat / 16 * 4
    let flags ← load b ctx.l4Offset 13 1 byteAt
    if headerLen < 20 ∨ length < headerLen ∨ tcpFlagsInvalid flags then .ok (.error .invalidTcp)
    else do
      -- `rte_ipv4_udptcp_cksum` takes the length of the segment from the IPv4 header.
      let total ← load b ctx.l3Offset 2 2 be16
      let version ← load b ctx.l3Offset 0 1 byteAt
      let l4Len ← sub 65536 total (version.toNat % 16 * 4)
      let src ← load b ctx.l3Offset 12 4 wordAt
      let dst ← load b ctx.l3Offset 16 4 wordAt
      let segment ← loadBytes b ctx.l4Offset l4Len
      if udptcpCksum src dst protoTcp segment ≠ 0 then .ok (.error .tcpBadChecksum)
      else do
        let mss ← tcpOptionsChecked b ctx.l4Offset headerLen (flag flags synFlag) 20 536
        let sport ← load b ctx.l4Offset 0 2 be16
        let dport ← load b ctx.l4Offset 2 2 be16
        let seq ← load b ctx.l4Offset 4 4 be32
        let ack ← load b ctx.l4Offset 8 4 be32
        let window ← load b ctx.l4Offset 14 2 be16
        -- The header of the model keeps its options.
        let options ← loadBytes b (ctx.l4Offset + 20) (headerLen - 20)
        let size ← sub 65536 length headerLen
        let header : TcpHeader :=
          { srcPort := BitVec.ofNat 16 sport, dstPort := BitVec.ofNat 16 dport, seq := BitVec.ofNat 32 seq,
            ack := BitVec.ofNat 32 ack, flags := flags, window := window, options := options }
        .ok (.ok (header, mss, size))

def tcpPayloadChecked (header : TcpHeader) (size rxLen : ℕ) : Checked (List Byte) := do
  let room ← sub 65536 tcpBufferSize rxLen
  loadBytes b (ctx.l4Offset + (20 + header.options.length)) (min size room)

end Transports

section Errors

variable (rt : Routing) (b : Buffer) (ctx : PacketCtx)

def icmpErrorSuppressedChecked : Checked Bool :=
  if !b.isContiguous || decide (b.data.length < ctx.l3Offset + ipv4HdrLen) then .ok true
  else do
    let first ← load b ctx.l3Offset 0 1 byteAt
    let ihl := first.toNat % 16 * 4
    let total ← load b ctx.l3Offset 2 2 be16
    if first.toNat / 16 != 4 || decide (ihl < ipv4HdrLen) || decide (total < ihl) ||
        decide (b.data.length < ctx.l3Offset + total) then .ok true
    else do
      let header ← loadBytes b ctx.l3Offset ihl
      let src ← load b ctx.l3Offset 12 4 wordAt
      let dst ← load b ctx.l3Offset 16 4 wordAt
      let fragment ← load b ctx.l3Offset 6 2 be16
      if 65535 - rawCksum header != 0 || !ipv4DestinationValid rt src ||
          (!netifIsLocalIp rt dst && !ipv4DestinationValid rt dst) || fragment % 0x2000 != 0 then .ok true
      else do
        let group ← (if etherHdrLen ≤ ctx.l3Offset then do
            let mac ← load b 0 0 6 macAt
            .ok (mac.getLsbD 40)
          else .ok false : Checked Bool)
        if group then .ok true
        else do
          let protocol ← load b ctx.l3Offset 9 1 byteAt
          if protocol ≠ protoIcmp then .ok false
          else do
            let length ← sub 65536 total ihl
            if length < 8 then .ok true
            else do
              let type ← load b ctx.l3Offset ihl 1 byteAt
              .ok (type.toNat == 3 || type.toNat == 4 || type.toNat == 5 || type.toNat == 11 || type.toNat == 12)

def icmpErrorMessage (type code : Byte) (mtu : ℕ) : Option (List Byte × PacketCtx) :=
  let ip := b.data.drop ctx.l3Offset
  let ihl := (byteAt ip 0).toNat % 16 * 4
  let total := be16 ip 2
  let src := wordAt ip 12
  let dst := wordAt ip 16
  let own := netifIsLocalIp rt dst
  let found := ipv4RouteQuery rt src (if own then dst else 0) netIifNone {}
  if found.1 ≠ .none ∨ found.2.mtu < ipv4HdrLen + 8 + ihl + min (total - ihl) 8 then none
  else
    let quote := min total (min found.2.mtu 576 - ipv4HdrLen - 8)
    some (icmpErrorBytes ip type code mtu quote,
      { egressPortId := routePortId rt found.2, srcIp := if own then dst else found.2.sourceIp, dstIp := src,
        nextHop := found.2.nextHop, ipProtocol := protoIcmp })

def icmpErrorMessageChecked (type code : Byte) (mtu : ℕ) : Checked (Option (List Byte × PacketCtx)) := do
  let first ← load b ctx.l3Offset 0 1 byteAt
  let ihl := first.toNat % 16 * 4
  let total ← load b ctx.l3Offset 2 2 be16
  let src ← load b ctx.l3Offset 12 4 wordAt
  let dst ← load b ctx.l3Offset 16 4 wordAt
  let own := netifIsLocalIp rt dst
  let found := ipv4RouteQuery rt src (if own then dst else 0) netIifNone {}
  let length ← sub 65536 total ihl
  if found.1 ≠ .none ∨ found.2.mtu < ipv4HdrLen + 8 + ihl + min length 8 then .ok none
  else do
    let limit ← sub 65536 (min found.2.mtu 576) (ipv4HdrLen + 8)
    let quote := min total limit
    let quoted ← loadBytes b ctx.l3Offset quote
    let egress ← deref (netifById rt found.2.netifId)
    .ok (some (icmpErrorBytes quoted type code mtu quote,
      { egressPortId := egress.portId, srcIp := if own then dst else found.2.sourceIp, dstIp := src,
        nextHop := found.2.nextHop, ipProtocol := protoIcmp }))

end Errors

section Programs

variable (submit : Submit)

def icmpErrorProgram (b : Buffer) (ctx : PacketCtx) (type code : Byte) (mtu now : ℕ) : GraphM PUnit := do
  let rt ← get
  if icmpErrorSuppressed rt.routing b ctx then modifyIcmp fun s => { s with suppressed := s.suppressed + 1 }
  else
    let granted := takeToken rt.world.hz rt.icmpErrors now
    modifyIcmp fun _ => granted.1
    if !granted.2 then modifyIcmp fun s => { s with rateLimited := s.rateLimited + 1 }
    else
      match icmpErrorMessage rt.routing b ctx type code mtu with
      | none => modifyIcmp fun s => { s with failed := s.failed + 1 }
      | some (bytes, response) =>
        sendNew submit bytes response
          (modifyIcmp fun s => { s with generated := s.generated + 1 }) (modifyIcmp fun s => { s with failed := s.failed + 1 })

theorem icmpSendError_eq (b : Buffer) (ctx : PacketCtx) (type code : Byte) (mtu now : ℕ) :
    icmpSendError submit b ctx type code mtu now = icmpErrorProgram submit b ctx type code mtu now := by
  unfold icmpSendError icmpErrorProgram
  apply bind_congr
  intro rt
  -- The kernel would otherwise compute with the 64-bit times.
  generalize takeToken rt.world.hz rt.icmpErrors now = token
  obtain ⟨state, granted⟩ := token
  unfold icmpErrorMessage
  refine ite_congr rfl (fun _ => rfl) fun _ => ?_
  apply bind_congr
  intro _
  refine ite_congr rfl (fun _ => rfl) fun _ => ?_
  dsimp only
  generalize netifIsLocalIp rt.routing (wordAt (b.data.drop ctx.l3Offset) 16) = own
  generalize ipv4RouteQuery rt.routing _ _ _ _ = found
  split
  · rfl
  · rfl

def ipv4ForwardProgram (p : Packet) : GraphM PUnit := do
  let rt ← get
  let outcome := ipv4Forward rt.routing p.1.buffer p.2
  if let some (type, code, mtu) := outcome.1 then
    let now ← timerCycles
    icmpSendError submit p.1.buffer p.2 type code mtu now
  settle .ipv4Forward p outcome.2

theorem ipv4ForwardNodeRun_eq (frame : Frame) : ipv4ForwardNodeRun submit frame = frame.forM (ipv4ForwardProgram submit) := by
  unfold ipv4ForwardNodeRun
  congr 1
  funext p
  unfold ipv4ForwardProgram ipv4Forward
  apply bind_congr
  intro rt
  dsimp only
  generalize ipv4RouteQuery rt.routing _ _ _ _ = found
  split
  · rfl
  split
  · dsimp only
    cases forwardError found.1 with
    | none => rfl
    | some code => rfl
  split
  · dsimp only
    split
    · rfl
    · rfl
  · rfl

end Programs

end PulsarNetstack
