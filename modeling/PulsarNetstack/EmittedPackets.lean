import PulsarNetstack.Checksums
import PulsarNetstack.PacketParsing

namespace PulsarNetstack

section Fields

variable {n i : ℕ} {pre rest : List Byte}

theorem cksumBytes_length (n : ℕ) : (cksumBytes n).length = 2 := rfl

theorem bytes_toNat (h : n < 65536) : (BitVec.ofNat 8 (n / 256)).toNat * 256 + (BitVec.ofNat 8 n).toNat = n := by
  rw [BitVec.toNat_ofNat, BitVec.toNat_ofNat]
  omega

theorem putBytes_middle {before old bytes after : List Byte} (hi : before.length = i) (h : bytes.length = old.length) :
    putBytes (before ++ old ++ after) i bytes = before ++ bytes ++ after := by
  rw [putBytes, List.append_assoc before old after, List.take_left' hi, ← List.append_assoc before old after]
  rw [List.drop_left' (by rw [List.length_append, hi, h])]

end Fields

section Ipv4

variable {rt : Routing} {ctx rctx : PacketCtx} {total id : ℕ} {pre l4 pad : List Byte} {b : Buffer}

def ipv4Start (ctx : PacketCtx) (total id : ℕ) : List Byte :=
  [0x45, 0] ++ be16Bytes total ++ be16Bytes id ++ be16Bytes 0x4000 ++ [64, ctx.ipProtocol]

def ipv4End (ctx : PacketCtx) : List Byte := wordBytes ctx.srcIp ++ wordBytes ctx.dstIp

theorem ipv4Header_eq (ctx : PacketCtx) (total id : ℕ) : ipv4Header ctx total id = ipv4Start ctx total id ++
    cksumBytes (65535 - rawCksum (ipv4Start ctx total id ++ [0, 0] ++ ipv4End ctx)) ++ ipv4End ctx := by
  have hstart : (ipv4Start ctx total id).length = 10 := rfl
  have hlength : (ipv4Start ctx total id ++ [0, 0] ++ ipv4End ctx).length = 20 := rfl
  have hbytes : ipv4Header ctx total id = withIpv4Cksum (ipv4Start ctx total id ++ [0, 0] ++ ipv4End ctx) := rfl
  have hversion : byteAt (ipv4Start ctx total id ++ [0, 0] ++ ipv4End ctx) 0 = 0x45 := rfl
  have hcksum : ipv4Cksum (ipv4Start ctx total id ++ [0, 0] ++ ipv4End ctx) =
      65535 - rawCksum (ipv4Start ctx total id ++ [0, 0] ++ ipv4End ctx) := by
    rw [ipv4Cksum, hversion, List.take_of_length_le (by rw [hlength]; decide)]
  rw [hbytes, withIpv4Cksum, putBytes_middle hstart rfl, hcksum]
  exact putBytes_middle hstart (cksumBytes_length _)

theorem ipv4Header_length (ctx : PacketCtx) (total id : ℕ) : (ipv4Header ctx total id).length = ipv4HdrLen := by
  rw [ipv4Header_eq]
  rfl

theorem ipv4Header_cksum (ctx : PacketCtx) (total id : ℕ) (rest : List Byte) :
    ipv4Cksum (ipv4Header ctx total id ++ rest) = 0 := by
  have hraw : rawCksum (ipv4Header ctx total id) = 65535 := by
    rw [ipv4Header_eq]
    have hlength : (ipv4Start ctx total id ++ [0, 0] ++ ipv4End ctx).length = 20 := rfl
    have hstart : (ipv4Start ctx total id).length = 10 := rfl
    apply rawCksum_stored
    · rw [hstart]
    · rw [hlength]
      decide
    · -- The first byte is not zero.
      change 0 < 0x45 + _ * 256 + _
      omega
  have hversion : byteAt (ipv4Header ctx total id ++ rest) 0 = 0x45 := by
    rw [ipv4Header_eq]
    rfl
  rw [ipv4Cksum, hversion]
  change 65535 - rawCksum ((ipv4Header ctx total id ++ rest).take ipv4HdrLen) = 0
  rw [List.take_left' (ipv4Header_length ctx total id), hraw]

def headerAccepted (rt : Routing) (ctx : PacketCtx) (src : Word) (total : ℕ) (accepted : Verdict) : Verdict :=
  match ingressPort rt ctx.ingressPortId with
  | none => .drop .portBinding true
  | some port =>
    if !validSourceIp rt port src ∨ netifIsLocalIp rt src then .drop .invalidSource true
    else if port.mtu < total then .drop .mtu false
    else accepted

structure Ipv4Framed (b : Buffer) (rctx ctx : PacketCtx) (id : ℕ) (pre l4 pad : List Byte) : Prop where
  data : b.data = pre ++ (ipv4Header ctx (l4.length + ipv4HdrLen) id ++ l4) ++ pad
  chain : b.chainLen = 0
  offset : rctx.l3Offset = pre.length
  total : l4.length + ipv4HdrLen < 65536

theorem Ipv4Framed.ip (h : Ipv4Framed b rctx ctx id pre l4 pad) :
    b.data.drop rctx.l3Offset = ipv4Header ctx (l4.length + ipv4HdrLen) id ++ (l4 ++ pad) := by
  rw [h.data, h.offset, List.append_assoc, List.drop_left, List.append_assoc]

theorem ipv4Header_fields (ctx : PacketCtx) {total : ℕ} (htotal : total < 65536) (id : ℕ) (rest : List Byte) :
    byteAt (ipv4Header ctx total id ++ rest) 0 = 0x45 ∧ be16 (ipv4Header ctx total id ++ rest) 2 = total ∧
      be16 (ipv4Header ctx total id ++ rest) 6 = 0x4000 ∧ byteAt (ipv4Header ctx total id ++ rest) 9 = ctx.ipProtocol ∧
      wordAt (ipv4Header ctx total id ++ rest) 12 = ctx.srcIp ∧ wordAt (ipv4Header ctx total id ++ rest) 16 = ctx.dstIp := by
  rw [ipv4Header_eq]
  refine ⟨rfl, ?_, ?_, rfl, ?_, ?_⟩
  · exact bytes_toNat htotal
  · exact bytes_toNat (n := 0x4000) (by decide)
  · exact wordAt_wordBytes ctx.srcIp []
  · exact wordAt_wordBytes ctx.dstIp []

theorem Ipv4Framed.ipv4Input (h : Ipv4Framed b rctx ctx id pre l4 pad) (rt : Routing) :
    ipv4Input rt b rctx = headerAccepted rt rctx ctx.srcIp (l4.length + ipv4HdrLen)
      (.enqueue .ipv4Acl
        { b with tailroom := b.tailroom + pad.length, data := pre ++ (ipv4Header ctx (l4.length + ipv4HdrLen) id ++ l4) }
        { rctx with l4Offset := pre.length + ipv4HdrLen, srcIp := ctx.srcIp, dstIp := ctx.dstIp
                    ipProtocol := ctx.ipProtocol }) := by
  obtain ⟨hversion, hlength, hfragment, hproto, hsrc, hdst⟩ := ipv4Header_fields ctx h.total id (l4 ++ pad)
  have hcksum := ipv4Header_cksum ctx (l4.length + ipv4HdrLen) id (l4 ++ pad)
  have hdata : b.data.length = pre.length + (l4.length + ipv4HdrLen) + pad.length := by
    rw [h.data]
    simp only [List.length_append, ipv4Header_length]
    omega
  have htrim : b.trim (b.pktLen - (pre.length + (l4.length + ipv4HdrLen))) =
      { b with tailroom := b.tailroom + pad.length
               data := pre ++ (ipv4Header ctx (l4.length + ipv4HdrLen) id ++ l4) } := by
    have hpad : b.pktLen - (pre.length + (l4.length + ipv4HdrLen)) = pad.length := by
      rw [Buffer.pktLen, h.chain, hdata]
      omega
    have htake : b.data.take (b.data.length - pad.length) =
        pre ++ (ipv4Header ctx (l4.length + ipv4HdrLen) id ++ l4) := by
      rw [hdata, h.data]
      apply List.take_left'
      simp only [List.length_append, ipv4Header_length]
      omega
    rw [hpad, Buffer.trim, if_neg (by omega), htake]
  have hbyte : (0x45 : Byte).toNat = 69 := rfl
  rw [PulsarNetstack.ipv4Input, headerAccepted]
  cases ingressPort rt rctx.ingressPortId with
  | none => rfl
  | some port =>
    dsimp only
    rw [h.ip, hversion, hlength, hfragment, hproto, hsrc, hdst, hcksum, h.offset, htrim, hbyte]
    rw [if_neg (by rw [hdata]; omega), if_neg (by rw [hdata]; unfold ipv4HdrLen; omega)]
    rfl

structure Ipv4Delivered (p : Packet) (ctx : PacketCtx) (id : ℕ) (pre l4 : List Byte) : Prop where
  data : p.1.buffer.data = pre ++ (ipv4Header ctx (l4.length + ipv4HdrLen) id ++ l4)
  chain : p.1.buffer.chainLen = 0
  l3Offset : p.2.l3Offset = pre.length
  l4Offset : p.2.l4Offset = pre.length + ipv4HdrLen
  srcIp : p.2.srcIp = ctx.srcIp
  dstIp : p.2.dstIp = ctx.dstIp
  total : l4.length + ipv4HdrLen < 65536

variable {p : Packet}

theorem Ipv4Delivered.ip (h : Ipv4Delivered p ctx id pre l4) :
    p.1.buffer.data.drop p.2.l3Offset = ipv4Header ctx (l4.length + ipv4HdrLen) id ++ l4 := by
  rw [h.data, h.l3Offset, List.drop_left]

theorem Ipv4Delivered.payload (h : Ipv4Delivered p ctx id pre l4) : p.1.buffer.data.drop p.2.l4Offset = l4 := by
  rw [h.data, h.l4Offset, ← List.drop_drop, List.drop_left, List.drop_left' (ipv4Header_length _ _ _)]

theorem Ipv4Delivered.available (h : Ipv4Delivered p ctx id pre l4) : sub16 p.1.buffer.pktLen p.2.l4Offset = l4.length := by
  have hlength : p.1.buffer.pktLen = pre.length + ipv4HdrLen + l4.length := by
    rw [Buffer.pktLen, h.chain, h.data]
    simp only [List.length_append, ipv4Header_length]
    omega
  have htotal := h.total
  rw [hlength, h.l4Offset, sub16]
  omega

theorem ipv4Output_enqueue {b' : Buffer} {ctx' : PacketCtx} {n : NodeId} (hchain : b.chainLen = 0)
    (h : ipv4Output rt id b ctx = .enqueue n b' ctx') :
    b'.data = ipv4Header ctx (b.data.length + ipv4HdrLen) id ++ b.data ∧ b.data.length + ipv4HdrLen < 65536 := by
  have hlength : b.pktLen = b.data.length := by rw [Buffer.pktLen, hchain, Nat.add_zero]
  rw [ipv4Output] at h
  split at h
  · cases h
  · dsimp only at h
    split at h
    · cases h
    · rename_i hmtu
      split at h
      · cases h
      · rename_i b₁ hprepend
        obtain ⟨-, rfl, -⟩ := Verdict.enqueue.inj h
        rw [Buffer.prepend] at hprepend
        split at hprepend
        · cases hprepend
        · rw [hlength] at hprepend hmtu
          rw [← Option.some.inj hprepend]
          exact ⟨rfl, by omega⟩

end Ipv4

theorem forM_singleton {α : Type} (a : α) (f : α → GraphM PUnit) : [a].forM f = f a := by
  change (do let _ ← f a; pure PUnit.unit) = f a
  exact bind_pure_unit

section Udp

variable {rt : Routing} {ctx : PacketCtx} {id : ℕ} {pre payload : List Byte} {b b' : Buffer} {p : Packet}

def udpStart (ctx : PacketCtx) (length : ℕ) : List Byte :=
  be16Bytes ctx.srcPort.toNat ++ be16Bytes ctx.dstPort.toNat ++ be16Bytes length

def udpDatagram (ctx : PacketCtx) (payload : List Byte) : List Byte :=
  let start := udpStart ctx (payload.length + udpHdrLen)
  start ++ cksumBytes (udptcpCksum ctx.srcIp ctx.dstIp protoUdp (start ++ [0, 0] ++ payload)) ++ payload

theorem udpDatagram_length (ctx : PacketCtx) (payload : List Byte) :
    (udpDatagram ctx payload).length = payload.length + udpHdrLen := by
  rw [udpDatagram, List.length_append, Nat.add_comm]
  rfl

theorem udpLength_delivered (hproto : ctx.ipProtocol = protoUdp) (h : Ipv4Delivered p ctx id pre (udpDatagram ctx payload)) :
    udpLength p.1.buffer p.2 = .ok (payload.length + udpHdrLen) := by
  have hlength := udpDatagram_length ctx payload
  have hsmall : (udpDatagram ctx payload).length < 65536 := by
    have := h.total
    omega
  have hfield : be16 (udpDatagram ctx payload) 4 = payload.length + udpHdrLen := by
    rw [← hlength]
    exact bytes_toNat hsmall
  obtain ⟨-, -, -, hp, hsrc, hdst⟩ := ipv4Header_fields ctx h.total id (udpDatagram ctx payload)
  have hsum : cksumFold (cksumFold (rawCksum (udpDatagram ctx payload) +
      phdrCksum ctx.srcIp ctx.dstIp protoUdp (udpDatagram ctx payload).length)) = 65535 := by
    have hstart : (udpStart ctx (payload.length + udpHdrLen)).length = 6 := rfl
    have hcleared : (udpStart ctx (payload.length + udpHdrLen) ++ [0, 0] ++ payload).length < 65536 := by
      rw [List.length_append, List.length_append, hstart]
      unfold udpHdrLen at hlength
      change 6 + 2 + _ < _
      omega
    have hstored := segmentSum_stored ctx.srcIp ctx.dstIp (by rw [hstart]) hcleared (by decide : protoUdp ≠ 0)
    exact (segment_refold hsmall).eq_ones hstored.1 hstored.2
  rw [udpLength, h.available, h.payload, h.ip, hfield, hp, hsrc, hdst, hproto, ← hlength, List.take_length]
  dsimp only
  rw [hsum, if_neg (by omega), if_neg (by omega), if_neg (fun hc => hc.2 rfl)]

def deliverDatagram (submit : Submit) (p : Packet) (dstIp : Word) (dstPort : Word16) (source : SockAddr)
    (payload : List Byte) : GraphM PUnit := do
  let rt ← get
  let (sockets, result) := udpDeliver rt.sockets dstIp dstPort source payload
  set { rt with sockets := sockets }
  match result with
  | .ok _ => freeMbuf p.1 .consumed
  | .error .enoent =>
    let now ← timerCycles
    icmpSendError submit p.1.buffer p.2 3 3 0 now
    graphDrop .udpInput p .udpUnboundPort false
  | .error .enobufs => graphDrop .udpInput p .udpRxQueueFull false
  | .error _ => graphDrop .udpInput p .mtu false

theorem udpInputNodeRun_delivered (submit : Submit) (hproto : ctx.ipProtocol = protoUdp)
    (h : Ipv4Delivered p ctx id pre (udpDatagram ctx payload)) :
    udpInputNodeRun submit [p] =
      deliverDatagram submit p ctx.dstIp ctx.dstPort ⟨ctx.srcIp, ctx.srcPort⟩ payload := by
  obtain ⟨-, -, -, -, hsrc, hdst⟩ := ipv4Header_fields ctx h.total id (udpDatagram ctx payload)
  have hlength := udpDatagram_length ctx payload
  have hports : be16 (udpDatagram ctx payload) 0 = ctx.srcPort.toNat ∧ be16 (udpDatagram ctx payload) 2 = ctx.dstPort.toNat :=
    ⟨bytes_toNat ctx.srcPort.isLt, bytes_toNat ctx.dstPort.isLt⟩
  have hpayload : (udpDatagram ctx payload).drop udpHdrLen = payload := List.drop_left' rfl
  rw [udpInputNodeRun, forM_singleton]
  rw [udpLength_delivered hproto h, h.payload, h.ip]
  dsimp only
  rw [hsrc, hdst, hports.1, hports.2, ← hlength, List.take_length, hpayload, BitVec.ofNat_toNat, BitVec.ofNat_toNat,
    BitVec.setWidth_eq, BitVec.setWidth_eq]
  rfl

end Udp

end PulsarNetstack
