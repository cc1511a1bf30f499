import PulsarNetstack.PacketFlow

namespace PulsarNetstack

section Bytes

variable {data : List Byte} {n k i : ℕ}

theorem byteAt_take (h : i < n) : byteAt (data.take n) i = byteAt data i := by
  rw [byteAt, byteAt, List.getD_eq_getElem?_getD, List.getD_eq_getElem?_getD, List.getElem?_take_of_lt h]

theorem be16_take (h : i + 1 < n) : be16 (data.take n) i = be16 data i := by
  rw [be16, be16, byteAt_take h, byteAt_take (Nat.lt_of_succ_lt h)]

theorem wordAt_take (h : i + 3 < n) : wordAt (data.take n) i = wordAt data i := by
  rw [wordAt, wordAt, byteAt_take h, byteAt_take (by omega), byteAt_take (by omega), byteAt_take (by omega)]

theorem be16_lt (data : List Byte) (i : ℕ) : be16 data i < 65536 := by
  have h0 := (byteAt data i).isLt
  have h1 := (byteAt data (i + 1)).isLt
  rw [be16]
  omega

end Bytes

def ipHeader (p : Packet) : List Byte := p.1.buffer.data.drop p.2.l3Offset

structure EthFrame (r : Routing) (p : Packet) : Prop where
  ingress : (netifByDpdkPort r p.2.ingressPortId).isSome = true
  chain : p.1.buffer.chainLen = 0
  l3Offset : p.2.l3Offset = etherHdrLen
  length : etherHdrLen ≤ p.1.buffer.data.length

structure IpPacket (r : Routing) (p : Packet) : Prop extends EthFrame r p where
  l4Offset : p.2.l4Offset = etherHdrLen + ipv4HdrLen
  version : (byteAt (ipHeader p) 0).toNat / 16 = 4
  headerLen : (byteAt (ipHeader p) 0).toNat % 16 * 4 = ipv4HdrLen
  total : ipv4HdrLen ≤ be16 (ipHeader p) 2
  dataLen : p.1.buffer.data.length = etherHdrLen + be16 (ipHeader p) 2
  unfragmented : be16 (ipHeader p) 6 % 0x4000 = 0
  srcIp : p.2.srcIp = wordAt (ipHeader p) 12
  dstIp : p.2.dstIp = wordAt (ipHeader p) 16
  protocol : p.2.ipProtocol = byteAt (ipHeader p) 9

def aclVerdict (c : NetConfig) (k : AclKey) : Bool :=
  ((c.acls.find? (aclMatches k)).map NetAcl.drop).getD c.defaultDrop == 0

theorem findIdx?_bind_getElem? (l : List NetAcl) (f : NetAcl → Bool) :
    ((l.findIdx? f).bind fun i => l[i]?.map fun a => (i, a)).map (fun p => p.2.drop) = (l.find? f).map NetAcl.drop := by
  rw [Option.map_bind]
  simp only [Function.comp_def, Option.map_map]
  induction l with
  | nil => rfl
  | cons a l ih =>
    rw [List.findIdx?_cons, List.find?_cons]
    cases f a with
    | true => rfl
    | false =>
      rw [← ih, if_neg Bool.false_ne_true, Option.bind_map]
      rfl

theorem netAclAccount_verdict (c : NetConfig) (s : AclCounters) (k : AclKey) (bytes : ℕ) :
    (netAclAccount c s (netAclClassify c k) bytes).2 = aclVerdict c k := by
  unfold netAclAccount netAclClassify
  dsimp only
  rw [findIdx?_bind_getElem?]
  exact Bool.not_not _

def AclAccepts (r : Routing) (p : Packet) : Prop :=
  ∀ c, r.network = some c → aclVerdict c (aclKey r p.1.buffer p.2) = true

theorem View.accepts_iff {v : View} {p : Packet} : v.accepts p ↔ AclAccepts v.routing p := by
  apply forall_congr'
  intro c
  rw [netAclAccount_verdict]

structure Delivered (r : Routing) (protocol : Byte) (p : Packet) : Prop where
  packet : IpPacket r p
  accepted : AclAccepts r p
  isLocal : netifIsLocalIp r p.2.dstIp = true
  protocol : p.2.ipProtocol = protocol

structure Transit (r : Routing) (p : Packet) : Prop where
  packet : IpPacket r p
  accepted : AclAccepts r p
  foreign : netifIsLocalIp r p.2.dstIp = false

def Parsed (r : Routing) : NodeId → Packet → Prop
  | .ethInput, p => p.1.buffer.isContiguous = true → p.1.buffer.chainLen = 0
  | .arpInput, p | .ipv4Input, p => EthFrame r p
  | .ipv4Acl, p => IpPacket r p
  | .icmpInput, p => Delivered r protoIcmp p
  | .udpInput, p => Delivered r protoUdp p
  | .tcpInput, p => Delivered r protoTcp p
  | .ipv4Forward, p => Transit r p
  | .drop, _ | .tx, _ | .arpOutput, _ | .ethOutput, _ | .ipv4Output, _ | .udpOutput, _ | .ipv4Route, _ => True

theorem Parsed.lax (r : Routing) : Lax (Parsed r) := by
  intro n p hn
  cases n with
  | drop | tx | arpOutput | ethOutput | ipv4Output | udpOutput | ipv4Route => trivial
  | ethInput | arpInput | ipv4Input | ipv4Acl | ipv4Forward | icmpInput | udpInput | tcpInput => cases hn

section Verdicts

variable {r : Routing} {p : Packet} {n : NodeId} {b : Buffer} {ctx : PacketCtx} {forwarding : Bool}

theorem ingressPort_isSome {port : PortState} {portId : ℕ} (h : ingressPort r portId = some port) :
    (netifByDpdkPort r portId).isSome = true := by
  rw [ingressPort] at h
  rw [(Option.filter_eq_some_iff.mp h).1]
  rfl

theorem ethInput_parsed (hp : Parsed r .ethInput p) (h : ethInput r p.1.buffer p.2 = .enqueue n b ctx) :
    Parsed r n (⟨p.1.id, b⟩, ctx) := by
  unfold ethInput at h
  split at h
  · cases h
  rename_i port hport
  split at h
  · cases h
  rename_i hshape
  split at h
  · cases h
  rename_i hlength
  dsimp only at h
  split at h
  · cases h
  split at h
  · cases h
  have hcontiguous : p.1.buffer.isContiguous = true := by
    by_contra hn
    exact hshape (.inl (by rw [eq_false_of_ne_true hn]; rfl))
  have hframe : EthFrame r (p.1, { p.2 with l3Offset := etherHdrLen }) :=
    ⟨ingressPort_isSome hport, hp hcontiguous, rfl, Nat.not_lt.mp hlength⟩
  split at h
  · cases h
    exact hframe
  split at h
  · cases h
    exact hframe
  · cases h

theorem trim_padding {b : Buffer} {length : ℕ} (hchain : b.chainLen = 0) (hlength : length ≤ b.data.length) :
    (b.trim (b.pktLen - length)).data = b.data.take length ∧ (b.trim (b.pktLen - length)).chainLen = 0 := by
  have hpkt : b.pktLen = b.data.length := by rw [Buffer.pktLen, hchain, Nat.add_zero]
  have hsub : b.data.length - (b.data.length - length) = length := Nat.sub_sub_self hlength
  unfold Buffer.trim
  rw [hpkt, if_neg (Nat.not_lt.mpr (Nat.sub_le _ _)), hsub]
  exact ⟨rfl, hchain⟩

theorem ipv4Input_parsed (hp : EthFrame r p) (h : ipv4Input r p.1.buffer p.2 = .enqueue n b ctx) :
    Parsed r n (⟨p.1.id, b⟩, ctx) := by
  unfold ipv4Input at h
  split at h
  · cases h
  rename_i port hport
  split at h
  · cases h
  dsimp only at h
  generalize hip : p.1.buffer.data.drop p.2.l3Offset = ip at h
  split at h
  · cases h
  rename_i hheader
  split at h
  · cases h
  split at h
  · cases h
  split at h
  · cases h
  rename_i hfragment
  split at h
  · cases h
  rename_i hoptions
  injection h with hnode hb hctx
  subst hnode hb
  simp only [not_or, not_not, not_lt] at hheader
  obtain ⟨hversion, hihl, htotal, hlength, -, -⟩ := hheader
  have hoptions : (byteAt ip 0).toNat % 16 * 4 = ipv4HdrLen := not_not.mp hoptions
  rw [hoptions] at htotal hctx
  obtain ⟨hdata, hchain⟩ := trim_padding hp.chain hlength
  have hl3 : ctx.l3Offset = p.2.l3Offset := by rw [← hctx]
  generalize p.1.buffer.trim (p.1.buffer.pktLen - (p.2.l3Offset + be16 ip 2)) = b at hdata hchain
  -- Trimming leaves the whole header.
  have hheader : ipHeader (⟨p.1.id, b⟩, ctx) = ip.take (be16 ip 2) := by
    rw [ipHeader, hl3]
    change List.drop p.2.l3Offset b.data = _
    rw [hdata, List.drop_take, Nat.add_sub_cancel_left, hip]
  have hbe16 {i : ℕ} (hi : i + 1 < ipv4HdrLen) : be16 (ip.take (be16 ip 2)) i = be16 ip i := be16_take (hi.trans_le htotal)
  have hbyte {i : ℕ} (hi : i < ipv4HdrLen) : byteAt (ip.take (be16 ip 2)) i = byteAt ip i := byteAt_take (hi.trans_le htotal)
  have hword {i : ℕ} (hi : i + 3 < ipv4HdrLen) : wordAt (ip.take (be16 ip 2)) i = wordAt ip i :=
    wordAt_take (hi.trans_le htotal)
  have htrimmed : b.data.length = etherHdrLen + be16 ip 2 := by
    rw [hdata, List.length_take_of_le hlength, hp.l3Offset]
  subst hctx
  refine ⟨⟨ingressPort_isSome hport, hchain, hp.l3Offset, ?_⟩, ?_, ?_, ?_, ?_, ?_, ?_, ?_, ?_, ?_⟩
  · exact htrimmed ▸ Nat.le_add_right _ _
  · exact congrArg (· + ipv4HdrLen) hp.l3Offset
  all_goals rw [hheader]
  · rw [hbyte (by decide)]
    exact hversion
  · rw [hbyte (by decide)]
    exact hoptions
  · rw [hbe16 (by decide)]
    exact htotal
  · rw [hbe16 (by decide)]
    exact htrimmed
  · rw [hbe16 (by decide)]
    exact not_not.mp hfragment
  · exact (hword (by decide)).symm
  · exact (hword (by decide)).symm
  · exact (hbyte (by decide)).symm

theorem ipv4Acl_parsed (hp : IpPacket r p) (haccepts : AclAccepts r p)
    (h : ipv4Acl r forwarding p.1.buffer p.2 = .enqueue n b ctx) : Parsed r n (⟨p.1.id, b⟩, ctx) := by
  have hdst : wordAt (p.1.buffer.data.drop p.2.l3Offset) 16 = p.2.dstIp := hp.dstIp.symm
  have hprotocol : byteAt (p.1.buffer.data.drop p.2.l3Offset) 9 = p.2.ipProtocol := hp.protocol.symm
  unfold ipv4Acl at h
  dsimp only at h
  rw [hdst, hprotocol] at h
  split at h
  · rename_i hforeign
    split at h
    · cases h
    split at h
    · cases h
    split at h
    · cases h
    cases h
    refine ⟨{ hp with }, haccepts, ?_⟩
    simpa using hforeign
  rename_i hlocal
  have hlocal : netifIsLocalIp r p.2.dstIp = true := by simpa using hlocal
  split at h
  · rename_i hproto
    cases h
    exact ⟨hp, haccepts, hlocal, hproto⟩
  split at h
  · rename_i hproto
    cases h
    exact ⟨hp, haccepts, hlocal, hproto⟩
  split at h
  · rename_i hproto
    cases h
    exact ⟨hp, haccepts, hlocal, hproto⟩
  · cases h

end Verdicts

structure Receptive (I : View → Prop) (r : Routing) : Prop where
  routing {v : View} : I v → v.routing = r
  account {v : View} {p : Packet} {c : NetConfig} : I v → IpPacket r p → r.network = some c →
    I { v with aclStats := (netAclAccount c v.aclStats (netAclClassify c (aclKey r p.1.buffer p.2))
      (be16 (ipHeader p) 2)).1 }
  deliver {v : View} {p : Packet} : I v → Delivered r protoUdp p → ∀ localIp port source payload,
    I { v with sockets := (udpDeliver v.sockets localIp port source payload).1 }
  segment {v : View} {p : Packet} : I v → Delivered r protoTcp p → ∀ hdr payload seed now, v.Clocked now →
    I { v with sockets := (tcpInputSegment (v.tcpEnv true) v.sockets p.2.srcIp p.2.dstIp hdr payload seed now).1 }

theorem Receptive.flow {I : View → Prop} {r : Routing} (h : Receptive I r) : Flow (Parsed r) I where
  lax := Parsed.lax r
  ethInput hv hp n b ctx he := ethInput_parsed hp (h.routing hv ▸ he)
  ipv4Input hv hp n b ctx he := ipv4Input_parsed hp (h.routing hv ▸ he)
  ipv4Acl hv hp haccepts n b ctx he :=
    ipv4Acl_parsed hp (h.routing hv ▸ View.accepts_iff.mp haccepts) (h.routing hv ▸ he)
  account hv hp hc := by
    have hcounted := h.account hv hp (h.routing hv ▸ hc)
    rwa [← h.routing hv] at hcounted
  deliver hv hp := h.deliver hv hp
  segment hv hp := h.segment hv hp

end PulsarNetstack
