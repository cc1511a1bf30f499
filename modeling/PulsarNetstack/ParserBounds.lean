import PulsarNetstack.CheckedNodes
import PulsarNetstack.FirewallCoverage

namespace PulsarNetstack

open Checked

theorem sub16_eq_sub {a b : ℕ} (hle : b ≤ a) (hlt : a - b < 65536) (hb : b < 65536) : sub16 a b = a - b := by
  rw [sub16, Nat.mod_eq_of_lt hb]
  omega

section Link

variable {r : Routing} {b : Buffer} {ctx : PacketCtx}

theorem ethInputChecked_eq : ethInputChecked r b ctx = .ok (ethInput r b ctx) := by
  unfold ethInputChecked ethInput
  cases ingressPort r ctx.ingressPortId with
  | none => rfl
  | some port =>
    refine ite_ok fun _ => ite_ok fun hlength => ?_
    have hlength : 14 ≤ b.data.length := Nat.not_lt.mp hlength
    rw [load_bind (by omega)]
    refine ite_ok fun _ => ?_
    rw [load_bind (by omega), load_bind (by omega)]
    exact ite_ok fun _ => rfl

theorem arpRefusedChecked_eq (port : PortState) : arpRefusedChecked r b ctx port = .ok (arpRefused r port b ctx) := by
  unfold arpRefusedChecked arpRefused
  refine ite_ok fun hlength => ?_
  have hlength : ctx.l3Offset + 28 ≤ b.data.length := Nat.not_lt.mp hlength
  rw [load_bind (by omega), load_bind (by omega), load_bind (by omega), load_bind (by omega), load_bind (by omega),
    load_bind (by omega), load_bind (by omega), load_bind (by omega)]
  refine ite_ok fun _ => ?_
  rw [load_bind (by omega)]
  refine ite_ok fun _ => ?_
  rw [load_bind (by omega)]

theorem arpRefused_none {port : PortState} (h : arpRefused r port b ctx = none) : ctx.l3Offset + arpHdrLen ≤ b.data.length := by
  rw [arpRefused] at h
  split at h
  · cases h
  · rename_i hlength
    exact Nat.not_lt.mp hlength

theorem arpReplyChecked_eq (port : PortState) (hchain : b.chainLen = 0) (hsize : b.data.length < 65536)
    (hlength : ctx.l3Offset + arpHdrLen ≤ b.data.length) : arpReplyChecked b ctx port = .ok (arpReply port b ctx) := by
  have hpkt : b.pktLen = b.data.length := by rw [Buffer.pktLen, hchain, Nat.add_zero]
  have hlength : ctx.l3Offset + 28 ≤ b.data.length := hlength
  unfold arpReplyChecked arpReply
  rw [load_bind (by omega), load_bind (by omega), load_bind (by omega), access_bind (by omega), access_bind (by omega)]
  dsimp only
  rw [sub_bind (hpkt ▸ hlength) (by omega), access_bind (by omega)]

theorem ipv4InputChecked_eq (hchain : b.chainLen = 0) (hsize : b.data.length < 65536) :
    ipv4InputChecked r b ctx = .ok (ipv4Input r b ctx) := by
  have hpkt : b.pktLen = b.data.length := by rw [Buffer.pktLen, hchain, Nat.add_zero]
  unfold ipv4InputChecked ipv4Input
  cases ingressPort r ctx.ingressPortId with
  | none => rfl
  | some port =>
    refine ite_ok fun hlength => ?_
    have hlength : ctx.l3Offset + 20 ≤ b.data.length := Nat.not_lt.mp hlength
    rw [load_bind (by omega), load_bind (by omega)]
    refine ite_or_ok (d := ipv4Cksum (b.data.drop ctx.l3Offset) ≠ 0 ∨ 0x8000 ≤ be16 (b.data.drop ctx.l3Offset) 6)
      (by simp only [or_assoc]) fun hlengths => ?_
    simp only [not_or, not_not, not_lt] at hlengths
    obtain ⟨-, -, htotal, hdata⟩ := hlengths
    rw [loadBytes_bind (by omega), load_bind (by omega)]
    refine ite_ok fun _ => ?_
    rw [load_bind (by omega)]
    refine ite_ok fun _ => ite_ok fun _ => ite_ok fun _ => ite_ok fun _ => ?_
    rw [load_bind (by omega), load_bind (by omega), sub_bind (by omega) (by omega), access_bind (by omega)]

end Link

section Network

variable {r : Routing} {p : Packet}

structure Layout (p : Packet) : Prop where
  l3Offset : p.2.l3Offset = 14
  l4Offset : p.2.l4Offset = 34
  headerLen : (byteAt (p.1.buffer.data.drop p.2.l3Offset) 0).toNat % 16 * 4 = 20
  pktLen : p.1.buffer.pktLen = p.1.buffer.data.length
  size : 34 ≤ p.1.buffer.data.length
  limit : p.1.buffer.data.length < 65550
  total : be16 (p.1.buffer.data.drop p.2.l3Offset) 2 = p.1.buffer.data.length - 14

theorem IpPacket.layout (hp : IpPacket r p) : Layout p where
  l3Offset := hp.l3Offset
  l4Offset := hp.l4Offset
  headerLen := hp.headerLen
  pktLen := by rw [Buffer.pktLen, hp.chain, Nat.add_zero]
  size := by
    rw [hp.dataLen]
    exact Nat.add_le_add_left hp.total _
  limit := by
    rw [hp.dataLen]
    exact Nat.add_lt_add_left (be16_lt _ _) _
  total := (Nat.sub_eq_of_eq_add' hp.dataLen).symm

theorem Layout.payload (h : Layout p) : sub16 p.1.buffer.pktLen p.2.l4Offset = p.1.buffer.data.length - 34 ∧
    (p.1.buffer.data.drop p.2.l4Offset).take (p.1.buffer.data.length - 34) = p.1.buffer.data.drop p.2.l4Offset := by
  have hsize := h.size
  have hlimit := h.limit
  rw [h.pktLen, h.l4Offset]
  refine ⟨sub16_eq_sub hsize (by omega) (by omega), List.take_of_length_le ?_⟩
  rw [List.length_drop]

theorem Layout.stripped (h : Layout p) : sub16 p.2.l4Offset p.2.l3Offset = p.2.l4Offset - p.2.l3Offset := by
  rw [h.l3Offset, h.l4Offset]
  rfl

theorem aclKeyChecked_eq (hp : IpPacket r p) :
    aclKeyChecked r p.1.buffer p.2 = .ok (aclKey r p.1.buffer p.2, be16 (ipHeader p) 2) := by
  obtain ⟨port, hport⟩ := Option.isSome_iff_exists.mp hp.ingress
  obtain ⟨hl3, -, -, -, hsize, hlimit, htotal⟩ := hp.layout
  have hhdr : ipv4HdrLen = 20 := rfl
  unfold aclKeyChecked aclKey ingressId ipHeader
  rw [deref_bind hport, load_bind (by omega), htotal, sub_bind (by omega) (by omega), hport]
  dsimp only
  rw [htotal]
  generalize htotal' : p.1.buffer.data.length - 14 = total
  have hlength : (total + 4294967296 - ipv4HdrLen) % 4294967296 = total - ipv4HdrLen := by omega
  rw [hlength, List.drop_drop]
  split
  · rename_i hvalid
    -- Either transport has a header with room for both ports.
    have hports : 8 ≤ total - ipv4HdrLen := by
      simp only [Bool.or_eq_true, Bool.and_eq_true, decide_eq_true_eq] at hvalid
      omega
    rw [load_bind (by omega), load_bind (by omega), hvalid]
    rfl
  · rename_i hvalid
    rw [eq_false_of_ne_true hvalid]
    rfl

theorem ipv4AclChecked_eq (hp : IpPacket r p) (forwarding : Bool) :
    ipv4AclChecked r p.1.buffer p.2 forwarding = .ok (ipv4Acl r forwarding p.1.buffer p.2) := by
  obtain ⟨hl3, -, -, -, hsize, -, -⟩ := hp.layout
  unfold ipv4AclChecked ipv4Acl
  rw [load_bind (by omega)]
  dsimp only
  split
  · refine ite_ok fun _ => ?_
    rw [load_bind (by omega)]
  · rw [load_bind (by omega)]

theorem WellRouted.egress (hr : WellRouted r) {dst src iif : Word} {out : RouteResult} {found : DropReason × RouteResult}
    (h : ipv4RouteQuery r dst src iif out = found) (hfound : ¬ found.1 ≠ .none) :
    ∃ egress, netifById r found.2.netifId = some egress ∧ routePortId r found.2 = egress.portId := by
  have hnamed : Named r found := h ▸ hr.routeQuery dst src iif out
  obtain ⟨egress, hegress, -⟩ := hnamed (not_not.mp hfound)
  refine ⟨egress, hegress, ?_⟩
  rw [routePortId, hegress]
  rfl

theorem ipv4ForwardChecked_eq (hr : WellRouted r) (hp : IpPacket r p) :
    ipv4ForwardChecked r p.1.buffer p.2 = .ok (ipv4Forward r p.1.buffer p.2) := by
  obtain ⟨port, hport⟩ := Option.isSome_iff_exists.mp hp.ingress
  obtain ⟨hl3, hl4, hheader, -, hsize, -, -⟩ := hp.layout
  have hstripped := hp.layout.stripped
  have hhdr : ipv4HdrLen = 20 := rfl
  have hid : BitVec.ofNat 32 port.id = ingressId r p.2.ingressPortId := by
    rw [ingressId, hport]
    rfl
  unfold ipv4ForwardChecked ipv4Forward
  rw [load_bind (by omega)]
  refine ite_ok fun _ => ?_
  rw [load_bind (by omega), load_bind (by omega), deref_bind hport, hid]
  dsimp only
  generalize hquery : ipv4RouteQuery r _ _ _ _ = found
  refine ite_ok fun hfound => ?_
  obtain ⟨egress, hegress, hport⟩ := hr.egress hquery hfound
  rw [load_bind (by omega)]
  split
  · rw [load_bind (by omega)]
  · rw [access_bind (by omega), load_bind (by omega), hheader, access_bind (by omega), deref_bind hegress,
      access_bind (by omega), sub_bind (by omega) (by omega), stripToIpv4, hport, hstripped]

theorem icmpInputChecked_eq (hr : WellRouted r) (hp : IpPacket r p) :
    icmpInputChecked r p.1.buffer p.2 = .ok (icmpInput r p.1.buffer p.2) := by
  obtain ⟨hl3, hl4, hheader, hpkt, hsize, hlimit, -⟩ := hp.layout
  obtain ⟨hlength, hicmp⟩ := hp.layout.payload
  have hstripped := hp.layout.stripped
  have hhdr : ipv4HdrLen = 20 := rfl
  unfold icmpInputChecked icmpInput
  have hchecked : p.1.buffer.pktLen - p.2.l4Offset = p.1.buffer.data.length - 34 := by rw [hpkt, hl4]
  rw [sub_bind (by omega) (by omega), hlength, hchecked]
  dsimp only
  rw [hicmp]
  refine ite_or_ok Iff.rfl fun hlen => ?_
  rw [loadBytes_bind (by omega), hicmp, load_bind (by omega)]
  refine ite_ok fun _ => ?_
  rw [load_bind (by omega)]
  refine ite_ok fun _ => ?_
  rw [load_bind (by omega), load_bind (by omega)]
  generalize hquery : ipv4RouteQuery r _ _ _ _ = found
  refine ite_ok fun hfound => ?_
  obtain ⟨egress, hegress, hport⟩ := hr.egress hquery hfound
  rw [load_bind (by omega)]
  refine ite_ok fun _ => ?_
  rw [access_bind (by omega), load_bind (by omega), hheader, access_bind (by omega), access_bind (by omega),
    sub_bind (by omega) (by omega), deref_bind hegress, hport, hegress, stripToIpv4]
  dsimp only
  split
  · rw [access_bind (by omega)]
    rfl
  · rw [access_bind (by omega), hstripped]

end Network

section Transport

variable {r : Routing} {p : Packet}

theorem udpLengthChecked_eq (hp : IpPacket r p) : udpLengthChecked p.1.buffer p.2 = .ok (udpLength p.1.buffer p.2) := by
  obtain ⟨hl3, hl4, -, hpkt, hsize, hlimit, -⟩ := hp.layout
  obtain ⟨hlength, -⟩ := hp.layout.payload
  have hhdr : ipv4HdrLen = 20 := rfl
  have hudp : udpHdrLen = 8 := rfl
  have hchecked : p.1.buffer.pktLen - p.2.l4Offset = p.1.buffer.data.length - 34 := by rw [hpkt, hl4]
  unfold udpLengthChecked udpLength
  rw [sub_bind (by omega) (by omega), hlength, hchecked]
  refine ite_ok fun _ => ?_
  rw [load_bind (by omega)]
  refine ite_ok fun hlen => ?_
  simp only [not_or, not_lt] at hlen
  obtain ⟨-, hlen⟩ := hlen
  rw [access_bind (by omega), load_bind (by omega), load_bind (by omega), load_bind (by omega), loadBytes_bind (by omega),
    load_bind (by omega)]

theorem udpLength_ok {length : ℕ} (h : udpLength p.1.buffer p.2 = .ok length) :
    udpHdrLen ≤ length ∧ length ≤ sub16 p.1.buffer.pktLen p.2.l4Offset ∧ length < 65536 := by
  have hmax := be16_lt (p.1.buffer.data.drop p.2.l4Offset) 4
  rw [udpLength, if_error_eq_ok, if_error_eq_ok] at h
  obtain ⟨-, hlen, h⟩ := h
  simp only [not_or, not_lt] at hlen
  dsimp only at h
  split at h
  · cases h
  · obtain rfl := Except.ok.inj h
    exact ⟨hlen.1, hlen.2, hmax⟩

theorem udpInputChecked_eq (hp : IpPacket r p) {length : ℕ} (h : udpLength p.1.buffer p.2 = .ok length) :
    udpInputChecked p.1.buffer p.2 length = .ok (udpInput p.1.buffer p.2 length) := by
  obtain ⟨hl3, hl4, -, -, hsize, hlimit, -⟩ := hp.layout
  obtain ⟨hpayload, -⟩ := hp.layout.payload
  obtain ⟨hmin, hmax, hlt⟩ := udpLength_ok h
  rw [hpayload] at hmax
  have hudp : udpHdrLen = 8 := rfl
  unfold udpInputChecked udpInput
  rw [load_bind (by omega), load_bind (by omega), load_bind (by omega), load_bind (by omega), sub_bind hmin (by omega),
    loadBytes_bind (by omega)]
  dsimp only
  rw [List.drop_take, List.drop_drop]

theorem tcpOptions_skip (syn : Bool) (skip mss : ℕ) (l : List Byte) :
    tcpOptions syn skip mss l = tcpOptions syn 0 mss (l.drop skip) := by
  induction skip generalizing l with
  | zero => rfl
  | succ skip ih =>
    cases l with
    | nil => rfl
    | cons a l => exact ih l

theorem tcpOptionsChecked_eq {b : Buffer} {base headerLen : ℕ} {syn : Bool} {offset mss : ℕ}
    (hfits : base + headerLen ≤ b.data.length) (hmax : headerLen < 65536) :
    tcpOptionsChecked b base headerLen syn offset mss =
      .ok (tcpOptions syn 0 mss (((b.data.drop base).take headerLen).drop offset)) := by
  have hlength : ((b.data.drop base).take headerLen).length = headerLen := by
    rw [List.length_take, List.length_drop]
    omega
  have hbyte {i : ℕ} (hi : i < headerLen) :
      ((b.data.drop base).take headerLen)[i]? = some (byteAt (b.data.drop base) i) := by
    rw [List.getElem?_take_of_lt hi, byteAt, List.getD_eq_getElem?_getD]
    have hin : i < (b.data.drop base).length := by
      rw [List.length_drop]
      omega
    rw [List.getElem?_eq_getElem hin]
    rfl
  have hdrop {i : ℕ} (hi : i < headerLen) : ((b.data.drop base).take headerLen).drop i =
      byteAt (b.data.drop base) i :: ((b.data.drop base).take headerLen).drop (i + 1) := by
    obtain ⟨hlt, hget⟩ := List.getElem?_eq_some_iff.mp (hbyte hi)
    rw [List.drop_eq_getElem_cons hlt, hget]
  generalize (b.data.drop base).take headerLen = options at hlength hbyte hdrop
  -- Each round moves on by one byte or by the length of an option.
  induction hleft : headerLen - offset using Nat.strong_induction_on generalizing offset mss with
  | _ left ih =>
    rw [tcpOptionsChecked]
    by_cases hoffset : offset < headerLen
    · rw [if_pos hoffset, load_bind (by omega), hdrop hoffset, tcpOptions.eq_def]
      dsimp only
      generalize byteAt (b.data.drop base) offset = kind
      refine ite_ok fun _ => ?_
      split
      · exact ih _ (by omega) rfl
      rw [sub_bind (by omega) (by omega)]
      by_cases hroom : headerLen - offset < 2
      · have hend : options.drop (offset + 1) = [] := List.drop_eq_nil_of_le (by omega)
        rw [if_pos hroom, hend]
      have hnext : offset + 1 < headerLen := by omega
      have hskip (size mss : ℕ) (hsize : 2 ≤ size) : tcpOptions syn (size - 1) mss (options.drop (offset + 1)) =
          tcpOptions syn 0 mss (options.drop (offset + size)) := by
        have hsum : offset + 1 + (size - 1) = offset + size := by omega
        rw [tcpOptions_skip, List.drop_drop, hsum]
      have hrest : (options.drop (offset + 1)).length + 1 = headerLen - offset := by
        rw [List.length_drop]
        omega
      have hvalue (hfour : 4 ≤ headerLen - offset) :
          ((options.drop (offset + 1 + 1)).getD 0 0).toNat * 256 + ((options.drop (offset + 1 + 1)).getD 1 0).toNat =
            be16 (b.data.drop base) (offset + 2) := by
        rw [hdrop (by omega : offset + 1 + 1 < headerLen), hdrop (by omega : offset + 1 + 1 + 1 < headerLen)]
        rfl
      rw [if_neg hroom, load_bind (by omega)]
      rw [hdrop hnext] at hskip hrest ⊢
      generalize byteAt (b.data.drop base) (offset + 1) = size at hskip hrest ⊢
      dsimp only
      rw [hrest]
      refine ite_ok fun hsize => ?_
      simp only [not_or, not_lt] at hsize
      obtain ⟨hmin, hfit, hkind⟩ := hsize
      have hshorter : headerLen - (offset + size.toNat) < left := by omega
      rw [hskip _ _ hmin]
      by_cases hmss : kind = 2 ∧ size = 4 ∧ syn = true
      · have hfour : 4 ≤ headerLen - offset := by
          rw [hmss.2.1] at hfit
          exact hfit
        have hlast (value : ℕ) : (if kind = 2 ∧ syn = true ∧ value ≠ 0 then value else mss) =
            if value ≠ 0 then value else mss := by
          simp only [hmss.1, hmss.2.2, true_and]
        rw [if_pos hmss, load_bind (by omega), hvalue hfour, hlast]
        exact ih _ hshorter rfl
      · have hsame : ¬ (kind = 2 ∧ syn = true ∧ ((options.drop (offset + 1 + 1)).getD 0 0).toNat * 256 +
            ((options.drop (offset + 1 + 1)).getD 1 0).toNat ≠ 0) := by
          rintro ⟨htwo, hsyn, -⟩
          exact hmss ⟨htwo, not_not.mp fun hne => hkind ⟨htwo, hne⟩, hsyn⟩
        rw [if_neg hmss, if_neg hsame]
        exact ih _ hshorter rfl
    · have hend : options.drop offset = [] := List.drop_eq_nil_of_le (by omega)
      rw [if_neg hoffset, hend, tcpOptions]

theorem map_ite_error {ε α β : Type} {c : Prop} [Decidable c] {e : ε} {x : Except ε α} (f : α → β) :
    (if c then .error e else x).map f = if c then .error e else x.map f := by
  split
  · rfl
  · rfl

theorem tcpSegmentChecked_eq (hp : IpPacket r p) : tcpSegmentChecked p.1.buffer p.2 =
    .ok ((tcpSegment p.1.buffer p.2).map fun s =>
      (s.1, tcpOptions (flag s.1.flags synFlag) 0 536 s.1.options, s.2.length)) := by
  obtain ⟨hl3, hl4, hheader, hpkt, hsize, hlimit, htotal⟩ := hp.layout
  obtain ⟨hlength, htcp⟩ := hp.layout.payload
  have hchecked : p.1.buffer.pktLen - p.2.l4Offset = p.1.buffer.data.length - 34 := by rw [hpkt, hl4]
  unfold tcpSegmentChecked tcpSegment
  rw [sub_bind (by omega) (by omega), hlength, hchecked]
  dsimp only
  rw [htcp, map_ite_error, map_ite_error]
  refine ite_or_ok Iff.rfl fun hlen => ?_
  rw [load_bind (by omega), load_bind (by omega)]
  refine ite_ok fun hfields => ?_
  simp only [not_or, not_lt] at hfields
  obtain ⟨hmin, hfit, -⟩ := hfields
  have hsegment : p.1.buffer.data.length - 14 - 20 = p.1.buffer.data.length - 34 := by omega
  rw [load_bind (by omega), load_bind (by omega), htotal, hheader, sub_bind (by omega) (by omega), load_bind (by omega),
    load_bind (by omega), loadBytes_bind (by omega), hsegment, htcp]
  refine ite_ok fun _ => ?_
  rw [tcpOptionsChecked_eq (by omega) (by omega), ok_bind, load_bind (by omega), load_bind (by omega), load_bind (by omega),
    load_bind (by omega), load_bind (by omega), loadBytes_bind (by omega), sub_bind hfit (by omega)]
  have hpayload : p.1.buffer.data.length - 34 = (p.1.buffer.data.drop p.2.l4Offset).length := by
    rw [List.length_drop, hl4]
  rw [hpayload, ← List.length_drop, ← List.drop_drop, ← List.drop_take]
  rfl

theorem tcpPayloadChecked_eq (hp : IpPacket r p) {header : TcpHeader} {payload : List Byte} {rxLen : ℕ}
    (h : tcpSegment p.1.buffer p.2 = .ok (header, payload)) (hroom : rxLen ≤ tcpBufferSize) :
    tcpPayloadChecked p.1.buffer p.2 header payload.length rxLen =
      .ok (payload.take (min payload.length (tcpBufferSize - rxLen))) := by
  obtain ⟨-, hl4, -, -, hsize, -, -⟩ := hp.layout
  obtain ⟨hlength, htcp⟩ := hp.layout.payload
  have hbuffer : tcpBufferSize = 8192 := rfl
  rw [tcpSegment, hlength, htcp, if_error_eq_ok, if_error_eq_ok] at h
  obtain ⟨hfields, -, h⟩ := h
  simp only [not_or, not_lt] at hfields
  obtain ⟨-, hmin, hfit, -⟩ := hfields
  generalize (byteAt (p.1.buffer.data.drop p.2.l4Offset) 12).toNat / 16 * 4 = headerLen at hmin hfit h
  obtain ⟨rfl, rfl⟩ := Prod.mk.inj (Except.ok.inj h)
  have hoptions : 20 + (tcpHeaderAt (p.1.buffer.data.drop p.2.l4Offset) headerLen).options.length = headerLen := by
    rw [tcpHeaderAt, List.length_drop, List.length_take, List.length_drop]
    omega
  unfold tcpPayloadChecked
  rw [sub_bind hroom (by omega), hoptions, loadBytes, access_bind, ← List.drop_drop]
  rw [List.length_drop, List.length_drop]
  omega

end Transport

section Errors

variable {r : Routing} {b : Buffer} {ctx : PacketCtx}

structure Quotable (b : Buffer) (ctx : PacketCtx) : Prop where
  header : ctx.l3Offset + 20 ≤ b.data.length
  ihl : 20 ≤ (byteAt (b.data.drop ctx.l3Offset) 0).toNat % 16 * 4
  total : (byteAt (b.data.drop ctx.l3Offset) 0).toNat % 16 * 4 ≤ be16 (b.data.drop ctx.l3Offset) 2
  length : ctx.l3Offset + be16 (b.data.drop ctx.l3Offset) 2 ≤ b.data.length

theorem quotable_of_unsuppressed (h : icmpErrorSuppressed r b ctx = false) : Quotable b ctx := by
  unfold icmpErrorSuppressed at h
  simp only [Bool.or_eq_false_iff, decide_eq_false_iff_not, not_lt] at h
  obtain ⟨⟨⟨⟨⟨⟨⟨⟨⟨⟨⟨-, hheader⟩, -⟩, hihl⟩, htotal⟩, hlength⟩, -⟩, -⟩, -⟩, -⟩, -⟩, -⟩ := h
  exact ⟨hheader, hihl, htotal, hlength⟩

theorem icmpErrorSuppressed_groups : icmpErrorSuppressed r b ctx =
    let ip := b.data.drop ctx.l3Offset
    let ihl := (byteAt ip 0).toNat % 16 * 4
    let type := (byteAt ip ihl).toNat
    (!b.isContiguous || decide (b.data.length < ctx.l3Offset + ipv4HdrLen)) ||
      (((byteAt ip 0).toNat / 16 != 4 || decide (ihl < ipv4HdrLen) || decide (be16 ip 2 < ihl) ||
          decide (b.data.length < ctx.l3Offset + be16 ip 2)) ||
        ((ipv4Cksum ip != 0 || !ipv4DestinationValid r (wordAt ip 12) ||
            (!netifIsLocalIp r (wordAt ip 16) && !ipv4DestinationValid r (wordAt ip 16)) || be16 ip 6 % 0x2000 != 0) ||
          ((decide (etherHdrLen ≤ ctx.l3Offset) && (macAt b.data 0).getLsbD 40) ||
            (byteAt ip 9 == protoIcmp && (decide (be16 ip 2 - ihl < 8) ||
              (type == 3 || type == 4 || type == 5 || type == 11 || type == 12)))))) := by
  unfold icmpErrorSuppressed
  simp only [Bool.or_assoc]

theorem icmpErrorSuppressedChecked_eq : icmpErrorSuppressedChecked r b ctx = .ok (icmpErrorSuppressed r b ctx) := by
  have hhdr : ipv4HdrLen = 20 := rfl
  have hether : etherHdrLen = 14 := rfl
  rw [icmpErrorSuppressed_groups]
  unfold icmpErrorSuppressedChecked
  refine or_ok fun hheader => ?_
  simp only [Bool.or_eq_false_iff, decide_eq_false_iff_not, not_lt] at hheader
  obtain ⟨-, hheader⟩ := hheader
  rw [load_bind (by omega), load_bind (by omega)]
  refine or_ok fun hlengths => ?_
  simp only [Bool.or_eq_false_iff, decide_eq_false_iff_not, not_lt] at hlengths
  obtain ⟨⟨⟨-, hihl⟩, htotal⟩, hlength⟩ := hlengths
  have hmax : be16 (b.data.drop ctx.l3Offset) 2 < 65536 := be16_lt _ 2
  rw [loadBytes_bind (by omega), load_bind (by omega), load_bind (by omega), load_bind (by omega)]
  refine or_ok fun _ => ?_
  have hgroup : (if etherHdrLen ≤ ctx.l3Offset then do
        let mac ← load b 0 0 6 macAt
        .ok (mac.getLsbD 40)
      else .ok false : Checked Bool) = .ok (decide (etherHdrLen ≤ ctx.l3Offset) && (macAt b.data 0).getLsbD 40) := by
    split
    · rename_i hlink
      rw [load_bind (by omega), decide_eq_true hlink]
      rfl
    · rename_i hlink
      rw [decide_eq_false hlink]
      rfl
  rw [hgroup, ok_bind]
  refine or_ok fun _ => ?_
  rw [load_bind (by omega)]
  split
  · rename_i hother
    rw [beq_eq_false_iff_ne.mpr hother]
    rfl
  · rename_i hicmp
    rw [not_not.mp hicmp, sub_bind htotal (by omega)]
    split
    · rename_i hshort
      rw [decide_eq_true hshort]
      rfl
    · rename_i hshort
      rw [load_bind (by omega), decide_eq_false hshort]
      rfl

theorem icmpErrorMessageChecked_eq (hr : WellRouted r) (h : icmpErrorSuppressed r b ctx = false) (type code : Byte) (mtu : ℕ) :
    icmpErrorMessageChecked r b ctx type code mtu = .ok (icmpErrorMessage r b ctx type code mtu) := by
  obtain ⟨hheader, hihl, htotal, hlength⟩ := quotable_of_unsuppressed h
  have hmax : be16 (b.data.drop ctx.l3Offset) 2 < 65536 := be16_lt _ 2
  have hhdr : ipv4HdrLen = 20 := rfl
  unfold icmpErrorMessageChecked icmpErrorMessage
  rw [load_bind (by omega), load_bind (by omega), load_bind (by omega), load_bind (by omega)]
  dsimp only
  generalize netifIsLocalIp r (wordAt (b.data.drop ctx.l3Offset) 16) = own
  generalize hquery : ipv4RouteQuery r _ _ _ _ = found
  rw [sub_bind htotal (by omega)]
  refine ite_ok fun hfound => ?_
  rw [not_or] at hfound
  obtain ⟨hfound, hmtu⟩ := hfound
  obtain ⟨egress, hegress, hport⟩ := hr.egress hquery hfound
  rw [sub_bind (by omega) (by omega), loadBytes_bind (by omega), deref_bind hegress, hport, Nat.sub_sub]
  unfold icmpErrorBytes
  rw [List.take_take, Nat.min_self]

end Errors

def InBounds (r : Routing) : NodeId → Packet → Prop
  | .ethInput, p => ethInputChecked r p.1.buffer p.2 = .ok (ethInput r p.1.buffer p.2)
  | .arpInput, p => ∀ port, ingressPort r p.2.ingressPortId = some port →
      arpRefusedChecked r p.1.buffer p.2 port = .ok (arpRefused r port p.1.buffer p.2) ∧
        (arpRefused r port p.1.buffer p.2 = none → arpReplyChecked p.1.buffer p.2 port = .ok (arpReply port p.1.buffer p.2))
  | .ipv4Input, p => ipv4InputChecked r p.1.buffer p.2 = .ok (ipv4Input r p.1.buffer p.2)
  | .ipv4Acl, p => aclKeyChecked r p.1.buffer p.2 = .ok (aclKey r p.1.buffer p.2, be16 (ipHeader p) 2) ∧
      ∀ forwarding, ipv4AclChecked r p.1.buffer p.2 forwarding = .ok (ipv4Acl r forwarding p.1.buffer p.2)
  | .ipv4Forward, p => ipv4ForwardChecked r p.1.buffer p.2 = .ok (ipv4Forward r p.1.buffer p.2)
  | .icmpInput, p => icmpInputChecked r p.1.buffer p.2 = .ok (icmpInput r p.1.buffer p.2)
  | .udpInput, p => udpLengthChecked p.1.buffer p.2 = .ok (udpLength p.1.buffer p.2) ∧
      ∀ length, udpLength p.1.buffer p.2 = .ok length →
        udpInputChecked p.1.buffer p.2 length = .ok (udpInput p.1.buffer p.2 length)
  | .tcpInput, p =>
      tcpSegmentChecked p.1.buffer p.2 = .ok ((tcpSegment p.1.buffer p.2).map fun s =>
        (s.1, tcpOptions (flag s.1.flags synFlag) 0 536 s.1.options, s.2.length)) ∧
      ∀ header payload rxLen, tcpSegment p.1.buffer p.2 = .ok (header, payload) → rxLen ≤ tcpBufferSize →
        tcpPayloadChecked p.1.buffer p.2 header payload.length rxLen =
          .ok (payload.take (min payload.length (tcpBufferSize - rxLen)))
  | .drop, _ | .tx, _ | .arpOutput, _ | .ethOutput, _ | .ipv4Output, _ | .udpOutput, _ | .ipv4Route, _ => True

def Sized : NodeId → Packet → Prop
  | .ethInput, p | .arpInput, p | .ipv4Input, p => p.1.buffer.data.length < 65536
  | _, _ => True

theorem ethInput_buffer {r : Routing} {b b' : Buffer} {ctx ctx' : PacketCtx} {n : NodeId}
    (h : ethInput r b ctx = .enqueue n b' ctx') : b' = b := by
  unfold ethInput at h
  split at h
  · cases h
  dsimp only at h
  split_ifs at h
  all_goals
    injection h with _ hb
    exact hb.symm

theorem sizedFlow (r : Routing) : Flow (fun n p => Parsed r n p ∧ Sized n p) fun v => v.routing = r := by
  have hreceptive : Receptive (fun v => v.routing = r) r :=
    ⟨fun hv => hv, fun hv _ _ => hv, fun hv _ _ _ _ _ => hv, fun hv _ _ _ _ _ _ => hv⟩
  have hflow := hreceptive.flow
  constructor
  · intro n p hn
    refine ⟨hflow.lax n p hn, ?_⟩
    cases n with
    | ethInput | arpInput | ipv4Input => cases hn
    | _ => trivial
  · intro v p hv hp n b ctx he
    refine ⟨hflow.ethInput hv hp.1 n b ctx he, ?_⟩
    obtain rfl := ethInput_buffer he
    rcases List.mem_pair.mp ((ethInput_leads ..).mem he) with rfl | rfl
    · exact hp.2
    · exact hp.2
  · intro v p hv hp n b ctx he
    refine ⟨hflow.ipv4Input hv hp.1 n b ctx he, ?_⟩
    obtain rfl := List.mem_singleton.mp ((ipv4Input_leads ..).mem he)
    trivial
  · intro v p hv hp haccepts n b ctx he
    refine ⟨hflow.ipv4Acl hv hp.1 haccepts n b ctx he, ?_⟩
    rcases (ipv4Acl_next he).1 with rfl | rfl | rfl | rfl <;> trivial
  · exact fun hv hp hc => hflow.account hv hp.1 hc
  · exact fun hv hp => hflow.deliver hv hp.1
  · exact fun hv hp => hflow.segment hv hp.1

theorem inBounds_of_parsed {r : Routing} (hr : WellRouted r) {n : NodeId} {p : Packet} (hp : Parsed r n p) (hsized : Sized n p) :
    InBounds r n p := by
  cases n with
  | ethInput => exact ethInputChecked_eq
  | arpInput =>
    have hframe : EthFrame r p := hp
    exact fun port _ => ⟨arpRefusedChecked_eq port, fun h => arpReplyChecked_eq port hframe.chain hsized (arpRefused_none h)⟩
  | ipv4Input =>
    have hframe : EthFrame r p := hp
    exact ipv4InputChecked_eq hframe.chain hsized
  | ipv4Acl => exact ⟨aclKeyChecked_eq hp, ipv4AclChecked_eq hp⟩
  | ipv4Forward =>
    have htransit : Transit r p := hp
    exact ipv4ForwardChecked_eq hr htransit.packet
  | icmpInput =>
    have hdelivered : Delivered r protoIcmp p := hp
    exact icmpInputChecked_eq hr hdelivered.packet
  | udpInput =>
    have hdelivered : Delivered r protoUdp p := hp
    exact ⟨udpLengthChecked_eq hdelivered.packet, fun _ h => udpInputChecked_eq hdelivered.packet h⟩
  | tcpInput =>
    have hdelivered : Delivered r protoTcp p := hp
    exact ⟨tcpSegmentChecked_eq hdelivered.packet, fun _ _ _ h hroom => tcpPayloadChecked_eq hdelivered.packet h hroom⟩
  | _ => trivial

/-- Each node on the way of received frames stays inside the packets it is handed, and the error message about any packet
stays inside that packet. -/
theorem received_frames_in_bounds (rt : Runtime) (frame : Frame) (hreachable : RuntimeReachable rt)
    (hmbufs : DistinctMbufs rt frame) (hlen : frame.length ≤ graphFrameSize)
    (hreceived : ∀ p ∈ frame, (p.1.buffer.isContiguous = true → p.1.buffer.chainLen = 0) ∧ p.1.buffer.data.length < 65536) :
    (∃ n, ∀ fuel ≥ n, ∃ log rt', submitLog fuel .ethInput frame { rt with ledger := {} } = some (log, rt') ∧
      ∀ visit ∈ log, ∀ p ∈ visit.2, InBounds rt.routing visit.1 p) ∧
    ∀ b ctx, icmpErrorSuppressedChecked rt.routing b ctx = .ok (icmpErrorSuppressed rt.routing b ctx) ∧
      (icmpErrorSuppressed rt.routing b ctx = false → ∀ type code mtu,
        icmpErrorMessageChecked rt.routing b ctx type code mtu = .ok (icmpErrorMessage rt.routing b ctx type code mtu)) := by
  have hidle : IdleGraph rt := hreachable.idle
  have hr : WellRouted rt.routing := hreachable.wellRouted
  refine ⟨⟨frame.length * NodeId.ethInput.weight, fun fuel hfuel => ?_⟩, fun b ctx =>
    ⟨icmpErrorSuppressedChecked_eq, fun h type code mtu => icmpErrorMessageChecked_eq hr h type code mtu⟩⟩
  obtain ⟨hseeded, -⟩ := (hmbufs.between hidle .ethInput).seedFrame
  obtain ⟨rt', _, hdrain, -⟩ := drain_between fuel hseeded rfl hfuel
  rw [drain_eq_drainLog] at hdrain
  obtain ⟨⟨log, rt''⟩, hlog, he⟩ := Option.map_eq_some_iff.mp hdrain
  obtain ⟨-, rfl⟩ := Prod.mk.inj he
  have hidle' : IdleGraph { rt with ledger := {} } := ⟨hidle.queue, hidle.slots, hidle.active⟩
  have hrun : submitLog fuel .ethInput frame { rt with ledger := {} } = some (log, rt'') :=
    (if_neg (Nat.not_lt.mpr hlen)).trans hlog
  obtain ⟨-, -, hvisits⟩ := submitLog_flows (sizedFlow rt.routing) hidle' rfl hreceived hrun
  refine ⟨log, rt'', hrun, fun visit hvisit p hp => ?_⟩
  obtain ⟨hparsed, hsized⟩ := hvisits visit hvisit p hp
  exact inBounds_of_parsed hr hparsed hsized

theorem received_frames_in_bounds_datagrams :
    (∃ n, ∀ fuel ≥ n, ∃ log rt', submitLog fuel .ethInput receivedFrame
      { gatewayRuntime with ipv4Forwarding := true, nextMbuf := 2, ledger := {} } = some (log, rt') ∧
        ∀ visit ∈ log, ∀ p ∈ visit.2, InBounds gatewayRuntime.routing visit.1 p) ∧
    (submitLog 60 .ethInput receivedFrame { gatewayRuntime with ipv4Forwarding := true, nextMbuf := 2 }).map
      (fun r => r.1.map Prod.fst) = some [.ethInput, .ipv4Input, .ipv4Acl, .udpInput, .ipv4Forward, .drop,
        .ipv4Output, .ethOutput, .ethOutput, .arpOutput, .arpOutput, .tx, .tx] := by
  let rt : Runtime := { gatewayRuntime with ipv4Forwarding := true, nextMbuf := 2 }
  have hmbufs : DistinctMbufs rt receivedFrame := distinctMbufs_of_empty rfl (by decide) (by decide)
  have hbooted : Booted rt := { gatewayRuntime_booted with }
  exact ⟨(received_frames_in_bounds rt receivedFrame (.boot hbooted) hmbufs (by decide) (by decide)).1, by decide +kernel⟩

end PulsarNetstack
