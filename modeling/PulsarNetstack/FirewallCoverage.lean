import PulsarNetstack.RuntimeSteps

namespace PulsarNetstack

open Program

def accountPacket (r : Routing) (s : AclCounters) (p : Packet) : AclCounters :=
  match r.network with
  | none => s
  | some c => (netAclAccount c s (netAclClassify c (aclKey r p.1.buffer p.2)) (be16 (ipHeader p) 2)).1

def accountAll (r : Routing) (s : AclCounters) (packets : List Packet) : AclCounters := packets.foldl (accountPacket r) s

def aclFrame (visit : Visit) : List Packet := if visit.1 = .ipv4Acl then visit.2 else []

def aclPackets (log : List Visit) : List Packet := log.flatMap aclFrame

def Classified (r : Routing) (seen : List Packet) (p : Packet) : Prop :=
  ∃ q ∈ seen, q.1.id = p.1.id ∧ aclKey r q.1.buffer q.2 = aclKey r p.1.buffer p.2

def Passed (r : Routing) (seen : List Packet) : NodeId → Packet → Prop
  | .ethInput, p | .ipv4Input, p | .ipv4Acl, p => p.1.id ∉ idsOf seen
  | .icmpInput, p | .udpInput, p | .tcpInput, p | .ipv4Forward, p => Classified r seen p
  | .arpInput, _ | .drop, _ | .tx, _ | .arpOutput, _ | .ethOutput, _ | .ipv4Output, _ | .udpOutput, _ | .ipv4Route, _ => True

def Screened (r : Routing) (seen : List Packet) (n : NodeId) (p : Packet) : Prop := Parsed r n p ∧ Passed r seen n p

def Counted (r : Routing) (s : AclCounters) (v : View) : Prop := v.routing = r ∧ v.aclStats = s

variable {r : Routing} {s : AclCounters} {seen : List Packet} {p : Packet} {n : NodeId} {rt rt' : Runtime} {fuel : ℕ}
  {running : List SlotId} {submit : Submit} {slot : SlotId}

theorem Screened.lax (r : Routing) (seen : List Packet) : Lax (Screened r seen) := by
  intro n p hn
  refine ⟨Parsed.lax r n p hn, ?_⟩
  cases n with
  | drop | tx | arpOutput | ethOutput | ipv4Output | udpOutput | ipv4Route => trivial
  | ethInput | arpInput | ipv4Input | ipv4Acl | ipv4Forward | icmpInput | udpInput | tcpInput => cases hn

section Verdicts

variable {b b' : Buffer} {ctx ctx' : PacketCtx} {forwarding : Bool}

theorem Verdict.Leads.mem {v : Verdict} {next : List NodeId} (h : v.Leads ctx next) (he : v = .enqueue n b' ctx') :
    n ∈ next := by
  rw [he] at h
  exact h.1

theorem ipv4Acl_next (h : ipv4Acl r forwarding b ctx = .enqueue n b' ctx') :
    (n = .icmpInput ∨ n = .udpInput ∨ n = .tcpInput ∨ n = .ipv4Forward) ∧ aclKey r b' ctx' = aclKey r b ctx := by
  unfold ipv4Acl at h
  dsimp only at h
  split_ifs at h
  all_goals
    injection h with hn hb hctx
    subst hn hb hctx
    exact ⟨by decide, rfl⟩

end Verdicts

theorem screened_handover (r : Routing) (s : AclCounters) (seen : List Packet) :
    Handover (fun n p => n ≠ .ipv4Acl ∧ Screened r seen n p) (Screened r seen) (Counted r s) where
  lax := Screened.lax r seen
  ethInput hv hp n b ctx he := by
    refine ⟨ethInput_parsed hp.2.1 (hv.1 ▸ he), ?_⟩
    rcases List.mem_pair.mp ((ethInput_leads ..).mem he) with rfl | rfl
    · trivial
    · exact hp.2.2
  ipv4Input hv hp n b ctx he := by
    refine ⟨ipv4Input_parsed hp.2.1 (hv.1 ▸ he), ?_⟩
    obtain rfl := List.mem_singleton.mp ((ipv4Input_leads ..).mem he)
    exact hp.2.2
  ipv4Acl _ hp := absurd rfl hp.1
  account _ hp := absurd rfl hp.1
  deliver hv _ _ _ _ _ := hv
  segment hv _ _ _ _ _ _ := hv

theorem aclPacket_screened (hp : IpPacket r p) (hseen : p ∈ seen) :
    Safe (Running (Screened r seen) (Counted r s) running) (ipv4AclNodeRun [p])
      fun _ => Running (Screened r seen) (Counted r (accountPacket r s p)) running := by
  apply aclPacket_flows (Screened.lax r seen)
  · rintro v ⟨rfl, -⟩ haccepts n b ctx he
    refine ⟨ipv4Acl_parsed hp (View.accepts_iff.mp haccepts) he, ?_⟩
    obtain ⟨hn, hkey⟩ := ipv4Acl_next he
    have hclassified : Classified v.routing seen (⟨p.1.id, b⟩, ctx) := ⟨p, hseen, rfl, hkey.symm⟩
    rcases hn with rfl | rfl | rfl | rfl
    all_goals exact hclassified
  · rintro v ⟨rfl, rfl⟩ hnone
    unfold accountPacket
    rw [hnone]
    exact ⟨rfl, rfl⟩
  · rintro v c ⟨rfl, rfl⟩ hc
    unfold accountPacket
    rw [hc]
    exact ⟨rfl, rfl⟩

theorem ipv4AclNodeRun_screened {frame : Frame} (hframe : ∀ p ∈ frame, IpPacket r p ∧ p ∈ seen) :
    Safe (Running (Screened r seen) (Counted r s) running) (ipv4AclNodeRun frame)
      fun _ => Running (Screened r seen) (Counted r (accountAll r s frame)) running := by
  induction frame generalizing s with
  | nil => exact Safe.pure fun _ h => h
  | cons p frame ih =>
    unfold ipv4AclNodeRun
    rw [forM_cons_singleton]
    obtain ⟨hp, hseen⟩ := hframe p List.mem_cons_self
    exact Safe.bind (aclPacket_screened hp hseen) fun _ => ih fun q hq => hframe q (List.mem_cons_of_mem p hq)

theorem mem_ids_of_contents {g : Graph} {out : NodeOutput} {x : NodeId × Packet} (hx : x ∈ g.contents out) :
    x.2.1.id ∈ g.ids out := by
  unfold Graph.contents Graph.tally Graph.tallyOf at hx
  unfold Graph.ids Graph.tally Graph.tallyOf
  generalize g.held out = slots at hx
  induction slots with
  | nil => exact absurd hx (Multiset.notMem_zero x)
  | cons i l ih =>
    rw [List.map_cons, List.sum_cons, Multiset.mem_add] at hx
    rw [List.map_cons, List.sum_cons, Multiset.mem_add]
    refine hx.imp (fun hx => ?_) ih
    have hmem := (FrameSlot.mem_contents.mp hx).2
    change x.2.1.id ∈ ((g.slots i).frame.map fun p => ({p.1.id} : Multiset ℕ)).sum
    rw [← idsOf_eq_sum]
    exact Multiset.mem_coe.mpr (List.mem_map.mpr ⟨x.2, hmem, rfl⟩)

theorem Passed.extend {frame : Frame} (h : Passed r seen n p) (hnew : p.1.id ∉ idsOf frame) :
    Passed r (seen ++ frame) n p := by
  have hids : p.1.id ∉ idsOf seen → p.1.id ∉ idsOf (seen ++ frame) := by
    intro hold hid
    rw [idsOf_append, Multiset.mem_add] at hid
    exact hid.elim hold hnew
  have hclassified : Classified r seen p → Classified r (seen ++ frame) p := by
    rintro ⟨q, hq, hsame⟩
    exact ⟨q, List.mem_append_left _ hq, hsame⟩
  cases n with
  | ethInput | ipv4Input | ipv4Acl => exact hids h
  | icmpInput | udpInput | tcpInput | ipv4Forward => exact hclassified h
  | _ => trivial

theorem mem_idsOf (h : p ∈ seen) : p.1.id ∈ idsOf seen := Multiset.mem_coe.mpr (List.mem_map.mpr ⟨p, h, rfl⟩)

section Loop

variable {c : Setting} {credit : ℕ} {queue : RingBuffer SlotId graphFramePoolSize}

theorem Between.frame_apart (hb : Between c 0 credit rt {}) (hc : c.running = [])
    (hpop : rt.graph.queue.pop = some (slot, queue)) :
    (idsOf (rt.graph.slots slot).frame).Nodup ∧
      Disjoint (Graph.ids { rt.graph with queue := queue } {}) (idsOf (rt.graph.slots slot).frame) := by
  obtain ⟨hdequeued, -⟩ := hb.dequeue hc hpop
  have hnodup := hdequeued.owned.nodup
  rw [← hdequeued.owned.ids, add_zero, Multiset.nodup_add] at hnodup
  obtain ⟨-, hframe, hapart⟩ := hnodup
  refine ⟨hframe, hapart.mono_left ?_⟩
  unfold accounted
  rw [add_assoc, add_assoc]
  exact Multiset.le_add_right _ _

theorem runSlot_screened (hb : Between c 0 credit rt {}) (hc : c.running = [])
    (h : Resting (Screened r seen) (Counted r (accountAll r s seen)) {} rt) (hseen : (idsOf seen).Nodup)
    (hpop : rt.graph.queue.pop = some (slot, queue))
    (hrun : runSlot submit slot { rt with graph := { rt.graph with queue := queue } } = some (⟨⟩, rt')) :
    let visited := seen ++ aclFrame ((rt.graph.slots slot).node, (rt.graph.slots slot).frame)
    Resting (Screened r visited) (Counted r (accountAll r s visited)) {} rt' ∧ (idsOf visited).Nodup := by
  obtain ⟨hcarries, hframe⟩ := h.dequeue hpop
  unfold aclFrame
  by_cases hnode : (rt.graph.slots slot).node = .ipv4Acl
  · obtain ⟨hnodup, hapart⟩ := hb.frame_apart hc hpop
    rw [hnode] at hframe
    rw [if_pos hnode]
    dsimp only
    generalize hf : (rt.graph.slots slot).frame = frame at hframe hnodup hapart
    have hcarries' : Carries (Screened r (seen ++ frame)) [slot] { rt.graph with queue := queue } {} := by
      refine ⟨hcarries.ok, fun x hx => ⟨(hcarries.packets x hx).1, (hcarries.packets x hx).2.extend ?_⟩⟩
      exact Multiset.disjoint_left.mp hapart (mem_ids_of_contents hx)
    have hall : accountAll r s (seen ++ frame) = accountAll r (accountAll r s seen) frame := List.foldl_append
    refine ⟨runSlot_of_node hcarries' h.view ?_ hrun, ?_⟩
    · rw [hnode, hf, hall]
      exact ipv4AclNodeRun_screened fun p hp => ⟨(hframe p hp).1, List.mem_append_right _ hp⟩
    · rw [idsOf_append, Multiset.nodup_add]
      refine ⟨hseen, hnodup, Multiset.disjoint_right.mpr fun hid => ?_⟩
      obtain ⟨p, hp, rfl⟩ := List.mem_map.mp (Multiset.mem_coe.mp hid)
      exact (hframe p hp).2
  · rw [if_neg hnode, List.append_nil]
    refine ⟨runSlot_of_node hcarries h.view ?_ hrun, hseen⟩
    exact runNode_flows (screened_handover r _ seen) submit _ fun p hp => ⟨hnode, hframe p hp⟩

def Cleared (r : Routing) (seen : List Packet) (visit : Visit) : Prop :=
  ∀ p ∈ visit.2, Parsed r visit.1 p ∧
    (visit.1 = .udpInput ∨ visit.1 = .tcpInput ∨ visit.1 = .ipv4Forward → Classified r seen p)

theorem Classified.append (h : Classified r seen p) (more : List Packet) : Classified r (seen ++ more) p := by
  obtain ⟨q, hq, hsame⟩ := h
  exact ⟨q, List.mem_append_left _ hq, hsame⟩

theorem drainLog_screened {log : List Visit} (hb : Between c 0 credit rt {}) (hc : c.running = [])
    (h : Resting (Screened r seen) (Counted r (accountAll r s seen)) {} rt) (hseen : (idsOf seen).Nodup)
    (hrun : drainLog fuel rt = some (log, rt')) :
    (idsOf (seen ++ aclPackets log)).Nodup ∧ rt'.aclStats = accountAll r s (seen ++ aclPackets log) ∧
      ∀ visit ∈ log, Cleared r (seen ++ aclPackets log) visit := by
  induction fuel generalizing rt log seen credit with
  | zero =>
    unfold drainLog at hrun
    split at hrun
    · obtain ⟨rfl, rfl⟩ := Prod.mk.inj (Option.some.inj hrun)
      rw [aclPackets, List.flatMap_nil, List.append_nil]
      exact ⟨hseen, h.view.2, List.forall_mem_nil _⟩
    · cases hrun
  | succ fuel ih =>
    unfold drainLog at hrun
    split at hrun
    · obtain ⟨rfl, rfl⟩ := Prod.mk.inj (Option.some.inj hrun)
      rw [aclPackets, List.flatMap_nil, List.append_nil]
      exact ⟨hseen, h.view.2, List.forall_mem_nil _⟩
    · rename_i slot queue hpop
      obtain ⟨⟨_, rt₁⟩, hslot, hrest⟩ := Option.bind_eq_some_iff.mp hrun
      obtain ⟨⟨log', rt₂⟩, hlog, he⟩ := Option.map_eq_some_iff.mp hrest
      obtain ⟨rfl, rfl⟩ := Prod.mk.inj he
      obtain ⟨rt₁', hslot', -, hb'⟩ := runSlot_between hb hc hpop
      obtain rfl : rt₁ = rt₁' := congrArg Prod.snd (Option.some.inj (hslot.symm.trans hslot'))
      obtain ⟨h', hseen'⟩ := runSlot_screened hb hc h hseen hpop hslot
      obtain ⟨hnodup, hstats, hvisits⟩ := ih hb' h' hseen' hlog
      have hall : seen ++ aclPackets (((rt.graph.slots slot).node, (rt.graph.slots slot).frame) :: log') =
          seen ++ aclFrame ((rt.graph.slots slot).node, (rt.graph.slots slot).frame) ++ aclPackets log' := by
        rw [aclPackets, List.flatMap_cons, List.append_assoc]
        rfl
      rw [hall]
      refine ⟨hnodup, hstats, fun visit hvisit => ?_⟩
      rcases List.mem_cons.mp hvisit with rfl | hvisit
      · intro p hp
        obtain ⟨hparsed, hpassed⟩ := (h.dequeue hpop).2 p hp
        refine ⟨hparsed, fun hn => Classified.append (Classified.append ?_ _) _⟩
        dsimp only at hn
        rcases hn with hn | hn | hn
        all_goals
          rw [hn] at hpassed
          exact hpassed
      · exact hvisits visit hvisit

end Loop

def udpKey (r : Routing) (p : Packet) : AclKey :=
  let udp := p.1.buffer.data.drop p.2.l4Offset
  { src := wordAt (ipHeader p) 12, dst := wordAt (ipHeader p) 16, iif := ingressId r p.2.ingressPortId, proto := protoUdp,
    portsValid := true, sport := be16 udp 0, dport := be16 udp 2 }

def tcpBytes (p : Packet) : List Byte :=
  (p.1.buffer.data.drop p.2.l4Offset).take (sub16 p.1.buffer.pktLen p.2.l4Offset)

def tcpHeaderLen (p : Packet) : ℕ := (byteAt (tcpBytes p) 12).toNat / 16 * 4

def tcpKey (r : Routing) (p : Packet) : AclKey :=
  let hdr := tcpHeaderAt (tcpBytes p) (tcpHeaderLen p)
  { src := p.2.srcIp, dst := p.2.dstIp, iif := ingressId r p.2.ingressPortId, proto := protoTcp, portsValid := true,
    sport := hdr.srcPort.toNat, dport := hdr.dstPort.toNat }

def ReachesTcp (p : Packet) : Prop :=
  ¬ (sub16 p.1.buffer.pktLen p.2.l4Offset < 20 ∨ tcpHeaderLen p < 20 ∨ sub16 p.1.buffer.pktLen p.2.l4Offset < tcpHeaderLen p ∨
    tcpFlagsInvalid (byteAt (tcpBytes p) 13)) ∧
  udptcpCksum (wordAt (ipHeader p) 12) (wordAt (ipHeader p) 16) protoTcp (tcpBytes p) = 0

theorem IpPacket.transport (h : IpPacket r p) :
    (ipHeader p).drop ipv4HdrLen = p.1.buffer.data.drop p.2.l4Offset ∧
      sub16 p.1.buffer.pktLen p.2.l4Offset = be16 (ipHeader p) 2 - ipv4HdrLen := by
  constructor
  · rw [ipHeader, List.drop_drop, h.l3Offset, h.l4Offset]
  · have hlt := be16_lt (ipHeader p) 2
    have htotal := h.total
    rw [sub16, Buffer.pktLen, h.chain, h.dataLen, h.l4Offset]
    unfold etherHdrLen ipv4HdrLen at *
    omega

theorem IpPacket.aclKey_eq (h : IpPacket r p) {size : ℕ} (hproto : p.2.ipProtocol = protoUdp ∧ size = 8 ∨
    p.2.ipProtocol = protoTcp ∧ size = 20) (hsize : size ≤ sub16 p.1.buffer.pktLen p.2.l4Offset) :
    aclKey r p.1.buffer p.2 =
      { src := p.2.srcIp, dst := p.2.dstIp, iif := ingressId r p.2.ingressPortId, proto := p.2.ipProtocol, portsValid := true,
        sport := be16 (p.1.buffer.data.drop p.2.l4Offset) 0, dport := be16 (p.1.buffer.data.drop p.2.l4Offset) 2 } := by
  obtain ⟨hbytes, hlength⟩ := h.transport
  have hwords : (be16 (ipHeader p) 2 + 4294967296 - ipv4HdrLen) % 4294967296 = be16 (ipHeader p) 2 - ipv4HdrLen := by
    have hlt := be16_lt (ipHeader p) 2
    have htotal := h.total
    unfold ipv4HdrLen at *
    omega
  rw [hlength] at hsize
  let valid := (p.2.ipProtocol == protoUdp && decide (8 ≤ (be16 (ipHeader p) 2 + 4294967296 - ipv4HdrLen) % 4294967296)) ||
    (p.2.ipProtocol == protoTcp && decide (20 ≤ (be16 (ipHeader p) 2 + 4294967296 - ipv4HdrLen) % 4294967296))
  have hkey : aclKey r p.1.buffer p.2 =
      { src := p.2.srcIp, dst := p.2.dstIp, iif := ingressId r p.2.ingressPortId, proto := p.2.ipProtocol, portsValid := valid,
        sport := if valid then be16 ((ipHeader p).drop ipv4HdrLen) 0 else 0,
        dport := if valid then be16 ((ipHeader p).drop ipv4HdrLen) 2 else 0 } := rfl
  have hvalid : valid = true := by
    dsimp only [valid]
    rw [hwords]
    rcases hproto with ⟨hudp, rfl⟩ | ⟨htcp, rfl⟩
    · rw [hudp, decide_eq_true hsize]
      rfl
    · rw [htcp, decide_eq_true hsize]
      rfl
  rw [hkey, hvalid, if_pos rfl, if_pos rfl, hbytes]

theorem Delivered.udpKey_eq (h : Delivered r protoUdp p) {length : ℕ} (hlength : udpLength p.1.buffer p.2 = .ok length) :
    aclKey r p.1.buffer p.2 = udpKey r p := by
  have hsize : 8 ≤ sub16 p.1.buffer.pktLen p.2.l4Offset := by
    unfold udpLength at hlength
    dsimp only at hlength
    split at hlength
    · cases hlength
    · exact Nat.not_lt.mp ‹_›
  rw [h.packet.aclKey_eq (.inl ⟨h.protocol, rfl⟩) hsize, h.packet.srcIp, h.packet.dstIp, h.protocol]
  rfl

theorem Delivered.tcpKey_eq (h : Delivered r protoTcp p) (hreaches : ReachesTcp p) :
    aclKey r p.1.buffer p.2 = tcpKey r p := by
  have hsize : 20 ≤ sub16 p.1.buffer.pktLen p.2.l4Offset := Nat.not_lt.mp fun hlt => hreaches.1 (.inl hlt)
  have hport {i : ℕ} (hi : i + 1 < 20) :
      (BitVec.ofNat 16 (be16 (tcpBytes p) i)).toNat = be16 (p.1.buffer.data.drop p.2.l4Offset) i := by
    rw [BitVec.toNat_ofNat, Nat.mod_eq_of_lt (be16_lt _ _), tcpBytes, be16_take (by omega)]
  rw [h.packet.aclKey_eq (.inr ⟨h.protocol, rfl⟩) hsize, h.protocol, ← hport (i := 0) (by decide), ← hport (i := 2) (by decide)]
  rfl

def AcceptedByPref (c : NetConfig) (k : AclKey) : Prop :=
  (∃ a ∈ c.acls, aclMatches k a = true ∧ a.drop = 0 ∧ ∀ b ∈ c.acls, aclMatches k b = true → a.pref ≤ b.pref) ∨
    ((∀ b ∈ c.acls, aclMatches k b = false) ∧ c.defaultDrop = 0)

theorem aclVerdict_pref {c : NetConfig} {k : AclKey} (hsorted : c.acls.Pairwise fun a b => a.pref < b.pref)
    (h : aclVerdict c k = true) : AcceptedByPref c k := by
  unfold aclVerdict at h
  have hdrop := eq_of_beq h
  cases hfind : c.acls.find? (aclMatches k) with
  | none =>
    rw [hfind] at hdrop
    exact .inr ⟨fun b hb => eq_false_of_ne_true (List.find?_eq_none.mp hfind b hb), hdrop⟩
  | some a =>
    rw [hfind] at hdrop
    obtain ⟨hmatch, before, after, hacls, hbefore⟩ := List.find?_eq_some_iff_append.mp hfind
    refine .inl ⟨a, List.mem_of_find?_eq_some hfind, hmatch, hdrop, fun b hb hb' => ?_⟩
    rw [hacls, List.mem_append] at hb
    rw [hacls, List.pairwise_append] at hsorted
    rcases hb with hb | hb
    · have hnot := hbefore b hb
      rw [hb'] at hnot
      cases hnot
    · rcases List.mem_cons.mp hb with rfl | hb
      · exact BitVec.le_refl _
      · exact BitVec.le_of_lt ((List.pairwise_cons.mp hsorted.2.1).1 b hb)

structure Covered (r : Routing) (log : List Visit) (p : Packet) (k : AclKey) : Prop where
  once : (aclPackets log).countP (fun q => q.1.id = p.1.id) = 1
  key : ∀ q ∈ aclPackets log, q.1.id = p.1.id → aclKey r q.1.buffer q.2 = k
  verdict : ∀ c, r.network = some c → aclVerdict c k = true
  pref : ∀ c, r.network = some c → (c.acls.Pairwise fun a b => a.pref < b.pref) → AcceptedByPref c k

theorem Classified.covered {log : List Visit} (h : Classified r (aclPackets log) p) (hnodup : (idsOf (aclPackets log)).Nodup)
    (haccepted : AclAccepts r p) : Covered r log p (aclKey r p.1.buffer p.2) := by
  obtain ⟨q, hq, hid, hkey⟩ := h
  have hcount : (aclPackets log).countP (fun q => q.1.id = p.1.id) = (idsOf (aclPackets log)).count p.1.id := by
    unfold idsOf
    rw [Multiset.coe_count, List.count, List.countP_map]
    rfl
  have hinjective : ∀ q' ∈ aclPackets log, q'.1.id = p.1.id → q' = q := by
    intro q' hq' hid'
    exact List.inj_on_of_nodup_map (Multiset.coe_nodup.mp hnodup) hq' hq (hid'.trans hid.symm)
  refine ⟨?_, fun q' hq' hid' => ?_, haccepted, fun c hc hsorted => aclVerdict_pref hsorted (haccepted c hc)⟩
  · rw [hcount]
    exact Multiset.count_eq_one_of_mem hnodup (hid ▸ mem_idsOf hq)
  · rw [hinjective q' hq' hid']
    exact hkey

/-- What is delivered or forwarded was looked at once by the rules, under the tuple with which it is delivered, and the first
rule that matches that tuple accepts. -/
theorem firewall_covers_delivery (rt : Runtime) (frame : Frame) (hidle : IdleGraph rt) (hmbufs : DistinctMbufs rt frame)
    (hlen : frame.length ≤ graphFrameSize) (hreceived : ∀ p ∈ frame, p.1.buffer.isContiguous = true → p.1.buffer.chainLen = 0) :
    ∃ n, ∀ fuel ≥ n, ∃ log rt', submitLog fuel .ethInput frame { rt with ledger := {} } = some (log, rt') ∧
      rt'.aclStats = accountAll rt.routing rt.aclStats (aclPackets log) ∧
      ∀ visit ∈ log, ∀ p ∈ visit.2,
        (visit.1 = .udpInput → ∀ length, udpLength p.1.buffer p.2 = .ok length →
          Covered rt.routing log p (udpKey rt.routing p)) ∧
        (visit.1 = .tcpInput → ReachesTcp p → Covered rt.routing log p (tcpKey rt.routing p)) ∧
        (visit.1 = .ipv4Forward → Covered rt.routing log p (aclKey rt.routing p.1.buffer p.2)) := by
  refine ⟨frame.length * NodeId.ethInput.weight, fun fuel hfuel => ?_⟩
  obtain ⟨hseeded, -⟩ := (hmbufs.between hidle .ethInput).seedFrame
  obtain ⟨rt', _, hdrain, -⟩ := drain_between fuel hseeded rfl hfuel
  rw [drain_eq_drainLog] at hdrain
  obtain ⟨⟨log, rt''⟩, hlog, he⟩ := Option.map_eq_some_iff.mp hdrain
  obtain ⟨-, rfl⟩ := Prod.mk.inj he
  have hidle' : IdleGraph { rt with ledger := {} } := ⟨hidle.queue, hidle.slots, hidle.active⟩
  have hview : Counted rt.routing (accountAll rt.routing rt.aclStats []) (Runtime.view { rt with ledger := {} }) := ⟨rfl, rfl⟩
  have hstart : Resting (Screened rt.routing []) (Counted rt.routing (accountAll rt.routing rt.aclStats [])) {}
      (seedFrame .ethInput frame { rt with ledger := {} }) := by
    refine (hidle'.resting hview).seedFrame fun p hp => ⟨hreceived p hp, ?_⟩
    exact Multiset.notMem_zero _
  obtain ⟨hnodup, hstats, hvisits⟩ := drainLog_screened hseeded rfl hstart Multiset.nodup_zero hlog
  rw [List.nil_append] at hnodup hstats hvisits
  refine ⟨log, rt'', (if_neg (Nat.not_lt.mpr hlen)).trans hlog, hstats, fun visit hvisit p hp => ?_⟩
  obtain ⟨hparsed, hclassified⟩ := hvisits visit hvisit p hp
  refine ⟨fun hn length hlength => ?_, fun hn hreaches => ?_, fun hn => ?_⟩
  · rw [hn] at hparsed
    have hdelivered : Delivered rt.routing protoUdp p := hparsed
    rw [← hdelivered.udpKey_eq hlength]
    exact (hclassified (.inl hn)).covered hnodup hdelivered.accepted
  · rw [hn] at hparsed
    have hdelivered : Delivered rt.routing protoTcp p := hparsed
    rw [← hdelivered.tcpKey_eq hreaches]
    exact (hclassified (.inr (.inl hn))).covered hnodup hdelivered.accepted
  · rw [hn] at hparsed
    have htransit : Transit rt.routing p := hparsed
    exact (hclassified (.inr (.inr hn))).covered hnodup htransit.accepted

def receivedFrame : Frame := [(⟨0, strayDatagram 5 188⟩, {}), (⟨1, datagramTo 5 [246, 201] [192, 0, 2, 2]⟩, {})]

def resolverRule : NetAcl :=
  { pref := 10, src := htonl 0xc0000200, srcPrefix := 24, dst := 0, dstPrefix := 0, iif := netIifNone, proto := 17,
    sportMin := 0, sportMax := 65535, dportMin := 53, dportMax := 53, ports := 1, drop := 0 }

def guardedRuntime : Runtime :=
  { gatewayRuntime with
    routing := { gatewayStart with network := some { gatewaySnapshot with acls := [resolverRule], defaultDrop := 1 } }
    distinct := gatewayStart_distinct
    ipv4Forwarding := true
    nextMbuf := 2
    sockets := socketRun steadyEnv (socketSubsystemInit 4) [.socket 2 2 0, .bind 1 (some ⟨0, 53⟩)] }

-- One datagram is forwarded and one delivered to a socket, both under the only rule.
theorem firewall_covers_delivery_received : (∃ n, ∀ fuel ≥ n, ∃ log rt',
    submitLog fuel .ethInput receivedFrame { guardedRuntime with ledger := {} } = some (log, rt') ∧
      ∀ visit ∈ log, ∀ p ∈ visit.2,
        (visit.1 = .udpInput → ∀ length, udpLength p.1.buffer p.2 = .ok length →
          Covered guardedRuntime.routing log p (udpKey guardedRuntime.routing p)) ∧
        (visit.1 = .ipv4Forward → Covered guardedRuntime.routing log p (aclKey guardedRuntime.routing p.1.buffer p.2))) ∧
    (submitLog 60 .ethInput receivedFrame guardedRuntime).map (fun r => (r.1.map fun visit => (visit.1, idsOf visit.2),
      (r.2.aclStats.rules 0).1, r.2.sockets.entries.map fun s => s.udp.count)) =
      some ([(.ethInput, {0, 1}), (.ipv4Input, {0, 1}), (.ipv4Acl, {0, 1}), (.udpInput, {1}), (.ipv4Forward, {0}),
        (.ethOutput, {0}), (.arpOutput, {2}), (.tx, {2})], 2, [1, 0, 0, 0]) := by
  have hmbufs : DistinctMbufs guardedRuntime receivedFrame := distinctMbufs_of_empty rfl (by decide) (by decide)
  obtain ⟨n, hcovered⟩ := firewall_covers_delivery guardedRuntime receivedFrame ⟨rfl, fun _ => rfl, rfl⟩ hmbufs (by decide)
    (by decide)
  refine ⟨⟨n, fun fuel hfuel => ?_⟩, by decide +kernel⟩
  obtain ⟨log, rt', hrun, -, hvisits⟩ := hcovered fuel hfuel
  exact ⟨log, rt', hrun, fun visit hvisit p hp => ⟨(hvisits visit hvisit p hp).1, (hvisits visit hvisit p hp).2.2⟩⟩

end PulsarNetstack
