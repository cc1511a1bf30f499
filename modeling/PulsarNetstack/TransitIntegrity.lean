import PulsarNetstack.ArpPacing
import PulsarNetstack.EmittedPackets
import PulsarNetstack.IpcFraming

namespace PulsarNetstack

open Program

section Bytes

variable {l bytes : List Byte} {i j : ℕ} {x : Byte}

theorem byteAt_putBytes_of_lt (h : i ≤ l.length) (hj : j < i) : byteAt (putBytes l i bytes) j = byteAt l j := by
  rw [putBytes, List.append_assoc, byteAt, byteAt, List.getD_eq_getElem?_getD, List.getD_eq_getElem?_getD,
    List.getElem?_append_left (by rw [List.length_take_of_le h]; exact hj), List.getElem?_take_of_lt hj]

theorem byteAt_putBytes_of_ge (h : i + bytes.length ≤ l.length) (hj : i + bytes.length ≤ j) :
    byteAt (putBytes l i bytes) j = byteAt l j := by
  have hlength : (l.take i ++ bytes).length = i + bytes.length := by
    rw [List.length_append, List.length_take_of_le (by omega)]
  rw [putBytes, byteAt, byteAt, List.getD_eq_getElem?_getD, List.getD_eq_getElem?_getD,
    List.getElem?_append_right (by rw [hlength]; exact hj), hlength, List.getElem?_drop, Nat.add_sub_of_le hj]

theorem byteAt_putBytes_self (h : i < l.length) : byteAt (putBytes l i [x]) i = x := by
  have hlength : (l.take i).length = i := List.length_take_of_le (Nat.le_of_lt h)
  rw [putBytes, List.append_assoc, byteAt, List.getD_eq_getElem?_getD, List.getElem?_append_right (by rw [hlength]), hlength,
    Nat.sub_self]
  rfl

def Plain (ip : List Byte) : Prop := (byteAt ip 0).toNat % 16 * 4 = ipv4HdrLen

theorem withIpv4Cksum_valid {ip : List Byte} (hlength : ipv4HdrLen ≤ ip.length) (hplain : Plain ip) :
    ipv4Cksum (withIpv4Cksum ip) = 0 := by
  have hlength : 20 ≤ ip.length := hlength
  have hbefore : (ip.take 10).length = 10 := List.length_take_of_le (by omega)
  have hcleared : putBytes ip 10 [0, 0] = ip.take 10 ++ [0, 0] ++ ip.drop 12 := rfl
  have htake (field : List Byte) (hfield : field.length = 2) :
      (ip.take 10 ++ field ++ ip.drop 12).take 20 = ip.take 10 ++ field ++ (ip.drop 12).take 8 := by
    have hstart : (ip.take 10 ++ field).length = 12 := by rw [List.length_append, hbefore, hfield]
    rw [List.take_append, List.take_of_length_le (by omega), hstart]
  have hfirst (field : List Byte) : byteAt (ip.take 10 ++ field ++ ip.drop 12) 0 = byteAt ip 0 := by
    rw [List.append_assoc, byteAt, List.getD_eq_getElem?_getD, List.getElem?_append_left (by omega),
      List.getElem?_take_of_lt (by decide), ← List.getD_eq_getElem?_getD]
    rfl
  have hheader : (byteAt ip 0).toNat % 16 * 4 = 20 := hplain
  have hcksum (field : List Byte) (hfield : field.length = 2) : ipv4Cksum (ip.take 10 ++ field ++ ip.drop 12) =
      65535 - rawCksum (ip.take 10 ++ field ++ (ip.drop 12).take 8) := by
    rw [ipv4Cksum, hfirst, hheader, htake field hfield]
  rw [withIpv4Cksum, hcleared, putBytes_middle hbefore (cksumBytes_length _), hcksum _ (cksumBytes_length _), hcksum [0, 0] rfl,
    rawCksum_stored]
  · rw [hbefore]
  · simp only [List.length_append, List.length_take, List.length_drop, List.length_cons, List.length_nil]
    omega
  · -- The first byte is not zero.
    obtain ⟨a, b, rest, hip⟩ : ∃ a b rest, ip.take 10 = a :: b :: rest := by
      rcases htaken : ip.take 10 with _ | ⟨a, _ | ⟨b, rest⟩⟩
      · rw [htaken] at hbefore
        cases hbefore
      · rw [htaken] at hbefore
        cases hbefore
      · exact ⟨a, b, rest, rfl⟩
    have ha : byteAt ip 0 = a := by
      have hbyte : byteAt (ip.take 10) 0 = byteAt ip 0 := byteAt_take (by decide)
      rw [← hbyte, hip]
      rfl
    rw [ha] at hheader
    rw [hip]
    change 0 < a.toNat + b.toNat * 256 + _
    omega

end Bytes

structure Intact (ip sent : List Byte) : Prop where
  length : sent.length = ip.length
  same {i : ℕ} : i ≠ 8 → i ≠ 10 → i ≠ 11 → byteAt sent i = byteAt ip i
  ttl : (byteAt sent 8).toNat + 1 = (byteAt ip 8).toNat
  checksum : ipv4Cksum sent = 0

def decremented (ip : List Byte) : List Byte := withIpv4Cksum (putBytes ip 8 [byteAt ip 8 - 1])

theorem decremented_intact {ip : List Byte} (hlength : ipv4HdrLen ≤ ip.length) (hplain : Plain ip)
    (httl : 2 ≤ (byteAt ip 8).toNat) : Intact ip (decremented ip) := by
  have hlength : 20 ≤ ip.length := hlength
  have h8 : (putBytes ip 8 [byteAt ip 8 - 1]).length = ip.length := putBytes_length (by rw [List.length_singleton]; omega)
  have h10 : (putBytes (putBytes ip 8 [byteAt ip 8 - 1]) 10 [0, 0]).length = ip.length := by
    rw [putBytes_length, h8]
    rw [h8, List.length_cons, List.length_singleton]
    omega
  have hcksum {i : ℕ} (h : i < 10 ∨ 12 ≤ i) : byteAt (decremented ip) i = byteAt (putBytes ip 8 [byteAt ip 8 - 1]) i := by
    rw [decremented, withIpv4Cksum]
    obtain h | h := h
    · rw [byteAt_putBytes_of_lt (by omega) h, byteAt_putBytes_of_lt (by omega) h]
    · rw [byteAt_putBytes_of_ge (by rw [cksumBytes_length]; omega) (by rw [cksumBytes_length]; exact h),
        byteAt_putBytes_of_ge (by rw [h8, List.length_cons, List.length_singleton]; omega) h]
  have hother {i : ℕ} (h : i ≠ 8) : byteAt (putBytes ip 8 [byteAt ip 8 - 1]) i = byteAt ip i := by
    obtain h | h := Nat.lt_or_gt_of_ne h
    · exact byteAt_putBytes_of_lt (by omega) h
    · exact byteAt_putBytes_of_ge (by rw [List.length_singleton]; omega) h
  refine ⟨?_, fun h8 h10 h11 => ?_, ?_, ?_⟩
  · rw [decremented, withIpv4Cksum, putBytes_length, h10]
    rw [h10, cksumBytes_length]
    omega
  · rw [hcksum (by omega), hother h8]
  · rw [hcksum (.inl (by decide)), byteAt_putBytes_self (by omega)]
    generalize byteAt ip 8 = t at httl ⊢
    bv_omega
  · apply withIpv4Cksum_valid
    · rw [h8]
      exact hlength
    · rw [Plain, hother (by decide)]
      exact hplain

section Stages

variable {r r' : Routing} {p : Packet} {n : NodeId} {b : Buffer} {ctx : PacketCtx} {forwarding : Bool}

def receivedDatagram (b : Buffer) : List Byte :=
  (b.data.drop etherHdrLen).take (be16 (b.data.drop etherHdrLen) 2)

theorem ethInput_enqueues (h : ethInput r p.1.buffer p.2 = .enqueue n b ctx) :
    (n = .arpInput ∨ n = .ipv4Input) ∧ b = p.1.buffer ∧ ctx = { p.2 with l3Offset := etherHdrLen } := by
  unfold ethInput at h
  split at h
  · cases h
  split at h
  · cases h
  split at h
  · cases h
  dsimp only at h
  split at h
  · cases h
  split at h
  · cases h
  split at h
  · cases h
    exact ⟨.inl rfl, rfl, rfl⟩
  split at h
  · cases h
    exact ⟨.inr rfl, rfl, rfl⟩
  · cases h

theorem ipv4Input_ethFrame (hp : EthFrame r' p) (h : ipv4Input r p.1.buffer p.2 = .enqueue n b ctx) : EthFrame r p := by
  unfold ipv4Input at h
  split at h
  · cases h
  rename_i port hport
  exact ⟨ingressPort_isSome hport, hp.chain, hp.l3Offset, hp.length⟩

theorem ipv4Input_enqueues (h : ipv4Input r p.1.buffer p.2 = .enqueue n b ctx) : n = .ipv4Acl ∧
    ctx.ingressPortId = p.2.ingressPortId ∧ ctx.transit = p.2.transit ∧
    (EthFrame r p → b.data.drop etherHdrLen = receivedDatagram p.1.buffer) := by
  unfold ipv4Input at h
  split at h
  · cases h
  split at h
  · cases h
  dsimp only at h
  split at h
  · cases h
  rename_i hheader
  split at h
  · cases h
  split at h
  · cases h
  split at h
  · cases h
  split at h
  · cases h
  simp only [not_or, not_not, not_lt] at hheader
  obtain ⟨-, -, -, hlength, -, -⟩ := hheader
  injection h with hnode hb hctx
  subst hnode hb hctx
  refine ⟨rfl, rfl, rfl, fun hp => ?_⟩
  obtain ⟨hdata, -⟩ := trim_padding hp.chain hlength
  rw [hdata, hp.l3Offset, List.drop_take, Nat.add_sub_cancel_left]
  rfl

theorem ipv4Acl_enqueues (h : ipv4Acl r forwarding p.1.buffer p.2 = .enqueue n b ctx) : b = p.1.buffer ∧
    (n = .ipv4Forward ∧ ctx = { p.2 with transit := true } ∨
      (n = .icmpInput ∨ n = .udpInput ∨ n = .tcpInput) ∧ ctx = p.2) := by
  unfold ipv4Acl at h
  dsimp only at h
  split at h
  · split at h
    · cases h
    split at h
    · cases h
    split at h
    · cases h
    · cases h
      exact ⟨rfl, .inl ⟨rfl, rfl⟩⟩
  split at h
  · cases h
    exact ⟨rfl, .inr ⟨.inl rfl, rfl⟩⟩
  split at h
  · cases h
    exact ⟨rfl, .inr ⟨.inr (.inl rfl), rfl⟩⟩
  split at h
  · cases h
    exact ⟨rfl, .inr ⟨.inr (.inr rfl), rfl⟩⟩
  · cases h

def transitRoute (r : Routing) (ingressPortId : ℕ) (ip : List Byte) : DropReason × RouteResult :=
  ipv4RouteQuery r (wordAt ip 16) (wordAt ip 12) (ingressId r ingressPortId) {}

structure Outgoing (r : Routing) (ingressPortId : ℕ) (ip : List Byte) (p : Packet) : Prop where
  ttl : 2 ≤ (byteAt ip 8).toNat
  routed : (transitRoute r ingressPortId ip).1 = .none
  fits : be16 ip 2 ≤ (transitRoute r ingressPortId ip).2.mtu
  data : p.1.buffer.data = decremented ip
  chain : p.1.buffer.chainLen = 0
  egress : p.2.egressPortId = routePortId r (transitRoute r ingressPortId ip).2
  nextHop : p.2.nextHop = (transitRoute r ingressPortId ip).2.nextHop

theorem ipv4Forward_enqueues (h : (ipv4Forward r p.1.buffer p.2).2 = .enqueue n b ctx) : n = .ethOutput ∧
    ∀ r', EthFrame r' p → Outgoing r p.2.ingressPortId (ipHeader p) (⟨p.1.id, b⟩, ctx) := by
  unfold ipv4Forward at h
  dsimp only at h
  split at h
  · cases h
  rename_i httl
  split at h
  · cases h
  rename_i hfound
  split at h
  · cases h
  rename_i hmtu
  injection h with hnode hb hctx
  subst hnode hb hctx
  refine ⟨rfl, fun r' hp => ?_⟩
  have hl3 : p.2.l3Offset ≤ p.1.buffer.data.length := hp.l3Offset ▸ hp.length
  refine ⟨Nat.not_le.mp httl, not_not.mp hfound, Nat.not_lt.mp hmtu, ?_, ?_, rfl, rfl⟩
  all_goals
    dsimp only [stripToIpv4]
    unfold Buffer.adj
    rw [if_neg (by rw [List.length_append, List.length_take_of_le hl3]; omega)]
  · exact List.drop_left' (List.length_take_of_le hl3)
  · exact hp.chain

end Stages

section Journeys

variable {V : Runtime → Prop} {S : Packet → Prop} {p q : Packet} {n : NodeId}

inductive Reaches (V : Runtime → Prop) (p : Packet) : NodeId → Packet → Prop
  | received : Reaches V p .ethInput p
  | ethInput {rt : Runtime} {q : Packet} {b : Buffer} {ctx : PacketCtx} (state : V rt) (reached : Reaches V p .ethInput q)
      (run : ethInput rt.routing q.1.buffer q.2 = .enqueue .ipv4Input b ctx) : Reaches V p .ipv4Input (⟨q.1.id, b⟩, ctx)
  | ipv4Input {rt : Runtime} {q : Packet} {b : Buffer} {ctx : PacketCtx} (state : V rt) (reached : Reaches V p .ipv4Input q)
      (run : ipv4Input rt.routing q.1.buffer q.2 = .enqueue .ipv4Acl b ctx) : Reaches V p .ipv4Acl (⟨q.1.id, b⟩, ctx)
  | ipv4Acl {rt : Runtime} {q : Packet} {b : Buffer} {ctx : PacketCtx} (state : V rt) (reached : Reaches V p .ipv4Acl q)
      (run : ipv4Acl rt.routing rt.ipv4Forwarding q.1.buffer q.2 = .enqueue .ipv4Forward b ctx) :
      Reaches V p .ipv4Forward (⟨q.1.id, b⟩, ctx)
  | ipv4Forward {rt : Runtime} {q : Packet} {b : Buffer} {ctx : PacketCtx} (state : V rt)
      (reached : Reaches V p .ipv4Forward q) (run : (ipv4Forward rt.routing q.1.buffer q.2).2 = .enqueue .ethOutput b ctx) :
      Reaches V p .ethOutput (⟨q.1.id, b⟩, ctx)
  | waits {q : Packet} (reached : Reaches V p .ethOutput q) :
      Reaches V p .ethOutput (q.1, { q.2 with reportAcceptance := false })
  | ethOutput {rt : Runtime} {q : Packet} {port : PortState} {mac : Mac} {b : Buffer} (state : V rt)
      (reached : Reaches V p .ethOutput q) (egress : egressPort rt.routing q.2.egressPortId = some port)
      (resolved : neighbourLookup rt.neighbours (BitVec.ofNat 16 port.id) q.2.nextHop = .ok mac)
      (framed : q.1.buffer.prepend (macBytes mac ++ macBytes port.mac ++ be16Bytes etherTypeIpv4) = some b) :
      Reaches V p .tx (⟨q.1.id, b⟩, { q.2 with
        l3Offset := add16 q.2.l3Offset etherHdrLen, l4Offset := add16 q.2.l4Offset etherHdrLen })

def afterEthernet (p : Packet) : Packet := (p.1, { p.2 with l3Offset := etherHdrLen })

def Tracked (V : Runtime → Prop) (S : Packet → Prop) (n : NodeId) (q : Packet) : Prop :=
  match n with
  | .drop => True
  | .ethInput | .ipv4Input | .ipv4Acl => q.2.transit = false ∧ ∃ p, S p ∧ Reaches V p n q
  | .ipv4Forward => ∃ p, S p ∧ Reaches V p n q
  | .ethOutput | .tx => q.2.transit = true → ∃ p, S p ∧ Reaches V p n q
  | .arpInput => q.2.transit = false ∧ ∃ p, S p ∧ q = afterEthernet p
  | .icmpInput | .udpInput | .tcpInput | .ipv4Route | .udpOutput | .ipv4Output | .arpOutput => q.2.transit = false

structure Underway (V : Runtime → Prop) (S : Packet → Prop) (rt : Runtime) : Prop where
  state : V rt
  parked (i : Fin neighbourPendingMax) : ∀ q ∈ (rt.pendingNeighbours i).packets, Tracked V S .ethOutput q

theorem tracked_of_unmarked (hn : n.outbound = true) (hq : q.2.transit = false) : Tracked V S n q := by
  have hmarked (h : q.2.transit = true) : ∃ p, S p ∧ Reaches V p n q := by
    rw [hq] at h
    cases h
  cases n with
  | drop => trivial
  | tx | ethOutput => exact hmarked
  | arpOutput | ipv4Output | udpOutput | ipv4Route => exact hq
  | ethInput | arpInput | ipv4Input | ipv4Acl | ipv4Forward | icmpInput | udpInput | tcpInput => cases hn

theorem tracked_own (hn : n.own = true) (hq : Tracked V S n q) : q.2.transit = false := by
  cases n with
  | arpInput => exact hq.1
  | icmpInput | udpInput | tcpInput | ipv4Route | udpOutput | ipv4Output | arpOutput => exact hq
  | ethInput | ipv4Input | ipv4Acl | ipv4Forward | ethOutput | tx | drop => cases hn

theorem Reaches.at_ethInput (h : Reaches V p .ethInput q) : q = p := by
  cases h
  rfl

theorem tracked_carriage (V : Runtime → Prop) (S : Packet → Prop) : Carriage (Tracked V S) (Underway V S) where
  parked i h := h.parked i
  fresh := tracked_of_unmarked
  dropped _ := trivial
  own hn hm hp hq := tracked_of_unmarked hm (hq.trans (tracked_own hn hp))
  ethInput {rt q} hrt hq n b ctx hrun := by
    obtain ⟨hmark, p, hp, hreached⟩ := hq
    obtain ⟨rfl | rfl, hb, hctx⟩ := ethInput_enqueues hrun
    · rw [hb, hctx]
      exact ⟨hmark, p, hp, by rw [hreached.at_ethInput]; rfl⟩
    · exact ⟨by rw [hctx]; exact hmark, p, hp, .ethInput hrt.state hreached hrun⟩
  ipv4Input {rt q} hrt hq n b ctx hrun := by
    obtain ⟨hmark, p, hp, hreached⟩ := hq
    obtain ⟨rfl, -, htransit, -⟩ := ipv4Input_enqueues hrun
    exact ⟨htransit.trans hmark, p, hp, .ipv4Input hrt.state hreached hrun⟩
  ipv4Acl {rt q} hrt hq n b ctx hrun := by
    obtain ⟨hmark, p, hp, hreached⟩ := hq
    obtain ⟨-, ⟨rfl, -⟩ | ⟨hn, hctx⟩⟩ := ipv4Acl_enqueues hrun
    · exact ⟨p, hp, .ipv4Acl hrt.state hreached hrun⟩
    · rw [hctx]
      obtain rfl | rfl | rfl := hn
      · exact hmark
      · exact hmark
      · exact hmark
  ipv4Forward {rt q} hrt hq n b ctx hrun := by
    obtain ⟨p, hp, hreached⟩ := hq
    obtain ⟨rfl, -⟩ := ipv4Forward_enqueues hrun
    exact fun _ => ⟨p, hp, .ipv4Forward hrt.state hreached hrun⟩
  waits hq hmark := by
    obtain ⟨p, hp, hreached⟩ := hq hmark
    exact ⟨p, hp, .waits hreached⟩
  ethOutput hrt hq hport hmac hb hmark := by
    obtain ⟨p, hp, hreached⟩ := hq hmark
    exact ⟨p, hp, .ethOutput hrt.state hreached hport hmac hb⟩

structure Known (G : Routing → Prop) (T : NeighbourTable → Prop) (rt : Runtime) : Prop where
  routing : G rt.routing
  neighbours : T rt.neighbours

def LearnsArp (G : Routing → Prop) (T : NeighbourTable → Prop) (S : Packet → Prop) : Prop :=
  ∀ r p port t, G r → S p → Teaches r (afterEthernet p) port → T t → T (neighbourLearn t (BitVec.ofNat 16 port.id)
    (wordAt (p.1.buffer.data.drop etherHdrLen) 14) (macAt (p.1.buffer.data.drop etherHdrLen) 8)).1

theorem underway_queues {G : Routing → Prop} {T : NeighbourTable → Prop} (hlearns : LearnsArp G T S)
    (ticking : Ticking) : Queues ticking (Tracked (Known G T) S) (Underway (Known G T) S) where
  still {rt rt'} h hstill := by
    refine ⟨⟨?_, ?_⟩, fun i => ?_⟩
    · rw [hstill.routing]
      exact h.state.routing
    · rw [hstill.neighbours]
      exact h.state.neighbours
    · rw [hstill.queues]
      exact h.parked i
  change {rt rt' queues logs} h _ hparked hmoved := by
    refine ⟨⟨?_, ?_⟩, fun i => ?_⟩
    · rw [hmoved.routing]
      exact h.state.routing
    · rw [hmoved.neighbours]
      exact h.state.neighbours
    · rw [hmoved.queues]
      exact hparked i
  learn {rt rt' q port} h hq hteaches h' := by
    obtain ⟨-, p, hp, rfl⟩ := hq
    exact ⟨⟨h'.state.routing, hlearns _ p port _ h.state.routing hp hteaches h'.state.neighbours⟩, h'.parked⟩
  carriage := tracked_carriage _ S

structure FromDevice (p : Packet) : Prop where
  unmarked : p.2.transit = false
  whole : p.1.buffer.isContiguous = true → p.1.buffer.chainLen = 0

theorem Reaches.at_ipv4Input (hp : FromDevice p) (h : Reaches V p .ipv4Input q) :
    q = afterEthernet p ∧ ∃ r, EthFrame r q := by
  cases h with
  | ethInput _ reached run =>
    obtain rfl := reached.at_ethInput
    have hframe := ethInput_parsed hp.whole run
    obtain ⟨-, rfl, rfl⟩ := ethInput_enqueues run
    exact ⟨rfl, _, hframe⟩

structure Cut (p q : Packet) : Prop where
  id : q.1.id = p.1.id
  datagram : q.1.buffer.data.drop etherHdrLen = receivedDatagram p.1.buffer
  ingress : q.2.ingressPortId = p.2.ingressPortId
  parsed : ∃ r, IpPacket r q

theorem Reaches.at_ipv4Acl (hp : FromDevice p) (h : Reaches V p .ipv4Acl q) : Cut p q := by
  cases h with
  | ipv4Input _ reached run =>
    obtain ⟨rfl, _, hframe⟩ := reached.at_ipv4Input hp
    have hframe := ipv4Input_ethFrame hframe run
    obtain ⟨-, hingress, -, hcut⟩ := ipv4Input_enqueues (p := afterEthernet p) run
    exact ⟨rfl, hcut hframe, hingress, _, ipv4Input_parsed hframe run⟩

theorem Reaches.at_ipv4Forward (hp : FromDevice p) (h : Reaches V p .ipv4Forward q) : Cut p q := by
  cases h with
  | ipv4Acl _ reached run =>
    obtain ⟨hid, hdatagram, hingress, r, hparsed⟩ := reached.at_ipv4Acl hp
    obtain ⟨rfl, ⟨-, rfl⟩ | ⟨hn, -⟩⟩ := ipv4Acl_enqueues run
    · exact ⟨hid, hdatagram, hingress, r, { hparsed with }⟩
    · obtain hn | hn | hn := hn
      all_goals cases hn

theorem Cut.plain (h : Cut p q) : ipv4HdrLen ≤ (receivedDatagram p.1.buffer).length ∧ Plain (receivedDatagram p.1.buffer) ∧
    (receivedDatagram p.1.buffer).length = be16 (receivedDatagram p.1.buffer) 2 := by
  obtain ⟨r, hparsed⟩ := h.parsed
  have hip : ipHeader q = receivedDatagram p.1.buffer := by
    rw [ipHeader, hparsed.l3Offset]
    exact h.datagram
  have hlength : (receivedDatagram p.1.buffer).length = be16 (receivedDatagram p.1.buffer) 2 := by
    have hdata := hparsed.dataLen
    rw [hip] at hdata
    rw [← h.datagram, List.length_drop, hdata, h.datagram, Nat.add_sub_cancel_left]
  have htotal := hparsed.total
  have hheader := hparsed.headerLen
  rw [hip] at htotal hheader
  exact ⟨hlength ▸ htotal, hheader, hlength⟩

theorem Reaches.at_ethOutput (hp : FromDevice p) (h : Reaches V p .ethOutput q) : q.1.id = p.1.id ∧
    (∃ p', Cut p p') ∧ ∃ rt, V rt ∧ Outgoing rt.routing p.2.ingressPortId (receivedDatagram p.1.buffer) q := by
  generalize hn : NodeId.ethOutput = n at h
  induction h with
  | received => cases hn
  | ethInput => cases hn
  | ipv4Input => cases hn
  | ipv4Acl => cases hn
  | ethOutput => cases hn
  | @ipv4Forward rt q' b ctx state reached run _ =>
    have hcut := reached.at_ipv4Forward hp
    obtain ⟨r, hparsed⟩ := hcut.parsed
    have hout := (ipv4Forward_enqueues run).2 r ⟨hparsed.ingress, hparsed.chain, hparsed.l3Offset, hparsed.length⟩
    rw [hcut.ingress, ipHeader, hparsed.l3Offset, hcut.datagram] at hout
    exact ⟨hcut.id, ⟨_, hcut⟩, rt, state, hout⟩
  | @waits q' _ ih =>
    obtain ⟨hid, hcut, rt, state, hout⟩ := ih hn
    exact ⟨hid, hcut, rt, state, hout.ttl, hout.routed, hout.fits, hout.data, hout.chain, hout.egress, hout.nextHop⟩

end Journeys

def wireFrame (destination source : Mac) (datagram : List Byte) : List Byte :=
  macBytes destination ++ macBytes source ++ be16Bytes etherTypeIpv4 ++ datagram ++
    List.replicate (etherMinLen - (etherHdrLen + datagram.length)) 0

theorem prepend_append {b b₁ b₂ : Buffer} {destination source : Mac} (hchain : b.chainLen = 0)
    (hframed : b.prepend (macBytes destination ++ macBytes source ++ be16Bytes etherTypeIpv4) = some b₁)
    (hpadded : b₁.append (List.replicate (etherMinLen - b₁.pktLen) 0) = some b₂) :
    b₂.data = wireFrame destination source b.data ∧ b₂.chainLen = 0 := by
  unfold Buffer.prepend at hframed
  split at hframed
  · cases hframed
  obtain rfl := Option.some.inj hframed
  unfold Buffer.append at hpadded
  split at hpadded
  · cases hpadded
  obtain rfl := Option.some.inj hpadded
  refine ⟨?_, hchain⟩
  have hpkt : (macBytes destination ++ macBytes source ++ be16Bytes etherTypeIpv4 ++ b.data).length + b.chainLen =
      etherHdrLen + b.data.length := by
    rw [hchain, List.length_append]
    rfl
  rw [wireFrame, Buffer.pktLen]
  dsimp only
  rw [hpkt]

section Departures

variable {G : Routing → Prop} {T : NeighbourTable → Prop} {E : Word16 → Word → Mac → Prop} {S : Packet → Prop}
  {p q : Packet} {rt rt' : Runtime}

inductive Leaves (G : Routing → Prop) (T : NeighbourTable → Prop) (p q : Packet) : Prop
  | frame {r r' : Routing} {t : NeighbourTable} {route : RouteResult} {dev port : PortState} {mac : Mac} {sent : List Byte}
      (routing : G r) (selected : transitRoute r p.2.ingressPortId (receivedDatagram p.1.buffer) = (.none, route))
      (ttl : 2 ≤ (byteAt (receivedDatagram p.1.buffer) 8).toNat) (fits : (receivedDatagram p.1.buffer).length ≤ route.mtu)
      (intact : Intact (receivedDatagram p.1.buffer) sent) (device : netifById r route.netifId = some dev)
      (egress : q.2.egressPortId = dev.portId) (routing' : G r') (source : egressPort r' dev.portId = some port)
      (neighbours : T t) (resolved : neighbourLookup t (BitVec.ofNat 16 port.id) route.nextHop = .ok mac)
      (id : q.1.id = p.1.id) (whole : q.1.buffer.chainLen = 0) (wire : q.1.buffer.data = wireFrame mac port.mac sent)

theorem Reaches.leaves (hG : ∀ r, G r → WellRouted r) (hp : FromDevice p) (h : Reaches (Known G T) p .tx q) {b : Buffer}
    (hpadded : q.1.buffer.append (List.replicate (etherMinLen - q.1.buffer.pktLen) 0) = some b) :
    Leaves G T p (⟨q.1.id, b⟩, q.2) := by
  cases h with
  | @ethOutput rt' q' port mac b' state reached egress resolved framed =>
    obtain ⟨hid, ⟨_, hcut⟩, rt, known, hout⟩ := reached.at_ethOutput hp
    obtain ⟨htotal, hplain, hlength⟩ := hcut.plain
    obtain ⟨dev, hdev, -⟩ := (hG _ known.routing).routeQuery _ _ _ _ hout.routed
    have hegress : q'.2.egressPortId = dev.portId := by
      rw [hout.egress, routePortId]
      exact congrArg (fun d : Option PortState => (d.map PortState.portId).getD 0) hdev
    obtain ⟨hwire, hwhole⟩ := prepend_append hout.chain framed hpadded
    rw [hout.data] at hwire
    rw [hegress] at egress
    rw [hout.nextHop] at resolved
    exact .frame known.routing (Prod.ext hout.routed rfl) hout.ttl (hlength.trans_le hout.fits)
      (decremented_intact htotal hplain hout.ttl) hdev hegress state.routing egress state.neighbours resolved hid hwhole hwire

theorem txPrepare_pads (frame : Frame) : Safe (fun _ => True) (txPrepare frame) fun packets _ => ∀ q ∈ packets, ∃ p ∈ frame,
    ∃ b, p.1.buffer.append (List.replicate (etherMinLen - p.1.buffer.pktLen) 0) = some b ∧ q = (⟨p.1.id, b⟩, p.2) := by
  induction frame with
  | nil => exact Safe.pure fun _ _ => nofun
  | cons p frame ih =>
    have hrest : Safe (fun _ => True) (txPrepare frame) fun packets _ => ∀ q ∈ packets, ∃ p' ∈ p :: frame, ∃ b,
        p'.1.buffer.append (List.replicate (etherMinLen - p'.1.buffer.pktLen) 0) = some b ∧ q = (⟨p'.1.id, b⟩, p'.2) := by
      apply ih.conseq fun _ h => h
      intro packets _ h q hq
      obtain ⟨p', hp', h⟩ := h q hq
      exact ⟨p', List.mem_cons_of_mem _ hp', h⟩
    unfold txPrepare
    apply Safe.peek
    intro rt _
    split
    · exact Safe.bind (Q := fun _ _ => True) ⟨fun _ _ _ _ _ => trivial⟩ fun _ => hrest
    split
    · refine Safe.bind (Q := fun _ _ => True) ⟨fun _ _ _ _ _ => trivial⟩ fun _ => ?_
      exact Safe.bind (Q := fun _ _ => True) ⟨fun _ _ _ _ _ => trivial⟩ fun _ => hrest
    rename_i b hb
    apply Safe.bind hrest
    intro rest
    apply Safe.pure
    intro _ h q hq
    obtain rfl | hq := List.mem_cons.mp hq
    · exact ⟨p, List.mem_cons_self, b, hb, rfl⟩
    · exact h q hq

/-- A run with the tables of `G`, in which the neighbours of `E` are configured and the packets of `S` are received. -/
inductive TransitRun (G : Routing → Prop) (T : NeighbourTable → Prop) (E : Word16 → Word → Mac → Prop) (S : Packet → Prop) :
    Runtime → Prop
  | boot {rt : Runtime} (booted : Booted rt) (known : Known G T rt) : TransitRun G T E S rt
  | progress {rt rt' : Runtime} {fuel timerNext next : ℕ} {bursts : ℕ → List Buffer} (h : TransitRun G T E S rt)
      (received : ∀ portId, ∀ b ∈ bursts portId, ∀ id, S (⟨id, b⟩, { ingressPortId := portId }))
      (run : appStep (graphSubmit fuel) bursts timerNext rt = some (next, rt')) : TransitRun G T E S rt'
  | call {rt rt' : Runtime} {fuel : ℕ} {call : SocketCall} {reply : CallReply} (h : TransitRun G T E S rt)
      (run : runCall (graphSubmit fuel) call rt = some (reply, rt')) : TransitRun G T E S rt'
  | dispatch {rt rt' : Runtime} {fuel : ℕ} {request response : DaemonItem} (h : TransitRun G T E S rt)
      (run : daemonDispatch (graphSubmit fuel) request rt = some (response, rt')) : TransitRun G T E S rt'
  | activate {rt rt' : Runtime} {fuel : ℕ} {group : AdminGroup} {next : NetConfig} {result : Except Errno Unit}
      (h : TransitRun G T E S rt) (known : G { rt.routing with network := some next })
      (run : adminActivate (graphSubmit fuel) group (some next) rt = some (result, rt')) : TransitRun G T E S rt'
  | operate {rt rt' : Runtime} {fuel steps : ℕ} {driver : PortDriver} {names : List String} {request : AdminRequest}
      {result : Except Errno Unit} (h : TransitRun G T E S rt)
      (known : ∀ port name dev, rt.namedDevice names request = some (port, name, dev) → request.group = .link →
        G (rt.relink dev (linkSet driver port.link request.v).1).routing)
      (asked : ∀ port name dev, rt.namedDevice names request = some (port, name, dev) → request.group = .neigh →
        E (BitVec.ofNat 16 dev) request.v.ip (request.v.sportMin.setWidth 16 ++ request.v.sportMax))
      (run : adminWorkerOperation (graphSubmit fuel) driver names steps request rt = some (result, rt')) :
      TransitRun G T E S rt'

theorem tracked_received (hp : S p) (hunmarked : p.2.transit = false) : Tracked (Known G T) S .ethInput p :=
  ⟨hunmarked, p, hp, .received⟩

theorem TransitRun.underway (hlearns : LearnsArp G T S) (hedits : ∀ t t', T t → Edited E t t' → T t')
    (h : TransitRun G T E S rt) : IdleGraph rt ∧ Underway (Known G T) S rt := by
  have hqueues : Queues (fun _ _ _ => True) (Tracked (Known G T) S) (Underway (Known G T) S) := underway_queues hlearns _
  induction h with
  | boot booted known =>
    refine ⟨booted.idle, known, fun i => ?_⟩
    rw [booted.pending]
    exact nofun
  | progress _ received run ih =>
    refine (hqueues.appStep _ (fun _ _ _ => trivial) fun portId b hb id => ?_).post _ _ _ ih run
    exact tracked_received (received portId b hb id) rfl
  | call _ run ih => exact (hqueues.resting.runCall (fun n _ hframe => hqueues.graph n hframe) _).post _ _ _ ih run
  | dispatch _ run ih => exact (hqueues.resting.daemonDispatch (fun n _ hframe => hqueues.graph n hframe) _).post _ _ _ ih run
  | activate _ known run ih =>
    refine (hqueues.adminActivate _ ih fun _ => ?_).post _ _ _ rfl run
    exact ⟨⟨known, ih.2.state.neighbours⟩, ih.2.parked⟩
  | operate _ known asked run ih =>
    refine (hqueues.adminWorkerOperation _ _ _ ih (fun port name dev hnamed hlink => ?_)
      (fun rt t hrt ht => ?_) asked).post _ _ _ rfl run
    · exact ⟨⟨known port name dev hnamed hlink, ih.2.state.neighbours⟩, ih.2.parked⟩
    · exact ⟨⟨hrt.state.routing, hedits _ _ hrt.state.neighbours ht⟩, hrt.parked⟩

/-- A forwarded packet leaves as it came, at once or after it has waited. -/
theorem transit_integrity (hG : ∀ r, G r → WellRouted r) (hlearns : LearnsArp G T S)
    (hedits : ∀ t t', T t → Edited E t t' → T t') (hreceived : ∀ p, S p → FromDevice p) :
    (∀ rt, TransitRun G T E S rt → IdleGraph rt ∧ Underway (Known G T) S rt) ∧
    (∀ p, S p → Tracked (Known G T) S .ethInput p) ∧
    ∀ fuel n frame rt log rt', IdleGraph rt → Underway (Known G T) S rt → (∀ p ∈ frame, Tracked (Known G T) S n p) →
      submitLog fuel n frame rt = some (log, rt') → (IdleGraph rt' ∧ Underway (Known G T) S rt') ∧
      ∀ visit ∈ log, visit.1 = .tx → ∀ before packets after, txPrepare visit.2 before = some (packets, after) →
        ∀ q ∈ packets, q.2.transit = true → ∃ p, S p ∧ Leaves G T p q := by
  refine ⟨fun rt h => h.underway hlearns hedits, fun p hp => tracked_received hp (hreceived p hp).unmarked, ?_⟩
  intro fuel n frame rt log rt' hidle hrt hframe hrun
  obtain ⟨hidle', hrt', hvisits⟩ := (underway_queues hlearns fun _ _ _ => True).visits hidle hrt hframe hrun
  refine ⟨⟨hidle', hrt'⟩, fun visit hvisit htx before packets after hprepare q hq hmark => ?_⟩
  obtain ⟨p', hp', b, hb, rfl⟩ := (txPrepare_pads visit.2).post _ _ _ trivial hprepare q hq
  have htracked := hvisits visit hvisit p' hp'
  rw [htx] at htracked
  obtain ⟨p, hp, hreached⟩ := htracked hmark
  exact ⟨p, hp, hreached.leaves hG (hreceived p hp) hb⟩

end Departures

def resolvedRuntime : Runtime :=
  { forwardingRuntime secondClock with
    neighbours := (neighbourLearn emptyNeighbours 0 (htonl 0xc0000201) 0x020000000001).1 }

theorem transit_integrity_resolved : ∃ p q, FromDevice p ∧
    Leaves (fun r => r = resolvedRuntime.routing) (fun _ => True) p q := by
  let stray : Packet := (⟨0, strayDatagram 5 188⟩, {})
  have hstray : FromDevice stray := ⟨rfl, fun _ => rfl⟩
  have hbooted := forwardingRuntime_booted secondClock
  have hfacts : ((submitLog 20 .ethInput [stray] resolvedRuntime).any fun r => r.1.any fun visit =>
      visit.1 == .tx && (txPrepare visit.2 resolvedRuntime).any fun s => s.1.any fun q => q.2.transit) = true := by
    decide +kernel
  obtain ⟨⟨log, rt'⟩, hrun, hlog⟩ := (Option.any_eq_true _ _).mp hfacts
  obtain ⟨visit, hvisit, hsent⟩ := List.any_eq_true.mp hlog
  obtain ⟨htx, hsent⟩ := Bool.and_eq_true_iff.mp hsent
  obtain ⟨⟨packets, after⟩, hprepare, hpackets⟩ := (Option.any_eq_true _ _).mp hsent
  obtain ⟨q, hq, hmark⟩ := List.any_eq_true.mp hpackets
  have hrouted (r : Routing) (hr : r = resolvedRuntime.routing) : WellRouted r := by
    rw [hr]
    exact hbooted.wellRouted
  have hdevice (p : Packet) (hp : p = stray) : FromDevice p := by
    rw [hp]
    exact hstray
  obtain ⟨-, htracked, hsends⟩ := transit_integrity (T := fun _ => True) (E := fun _ _ _ => True) hrouted
    (fun _ _ _ _ _ _ _ _ => trivial) (fun _ _ _ _ => trivial) hdevice
  obtain ⟨-, hsends⟩ := hsends 20 .ethInput [stray] resolvedRuntime log rt' ⟨hbooted.idle.queue, hbooted.idle.slots,
    hbooted.idle.active⟩ ⟨⟨rfl, trivial⟩, fun i => nofun⟩ (fun p hp => htracked p (List.mem_singleton.mp hp)) hrun
  obtain ⟨p, rfl, hleaves⟩ := hsends visit hvisit (eq_of_beq htx) resolvedRuntime packets after hprepare q hq hmark
  exact ⟨stray, q, hstray, hleaves⟩

end PulsarNetstack
