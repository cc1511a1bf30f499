import PulsarNetstack.AdminSnapshots
import PulsarNetstack.NeighbourMap
import PulsarNetstack.NodeRuns

namespace PulsarNetstack

section NextHop

variable {rt₀ rt : Routing} {c : NetConfig} {dst src iif ip : Word} {r out : RouteResult} {ports : ℕ} {p : NetRoute}

theorem NetConfigOk.address_prefixLen (h : NetConfigOk c ports) {a : NetAddress} (ha : a ∈ c.addresses) :
    a.prefixLen ≤ 32 := by
  obtain ⟨before, hb⟩ := validateEach_mem h.addresses ha
  rw [validateAddress, if_error_eq_ok] at hb
  exact BitVec.not_lt.mp fun hlt => hb.1 (.inr (.inl hlt))

theorem NetConfigOk.route_dev (h : NetConfigOk c ports) (hp : p ∈ c.routes) (htype : p.type = 0) : p.dev.toNat < ports := by
  obtain ⟨before, hb⟩ := validateEach_mem h.routes hp
  rw [validateRoute, if_error_eq_ok] at hb
  by_contra hn
  exact hb.1 (.inr (.inr (.inr (.inr (.inr (.inl ⟨htype, by omega⟩))))))

theorem netDirect_of_mem (hnetwork : rt.network = some c) (hmem : p ∈ c.routes) (htype : p.type = 0)
    (hgateway : p.gateway = 0) (hunicast : netUnicast ip = true) (hmatch : netMatch ip p.ip p.prefixLen = true)
    (hhost : netHost ip p.prefixLen = true) : netDirect rt p.dev ip = true := by
  rw [netDirect, hnetwork]
  dsimp only
  rw [hunicast, Bool.true_and, List.any_eq_true]
  exact ⟨p, hmem, by simp [htype, hgateway, hmatch, hhost]⟩

theorem GatewayOk.direct (h : GatewayOk c p) (hnetwork : rt.network = some c) (hconnected : Connected c.addresses c.routes) :
    netDirect rt p.dev p.gateway = true := by
  rcases h.onLink with ⟨a, ha, hlink⟩ | ⟨q, hq, hlink⟩
  · -- An address on the device has its connected route.
    rw [onLinkAddress, Bool.and_eq_true, Bool.and_eq_true, beq_iff_eq] at hlink
    obtain ⟨⟨hdev, hmatch⟩, hhost⟩ := hlink
    have hmem := (List.mem_filter.mp ((hconnected.image _).mpr ⟨a, ha, rfl⟩)).1
    rw [← hdev]
    exact netDirect_of_mem hnetwork hmem rfl rfl h.unicast hmatch hhost
  · simp only [onLinkRoute, Bool.and_eq_true, beq_iff_eq] at hlink
    obtain ⟨⟨⟨⟨⟨-, hdev⟩, htype⟩, hgateway⟩, hmatch⟩, hhost⟩ := hlink
    rw [← hdev]
    exact netDirect_of_mem hnetwork hq htype hgateway h.unicast hmatch hhost

theorem GatewayOk.destinationValid (h : GatewayOk c p) (hok : NetConfigOk c ports) (hnetwork : rt.network = some c) :
    ipv4DestinationValid rt p.gateway = true := by
  have hforeign : netifIsLocalIp rt p.gateway = false := by
    rw [netifIsLocalIp, hnetwork]
    apply List.any_eq_false.mpr
    intro a ha hlocal
    rw [Bool.and_eq_true, beq_iff_eq] at hlocal
    exact h.foreign a ha hlocal.1
  rw [ipv4DestinationValid, h.unicast, hforeign, hnetwork]
  dsimp only
  rw [Bool.not_false, Bool.true_and, Bool.true_and, List.all_eq_true]
  intro a ha
  exact (subnetHost_iff (hok.address_prefixLen ha)).mpr (h.host a ha)

theorem Resolved.onLink (h : Resolved rt c dst src r) (hsnapshot : SnapshotOk c ports) (hports : ports ≤ 65536)
    (hnetwork : rt.network = some c) (hremote : r.isLocal = false) :
    netDirect rt (BitVec.ofNat 32 r.netifId) r.nextHop = true ∧ ipv4DestinationValid rt r.nextHop = true := by
  have hok := netConfigValidate_eq_ok.mp hsnapshot.valid
  cases h with
  | own mem ip source isLocal =>
    rw [isLocal] at hremote
    cases hremote
  | @routed best port table pref source nextHop mem valid candidate unicast host port_eq nextHop_eq source_eq source_ne =>
    have hdev : BitVec.ofNat 32 (best.dev.toNat % 65536) = best.dev := by
      rw [Nat.mod_eq_of_lt ((hok.route_dev mem unicast).trans_le hports), BitVec.ofNat_toNat, BitVec.setWidth_eq]
    dsimp only
    rw [hdev, nextHop_eq]
    by_cases hgateway : best.gateway = 0
    · rw [if_neg (not_not.mpr hgateway)]
      have hunicast : netUnicast dst = true := by
        simp only [ipv4DestinationValid, Bool.and_eq_true] at valid
        exact valid.1.1
      exact ⟨netDirect_of_mem hnetwork mem unicast hgateway hunicast candidate.2.1 (host hgateway), valid⟩
    · rw [if_pos hgateway]
      have hgatewayOk := hsnapshot.gateways best mem hgateway
      exact ⟨hgatewayOk.direct hnetwork hsnapshot.connected, hgatewayOk.destinationValid hok hnetwork⟩

theorem validSourceIp_of_destinationValid (hnetwork : rt.network = some c) (h : ipv4DestinationValid rt ip = true)
    (port : PortState) : netifIsLocalIp rt ip = false ∧ validSourceIp rt port ip = true := by
  have hlocal : netifIsLocalIp rt ip = false := by
    simp only [ipv4DestinationValid, Bool.and_eq_true, Bool.not_eq_true'] at h
    exact h.1.2
  refine ⟨hlocal, ?_⟩
  rw [validSourceIp, hlocal, hnetwork]
  exact h

theorem Published.resolved (h : Published rt₀ c) (hnetwork : rt.network = some c)
    (hquery : ipv4RouteQuery rt dst src iif out = (.none, r)) : Resolved rt c dst src r := by
  obtain ⟨c₁, hprepare⟩ := h.prepared
  rw [ipv4RouteQuery, hnetwork] at hquery
  exact policyRouteQuery_resolved (netConfigValidate_eq_ok.mp h.snapshotOk.valid) (netConfigPrepare_index hprepare) hquery

end NextHop

section Release

variable {rt : Runtime} {x : Fin neighbourPendingMax → PendingNeighbour} {dev : Word16} {ip : Word} {node : NodeId}
variable {p : Packet} {packets : List Packet} {indices : List (Fin neighbourPendingMax)}

def Runtime.withPending (rt : Runtime) (x : Fin neighbourPendingMax → PendingNeighbour) : Runtime :=
  { rt with pendingNeighbours := x }

theorem freeFrame_withPending (rt : Runtime) (frame : Frame) :
    freeFrame (rt.withPending x) frame = (freeFrame rt frame).withPending x := by
  induction frame generalizing rt with
  | nil => rfl
  | cons p frame ih => exact ih (rt.free p.1 .enqueueFailed)

theorem flushPending_withPending (rt : Runtime) (o : NodeOutput) : flushPending (rt.withPending x) o node =
    ((flushPending rt o node).1.withPending x, (flushPending rt o node).2) := by
  rw [flushPending, flushPending]
  cases o.pending node with
  | none => rfl
  | some slot =>
    have hgraph : (rt.withPending x).graph = rt.graph := rfl
    dsimp only
    rw [hgraph]
    cases queueSlot rt.graph slot with
    | some g => rfl
    | none =>
      dsimp only
      rw [freeFrame_withPending]
      rfl

theorem appendPacket_withPending (rt : Runtime) (o : NodeOutput) (slot : SlotId) :
    appendPacket (rt.withPending x) o node slot p =
      ((appendPacket rt o node slot p).1.withPending x, (appendPacket rt o node slot p).2) := by
  rw [appendPacket, appendPacket]
  change (if ((rt.graph.slots slot).frame ++ [p]).length = graphFrameSize then _ else _) = _
  dsimp only
  by_cases hfull : ((rt.graph.slots slot).frame ++ [p]).length = graphFrameSize
  · rw [if_pos hfull, if_pos hfull]
    exact flushPending_withPending { rt with graph := _ } o
  · rw [if_neg hfull, if_neg hfull]
    rfl

theorem nodeEnqueue_withPending (rt : Runtime) (o : NodeOutput) : nodeEnqueue (rt.withPending x) o node p =
    ((nodeEnqueue rt o node p).1.withPending x, (nodeEnqueue rt o node p).2) := by
  rw [nodeEnqueue, nodeEnqueue]
  cases o.pending node with
  | some slot => exact appendPacket_withPending rt o slot
  | none =>
    have hgraph : (rt.withPending x).graph = rt.graph := rfl
    dsimp only
    rw [hgraph]
    cases slotAlloc rt.graph with
    | none => rfl
    | some sg =>
      obtain ⟨slot, g⟩ := sg
      exact appendPacket_withPending { rt with graph := _ } _ slot

theorem emit_withPending {out : NodeOutput} (h : rt.activeOutput = some out) :
    emit node p (rt.withPending x) = (emit node p rt).map fun r => (r.1, r.2.withPending x) := by
  rw [emit_eq (rt.withPending x) h, emit_eq rt h, nodeEnqueue_withPending]
  rfl

def handOver (packets : List Packet) : GraphM PUnit := packets.forM fun p => do let _ ← emit .ethOutput p

theorem handOver_cons : handOver (p :: packets) rt = (emit .ethOutput p rt).bind fun r => handOver packets r.2 := by
  change Option.bind (Option.bind (emit .ethOutput p rt) fun (r : Bool × Runtime) => some (PUnit.unit, r.2))
    (fun (r : PUnit × Runtime) => handOver packets r.2) = _
  rw [Option.bind_assoc]
  rfl

theorem handOver_append (packets' : List Packet) : handOver (packets ++ packets') rt =
    (handOver packets rt).bind fun r => handOver packets' r.2 := by
  induction packets generalizing rt with
  | nil => rfl
  | cons p packets ih =>
    rw [List.cons_append, handOver_cons, handOver_cons, Option.bind_assoc]
    congr 1
    funext r
    exact ih

theorem handOver_active (packets : List Packet) (x : Fin neighbourPendingMax → PendingNeighbour) {out : NodeOutput}
    (h : rt.activeOutput = some out) : ∃ s out', handOver packets rt = some (⟨⟩, s) ∧
    s.activeOutput = some out' ∧ handOver packets (rt.withPending x) = some (⟨⟩, s.withPending x) := by
  induction packets generalizing rt out with
  | nil => exact ⟨rt, out, rfl, h, rfl⟩
  | cons p packets ih =>
    rw [handOver_cons, handOver_cons, emit_withPending h, emit_eq rt h]
    exact ih rfl

theorem handOver_pending {s : Runtime} {out : NodeOutput} (h : rt.activeOutput = some out)
    (hs : handOver packets rt = some (⟨⟩, s)) : s.pendingNeighbours = rt.pendingNeighbours := by
  obtain ⟨s', out', hs', -, hsame⟩ := handOver_active packets rt.pendingNeighbours h
  have hrt : handOver packets rt = some (⟨⟩, s'.withPending rt.pendingNeighbours) := hsame
  rw [hs] at hrt
  rw [(Prod.mk.inj (Option.some.inj hrt)).2]
  rfl

def Awaits (dev : Word16) (ip : Word) (e : PendingNeighbour) : Prop := e.packets ≠ [] ∧ e.netifId = dev ∧ e.ip = ip

instance (dev : Word16) (ip : Word) : DecidablePred (Awaits dev ip) := fun e =>
  inferInstanceAs (Decidable (e.packets ≠ [] ∧ e.netifId = dev ∧ e.ip = ip))

def awaiting (x : Fin neighbourPendingMax → PendingNeighbour) (dev : Word16) (ip : Word)
    (indices : List (Fin neighbourPendingMax)) : List Packet :=
  indices.flatMap fun i => if Awaits dev ip (x i) then (x i).packets else []

def withoutAwaiting (x : Fin neighbourPendingMax → PendingNeighbour) (dev : Word16) (ip : Word)
    (indices : List (Fin neighbourPendingMax)) (i : Fin neighbourPendingMax) : PendingNeighbour :=
  if i ∈ indices ∧ Awaits dev ip (x i) then {} else x i

theorem awaiting_update {i : Fin neighbourPendingMax} {e : PendingNeighbour} (hi : i ∉ indices) :
    awaiting (Function.update x i e) dev ip indices = awaiting x dev ip indices := by
  apply List.flatMap_congr
  intro j hj
  have hne : j ≠ i := by
    rintro rfl
    exact hi hj
  rw [Function.update_of_ne hne]

theorem withoutAwaiting_update {i : Fin neighbourPendingMax} (hi : i ∉ indices) (hawaits : Awaits dev ip (x i)) :
    withoutAwaiting (Function.update x i {}) dev ip indices = withoutAwaiting x dev ip (i :: indices) := by
  funext j
  unfold withoutAwaiting
  by_cases hj : j = i
  · subst hj
    rw [Function.update_self, if_neg (fun h => hi h.1), if_pos ⟨List.mem_cons_self, hawaits⟩]
  · simp only [Function.update_of_ne hj, List.mem_cons, hj, false_or]

theorem withoutAwaiting_cons {i : Fin neighbourPendingMax} (hawaits : ¬ Awaits dev ip (x i)) :
    withoutAwaiting x dev ip indices = withoutAwaiting x dev ip (i :: indices) := by
  funext j
  unfold withoutAwaiting
  by_cases hj : j = i
  · subst hj
    rw [if_neg fun h => hawaits h.2, if_neg fun h => hawaits h.2]
  · simp only [List.mem_cons, hj, false_or]

def releaseEntry (submit : Submit) (dev : Word16) (ip : Word) (i : Fin neighbourPendingMax) : GraphM PUnit := do
  let rt ← get
  let entry := rt.pendingNeighbours i
  if entry.packets ≠ [] ∧ entry.netifId = dev ∧ entry.ip = ip then releasePending submit i

theorem releaseEntry_of_awaits {i : Fin neighbourPendingMax} {out : NodeOutput} (submit : Submit)
    (hactive : rt.activeOutput = some out) (h : Awaits dev ip (rt.pendingNeighbours i)) : releaseEntry submit dev ip i rt =
      handOver (rt.pendingNeighbours i).packets (rt.withPending (Function.update rt.pendingNeighbours i {})) := by
  change (if Awaits dev ip (rt.pendingNeighbours i) then releasePending submit i else pure PUnit.unit) rt = _
  rw [if_pos h]
  change (if rt.activeOutput.isSome = true then handOver (rt.pendingNeighbours i).packets
    else submit .ethOutput (rt.pendingNeighbours i).packets) _ = _
  rw [if_pos (by rw [hactive]; rfl)]
  rfl

theorem releaseEntry_of_not {i : Fin neighbourPendingMax} (submit : Submit) (h : ¬ Awaits dev ip (rt.pendingNeighbours i)) :
    releaseEntry submit dev ip i rt = some (⟨⟩, rt) := by
  change (if Awaits dev ip (rt.pendingNeighbours i) then releasePending submit i else pure PUnit.unit) rt = _
  rw [if_neg h]
  rfl

theorem releaseLoop_eq (submit : Submit) (dev : Word16) (ip : Word) {out : NodeOutput} (hactive : rt.activeOutput = some out)
    (hnodup : indices.Nodup) : indices.forM (releaseEntry submit dev ip) rt =
      handOver (awaiting rt.pendingNeighbours dev ip indices)
        (rt.withPending (withoutAwaiting rt.pendingNeighbours dev ip indices)) := by
  induction indices generalizing rt out with
  | nil => rfl
  | cons i indices ih =>
    obtain ⟨hi, hnodup⟩ := List.nodup_cons.mp hnodup
    change (releaseEntry submit dev ip i rt).bind (fun r => indices.forM (releaseEntry submit dev ip) r.2) = _
    by_cases hawaits : Awaits dev ip (rt.pendingNeighbours i)
    · -- The packets of the entry go first; clearing the entries behind it may as well come before that.
      have hsplit : awaiting rt.pendingNeighbours dev ip (i :: indices) =
          (rt.pendingNeighbours i).packets ++ awaiting rt.pendingNeighbours dev ip indices := by
        rw [awaiting, List.flatMap_cons, if_pos hawaits, awaiting]
      have hactive₁ : (rt.withPending (Function.update rt.pendingNeighbours i {})).activeOutput = some out := hactive
      obtain ⟨s, out', hs, hactive', hsame⟩ := handOver_active (rt.pendingNeighbours i).packets
        (withoutAwaiting rt.pendingNeighbours dev ip (i :: indices)) hactive₁
      have hpending := handOver_pending hactive₁ hs
      rw [releaseEntry_of_awaits submit hactive hawaits, hs, Option.bind_some, ih hactive' hnodup, hpending]
      change handOver (awaiting (Function.update rt.pendingNeighbours i {}) dev ip indices)
        (s.withPending (withoutAwaiting (Function.update rt.pendingNeighbours i {}) dev ip indices)) = _
      have hsame : handOver (rt.pendingNeighbours i).packets
          (rt.withPending (withoutAwaiting rt.pendingNeighbours dev ip (i :: indices))) = some (⟨⟩, s.withPending _) := hsame
      rw [awaiting_update hi, withoutAwaiting_update hi hawaits, hsplit, handOver_append, hsame]
      rfl
    · rw [releaseEntry_of_not submit hawaits, Option.bind_some, ih hactive hnodup, withoutAwaiting_cons hawaits]
      have hsplit : awaiting rt.pendingNeighbours dev ip (i :: indices) = awaiting rt.pendingNeighbours dev ip indices := by
        rw [awaiting, List.flatMap_cons, if_neg hawaits, List.nil_append, awaiting]
      rw [hsplit]

def Runtime.learned (rt : Runtime) (t : NeighbourTable) (dev : Word16) (ip : Word) : Runtime :=
  { rt with
    neighbours := t
    pendingNeighbours := withoutAwaiting rt.pendingNeighbours dev ip (List.finRange neighbourPendingMax) }

theorem neighbourUpdate_learned {submit : Submit} {netifId : ℕ} {mac : Mac}
    (hok : (neighbourLearn rt.neighbours (BitVec.ofNat 16 netifId) ip mac).2 = .ok ()) :
    neighbourUpdate submit netifId ip mac rt =
      (do
        (List.finRange neighbourPendingMax).forM (releaseEntry submit (BitVec.ofNat 16 netifId) ip)
        pure (.ok ()) : GraphM (Except Errno Unit))
        { rt with neighbours := (neighbourLearn rt.neighbours (BitVec.ofNat 16 netifId) ip mac).1 } := by
  have hrun : neighbourUpdate submit netifId ip mac rt =
      (if (neighbourLearn rt.neighbours (BitVec.ofNat 16 netifId) ip mac).2.isOk = true then do
        (List.finRange neighbourPendingMax).forM (releaseEntry submit (BitVec.ofNat 16 netifId) ip)
        pure (neighbourLearn rt.neighbours (BitVec.ofNat 16 netifId) ip mac).2
      else pure (neighbourLearn rt.neighbours (BitVec.ofNat 16 netifId) ip mac).2 : GraphM (Except Errno Unit))
        { rt with neighbours := (neighbourLearn rt.neighbours (BitVec.ofNat 16 netifId) ip mac).1 } := rfl
  rw [hrun, hok]
  rfl

theorem neighbourUpdate_eq (submit : Submit) {out : NodeOutput} {netifId : ℕ} {mac : Mac}
    (hactive : rt.activeOutput = some out)
    (hok : (neighbourLearn rt.neighbours (BitVec.ofNat 16 netifId) ip mac).2 = .ok ()) :
    neighbourUpdate submit netifId ip mac rt =
      (handOver (awaiting rt.pendingNeighbours (BitVec.ofNat 16 netifId) ip (List.finRange neighbourPendingMax))
        (rt.learned (neighbourLearn rt.neighbours (BitVec.ofNat 16 netifId) ip mac).1 (BitVec.ofNat 16 netifId) ip)).map
          fun r => (.ok (), r.2) := by
  have hactive₁ : ({ rt with neighbours := (neighbourLearn rt.neighbours (BitVec.ofNat 16 netifId) ip mac).1 } :
      Runtime).activeOutput = some out := hactive
  rw [neighbourUpdate_learned hok]
  have hloop := releaseLoop_eq submit (BitVec.ofNat 16 netifId) ip hactive₁ (List.nodup_finRange neighbourPendingMax)
  change Option.bind ((List.finRange neighbourPendingMax).forM (releaseEntry submit (BitVec.ofNat 16 netifId) ip) _)
    (fun (r : PUnit × Runtime) => some (Except.ok (), r.2)) = _
  rw [hloop, Option.map_eq_bind]
  rfl

end Release

section Arp

variable {rt : Routing} {port : PortState} {ip : Word} {b : Buffer} {ctx : PacketCtx}

structure ArpFrom (rt : Routing) (port : PortState) (ip : Word) (b : Buffer) (ctx : PacketCtx) : Prop where
  length : ctx.l3Offset + arpHdrLen ≤ b.data.length
  hardware : be16 (b.data.drop ctx.l3Offset) 0 = 1
  protocol : be16 (b.data.drop ctx.l3Offset) 2 = etherTypeIpv4
  hardwareLen : byteAt (b.data.drop ctx.l3Offset) 4 = 6
  protocolLen : byteAt (b.data.drop ctx.l3Offset) 5 = 4
  operation : be16 (b.data.drop ctx.l3Offset) 6 = 1 ∨
    be16 (b.data.drop ctx.l3Offset) 6 = 2 ∧ macAt (b.data.drop ctx.l3Offset) 18 = port.mac
  sender : macAt b.data 6 = macAt (b.data.drop ctx.l3Offset) 8
  senderMac : validAssignedEtherAddr (macAt (b.data.drop ctx.l3Offset) 8) = true
  senderIp : wordAt (b.data.drop ctx.l3Offset) 14 = ip
  target : netAddressOn rt (BitVec.ofNat 32 port.id) (wordAt (b.data.drop ctx.l3Offset) 24) = true

theorem ArpFrom.not_refused (h : ArpFrom rt port ip b ctx) (hsource : validSourceIp rt port ip = true) :
    arpRefused rt port b ctx = none := by
  have hop : ¬ (be16 (b.data.drop ctx.l3Offset) 6 ≠ 1 ∧ be16 (b.data.drop ctx.l3Offset) 6 ≠ 2) := by
    have := h.operation
    omega
  have htha : ¬ (be16 (b.data.drop ctx.l3Offset) 6 = 2 ∧ macAt (b.data.drop ctx.l3Offset) 18 ≠ port.mac) := by
    rintro ⟨hreply, hne⟩
    rcases h.operation with hrequest | ⟨-, hmac⟩
    · omega
    · exact hne hmac
  rw [arpRefused, if_neg (not_lt.mpr h.length), if_neg, if_neg, if_neg htha]
  · rw [h.target]
    exact Bool.false_ne_true
  · rw [h.senderIp, hsource]
    simp only [h.hardware, h.protocol, h.hardwareLen, h.protocolLen, h.sender, hop, ne_eq, not_true_eq_false, Bool.not_true,
      Bool.false_eq_true, and_false, or_self, not_false_eq_true]

def arpFinish (port : PortState) (p : Packet) : GraphM PUnit :=
  if be16 (p.1.buffer.data.drop p.2.l3Offset) 6 = 2 then freeMbuf p.1 .consumed
  else settle .arpInput p (.enqueue .tx (arpReply port p.1.buffer p.2) { p.2 with egressPortId := port.portId })

def HasSlot (t : NeighbourTable) (dev : Word16) (ip : Word) : Prop :=
  ∃ j, (t j).inUse = false ∨ ((t j).netifId, (t j).ip) = (dev, ip)

theorem HasSlot.findSlot {t : NeighbourTable} {dev : Word16} (h : HasSlot t dev ip) : ∃ j, findSlot t dev ip = some j := by
  cases hp : PulsarNetstack.findSlot t dev ip with
  | some j => exact ⟨j, rfl⟩
  | none =>
    obtain ⟨j, hj⟩ := h
    obtain ⟨hused, hkey⟩ := LinearProbing.Scheme.probe_none hp j
    rcases hj with hfree | hown
    · rw [show (t j).inUse = true from hused] at hfree
      cases hfree
    · exact absurd hown hkey

def Learns (submit : Submit) (s : Runtime) (port : PortState) (p : Packet) (ip : Word) : Prop :=
  ∃ (t : NeighbourTable) (mac : Mac), neighbourLookup t (BitVec.ofNat 16 port.id) ip = .ok mac ∧
    (mac = macAt (p.1.buffer.data.drop p.2.l3Offset) 8 ∨
      ∃ j, s.neighbours j = { ip := ip, netifId := BitVec.ofNat 16 port.id, mac := mac, inUse := true, permanent := true }) ∧
    arpInputNodeRun submit [p] s =
      (do
        handOver (awaiting s.pendingNeighbours (BitVec.ofNat 16 port.id) ip (List.finRange neighbourPendingMax))
        arpFinish port p : GraphM PUnit)
      (s.learned t (BitVec.ofNat 16 port.id) ip)

theorem ArpFrom.learns (submit : Submit) {s : Runtime} {p : Packet} {out : NodeOutput} (hactive : s.activeOutput = some out)
    (hport : ingressPort s.routing p.2.ingressPortId = some port) (h : ArpFrom s.routing port ip p.1.buffer p.2)
    (hlocal : netifIsLocalIp s.routing ip = false) (hsource : validSourceIp s.routing port ip = true)
    (hdirect : netDirect s.routing (BitVec.ofNat 32 port.id) ip = true) (hne : ip ≠ 0)
    (hslot : HasSlot s.neighbours (BitVec.ofNat 16 port.id) ip) : Learns submit s port p ip := by
  obtain ⟨j, hj⟩ := hslot.findSlot
  obtain ⟨hok, hlookup⟩ := neighbourLearn_learns hne h.senderMac hj
  refine ⟨_, _, hlookup, ?_, ?_⟩
  · split
    · rename_i hperm
      rw [Bool.and_eq_true] at hperm
      obtain ⟨hd, hi⟩ := Prod.mk.inj ((LinearProbing.Scheme.probe_some hj).1.resolve_left (by simp [neighbourScheme, hperm.1]))
      refine .inr ⟨j, ?_⟩
      rw [← hi, ← hd]
      generalize s.neighbours j = e at hperm
      obtain ⟨ip, netifId, mac, inUse, permanent⟩ := e
      obtain ⟨rfl, rfl⟩ := hperm
      rfl
    · exact .inl rfl
  · have hlearn : wordAt (p.1.buffer.data.drop p.2.l3Offset) 14 ≠ 0 ∧
        (!netifIsLocalIp s.routing (wordAt (p.1.buffer.data.drop p.2.l3Offset) 14)) = true ∧
        netDirect s.routing (BitVec.ofNat 32 port.id) (wordAt (p.1.buffer.data.drop p.2.l3Offset) 14) = true := by
      rw [h.senderIp, hlocal]
      exact ⟨hne, rfl, hdirect⟩
    have hupdate := neighbourUpdate_eq submit hactive hok
    have hactive₁ (t : NeighbourTable) : (s.learned t (BitVec.ofNat 16 port.id) ip).activeOutput = some out := hactive
    rw [arpInputNodeRun]
    change Option.bind ((get >>= _ : GraphM PUnit) s) _ = _
    rw [Program.get_bind_run, hport]
    dsimp only
    rw [h.not_refused hsource]
    change Option.bind ((if wordAt (p.1.buffer.data.drop p.2.l3Offset) 14 ≠ 0 ∧
        (!netifIsLocalIp s.routing (wordAt (p.1.buffer.data.drop p.2.l3Offset) 14)) = true ∧
        netDirect s.routing (BitVec.ofNat 32 port.id) (wordAt (p.1.buffer.data.drop p.2.l3Offset) 14) = true then
      neighbourUpdate submit port.id (wordAt (p.1.buffer.data.drop p.2.l3Offset) 14) _ >>= _
      else arpFinish port p : GraphM PUnit) s) _ = _
    rw [if_pos hlearn, h.senderIp]
    change Option.bind (Option.bind (neighbourUpdate submit port.id ip _ s) _) _ = _
    rw [hupdate]
    obtain ⟨s', out', hs', -, -⟩ := handOver_active
      (awaiting s.pendingNeighbours (BitVec.ofNat 16 port.id) ip (List.finRange neighbourPendingMax)) (fun _ => {})
      (hactive₁ _)
    rw [hs']
    change Option.bind (arpFinish port p s') (fun (r : PUnit × Runtime) => some (PUnit.unit, r.2)) =
      Option.bind (handOver _ _) (fun (r : PUnit × Runtime) => arpFinish port p r.2)
    rw [hs', Option.bind_some]
    cases arpFinish port p s' <;> rfl

end Arp

theorem nextHop_learned {rt₀ rt : Routing} {c : NetConfig} (hpublished : Published rt₀ c) (hnetwork : rt.network = some c)
    {dst src iif : Word} {out r : RouteResult} (hquery : ipv4RouteQuery rt dst src iif out = (.none, r))
    (hremote : r.isLocal = false) :
    netDirect rt (BitVec.ofNat 32 r.netifId) r.nextHop = true ∧ (∀ port, validSourceIp rt port r.nextHop = true) ∧
      ∀ (submit : Submit) (s : Runtime) (output : NodeOutput) (port : PortState) (p : Packet), s.routing = rt →
        s.activeOutput = some output → ingressPort rt p.2.ingressPortId = some port → port.id = r.netifId →
        ArpFrom rt port r.nextHop p.1.buffer p.2 → HasSlot s.neighbours (BitVec.ofNat 16 port.id) r.nextHop →
        Learns submit s port p r.nextHop := by
  have hports : rt₀.ports.length ≤ 65536 := hpublished.ports_le.trans (by decide)
  obtain ⟨hdirect, hvalid⟩ := (hpublished.resolved hnetwork hquery).onLink hpublished.snapshotOk hports hnetwork hremote
  refine ⟨hdirect, fun port => (validSourceIp_of_destinationValid hnetwork hvalid port).2, ?_⟩
  intro submit s output port p hrouting hactive hport hid harp hslot
  subst hrouting
  obtain ⟨hlocal, hsource⟩ := validSourceIp_of_destinationValid hnetwork hvalid port
  rw [← hid] at hdirect
  exact harp.learns submit hactive hport hlocal hsource hdirect (ipv4DestinationValid_ne_zero _ hvalid) hslot

def startPort : PortState where
  id := 0
  portId := 0
  mtu := 1500
  ip := htonl 0x0a000001
  prefixLen := 8
  configured := true
  started := true

def startRuntime : Runtime where
  routing := { startRouting with network := some startConfig }
  distinct := List.pairwise_singleton _ _
  world := { hz := 1000, time := fun n => n, random := fun _ => 0, alloc := fun _ => true, burst := fun _ => 64 }
  activeOutput := some {}
  sockets := socketSubsystemInit 4

def gatewayRoute : RouteResult where
  netifId := 0
  mtu := 1500
  nextHop := htonl 0x0a000002
  sourceIp := htonl 0x0a000001
  table := netTableMain
  rulePref := 32766

def gatewayRequest : Packet :=
  let mac : List Byte := [2, 0, 0, 0, 0, 2]
  let data := macBytes broadcastMac ++ mac ++ be16Bytes etherTypeArp ++ be16Bytes 1 ++ be16Bytes etherTypeIpv4 ++ [6, 4] ++
    be16Bytes 1 ++ mac ++ [10, 0, 0, 2] ++ macBytes 0 ++ [10, 0, 0, 1]
  (⟨0, { freshBuffer with data := data }⟩, { l3Offset := etherHdrLen })

theorem gatewayRequest_arpFrom :
    ArpFrom startRuntime.routing startPort (htonl 0x0a000002) gatewayRequest.1.buffer gatewayRequest.2 := by
  constructor <;> decide

theorem gateway_learned :
    ipv4RouteQuery startRuntime.routing (htonl 0x08080808) 0 netIifNone {} = (.none, gatewayRoute) ∧
      netDirect startRuntime.routing 0 gatewayRoute.nextHop = true ∧
      Learns (fun _ _ => pure ⟨⟩) startRuntime startPort gatewayRequest gatewayRoute.nextHop := by
  have hquery : ipv4RouteQuery startRuntime.routing (htonl 0x08080808) 0 netIifNone {} = (.none, gatewayRoute) := by decide
  obtain ⟨hdirect, -, hlearns⟩ := nextHop_learned (.init netConfigInit_startRouting) rfl hquery rfl
  refine ⟨hquery, hdirect, ?_⟩
  exact hlearns _ startRuntime {} startPort gatewayRequest rfl rfl rfl rfl gatewayRequest_arpFrom ⟨0, .inl rfl⟩

end PulsarNetstack
