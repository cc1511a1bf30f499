import PulsarNetstack.GraphRun

namespace PulsarNetstack

open Program

def NodeId.outbound : NodeId → Bool
  | .drop | .tx | .arpOutput | .ethOutput | .ipv4Output | .udpOutput | .ipv4Route => true
  | .ethInput | .arpInput | .ipv4Input | .ipv4Acl | .ipv4Forward | .icmpInput | .udpInput | .tcpInput => false

structure View where
  routing : Routing
  forwarding : Bool
  sockets : SocketTable
  aclStats : AclCounters
  world : World

def Runtime.view (rt : Runtime) : View := ⟨rt.routing, rt.ipv4Forwarding, rt.sockets, rt.aclStats, rt.world⟩

def Graph.contents (g : Graph) (out : NodeOutput) : Multiset (NodeId × Packet) := g.tally (fun n p => {(n, p)}) out

variable {P : NodeId → Packet → Prop} {I : View → Prop} {rt : Runtime} {g : Graph} {out : NodeOutput} {node : NodeId}
  {p : Packet} {submit : Submit} {slot : SlotId} {running : List SlotId}

theorem FrameSlot.mem_contents {s : FrameSlot} {x : NodeId × Packet} :
    x ∈ s.tally (fun n p => ({(n, p)} : Multiset (NodeId × Packet))) ↔ x.1 = s.node ∧ x.2 ∈ s.frame := by
  rw [FrameSlot.tally]
  induction s.frame with
  | nil => exact iff_of_false (Multiset.notMem_zero x) fun h => List.not_mem_nil h.2
  | cons p frame ih =>
    rw [List.map_cons, List.sum_cons, Multiset.mem_add, ih, Multiset.mem_singleton, List.mem_cons, and_or_left]
    exact or_congr_left Prod.ext_iff

structure Carries (P : NodeId → Packet → Prop) (running : List SlotId) (g : Graph) (out : NodeOutput) : Prop where
  ok : GraphOk g out running
  packets : ∀ x ∈ g.contents out, P x.1 x.2

namespace Carries

theorem enqueue (h : Carries P running rt.graph out) (hp : P node p) :
    Carries P running (nodeEnqueue rt out node p).1.graph (nodeEnqueue rt out node p).2.1 ∧
      (nodeEnqueue rt out node p).1.view = rt.view ∧
      (nodeEnqueue rt out node p).1.activeOutput = rt.activeOutput := by
  generalize hres : nodeEnqueue rt out node p = res
  cases hres ▸ nodeEnqueue_enqueued h.ok node p with
  | accepted ok tally =>
    refine ⟨⟨ok, fun x hx => ?_⟩, rfl, rfl⟩
    rw [Graph.contents, tally, Multiset.mem_add, Multiset.mem_singleton] at hx
    rcases hx with hx | rfl
    · exact h.packets x hx
    · exact hp
  | refused => exact ⟨⟨{ h.ok with }, h.packets⟩, rfl, rfl⟩

theorem flush (h : Carries P running rt.graph out) (node : NodeId) :
    Carries P running (flushPending rt out node).1.graph (flushPending rt out node).2.1 ∧
      (flushPending rt out node).1.view = rt.view ∧ (flushPending rt out node).1.activeOutput = rt.activeOutput ∧
      (flushPending rt out node).2.1.pending = Function.update out.pending node none := by
  obtain ⟨g, out', he, hok, hf⟩ := h.ok.flush node
  rw [he]
  refine ⟨⟨hok, fun x hx => ?_⟩, rfl, rfl, hf.pending⟩
  rw [Graph.contents, hf.tally] at hx
  exact h.packets x hx

end Carries

def Running (P : NodeId → Packet → Prop) (I : View → Prop) (running : List SlotId) (rt : Runtime) : Prop :=
  ∃ out, rt.activeOutput = some out ∧ Carries P running rt.graph out ∧ I rt.view

abbrev Flows (P : NodeId → Packet → Prop) (I : View → Prop) (running : List SlotId) {α : Type} (x : GraphM α) : Prop :=
  Safe (Running P I running) x fun _ => Running P I running

theorem Running.isSome (h : Running P I running rt) : rt.activeOutput.isSome = true := by
  obtain ⟨out, hactive, -⟩ := h
  rw [hactive]
  rfl

theorem Carries.of_eq {g' : Graph} (h : Carries P running g out) (hslots : g'.slots = g.slots) (hqueue : g'.queue = g.queue) :
    Carries P running g' out := by
  obtain ⟨stats, slots, queue, dropReasons⟩ := g
  obtain ⟨stats', slots', queue', dropReasons'⟩ := g'
  obtain rfl : slots' = slots := hslots
  obtain rfl : queue' = queue := hqueue
  exact ⟨{ h.ok with }, h.packets⟩

structure Plumbing (rt rt' : Runtime) : Prop where
  slots : rt'.graph.slots = rt.graph.slots
  queue : rt'.graph.queue = rt.graph.queue
  activeOutput : rt'.activeOutput = rt.activeOutput
  view : rt'.view = rt.view

theorem Running.plumbing {rt' : Runtime} (h : Running P I running rt) (q : Plumbing rt rt') : Running P I running rt' := by
  obtain ⟨out, hactive, hcarries, hview⟩ := h
  exact ⟨out, q.activeOutput.trans hactive, hcarries.of_eq q.slots q.queue, q.view ▸ hview⟩

theorem Flows.plumbing {f : Runtime → Runtime} (hf : ∀ rt, Plumbing rt (f rt)) :
    Flows P I running (modify f : GraphM PUnit) :=
  Safe.modify fun rt h => h.plumbing (hf rt)

theorem Flows.bind {α β : Type} {x : GraphM α} {f : α → GraphM β} (hx : Flows P I running x)
    (hf : ∀ a, Flows P I running (f a)) : Flows P I running (x >>= f) :=
  Safe.bind hx hf

theorem Flows.pure {α : Type} (a : α) : Flows P I running (pure a : GraphM α) := Safe.pure fun _ h => h

theorem Flows.ite {α : Type} {q : Prop} [Decidable q] {x y : GraphM α} (hx : Flows P I running x)
    (hy : Flows P I running y) : Flows P I running (if q then x else y) :=
  Safe.ite (fun _ => hx) fun _ => hy

theorem emit_flows (hp : P node p) : Flows P I running (emit node p) := by
  refine ⟨fun rt ok rt' h hrun => ?_⟩
  obtain ⟨out, hactive, hcarries, hview⟩ := h
  obtain ⟨hcarries', hview', -⟩ := hcarries.enqueue hp
  rw [emit_eq rt hactive] at hrun
  generalize nodeEnqueue rt out node p = res at hrun hcarries' hview'
  obtain ⟨-, rfl⟩ := Prod.mk.inj (Option.some.inj hrun)
  refine ⟨res.2.1, rfl, hcarries', ?_⟩
  change I res.1.view
  rw [hview']
  exact hview

theorem inject_flows (hp : P node p) : Flows P I running (inject submit node p) := by
  refine ⟨fun rt ok rt' h hrun => ?_⟩
  rw [inject_eq_emit h.isSome] at hrun
  exact (emit_flows hp).post rt ok rt' h hrun

theorem freeMbuf_flows (m : Mbuf) (cause : FreeCause) : Flows P I running (freeMbuf m cause) :=
  Flows.plumbing fun _ => ⟨rfl, rfl, rfl, rfl⟩

theorem icmpSendError_safe {A : Runtime → Prop} (hmodify : ∀ f, Safe A (modifyIcmp f) fun _ => A)
    (hsend : ∀ {bytes : List Byte} {ctx : PacketCtx} (f g : IcmpErrorState → IcmpErrorState), ctx.reportAcceptance = false →
      ctx.transit = false → Safe A (sendNew submit bytes ctx (modifyIcmp f) (modifyIcmp g)) fun _ => A)
    (b : Buffer) (ctx : PacketCtx) (type code : Byte) (mtu now : ℕ) :
    Safe A (icmpSendError submit b ctx type code mtu now) fun _ => A := by
  unfold icmpSendError
  apply Safe.peek
  intro rt _
  -- The kernel would otherwise compute with the 64-bit times.
  generalize takeToken rt.world.hz rt.icmpErrors now = token
  obtain ⟨state, granted⟩ := token
  refine Safe.ite (fun _ => hmodify _) fun _ => Safe.bind (hmodify _) fun _ => ?_
  refine Safe.ite (fun _ => hmodify _) fun _ => Safe.ite (fun _ => hmodify _) fun _ => ?_
  exact hsend _ _ rfl rfl

theorem packets_update {x : Fin neighbourPendingMax → PendingNeighbour} {i : Fin neighbourPendingMax}
    {e : PendingNeighbour} (hsub : ∀ p ∈ e.packets, p ∈ (x i).packets) (j : Fin neighbourPendingMax) :
    ∀ p ∈ (Function.update x i e j).packets, p ∈ (x j).packets := by
  intro p hp
  by_cases hj : j = i
  · rw [hj, Function.update_self] at hp
    exact hj ▸ hsub p hp
  · rwa [Function.update_of_ne hj] at hp

/-- An assertion that the functions shared by nodes and calls keep: it says nothing of counters, clocks and pending
queues, and lets packets go to the nodes on the way out. -/
structure Hosts (submit : Submit) (A : Runtime → Prop) : Prop where
  plumbing {rt rt' : Runtime} : A rt → Plumbing rt rt' → A rt'
  inject {n : NodeId} (p : Packet) : n.outbound = true → Safe A (inject submit n p) fun _ => A
  release (i : Fin neighbourPendingMax) : Safe A (releasePending submit i) fun _ => A

namespace Hosts

variable {A : Runtime → Prop} (h : Hosts submit A)
include h

theorem modify {f : Runtime → Runtime} (hf : ∀ rt, Plumbing rt (f rt)) : Safe A (modify f : GraphM PUnit) fun _ => A :=
  Safe.modify fun rt ha => h.plumbing ha (hf rt)

theorem get_set {α : Type} {f : Runtime → Runtime} {x : Runtime → GraphM α} {Q : α → Runtime → Prop}
    (hf : ∀ rt, Plumbing rt (f rt)) (hx : ∀ rt, Safe A (x rt) Q) : Safe A (do let rt ← get; set (f rt); x rt) Q :=
  Safe.get_bind fun rt ha => Safe.bind (Safe.set fun _ _ => h.plumbing ha (hf rt)) fun _ => hx rt

theorem timerCycles : Safe A timerCycles fun _ => A := by
  refine ⟨fun rt a rt' ha hrun => ?_⟩
  obtain ⟨rfl, rfl⟩ := Prod.mk.inj (Option.some.inj hrun)
  exact h.plumbing ha ⟨rfl, rfl, rfl, rfl⟩

theorem allocMbuf : Safe A allocMbuf fun _ => A := by
  refine ⟨fun rt a rt' ha hrun => ?_⟩
  change some (if rt.world.alloc rt.calls then _ else _) = _ at hrun
  split at hrun
  all_goals
    obtain ⟨rfl, rfl⟩ := Prod.mk.inj (Option.some.inj hrun)
    exact h.plumbing ha ⟨rfl, rfl, rfl, rfl⟩

theorem freeMbuf (m : Mbuf) (cause : FreeCause) : Safe A (freeMbuf m cause) fun _ => A :=
  h.modify fun _ => ⟨rfl, rfl, rfl, rfl⟩

theorem modifyIcmp (f : IcmpErrorState → IcmpErrorState) : Safe A (modifyIcmp f) fun _ => A :=
  h.modify fun _ => ⟨rfl, rfl, rfl, rfl⟩

theorem modifyTcp (f : TcpStats → TcpStats) : Safe A (modifyTcp f) fun _ => A :=
  h.modify fun _ => ⟨rfl, rfl, rfl, rfl⟩

theorem arpRequest (port : PortState) (target : Word) : Safe A (arpRequest submit port target) fun _ => A := by
  apply Safe.bind h.allocMbuf
  rintro (_ | m)
  · exact h.modify fun _ => ⟨rfl, rfl, rfl, rfl⟩
  · exact Safe.bind (h.inject _ rfl) fun _ => Safe.pure fun _ ha => ha

theorem neighbourQueue (netifId : ℕ) (p : Packet) (now : ℕ) :
    Safe A (neighbourQueue submit netifId p now) fun _ => A := by
  apply Safe.get_bind
  intro rt ha
  have hrefused : ∀ reason, Safe (fun s => s = rt) (pure reason : GraphM DropReason) fun _ => A := by
    intro reason
    apply Safe.pure
    rintro _ rfl
    exact ha
  dsimp only
  split
  · exact hrefused _
  split
  · exact hrefused _
  split
  · exact hrefused _
  apply Safe.bind (Q := fun _ => A)
  · exact Safe.set fun _ _ => h.plumbing ha ⟨rfl, rfl, rfl, rfl⟩
  · intro _
    split
    · exact Safe.bind (h.arpRequest _ _) fun _ => Safe.pure fun _ ha => ha
    · exact Safe.pure fun _ ha => ha

theorem neighbourUpdate (netifId : ℕ) (ip : Word) (mac : Mac) :
    Safe A (neighbourUpdate submit netifId ip mac) fun _ => A := by
  apply Safe.get_bind
  intro rt ha
  dsimp only
  apply Safe.bind (Q := fun _ => A)
  · exact Safe.set fun _ _ => h.plumbing ha ⟨rfl, rfl, rfl, rfl⟩
  · intro _
    split
    · refine Safe.bind (Safe.forM fun i _ => Safe.peek fun _ _ => ?_) fun _ => Safe.pure fun _ ha => ha
      split
      · exact h.release i
      · exact Safe.pure fun _ ha => ha
    · exact Safe.pure fun _ ha => ha

theorem sendNew (bytes : List Byte) (ctx : PacketCtx) {sent failed : GraphM PUnit} (hsent : Safe A sent fun _ => A)
    (hfailed : Safe A failed fun _ => A) : Safe A (sendNew submit bytes ctx sent failed) fun _ => A := by
  apply Safe.bind h.allocMbuf
  rintro (_ | m)
  · exact hfailed
  · dsimp only
    generalize m.buffer.append bytes = built
    cases built with
    | none => exact Safe.bind (h.freeMbuf m _) fun _ => hfailed
    | some buffer => exact Safe.bind (h.inject _ rfl) fun _ => Safe.ite (fun _ => hsent) fun _ => hfailed

theorem icmpSendError (b : Buffer) (ctx : PacketCtx) (type code : Byte) (mtu now : ℕ) :
    Safe A (icmpSendError submit b ctx type code mtu now) fun _ => A :=
  icmpSendError_safe h.modifyIcmp (fun _ _ _ _ => h.sendNew _ _ (h.modifyIcmp _) (h.modifyIcmp _)) b ctx type code mtu now

theorem tcpEmit (localAddr remoteAddr : SockAddr) (seq ack : Word) (flags : Byte) (window : ℕ) (data : List Byte) :
    Safe A (tcpEmit submit localAddr remoteAddr seq ack flags window data) fun _ => A := by
  unfold PulsarNetstack.tcpEmit
  apply Safe.peek
  intro rt _
  exact Safe.ite (fun _ => h.modifyTcp _) fun _ => h.sendNew _ _ (h.modifyTcp _) (h.modifyTcp _)

theorem discardPacket (reason : DropReason) (p : Packet) : Safe A (discardPacket reason p) fun _ => A :=
  Safe.bind (h.modify fun _ => ⟨rfl, rfl, rfl, rfl⟩) fun _ => h.freeMbuf _ _

theorem cancelQueued (localAddr remoteAddr : SockAddr) : Safe A (cancelQueued localAddr remoteAddr) fun _ => A := by
  apply Safe.forM
  intro i _
  apply h.get_set
  · exact fun _ => ⟨rfl, rfl, rfl, rfl⟩
  · exact fun rt => Safe.forM fun p _ => h.discardPacket _ p

theorem tcpEffect (e : TcpEffect) : Safe A (tcpEffect submit e) fun _ => A := by
  cases e with
  | emit => exact h.tcpEmit _ _ _ _ _ _ _
  | cancelQueued => exact h.cancelQueued _ _
  | count =>
    unfold PulsarNetstack.tcpEffect
    exact h.modifyTcp _

end Hosts

def Lax (P : NodeId → Packet → Prop) : Prop := ∀ n p, NodeId.outbound n = true → P n p

def Verdict.outbound : Verdict → Bool
  | .drop .. => true
  | .enqueue n .. => n.outbound

theorem Verdict.Leads.outbound {ctx : PacketCtx} {next : List NodeId} {v : Verdict} (h : v.Leads ctx next)
    (hnext : ∀ n ∈ next, NodeId.outbound n = true) : v.outbound = true := by
  cases v with
  | drop => rfl
  | enqueue => exact hnext _ h.1

section Outbound

variable (hlax : Lax P)
include hlax

theorem graphDrop_flows (owner : NodeId) (p : Packet) (reason : DropReason) (error : Bool) :
    Flows P I running (graphDrop owner p reason error) := by
  refine ⟨fun rt a rt' h hrun => ?_⟩
  rw [graphDrop_eq_emit h.isSome] at hrun
  obtain ⟨⟨ok, rt₂⟩, hemit, he⟩ := Option.map_eq_some_iff.mp hrun
  obtain ⟨-, rfl⟩ := Prod.mk.inj he
  refine (emit_flows (hlax .drop _ rfl)).post _ ok rt₂ ?_ hemit
  exact h.plumbing ⟨rfl, rfl, rfl, rfl⟩

theorem settle_flows (owner : NodeId) (p : Packet) (v : Verdict)
    (hv : ∀ n b ctx, v = .enqueue n b ctx → P n (⟨p.1.id, b⟩, ctx)) : Flows P I running (settle owner p v) := by
  cases v with
  | drop reason error => exact graphDrop_flows hlax owner p reason error
  | enqueue n b ctx => exact Flows.bind (emit_flows (hv n b ctx rfl)) fun _ => Flows.pure _

theorem Running.hosts : Hosts submit (Running P I running) where
  plumbing h q := h.plumbing q
  inject p hn := inject_flows (hlax _ p hn)
  release i := by
    apply Safe.get_bind
    intro rt h
    apply Safe.bind (Q := fun _ => Running P I running)
    · exact Safe.set fun _ _ => h.plumbing ⟨rfl, rfl, rfl, rfl⟩
    · intro _
      rw [if_pos h.isSome]
      exact Safe.forM fun p _ => Flows.bind (emit_flows (hlax .ethOutput p rfl)) fun _ => Flows.pure _

theorem decideEach_flows {owner : NodeId} {verdict : Runtime → Buffer → PacketCtx → Verdict} {frame : Frame}
    (h : ∀ rt, I rt.view → ∀ p ∈ frame, ∀ n b ctx, verdict rt p.1.buffer p.2 = .enqueue n b ctx → P n (⟨p.1.id, b⟩, ctx)) :
    Flows P I running (decideEach owner verdict frame) := by
  apply Safe.forM
  intro p hp
  apply Safe.peek
  rintro rt ⟨-, -, -, hview⟩
  exact settle_flows hlax owner p _ (h rt hview p hp)

theorem settle_outbound (owner : NodeId) (p : Packet) (v : Verdict) (hv : v.outbound = true) :
    Flows P I running (settle owner p v) := by
  apply settle_flows hlax
  rintro n b ctx rfl
  exact hlax n _ hv

theorem decideEach_outbound {owner : NodeId} {verdict : Runtime → Buffer → PacketCtx → Verdict} {frame : Frame}
    (h : ∀ rt b ctx, (verdict rt b ctx).outbound = true) : Flows P I running (decideEach owner verdict frame) :=
  Safe.forM fun p _ => Safe.peek fun rt _ => settle_outbound hlax owner p _ (h rt p.1.buffer p.2)

omit hlax in
theorem dropNodeRun_flows (frame : Frame) : Flows P I running (dropNodeRun frame) := by
  apply Flows.bind
  · exact Flows.plumbing fun _ => ⟨rfl, rfl, rfl, rfl⟩
  · intro _
    exact Safe.forM fun p _ => Flows.bind (Flows.plumbing fun _ => ⟨rfl, rfl, rfl, rfl⟩) fun _ => freeMbuf_flows _ _

theorem ipv4OutputNodeRun_flows (frame : Frame) : Flows P I running (ipv4OutputNodeRun frame) := by
  apply Safe.forM
  intro p _
  apply Safe.get_bind
  intro rt h
  have hsettle : Flows P I running (settle .ipv4Output p (ipv4Output rt.routing rt.nextIpId p.1.buffer p.2)) :=
    settle_outbound hlax _ p _ ((ipv4Output_leads ..).outbound (by decide))
  dsimp only
  split
  · apply Safe.bind (Q := fun _ => Running P I running)
    · exact Safe.set fun _ _ => h.plumbing ⟨rfl, rfl, rfl, rfl⟩
    · exact fun _ => hsettle
  · apply hsettle.conseq
    · rintro _ rfl
      exact h
    · exact fun _ _ h => h

theorem report_flows (b : Buffer) (ctx : PacketCtx) (type code : Byte) (mtu : ℕ) : Flows P I running (do
    let now ← timerCycles
    icmpSendError submit b ctx type code mtu now) :=
  have hosts : Hosts submit (Running P I running) := Running.hosts hlax
  Flows.bind hosts.timerCycles fun _ => hosts.icmpSendError _ _ _ _ _ _

theorem ipv4ForwardNodeRun_flows (frame : Frame) : Flows P I running (ipv4ForwardNodeRun submit frame) := by
  apply Safe.forM
  intro p _
  apply Safe.peek
  intro rt _
  have hreport (type code : Byte) (mtu : ℕ) (reason : DropReason) : Flows P I running (do
      (do let now ← timerCycles; icmpSendError submit p.1.buffer p.2 type code mtu now)
      graphDrop .ipv4Forward p reason false) :=
    Flows.bind (report_flows hlax _ _ _ _ _) fun _ => graphDrop_flows hlax _ _ _ _
  dsimp only
  apply Flows.ite
  · exact hreport _ _ _ _
  apply Flows.ite
  · split
    · exact hreport _ _ _ _
    · exact graphDrop_flows hlax _ _ _ _
  apply Flows.ite
  · exact Flows.ite (hreport _ _ _ _) (graphDrop_flows hlax _ _ _ _)
  · exact settle_outbound hlax _ p _ rfl

theorem arpInputNodeRun_flows (frame : Frame) : Flows P I running (arpInputNodeRun submit frame) := by
  apply Safe.forM
  intro p _
  apply Safe.peek
  intro rt _
  split
  · exact graphDrop_flows hlax _ _ _ _
  rename_i port _
  split
  · exact graphDrop_flows hlax _ _ _ _
  have hend : Flows P I running (if be16 (p.1.buffer.data.drop p.2.l3Offset) 6 = 2 then freeMbuf p.1 .consumed
      else settle .arpInput p (.enqueue .tx (arpReply port p.1.buffer p.2) { p.2 with egressPortId := port.portId })) :=
    Flows.ite (freeMbuf_flows _ _) (settle_outbound hlax _ p _ rfl)
  dsimp only
  apply Flows.ite
  · apply Flows.bind ((Running.hosts hlax).neighbourUpdate _ _ _)
    intro result
    apply Flows.ite
    · exact Flows.bind (Flows.plumbing fun _ => ⟨rfl, rfl, rfl, rfl⟩) fun _ => hend
    · exact hend
  · exact hend

theorem ethOutputNodeRun_flows (frame : Frame) : Flows P I running (ethOutputNodeRun submit frame) := by
  have hosts : Hosts submit (Running P I running) := Running.hosts hlax
  apply Safe.forM
  intro p _
  apply Safe.peek
  intro rt _
  split
  · exact graphDrop_flows hlax _ _ _ _
  apply Flows.ite
  · exact graphDrop_flows hlax _ _ _ _
  split
  · apply Flows.bind hosts.timerCycles
    intro now
    apply Flows.bind (hosts.neighbourQueue _ _ _)
    intro reason
    exact Flows.ite (graphDrop_flows hlax _ _ _ _) (Flows.pure _)
  split
  · exact graphDrop_flows hlax _ _ _ _
  · exact settle_outbound hlax _ p _ rfl

theorem txPrepare_flows (frame : Frame) : Flows P I running (txPrepare frame) := by
  induction frame with
  | nil => exact Flows.pure _
  | cons p frame ih =>
    have hdropped (reason : DropReason) (error : Bool) : Flows P I running (do graphDrop .tx p reason error; txPrepare frame) :=
      Flows.bind (graphDrop_flows hlax _ _ _ _) fun _ => ih
    unfold txPrepare
    apply Safe.peek
    intro rt _
    split
    · exact hdropped _ _
    split
    · exact Flows.bind (Flows.plumbing fun _ => ⟨rfl, rfl, rfl, rfl⟩) fun _ => hdropped _ _
    · exact Flows.bind ih fun _ => Flows.pure _

theorem txPort_flows (packets : List Packet) (port : PortState) : Flows P I running (txPort packets port) := by
  apply Flows.ite
  · exact Flows.pure _
  apply Safe.get_bind
  intro rt h
  apply Safe.bind (Q := fun _ => Running P I running)
  · exact Safe.set fun _ _ => h.plumbing ⟨rfl, rfl, rfl, rfl⟩
  · intro _
    exact Flows.bind (Flows.plumbing fun _ => ⟨rfl, rfl, rfl, rfl⟩) fun _ => Safe.forM fun p _ => graphDrop_flows hlax _ _ _ _

theorem txNodeRun_flows (frame : Frame) : Flows P I running (txNodeRun frame) :=
  Flows.bind (txPrepare_flows hlax frame) fun packets => Safe.peek fun _ _ => Safe.forM fun port _ =>
    txPort_flows hlax packets port

end Outbound

def View.tcpEnv (v : View) (busy : Bool) : TcpEnv where
  hz := v.world.hz
  routeQuery dst src := ipv4RouteQuery v.routing dst src netIifNone {}
  destinationValid := ipv4DestinationValid v.routing
  isLocalIp := netifIsLocalIp v.routing
  busy := busy

def View.Clocked (v : View) (now : ℕ) : Prop := now = 0 ∨ ∃ n, now = v.world.time n

def View.accepts (v : View) (p : Packet) : Prop :=
  ∀ c, v.routing.network = some c → (netAclAccount c v.aclStats (netAclClassify c (aclKey v.routing p.1.buffer p.2))
    (be16 (p.1.buffer.data.drop p.2.l3Offset) 2)).2 = true

structure Flow (P : NodeId → Packet → Prop) (I : View → Prop) : Prop where
  lax : Lax P
  ethInput {v : View} {p : Packet} : I v → P .ethInput p → ∀ n b ctx,
    ethInput v.routing p.1.buffer p.2 = .enqueue n b ctx → P n (⟨p.1.id, b⟩, ctx)
  ipv4Input {v : View} {p : Packet} : I v → P .ipv4Input p → ∀ n b ctx,
    ipv4Input v.routing p.1.buffer p.2 = .enqueue n b ctx → P n (⟨p.1.id, b⟩, ctx)
  ipv4Acl {v : View} {p : Packet} : I v → P .ipv4Acl p → v.accepts p → ∀ n b ctx,
    ipv4Acl v.routing v.forwarding p.1.buffer p.2 = .enqueue n b ctx → P n (⟨p.1.id, b⟩, ctx)
  account {v : View} {p : Packet} {c : NetConfig} : I v → P .ipv4Acl p → v.routing.network = some c →
    I { v with aclStats := (netAclAccount c v.aclStats (netAclClassify c (aclKey v.routing p.1.buffer p.2))
      (be16 (p.1.buffer.data.drop p.2.l3Offset) 2)).1 }
  deliver {v : View} {p : Packet} : I v → P .udpInput p → ∀ localIp port source payload,
    I { v with sockets := (udpDeliver v.sockets localIp port source payload).1 }
  segment {v : View} {p : Packet} : I v → P .tcpInput p → ∀ hdr payload seed now, v.Clocked now →
    I { v with sockets := (tcpInputSegment (v.tcpEnv true) v.sockets p.2.srcIp p.2.dstIp hdr payload seed now).1 }

structure Handover (P P' : NodeId → Packet → Prop) (I : View → Prop) : Prop where
  lax : Lax P'
  ethInput {v : View} {p : Packet} : I v → P .ethInput p → ∀ n b ctx,
    ethInput v.routing p.1.buffer p.2 = .enqueue n b ctx → P' n (⟨p.1.id, b⟩, ctx)
  ipv4Input {v : View} {p : Packet} : I v → P .ipv4Input p → ∀ n b ctx,
    ipv4Input v.routing p.1.buffer p.2 = .enqueue n b ctx → P' n (⟨p.1.id, b⟩, ctx)
  ipv4Acl {v : View} {p : Packet} : I v → P .ipv4Acl p → v.accepts p → ∀ n b ctx,
    ipv4Acl v.routing v.forwarding p.1.buffer p.2 = .enqueue n b ctx → P' n (⟨p.1.id, b⟩, ctx)
  account {v : View} {p : Packet} {c : NetConfig} : I v → P .ipv4Acl p → v.routing.network = some c →
    I { v with aclStats := (netAclAccount c v.aclStats (netAclClassify c (aclKey v.routing p.1.buffer p.2))
      (be16 (p.1.buffer.data.drop p.2.l3Offset) 2)).1 }
  deliver {v : View} {p : Packet} : I v → P .udpInput p → ∀ localIp port source payload,
    I { v with sockets := (udpDeliver v.sockets localIp port source payload).1 }
  segment {v : View} {p : Packet} : I v → P .tcpInput p → ∀ hdr payload seed now, v.Clocked now →
    I { v with sockets := (tcpInputSegment (v.tcpEnv true) v.sockets p.2.srcIp p.2.dstIp hdr payload seed now).1 }

theorem Flow.handover (h : Flow P I) : Handover P P I where
  lax := h.lax
  ethInput := h.ethInput
  ipv4Input := h.ipv4Input
  ipv4Acl := h.ipv4Acl
  account := h.account
  deliver := h.deliver
  segment := h.segment

theorem Running.reveal {I' : View → Prop} {rt' : Runtime} (h : Running P I running rt) (hgraph : rt'.graph = rt.graph)
    (hactive : rt'.activeOutput = rt.activeOutput) (hview : I' rt'.view) : Running P I' running rt' := by
  obtain ⟨out, hout, hcarries, -⟩ := h
  exact ⟨out, hactive.trans hout, hgraph ▸ hcarries, hview⟩

section Inbound

variable {P' : NodeId → Packet → Prop} (hflow : Handover P P' I) {frame : Frame}
include hflow

omit hflow in
theorem aclPacket_flows (hlax : Lax P') {p : Packet} {I' : View → Prop}
    (hsettle : ∀ v, I v → v.accepts p → ∀ n b ctx, ipv4Acl v.routing v.forwarding p.1.buffer p.2 = .enqueue n b ctx →
      P' n (⟨p.1.id, b⟩, ctx))
    (hnone : ∀ v, I v → v.routing.network = none → I' v)
    (haccount : ∀ v c, I v → v.routing.network = some c →
      I' { v with aclStats := (netAclAccount c v.aclStats (netAclClassify c (aclKey v.routing p.1.buffer p.2))
        (be16 (p.1.buffer.data.drop p.2.l3Offset) 2)).1 }) :
    Safe (Running P' I running) (ipv4AclNodeRun [p]) fun _ => Running P' I' running := by
  refine Safe.bind (Q := fun _ => Running P' I' running) ?_ fun _ => Safe.pure fun _ h => h
  apply Safe.get_bind
  intro rt h
  have hview : I rt.view := by
    obtain ⟨-, -, -, hview⟩ := h
    exact hview
  -- What the verdict needs is known only where the rules accepted the packet.
  have hend (accepted : Bool) (haccepted : accepted = true → rt.view.accepts p) :
      Flows P' I' running (if accepted then settle .ipv4Acl p (ipv4Acl rt.routing rt.ipv4Forwarding p.1.buffer p.2)
        else graphDrop .ipv4Acl p .acl false) := by
    apply Safe.ite
    · intro ha
      apply settle_flows hlax
      exact hsettle rt.view hview (haccepted ha)
    · exact fun _ => graphDrop_flows hlax _ _ _ _
  dsimp only
  split
  · rename_i hnetwork
    apply Safe.bind (Q := fun accepted rt' => Running P' I' running rt' ∧ accepted = true)
    · apply Safe.pure
      rintro _ rfl
      exact ⟨h.reveal rfl rfl (hnone _ hview hnetwork), rfl⟩
    · exact fun accepted => Safe.given fun _ => hend accepted fun _ c hc => nomatch hnetwork.symm.trans hc
  · rename_i c hc
    generalize hres : netAclAccount c rt.aclStats _ _ = res
    apply Safe.bind (Q := fun _ => Running P' I' running)
    · apply Safe.set
      intro _ _
      refine h.reveal rfl rfl ?_
      change I' { rt.view with aclStats := res.1 }
      rw [← hres]
      exact haccount rt.view c hview hc
    · intro _
      refine Safe.bind (Q := fun accepted rt' => Running P' I' running rt' ∧ accepted = res.2) (Safe.pure fun _ h => ⟨h, rfl⟩) ?_
      refine fun accepted => Safe.given fun ha => hend accepted fun hacc c' hc' => ?_
      obtain rfl := Option.some.inj (hc.symm.trans hc')
      exact (congrArg Prod.snd hres).trans (ha.symm.trans hacc)

omit hflow in
theorem forM_cons_singleton {α : Type} (a : α) (l : List α) (f : α → GraphM PUnit) :
    (a :: l).forM f = (do [a].forM f; l.forM f) := by
  change (do f a; l.forM f) = (do (do f a; pure ⟨⟩); l.forM f)
  rw [bind_assoc]
  simp only [pure_bind]

theorem ipv4AclNodeRun_flows (hframe : ∀ p ∈ frame, P .ipv4Acl p) : Flows P' I running (ipv4AclNodeRun frame) := by
  induction frame with
  | nil => exact Flows.pure _
  | cons p frame ih =>
    unfold ipv4AclNodeRun
    rw [forM_cons_singleton]
    refine Flows.bind ?_ fun _ => ih fun q hq => hframe q (List.mem_cons_of_mem p hq)
    have hp := hframe p List.mem_cons_self
    exact aclPacket_flows hflow.lax (fun v hv => hflow.ipv4Acl hv hp) (fun _ hv _ => hv) fun v c hv => hflow.account hv hp

theorem udpInputNodeRun_flows (hframe : ∀ p ∈ frame, P .udpInput p) : Flows P' I running (udpInputNodeRun submit frame) := by
  have hosts : Hosts submit (Running P' I running) := Running.hosts hflow.lax
  apply Safe.forM
  intro p hp
  apply Safe.get_bind
  intro rt h
  split
  · apply (graphDrop_flows hflow.lax _ _ _ _).conseq
    · rintro _ rfl
      exact h
    · exact fun _ _ h => h
  dsimp only
  apply Safe.bind (Q := fun _ => Running P' I running)
  · apply Safe.set
    intro _ _
    refine h.reveal rfl rfl ?_
    obtain ⟨-, -, -, hview⟩ := h
    exact hflow.deliver hview (hframe p hp) _ _ _ _
  intro _
  split
  · exact freeMbuf_flows _ _
  · exact Flows.bind hosts.timerCycles fun _ => Flows.bind (hosts.icmpSendError _ _ _ _ _ _) fun _ =>
      graphDrop_flows hflow.lax _ _ _ _
  · exact graphDrop_flows hflow.lax _ _ _ _
  · exact graphDrop_flows hflow.lax _ _ _ _

theorem tcpInputNodeRun_flows (hframe : ∀ p ∈ frame, P .tcpInput p) : Flows P' I running (tcpInputNodeRun submit frame) := by
  apply Safe.forM
  intro p hp
  apply Safe.get_bind
  intro rt h
  have hview : I rt.view := by
    obtain ⟨-, -, -, hview⟩ := h
    exact hview
  have hbusy : rt.tcpEnv = rt.view.tcpEnv true := by
    unfold Runtime.tcpEnv View.tcpEnv
    rw [h.isSome]
    rfl
  have hdrop {reason : DropReason} {error : Bool} : Safe (fun s => s = rt) (graphDrop .tcpInput p reason error)
      fun _ => Running P' I running := by
    apply (graphDrop_flows hflow.lax _ _ _ _).conseq
    · rintro _ rfl
      exact h
    · exact fun _ _ h => h
  apply Safe.ite
  · exact fun _ => hdrop
  intro _
  apply Safe.ite
  · exact fun _ => hdrop
  intro _
  -- The clock is all that changes before the segment is processed.
  apply Safe.bind (Q := fun now rt' => Running P' I running rt' ∧ rt'.view = rt.view ∧ rt.view.Clocked now)
  · apply Safe.ite
    · intro _
      refine ⟨?_⟩
      rintro _ now rt' rfl hrun
      obtain ⟨rfl, rfl⟩ := Prod.mk.inj (Option.some.inj hrun)
      exact ⟨h.plumbing ⟨rfl, rfl, rfl, rfl⟩, rfl, .inr ⟨_, rfl⟩⟩
    · intro _
      apply Safe.pure
      rintro _ rfl
      exact ⟨h, rfl, .inl rfl⟩
  intro now
  rw [hbusy]
  generalize hres : tcpInputSegment (rt.view.tcpEnv true) _ _ _ _ _ _ now = result
  have hsegment (hnow : rt.view.Clocked now) : I { rt.view with sockets := result.1 } := by
    rw [← hres]
    exact hflow.segment hview (hframe p hp) _ _ _ _ hnow
  obtain ⟨sockets, effects, reason⟩ := result
  apply Safe.bind (Q := fun _ => Running P' I running)
  · apply Safe.modify
    rintro rt' ⟨h', hview', hnow⟩
    refine h'.reveal rfl rfl ?_
    change I { rt'.view with sockets := sockets }
    rw [hview']
    exact hsegment hnow
  intro _
  refine Flows.bind (Safe.forM fun e _ => (Running.hosts hflow.lax).tcpEffect e) fun _ => ?_
  exact Flows.ite (graphDrop_flows hflow.lax _ _ _ _) (freeMbuf_flows _ _)

theorem runNode_flows (submit : Submit) (node : NodeId) (hframe : ∀ p ∈ frame, P node p) :
    Flows P' I running (runNode submit node frame) := by
  cases node with
  | drop => exact dropNodeRun_flows frame
  | ethInput => exact decideEach_flows hflow.lax fun rt hview p hp => hflow.ethInput hview (hframe p hp)
  | arpInput => exact arpInputNodeRun_flows hflow.lax frame
  | ipv4Input => exact decideEach_flows hflow.lax fun rt hview p hp => hflow.ipv4Input hview (hframe p hp)
  | icmpInput => exact decideEach_outbound hflow.lax fun _ _ _ => (icmpInput_leads ..).outbound (by decide)
  | udpInput => exact udpInputNodeRun_flows hflow hframe
  | tcpInput => exact tcpInputNodeRun_flows hflow hframe
  | ipv4Route => exact decideEach_outbound hflow.lax fun _ _ _ => (ipv4Route_leads ..).outbound (by decide)
  | udpOutput => exact decideEach_outbound hflow.lax fun _ _ _ => (udpOutput_leads ..).outbound (by decide)
  | ipv4Output => exact ipv4OutputNodeRun_flows hflow.lax frame
  | ethOutput => exact ethOutputNodeRun_flows hflow.lax frame
  | arpOutput => exact decideEach_outbound hflow.lax fun _ _ _ => (arpOutput_leads ..).outbound (by decide)
  | tx => exact txNodeRun_flows hflow.lax frame
  | ipv4Forward => exact ipv4ForwardNodeRun_flows hflow.lax frame
  | ipv4Acl => exact ipv4AclNodeRun_flows hflow hframe

end Inbound

structure Resting (P : NodeId → Packet → Prop) (I : View → Prop) (out : NodeOutput) (rt : Runtime) : Prop where
  idle : rt.activeOutput = none
  carries : Carries P [] rt.graph out
  view : I rt.view

theorem IdleGraph.resting (h : IdleGraph rt) (hview : I rt.view) : Resting P I {} rt := by
  refine ⟨h.active, ⟨h.graphOk, fun x hx => ?_⟩, hview⟩
  rw [Graph.contents, h.tally] at hx
  exact absurd hx (Multiset.notMem_zero x)

theorem Resting.idleGraph (h : Resting P I {} rt) (hq : rt.graph.queue.toList = []) : IdleGraph rt := by
  refine ⟨hq, fun i => eq_false_of_ne_true fun hused => ?_, h.idle⟩
  have hmem := (h.carries.ok.used i).mp hused
  rw [Graph.held, hq] at hmem
  cases hmem

theorem Resting.flush (h : Resting P I out rt) (node : NodeId) :
    Resting P I (flushPending rt out node).2.1 (flushPending rt out node).1 := by
  obtain ⟨hcarries, hview, hactive, -⟩ := h.carries.flush node
  exact ⟨hactive.trans h.idle, hcarries, hview ▸ h.view⟩

theorem Resting.flushes (h : Resting P I out rt) (nodes : List NodeId) :
    ∃ rt' out', nodes.foldl (fun s node => ((flushPending s.1 s.2 node).1, (flushPending s.1 s.2 node).2.1)) (rt, out) =
      (rt', out') ∧ Resting P I out' rt' ∧ ∀ n, out'.pending n = if n ∈ nodes then none else out.pending n := by
  induction nodes generalizing rt out with
  | nil => exact ⟨rt, out, rfl, h, fun n => (if_neg List.not_mem_nil).symm⟩
  | cons node nodes ih =>
    obtain ⟨rt', out', he, hrest, hpending'⟩ := ih (h.flush node)
    refine ⟨rt', out', he, hrest, fun n => ?_⟩
    obtain ⟨-, -, -, hpending⟩ := h.carries.flush node
    rw [hpending' n, hpending]
    by_cases hn : n = node
    · rw [hn, Function.update_self, ite_self, if_pos List.mem_cons_self]
    · rw [Function.update_of_ne hn]
      simp only [List.mem_cons, hn, false_or]

theorem Resting.flushAll (h : Resting P I out rt) : Resting P I {} (flushAll rt out) := by
  obtain ⟨rt', out', he, hrest, hpending⟩ := h.flushes NodeId.all
  have hempty : out' = {} := by
    apply NodeOutput.eq_empty
    intro n
    rw [hpending n, if_pos n.mem_all]
  have hall : PulsarNetstack.flushAll rt out = rt' := congrArg Prod.fst he
  rw [hall, ← hempty]
  exact hrest

theorem Resting.seeds {frame : Frame} (h : Resting P I out rt) (hframe : ∀ p ∈ frame, P node p)
    (hout : ∀ n, n ≠ node → out.pending n = none) :
    ∃ rt' out', frame.foldl (fun s p => ((nodeEnqueue s.1 s.2 node p).1, (nodeEnqueue s.1 s.2 node p).2.1)) (rt, out) =
      (rt', out') ∧ Resting P I out' rt' ∧ ∀ n, n ≠ node → out'.pending n = none := by
  induction frame generalizing rt out with
  | nil => exact ⟨rt, out, rfl, h, hout⟩
  | cons p frame ih =>
    obtain ⟨hcarries, hview, hactive⟩ := h.carries.enqueue (hframe p List.mem_cons_self)
    have hrest : Resting P I _ (nodeEnqueue rt out node p).1 := ⟨hactive.trans h.idle, hcarries, hview ▸ h.view⟩
    exact ih hrest (fun q hq => hframe q (List.mem_cons_of_mem p hq))
      fun n hn => (nodeEnqueue_pending_of_ne hn).trans (hout n hn)

theorem Resting.seedFrame {frame : Frame} (h : Resting P I {} rt) (hframe : ∀ p ∈ frame, P node p) :
    Resting P I {} (seedFrame node frame rt) := by
  obtain ⟨rt', out', he, hrest, hpending⟩ := h.seeds hframe fun n _ => rfl
  obtain ⟨-, -, -, hflushed⟩ := hrest.carries.flush node
  have hempty : (flushPending rt' out' node).2.1 = {} := by
    apply NodeOutput.eq_empty
    intro n
    rw [hflushed]
    by_cases hn : n = node
    · rw [hn, Function.update_self]
    · rw [Function.update_of_ne hn, hpending n hn]
  have hseed : PulsarNetstack.seedFrame node frame rt = (flushPending rt' out' node).1 := by
    unfold PulsarNetstack.seedFrame
    rw [he]
  rw [hseed, ← hempty]
  exact hrest.flush node

theorem Resting.dequeue {queue : RingBuffer SlotId graphFramePoolSize} (h : Resting P I {} rt)
    (hpop : rt.graph.queue.pop = some (slot, queue)) :
    Carries P [slot] { rt.graph with queue := queue } {} ∧
      ∀ p ∈ (rt.graph.slots slot).frame, P (rt.graph.slots slot).node p := by
  obtain ⟨hok, -, htally⟩ := h.carries.ok.dequeue hpop
  have hpackets := h.carries.packets
  rw [Graph.contents, htally] at hpackets
  refine ⟨⟨hok, fun x hx => hpackets x (Multiset.mem_add.mpr (.inr hx))⟩, fun p hp => ?_⟩
  exact hpackets ((rt.graph.slots slot).node, p) (Multiset.mem_add.mpr (.inl (FrameSlot.mem_contents.mpr ⟨rfl, hp⟩)))

def Runtime.enterSlot (rt : Runtime) (slot : SlotId) : Runtime :=
  let s := rt.graph.slots slot
  { rt with
    graph := rt.graph.updateStats s.node fun stats => { stats with
      packets := stats.packets + s.frame.length, bytes := stats.bytes + (s.frame.map fun p => p.1.buffer.pktLen).sum }
    activeOutput := some {} }

def Runtime.leaveSlot (rt : Runtime) (slot : SlotId) : Runtime :=
  let slots := Function.update rt.graph.slots slot { rt.graph.slots slot with used := false }
  flushAll { rt with activeOutput := none, graph := { rt.graph with slots := slots } } (rt.activeOutput.getD {})

theorem runSlot_eq_some {rt' : Runtime} (hrun : runSlot submit slot rt = some (⟨⟩, rt')) : ∃ rt₁,
    runNode submit (rt.graph.slots slot).node (rt.graph.slots slot).frame (rt.enterSlot slot) = some (⟨⟩, rt₁) ∧
      rt' = rt₁.leaveSlot slot := by
  change (runNode submit (rt.graph.slots slot).node (rt.graph.slots slot).frame (rt.enterSlot slot)).bind _ = _ at hrun
  obtain ⟨⟨_, rt₁⟩, hran, hend⟩ := Option.bind_eq_some_iff.mp hrun
  exact ⟨rt₁, hran, (Prod.mk.inj (Option.some.inj hend)).2.symm⟩

theorem Running.leaveSlot (h : Running P I [slot] rt) : Resting P I {} (rt.leaveSlot slot) := by
  obtain ⟨out, hactive, hcarries, hview⟩ := h
  obtain ⟨hok, htally⟩ := hcarries.ok.release
  apply Resting.flushAll
  rw [hactive]
  refine ⟨rfl, ⟨hok, fun x hx => hcarries.packets x ?_⟩, hview⟩
  rw [Graph.contents, ← htally]
  exact hx

theorem runSlot_of_node {I' : View → Prop} {queue : RingBuffer SlotId graphFramePoolSize} {rt' : Runtime}
    (hcarries : Carries P [slot] { rt.graph with queue := queue } {}) (hview : I rt.view)
    (hnode : Safe (Running P I [slot]) (runNode submit (rt.graph.slots slot).node (rt.graph.slots slot).frame)
      fun _ => Running P I' [slot])
    (hrun : runSlot submit slot { rt with graph := { rt.graph with queue := queue } } = some (⟨⟩, rt')) :
    Resting P I' {} rt' := by
  obtain ⟨rt₁, hran, rfl⟩ := runSlot_eq_some hrun
  have hrunning : Running P I [slot] (Runtime.enterSlot { rt with graph := { rt.graph with queue := queue } } slot) :=
    ⟨{}, rfl, hcarries.of_eq rfl rfl, hview⟩
  exact (hnode.post _ _ rt₁ hrunning hran).leaveSlot

theorem runSlot_resting (hflow : Flow P I) {queue : RingBuffer SlotId graphFramePoolSize} {rt' : Runtime}
    (h : Resting P I {} rt) (hpop : rt.graph.queue.pop = some (slot, queue))
    (hrun : runSlot submit slot { rt with graph := { rt.graph with queue := queue } } = some (⟨⟩, rt')) :
    Resting P I {} rt' := by
  obtain ⟨hcarries, hframe⟩ := h.dequeue hpop
  exact runSlot_of_node hcarries h.view (runNode_flows hflow.handover submit _ hframe) hrun

abbrev Visit := NodeId × Frame

def drainLog : ℕ → Runtime → Option (List Visit × Runtime)
  | 0, rt => if rt.graph.queue.count = 0 then some ([], rt) else none
  | fuel + 1, rt =>
    match rt.graph.queue.pop with
    | none => some ([], rt)
    | some (slot, queue) =>
      (runSlot (graphSubmit fuel) slot { rt with graph := { rt.graph with queue := queue } }).bind fun r =>
        (drainLog fuel r.2).map fun log => (((rt.graph.slots slot).node, (rt.graph.slots slot).frame) :: log.1, log.2)

theorem drain_eq_drainLog (fuel : ℕ) (rt : Runtime) :
    drain fuel rt = (drainLog fuel rt).map fun log => (⟨⟩, log.2) := by
  induction fuel generalizing rt with
  | zero =>
    unfold drain drainLog
    split <;> rfl
  | succ fuel ih =>
    unfold drain drainLog
    cases hpop : rt.graph.queue.pop with
    | none => rfl
    | some popped =>
      change (runSlot (graphSubmit fuel) popped.1 _).bind (fun r => drain fuel r.2) = _
      dsimp only
      rw [Option.map_bind]
      congr 1
      funext r
      rw [ih, Function.comp, Option.map_map]
      rfl

def submitLog (fuel : ℕ) (node : NodeId) (frame : Frame) (rt : Runtime) : Option (List Visit × Runtime) :=
  if graphFrameSize < frame.length then some ([], rt) else drainLog fuel (seedFrame node frame rt)

theorem graphSubmit_eq_submitLog (fuel : ℕ) (node : NodeId) (frame : Frame) (rt : Runtime) :
    graphSubmit fuel node frame rt = (submitLog fuel node frame rt).map fun log => (⟨⟩, log.2) := by
  unfold graphSubmit submitLog
  split
  · rfl
  · exact drain_eq_drainLog fuel _

theorem drainLog_keeps {K : Runtime → Prop} {fuel : ℕ} {log : List Visit} {rt' : Runtime}
    (hK : ∀ {rt : Runtime}, K rt → Resting P I {} rt)
    (hslot : ∀ {submit : Submit} {slot : SlotId} {queue : RingBuffer SlotId graphFramePoolSize} {rt rt' : Runtime}, K rt →
      rt.graph.queue.pop = some (slot, queue) →
        runSlot submit slot { rt with graph := { rt.graph with queue := queue } } = some (⟨⟩, rt') → K rt')
    (h : K rt) (hrun : drainLog fuel rt = some (log, rt')) :
    IdleGraph rt' ∧ K rt' ∧ ∀ visit ∈ log, ∀ p ∈ visit.2, P visit.1 p := by
  induction fuel generalizing rt log with
  | zero =>
    unfold drainLog at hrun
    split at hrun
    · rename_i hcount
      obtain ⟨rfl, rfl⟩ := Prod.mk.inj (Option.some.inj hrun)
      rw [← RingBuffer.length_toList] at hcount
      exact ⟨(hK h).idleGraph (List.eq_nil_of_length_eq_zero hcount), h, nofun⟩
    · cases hrun
  | succ fuel ih =>
    unfold drainLog at hrun
    split at hrun
    · rename_i hpop
      obtain ⟨rfl, rfl⟩ := Prod.mk.inj (Option.some.inj hrun)
      exact ⟨(hK h).idleGraph (RingBuffer.pop_eq_none_iff.mp hpop), h, nofun⟩
    · rename_i slot queue hpop
      obtain ⟨⟨_, rt₁⟩, hran, htail⟩ := Option.bind_eq_some_iff.mp hrun
      obtain ⟨⟨log', rt₂⟩, hlog, he⟩ := Option.map_eq_some_iff.mp htail
      obtain ⟨rfl, rfl⟩ := Prod.mk.inj he
      obtain ⟨hidle, hend, hvisits⟩ := ih (hslot h hpop hran) hlog
      refine ⟨hidle, hend, ?_⟩
      rintro visit hvisit p hp
      rcases List.mem_cons.mp hvisit with rfl | hvisit
      · exact ((hK h).dequeue hpop).2 p hp
      · exact hvisits visit hvisit p hp

theorem submitLog_flows (hflow : Flow P I) {fuel : ℕ} {frame : Frame} {log : List Visit} {rt' : Runtime}
    (hidle : IdleGraph rt) (hview : I rt.view) (hframe : ∀ p ∈ frame, P node p)
    (hrun : submitLog fuel node frame rt = some (log, rt')) :
    IdleGraph rt' ∧ I rt'.view ∧ ∀ visit ∈ log, ∀ p ∈ visit.2, P visit.1 p := by
  unfold submitLog at hrun
  split at hrun
  · obtain ⟨rfl, rfl⟩ := Prod.mk.inj (Option.some.inj hrun)
    exact ⟨hidle, hview, nofun⟩
  · obtain ⟨hidle', hresting, hvisits⟩ :=
      drainLog_keeps id (runSlot_resting hflow) ((hidle.resting hview).seedFrame hframe) hrun
    exact ⟨hidle', hresting.view, hvisits⟩

def Still (I : View → Prop) (rt : Runtime) : Prop := IdleGraph rt ∧ I rt.view

theorem graphSubmit_still (hflow : Flow P I) {fuel : ℕ} {frame : Frame} (hframe : ∀ p ∈ frame, P node p) :
    Safe (Still I) (graphSubmit fuel node frame) fun _ => Still I := by
  refine ⟨fun rt _ rt' h hrun => ?_⟩
  rw [graphSubmit_eq_submitLog] at hrun
  obtain ⟨⟨log, rt''⟩, hlog, he⟩ := Option.map_eq_some_iff.mp hrun
  obtain ⟨-, rfl⟩ := Prod.mk.inj he
  obtain ⟨hidle, hview, -⟩ := submitLog_flows hflow h.1 h.2 hframe hlog
  exact ⟨hidle, hview⟩

end PulsarNetstack
