import PulsarNetstack.CheckedNodes
import PulsarNetstack.GraphInvariants

namespace PulsarNetstack

open Program

abbrev PendingQueues := Fin neighbourPendingMax → PendingNeighbour

abbrev PendingLogs := Fin neighbourPendingMax → List PendingEvent

abbrev Ticking := Runtime → Fin neighbourPendingMax → ℕ → Prop

def storeIn (entry : PendingNeighbour) (dev : Word16) (p : Packet) (now : ℕ) : PendingNeighbour :=
  let entry := if entry.packets = [] then
    { entry with netifId := dev, ip := p.2.nextHop, requests := 1, lastRequest := now } else entry
  { entry with packets := entry.packets ++ [(p.1, { p.2 with reportAcceptance := false })] }

theorem storeIn_packets (entry : PendingNeighbour) (dev : Word16) (p : Packet) (now : ℕ) :
    (storeIn entry dev p now).packets = entry.packets ++ [(p.1, { p.2 with reportAcceptance := false })] := by
  unfold storeIn
  split
  · rfl
  · rfl

def storeEvents (entry : PendingNeighbour) (p : Packet) (now : ℕ) : List PendingEvent :=
  if entry.packets = [] then [.opened now, .stored p] else [.stored p]

def keepOthers (localAddr remoteAddr : SockAddr) (entry : PendingNeighbour) : PendingNeighbour :=
  let keep := entry.packets.filter fun p => !queuedBy localAddr remoteAddr p
  if keep = [] then {} else { entry with packets := keep }

theorem keepOthers_packets {localAddr remoteAddr : SockAddr} {entry : PendingNeighbour} {p : Packet}
    (h : p ∈ (keepOthers localAddr remoteAddr entry).packets) : p ∈ entry.packets := by
  unfold keepOthers at h
  dsimp only at h
  split at h
  · cases h
  · exact (List.mem_filter.mp h).1

def sinceRequest (entry : PendingNeighbour) (now : ℕ) : ℕ :=
  (now + 18446744073709551616 - entry.lastRequest) % 18446744073709551616

def Runtime.HasRead (rt : Runtime) (now : ℕ) : Prop := ∃ n < rt.calls, now = rt.world.time n

inductive PendingChange (ticking : Ticking) (rt : Runtime) :
    PendingQueues → PendingLogs → Prop
  | store {netifId now : ℕ} {p : Packet} {i : Fin neighbourPendingMax} {port : PortState} (read : rt.HasRead now)
      (place : pendingEntry rt.pendingNeighbours (BitVec.ofNat 16 netifId) p.2.nextHop = some i)
      (room : (rt.pendingNeighbours i).packets.length ≠ neighbourPendingQueueMax)
      (found : ((netifById rt.routing netifId).filter fun port => port.up && port.portId == p.2.egressPortId) = some port) :
      PendingChange ticking rt (Function.update rt.pendingNeighbours i
        (storeIn (rt.pendingNeighbours i) (BitVec.ofNat 16 netifId) p now))
        (rt.noting i (storeEvents (rt.pendingNeighbours i) p now))
  | ask {now : ℕ} {i : Fin neighbourPendingMax} (tick : ticking rt i now) (read : rt.HasRead now)
      (waiting : (rt.pendingNeighbours i).packets ≠ [])
      (due : rt.world.hz * arpRetrySeconds ≤ sinceRequest (rt.pendingNeighbours i) now)
      (more : (rt.pendingNeighbours i).requests ≠ arpMaxRequests) :
      PendingChange ticking rt (Function.update rt.pendingNeighbours i { rt.pendingNeighbours i with
        requests := (rt.pendingNeighbours i).requests + 1, lastRequest := now }) (rt.noting i [.asked now])
  | release (i : Fin neighbourPendingMax) : PendingChange ticking rt (Function.update rt.pendingNeighbours i {}) rt.pendingLog
  | timeout {now : ℕ} {i : Fin neighbourPendingMax} (tick : ticking rt i now) (read : rt.HasRead now)
      (waiting : (rt.pendingNeighbours i).packets ≠ [])
      (due : rt.world.hz * arpRetrySeconds ≤ sinceRequest (rt.pendingNeighbours i) now)
      (last : (rt.pendingNeighbours i).requests = arpMaxRequests) :
      PendingChange ticking rt (Function.update rt.pendingNeighbours i {}) (rt.noting i [.timedOut now])
  | discard (i : Fin neighbourPendingMax) :
      PendingChange ticking rt (Function.update rt.pendingNeighbours i {}) (rt.noting i [])
  | cancel (i : Fin neighbourPendingMax) (localAddr remoteAddr : SockAddr) :
      PendingChange ticking rt (Function.update rt.pendingNeighbours i
        (keepOthers localAddr remoteAddr (rt.pendingNeighbours i))) rt.pendingLog

structure Requeued (rt : Runtime) (queues : PendingQueues) (logs : PendingLogs) (rt' : Runtime) : Prop where
  queues : rt'.pendingNeighbours = queues
  logs : rt'.pendingLog = logs
  routing : rt'.routing = rt.routing
  neighbours : rt'.neighbours = rt.neighbours
  world : rt'.world = rt.world
  calls : rt.calls ≤ rt'.calls

structure Moved (rt : Runtime) (queues : PendingQueues) (logs : PendingLogs) (rt' : Runtime) : Prop extends
    Requeued rt queues logs rt' where
  slots : rt'.graph.slots = rt.graph.slots
  queue : rt'.graph.queue = rt.graph.queue
  activeOutput : rt'.activeOutput = rt.activeOutput

theorem Moved.same {rt rt' : Runtime} {queues : PendingQueues} {logs : PendingLogs}
    (h : (rt'.pendingNeighbours, rt'.pendingLog, rt'.routing, rt'.neighbours, rt'.world, rt'.calls, rt'.graph.slots,
      rt'.graph.queue, rt'.activeOutput) = (queues, logs, rt.routing, rt.neighbours, rt.world, rt.calls, rt.graph.slots,
        rt.graph.queue, rt.activeOutput)) : Moved rt queues logs rt' := by
  simp only [Prod.mk.injEq] at h
  obtain ⟨hqueues, hlogs, hrouting, hneighbours, hworld, hcalls, hslots, hqueue, hactive⟩ := h
  exact ⟨⟨hqueues, hlogs, hrouting, hneighbours, hworld, hcalls.ge⟩, hslots, hqueue, hactive⟩

theorem Requeued.hasRead {rt rt' : Runtime} {queues : PendingQueues} {logs : PendingLogs} {now : ℕ}
    (h : Requeued rt queues logs rt')
    (hread : rt.HasRead now) : rt'.HasRead now := by
  obtain ⟨n, hn, hnow⟩ := hread
  exact ⟨n, hn.trans_le h.calls, by rw [h.world]; exact hnow⟩

variable {rt rt' : Runtime} {submit : Submit} {A J : Runtime → Prop} {P : NodeId → Packet → Prop} {ticking : Ticking}
  {fuel : ℕ} {E : Word16 → Word → Mac → Prop}

def Runtime.namedDevice (rt : Runtime) (names : List String) (r : AdminRequest) : Option (PortState × String × ℕ) :=
  (rt.routing.ports.zip names.zipIdx).reverse.find? fun p => p.2.1 == r.dev

inductive Edited (E : Word16 → Word → Mac → Prop) (t : NeighbourTable) : NeighbourTable → Prop
  | set {dev : Word16} {ip : Word} {mac : Mac} (j : Fin neighbourCapacity) (asked : E dev ip mac) : Edited E t
      (Function.update t j { ip := ip, netifId := dev, mac := mac, inUse := true, permanent := true })
  | learn {dev : Word16} {ip : Word} {mac : Mac} (asked : E dev ip mac) :
      Edited E t (neighbourLearn t (BitVec.ofNat 16 dev.toNat) ip mac).1
  | delete (dev : Word16) (ip : Word) : Edited E t (neighbourDelete t dev ip).1

/-- An assertion that all that the nodes and the calls do through the queues keeps. `P` is what is known of the
packets at each node; a new packet on the way out has it by itself. -/
structure Parks (ticking : Ticking) (P : NodeId → Packet → Prop) (submit : Submit) (A : Runtime → Prop) : Prop where
  still {rt rt' : Runtime} : A rt → Moved rt rt.pendingNeighbours rt.pendingLog rt' → A rt'
  change {rt rt' : Runtime} {queues : PendingQueues} {logs : PendingLogs} : A rt → PendingChange ticking rt queues logs →
    (∀ i, ∀ p ∈ (queues i).packets, P .ethOutput p) → Moved rt queues logs rt' → A rt'
  parked {rt : Runtime} (i : Fin neighbourPendingMax) : A rt → ∀ p ∈ (rt.pendingNeighbours i).packets, P .ethOutput p
  fresh {n : NodeId} {p : Packet} : n.outbound = true → p.2.transit = false → P n p
  inject {n : NodeId} {p : Packet} : P n p → Safe A (inject submit n p) fun _ => A
  handOver (rt : Runtime) (frame : Frame) : A rt → (∀ p ∈ frame, P .ethOutput p) →
    Safe A (if rt.activeOutput.isSome then frame.forM fun p => do let _ ← emit .ethOutput p
      else submit .ethOutput frame) fun _ => A

namespace Parks

variable (h : Parks ticking P submit A)
include h

theorem parked_update {i : Fin neighbourPendingMax} {e : PendingNeighbour} (ha : A rt)
    (he : ∀ p ∈ e.packets, P .ethOutput p) (j : Fin neighbourPendingMax) :
    ∀ p ∈ (Function.update rt.pendingNeighbours i e j).packets, P .ethOutput p := by
  by_cases hj : j = i
  · subst hj
    rw [Function.update_self]
    exact he
  · rw [Function.update_of_ne hj]
    exact h.parked j ha

theorem modify {f : Runtime → Runtime} (hf : ∀ rt, Moved rt rt.pendingNeighbours rt.pendingLog (f rt)) :
    Safe A (modify f : GraphM PUnit) fun _ => A :=
  Safe.modify fun rt ha => h.still ha (hf rt)

theorem timerCycles : Safe A timerCycles fun now rt => A rt ∧ rt.HasRead now := by
  refine ⟨fun rt a rt' ha hrun => ?_⟩
  obtain ⟨rfl, rfl⟩ := Prod.mk.inj (Option.some.inj hrun)
  exact ⟨h.still ha ⟨⟨rfl, rfl, rfl, rfl, rfl, Nat.le_succ _⟩, rfl, rfl, rfl⟩, rt.calls, Nat.lt_succ_self _, rfl⟩

theorem clock : Safe A PulsarNetstack.timerCycles fun _ => A := h.timerCycles.conseq (fun _ ha => ha) fun _ _ ha => ha.1

theorem allocMbuf : Safe A allocMbuf fun _ => A := by
  refine ⟨fun rt a rt' ha hrun => ?_⟩
  change some (if rt.world.alloc rt.calls then _ else _) = _ at hrun
  split at hrun
  all_goals
    obtain ⟨rfl, rfl⟩ := Prod.mk.inj (Option.some.inj hrun)
    exact h.still ha ⟨⟨rfl, rfl, rfl, rfl, rfl, Nat.le_succ _⟩, rfl, rfl, rfl⟩

theorem freeMbuf (m : Mbuf) (cause : FreeCause) : Safe A (freeMbuf m cause) fun _ => A :=
  h.modify fun _ => .same rfl

theorem modifyIcmp (f : IcmpErrorState → IcmpErrorState) : Safe A (modifyIcmp f) fun _ => A :=
  h.modify fun _ => .same rfl

theorem modifyTcp (f : TcpStats → TcpStats) : Safe A (modifyTcp f) fun _ => A :=
  h.modify fun _ => .same rfl

theorem releasePending (i : Fin neighbourPendingMax) : Safe A (releasePending submit i) fun _ => A := by
  apply Safe.get_bind
  intro rt ha
  dsimp only
  apply Safe.bind (Q := fun _ => A)
  · exact Safe.set fun _ _ => h.change ha (.release i) (h.parked_update ha nofun) (.same rfl)
  · exact fun _ => h.handOver rt _ ha (h.parked i ha)

theorem arpRequest (port : PortState) (target : Word) : Safe A (arpRequest submit port target) fun _ => A := by
  apply Safe.bind h.allocMbuf
  rintro (_ | m)
  · exact h.modify fun _ => .same rfl
  · exact Safe.bind (h.inject (h.fresh rfl rfl)) fun _ => Safe.pure fun _ ha => ha

theorem neighbourQueue (netifId : ℕ) {p : Packet} (now : ℕ)
    (hp : P .ethOutput (p.1, { p.2 with reportAcceptance := false })) :
    Safe (fun rt => A rt ∧ rt.HasRead now) (neighbourQueue submit netifId p now) fun _ => A := by
  apply Safe.get_bind
  rintro rt ⟨ha, hread⟩
  have hrefused (reason : DropReason) : Safe (fun s => s = rt) (pure reason : GraphM DropReason) fun _ => A := by
    apply Safe.pure
    rintro _ rfl
    exact ha
  dsimp only
  split
  · exact hrefused _
  rename_i i hplace
  split
  · exact hrefused _
  rename_i hroom
  split
  · exact hrefused _
  rename_i port hport
  apply Safe.bind (Q := fun _ => A)
  · have hstored : ∀ q ∈ (storeIn (rt.pendingNeighbours i) (BitVec.ofNat 16 netifId) p now).packets, P .ethOutput q := by
      intro q hq
      rw [storeIn_packets] at hq
      obtain hq | hq := List.mem_append.mp hq
      · exact h.parked i ha q hq
      · rw [List.mem_singleton.mp hq]
        exact hp
    exact Safe.set fun _ _ => h.change ha (.store hread hplace hroom hport) (h.parked_update ha hstored) (.same rfl)
  · intro _
    split
    · exact Safe.bind (h.arpRequest _ _) fun _ => Safe.pure fun _ ha => ha
    · exact Safe.pure fun _ ha => ha

theorem neighbourUpdate {netifId : ℕ} {ip : Word} {mac : Mac}
    (hlearn : ∀ rt, A rt → A { rt with neighbours := (neighbourLearn rt.neighbours (BitVec.ofNat 16 netifId) ip mac).1 }) :
    Safe A (neighbourUpdate submit netifId ip mac) fun _ => A := by
  apply Safe.get_bind
  intro rt ha
  dsimp only
  apply Safe.bind (Q := fun _ => A)
  · exact Safe.set fun _ _ => hlearn rt ha
  · intro _
    split
    · refine Safe.bind (Safe.forM fun i _ => Safe.peek fun _ _ => ?_) fun _ => Safe.pure fun _ ha => ha
      split
      · exact h.releasePending i
      · exact Safe.pure fun _ ha => ha
    · exact Safe.pure fun _ ha => ha

theorem sendNew (bytes : List Byte) {ctx : PacketCtx} {sent failed : GraphM PUnit} (hctx : ctx.transit = false)
    (hsent : Safe A sent fun _ => A) (hfailed : Safe A failed fun _ => A) : Safe A (sendNew submit bytes ctx sent failed) fun _ => A := by
  apply Safe.bind h.allocMbuf
  rintro (_ | m)
  · exact hfailed
  · dsimp only
    generalize m.buffer.append bytes = built
    cases built with
    | none => exact Safe.bind (h.freeMbuf m _) fun _ => hfailed
    | some buffer => exact Safe.bind (h.inject (h.fresh rfl hctx)) fun _ => Safe.ite (fun _ => hsent) fun _ => hfailed

theorem icmpSendError (b : Buffer) (ctx : PacketCtx) (type code : Byte) (mtu now : ℕ) :
    Safe A (icmpSendError submit b ctx type code mtu now) fun _ => A :=
  icmpSendError_safe h.modifyIcmp (fun _ _ _ hctx => h.sendNew _ hctx (h.modifyIcmp _) (h.modifyIcmp _)) b ctx type code mtu now

theorem tcpEmit (localAddr remoteAddr : SockAddr) (seq ack : Word) (flags : Byte) (window : ℕ) (data : List Byte) :
    Safe A (tcpEmit submit localAddr remoteAddr seq ack flags window data) fun _ => A := by
  unfold PulsarNetstack.tcpEmit
  apply Safe.peek
  intro rt _
  exact Safe.ite (fun _ => h.modifyTcp _) fun _ => h.sendNew _ rfl (h.modifyTcp _) (h.modifyTcp _)

theorem discardPacket (reason : DropReason) (p : Packet) : Safe A (discardPacket reason p) fun _ => A :=
  Safe.bind (h.modify fun _ => .same rfl) fun _ => h.freeMbuf _ _

theorem cancelQueued (localAddr remoteAddr : SockAddr) : Safe A (cancelQueued localAddr remoteAddr) fun _ => A := by
  apply Safe.forM
  intro i _
  apply Safe.get_bind
  intro rt ha
  dsimp only
  apply Safe.bind (Q := fun _ => A)
  · exact Safe.set fun _ _ =>
      h.change ha (.cancel i localAddr remoteAddr) (h.parked_update ha fun p hp => h.parked i ha p (keepOthers_packets hp)) (.same rfl)
  · exact fun _ => Safe.forM fun p _ => h.discardPacket _ p

theorem tcpEffect (e : TcpEffect) : Safe A (tcpEffect submit e) fun _ => A := by
  cases e with
  | emit => exact h.tcpEmit _ _ _ _ _ _ _
  | cancelQueued => exact h.cancelQueued _ _
  | count =>
    unfold PulsarNetstack.tcpEffect
    exact h.modifyTcp _

theorem discardDetached (packets : List Packet) (reason : DropReason) (now : ℕ) :
    Safe A (packets.forM fun p => do
      if reason = .neighbourResolutionTimeout ∧ p.2.transit then
        PulsarNetstack.icmpSendError submit p.1.buffer p.2 3 1 0 now
      modifyGraph fun g => g.updateStats .drop fun s => { s with bytes := s.bytes + p.1.buffer.pktLen }
      PulsarNetstack.freeMbuf p.1 (.discarded reason)) fun _ => A := by
  apply Safe.forM
  intro p _
  have hfreed : Safe A (do
      modifyGraph fun g => g.updateStats .drop fun s => { s with bytes := s.bytes + p.1.buffer.pktLen }
      PulsarNetstack.freeMbuf p.1 (.discarded reason)) fun _ => A :=
    Safe.bind (h.modify fun _ => .same rfl) fun _ => h.freeMbuf _ _
  apply Safe.ite
  · exact fun _ => Safe.bind (h.icmpSendError _ _ _ _ _ _) fun _ => hfreed
  · exact fun _ => hfreed

theorem discardPending (ha : A rt) (i : Fin neighbourPendingMax) (reason : DropReason) (now : ℕ)
    (hchange : PendingChange ticking rt (Function.update rt.pendingNeighbours i {})
      (rt.noting i (if reason = DropReason.neighbourResolutionTimeout then [.timedOut now] else []))) :
    Safe (fun s => s = rt) (discardPending submit i reason now) fun _ => A := by
  apply Safe.get_bind
  rintro _ rfl
  dsimp only
  apply Safe.bind (Q := fun _ => A)
  · exact Safe.set fun _ _ => h.change ha hchange (h.parked_update ha nofun) (.same rfl)
  · exact fun _ => h.discardDetached _ reason now

theorem neighbourTickEntry (now : ℕ) (i : Fin neighbourPendingMax) :
    Safe (fun rt => A rt ∧ rt.HasRead now ∧ ticking rt i now) (neighbourTickEntry submit now i) fun _ => A := by
  apply Safe.get_bind
  rintro rt ⟨hrt, hread, htick⟩
  have hsame : ∀ s, s = rt → A s := by
    rintro _ rfl
    exact hrt
  apply Safe.ite
  · intro hwaiting
    split
    · exact h.discardPending hrt i _ now (.discard i)
    split
    · exact (h.releasePending i).conseq hsame fun _ _ h => h
    dsimp only
    apply Safe.ite
    · intro hdue
      apply Safe.ite
      · exact fun hlast => h.discardPending hrt i _ now (.timeout htick hread hwaiting hdue hlast)
      · intro hmore
        apply Safe.bind (Q := fun _ => A)
        · exact Safe.set fun _ _ =>
            h.change hrt (.ask htick hread hwaiting hdue hmore) (h.parked_update hrt (h.parked i hrt)) (.same rfl)
        · exact fun _ => h.arpRequest _ _
    · exact fun _ => Safe.pure hsame
  · exact fun _ => Safe.pure hsame

theorem neighbourTick {now : ℕ} (htick : ∀ rt i, ticking rt i now) (hread : ∀ rt, A rt → rt.HasRead now) :
    Safe A (neighbourTick submit now) fun _ => A :=
  Safe.forM fun i _ => (h.neighbourTickEntry now i).conseq (fun rt ha => ⟨ha, hread rt ha, htick rt i⟩) fun _ _ ha => ha

theorem neighbourFini : Safe A (neighbourFini submit) fun _ => A :=
  Safe.forM fun i _ => ⟨fun rt _ rt' ha hrun => (h.discardPending ha i _ _ (.discard i)).post rt _ rt' rfl hrun⟩

theorem neighbourCancel (dev : Word16) (ip : Word) : Safe A (neighbourCancel submit dev ip) fun _ => A := by
  apply Safe.forM
  intro i _
  apply Safe.get_bind
  intro rt ha
  apply Safe.ite
  · exact fun _ => h.discardPending ha i _ _ (.discard i)
  · refine fun _ => Safe.pure ?_
    rintro _ rfl
    exact ha

theorem neighbourSetEntry (hedit : ∀ rt t, A rt → Edited E rt.neighbours t → A { rt with neighbours := t }) {dev : Word16}
    {ip : Word} {mac : Mac} (hasked : E dev ip mac) (replace : Bool) : Safe A (neighbourSetEntry submit dev ip mac replace) fun _ => A := by
  apply Safe.get_bind
  intro rt ha
  have hrefused (e : Errno) : Safe (fun s => s = rt) (pure (.error e) : GraphM (Except Errno Unit)) fun _ => A := by
    apply Safe.pure
    rintro _ rfl
    exact ha
  apply Safe.ite
  · exact fun _ => hrefused _
  intro _
  split
  · exact hrefused _
  apply Safe.ite
  · exact fun _ => hrefused _
  intro _
  apply Safe.bind (Q := fun _ => A)
  · exact Safe.set fun _ _ => hedit _ _ ha (.set _ hasked)
  · exact fun _ => h.neighbourUpdate fun rt ha => hedit rt _ ha (.learn hasked)

theorem neighbourDeleteEntry (hedit : ∀ rt t, A rt → Edited E rt.neighbours t → A { rt with neighbours := t })
    (dev : Word16) (ip : Word) :
    Safe A (neighbourDeleteEntry submit dev ip) fun _ => A := by
  apply Safe.get_bind
  intro rt ha
  dsimp only
  apply Safe.bind (Q := fun _ => A)
  · exact Safe.set fun _ _ => hedit _ _ ha (.delete dev ip)
  intro _
  apply Safe.ite
  · exact fun _ => Safe.bind (h.neighbourCancel _ _) fun _ => Safe.pure fun _ ha => ha
  · exact fun _ => Safe.pure fun _ ha => ha

theorem neighbourFlushFrom (hedit : ∀ rt t, A rt → Edited E rt.neighbours t → A { rt with neighbours := t })
    (dev : Word16) (fuel i : ℕ) :
    Safe A (neighbourFlushFrom submit dev fuel i) fun _ => A := by
  induction fuel generalizing i with
  | zero => exact ⟨fun _ _ _ _ hrun => nomatch hrun⟩
  | succ fuel ih =>
    apply Safe.peek
    intro rt _
    split
    · apply Safe.ite
      · intro _
        apply Safe.bind (h.neighbourDeleteEntry hedit _ _)
        intro result
        apply Safe.ite
        · exact fun _ => ih _
        · exact fun _ => Safe.pure fun _ ha => ha
      · exact fun _ => ih _
    · exact Safe.bind (h.neighbourCancel _ _) fun _ => Safe.pure fun _ ha => ha

theorem tableCall (call : TcpEnv → SocketTable → Word → ℕ → SocketTable × List TcpEffect × CallReply) :
    Safe A (tableCall submit call) fun _ => A := by
  apply Safe.bind h.clock
  intro now
  apply Safe.get_bind
  intro rt ha
  generalize call rt.tcpEnv rt.sockets (rt.world.random rt.calls) now = result
  obtain ⟨sockets, effects, reply⟩ := result
  apply Safe.bind (Q := fun _ => A)
  · exact Safe.set fun _ _ => h.still ha (.same rfl)
  · intro _
    exact Safe.bind (Safe.forM fun e _ => h.tcpEffect e) fun _ => Safe.pure fun _ ha => ha

theorem runTcpTick (now : ℕ) : Safe A (runTcpTick submit now) fun _ => A := by
  apply Safe.get_bind
  intro rt ha
  generalize tcpTick rt.tcpEnv rt.sockets now = result
  obtain ⟨sockets, effects⟩ := result
  apply Safe.bind (Q := fun _ => A)
  · exact Safe.set fun _ _ => h.still ha (.same rfl)
  · exact fun _ => Safe.forM fun e _ => h.tcpEffect e

theorem tcpTimerProgress (timerNext now : ℕ) : Safe A (tcpTimerProgress submit timerNext now) fun _ => A := by
  apply Safe.ite
  · exact fun _ => Safe.pure fun _ ha => ha
  · exact fun _ => Safe.peek fun _ _ => Safe.bind (h.runTcpTick now) fun _ => Safe.pure fun _ ha => ha

section Submitting

variable (hsubmit : ∀ n frame, (∀ p ∈ frame, P n p) → Safe A (submit n frame) fun _ => A)
include hsubmit

theorem udpSend (s : SocketEntry) (payload : List Byte) (dst : SockAddr) :
    Safe A (udpSend submit s payload dst) fun _ => A := by
  have hfailed (reason : DropReason) (error : Errno) : Safe A (sendFailure reason error) fun _ => A :=
    Safe.bind (h.modify fun _ => .same rfl) fun _ => Safe.pure fun _ ha => ha
  apply Safe.peek
  intro rt _
  apply Safe.ite
  · exact fun _ => hfailed _ _
  intro _
  dsimp only
  apply Safe.ite
  · exact fun _ => hfailed _ _
  intro _
  apply Safe.ite
  · exact fun _ => hfailed _ _
  intro _
  apply Safe.bind h.allocMbuf
  rintro (_ | m)
  · exact hfailed _ _
  dsimp only
  generalize m.buffer.append payload = built
  cases built with
  | none => exact Safe.bind (h.freeMbuf m _) fun _ => hfailed _ _
  | some buffer =>
    refine Safe.bind (hsubmit _ _ fun p hp => ?_) fun _ => Safe.peek fun _ _ => Safe.pure fun _ ha => ha
    rw [List.mem_singleton.mp hp]
    exact h.fresh rfl rfl

theorem coreSendto (fd : ℤ) (data : List Byte) (dst : Option SockAddr) :
    Safe A (coreSendto submit fd data dst) fun _ => A := by
  apply Safe.bind (h.tableCall _)
  intro reply
  split
  · exact Safe.pure fun _ ha => ha
  · exact Safe.peek fun _ _ => h.udpSend hsubmit _ _ _

theorem runCall (call : SocketCall) : Safe A (runCall submit call) fun _ => A := by
  cases call with
  | send fd data =>
    apply Safe.peek
    intro rt _
    split
    · exact Safe.pure fun _ ha => ha
    apply Safe.ite
    · exact fun _ => h.tableCall _
    intro _
    apply Safe.ite
    · exact fun _ => Safe.pure fun _ ha => ha
    · exact fun _ => h.coreSendto hsubmit _ _ _
  | sendto fd data dst => exact h.coreSendto hsubmit _ _ _
  | socket | bind | connect | listen | accept | recv | recvfrom | close =>
    unfold PulsarNetstack.runCall
    exact h.tableCall _

theorem createSocket (owner : ℕ) (m : IpcMessage) : Safe A (createSocket submit owner m) fun _ => A := by
  apply Safe.bind (h.runCall hsubmit _)
  intro reply
  split
  · exact Safe.pure fun _ ha => ha
  · refine Safe.bind (h.modify fun _ => ?_) fun _ => Safe.pure fun _ ha => ha
    exact .same rfl

theorem daemonDispatch (request : DaemonItem) : Safe A (daemonDispatch submit request) fun _ => A :=
  daemonDispatch_safe (h.runCall hsubmit) (h.createSocket hsubmit) request

theorem receiveBurst {portId : ℕ} {buffers : List Buffer}
    (hreceived : ∀ b ∈ buffers, ∀ id, P .ethInput (⟨id, b⟩, { ingressPortId := portId })) :
    Safe A (receiveBurst submit portId buffers) fun _ => A := by
  apply Safe.get_bind
  intro rt ha
  dsimp only
  apply Safe.bind (Q := fun _ => A)
  · exact Safe.set fun _ _ => h.still ha (.same rfl)
  · refine fun _ => Safe.ite (fun _ => hsubmit _ _ fun p hp => ?_) fun _ => Safe.pure fun _ ha => ha
    obtain ⟨b, hb, rfl⟩ := List.mem_map.mp hp
    exact hreceived _ (List.fst_mem_of_mem_zipIdx hb) _

theorem receiveBursts {bursts : ℕ → List Buffer} (ports : List PortState)
    (hreceived : ∀ portId, ∀ b ∈ bursts portId, ∀ id, P .ethInput (⟨id, b⟩, { ingressPortId := portId })) :
    Safe A (ports.forM fun port => do
      if port.configured ∧ port.up then
        PulsarNetstack.receiveBurst submit port.portId ((bursts port.portId).take graphFrameSize)) fun _ => A := by
  refine Safe.forM fun port _ => Safe.ite (fun _ => h.receiveBurst hsubmit ?_) fun _ => Safe.pure fun _ ha => ha
  exact fun b hb => hreceived _ b (List.mem_of_mem_take hb)

end Submitting

end Parks

def NodeId.own : NodeId → Bool
  | .arpInput | .icmpInput | .udpInput | .tcpInput | .ipv4Route | .udpOutput | .ipv4Output | .arpOutput => true
  | .ethInput | .ipv4Input | .ipv4Acl | .ipv4Forward | .ethOutput | .tx | .drop => false

structure Carriage (P : NodeId → Packet → Prop) (J : Runtime → Prop) : Prop where
  parked {rt : Runtime} (i : Fin neighbourPendingMax) : J rt → ∀ p ∈ (rt.pendingNeighbours i).packets, P .ethOutput p
  fresh {n : NodeId} {p : Packet} : n.outbound = true → p.2.transit = false → P n p
  dropped (p : Packet) : P .drop p
  own {n m : NodeId} {p q : Packet} : n.own = true → m.outbound = true → P n p → q.2.transit = p.2.transit → P m q
  ethInput {rt : Runtime} {p : Packet} : J rt → P .ethInput p → ∀ n b ctx,
    PulsarNetstack.ethInput rt.routing p.1.buffer p.2 = .enqueue n b ctx → P n (⟨p.1.id, b⟩, ctx)
  ipv4Input {rt : Runtime} {p : Packet} : J rt → P .ipv4Input p → ∀ n b ctx,
    PulsarNetstack.ipv4Input rt.routing p.1.buffer p.2 = .enqueue n b ctx → P n (⟨p.1.id, b⟩, ctx)
  ipv4Acl {rt : Runtime} {p : Packet} : J rt → P .ipv4Acl p → ∀ n b ctx,
    PulsarNetstack.ipv4Acl rt.routing rt.ipv4Forwarding p.1.buffer p.2 = .enqueue n b ctx → P n (⟨p.1.id, b⟩, ctx)
  ipv4Forward {rt : Runtime} {p : Packet} : J rt → P .ipv4Forward p → ∀ n b ctx,
    (PulsarNetstack.ipv4Forward rt.routing p.1.buffer p.2).2 = .enqueue n b ctx → P n (⟨p.1.id, b⟩, ctx)
  waits {p : Packet} : P .ethOutput p → P .ethOutput (p.1, { p.2 with reportAcceptance := false })
  ethOutput {rt : Runtime} {p : Packet} {port : PortState} {mac : Mac} {b : Buffer} : J rt → P .ethOutput p →
    egressPort rt.routing p.2.egressPortId = some port →
    neighbourLookup rt.neighbours (BitVec.ofNat 16 port.id) p.2.nextHop = .ok mac →
    p.1.buffer.prepend (macBytes mac ++ macBytes port.mac ++ be16Bytes etherTypeIpv4) = some b →
    P .tx (⟨p.1.id, b⟩, { p.2 with
      l3Offset := add16 p.2.l3Offset etherHdrLen, l4Offset := add16 p.2.l4Offset etherHdrLen })

theorem Carriage.any (J : Runtime → Prop) : Carriage (fun _ _ => True) J :=
  ⟨fun _ _ _ _ => trivial, fun _ _ => trivial, fun _ => trivial, fun _ _ _ _ => trivial, fun _ _ _ _ _ _ => trivial,
    fun _ _ _ _ _ _ => trivial, fun _ _ _ _ _ _ => trivial, fun _ _ _ _ _ _ => trivial, fun _ => trivial,
    fun _ _ _ _ _ => trivial⟩

theorem Carriage.mono {J' : Runtime → Prop} (h : Carriage P J) (hJ : ∀ rt, J' rt → J rt) : Carriage P J' :=
  { h with
    parked := fun i hrt => h.parked i (hJ _ hrt)
    ethInput := fun hrt => h.ethInput (hJ _ hrt)
    ipv4Input := fun hrt => h.ipv4Input (hJ _ hrt)
    ipv4Acl := fun hrt => h.ipv4Acl (hJ _ hrt)
    ipv4Forward := fun hrt => h.ipv4Forward (hJ _ hrt)
    ethOutput := fun hrt => h.ethOutput (hJ _ hrt) }

section Marks

variable {r : Routing} {b b' : Buffer} {ctx ctx' : PacketCtx} {n : NodeId}

structure KeepsMark (ctx : PacketCtx) (v : Verdict) : Prop where
  outbound : v.outbound = true
  mark {n : NodeId} {b : Buffer} {ctx' : PacketCtx} : v = .enqueue n b ctx' → ctx'.transit = ctx.transit

theorem Verdict.Leads.keepsMark {next : List NodeId} {v : Verdict} (h : v.Leads ctx next)
    (hnext : ∀ n ∈ next, NodeId.outbound n = true) : KeepsMark ctx v := by
  refine ⟨h.outbound hnext, ?_⟩
  rintro n b ctx' rfl
  have hout := hnext n h.1
  have hforward : (n == .ipv4Forward) = false := by cases n <;> first | rfl | cases hout
  rw [h.2.2, hforward, Bool.false_or]

end Marks

structure Teaches (r : Routing) (p : Packet) (port : PortState) : Prop where
  ingress : ingressPort r p.2.ingressPortId = some port
  accepted : arpRefused r port p.1.buffer p.2 = none
  direct : netDirect r (BitVec.ofNat 32 port.id) (wordAt (p.1.buffer.data.drop p.2.l3Offset) 14) = true

structure Queues (ticking : Ticking) (P : NodeId → Packet → Prop) (J : Runtime → Prop) : Prop where
  still {rt rt' : Runtime} : J rt → Requeued rt rt.pendingNeighbours rt.pendingLog rt' → J rt'
  change {rt rt' : Runtime} {queues : PendingQueues} {logs : PendingLogs} : J rt → PendingChange ticking rt queues logs →
    (∀ i, ∀ p ∈ (queues i).packets, P .ethOutput p) → Requeued rt queues logs rt' → J rt'
  learn {rt rt' : Runtime} {p : Packet} {port : PortState} : J rt → P .arpInput p → Teaches rt.routing p port → J rt' →
    J { rt' with neighbours := (neighbourLearn rt'.neighbours (BitVec.ofNat 16 port.id)
      (wordAt (p.1.buffer.data.drop p.2.l3Offset) 14) (macAt (p.1.buffer.data.drop p.2.l3Offset) 8)).1 }
  carriage : Carriage P J

namespace Queues

variable {running : List SlotId} {frame : Frame} (hJ : Queues ticking P J)
include hJ

theorem unframed : Unframed J := by
  rintro rt rt' h ⟨g, out, freed, rfl⟩
  exact hJ.still h ⟨rfl, rfl, rfl, rfl, rfl, Nat.le_refl _⟩

theorem with_read (now : ℕ) : Queues ticking P fun rt => J rt ∧ rt.HasRead now where
  still h q := ⟨hJ.still h.1 q, q.hasRead h.2⟩
  change h hc hp q := ⟨hJ.change h.1 hc hp q, q.hasRead h.2⟩
  learn h hp hteaches h' := ⟨hJ.learn h.1 hp hteaches h'.1, h'.2⟩
  carriage := hJ.carriage.mono fun _ h => h.1

theorem nodes (submit : Submit) : Parks ticking P submit (Guarded P J running) where
  still h q := h.keep q.slots q.queue q.activeOutput (hJ.still h.holds q.toRequeued)
  change h hc hp q := h.keep q.slots q.queue q.activeOutput (hJ.change h.holds hc hp q.toRequeued)
  parked i h := hJ.carriage.parked i h.holds
  fresh := hJ.carriage.fresh
  inject hp := inject_guards hJ.unframed hp
  handOver rt frame h hframe := by
    rw [if_pos h.running.isSome]
    exact Safe.forM fun p hp => Safe.bind (emit_guards hJ.unframed (hframe p hp)) fun _ => Safe.pure fun _ h => h

theorem drop (owner : NodeId) (p : Packet) (reason : DropReason) (error : Bool) :
    Guards P J running (graphDrop owner p reason error) :=
  graphDrop_guards hJ.unframed owner p reason error hJ.carriage.dropped

theorem settle (owner : NodeId) (p : Packet) {v : Verdict}
    (hv : ∀ n b ctx, v = .enqueue n b ctx → P n (⟨p.1.id, b⟩, ctx)) : Guards P J running (settle owner p v) :=
  settle_guards hJ.unframed owner p v hJ.carriage.dropped hv

theorem own {n : NodeId} {p : Packet} {v : Verdict} (hn : n.own = true) (hp : P n p) (hv : KeepsMark p.2 v) (m : NodeId)
    (b : Buffer) (ctx : PacketCtx) (h : v = .enqueue m b ctx) : P m (⟨p.1.id, b⟩, ctx) := by
  refine hJ.carriage.own hn ?_ hp (hv.mark h)
  have hout := hv.outbound
  rw [h] at hout
  exact hout

theorem decideEach {owner : NodeId} {verdict : Runtime → Buffer → PacketCtx → Verdict}
    (hv : ∀ rt, J rt → ∀ p ∈ frame, ∀ n b ctx, verdict rt p.1.buffer p.2 = .enqueue n b ctx → P n (⟨p.1.id, b⟩, ctx)) :
    Guards P J running (decideEach owner verdict frame) :=
  decideEach_guards hJ.unframed hJ.carriage.dropped hv

theorem ipv4OutputNodeRun (hframe : ∀ p ∈ frame, P .ipv4Output p) : Guards P J running (ipv4OutputNodeRun frame) := by
  apply Safe.forM
  intro p hp
  apply Safe.get_bind
  intro rt h
  have hsettle : Guards P J running (PulsarNetstack.settle .ipv4Output p
      (ipv4Output rt.routing rt.nextIpId p.1.buffer p.2)) :=
    hJ.settle _ _ (hJ.own rfl (hframe p hp) ((ipv4Output_leads ..).keepsMark (by decide)))
  dsimp only
  split
  · apply Safe.bind (Q := fun _ => Guarded P J running)
    · exact Safe.set fun _ _ => (hJ.nodes (fun _ _ => pure ⟨⟩)).still h (.same rfl)
    · exact fun _ => hsettle
  · refine hsettle.conseq ?_ fun _ _ h => h
    rintro _ rfl
    exact h

theorem ipv4AclNodeRun (hframe : ∀ p ∈ frame, P .ipv4Acl p) : Guards P J running (ipv4AclNodeRun frame) := by
  apply Safe.forM
  intro p hp
  apply Safe.get_bind
  intro rt h
  have hend (accepted : Bool) : Guards P J running (if accepted then
      PulsarNetstack.settle .ipv4Acl p (ipv4Acl rt.routing rt.ipv4Forwarding p.1.buffer p.2)
      else graphDrop .ipv4Acl p .acl false) :=
    Safe.ite (fun _ => hJ.settle _ _ (hJ.carriage.ipv4Acl h.holds (hframe p hp))) fun _ => hJ.drop _ _ _ _
  dsimp only
  split
  · refine (hend true).conseq ?_ fun _ _ h => h
    rintro _ rfl
    exact h
  · apply Safe.bind (Q := fun _ => Guarded P J running)
    · exact Safe.set fun _ _ => (hJ.nodes (fun _ _ => pure ⟨⟩)).still h (.same rfl)
    · exact fun _ => hend _

theorem ipv4ForwardNodeRun (hframe : ∀ p ∈ frame, P .ipv4Forward p) :
    Guards P J running (ipv4ForwardNodeRun submit frame) := by
  rw [ipv4ForwardNodeRun_eq]
  apply Safe.forM
  intro p hp
  apply Safe.peek
  intro rt h
  have hsettle : Guards P J running (PulsarNetstack.settle .ipv4Forward p (ipv4Forward rt.routing p.1.buffer p.2).2) :=
    hJ.settle _ _ (hJ.carriage.ipv4Forward h.holds (hframe p hp))
  dsimp only
  generalize ipv4Forward rt.routing p.1.buffer p.2 = outcome at hsettle
  split
  · apply Safe.bind (hJ.nodes submit).clock
    exact fun now => Safe.bind ((hJ.nodes submit).icmpSendError _ _ _ _ _ _) fun _ => hsettle
  · exact hsettle

theorem arpInputNodeRun (hframe : ∀ p ∈ frame, P .arpInput p) : Guards P J running (arpInputNodeRun submit frame) := by
  apply Safe.forM
  intro p hp
  apply Safe.peek
  intro rt hrt
  split
  · exact hJ.drop _ _ _ _
  rename_i port hport
  split
  · exact hJ.drop _ _ _ _
  rename_i haccepted
  have hreply : KeepsMark p.2 (.enqueue .tx (arpReply port p.1.buffer p.2) { p.2 with egressPortId := port.portId }) := by
    refine ⟨rfl, fun h => ?_⟩
    injection h with _ _ hctx
    rw [← hctx]
  have hend : Guards P J running (if be16 (p.1.buffer.data.drop p.2.l3Offset) 6 = 2 then
      freeMbuf p.1 .consumed else PulsarNetstack.settle .arpInput p
        (.enqueue .tx (arpReply port p.1.buffer p.2) { p.2 with egressPortId := port.portId })) :=
    Safe.ite (fun _ => (hJ.nodes submit).freeMbuf _ _) fun _ => hJ.settle _ _ (hJ.own rfl (hframe p hp) hreply)
  dsimp only
  apply Safe.ite
  · rintro ⟨-, -, hdirect⟩
    apply Safe.bind ((hJ.nodes submit).neighbourUpdate fun _ h =>
      h.keep rfl rfl rfl (hJ.learn hrt.holds (hframe p hp) ⟨hport, haccepted, hdirect⟩ h.holds))
    intro result
    apply Safe.ite
    · refine fun _ => Safe.bind ((hJ.nodes submit).modify fun _ => ?_) fun _ => hend
      exact .same rfl
    · exact fun _ => hend
  · exact fun _ => hend

theorem udpInputNodeRun : Guards P J running (udpInputNodeRun submit frame) := by
  apply Safe.forM
  intro p _
  apply Safe.get_bind
  intro rt h
  split
  · refine (hJ.drop _ _ _ _).conseq ?_ fun _ _ h => h
    rintro _ rfl
    exact h
  dsimp only
  apply Safe.bind (Q := fun _ => Guarded P J running)
  · exact Safe.set fun _ _ => (hJ.nodes submit).still h (.same rfl)
  intro _
  split
  · exact (hJ.nodes submit).freeMbuf _ _
  · exact Safe.bind (hJ.nodes submit).clock fun _ =>
      Safe.bind ((hJ.nodes submit).icmpSendError _ _ _ _ _ _) fun _ => hJ.drop _ _ _ _
  · exact hJ.drop _ _ _ _
  · exact hJ.drop _ _ _ _

theorem tcpInputNodeRun : Guards P J running (tcpInputNodeRun submit frame) := by
  apply Safe.forM
  intro p _
  apply Safe.peek
  intro rt _
  apply Safe.ite
  · exact fun _ => hJ.drop _ _ _ _
  intro _
  apply Safe.ite
  · exact fun _ => hJ.drop _ _ _ _
  intro _
  apply Safe.bind (Q := fun _ => Guarded P J running)
  · exact Safe.ite (fun _ => (hJ.nodes submit).clock) fun _ => Safe.pure fun _ h => h
  intro now
  generalize tcpInputSegment rt.tcpEnv _ _ _ _ _ _ now = result
  obtain ⟨sockets, effects, reason⟩ := result
  apply Safe.bind (Q := fun _ => Guarded P J running)
  · exact (hJ.nodes submit).modify fun _ => .same rfl
  intro _
  apply Safe.bind
  · exact Safe.forM fun e _ => (hJ.nodes submit).tcpEffect e
  · exact fun _ => Safe.ite (fun _ => hJ.drop _ _ _ _) fun _ => (hJ.nodes submit).freeMbuf _ _

theorem ethOutputNodeRun (hframe : ∀ p ∈ frame, P .ethOutput p) : Guards P J running (ethOutputNodeRun submit frame) := by
  apply Safe.forM
  intro p hp
  apply Safe.peek
  intro rt h
  split
  · exact hJ.drop _ _ _ _
  rename_i port hport
  apply Safe.ite
  · exact fun _ => hJ.drop _ _ _ _
  intro _
  split
  · apply Safe.bind (hJ.nodes submit).timerCycles
    intro now
    apply Safe.bind ((hJ.nodes submit).neighbourQueue _ _ (hJ.carriage.waits (hframe p hp)))
    exact fun reason => Safe.ite (fun _ => hJ.drop _ _ _ _) fun _ => Safe.pure fun _ h => h
  rename_i mac hmac
  split
  · exact hJ.drop _ _ _ _
  rename_i b hb
  apply hJ.settle
  intro n b' ctx hverdict
  injection hverdict with hn hb' hctx
  subst hn hb' hctx
  exact hJ.carriage.ethOutput h.holds (hframe p hp) hport hmac hb

theorem txPrepare (frame : Frame) :
    Safe (Guarded P J running) (txPrepare frame) fun _ => Guarded P J running := by
  induction frame with
  | nil => exact Safe.pure fun _ h => h
  | cons p frame ih =>
    unfold PulsarNetstack.txPrepare
    apply Safe.peek
    intro rt _
    split
    · exact Safe.bind (hJ.drop _ _ _ _) fun _ => ih
    split
    · refine Safe.bind ((hJ.nodes (fun _ _ => pure ⟨⟩)).modify fun _ => ?_) fun _ => Safe.bind (hJ.drop _ _ _ _) fun _ => ih
      exact .same rfl
    · exact Safe.bind ih fun rest => Safe.pure fun _ h => h

theorem txPort (packets : List Packet) (port : PortState) :
    Guards P J running (txPort packets port) := by
  apply Safe.ite
  · exact fun _ => Safe.pure fun _ h => h
  intro _
  apply Safe.get_bind
  intro rt h
  apply Safe.bind (Q := fun _ => Guarded P J running)
  · exact Safe.set fun _ _ => (hJ.nodes (fun _ _ => pure ⟨⟩)).still h ⟨⟨rfl, rfl, rfl, rfl, rfl, Nat.le_succ _⟩, rfl, rfl, rfl⟩
  · intro _
    refine Safe.bind ((hJ.nodes (fun _ _ => pure ⟨⟩)).modify fun _ => ?_) fun _ => Safe.forM fun p _ => hJ.drop _ _ _ _
    exact .same rfl

theorem runNode (submit : Submit) (node : NodeId) (hframe : ∀ p ∈ frame, P node p) :
    Guards P J running (runNode submit node frame) := by
  cases node with
  | drop => exact dropNodeRun_guards hJ.unframed frame
  | ethInput => exact hJ.decideEach fun rt hrt p hp => hJ.carriage.ethInput hrt (hframe p hp)
  | ipv4Input => exact hJ.decideEach fun rt hrt p hp => hJ.carriage.ipv4Input hrt (hframe p hp)
  | icmpInput => exact hJ.decideEach fun rt _ p hp => hJ.own rfl (hframe p hp) ((icmpInput_leads ..).keepsMark (by decide))
  | ipv4Route => exact hJ.decideEach fun rt _ p hp => hJ.own rfl (hframe p hp) ((ipv4Route_leads ..).keepsMark (by decide))
  | udpOutput => exact hJ.decideEach fun rt _ p hp => hJ.own rfl (hframe p hp) ((udpOutput_leads ..).keepsMark (by decide))
  | arpOutput => exact hJ.decideEach fun rt _ p hp => hJ.own rfl (hframe p hp) ((arpOutput_leads ..).keepsMark (by decide))
  | arpInput => exact hJ.arpInputNodeRun hframe
  | udpInput => exact hJ.udpInputNodeRun
  | tcpInput => exact hJ.tcpInputNodeRun
  | ipv4Output => exact hJ.ipv4OutputNodeRun hframe
  | ethOutput => exact hJ.ethOutputNodeRun hframe
  | ipv4Forward => exact hJ.ipv4ForwardNodeRun hframe
  | ipv4Acl => exact hJ.ipv4AclNodeRun hframe
  | tx => exact Safe.bind (hJ.txPrepare frame) fun packets => Safe.peek fun _ _ => Safe.forM fun port _ => hJ.txPort packets port

theorem graph (n : NodeId) (hframe : ∀ p ∈ frame, P n p) :
    Safe (fun rt => IdleGraph rt ∧ J rt) (graphSubmit fuel n frame) fun _ rt => IdleGraph rt ∧ J rt :=
  graphSubmit_guarded hJ.unframed (fun submit node _ _ hframe => hJ.runNode submit node hframe) hframe

theorem visits {log : List Visit} {n : NodeId} (hidle : IdleGraph rt) (hrt : J rt) (hframe : ∀ p ∈ frame, P n p)
    (hrun : submitLog fuel n frame rt = some (log, rt')) :
    IdleGraph rt' ∧ J rt' ∧ ∀ visit ∈ log, ∀ p ∈ visit.2, P visit.1 p :=
  submitLog_guarded hJ.unframed (fun submit node _ _ hframe => hJ.runNode submit node hframe) hidle hrt hframe hrun

theorem resting : Parks ticking P (graphSubmit fuel) fun rt => IdleGraph rt ∧ J rt where
  still h q := ⟨⟨by rw [q.queue]; exact h.1.queue, by rw [q.slots]; exact h.1.slots, q.activeOutput.trans h.1.active⟩,
    hJ.still h.2 q.toRequeued⟩
  change h hc hp q := ⟨⟨by rw [q.queue]; exact h.1.queue, by rw [q.slots]; exact h.1.slots,
    q.activeOutput.trans h.1.active⟩, hJ.change h.2 hc hp q.toRequeued⟩
  parked i h := hJ.carriage.parked i h.2
  fresh := hJ.carriage.fresh
  inject {n p} hp := by
    apply Safe.get_bind
    intro rt h
    rw [h.1.active]
    have hframe : ∀ q ∈ [p], P n q := fun q hq => by rw [List.mem_singleton.mp hq]; exact hp
    apply Safe.bind (Q := fun _ rt => IdleGraph rt ∧ J rt)
    · apply (hJ.graph n hframe).conseq
      · rintro _ rfl
        exact h
      · exact fun _ _ h => h
    · exact fun _ => Safe.peek fun _ _ => Safe.pure fun _ h => h
  handOver rt frame h hframe := by
    rw [h.1.active]
    exact hJ.graph _ hframe

theorem adminActivate (group : AdminGroup) {next : NetConfig} (hrt : IdleGraph rt ∧ J rt)
    (hactivate : ∀ stats, J { rt with routing := { rt.routing with network := some next }, aclStats := stats }) :
    Safe (fun s => s = rt) (adminActivate (graphSubmit fuel) group (some next)) fun _ rt => IdleGraph rt ∧ J rt := by
  apply Safe.get_bind
  rintro rt rfl
  have hrefused (e : Errno) : Safe (fun s => s = rt) (pure (.error e) : GraphM (Except Errno Unit))
      fun _ rt => IdleGraph rt ∧ J rt := by
    apply Safe.pure
    rintro _ rfl
    exact hrt
  split
  · rename_i hnext
    obtain rfl := Option.some.inj hnext
    apply Safe.ite
    · exact fun _ => hrefused _
    intro _
    apply Safe.ite
    · exact fun _ => hrefused _
    intro _
    apply Safe.bind (Q := fun _ rt => IdleGraph rt ∧ J rt)
    · exact Safe.set fun _ _ => ⟨⟨hrt.1.queue, hrt.1.slots, hrt.1.active⟩, hactivate _⟩
    intro _
    apply Safe.ite
    · exact fun _ => Safe.bind hJ.resting.neighbourFini fun _ => Safe.pure fun _ h => h
    · exact fun _ => Safe.pure fun _ h => h
  · exact hrefused _

theorem adminWorkerOperation (d : PortDriver) (names : List String) (steps : ℕ) {r : AdminRequest}
    (hrt : IdleGraph rt ∧ J rt)
    (hrelink : ∀ port name dev, rt.namedDevice names r = some (port, name, dev) → r.group = .link →
      J (rt.relink dev (linkSet d port.link r.v).1))
    (hedit : ∀ rt t, J rt → Edited E rt.neighbours t → J { rt with neighbours := t })
    (hasked : ∀ port name dev, rt.namedDevice names r = some (port, name, dev) → r.group = .neigh →
      E (BitVec.ofNat 16 dev) r.v.ip (r.v.sportMin.setWidth 16 ++ r.v.sportMax)) :
    Safe (fun s => s = rt) (adminWorkerOperation (graphSubmit fuel) d names steps r)
      fun _ rt => IdleGraph rt ∧ J rt := by
  have hparks : Parks ticking P (graphSubmit fuel) fun rt => IdleGraph rt ∧ J rt := hJ.resting
  have hedited (rt : Runtime) (t : NeighbourTable) (h : IdleGraph rt ∧ J rt) (ht : Edited E rt.neighbours t) :
      IdleGraph { rt with neighbours := t } ∧ J { rt with neighbours := t } :=
    ⟨⟨h.1.queue, h.1.slots, h.1.active⟩, hedit rt t h.2 ht⟩
  apply Safe.get_bind
  rintro rt rfl
  have hsame : ∀ s, s = rt → IdleGraph s ∧ J s := by
    rintro _ rfl
    exact hrt
  have hrefused (e : Errno) : Safe (fun s => s = rt) (pure (.error e) : GraphM (Except Errno Unit))
      fun _ rt => IdleGraph rt ∧ J rt := Safe.pure hsame
  split
  · exact hrefused _
  rename_i port name dev hnamed
  dsimp only
  apply Safe.ite
  · intro hlink
    apply Safe.bind (Q := fun _ rt => IdleGraph rt ∧ J rt)
    · exact Safe.set fun _ _ => ⟨⟨hrt.1.queue, hrt.1.slots, hrt.1.active⟩, hrelink port name dev hnamed hlink.1⟩
    intro _
    split
    · exact Safe.pure fun _ h => h
    · exact Safe.pure fun _ h => h
    · exact Safe.bind (hparks.neighbourCancel _ _) fun _ => Safe.pure fun _ h => h
  intro _
  apply Safe.ite
  · exact fun _ => hrefused _
  intro hneigh
  have hset (replace : Bool) : Safe (fun s => s = rt) (if 65535 < r.v.sportMin then pure (.error .einval)
      else neighbourSetEntry (graphSubmit fuel) (BitVec.ofNat 16 dev) r.v.ip (r.v.sportMin.setWidth 16 ++ r.v.sportMax)
        replace) fun _ rt => IdleGraph rt ∧ J rt := by
    refine Safe.ite (fun _ => hrefused _) fun _ => (hparks.neighbourSetEntry hedited ?_ _).conseq hsame fun _ _ h => h
    exact hasked port name dev hnamed (not_not.mp hneigh)
  split
  · exact (hparks.neighbourFlushFrom hedited _ _ _).conseq hsame fun _ _ h => h
  · exact (hparks.neighbourDeleteEntry hedited _ _).conseq hsame fun _ _ h => h
  · exact hset _
  · exact hset _
  · exact hrefused _

theorem appStep {bursts : ℕ → List Buffer} (timerNext : ℕ) (htick : ∀ rt i now, ticking rt i now)
    (hreceived : ∀ portId, ∀ b ∈ bursts portId, ∀ id, P .ethInput (⟨id, b⟩, { ingressPortId := portId })) :
    Safe (fun rt => IdleGraph rt ∧ J rt) (appStep (graphSubmit fuel) bursts timerNext) fun _ rt => IdleGraph rt ∧ J rt := by
  have hrest : Parks ticking P (graphSubmit fuel) fun rt => IdleGraph rt ∧ J rt := hJ.resting
  apply Safe.peek
  intro rt _
  apply Safe.bind
  · exact hrest.receiveBursts (fun n _ hframe => hJ.graph n hframe) _ hreceived
  intro _
  apply Safe.bind hrest.timerCycles
  intro now
  -- From here on the time that was read is part of the assertion.
  have hread := hJ.with_read now
  have hparks : Parks ticking P (graphSubmit fuel) fun rt => IdleGraph rt ∧ J rt ∧ rt.HasRead now := hread.resting
  have htimers := Safe.bind (hparks.neighbourTick (fun rt i => htick rt i now) fun _ ha => ha.2.2)
    fun _ => hparks.tcpTimerProgress timerNext now
  exact htimers.conseq (fun _ ha => ⟨ha.1.1, ha.1.2, ha.2⟩) fun _ _ ha => ⟨ha.1, ha.2.1⟩

end Queues

inductive OtherStep (rt rt' : Runtime) : Prop
  | call {fuel : ℕ} {call : SocketCall} {reply : CallReply} (run : runCall (graphSubmit fuel) call rt = some (reply, rt'))
  | dispatch {fuel : ℕ} {request response : DaemonItem}
      (run : daemonDispatch (graphSubmit fuel) request rt = some (response, rt'))
  | activate {fuel : ℕ} {view : AdminView} {request : AdminRequest} {next : NetConfig} {result : Except Errno Unit}
      (links : view.links.length = rt.routing.ports.length) (mutated : adminMutate view request = .ok next)
      (run : adminActivate (graphSubmit fuel) request.group (some next) rt = some (result, rt'))
  | operate {fuel steps : ℕ} {driver : PortDriver} {names : List String} {request : AdminRequest} {result : Except Errno Unit}
      (run : adminWorkerOperation (graphSubmit fuel) driver names steps request rt = some (result, rt'))

structure SteadyQueues (ticking : Ticking) (J : Runtime → Prop) : Prop extends Queues ticking (fun _ _ => True) J where
  activate {rt : Runtime} (next : NetConfig) (stats : AclCounters) :
    J rt → J { rt with routing := { rt.routing with network := some next }, aclStats := stats }
  relink {rt : Runtime} (dev : ℕ) (l : LinkState) : J rt → J (rt.relink dev l)
  edit {rt : Runtime} (t : NeighbourTable) : J rt → J { rt with neighbours := t }

namespace SteadyQueues

variable (hJ : SteadyQueues ticking J)
include hJ

theorem anyGraph (n : NodeId) (frame : Frame) (hframe : ∀ p ∈ frame, (fun _ _ => True : NodeId → Packet → Prop) n p) :
    Safe (fun rt => IdleGraph rt ∧ J rt) (graphSubmit fuel n frame) fun _ rt => IdleGraph rt ∧ J rt :=
  hJ.graph n hframe

theorem otherStep (h : OtherStep rt rt') (hrt : IdleGraph rt ∧ J rt) : IdleGraph rt' ∧ J rt' := by
  cases h with
  | call run => exact (hJ.resting.runCall hJ.anyGraph _).post _ _ _ hrt run
  | dispatch run => exact (hJ.resting.daemonDispatch hJ.anyGraph _).post _ _ _ hrt run
  | activate _ _ run => exact (hJ.adminActivate _ hrt fun _ => hJ.activate _ _ hrt.2).post _ _ _ rfl run
  | operate run =>
    refine (hJ.adminWorkerOperation (E := fun _ _ _ => True) _ _ _ hrt (fun _ _ _ _ _ => hJ.relink _ _ hrt.2) ?_
      fun _ _ _ _ _ => trivial).post _ _ _ rfl run
    exact fun _ t h _ => hJ.edit t h

end SteadyQueues

namespace SteadyQueues

variable (hJ : SteadyQueues (fun _ _ _ => True) J)
include hJ

theorem progress (bursts : ℕ → List Buffer) (timerNext : ℕ) : Safe (fun rt => IdleGraph rt ∧ J rt)
    (PulsarNetstack.appStep (graphSubmit fuel) bursts timerNext) fun _ rt => IdleGraph rt ∧ J rt :=
  hJ.appStep _ (fun _ _ _ => trivial) fun _ _ _ _ => trivial

theorem anyStep (h : RuntimeStep rt rt') (hrt : IdleGraph rt ∧ J rt) : IdleGraph rt' ∧ J rt' := by
  cases h with
  | progress _ run => exact (hJ.progress _ _).post _ _ _ hrt run
  | call run => exact hJ.otherStep (.call run) hrt
  | dispatch run => exact hJ.otherStep (.dispatch run) hrt
  | activate links mutated run => exact hJ.otherStep (.activate links mutated run) hrt
  | operate run => exact hJ.otherStep (.operate run) hrt

theorem reachable (hboot : ∀ rt, Booted rt → J rt) (h : RuntimeReachable rt) : J rt := by
  have hall : IdleGraph rt ∧ J rt := by
    induction h with
    | boot hbooted => exact ⟨hbooted.idle, hboot _ hbooted⟩
    | step _ hstep ih => exact hJ.anyStep hstep ih
  exact hall.2

end SteadyQueues

end PulsarNetstack
