import PulsarNetstack.AdminState
import PulsarNetstack.NodeRuns

namespace PulsarNetstack

inductive SocketCall
  | socket (domain type protocol : ℤ)
  | bind (fd : ℤ) (addr : Option SockAddr)
  | connect (fd : ℤ) (addr : Option SockAddr)
  | listen (fd backlog : ℤ)
  | accept (fd : ℤ)
  | send (fd : ℤ) (data : List Byte)
  | sendto (fd : ℤ) (data : List Byte) (dst : Option SockAddr)
  | recv (fd : ℤ) (length : ℕ)
  | recvfrom (fd : ℤ) (length : ℕ)
  | close (fd : ℤ)
  deriving DecidableEq, Repr

structure CallReply where
  result : Except Errno ℕ
  addr : SockAddr := {}
  data : List Byte := []

def CallReply.of {α : Type} (r : Except Errno α) (reply : α → CallReply) : CallReply :=
  match r with
  | .error e => { result := .error e }
  | .ok a => reply a

def CallReply.done {α : Type} (r : Except Errno α) : CallReply := .of r fun _ => { result := .ok 0 }

def tableCall (submit : Submit) (call : TcpEnv → SocketTable → Word → ℕ → SocketTable × List TcpEffect × CallReply) :
    GraphM CallReply := do
  let now ← timerCycles
  let rt ← get
  let (sockets, effects, reply) := call rt.tcpEnv rt.sockets (rt.world.random rt.calls) now
  set { rt with sockets := sockets }
  effects.forM (tcpEffect submit)
  return reply

def sendFailure (reason : DropReason) (error : Errno) : GraphM CallReply := do
  modifyGraph fun g => (g.countDrop reason 1).updateStats .udpOutput fun s =>
    { s with drops := s.drops + 1, errors := s.errors + 1 }
  return { result := .error error }

def udpSend (submit : Submit) (s : SocketEntry) (payload : List Byte) (dst : SockAddr) : GraphM CallReply := do
  let rt ← get
  if psDgramMaxPayload < payload.length then sendFailure .mtu .emsgsize
  else
    let (reason, route) := ipv4RouteQuery rt.routing dst.ip s.localAddr.ip netIifNone {}
    if reason = .routeProhibit ∨ reason = .routeBlackhole ∨ reason = .routeUnreachable then
      sendFailure reason (ipv4RouteErrno reason)
    else if reason = .none ∧ route.mtu < payload.length + ipv4HdrLen + udpHdrLen then sendFailure .mtu .emsgsize
    else
      match ← allocMbuf with
      | none => sendFailure .mbufAllocationFailed .enomem
      | some m =>
        match m.buffer.append payload with
        | none =>
          freeMbuf m .consumed
          sendFailure .noTailroom .enobufs
        | some buffer =>
          let ctx : PacketCtx := { srcPort := s.localAddr.port, srcIp := s.localAddr.ip, dstPort := dst.port, dstIp := dst.ip,
                                   ipProtocol := protoUdp, reportAcceptance := true }
          submit .ipv4Route [(⟨m.id, buffer⟩, ctx)]
          let rt' ← get
          return { result := if rt'.acceptedSends ≠ rt.acceptedSends then .ok payload.length else .error .eio }

def coreSendto (submit : Submit) (fd : ℤ) (data : List Byte) (dst : Option SockAddr) : GraphM CallReply := do
  let reply ← tableCall submit fun env t _ _ =>
    let (t, r) := coreSendtoBind env t fd true data.length dst
    (t, [], .of r fun slot => { result := .ok slot })
  match reply.result with
  | .error _ => return reply
  | .ok slot =>
    let rt ← get
    udpSend submit (rt.sockets.entries.getD slot {}) data (dst.getD {})

def coreSendAny (submit : Submit) (fd : ℤ) (data : List Byte) : GraphM CallReply := do
  let rt ← get
  match getSocket rt.sockets fd with
  | none => return { result := .error .ebadf }
  | some (_, s) =>
    if s.type = .stream then
      tableCall submit fun env t _ now =>
        let (t, effects, r) := coreSend env t fd data now
        (t, effects, .of r fun n => { result := .ok n })
    else if s.remoteAddr.port = 0 then return { result := .error .enotconn }
    else coreSendto submit fd data (some s.remoteAddr)

def runCall (submit : Submit) : SocketCall → GraphM CallReply
  | .socket domain type protocol => tableCall submit fun env t _ _ =>
    let (t, r) := coreSocket env t domain type protocol
    (t, [], .of r fun fd => { result := .ok fd })
  | .bind fd addr => tableCall submit fun env t _ _ =>
    let (t, r) := coreBind env t fd addr
    (t, [], .done r)
  | .connect fd addr => tableCall submit fun env t seed now =>
    let (t, effects, r) := coreConnect env t fd addr seed now
    (t, effects, .done r)
  | .listen fd backlog => tableCall submit fun _ t _ _ =>
    let (t, r) := coreListen t fd backlog
    (t, [], .done r)
  | .accept fd => tableCall submit fun _ t _ _ =>
    let (t, r) := coreAccept t fd
    (t, [], .of r fun child => { result := .ok child.1, addr := child.2 })
  | .send fd data => coreSendAny submit fd data
  | .sendto fd data dst => coreSendto submit fd data dst
  | .recv fd length => tableCall submit fun _ t _ _ =>
    let (t, effects, r) := coreRecv t fd length
    (t, effects, .of r fun data => { result := .ok data.length, data := data })
  | .recvfrom fd length => tableCall submit fun _ t _ _ =>
    let (t, r) := coreRecvfrom t fd true length
    (t, [], .of r fun datagram => { result := .ok datagram.payload.length, addr := datagram.source, data := datagram.payload })
  | .close fd => tableCall submit fun env t _ now =>
    let (t, effects, r) := coreClose env t fd now
    (t, effects, .done r)

def arpMaxRequests : ℕ := 3
def arpRetrySeconds : ℕ := 1

def discardPending (submit : Submit) (i : Fin neighbourPendingMax) (reason : DropReason) (now : ℕ) : GraphM PUnit := do
  let rt ← get
  let detached := (rt.pendingNeighbours i).packets
  let count := detached.length
  -- The entry is cleared first, since an error may use it to resolve its own next hop.
  set { rt with
    pendingNeighbours := Function.update rt.pendingNeighbours i {}
    pendingLog := rt.noting i (if reason = DropReason.neighbourResolutionTimeout then [.timedOut now] else [])
    graph := ((rt.graph.countDrop reason count).updateStats .drop fun s =>
      { s with packets := s.packets + count, drops := s.drops + count }).updateStats .ethOutput
        fun s => { s with drops := s.drops + count } }
  detached.forM fun p => do
    if reason = .neighbourResolutionTimeout ∧ p.2.transit then icmpSendError submit p.1.buffer p.2 3 1 0 now
    modifyGraph fun g => g.updateStats .drop fun s => { s with bytes := s.bytes + p.1.buffer.pktLen }
    freeMbuf p.1 (.discarded reason)

def neighbourTickEntry (submit : Submit) (now : ℕ) (i : Fin neighbourPendingMax) : GraphM PUnit := do
  let rt ← get
  let entry := rt.pendingNeighbours i
  if entry.packets ≠ [] then
    match (netifById rt.routing entry.netifId.toNat).filter PortState.up with
    | none => discardPending submit i .invalidEgress now
    | some port =>
      match neighbourLookup rt.neighbours entry.netifId entry.ip with
      | .ok _ => releasePending submit i
      | .error _ =>
        let elapsed := (now + 18446744073709551616 - entry.lastRequest) % 18446744073709551616
        if rt.world.hz * arpRetrySeconds ≤ elapsed then
          if entry.requests = arpMaxRequests then discardPending submit i .neighbourResolutionTimeout now
          else
            let asked := { entry with requests := entry.requests + 1, lastRequest := now }
            set { rt with
              pendingNeighbours := Function.update rt.pendingNeighbours i asked
              pendingLog := rt.noting i [.asked now] }
            arpRequest submit port entry.ip

def neighbourTick (submit : Submit) (now : ℕ) : GraphM PUnit :=
  (List.finRange neighbourPendingMax).forM (neighbourTickEntry submit now)

def neighbourFini (submit : Submit) : GraphM PUnit :=
  (List.finRange neighbourPendingMax).forM fun i => discardPending submit i .neighbourCancelled 0

def neighbourCancel (submit : Submit) (dev : Word16) (ip : Word) : GraphM PUnit :=
  (List.finRange neighbourPendingMax).forM fun i => do
    let rt ← get
    let entry := rt.pendingNeighbours i
    if entry.packets ≠ [] ∧ entry.netifId = dev ∧ (ip = 0 ∨ entry.ip = ip) then discardPending submit i .neighbourCancelled 0

def runTcpTick (submit : Submit) (now : ℕ) : GraphM PUnit := do
  let rt ← get
  let (sockets, effects) := tcpTick rt.tcpEnv rt.sockets now
  set { rt with sockets := sockets }
  effects.forM (tcpEffect submit)

/-- `timerNext` is the field `tcp_timer_next`, which nothing else reads; the result is its new value. -/
def tcpTimerProgress (submit : Submit) (timerNext now : ℕ) : GraphM ℕ := do
  if now < timerNext then return timerNext
  else
    let rt ← get
    runTcpTick submit now
    return add64 now (max 1 (rt.world.hz / 1000))

def receiveBurst (submit : Submit) (portId : ℕ) (buffers : List Buffer) : GraphM PUnit := do
  let rt ← get
  let frame : Frame := buffers.zipIdx.map fun b => (⟨rt.nextMbuf + b.2, b.1⟩, { ingressPortId := portId })
  set { rt with nextMbuf := rt.nextMbuf + buffers.length }
  if frame ≠ [] then submit .ethInput frame

def appStep (submit : Submit) (bursts : ℕ → List Buffer) (timerNext : ℕ) : GraphM ℕ := do
  let rt ← get
  rt.routing.ports.forM fun port => do
    if port.configured ∧ port.up then receiveBurst submit port.portId ((bursts port.portId).take graphFrameSize)
  let now ← timerCycles
  neighbourTick submit now
  tcpTimerProgress submit timerNext now

def netAclCountersMigrate (old next : NetConfig) (s : AclCounters) : AclCounters :=
  { s with rules := fun i =>
      match next.acls[i]? with
      | none => (0, 0)
      | some a => old.acls.zipIdx.foldl (fun counter b => if a = b.1 then s.rules b.2 else counter) (0, 0) }

def removedBinding (t : SocketTable) (next : NetConfig) : Bool :=
  t.entries.any fun s => s.allocated && s.localAddr.ip != 0 && next.addresses.all fun a => a.ip != s.localAddr.ip

/-- The job `ADMIN_ACTIVATE` of `admin_progress`, without its monitor events; `none` is a null pointer. -/
def adminActivate (submit : Submit) (group : AdminGroup) (next : Option NetConfig) : GraphM (Except Errno Unit) := do
  let rt ← get
  match rt.routing.network, next with
  | some old, some next =>
    if next.generation ≠ add64 old.generation 1 then return .error .estale
    else if removedBinding rt.sockets next then return .error .ebusy
    else
      set { rt with
        routing := { rt.routing with network := some next }
        aclStats := netAclCountersMigrate old next rt.aclStats }
      if group = .addr ∨ group = .route ∨ group = .rule then neighbourFini submit
      return .ok ()
  | _, _ => return .error .estale

def neighbourSetEntry (submit : Submit) (dev : Word16) (ip : Word) (mac : Mac) (replace : Bool) :
    GraphM (Except Errno Unit) := do
  let rt ← get
  if (netifById rt.routing dev.toNat).isNone ∨ !ipv4DestinationValid rt.routing ip ∨ !validAssignedEtherAddr mac then
    return .error .einval
  else
    match findSlot rt.neighbours dev ip with
    | none => return .error .enospc
    | some j =>
      if (rt.neighbours j).inUse && !replace then return .error .eexist
      else
        let entry : NeighbourEntry := { ip := ip, netifId := dev, mac := mac, inUse := true, permanent := true }
        set { rt with neighbours := Function.update rt.neighbours j entry }
        neighbourUpdate submit dev.toNat ip mac

def neighbourDeleteEntry (submit : Submit) (dev : Word16) (ip : Word) : GraphM (Except Errno Unit) := do
  let rt ← get
  let (neighbours, result) := neighbourDelete rt.neighbours dev ip
  set { rt with neighbours := neighbours }
  if result.isOk then neighbourCancel submit dev ip
  return result

def neighbourFlushFrom (submit : Submit) (dev : Word16) : ℕ → ℕ → GraphM (Except Errno Unit)
  | 0, _ => fun _ => none
  | fuel + 1, i => do
    let rt ← get
    if h : i < neighbourCapacity then
      let entry := rt.neighbours ⟨i, h⟩
      if entry.inUse && entry.netifId == dev then
        let result ← neighbourDeleteEntry submit dev entry.ip
        if result.isOk then neighbourFlushFrom submit dev fuel i else return result
      else neighbourFlushFrom submit dev fuel (i + 1)
    else
      neighbourCancel submit dev 0
      return .ok ()

structure PortDriver where
  mtuRange : Except Errno (ℕ × ℕ) := .ok (0, 0)
  setMtu : Except Errno Unit := .ok ()
  stop : Except Errno Unit := .ok ()
  setMtuStopped : Except Errno Unit := .ok ()
  start : Except Errno Unit := .ok ()
  startAgain : Except Errno Unit := .ok ()
  getMtu : Except Errno ℕ

structure LinkState where
  mtu : ℕ
  started : Bool
  adminDown : Bool
  deriving DecidableEq, Repr

def mtuApply (d : PortDriver) (p : LinkState) : LinkState × Except Errno Unit :=
  match d.setMtu, p.started with
  | .error .ebusy, true =>
    match d.stop with
    | .error e => (p, .error e)
    | .ok _ =>
      match d.setMtuStopped.bind fun _ => d.start with
      | .ok _ => (p, .ok ())
      | .error e =>
        let up := d.startAgain.isOk
        ({ p with started := up, adminDown := p.adminDown || !up }, .error e)
  | rc, _ => (p, rc)

def mtuSet (d : PortDriver) (p : LinkState) (mtu : Word) : LinkState × Except Errno Unit :=
  if mtu < 68 ∨ 1500 < mtu then (p, .error .einval)
  else
    match d.mtuRange with
    | .error e => (p, .error e)
    | .ok (minMtu, maxMtu) =>
      if minMtu ≠ 0 ∧ mtu.toNat < minMtu ∨ maxMtu ≠ 0 ∧ maxMtu < mtu.toNat then (p, .error .einval)
      else
        match mtuApply d p with
        | (p, .error e) => (p, .error e)
        | (p, .ok _) =>
          match d.getMtu with
          | .error e => (p, .error e)
          | .ok actual => if actual ≠ mtu.toNat then (p, .error .eio) else ({ p with mtu := actual }, .ok ())

def linkSet (d : PortDriver) (p : LinkState) (v : AdminFields) : LinkState × Except Errno Bool :=
  if v.ports = 1 then
    if 1 < v.action then (p, .error .einval)
    else if v.action ≠ 0 then
      if p.started && !p.adminDown then (p, .ok false)
      else
        match d.start with
        | .error e => (p, .error e)
        | .ok _ => ({ p with started := true, adminDown := false }, .ok true)
    else if p.adminDown then (p, .ok false)
    else
      match d.stop with
      | .error e => (p, .error e)
      | .ok _ => ({ p with started := false, adminDown := true }, .ok true)
  else if v.ports = 2 then
    let (p, rc) := mtuSet d p v.ip
    (p, rc.map fun _ => true)
  else (p, .error .einval)

def PortState.link (p : PortState) : LinkState := ⟨p.mtu, p.started, p.adminDown⟩

def PortState.relink (p : PortState) (l : LinkState) : PortState :=
  { p with mtu := l.mtu, started := l.started, adminDown := l.adminDown }

theorem DistinctPorts.relink {ports : List PortState} (h : DistinctPorts ports) (dev : ℕ) (l : LinkState) :
    DistinctPorts (ports.modify dev fun p => p.relink l) := by
  have hmap : ports.map (fun p => (p.configured, p.portId)) =
      (ports.modify dev fun p => p.relink l).map fun p => (p.configured, p.portId) := by
    apply List.ext_getElem?
    intro i
    rw [List.getElem?_map, List.getElem?_map, List.getElem?_modify, Option.map_eq_map, Option.map_map]
    congr 1
    funext p
    dsimp only [Function.comp]
    split <;> rfl
  have hpairs : (ports.map fun p => (p.configured, p.portId)).Pairwise fun p q => p.1 = true → q.1 = true → p.2 ≠ q.2 :=
    List.pairwise_map.mpr h
  rw [hmap] at hpairs
  exact List.pairwise_map.mp hpairs

def Runtime.relink (rt : Runtime) (dev : ℕ) (l : LinkState) : Runtime :=
  { rt with
    routing := { rt.routing with ports := rt.routing.ports.modify dev fun p => p.relink l }
    distinct := rt.distinct.relink dev l }

def adminWorkerOperation (submit : Submit) (d : PortDriver) (names : List String) (fuel : ℕ) (r : AdminRequest) :
    GraphM (Except Errno Unit) := do
  let rt ← get
  match (rt.routing.ports.zip names.zipIdx).reverse.find? fun p => p.2.1 == r.dev with
  | none => return .error .enodev
  | some (port, _, dev) =>
    let netif : Word16 := BitVec.ofNat 16 dev
    if r.group = .link ∧ r.verb = .set then
      let (link, result) := linkSet d port.link r.v
      set (rt.relink dev link)
      match result with
      | .error e => return .error e
      | .ok false => return .ok ()
      | .ok true =>
        neighbourCancel submit netif 0
        return .ok ()
    else if r.group ≠ .neigh then return .error .eopnotsupp
    else
      match r.verb with
      | .flush => neighbourFlushFrom submit netif fuel 0
      | .del => neighbourDeleteEntry submit netif r.v.ip
      | .add | .replace =>
        if 65535 < r.v.sportMin then return .error .einval
        else
          let mac : Mac := r.v.sportMin.setWidth 16 ++ r.v.sportMax
          neighbourSetEntry submit netif r.v.ip mac (r.verb == .replace)
      | _ => return .error .eopnotsupp

end PulsarNetstack
