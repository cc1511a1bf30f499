import PulsarNetstack.SocketTable

namespace PulsarNetstack

def getSocket (t : SocketTable) (fd : ℤ) : Option (ℕ × SocketEntry) :=
  (socketLookup t fd).filter fun p => p.2.isOpen

def coreSocket (env : TcpEnv) (t : SocketTable) (domain type protocol : ℤ) : SocketTable × Except Errno ℕ :=
  if t.entries.length = 0 then (t, .error .enetdown)
  else if env.busy then (t, .error .ebusy)
  else if domain ≠ 2 then (t, .error .eafnosupport)
  else if type ≠ 2 ∧ type ≠ 1 then (t, .error .eprototype)
  else if protocol ≠ 0 ∧ protocol ≠ (if type = 2 then 17 else 6) then (t, .error .eprotonosupport)
  else
    match socketAllocate t (if type = 2 then .dgram else .stream) with
    | none => (t, .error .emfile)
    | some (t, _, s) => (t, .ok s.fd)

def coreBind (env : TcpEnv) (t : SocketTable) (fd : ℤ) (addr : Option SockAddr) : SocketTable × Except Errno Unit :=
  match getSocket t fd with
  | none => (t, .error .ebadf)
  | some (slot, s) =>
    match addr with
    | none => (t, .error .einval)
    | some addr =>
      let (t, r) := socketBind env t slot s addr
      (t, r.map fun _ => ())

def coreClose (env : TcpEnv) (t : SocketTable) (fd : ℤ) (now : ℕ) : SocketTable × List TcpEffect × Except Errno Unit :=
  match getSocket t fd with
  | none => (t, [], .error .ebadf)
  | some (slot, s) =>
    if s.type = .stream then
      let (t, effects) := tcpClose env t slot s now
      (t, effects, .ok ())
    else (t.set slot {}, [], .ok ())

def coreSendtoBind (env : TcpEnv) (t : SocketTable) (fd : ℤ) (hasBuffer : Bool) (length : ℕ)
    (dst : Option SockAddr) : SocketTable × Except Errno ℕ :=
  match getSocket t fd with
  | none => (t, .error .ebadf)
  | some (slot, s) =>
    if s.type ≠ .dgram then (t, .error .eopnotsupp)
    else if dst.all (fun d => d.port == 0) || (!hasBuffer && length != 0) then (t, .error .einval)
    else if env.busy then (t, .error .ebusy)
    else
      let (t, r) := ensureBound env t slot s
      (t, r.map fun _ => slot)

def udpRecv (ep : UdpEndpoint) (length : ℕ) : UdpEndpoint × Except Errno UdpDatagram :=
  if ep.count = 0 then (ep, .error .eagain)
  else
    let datagram := ep.queue.getD ep.head {}
    if length < datagram.payload.length then (ep, .error .emsgsize)
    else ({ ep with head := (ep.head + 1) % psDgramQueueSize, count := ep.count - 1 }, .ok datagram)

def udpDeliver (t : SocketTable) (localIp : Word) (port : Word16) (source : SockAddr)
    (payload : List Byte) : SocketTable × Except Errno Unit :=
  match socketBound t .dgram localIp port with
  | none => (t, .error .enoent)
  | some slot =>
    let s := t.entries.getD slot {}
    if s.remoteAddr.port ≠ 0 ∧ s.remoteAddr ≠ source then (t, .error .enoent)
    else if psDgramMaxPayload < payload.length then (t, .error .emsgsize)
    else if s.udp.count = psDgramQueueSize then (t, .error .enobufs)
    else
      let index := (s.udp.head + s.udp.count) % psDgramQueueSize
      (t.set slot { s with udp := { s.udp with
        queue := s.udp.queue.set index ⟨source, payload⟩, count := s.udp.count + 1 } }, .ok ())

def coreRecvfrom (t : SocketTable) (fd : ℤ) (hasBuffer : Bool) (length : ℕ) :
    SocketTable × Except Errno UdpDatagram :=
  match getSocket t fd with
  | none => (t, .error .ebadf)
  | some (slot, s) =>
    if s.type ≠ .dgram then (t, .error .eopnotsupp)
    else if !hasBuffer && length != 0 then (t, .error .einval)
    else
      let (udp, r) := udpRecv s.udp length
      (t.set slot { s with udp := udp }, r)

def coreConnect (env : TcpEnv) (t : SocketTable) (fd : ℤ) (addr : Option SockAddr) (seed : Word)
    (now : ℕ) : SocketTable × List TcpEffect × Except Errno Unit :=
  match getSocket t fd with
  | none => (t, [], .error .ebadf)
  | some (slot, s) =>
    match addr with
    | none => (t, [], .error .einval)
    | some addr =>
      if addr.port = 0 ∨ !env.destinationValid addr.ip then (t, [], .error .einval)
      else if s.type = .stream then tcpConnect env t slot s addr seed now
      else
        match ensureBound env t slot s with
        | (t, .error e) => (t, [], .error e)
        | (t, .ok s) => (t.set slot { s with remoteAddr := addr }, [], .ok ())

def coreListen (t : SocketTable) (fd : ℤ) (backlog : ℤ) : SocketTable × Except Errno Unit :=
  match getSocket t fd with
  | none => (t, .error .ebadf)
  | some (slot, s) =>
    if s.type ≠ .stream then (t, .error .eopnotsupp)
    else
      let (s, r) := tcpListen s (min backlog (t.entries.length - 1))
      (t.set slot s, r)

def coreAccept (t : SocketTable) (fd : ℤ) : SocketTable × Except Errno (ℕ × SockAddr) :=
  match getSocket t fd with
  | none => (t, .error .ebadf)
  | some (_, s) =>
    if s.type ≠ .stream then (t, .error .eopnotsupp)
    else tcpAccept t s

def coreSend (env : TcpEnv) (t : SocketTable) (fd : ℤ) (data : List Byte) (now : ℕ) :
    SocketTable × List TcpEffect × Except Errno ℕ :=
  match getSocket t fd with
  | none => (t, [], .error .ebadf)
  | some (slot, s) =>
    if s.type = .stream then
      let (s, effects, r) := tcpSend env s data now
      (t.set slot s, effects, r)
    else if s.remoteAddr.port = 0 then (t, [], .error .enotconn)
    else
      let (t, r) := coreSendtoBind env t fd true data.length (some s.remoteAddr)
      (t, [], r)

def coreRecv (t : SocketTable) (fd : ℤ) (length : ℕ) :
    SocketTable × List TcpEffect × Except Errno (List Byte) :=
  match getSocket t fd with
  | none => (t, [], .error .ebadf)
  | some (slot, s) =>
    if s.type = .stream then
      let (s, effects, r) := tcpRecv s length
      (t.set slot s, effects, r)
    else
      let (t, r) := coreRecvfrom t fd true length
      (t, [], r.map UdpDatagram.payload)

def assignOwner (t : SocketTable) (fd : ℤ) (owner : ℕ) : SocketTable :=
  match socketLookup t fd with
  | none => t
  | some (slot, s) => t.set slot { s with owner := owner }

inductive SocketEvent
  | socket (domain type protocol : ℤ)
  | assignOwner (fd : ℤ) (owner : ℕ)
  | bind (fd : ℤ) (addr : Option SockAddr)
  | connect (fd : ℤ) (addr : Option SockAddr) (seed : Word) (now : ℕ)
  | listen (fd : ℤ) (backlog : ℤ)
  | accept (fd : ℤ)
  | send (fd : ℤ) (data : List Byte) (now : ℕ)
  | recv (fd : ℤ) (length : ℕ)
  | sendto (fd : ℤ) (hasBuffer : Bool) (length : ℕ) (dst : Option SockAddr)
  | recvfrom (fd : ℤ) (hasBuffer : Bool) (length : ℕ)
  | close (fd : ℤ) (now : ℕ)
  | segment (srcIp dstIp : Word) (hdr : TcpHeader) (payload : List Byte) (seed : Word) (now : ℕ)
  | datagram (localIp : Word) (port : Word16) (source : SockAddr) (payload : List Byte)
  | tick (now : ℕ)

def socketStep (env : TcpEnv) (t : SocketTable) : SocketEvent → SocketTable × List TcpEffect
  | .socket domain type protocol => ((coreSocket env t domain type protocol).1, [])
  | .assignOwner fd owner => (assignOwner t fd owner, [])
  | .bind fd addr => ((coreBind env t fd addr).1, [])
  | .connect fd addr seed now => let r := coreConnect env t fd addr seed now; (r.1, r.2.1)
  | .listen fd backlog => ((coreListen t fd backlog).1, [])
  | .accept fd => ((coreAccept t fd).1, [])
  | .send fd data now => let r := coreSend env t fd data now; (r.1, r.2.1)
  | .recv fd length => let r := coreRecv t fd length; (r.1, r.2.1)
  | .sendto fd hasBuffer length dst => ((coreSendtoBind env t fd hasBuffer length dst).1, [])
  | .recvfrom fd hasBuffer length => ((coreRecvfrom t fd hasBuffer length).1, [])
  | .close fd now => let r := coreClose env t fd now; (r.1, r.2.1)
  | .segment srcIp dstIp hdr payload seed now =>
    let r := tcpInputSegment env t srcIp dstIp hdr payload seed now; (r.1, r.2.1)
  | .datagram localIp port source payload => ((udpDeliver t localIp port source payload).1, [])
  | .tick now => tcpTick env t now

/-- The tables reached from `socket_subsystem_init` by steps that `admissible` allows. The environment may differ from
step to step. -/
inductive Reachable (admissible : TcpEnv → SocketTable → SocketEvent → Prop) : SocketTable → Prop
  | init (capacity : ℕ) (h : capacity ≤ psSocketMax) : Reachable admissible (socketSubsystemInit capacity)
  | step {t : SocketTable} (env : TcpEnv) (event : SocketEvent) (ht : Reachable admissible t)
      (he : admissible env t event) : Reachable admissible (socketStep env t event).1

def socketRun (env : TcpEnv) (t : SocketTable) (events : List SocketEvent) : SocketTable :=
  events.foldl (fun t event => (socketStep env t event).1) t

def AdmissibleRun (admissible : TcpEnv → SocketTable → SocketEvent → Prop) (env : TcpEnv) :
    SocketTable → List SocketEvent → Prop
  | _, [] => True
  | t, event :: events => admissible env t event ∧ AdmissibleRun admissible env (socketStep env t event).1 events

theorem Reachable.run {admissible : TcpEnv → SocketTable → SocketEvent → Prop} {t : SocketTable}
    (ht : Reachable admissible t) (env : TcpEnv) (events : List SocketEvent)
    (h : AdmissibleRun admissible env t events) : Reachable admissible (socketRun env t events) := by
  induction events generalizing t with
  | nil => exact ht
  | cons event events ih => exact ih (ht.step env event h.1) h.2

end PulsarNetstack
