import PulsarNetstack.TcpConnection

namespace PulsarNetstack

def psSocketMax : ℕ := 256
def psDgramQueueSize : ℕ := 16
def psDgramMaxPayload : ℕ := 1472
def intMax : ℕ := 2147483647

structure SocketTable where
  entries : List SocketEntry
  generations : List ℕ
  nextPort : Word16
  deriving DecidableEq, Repr

def socketSubsystemInit (capacity : ℕ) : SocketTable :=
  ⟨List.replicate capacity {}, List.replicate capacity 0, 49152⟩

namespace SocketTable

def set (t : SocketTable) (slot : ℕ) (s : SocketEntry) : SocketTable :=
  { t with entries := t.entries.set slot s }

end SocketTable

def socketLookup (t : SocketTable) (fd : ℤ) : Option (ℕ × SocketEntry) :=
  if fd ≤ 0 then none
  else
    let slot := (fd.toNat - 1) % psSocketMax
    match t.entries[slot]? with
    | none => none
    | some s => if s.allocated ∧ (s.fd : ℤ) = fd then some (slot, s) else none

def nextGeneration (slot generation : ℕ) : ℕ :=
  if generation = (intMax - slot - 1) / psSocketMax then 0 else generation + 1

def socketAllocate (t : SocketTable) (type : SockType) : Option (SocketTable × ℕ × SocketEntry) :=
  match t.entries.findIdx? (fun s => !s.allocated) with
  | none => none
  | some slot =>
    let generation := t.generations.getD slot 0
    let s : SocketEntry := {
      fd := generation * psSocketMax + slot + 1
      allocated := true
      isOpen := true
      type := type }
    some ({ t.set slot s with
      generations := t.generations.set slot (nextGeneration slot generation) }, slot, s)

def overlaps (a b : Word) : Bool := a == 0 || b == 0 || a == b

def boundMatch (type : SockType) (ip : Word) (port : Word16) (s : SocketEntry) : Bool :=
  s.allocated && s.type == type && s.localAddr.port == port && (s.localAddr.ip == 0 || s.localAddr.ip == ip)

def socketBound (t : SocketTable) (type : SockType) (ip : Word) (port : Word16) : Option ℕ :=
  if port = 0 then none else t.entries.findIdx? (boundMatch type ip port)

def portAvailable (t : SocketTable) (slot : ℕ) (type : SockType) (addr : SockAddr) : Bool :=
  t.entries.zipIdx.all fun (other, i) => !(i != slot && other.allocated && other.type == type &&
    other.localAddr.port == addr.port && overlaps addr.ip other.localAddr.ip)

def followingPort (port : Word16) : Word16 := if port + 1 < 49152 then 49152 else port + 1

def ephemeralPort (t : SocketTable) (slot : ℕ) (type : SockType) (ip : Word) : ℕ → Word16 → Word16 × Word16
  | 0, next => (0, next)
  | fuel + 1, next =>
    if portAvailable t slot type ⟨ip, next⟩ then (next, followingPort next)
    else ephemeralPort t slot type ip fuel (followingPort next)

def socketBind (env : TcpEnv) (t : SocketTable) (slot : ℕ) (s : SocketEntry) (addr : SockAddr) :
    SocketTable × Except Errno SocketEntry :=
  if s.localAddr.port ≠ 0 then (t, .error .einval)
  else if addr.ip ≠ 0 ∧ !env.isLocalIp addr.ip then (t, .error .eaddrnotavail)
  else if addr.port = 0 then
    let (port, next) := ephemeralPort t slot s.type addr.ip 16384 t.nextPort
    let t := { t with nextPort := next }
    if port = 0 then (t, .error .eaddrinuse)
    else
      let s := { s with localAddr := ⟨addr.ip, port⟩ }
      (t.set slot s, .ok s)
  else if portAvailable t slot s.type addr then
    let s := { s with localAddr := addr }
    (t.set slot s, .ok s)
  else (t, .error .eaddrinuse)

def ensureBound (env : TcpEnv) (t : SocketTable) (slot : ℕ) (s : SocketEntry) :
    SocketTable × Except Errno SocketEntry :=
  if s.localAddr.port = 0 then socketBind env t slot s {} else (t, .ok s)

def connectionMatch (localAddr remoteAddr : SockAddr) (s : SocketEntry) : Bool :=
  s.allocated && s.type == .stream && s.tcp.state != .closed && s.tcp.state != .listen &&
    s.localAddr == localAddr && s.remoteAddr == remoteAddr

def connection (t : SocketTable) (localAddr remoteAddr : SockAddr) : Option ℕ :=
  t.entries.findIdx? (connectionMatch localAddr remoteAddr)

def listenerMatch (localAddr : SockAddr) (s : SocketEntry) : Bool :=
  s.allocated && s.isOpen && s.type == .stream && s.tcp.state == .listen &&
    s.localAddr.port == localAddr.port && (s.localAddr.ip == 0 || s.localAddr.ip == localAddr.ip)

def listener (t : SocketTable) (localAddr : SockAddr) : Option ℕ :=
  t.entries.findIdx? (listenerMatch localAddr)

def connectEntry (env : TcpEnv) (s : SocketEntry) (addr : SockAddr) (source : Word)
    (seed : Word) (now : ℕ) : SocketEntry :=
  { s with
    localAddr := { s.localAddr with ip := if s.localAddr.ip = 0 then source else s.localAddr.ip }
    remoteAddr := addr
    tcp := startFlight env { initializeConnection s.tcp seed with state := .synSent } synFlag 0 now }

def tcpConnect (env : TcpEnv) (t : SocketTable) (slot : ℕ) (s : SocketEntry) (addr : SockAddr)
    (seed : Word) (now : ℕ) : SocketTable × List TcpEffect × Except Errno Unit :=
  match s.error with
  | some e => (t, [], .error e)
  | none =>
    match s.tcp.state with
    | .synSent | .synReceived => (t, [], .error .ealready)
    | .listen => (t, [], .error .einval)
    | .closed =>
      let (reason, route) := env.routeQuery addr.ip s.localAddr.ip
      if reason ≠ .none ∨ route.mtu < 44 then (t, [], .error (ipv4RouteErrno reason))
      else
        match ensureBound env t slot s with
        | (t, .error e) => (t, [], .error e)
        | (t, .ok s) =>
          let s := connectEntry env s addr route.sourceIp seed now
          (t.set slot s, [tcpEmitFlight s], .error .einprogress)
    | _ => (t, [], .error .eisconn)

def tcpListen (s : SocketEntry) (backlog : ℤ) : SocketEntry × Except Errno Unit :=
  if backlog ≤ 0 ∨ s.localAddr.port = 0 then (s, .error .einval)
  else if s.tcp.state ≠ .closed ∧ s.tcp.state ≠ .listen then (s, .error .einval)
  else
    ({ s with tcp := { s.tcp with backlog := min backlog.toNat (psSocketMax - 1), state := .listen } },
      .ok ())

def acceptable (fd : ℕ) (child : SocketEntry) : Bool :=
  child.allocated && child.type == .stream && child.tcp.parent == fd &&
    (child.tcp.state == .established || child.tcp.state == .closeWait)

def acceptEntry (child : SocketEntry) : SocketEntry :=
  { child with isOpen := true, tcp := { child.tcp with parent := 0, expires := 0 } }

def tcpAccept (t : SocketTable) (s : SocketEntry) : SocketTable × Except Errno (ℕ × SockAddr) :=
  if s.tcp.state ≠ .listen then (t, .error .einval)
  else
    match t.entries.findIdx? (acceptable s.fd) with
    | none => (t, .error .eagain)
    | some i =>
      let child := t.entries.getD i {}
      (t.set i (acceptEntry child), .ok (child.fd, child.remoteAddr))

def childOf (fd : ℕ) (child : SocketEntry) : Bool :=
  child.allocated && child.type == .stream && child.tcp.parent == fd

def closeChild (fd : ℕ) (child : SocketEntry) : SocketEntry × List TcpEffect :=
  if childOf fd child then
    let (child', effects) := tcpFail child (some .econnreset)
    (child', effects ++ [.emit child.localAddr child.remoteAddr child.tcp.sndNxt child.tcp.rcvNxt
      (rstFlag ||| ackFlag) 0 []])
  else (child, [])

def closeEntry (env : TcpEnv) (s : SocketEntry) (now : ℕ) : SocketEntry × List TcpEffect :=
  let s := { s with isOpen := false }
  if s.tcp.state = .closed ∨ s.tcp.state = .synSent ∨ s.tcp.state = .synReceived then
    tcpFail s (some .econnaborted)
  else tcpKick env { s with tcp := { s.tcp with closing := true } } now

def tcpClose (env : TcpEnv) (t : SocketTable) (slot : ℕ) (s : SocketEntry) (now : ℕ) :
    SocketTable × List TcpEffect :=
  if s.tcp.state = .listen then
    let closed := (t.set slot { s with isOpen := false }).entries.map (closeChild s.fd)
    ({ t with entries := (closed.map Prod.fst).set slot {} }, closed.flatMap Prod.snd)
  else
    let (s', effects) := closeEntry env s now
    (t.set slot s', effects)

def childEntry (env : TcpEnv) (s : SocketEntry) (parent : SocketEntry) (localAddr remoteAddr : SockAddr)
    (seg : Segment) (seed : Word) (now : ℕ) : SocketEntry :=
  { s with
    isOpen := false
    owner := parent.owner
    localAddr := localAddr
    remoteAddr := remoteAddr
    tcp := startFlight env { initializeConnection s.tcp seed with
      parent := parent.fd
      state := .synReceived
      rcvNxt := seg.seq + 1
      peerWindow := seg.window
      mss := seg.mss
      sndWl1 := seg.seq } (synFlag ||| ackFlag) 0 now }

def passiveOpen (env : TcpEnv) (t : SocketTable) (parent : SocketEntry) (localAddr remoteAddr : SockAddr)
    (seg : Segment) (seed : Word) (now : ℕ) : SocketTable × List TcpEffect × DropReason :=
  let pending := t.entries.countP (childOf parent.fd)
  if parent.tcp.backlog ≤ pending then (t, [], .tcpBacklogFull)
  else
    match socketAllocate t .stream with
    | none => (t, [], .tcpBacklogFull)
    | some (t, slot, s) =>
      let child := childEntry env s parent localAddr remoteAddr seg seed now
      (t.set slot child, [tcpEmitFlight child, .count .syns], .none)

def tcpInput (env : TcpEnv) (t : SocketTable) (localAddr remoteAddr : SockAddr) (seg : Segment)
    (seed : Word) (now : ℕ) : SocketTable × List TcpEffect × DropReason :=
  if !env.destinationValid remoteAddr.ip then (t, [], .invalidSource)
  else
    match connection t localAddr remoteAddr with
    | some slot =>
      let r := tcpInputConnection env (t.entries.getD slot {}) localAddr remoteAddr seg now
      (t.set slot r.entry, r.effects, r.reason)
    | none =>
      match listener t localAddr with
      | some i =>
        if !flag seg.flags rstFlag && !flag seg.flags ackFlag && flag seg.flags synFlag then
          passiveOpen env t (t.entries.getD i {}) localAddr remoteAddr seg seed now
        else
          (t, resetReply localAddr remoteAddr seg.seq seg.ack seg.flags seg.payload.length, .tcpNoSocket)
      | none =>
        (t, resetReply localAddr remoteAddr seg.seq seg.ack seg.flags seg.payload.length, .tcpNoSocket)

def tickSlot (env : TcpEnv) (now : ℕ) (s : SocketEntry) : SocketEntry × List TcpEffect :=
  if s.allocated ∧ s.type = .stream then tcpTickEntry env s now else (s, [])

def tcpTick (env : TcpEnv) (t : SocketTable) (now : ℕ) : SocketTable × List TcpEffect :=
  let ticked := t.entries.map (tickSlot env now)
  ({ t with entries := ticked.map Prod.fst }, ticked.flatMap Prod.snd)

/-- A TCP header as `tcp_input_node_run` finds it after its length checks; `options` are the
bytes between the fixed header and the payload. -/
structure TcpHeader where
  srcPort : Word16
  dstPort : Word16
  seq : Word
  ack : Word
  flags : Byte
  window : ℕ
  options : List Byte
  deriving DecidableEq, Repr

def tcpOptions (syn : Bool) : ℕ → ℕ → List Byte → Option ℕ
  | _, mss, [] => some mss
  | skip + 1, mss, _ :: rest => tcpOptions syn skip mss rest
  | 0, mss, kind :: rest =>
    if kind = 0 then some mss
    else if kind = 1 then tcpOptions syn 0 mss rest
    else
      match rest with
      | [] => none
      | length :: data =>
        if length.toNat < 2 ∨ rest.length + 1 < length.toNat ∨ (kind = 2 ∧ length ≠ 4) then none
        else
          let value := (data.getD 0 0).toNat * 256 + (data.getD 1 0).toNat
          let mss := if kind = 2 ∧ syn ∧ value ≠ 0 then value else mss
          tcpOptions syn (length.toNat - 1) mss rest

def tcpFlagsInvalid (flags : Byte) : Bool :=
  flag flags urgFlag || (flag flags synFlag && flag flags (finFlag ||| rstFlag))

def tcpInputSegment (env : TcpEnv) (t : SocketTable) (srcIp dstIp : Word) (hdr : TcpHeader)
    (payload : List Byte) (seed : Word) (now : ℕ) : SocketTable × List TcpEffect × DropReason :=
  if tcpFlagsInvalid hdr.flags then (t, [], .invalidTcp)
  else
    match tcpOptions (flag hdr.flags synFlag) 0 536 hdr.options with
    | none => (t, [], .invalidTcp)
    | some mss =>
      tcpInput env t ⟨dstIp, hdr.dstPort⟩ ⟨srcIp, hdr.srcPort⟩
        ⟨hdr.seq, hdr.ack, hdr.flags, hdr.window, mss, payload⟩ seed now

end PulsarNetstack
