import PulsarNetstack.Base

namespace PulsarNetstack

def tcpBufferSize : ℕ := 8192
def tcpMaxRetries : ℕ := 5
def tcpTimeWaitSeconds : ℕ := 120
def tcpFinWaitSeconds : ℕ := 120

def finFlag : Byte := 0x01
def synFlag : Byte := 0x02
def rstFlag : Byte := 0x04
def pshFlag : Byte := 0x08
def ackFlag : Byte := 0x10
def urgFlag : Byte := 0x20

def flag (flags mask : Byte) : Bool := flags &&& mask != 0

inductive TcpState
  | closed | listen | synSent | synReceived | established
  | finWait1 | finWait2 | closeWait | lastAck | timeWait
  deriving DecidableEq, Repr

/-- The buffers hold only their live bytes; `rxLen` and `txLen` are the 16-bit counters of the source. -/
structure TcpConnection where
  state : TcpState := .closed
  parent : ℕ := 0
  backlog : ℕ := 0
  mss : ℕ := 0
  peerWindow : ℕ := 0
  sndUna : Word := 0
  sndNxt : Word := 0
  rcvNxt : Word := 0
  sndWl1 : Word := 0
  sndWl2 : Word := 0
  rxLen : ℕ := 0
  txLen : ℕ := 0
  flightLen : ℕ := 0
  flightFlags : Byte := 0
  retries : ℕ := 0
  closing : Bool := false
  peerFin : Bool := false
  deadline : ℕ := 0
  rto : ℕ := 0
  expires : ℕ := 0
  rx : List Byte := []
  tx : List Byte := []
  deriving DecidableEq, Repr

structure UdpDatagram where
  source : SockAddr := {}
  payload : List Byte := []
  deriving DecidableEq, Repr

structure UdpEndpoint where
  head : ℕ := 0
  count : ℕ := 0
  queue : List UdpDatagram := List.replicate 16 {}
  deriving DecidableEq, Repr

inductive SockType
  | unset | stream | dgram
  deriving DecidableEq, Repr

structure SocketEntry where
  fd : ℕ := 0
  owner : ℕ := 0
  allocated : Bool := false
  isOpen : Bool := false
  type : SockType := .unset
  error : Option Errno := none
  localAddr : SockAddr := {}
  remoteAddr : SockAddr := {}
  udp : UdpEndpoint := {}
  tcp : TcpConnection := {}
  deriving DecidableEq, Repr

inductive TcpCounter
  | syns | established | closed | resets | retransmissions | timeouts | duplicateAcks | outOfOrder
  deriving DecidableEq, Repr

/-- What a TCP function does outside its socket entry. None of it is read back (every caller ignores the result of
`tcp_emit`), so the calls are returned in order. -/
inductive TcpEffect
  | emit (localAddr remoteAddr : SockAddr) (seq ack : Word) (flags : Byte) (window : ℕ)
      (data : List Byte)
  | cancelQueued (localAddr remoteAddr : SockAddr)
  | count (counter : TcpCounter)
  deriving DecidableEq, Repr

/-- What the TCP and socket functions read of the rest of the runtime in one call: `routeQuery dst src` is
`ipv4_route_query` without an ingress interface. -/
structure TcpEnv where
  hz : ℕ
  routeQuery : Word → Word → DropReason × RouteResult
  destinationValid : Word → Bool
  isLocalIp : Word → Bool
  busy : Bool

def steadyEnv : TcpEnv where
  hz := 1000
  routeQuery _ _ := (.none, { mtu := 1500, sourceIp := 0x0100000a })
  destinationValid _ := true
  isLocalIp _ := true
  busy := false

def before (a b : Word) : Bool := decide ((a - b).toInt < 0)

def receiveWindow (c : TcpConnection) : ℕ := sub16 tcpBufferSize c.rxLen

def tcpEmitFlight (s : SocketEntry) : TcpEffect :=
  .emit s.localAddr s.remoteAddr s.tcp.sndUna s.tcp.rcvNxt s.tcp.flightFlags
    (receiveWindow s.tcp) (s.tcp.tx.take s.tcp.flightLen)

def tcpAck (s : SocketEntry) : TcpEffect :=
  .emit s.localAddr s.remoteAddr s.tcp.sndNxt s.tcp.rcvNxt ackFlag (receiveWindow s.tcp) []

def startFlight (env : TcpEnv) (c : TcpConnection) (flags : Byte) (length now : ℕ) : TcpConnection :=
  { c with
    flightFlags := flags
    flightLen := length
    sndNxt := c.sndUna + BitVec.ofNat 32 length + (if flag flags (synFlag ||| finFlag) then 1 else 0)
    rto := env.hz
    deadline := add64 now env.hz
    retries := 0 }

def initializeConnection (c : TcpConnection) (seed : Word) : TcpConnection :=
  { c with sndUna := seed, sndNxt := seed, mss := 536, peerWindow := 65535 }

def tcpFail (s : SocketEntry) (error : Option Errno) : SocketEntry × List TcpEffect :=
  let effects := if s.tcp.state ≠ .closed then
    [.cancelQueued s.localAddr s.remoteAddr, .count .closed] else []
  if s.isOpen then ({ s with error := error, tcp := {} }, effects) else ({}, effects)

def tcpTimeWait (env : TcpEnv) (c : TcpConnection) (now : ℕ) : TcpConnection :=
  { c with
    state := .timeWait
    flightFlags := 0
    deadline := 0
    expires := add64 now (tcpTimeWaitSeconds * env.hz) }

def flightLength (c : TcpConnection) (mtu : ℕ) : ℕ :=
  min c.txLen (min c.peerWindow (min c.mss (mtu - 40)))

def finState (state : TcpState) : TcpState := if state = .closeWait then .lastAck else .finWait1

def tcpKick (env : TcpEnv) (s : SocketEntry) (now : ℕ) : SocketEntry × List TcpEffect :=
  let c := s.tcp
  if c.flightFlags ≠ 0 ∨ (c.state ≠ .established ∧ c.state ≠ .closeWait) then (s, [])
  else if c.peerWindow = 0 ∧ (c.txLen ≠ 0 ∨ c.closing) then
    if c.deadline = 0 then
      ({ s with tcp := { c with rto := env.hz, deadline := add64 now env.hz, retries := 0 } }, [])
    else (s, [])
  else if c.txLen ≠ 0 then
    let (reason, route) := env.routeQuery s.remoteAddr.ip s.localAddr.ip
    if reason ≠ .none ∨ route.mtu ≤ 40 then tcpFail s (some (ipv4RouteErrno reason))
    else
      let s' := { s with
        tcp := startFlight env c (ackFlag ||| pshFlag) (flightLength c route.mtu) now }
      (s', [tcpEmitFlight s'])
  else if c.closing then
    let s' := { s with
      tcp := startFlight env { c with state := finState c.state } (finFlag ||| ackFlag) 0 now }
    (s', [tcpEmitFlight s'])
  else (s, [])

def tcpSend (env : TcpEnv) (s : SocketEntry) (data : List Byte) (now : ℕ) :
    SocketEntry × List TcpEffect × Except Errno ℕ :=
  let c := s.tcp
  match s.error with
  | some e => (s, [], .error e)
  | none =>
    if c.state ≠ .established ∧ c.state ≠ .closeWait then (s, [], .error .enotconn)
    else if data.length = 0 then (s, [], .ok 0)
    else
      let accepted := min data.length (tcpBufferSize - c.txLen)
      if accepted = 0 then (s, [], .error .eagain)
      else
        let (s', effects) := tcpKick env { s with
          tcp := { c with tx := c.tx ++ data.take accepted, txLen := add16 c.txLen accepted } } now
        match s'.error with
        | some e => (s', effects, .error e)
        | none => (s', effects, .ok accepted)

def tcpRecv (s : SocketEntry) (length : ℕ) : SocketEntry × List TcpEffect × Except Errno (List Byte) :=
  let c := s.tcp
  if length = 0 then (s, [], .ok [])
  else if c.rxLen = 0 then
    match s.error with
    | some e => (s, [], .error e)
    | none =>
      if c.peerFin then (s, [], .ok [])
      else (s, [], .error (if c.state = .established then .eagain else .enotconn))
  else
    let received := min length c.rxLen
    let s' := { s with tcp := { c with rx := c.rx.drop received, rxLen := sub16 c.rxLen received } }
    (s', [tcpAck s'], .ok (c.rx.take received))

def resetReply (localAddr remoteAddr : SockAddr) (seq ack : Word) (flags : Byte) (length : ℕ) :
    List TcpEffect :=
  if flag flags rstFlag then []
  else if flag flags ackFlag then
    [.emit localAddr remoteAddr ack 0 rstFlag 0 [], .count .resets]
  else
    let responseAck := seq + BitVec.ofNat 32 length +
      (if flag flags synFlag then 1 else 0) + (if flag flags finFlag then 1 else 0)
    [.emit localAddr remoteAddr 0 responseAck (rstFlag ||| ackFlag) 0 [], .count .resets]

def ackAdvance (c : TcpConnection) (ack : Word) (now : ℕ) : TcpConnection :=
  let bytes := (ack - c.sndUna).toNat
  { c with
    txLen := if c.flightLen ≠ 0 then sub16 c.txLen bytes else c.txLen
    flightLen := if c.flightLen ≠ 0 then sub16 c.flightLen bytes else c.flightLen
    tx := if c.flightLen ≠ 0 then c.tx.drop bytes else c.tx
    sndUna := ack
    deadline := add64 now c.rto }

def ackComplete (c : TcpConnection) (ack : Word) (now : ℕ) : TcpConnection :=
  { ackAdvance c ack now with flightFlags := 0, deadline := 0, retries := 0 }

def acknowledge (env : TcpEnv) (s : SocketEntry) (ack : Word) (now : ℕ) :
    SocketEntry × List TcpEffect :=
  let c := s.tcp
  if !before c.sndUna ack then (s, [.count .duplicateAcks])
  else if ack ≠ c.sndNxt then ({ s with tcp := ackAdvance c ack now }, [])
  else if flag c.flightFlags finFlag then
    if c.state = .lastAck then tcpFail { s with tcp := ackComplete c ack now } none
    else if c.peerFin then ({ s with tcp := tcpTimeWait env (ackComplete c ack now) now }, [])
    else ({ s with tcp := { ackComplete c ack now with
      state := .finWait2, expires := add64 now (tcpFinWaitSeconds * env.hz) } }, [])
  else ({ s with tcp := ackComplete c ack now }, [])

structure Segment where
  seq : Word
  ack : Word
  flags : Byte
  window : ℕ
  mss : ℕ
  payload : List Byte
  deriving DecidableEq, Repr

def updateWindow (c : TcpConnection) (seg : Segment) : TcpConnection :=
  if !before seg.seq c.sndWl1 && (seg.seq != c.sndWl1 || !before seg.ack c.sndWl2) then
    { c with peerWindow := seg.window, sndWl1 := seg.seq, sndWl2 := seg.ack }
  else c

def receivedLength (c : TcpConnection) (seg : Segment) : ℕ :=
  min seg.payload.length (tcpBufferSize - c.rxLen)

def receivePayload (c : TcpConnection) (seg : Segment) : TcpConnection :=
  if !c.peerFin && seg.payload.length != 0 then
    { c with
      rx := c.rx ++ seg.payload.take (receivedLength c seg)
      rxLen := add16 c.rxLen (receivedLength c seg)
      rcvNxt := c.rcvNxt + BitVec.ofNat 32 (receivedLength c seg) }
  else c

def receiveFin (env : TcpEnv) (c : TcpConnection) (seg : Segment) (now : ℕ) : TcpConnection :=
  if !c.peerFin && flag seg.flags finFlag && decide (c.rxLen < tcpBufferSize) then
    let c := { c with peerFin := true, rcvNxt := c.rcvNxt + 1 }
    if c.state = .established then { c with state := .closeWait }
    else if c.state = .finWait2 then tcpTimeWait env c now
    else c
  else c

structure TcpResult where
  entry : SocketEntry
  effects : List TcpEffect
  reason : DropReason

def tcpInputAccepted (env : TcpEnv) (s : SocketEntry) (seg : Segment) (now : ℕ) : TcpResult :=
  let (s, effects) := acknowledge env s seg.ack now
  if !s.allocated || s.tcp.state = .closed then ⟨s, effects, .none⟩
  else
    let c := updateWindow s.tcp seg
    let s := { s with tcp := receivePayload c seg }
    if !c.peerFin && seg.payload.length != 0 && receivedLength c seg != seg.payload.length then
      let (s', kicked) := tcpKick env s now
      ⟨s', effects ++ [tcpAck s] ++ kicked, .none⟩
    else
      let s := { s with tcp := receiveFin env s.tcp seg now }
      let acked := if seg.payload.length ≠ 0 ∨ flag seg.flags finFlag then [tcpAck s] else []
      let (s', kicked) := tcpKick env s now
      ⟨s', effects ++ acked ++ kicked, .none⟩

def tcpInputSynSent (s : SocketEntry) (localAddr remoteAddr : SockAddr) (seg : Segment) : TcpResult :=
  if flag seg.flags ackFlag ∧ seg.ack ≠ s.tcp.sndNxt then
    ⟨s, resetReply localAddr remoteAddr seg.seq seg.ack seg.flags seg.payload.length, .tcpInvalidState⟩
  else if flag seg.flags rstFlag then
    if flag seg.flags ackFlag then
      let (s', effects) := tcpFail s (some .econnrefused)
      ⟨s', effects, .none⟩
    else ⟨s, [], .none⟩
  else if seg.flags &&& (synFlag ||| ackFlag) ≠ synFlag ||| ackFlag then ⟨s, [], .tcpInvalidState⟩
  else
    let s' := { s with tcp := { s.tcp with
      rcvNxt := seg.seq + 1
      sndUna := seg.ack
      flightFlags := 0
      deadline := 0
      mss := seg.mss
      peerWindow := seg.window
      sndWl1 := seg.seq
      sndWl2 := seg.ack
      state := .established } }
    ⟨s', [.count .established, tcpAck s'], .none⟩

def tcpInputInOrder (env : TcpEnv) (s : SocketEntry) (localAddr remoteAddr : SockAddr)
    (seg : Segment) (now : ℕ) : TcpResult :=
  let c := s.tcp
  let length := seg.payload.length
  if flag seg.flags rstFlag then
    let (s', effects) := tcpFail s (some .econnreset)
    ⟨s', .count .resets :: effects, .none⟩
  else if flag seg.flags synFlag then ⟨s, [tcpAck s], .tcpInvalidState⟩
  else if (length ≠ 0 ∨ flag seg.flags finFlag) ∧ c.rxLen = tcpBufferSize then
    ⟨s, [tcpAck s], .tcpOutOfOrder⟩
  else if !flag seg.flags ackFlag then ⟨s, [], .tcpInvalidState⟩
  else if before c.sndNxt seg.ack then ⟨s, [tcpAck s], .tcpInvalidState⟩
  else if c.state = .synReceived then
    if seg.ack ≠ c.sndNxt then
      ⟨s, resetReply localAddr remoteAddr seg.seq seg.ack seg.flags length, .tcpInvalidState⟩
    else
      let r := tcpInputAccepted env { s with tcp := { c with
        state := .established, expires := add64 now (60 * env.hz) } } seg now
      ⟨r.entry, .count .established :: r.effects, r.reason⟩
  else tcpInputAccepted env s seg now

def resetInWindow (c : TcpConnection) (seq : Word) : Bool :=
  !before seq c.rcvNxt && before seq (c.rcvNxt + BitVec.ofNat 32 tcpBufferSize - BitVec.ofNat 32 c.rxLen)

def tcpInputConnection (env : TcpEnv) (s : SocketEntry) (localAddr remoteAddr : SockAddr)
    (seg : Segment) (now : ℕ) : TcpResult :=
  let c := s.tcp
  if c.state = .synSent then tcpInputSynSent s localAddr remoteAddr seg
  else if c.state = .synReceived ∧ flag seg.flags synFlag ∧ seg.seq + 1 = c.rcvNxt then
    ⟨s, [tcpEmitFlight s], .none⟩
  else if c.state = .timeWait then
    if flag seg.flags rstFlag then ⟨s, [], .none⟩
    else if flag seg.flags finFlag ∧ seg.seq + BitVec.ofNat 32 seg.payload.length + 1 = c.rcvNxt then
      ⟨{ s with tcp := tcpTimeWait env c now }, [tcpAck s], .none⟩
    else ⟨s, [tcpAck s], .none⟩
  else if seg.seq ≠ c.rcvNxt then
    if !flag seg.flags rstFlag || resetInWindow c seg.seq then
      ⟨s, [tcpAck s, .count .outOfOrder], .tcpOutOfOrder⟩
    else ⟨s, [.count .outOfOrder], .tcpOutOfOrder⟩
  else tcpInputInOrder env s localAddr remoteAddr seg now

def tcpTickEntry (env : TcpEnv) (s : SocketEntry) (now : ℕ) : SocketEntry × List TcpEffect :=
  let c := s.tcp
  if c.expires ≠ 0 ∧ c.expires ≤ now then
    let (s', effects) := tcpFail s (if c.state = .timeWait then none else some .etimedout)
    (s', (if c.state ≠ .timeWait then [.count .timeouts] else []) ++ effects)
  else if c.deadline = 0 ∨ now < c.deadline then (s, [])
  else if c.retries = tcpMaxRetries then
    let (s', effects) := tcpFail s (some .etimedout)
    (s', .count .timeouts :: effects)
  else
    let backoff := min (c.rto * 2 % 18446744073709551616) (60 * env.hz)
    let rearmed := { s with tcp := { c with
      retries := c.retries + 1, rto := backoff, deadline := add64 now backoff } }
    if c.flightFlags ≠ 0 then (rearmed, [tcpEmitFlight s, .count .retransmissions])
    else if (c.txLen ≠ 0 ∨ c.closing) ∧ c.peerWindow = 0 then
      (rearmed, [.emit s.localAddr s.remoteAddr (c.sndNxt - 1) c.rcvNxt ackFlag (receiveWindow c) []])
    else ({ s with tcp := { c with deadline := 0 } }, [])

end PulsarNetstack
