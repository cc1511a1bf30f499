import PulsarNetstack.SocketTable

namespace PulsarNetstack

def emitted (effects : List TcpEffect) : List Segment :=
  effects.filterMap fun
    | .emit _ _ seq ack flags window data => some ⟨seq, ack, flags, window, 536, data⟩
    | _ => none

/-- One endpoint with its history: its initial sequence number, the bytes that `tcp_send` accepted and `tcp_recv`
returned, whether `tcp_close` was called, and every segment it sent. -/
structure Side where
  entry : SocketEntry := {}
  iss : Word
  accepted : List Byte := []
  returned : List Byte := []
  closed : Bool := false
  sent : List Segment := []
  deriving DecidableEq, Repr

inductive SideEvent
  | send (env : TcpEnv) (data : List Byte) (now : ℕ)
  | recv (length : ℕ)
  | close (env : TcpEnv) (now : ℕ)
  | accept (fd : ℕ)
  | tick (env : TcpEnv) (now : ℕ)
  | input (env : TcpEnv) (seg : Segment) (now : ℕ)

def acceptedBytes (data : List Byte) : Except Errno ℕ → List Byte
  | .ok n => data.take n
  | .error _ => []

def returnedBytes : Except Errno (List Byte) → List Byte
  | .ok data => data
  | .error _ => []

def Side.connected (x : Side) : Bool := connectionMatch x.entry.localAddr x.entry.remoteAddr x.entry

def Side.callable (x : Side) : Bool := x.entry.allocated && x.entry.isOpen && x.entry.type == .stream

namespace Side

def send (x : Side) (env : TcpEnv) (data : List Byte) (now : ℕ) : Side :=
  if x.callable then
    let r := tcpSend env x.entry data now
    { x with entry := r.1, accepted := x.accepted ++ acceptedBytes data r.2.2, sent := x.sent ++ emitted r.2.1 }
  else x

def recv (x : Side) (length : ℕ) : Side :=
  if x.callable then
    let r := tcpRecv x.entry length
    { x with entry := r.1, returned := x.returned ++ returnedBytes r.2.2, sent := x.sent ++ emitted r.2.1 }
  else x

def close (x : Side) (env : TcpEnv) (now : ℕ) : Side :=
  if x.callable ∧ x.entry.tcp.state ≠ .listen then
    let r := closeEntry env x.entry now
    { x with entry := r.1, closed := true, sent := x.sent ++ emitted r.2 }
  else x

def accept (x : Side) (fd : ℕ) : Side :=
  if 0 < fd ∧ acceptable fd x.entry then { x with entry := acceptEntry x.entry } else x

def tick (x : Side) (env : TcpEnv) (now : ℕ) : Side :=
  let r := tickSlot env now x.entry
  { x with entry := r.1, sent := x.sent ++ emitted r.2 }

def input (x : Side) (env : TcpEnv) (seg : Segment) (now : ℕ) : Side :=
  if x.connected then
    let r := tcpInputConnection env x.entry x.entry.localAddr x.entry.remoteAddr seg now
    { x with entry := r.entry, sent := x.sent ++ emitted r.effects }
  else
    { x with sent := x.sent ++ emitted (resetReply x.entry.localAddr x.entry.remoteAddr seg.seq seg.ack
      seg.flags seg.payload.length) }

def step (x : Side) : SideEvent → Side
  | .send env data now => x.send env data now
  | .recv length => x.recv length
  | .close env now => x.close env now
  | .accept fd => x.accept fd
  | .tick env now => x.tick env now
  | .input env seg now => x.input env seg now

end Side

def Carried (sent : List Segment) (seg : Segment) : Prop := 0 < seg.mss ∧ ∃ g ∈ sent, seg = { g with mss := seg.mss }

instance (sent : List Segment) (seg : Segment) : Decidable (Carried sent seg) := by unfold Carried; infer_instance

def SideEvent.Deliverable (sent : List Segment) : SideEvent → Prop
  | .input _ seg _ => Carried sent seg
  | _ => True

instance (sent : List Segment) : DecidablePred (SideEvent.Deliverable sent)
  | .input _ seg _ => inferInstanceAs (Decidable (Carried sent seg))
  | .send .. | .recv .. | .close .. | .accept .. | .tick .. => isTrue trivial

structure Pair where
  client : Side
  server : Side
  opened : Bool := false
  deriving DecidableEq, Repr

def connectSide (env : TcpEnv) (s : SocketEntry) (addr : SockAddr) (source seed : Word) (now : ℕ) : Side :=
  let s := connectEntry env s addr source seed now
  { entry := s, iss := seed, sent := emitted [tcpEmitFlight s] }

def passiveSide (env : TcpEnv) (x : Side) (fd : ℕ) (parent : SocketEntry) (localAddr remoteAddr : SockAddr)
    (seg : Segment) (now : ℕ) : Side :=
  let s := childEntry env { fd := fd, allocated := true, isOpen := true, type := .stream } parent localAddr
    remoteAddr seg x.iss now
  { x with entry := s, sent := x.sent ++ emitted [tcpEmitFlight s] }

structure FreshSocket (s : SocketEntry) : Prop where
  allocated : s.allocated = true
  isOpen : s.isOpen = true
  stream : s.type = .stream
  error : s.error = none
  tcp : s.tcp = {}

inductive PairEvent
  | client (e : SideEvent)
  | server (e : SideEvent)
  | passiveOpen (env : TcpEnv) (fd : ℕ) (parent : SocketEntry) (localAddr remoteAddr : SockAddr) (seg : Segment)
      (now : ℕ)

def Pair.step (p : Pair) : PairEvent → Pair
  | .client e => { p with client := p.client.step e }
  | .server e => { p with server := p.server.step e }
  | .passiveOpen env fd parent localAddr remoteAddr seg now =>
    { p with server := passiveSide env p.server fd parent localAddr remoteAddr seg now, opened := true }

def PairEvent.Admissible (p : Pair) : PairEvent → Prop
  | .client e => e.Deliverable p.server.sent
  | .server e => e.Deliverable p.client.sent
  | .passiveOpen _ _ _ _ _ seg _ => p.opened = false ∧ Carried p.client.sent seg ∧
      flag seg.flags rstFlag = false ∧ flag seg.flags ackFlag = false ∧ flag seg.flags synFlag = true

instance (p : Pair) : DecidablePred (PairEvent.Admissible p)
  | .client e => inferInstanceAs (Decidable (e.Deliverable p.server.sent))
  | .server e => inferInstanceAs (Decidable (e.Deliverable p.client.sent))
  | .passiveOpen _ _ _ _ _ seg _ => inferInstanceAs (Decidable (p.opened = false ∧ Carried p.client.sent seg ∧
      flag seg.flags rstFlag = false ∧ flag seg.flags ackFlag = false ∧ flag seg.flags synFlag = true))

/-- The runs of one connection. The server's initial sequence number is fixed beforehand, since `passive_open`
creates the server's entry at most once. -/
inductive PairReachable : Pair → Prop
  | connect (env : TcpEnv) {s : SocketEntry} (hs : FreshSocket s) (addr : SockAddr) (source seed serverSeed : Word)
      (now : ℕ) : PairReachable { client := connectSide env s addr source seed now, server := { iss := serverSeed } }
  | step {p : Pair} (h : PairReachable p) (e : PairEvent) (he : e.Admissible p) : PairReachable (p.step e)

def Pair.run (p : Pair) (events : List PairEvent) : Pair := events.foldl Pair.step p

def PairRun : Pair → List PairEvent → Prop
  | _, [] => True
  | p, e :: events => e.Admissible p ∧ PairRun (p.step e) events

instance : ∀ (p : Pair) (events : List PairEvent), Decidable (PairRun p events)
  | _, [] => isTrue trivial
  | p, e :: events =>
    have := instDecidablePairRun (p.step e) events
    inferInstanceAs (Decidable (e.Admissible p ∧ PairRun (p.step e) events))

theorem PairReachable.run {p : Pair} (h : PairReachable p) {events : List PairEvent} (hr : PairRun p events) :
    PairReachable (p.run events) := by
  induction events generalizing p with
  | nil => exact h
  | cons e events ih => exact ih (h.step e hr.1) hr.2

end PulsarNetstack
