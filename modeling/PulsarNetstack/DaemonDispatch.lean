import PulsarNetstack.RuntimeCalls

namespace PulsarNetstack

def ipcPayloadMax : ℕ := 8192
def ipcDgramHeader : ℕ := 12
def psDgramBatchMax : ℕ := 16

inductive IpcOperation
  | hello | socket | bind | connect | listen | accept | send | recv | sendto | recvfrom | close | sendmmsg | recvmmsg
  | cleanup
  deriving DecidableEq, Repr

def ipcOperations : List IpcOperation :=
  [.hello, .socket, .bind, .connect, .listen, .accept, .send, .recv, .sendto, .recvfrom, .close, .sendmmsg, .recvmmsg]

def ipcOperation (op : Word) : Option IpcOperation :=
  if op = 65535 then some .cleanup
  else if op = 0 then none
  else ipcOperations[op.toNat - 1]?

structure IpcMessage where
  op : Word
  id : Word
  fd : ℤ := 0
  a : ℤ := 0
  b : ℤ := 0
  c : ℤ := 0
  result : ℤ := 0
  addr : SockAddr := {}
  data : List Byte := []
  deriving DecidableEq, Repr

structure DaemonItem where
  owner : ℕ
  message : IpcMessage
  deriving DecidableEq, Repr

def Errno.code : Errno → ℕ
  | .eperm => 1
  | .enoent => 2
  | .eio => 5
  | .ebadf => 9
  | .eagain => 11
  | .enomem => 12
  | .eacces => 13
  | .ebusy => 16
  | .eexist => 17
  | .enodev => 19
  | .einval => 22
  | .emfile => 24
  | .enospc => 28
  | .eproto => 71
  | .eoverflow => 75
  | .emsgsize => 90
  | .eprototype => 91
  | .eprotonosupport => 93
  | .eopnotsupp => 95
  | .eafnosupport => 97
  | .eaddrinuse => 98
  | .eaddrnotavail => 99
  | .enetdown => 100
  | .enetunreach => 101
  | .econnaborted => 103
  | .econnreset => 104
  | .enobufs => 105
  | .eisconn => 106
  | .enotconn => 107
  | .etimedout => 110
  | .econnrefused => 111
  | .ealready => 114
  | .einprogress => 115
  | .estale => 116

def resultCode : Except Errno ℕ → ℤ
  | .ok n => n
  | .error e => -e.code

def ipcShapeValid (m : IpcMessage) : IpcOperation → Bool
  | .send | .sendto => true
  | .recv | .recvfrom => m.data.length == 0 && decide (0 ≤ m.a) && decide (m.a ≤ ipcPayloadMax)
  | .sendmmsg => decide (1 ≤ m.a) && decide (m.a ≤ psDgramBatchMax) && decide (m.a * ipcDgramHeader ≤ m.data.length)
  | .recvmmsg => decide (1 ≤ m.a) && decide (m.a ≤ psDgramBatchMax) && decide ((m.data.length : ℤ) = m.a * 4)
  | .cleanup => false
  | _ => m.data.length == 0

def ipcRequestValid (m : IpcMessage) : Bool :=
  (ipcOperation m.op).any fun op => m.result == 0 && decide (m.data.length ≤ ipcPayloadMax) && ipcShapeValid m op

def ipcDatagramEncode (addr : SockAddr) (length : ℕ) : List Byte :=
  wordBytes addr.ip ++ be32Bytes (addr.port.setWidth 32) ++ be32Bytes (BitVec.ofNat 32 length)

def ipcDatagramDecode (data : List Byte) : Option (SockAddr × ℕ) :=
  let port := be32 data 4
  let size := be32 data 8
  if data.length < ipcDgramHeader then none
  else if 65535 < port ∨ psDgramMaxPayload < size ∨ data.length - ipcDgramHeader < size then none
  else some (⟨wordAt data 0, BitVec.ofNat 16 port⟩, size)

def decodeBatch : ℕ → List Byte → Option (List (SockAddr × List Byte))
  | 0, data => if data = [] then some [] else none
  | count + 1, data => do
    let (addr, size) ← ipcDatagramDecode data
    let rest ← decodeBatch count (data.drop (ipcDgramHeader + size))
    return (addr, (data.drop ipcDgramHeader).take size) :: rest

def sendDatagrams (submit : Submit) (fd : ℤ) : ℕ → List (SockAddr × List Byte) → GraphM ℤ
  | sent, [] => return sent
  | sent, (addr, payload) :: rest => do
    let reply ← runCall submit (.sendto fd payload (some addr))
    match reply.result with
    | .error e => return if sent ≠ 0 then (sent : ℤ) else -e.code
    | .ok _ => sendDatagrams submit fd (sent + 1) rest

def sendBatch (submit : Submit) (m out : IpcMessage) : GraphM IpcMessage := do
  match decodeBatch m.a.toNat m.data with
  | none => return { out with result := -Errno.einval.code }
  | some datagrams =>
    let result ← sendDatagrams submit m.fd 0 datagrams
    return { out with result := result }

def receiveDatagrams (submit : Submit) (fd : ℤ) : ℕ → List ℕ → IpcMessage → GraphM IpcMessage
  | _, [], out => return out
  | received, capacity :: rest, out => do
    if ipcPayloadMax - out.data.length < ipcDgramHeader then return out
    else
      let available := ipcPayloadMax - out.data.length - ipcDgramHeader
      let reply ← runCall submit (.recvfrom fd (min capacity available))
      match reply.result with
      | .error e => return if received = 0 then { out with result := -e.code } else out
      | .ok n =>
        let data := out.data ++ ipcDatagramEncode reply.addr n ++ reply.data
        receiveDatagrams submit fd (received + 1) rest { out with data := data, result := received + 1 }

def receiveBatch (submit : Submit) (m out : IpcMessage) : GraphM IpcMessage := do
  let capacities := (List.range m.a.toNat).map fun i => be32 m.data (i * 4)
  if capacities.any fun c => decide (psDgramMaxPayload < c) then return { out with result := -Errno.einval.code }
  else receiveDatagrams submit m.fd 0 capacities out

def ipcCall (m : IpcMessage) : IpcOperation → Option SocketCall
  | .bind => some (.bind m.fd (some m.addr))
  | .connect => some (.connect m.fd (some m.addr))
  | .listen => some (.listen m.fd m.a)
  | .accept => some (.accept m.fd)
  | .close => some (.close m.fd)
  | .send => some (.send m.fd m.data)
  | .sendto => some (.sendto m.fd m.data (some m.addr))
  | .recv => some (.recv m.fd m.a.toNat)
  | .recvfrom => some (.recvfrom m.fd m.a.toNat)
  | _ => none

def dispatchOperation (submit : Submit) (m out : IpcMessage) (op : IpcOperation) : GraphM IpcMessage :=
  match op with
  | .sendmmsg => sendBatch submit m out
  | .recvmmsg => receiveBatch submit m out
  | _ =>
    match ipcCall m op with
    | none => return out
    | some call => do
      let reply ← runCall submit call
      return { out with result := resultCode reply.result, addr := reply.addr, data := reply.data }

def cleanupSlot (submit : Submit) (owner : ℕ) (i : ℕ) : GraphM PUnit := do
  let rt ← get
  let s := rt.sockets.entries.getD i {}
  if s.allocated ∧ s.isOpen ∧ s.owner = owner then
    let _ ← runCall submit (.close s.fd)

def cleanup (submit : Submit) (owner : ℕ) : GraphM PUnit := do
  let rt ← get
  (List.range rt.sockets.entries.length).forM (cleanupSlot submit owner)

def createSocket (submit : Submit) (owner : ℕ) (m : IpcMessage) : GraphM (Except Errno ℕ) := do
  let reply ← runCall submit (.socket m.a m.b m.c)
  match reply.result with
  | .error e => return .error e
  | .ok fd =>
    modify fun rt => { rt with sockets := assignOwner rt.sockets fd owner }
    return .ok fd

def dispatchSocket (submit : Submit) (owner : ℕ) (m out : IpcMessage) (op : IpcOperation) : GraphM IpcMessage := do
  let rt ← get
  match socketLookup rt.sockets m.fd with
  | none => return { out with result := -Errno.ebadf.code }
  | some (_, s) =>
    if !s.isOpen ∨ s.owner ≠ owner then return { out with result := -Errno.ebadf.code }
    else if (op = .sendmmsg ∨ op = .recvmmsg) ∧ s.type ≠ .dgram then return { out with result := -Errno.eopnotsupp.code }
    else dispatchOperation submit m out op

def dispatchMessage (submit : Submit) (owner : ℕ) (m : IpcMessage) : GraphM IpcMessage := do
  let out : IpcMessage := { op := m.op, id := m.id, fd := m.fd, result := -Errno.eopnotsupp.code }
  if owner = 0 then return { out with result := -Errno.einval.code }
  else if ipcOperation m.op = some .cleanup then
    cleanup submit owner
    return { out with result := 0 }
  else if !ipcRequestValid m then return { out with result := -Errno.einval.code }
  else
    match ipcOperation m.op with
    | none => return out
    | some .socket =>
      let r ← createSocket submit owner m
      return { out with result := resultCode r }
    | some op => dispatchSocket submit owner m out op

def daemonDispatch (submit : Submit) (request : DaemonItem) : GraphM DaemonItem := do
  let out ← dispatchMessage submit request.owner request.message
  return ⟨request.owner, out⟩

end PulsarNetstack
