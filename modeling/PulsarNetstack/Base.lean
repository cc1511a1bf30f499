import Mathlib.Data.BitVec
import Mathlib.Data.List.Basic

namespace PulsarNetstack

abbrev Byte := BitVec 8
abbrev Word16 := BitVec 16
abbrev Word := BitVec 32

inductive Errno
  | eacces | eaddrinuse | eaddrnotavail | eafnosupport | eagain | ealready | ebadf | ebusy
  | econnaborted | econnrefused | econnreset | eexist | einprogress | einval | eio | eisconn
  | emfile | emsgsize | enetdown | enetunreach | enobufs | enodev | enoent | enomem | enospc | estale
  | enotconn | eopnotsupp | eoverflow | eperm | eproto | eprotonosupport | eprototype | etimedout
  deriving DecidableEq, Repr

inductive DropReason
  | none | portBinding | truncatedEth | unsupportedEthertype | invalidArp | invalidIpv4
  | ipv4Fragment | notLocal | ipv4Options | invalidIcmp | unsupportedIcmp | unsupportedProtocol
  | graphFull | txFailed | mtu | noTailroom | noncontiguous | invalidSource | neighbourNotFound
  | invalidDestination | invalidUdp | udpBadLength | udpBadChecksum | udpUnboundPort
  | udpRxQueueFull | mbufAllocationFailed | noHeadroom | noRoute | invalidEgress
  | forwardingDisabled | neighbourQueueFull | neighbourPendingFull | neighbourResolutionTimeout
  | neighbourCancelled | ttlExpired | invalidTcp | tcpBadChecksum | tcpInvalidState | tcpNoSocket
  | tcpBacklogFull | tcpOutOfOrder | routeBlackhole | routeUnreachable | routeProhibit | acl
  deriving DecidableEq, Repr

structure SockAddr where
  ip : Word := 0
  port : Word16 := 0
  deriving DecidableEq, Repr

structure RouteResult where
  netifId : ℕ := 0
  mtu : ℕ := 0
  nextHop : Word := 0
  sourceIp : Word := 0
  table : Word := 0
  rulePref : Word := 0
  type : Word := 0
  isLocal : Bool := false
  deriving DecidableEq, Repr

def ipv4RouteErrno : DropReason → Errno
  | .routeProhibit => .eacces
  | .routeBlackhole => .einval
  | _ => .enetunreach

def add16 (a b : ℕ) : ℕ := (a + b) % 65536

def sub16 (a b : ℕ) : ℕ := (a + 65536 - b % 65536) % 65536

def add64 (a b : ℕ) : ℕ := (a + b) % 18446744073709551616

theorem add16_eq {a b : ℕ} (h : a + b < 65536) : add16 a b = a + b := Nat.mod_eq_of_lt h

theorem sub16_eq {a b : ℕ} (hb : b ≤ a) (ha : a < 65536) : sub16 a b = a - b := by
  unfold sub16
  omega

theorem add64_eq {a b : ℕ} (h : a + b < 18446744073709551616) : add64 a b = a + b :=
  Nat.mod_eq_of_lt h

end PulsarNetstack
