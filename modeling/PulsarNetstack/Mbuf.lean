import PulsarNetstack.Routing

namespace PulsarNetstack

/-- What an mbuf holds. `data` is its first segment, `chainLen` the length of the segments after it. -/
structure Buffer where
  headroom : ℕ
  data : List Byte
  tailroom : ℕ
  segments : ℕ := 1
  chainLen : ℕ := 0
  direct : Bool := true
  refcnt : ℕ := 1
  deriving DecidableEq, Repr

structure Mbuf where
  id : ℕ
  buffer : Buffer
  deriving DecidableEq, Repr

namespace Buffer

def pktLen (b : Buffer) : ℕ := b.data.length + b.chainLen

def isContiguous (b : Buffer) : Bool := b.segments == 1

def prepend (b : Buffer) (bytes : List Byte) : Option Buffer :=
  if b.headroom < bytes.length then none
  else some { b with headroom := b.headroom - bytes.length, data := bytes ++ b.data }

def append (b : Buffer) (bytes : List Byte) : Option Buffer :=
  if b.tailroom < bytes.length then none
  else some { b with tailroom := b.tailroom - bytes.length, data := b.data ++ bytes }

def adj (b : Buffer) (length : ℕ) : Buffer :=
  if b.data.length < length then b else { b with headroom := b.headroom + length, data := b.data.drop length }

def trim (b : Buffer) (length : ℕ) : Buffer :=
  if b.data.length < length then b
  else { b with tailroom := b.tailroom + length, data := b.data.take (b.data.length - length) }

end Buffer

def freshBuffer : Buffer := { headroom := 128, data := [], tailroom := 2048 }

def byteAt (data : List Byte) (i : ℕ) : Byte := data.getD i 0

def be16 (data : List Byte) (i : ℕ) : ℕ := (byteAt data i).toNat * 256 + (byteAt data (i + 1)).toNat

def be32 (data : List Byte) (i : ℕ) : ℕ := be16 data i * 65536 + be16 data (i + 2)

def wordAt (data : List Byte) (i : ℕ) : Word :=
  byteAt data (i + 3) ++ byteAt data (i + 2) ++ byteAt data (i + 1) ++ byteAt data i

def macAt (data : List Byte) (i : ℕ) : Mac :=
  byteAt data i ++ byteAt data (i + 1) ++ byteAt data (i + 2) ++ byteAt data (i + 3) ++ byteAt data (i + 4) ++
    byteAt data (i + 5)

def be16Bytes (n : ℕ) : List Byte := [BitVec.ofNat 8 (n / 256), BitVec.ofNat 8 n]

def be32Bytes (w : Word) : List Byte :=
  [w.extractLsb' 24 8, w.extractLsb' 16 8, w.extractLsb' 8 8, w.extractLsb' 0 8]

def wordBytes (w : Word) : List Byte :=
  [w.extractLsb' 0 8, w.extractLsb' 8 8, w.extractLsb' 16 8, w.extractLsb' 24 8]

def macBytes (mac : Mac) : List Byte :=
  [mac.extractLsb' 40 8, mac.extractLsb' 32 8, mac.extractLsb' 24 8, mac.extractLsb' 16 8, mac.extractLsb' 8 8,
    mac.extractLsb' 0 8]

def cksumBytes (n : ℕ) : List Byte := [BitVec.ofNat 8 n, BitVec.ofNat 8 (n / 256)]

def putBytes (data : List Byte) (i : ℕ) (bytes : List Byte) : List Byte :=
  data.take i ++ bytes ++ data.drop (i + bytes.length)

def cksumSum : List Byte → ℕ
  | [] => 0
  | [a] => a.toNat
  | a :: b :: rest => a.toNat + b.toNat * 256 + cksumSum rest

def cksumFold (sum : ℕ) : ℕ := sum / 65536 + sum % 65536

def rawCksum (bytes : List Byte) : ℕ := cksumFold (cksumFold (cksumSum bytes)) % 65536

def ipv4Cksum (bytes : List Byte) : ℕ := 65535 - rawCksum (bytes.take ((byteAt bytes 0).toNat % 16 * 4))

def phdrCksum (src dst : Word) (proto : Byte) (length : ℕ) : ℕ :=
  rawCksum (wordBytes src ++ wordBytes dst ++ [0, proto] ++ be16Bytes length)

def udptcpSum (src dst : Word) (proto : Byte) (l4 : List Byte) : ℕ :=
  cksumFold (rawCksum l4 + phdrCksum src dst proto l4.length) % 65536

/-- `rte_ipv4_udptcp_cksum` on a header whose length field covers `l4`; a zero is sent as all ones for UDP. -/
def udptcpCksum (src dst : Word) (proto : Byte) (l4 : List Byte) : ℕ :=
  let sum := 65535 - udptcpSum src dst proto l4
  if sum = 0 ∧ proto = 17 then 65535 else sum

end PulsarNetstack
