import PulsarNetstack.NetPrefix

namespace PulsarNetstack

def netAddrMax : ℕ := 64
def netRouteMax : ℕ := 256
def netRuleMax : ℕ := 64
def netAclMax : ℕ := 128

def netTableLocal : Word := 255
def netTableMain : Word := 254
def netTableDefault : Word := 253
def netIifNone : Word := 0xffffffff

def netUnicastAction : Word := 0
def netBlackhole : Word := 1
def netUnreachable : Word := 2
def netProhibit : Word := 3

structure NetAddress where
  ip : Word
  prefixLen : Word
  dev : Word
  deriving DecidableEq, Repr

structure NetRoute where
  ip : Word
  prefixLen : Word
  gateway : Word := 0
  dev : Word
  table : Word
  type : Word := 0
  connected : Word := 0
  deriving DecidableEq, Repr

structure NetRule where
  pref : Word
  src : Word
  srcPrefix : Word
  dst : Word
  dstPrefix : Word
  iif : Word
  table : Word
  type : Word
  deriving DecidableEq, Repr

structure NetRouteIndex where
  table : Word
  ip : Word
  mask : Word
  route : ℕ
  prefixLen : ℕ
  deriving DecidableEq, Repr

structure NetAcl where
  pref : Word
  src : Word
  srcPrefix : Word
  dst : Word
  dstPrefix : Word
  iif : Word
  proto : Word
  sportMin : Word
  sportMax : Word
  dportMin : Word
  dportMax : Word
  ports : Word
  drop : Word
  deriving DecidableEq, Repr

structure NetConfig where
  generation : ℕ := 0
  defaultDrop : Word := 0
  addresses : List NetAddress := []
  routes : List NetRoute := []
  routesIndexed : Bool := false
  routeIndex : List NetRouteIndex := []
  rules : List NetRule := []
  acls : List NetAcl := []
  deriving DecidableEq, Repr

def NetAddress.network (a : NetAddress) : Word := a.ip &&& netMask a.prefixLen

def connectedRoute (a : NetAddress) : NetRoute :=
  { ip := a.network, prefixLen := a.prefixLen, dev := a.dev, table := netTableMain, connected := 1 }

def isConnectedOf (a : NetAddress) (r : NetRoute) : Bool :=
  r.table == netTableMain && r.ip == a.network && r.prefixLen == a.prefixLen && r.dev == a.dev && r.connected != 0

def addConnected : List NetRoute → List NetAddress → Except Errno (List NetRoute)
  | routes, [] => .ok routes
  | routes, a :: addresses =>
    if routes.any (isConnectedOf a) then addConnected routes addresses
    else if routes.length = netRouteMax then .error .enospc
    else addConnected (routes ++ [connectedRoute a]) addresses

def netConnectedRebuild (c : NetConfig) : Except Errno NetConfig :=
  if netAddrMax < c.addresses.length ∨ netRouteMax < c.routes.length then .error .einval
  else if c.addresses.any fun a => decide (32 < a.prefixLen) then .error .einval
  else do
    let routes ← addConnected (c.routes.filter fun r => r.connected == 0) c.addresses
    return { c with routesIndexed := false, routes := routes }

def validateEach {α : Type} (check : List α → α → Except Errno Unit) : List α → List α → Except Errno Unit
  | _, [] => .ok ()
  | before, a :: rest => do
    check before a
    validateEach check (before ++ [a]) rest

def validateAddress (ports : ℕ) (before : List NetAddress) (a : NetAddress) : Except Errno Unit :=
  if ports ≤ a.dev.toNat ∨ 32 < a.prefixLen ∨ !netUnicast a.ip ∨ !netHost a.ip a.prefixLen then .error .einval
  else if before.any fun b => b.ip == a.ip then .error .eexist
  else .ok ()

def routeClash (r p : NetRoute) : Bool :=
  r.table == p.table && r.ip == p.ip && r.prefixLen == p.prefixLen &&
    !(r.connected != 0 && p.connected != 0 && r.dev != p.dev)

def gatewayRefused (gateway : Word) (a : NetAddress) : Bool :=
  a.ip == gateway || netMatch gateway a.network a.prefixLen && !netHost gateway a.prefixLen

def onLinkAddress (r : NetRoute) (a : NetAddress) : Bool :=
  a.dev == r.dev && netMatch r.gateway a.network a.prefixLen && netHost r.gateway a.prefixLen

def onLinkRoute (r p : NetRoute) : Bool :=
  p.table == r.table && p.dev == r.dev && p.type == netUnicastAction && p.gateway == 0 &&
    netMatch r.gateway p.ip p.prefixLen && netHost r.gateway p.prefixLen

def validateRoute (c : NetConfig) (ports : ℕ) (before : List NetRoute) (r : NetRoute) : Except Errno Unit :=
  if !netPrefixValid r.ip r.prefixLen ∨ r.table = 0 ∨ r.table = netTableLocal ∨ netProhibit < r.type ∨
      1 < r.connected ∨ (r.type = netUnicastAction ∧ ports ≤ r.dev.toNat) ∨ (r.type ≠ 0 ∧ r.gateway ≠ 0) then
    .error .einval
  else if before.any (routeClash r) then .error .eexist
  else if r.gateway = 0 then .ok ()
  else if !netUnicast r.gateway then .error .einval
  else if c.addresses.any (gatewayRefused r.gateway) then .error .einval
  else if c.addresses.any (onLinkAddress r) || c.routes.any (onLinkRoute r) then .ok ()
  else .error .enetunreach

def validateRule (ports : ℕ) (before : List NetRule) (r : NetRule) : Except Errno Unit :=
  if r.pref = 0 ∨ 32766 ≤ r.pref ∨ !netPrefixValid r.src r.srcPrefix ∨ !netPrefixValid r.dst r.dstPrefix ∨
      (r.iif ≠ netIifNone ∧ ports ≤ r.iif.toNat) ∨ netProhibit < r.type ∨
      (r.type = 0 ∧ (r.table = 0 ∨ r.table = netTableLocal)) ∨ (before.getLast?.any fun p => decide (r.pref ≤ p.pref)) then
    .error .einval
  else .ok ()

def validateAcl (ports : ℕ) (before : List NetAcl) (a : NetAcl) : Except Errno Unit :=
  if !netPrefixValid a.src a.srcPrefix ∨ !netPrefixValid a.dst a.dstPrefix ∨
      (a.iif ≠ netIifNone ∧ ports ≤ a.iif.toNat) ∨ 255 < a.proto ∨ 1 < a.drop ∨ 3 < a.ports ∨
      (a.ports ≠ 0 ∧ a.proto ≠ 6 ∧ a.proto ≠ 17) ∨ a.sportMax < a.sportMin ∨ a.dportMax < a.dportMin ∨
      65535 < a.sportMax ∨ 65535 < a.dportMax ∨ (before.getLast?.any fun p => decide (a.pref ≤ p.pref)) then
    .error .einval
  else .ok ()

def netConfigValidate (c : NetConfig) (ports : ℕ) : Except Errno Unit :=
  if netAddrMax < c.addresses.length ∨ netRouteMax < c.routes.length ∨ netRuleMax < c.rules.length ∨
      netAclMax < c.acls.length ∨ 1 < c.defaultDrop then .error .einval
  else do
    validateEach (validateAddress ports) [] c.addresses
    validateEach (validateRoute c ports) [] c.routes
    validateEach (validateRule ports) [] c.rules
    validateEach (validateAcl ports) [] c.acls

/-- `route_order` as the order that it defines: by table, the longest prefix first, then by position. -/
def routeOrder (a b : NetRouteIndex) : Bool :=
  if a.table ≠ b.table then decide (a.table < b.table)
  else if a.prefixLen ≠ b.prefixLen then decide (b.prefixLen < a.prefixLen)
  else decide (a.route ≤ b.route)

def routeIndexEntry (r : NetRoute) (i : ℕ) : NetRouteIndex :=
  { table := r.table, ip := r.ip, mask := netMask r.prefixLen, route := i % 65536, prefixLen := r.prefixLen.toNat % 256 }

def routeIndexEntries (routes : List NetRoute) : List NetRouteIndex :=
  routes.zipIdx.map fun p => routeIndexEntry p.1 p.2

def buildRouteIndex (routes : List NetRoute) : List NetRouteIndex := (routeIndexEntries routes).mergeSort routeOrder

def netConfigPrepare (c : NetConfig) (ports : ℕ) : Except Errno NetConfig :=
  let c := { c with routesIndexed := false }
  do
    netConfigValidate c ports
    if c.routes.length ≤ 2 then return c
    else return { c with routeIndex := buildRouteIndex c.routes, routesIndexed := true }

end PulsarNetstack
