import PulsarNetstack.AdminState

namespace PulsarNetstack

def routeCapacity : ℕ := 32

inductive AppPmd
  | tap | afpkt | phys
  deriving DecidableEq, Repr

structure NetifConfig where
  pmd : AppPmd := .tap
  device : List Char := []
  ip : Word := 0
  prefixLen : ℕ := 0
  deriving DecidableEq, Repr

structure RouteConfig where
  network : Word := 0
  gateway : Word := 0
  prefixLen : ℕ := 0
  device : List Char := []
  deriving DecidableEq, Repr

structure AppConfig where
  lcore : ℕ := 0
  interfaces : List NetifConfig := []
  noHuge : ℕ := 0
  ipv4Forwarding : ℕ := 0
  routes : List RouteConfig := []
  deriving DecidableEq, Repr

def routeAddGateway (table : List RouteEntry) (network : Word) (length id : ℕ) (gateway : Word) :
    Except Errno (List RouteEntry) :=
  if 32 < length then .error .einval
  else if table.length = routeCapacity then .error .enospc
  else .ok (table ++ [{ network := network &&& htonl (prefixMask length), prefixLen := length, netifId := id
                        gateway := gateway }])

def routeAdd (table : List RouteEntry) (network : Word) (length id : ℕ) : Except Errno (List RouteEntry) :=
  routeAddGateway table network length id 0

def addInterfaces (table : List RouteEntry) : List (NetifConfig × ℕ) → Except Errno (List RouteEntry)
  | [] => .ok table
  | (netif, i) :: interfaces => do
    let table ← routeAdd table netif.ip netif.prefixLen i
    addInterfaces table interfaces

def addRoutes (interfaces : List NetifConfig) (table : List RouteEntry) :
    List RouteConfig → Except Errno (List RouteEntry)
  | [] => .ok table
  | route :: routes =>
    match interfaces.findIdx? fun netif => netif.device == route.device with
    | none => .error .enodev
    | some id => do
      let table ← routeAddGateway table route.network route.prefixLen id route.gateway
      addRoutes interfaces table routes

def gatewayValid (interfaces : List NetifConfig) (table : List RouteEntry) (route : RouteEntry) : Bool :=
  route.gateway == 0 || routeIsDirect table route.netifId route.gateway && interfaces.all fun netif =>
    route.gateway != netif.ip && subnetHost netif.ip netif.prefixLen route.gateway

def routeConfigInit (conf : AppConfig) : Except Errno (List RouteEntry) :=
  if conf.interfaces.length = 0 ∨ netifMax < conf.interfaces.length ∨ routeCapacity < conf.routes.length ∨
      1 < conf.ipv4Forwarding then .error .einval
  else do
    let table ← addInterfaces [] conf.interfaces.zipIdx
    let table ← addRoutes conf.interfaces table conf.routes
    if table.all (gatewayValid conf.interfaces table) then .ok table else .error .einval

def isSpace (c : Char) : Bool := c == ' ' || decide (9 ≤ c.toNat ∧ c.toNat ≤ 13)

def trim (s : List Char) : List Char := ((s.dropWhile isSpace).reverse.dropWhile isSpace).reverse

def cut (c : Char) (s : List Char) : Option (List Char × List Char) :=
  match s.dropWhile fun d => d != c with
  | [] => none
  | _ :: rest => some (s.takeWhile fun d => d != c, rest)

def number (s : List Char) (max : ℕ) : Option ℕ :=
  if s = [] ∨ !s.all Char.isDigit then none
  else
    let n := s.foldl (fun n c => 10 * n + (c.toNat - 48)) 0
    if n ≤ max then some n else none

def octet (s : List Char) : Option ℕ := if 1 < s.length ∧ s.head? = some '0' then none else number s 255

def inetPton (s : List Char) : Option Word :=
  match (s.splitOn '.').mapM octet with
  | some [a, b, c, d] => some (BitVec.ofNat 32 (a + 256 * (b + 256 * (c + 256 * d))))
  | _ => none

def parsePrefix (s : List Char) : Option (Word × ℕ) :=
  match cut '/' s with
  | none => none
  | some (ip, length) => do
    let length ← number length 32
    let ip ← inetPton ip
    return (ip, length)

def parseCidr (s : List Char) : Option (Word × ℕ) := do
  let (ip, length) ← parsePrefix s
  let host := htonl ip
  let mask := prefixMask length
  if host >>> 24 = 0 ∨ host >>> 24 = 127 ∨ 0xe0000000 ≤ host ∨
      (length ≤ 30 ∧ (host &&& ~~~ mask = 0 ∨ host &&& ~~~ mask = ~~~ mask)) then none
  else return (ip, length)

inductive ConfigKey
  | lcore | pmd | device | ip | noHuge | ipv4Forwarding
  deriving DecidableEq, Repr

def configKey (s : List Char) : Option ConfigKey :=
  if s = "lcore".toList then some .lcore
  else if s = "pmd".toList then some .pmd
  else if s = "device".toList then some .device
  else if s = "ip".toList then some .ip
  else if s = "no_huge".toList then some .noHuge
  else if s = "ipv4_forwarding".toList then some .ipv4Forwarding
  else none

def ConfigKey.isGlobal : ConfigKey → Bool
  | .lcore | .noHuge | .ipv4Forwarding => true
  | _ => false

inductive RouteKey
  | network | device | gateway
  deriving DecidableEq, Repr

def routeKey (s : List Char) : Option RouteKey :=
  if s = "prefix".toList then some .network
  else if s = "device".toList then some .device
  else if s = "gateway".toList then some .gateway
  else none

/-- The variables of `app_config_load`. Each section is kept with its keys; the first interface is there from the
start, because a file without interface sections describes it. -/
structure Loader where
  lcore : ℕ := 0
  noHuge : ℕ := 0
  ipv4Forwarding : ℕ := 0
  globalSeen : List ConfigKey := []
  interfaces : List (NetifConfig × List ConfigKey) := [({}, [])]
  routes : List (RouteConfig × List RouteKey) := []
  sectioned : Bool := false
  inRoute : Bool := false

def openInterface (l : Loader) : Except String Loader :=
  if !l.sectioned ∧ l.interfaces.any fun p => !p.2.isEmpty then .error "cannot mix legacy and interface sections"
  else if l.sectioned ∧ l.interfaces.length = netifMax then .error "too many interfaces"
  else .ok { l with interfaces := if l.sectioned then l.interfaces ++ [({}, [])] else l.interfaces
                    sectioned := true, inRoute := false }

def openRoute (l : Loader) : Except String Loader :=
  if l.routes.length = routeCapacity then .error "too many routes"
  else .ok { l with routes := l.routes ++ [({}, [])], inRoute := true }

def setRouteKey (route : RouteConfig) (key : RouteKey) (value : List Char) : Option RouteConfig :=
  match key with
  | .network => (parsePrefix value).map fun p =>
      { route with network := p.1 &&& htonl (prefixMask p.2), prefixLen := p.2 }
  | .device => if value = [] ∨ 64 ≤ value.length then none else some { route with device := value }
  | .gateway =>
    match inetPton value with
    | none => none
    | some gateway => if gateway = 0 then none else some { route with gateway := gateway }

def setNetifKey (netif : NetifConfig) (key : ConfigKey) (value : List Char) : Option NetifConfig :=
  match key with
  | .pmd =>
    if value = "tap".toList then some { netif with pmd := .tap }
    else if value = "af_packet".toList then some { netif with pmd := .afpkt }
    else if value = "physical".toList then some { netif with pmd := .phys }
    else none
  | .device =>
    if value = [] ∨ 64 ≤ value.length ∨ !value.all (fun c => c.isAlphanum || "_.:-".toList.contains c) then none
    else some { netif with device := value }
  | .ip => (parseCidr value).map fun p => { netif with ip := p.1, prefixLen := p.2 }
  | _ => some netif

def setGlobalKey (l : Loader) (key : ConfigKey) (value : List Char) : Option Loader :=
  match key with
  | .lcore => (number value 1023).map fun n => { l with lcore := n }
  | .noHuge => (number value 1).map fun n => { l with noHuge := n }
  | .ipv4Forwarding => (number value 1).map fun n => { l with ipv4Forwarding := n }
  | _ => some l

def assignRoute (l : Loader) (key value : List Char) : Except String Loader :=
  match routeKey key with
  | none => .error "unknown route key"
  | some bit =>
    match l.routes.getLast? with
    | none => .ok l
    | some (route, seen) =>
      if bit ∈ seen then .error "duplicate route key"
      else
        match setRouteKey route bit value with
        | none => .error "invalid value"
        | some route => .ok { l with routes := l.routes.dropLast ++ [(route, bit :: seen)] }

def assignKey (l : Loader) (key value : List Char) : Except String Loader :=
  match configKey key with
  | none => .error "unknown key"
  | some k =>
    if l.sectioned ∧ k.isGlobal then .error "global keys must precede sections"
    else if k.isGlobal then
      if k ∈ l.globalSeen then .error "duplicate key"
      else
        match setGlobalKey l k value with
        | none => .error "invalid value"
        | some l => .ok { l with globalSeen := k :: l.globalSeen }
    else
      match l.interfaces.getLast? with
      | none => .ok l
      | some (netif, seen) =>
        if k ∈ seen then .error "duplicate key"
        else
          match setNetifKey netif k value with
          | none => .error "invalid value"
          | some netif => .ok { l with interfaces := l.interfaces.dropLast ++ [(netif, k :: seen)] }

def loadLine (l : Loader) (line : List Char) (eof : Bool) : Except String Loader :=
  -- The buffer is read as a string, which ends at its first zero byte.
  let line := line.takeWhile fun c => c.toNat != 0
  if '\n' ∉ line ∧ !eof then .error "line too long"
  else
    let key := trim line
    if key = [] ∨ key.head? = some '#' then .ok l
    else if key = "[interface]".toList then openInterface l
    else if key = "[route]".toList then openRoute l
    else
      match cut '=' key with
      | none => .error "expected key=value"
      | some (key, value) =>
        if l.inRoute then assignRoute l (trim key) (trim value) else assignKey l (trim key) (trim value)

/-- What the calls of `fgets` with a buffer of 256 bytes return, and whether each one met the end of the file; `line`
holds what the current call has read, the last byte first. -/
def fgetsLines (line : List Char) : List Char → List (List Char × Bool)
  | [] => if line = [] then [] else [(line.reverse, true)]
  | c :: file =>
    if c = '\n' ∨ line.length = 254 then ((c :: line).reverse, false) :: fgetsLines [] file
    else fgetsLines (c :: line) file

structure LoadError where
  line : ℕ
  why : String
  deriving DecidableEq, Repr

def loadLines (n : ℕ) (l : Loader) : List (List Char × Bool) → Except LoadError (ℕ × Loader)
  | [] => .ok (n, l)
  | (line, eof) :: lines =>
    match loadLine l line eof with
    | .error why => .error ⟨n + 1, why⟩
    | .ok l => loadLines (n + 1) l lines

def checkNetif (noHuge : ℕ) (before : List NetifConfig) (netif : NetifConfig) (seen : List ConfigKey) : Except String Unit :=
  if .pmd ∉ seen ∨ .device ∉ seen ∨ .ip ∉ seen then .error "pmd, device and ip are required per interface"
  else if netif.pmd ≠ .phys ∧ 16 ≤ netif.device.length then .error "interface name must be shorter than 16 bytes"
  else if netif.pmd = .phys ∧ noHuge ≠ 0 then .error "no_huge is only supported with virtual PMDs"
  else
    match before.find? fun other => netif.device == other.device || netif.ip == other.ip with
    | none => .ok ()
    | some other => .error (if netif.device = other.device then "duplicate device" else "duplicate local IP")

def checkNetifs (noHuge : ℕ) (before : List NetifConfig) : List (NetifConfig × List ConfigKey) → Except String Unit
  | [] => .ok ()
  | (netif, seen) :: rest => do
    checkNetif noHuge before netif seen
    checkNetifs noHuge (before ++ [netif]) rest

def routeWhy : Errno → String
  | .enospc => "too many connected and static routes"
  | .enodev => "unknown route device"
  | _ => "invalid or unreachable gateway"

def finishLoad (l : Loader) : Except String AppConfig := do
  checkNetifs l.noHuge [] l.interfaces
  if l.routes.any fun p => !(p.2.contains .network && p.2.contains .device) then
    .error "prefix and device are required per route"
  else
    let conf : AppConfig :=
      { lcore := l.lcore, interfaces := l.interfaces.map Prod.fst, noHuge := l.noHuge
        ipv4Forwarding := l.ipv4Forwarding, routes := l.routes.map Prod.fst }
    match routeConfigInit conf with
    | .error e => .error (routeWhy e)
    | .ok _ => .ok conf

def appConfigLoad (file : List Char) : Except LoadError AppConfig :=
  match loadLines 0 {} (fgetsLines [] file) with
  | .error e => .error e
  | .ok (n, l) =>
    match finishLoad l with
    | .error why => .error ⟨n, why⟩
    | .ok conf => .ok conf

structure PortDevice where
  portId : ℕ
  mac : Mac
  mtu : ℕ
  ifrMtu : ℕ := 0

def afPacketMtu (ifrMtu mtu : ℕ) : Option ℕ :=
  if ifrMtu < 68 then none else some (if ifrMtu < mtu then ifrMtu else mtu)

def portMtu (netif : NetifConfig) (device : PortDevice) : Option ℕ :=
  if netif.pmd = .afpkt then afPacketMtu device.ifrMtu device.mtu else some device.mtu

def configurePort (ports : List PortState) (index : ℕ) (netif : NetifConfig) (device : Option PortDevice) :
    Option PortState := do
  let device ← device
  if ports.any fun p => p.portId == device.portId then none
  else
    let mtu ← portMtu netif device
    if !validAssignedEtherAddr device.mac ∨ 1500 < mtu then none
    else return { id := index, portId := device.portId, mtu := mtu, ip := netif.ip, prefixLen := netif.prefixLen
                  configured := true, started := true, mac := device.mac }

def configurePorts (devices : ℕ → Option PortDevice) (ports : List PortState) : List (NetifConfig × ℕ) →
    Option (List PortState)
  | [] => some ports
  | (netif, index) :: interfaces => do
    let port ← configurePort ports index netif (devices index)
    configurePorts devices (ports ++ [port]) interfaces

def portInit (conf : AppConfig) (devices : ℕ → Option PortDevice) : Option Routing :=
  if conf.interfaces.length = 0 ∨ netifMax < conf.interfaces.length then none
  else do
    let ports ← configurePorts devices [] conf.interfaces.zipIdx
    match routeConfigInit conf with
    | .error _ => none
    | .ok routes => some { ports := ports, routes := routes }

end PulsarNetstack
