import PulsarNetstack.IndexedLists
import PulsarNetstack.NetConfig

namespace PulsarNetstack

abbrev Mac := BitVec 48

def validAssignedEtherAddr (mac : Mac) : Bool := !mac.getLsbD 40 && mac != 0

def netifMax : ℕ := 8

structure PortState where
  id : ℕ
  portId : ℕ
  mtu : ℕ
  ip : Word := 0
  prefixLen : ℕ := 0
  configured : Bool := false
  started : Bool := false
  mac : Mac := 0
  adminDown : Bool := false
  deriving DecidableEq, Repr

structure RouteEntry where
  network : Word
  gateway : Word
  netifId : ℕ
  prefixLen : ℕ
  deriving DecidableEq, Repr

structure Routing where
  ports : List PortState := []
  routes : List RouteEntry := []
  network : Option NetConfig := none

def PortState.up (p : PortState) : Bool := p.started && !p.adminDown

variable (rt : Routing)

def netifByDpdkPort (id : ℕ) : Option PortState := rt.ports.find? fun p => p.configured && p.portId == id

def netifById (id : ℕ) : Option PortState :=
  let id := id % 65536
  match rt.ports[id]? with
  | some p =>
    if p.configured && p.id == id then some p else rt.ports.find? fun p => p.configured && p.id == id
  | none => rt.ports.find? fun p => p.configured && p.id == id

def netAddressOn (dev : Word) (ip : Word) : Bool :=
  match rt.network with
  | none => (netifById rt dev.toNat).any fun p => p.ip == ip
  | some c => c.addresses.any fun a => a.dev == dev && a.ip == ip

def netifIsLocalIp (ip : Word) : Bool :=
  match rt.network with
  | some c => c.addresses.any fun a => a.ip == ip && (netifById rt a.dev.toNat).isSome
  | none => rt.ports.any fun p => p.configured && netAddressOn rt (BitVec.ofNat 32 p.id) ip

def netSourceStep (dev dst : Word) (best : Word × Word × Word) (a : NetAddress) : Word × Word × Word :=
  if a.dev ≠ dev then best
  else
    let first := if best.1 = 0 then a.ip else best.1
    if netMatch dst a.network a.prefixLen ∧ (best.2.1 = 0 ∨ best.2.2 < a.prefixLen) then (first, a.ip, a.prefixLen)
    else (first, best.2)

def netSource (dev dst : Word) : Word :=
  match rt.network with
  | none => ((netifById rt dev.toNat).map PortState.ip).getD 0
  | some c =>
    let best := c.addresses.foldl (netSourceStep dev dst) (0, 0, 0)
    if best.2.1 ≠ 0 then best.2.1 else best.1

def routeIsDirect (routes : List RouteEntry) (id : ℕ) (ip : Word) : Bool :=
  netUnicast ip && routes.any fun r =>
    r.netifId == id % 65536 && r.gateway == 0 && ip &&& htonl (prefixMask r.prefixLen) == r.network &&
      subnetHost r.network r.prefixLen ip

def netDirect (dev : Word) (ip : Word) : Bool :=
  match rt.network with
  | none => routeIsDirect rt.routes dev.toNat ip
  | some c => netUnicast ip && c.routes.any fun r =>
      r.dev == dev && r.type == 0 && r.gateway == 0 && netMatch ip r.ip r.prefixLen && netHost ip r.prefixLen

def ipv4DestinationValid (ip : Word) : Bool :=
  netUnicast ip && !netifIsLocalIp rt ip &&
    match rt.network with
    | some c => c.addresses.all fun a => subnetHost a.ip a.prefixLen.toNat ip
    | none => rt.ports.all fun p => !p.configured || subnetHost p.ip p.prefixLen ip

theorem ipv4DestinationValid_ne_zero {ip : Word} (h : ipv4DestinationValid rt ip = true) : ip ≠ 0 := by
  apply netUnicast_ne_zero
  simp only [ipv4DestinationValid, Bool.and_eq_true] at h
  exact h.1.1

def routeEntryStep (dst : Word) (best : Option RouteEntry) (r : RouteEntry) : Option RouteEntry :=
  if dst &&& htonl (prefixMask r.prefixLen) = r.network ∧ best.all fun b => decide (b.prefixLen < r.prefixLen) then some r
  else best

/-- `ipv4_route_lookup` without a network configuration; `out` is the value of `*result` before the call. -/
def ipv4RouteLookupEntries (dst : Word) (out : RouteResult) : DropReason × RouteResult :=
  if !ipv4DestinationValid rt dst then (.invalidDestination, out)
  else
    match rt.routes.foldl (routeEntryStep dst) none with
    | none => (.noRoute, out)
    | some best =>
      match netifById rt best.netifId with
      | none => (.invalidEgress, out)
      | some port =>
        if !port.up then (.invalidEgress, out)
        else
          let nextHop := if best.gateway ≠ 0 then best.gateway else dst
          if best.gateway = 0 ∧ !subnetHost best.network best.prefixLen dst then (.invalidDestination, out)
          else if best.gateway ≠ 0 ∧
              (!ipv4DestinationValid rt nextHop ∨ !routeIsDirect rt.routes best.netifId nextHop) then (.invalidEgress, out)
          else (.none, { netifId := port.id, mtu := port.mtu, sourceIp := port.ip, nextHop := nextHop })

def routeAction (type : Word) : DropReason :=
  if type = netBlackhole then .routeBlackhole
  else if type = netUnreachable then .routeUnreachable
  else if type = netProhibit then .routeProhibit
  else .none

def routeUsable (r : NetRoute) : Bool := r.type != 0 || (netifById rt r.dev.toNat).any PortState.up

def tableBegin (index : List NetRouteIndex) (table : Word) (count : ℕ) : ℕ :=
  index.lowerBound (fun i => decide (i.table < table)) (count + 1) 0 count

def indexedScan (routes : List NetRoute) (dst table : Word) : List NetRouteIndex → Option NetRoute
  | [] => none
  | i :: rest =>
    if i.table ≠ table then none
    else if dst &&& i.mask ≠ i.ip then indexedScan routes dst table rest
    else
      match routes[i.route]? with
      | none => none
      | some r => if routeUsable rt r then some r else indexedScan routes dst table rest

def linearStep (dst table : Word) (best : Option NetRoute) (r : NetRoute) : Option NetRoute :=
  if r.table ≠ table ∨ !netMatch dst r.ip r.prefixLen ∨ (best.any fun b => decide (r.prefixLen ≤ b.prefixLen)) then best
  else if routeUsable rt r then some r
  else best

def tableBest (c : NetConfig) (dst table : Word) : Option NetRoute :=
  if c.routesIndexed then
    indexedScan rt c.routes dst table
      ((c.routeIndex.take c.routes.length).drop (tableBegin c.routeIndex table c.routes.length))
  else c.routes.foldl (linearStep rt dst table) none

def routeOutcome (dst src table pref : Word) (best : NetRoute) : DropReason × RouteResult :=
  let nextHop := if best.gateway ≠ 0 then best.gateway else dst
  let out : RouteResult :=
    { table := table, rulePref := pref, type := best.type, netifId := best.dev.toNat % 65536, nextHop := nextHop }
  if best.type ≠ 0 then (routeAction best.type, out)
  else if best.gateway = 0 ∧ !netHost dst best.prefixLen then (.invalidDestination, out)
  else
    match netifById rt best.dev.toNat with
    | none => (.invalidEgress, out)
    | some p =>
      let source := if src ≠ 0 then src else netSource rt (BitVec.ofNat 32 p.id) nextHop
      (if source ≠ 0 then .none else .invalidEgress, { out with mtu := p.mtu, sourceIp := source })

def tableLookup (c : NetConfig) (dst src table pref : Word) (out : RouteResult) : DropReason × RouteResult :=
  match tableBest rt c dst table with
  | none => (.noRoute, out)
  | some best => routeOutcome rt dst src table pref best

def ruleMatches (r : NetRule) (dst src iif : Word) : Bool :=
  netMatch src r.src r.srcPrefix && netMatch dst r.dst r.dstPrefix && (r.iif == netIifNone || r.iif == iif)

def ruleLookup (c : NetConfig) (dst src iif : Word) : List NetRule → RouteResult → DropReason × RouteResult
  | [], out =>
    let main := tableLookup rt c dst src netTableMain 32766 out
    if main.1 ≠ .noRoute then main else tableLookup rt c dst src netTableDefault 32767 main.2
  | r :: rules, out =>
    if !ruleMatches r dst src iif then ruleLookup c dst src iif rules out
    else if r.type ≠ 0 then (routeAction r.type, { rulePref := r.pref, type := r.type })
    else
      let found := tableLookup rt c dst src r.table r.pref out
      if found.1 ≠ .noRoute then found else ruleLookup c dst src iif rules found.2

def localResult (c : NetConfig) (dst : Word) : Option RouteResult :=
  (c.addresses.find? fun a => dst == a.ip).map fun a =>
    { table := netTableLocal, netifId := a.dev.toNat % 65536, sourceIp := dst, nextHop := dst,
      mtu := (rt.ports[a.dev.toNat]?.map PortState.mtu).getD 0, isLocal := true }

def policyRouteQuery (c : NetConfig) (dst src iif : Word) (out : RouteResult) : DropReason × RouteResult :=
  match localResult rt c dst with
  | some r => (.none, r)
  | none =>
    if !ipv4DestinationValid rt dst then (.invalidDestination, out) else ruleLookup rt c dst src iif c.rules out

def ipv4RouteLookup (dst : Word) (out : RouteResult) : DropReason × RouteResult :=
  match rt.network with
  | none => ipv4RouteLookupEntries rt dst out
  | some c => policyRouteQuery rt c dst 0 netIifNone out

def ipv4RouteQuery (dst src iif : Word) (out : RouteResult) : DropReason × RouteResult :=
  match rt.network with
  | none => ipv4RouteLookupEntries rt dst out
  | some c => policyRouteQuery rt c dst src iif out

end PulsarNetstack
