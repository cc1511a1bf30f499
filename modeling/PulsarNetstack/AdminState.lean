import PulsarNetstack.Routing

namespace PulsarNetstack

inductive AdminGroup
  | status | stats | link | addr | route | rule | neigh | acl | app | socket | monitor
  deriving DecidableEq, Repr

inductive AdminVerb
  | show | add | replace | del | flush | get | set | apply | default
  deriving DecidableEq, Repr

structure AdminFields where
  pref : Word := 0
  src : Word := 0
  srcPrefix : Word := 0
  dst : Word := 0
  dstPrefix : Word := 0
  proto : Word := 0
  sportMin : Word := 0
  sportMax : Word := 0
  dportMin : Word := 0
  dportMax : Word := 0
  ports : Word := 0
  action : Word := 0
  table : Word := 0
  gateway : Word := 0
  ip : Word := 0
  prefixLen : Word := 0

structure AdminAcl where
  rule : NetAcl
  dev : String

structure AdminRequest where
  group : AdminGroup
  verb : AdminVerb
  v : AdminFields := {}
  dev : String := ""
  acls : List AdminAcl := []

structure AdminLink where
  name : String
  started : Bool
  adminDown : Bool

structure AdminView where
  config : NetConfig
  links : List AdminLink

def adminDevice (view : AdminView) (name : String) : Except Errno ℕ :=
  match view.links.findIdx? fun link => link.name == name with
  | some i => .ok i
  | none => .error .enodev

def namedDevice (view : AdminView) (name : String) : Except Errno (Option ℕ) :=
  if name = "" then .ok none else (adminDevice view name).map some

def iifOf (dev : Option ℕ) : Word := (dev.map (BitVec.ofNat 32)).getD netIifNone

def mutateAddresses (c : NetConfig) (r : AdminRequest) (dev : Option ℕ) : Except Errno NetConfig :=
  match dev with
  | none => .error .enodev
  | some dev =>
    let dev : Word := BitVec.ofNat 32 dev
    let i := c.addresses.findIdx fun a => a.ip == r.v.ip && a.dev == dev
    let new : NetAddress := { ip := r.v.ip, prefixLen := r.v.prefixLen, dev := dev }
    match r.verb with
    | .flush => netConnectedRebuild { c with addresses := c.addresses.filter fun a => a.dev != dev }
    | .del =>
      if c.addresses[i]?.all fun a => a.prefixLen != r.v.prefixLen then .error .enoent
      else netConnectedRebuild { c with addresses := c.addresses.eraseIdx i }
    | .add | .replace =>
      if i < c.addresses.length ∧ r.verb = .add then .error .eexist
      else if i < c.addresses.length then netConnectedRebuild { c with addresses := c.addresses.set i new }
      else if i = netAddrMax then .error .enospc
      else netConnectedRebuild { c with addresses := c.addresses ++ [new] }
    | _ => .error .eopnotsupp

def linkReady (view : AdminView) (dev : Option ℕ) : Bool :=
  (dev.bind fun i => view.links[i]?).any fun link => !link.adminDown && link.started

def mutateRoutes (view : AdminView) (r : AdminRequest) (dev : Option ℕ) : Except Errno NetConfig :=
  let c := view.config
  if r.v.table = 0 ∨ r.v.table = netTableLocal then .error .eperm
  else
    let i := c.routes.findIdx fun p => p.table == r.v.table && p.ip == r.v.ip && p.prefixLen == r.v.prefixLen
    let new : NetRoute := { ip := r.v.ip, prefixLen := r.v.prefixLen, gateway := r.v.gateway
                            dev := BitVec.ofNat 32 (dev.getD 0), table := r.v.table, type := r.v.action }
    match r.verb with
    | .flush => .ok { c with routes := c.routes.filter fun p => p.table != r.v.table || p.connected != 0 }
    | .del =>
      match c.routes[i]? with
      | none => .error .enoent
      | some p => if p.connected ≠ 0 then .error .eperm else .ok { c with routes := c.routes.eraseIdx i }
    | .add | .replace =>
      if c.routes[i]?.any fun p => decide (r.verb = .add) || p.connected != 0 then .error .eexist
      else if r.v.action = 0 ∧ !linkReady view dev then .error .enetdown
      else if i < c.routes.length then .ok { c with routes := c.routes.set i new }
      else if i = netRouteMax then .error .enospc
      else .ok { c with routes := c.routes ++ [new] }
    | _ => .error .eopnotsupp

def sortRules (rules : List NetRule) : List NetRule := rules.mergeSort fun a b => decide (a.pref ≤ b.pref)

def mutateRules (c : NetConfig) (r : AdminRequest) (dev : Option ℕ) : Except Errno NetConfig :=
  let i := c.rules.findIdx fun p => p.pref == r.v.pref
  match r.verb with
  | .flush => .ok { c with rules := [] }
  | .del => if i = c.rules.length then .error .enoent else .ok { c with rules := c.rules.eraseIdx i }
  | .add =>
    if i < c.rules.length then .error .eexist
    else if i = netRuleMax then .error .enospc
    else
      let new : NetRule := { pref := r.v.pref, src := r.v.src, srcPrefix := r.v.srcPrefix, dst := r.v.dst
                             dstPrefix := r.v.dstPrefix, iif := iifOf dev, table := r.v.table, type := r.v.action }
      .ok { c with rules := sortRules (c.rules ++ [new]) }
  | _ => .error .eopnotsupp

def sortAcls (acls : List NetAcl) : List NetAcl := acls.mergeSort fun a b => decide (a.pref ≤ b.pref)

def requestAcls (view : AdminView) : List AdminAcl → Except Errno (List NetAcl)
  | [] => .ok []
  | a :: acls => do
    let dev ← namedDevice view a.dev
    let rest ← requestAcls view acls
    return { a.rule with iif := iifOf dev } :: rest

def mutateAcls (view : AdminView) (r : AdminRequest) (dev : Option ℕ) : Except Errno NetConfig :=
  let c := view.config
  let i := c.acls.findIdx fun p => p.pref == r.v.pref
  match r.verb with
  | .flush => .ok { c with acls := [] }
  | .default => .ok { c with defaultDrop := r.v.action }
  | .apply =>
    if netAclMax < r.acls.length then .error .enospc
    else do
      let acls ← requestAcls view r.acls
      return { c with acls := sortAcls acls, defaultDrop := r.v.action }
  | .del => if i = c.acls.length then .error .enoent else .ok { c with acls := c.acls.eraseIdx i }
  | .add =>
    if i < c.acls.length then .error .eexist
    else if i = netAclMax then .error .enospc
    else
      let new : NetAcl := { pref := r.v.pref, src := r.v.src, srcPrefix := r.v.srcPrefix, dst := r.v.dst
                            dstPrefix := r.v.dstPrefix, iif := iifOf dev, proto := r.v.proto, sportMin := r.v.sportMin
                            sportMax := r.v.sportMax, dportMin := r.v.dportMin, dportMax := r.v.dportMax
                            ports := r.v.ports, drop := r.v.action }
      .ok { c with acls := sortAcls (c.acls ++ [new]) }
  | _ => .error .eopnotsupp

def editConfig (view : AdminView) (r : AdminRequest) : Except Errno NetConfig := do
  let dev ← namedDevice view r.dev
  match r.group with
  | .addr => mutateAddresses view.config r dev
  | .route => mutateRoutes view r dev
  | .rule => mutateRules view.config r dev
  | .acl => mutateAcls view r dev
  | _ => .error .eopnotsupp

def adminMutate (view : AdminView) (r : AdminRequest) : Except Errno NetConfig := do
  let c ← editConfig view r
  if c.generation = 18446744073709551615 then .error .eoverflow
  else netConfigPrepare { c with generation := c.generation + 1 } view.links.length

def initialConfig (rt : Routing) : NetConfig where
  generation := 1
  addresses := rt.ports.map fun p => { ip := p.ip, prefixLen := BitVec.ofNat 32 p.prefixLen, dev := BitVec.ofNat 32 p.id }
  routes := (rt.routes.drop rt.ports.length).map fun r =>
    { ip := r.network, prefixLen := BitVec.ofNat 32 r.prefixLen, gateway := r.gateway
      dev := BitVec.ofNat 32 r.netifId, table := netTableMain }

def netConfigInit (rt : Routing) : Except Errno NetConfig := do
  let c ← netConnectedRebuild (initialConfig rt)
  netConfigPrepare c rt.ports.length

def publish (c : NetConfig) (links : List AdminLink) (r : AdminRequest) : NetConfig :=
  match adminMutate ⟨c, links⟩ r with
  | .ok c' => c'
  | .error _ => c

end PulsarNetstack
