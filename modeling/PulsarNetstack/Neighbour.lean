import PulsarNetstack.LinearProbing
import PulsarNetstack.Routing

namespace PulsarNetstack

def neighbourCapacity : ℕ := 64

instance : NeZero neighbourCapacity := ⟨by decide⟩

structure NeighbourEntry where
  ip : Word := 0
  netifId : Word16 := 0
  mac : Mac := 0
  inUse : Bool := false
  permanent : Bool := false
  deriving DecidableEq, Repr

abbrev NeighbourKey := Word16 × Word

abbrev NeighbourTable := Fin neighbourCapacity → NeighbourEntry

def neighbourHash (x : Word) : Word :=
  let x := x ^^^ (x >>> 16)
  let x := x * 0x7feb352d
  let x := x ^^^ (x >>> 15)
  let x := x * 0x846ca68b
  x ^^^ (x >>> 16)

def neighbourHome (key : NeighbourKey) : Fin neighbourCapacity :=
  ⟨(neighbourHash (key.2 ^^^ key.1.setWidth 32)).toNat % neighbourCapacity, Nat.mod_lt _ (by decide)⟩

def neighbourScheme : LinearProbing.Scheme neighbourCapacity NeighbourEntry NeighbourKey where
  used := NeighbourEntry.inUse
  key e := (e.netifId, e.ip)
  home := neighbourHome
  empty := {}
  used_empty := rfl

def emptyNeighbours : NeighbourTable := fun _ => {}

def findSlot (t : NeighbourTable) (dev : Word16) (ip : Word) : Option (Fin neighbourCapacity) :=
  neighbourScheme.probe t (dev, ip)

def neighbourLearn (t : NeighbourTable) (dev : Word16) (ip : Word) (mac : Mac) : NeighbourTable × Except Errno Unit :=
  if ip = 0 ∨ !validAssignedEtherAddr mac then (t, .error .einval)
  else
    match findSlot t dev ip with
    | none => (t, .error .enospc)
    | some j =>
      if !(t j).inUse then (Function.update t j { ip := ip, netifId := dev, mac := mac, inUse := true }, .ok ())
      else if !(t j).permanent then (Function.update t j { t j with mac := mac }, .ok ())
      else (t, .ok ())

def lookupLoop (t : NeighbourTable) (dev : Word16) (ip : Word) : List (Fin neighbourCapacity) → Option Mac
  | [] => none
  | j :: rest =>
    if !(t j).inUse then none
    else if (t j).ip == ip && (t j).netifId == dev then some (t j).mac
    else lookupLoop t dev ip rest

def neighbourLookup (t : NeighbourTable) (dev : Word16) (ip : Word) : Except Errno Mac :=
  match lookupLoop t dev ip (neighbourScheme.sequence (dev, ip)) with
  | some mac => .ok mac
  | none => .error .enoent

/-- `neighbour_set` on the table. Its last call, `neighbour_update`, comes down to `neighbour_learn` there. -/
def neighbourSet (rt : Routing) (t : NeighbourTable) (dev : Word16) (ip : Word) (mac : Mac) (replace : Bool) :
    NeighbourTable × Except Errno Unit :=
  if (netifById rt dev.toNat).isNone ∨ !ipv4DestinationValid rt ip ∨ !validAssignedEtherAddr mac then (t, .error .einval)
  else
    match findSlot t dev ip with
    | none => (t, .error .enospc)
    | some j =>
      if (t j).inUse && !replace then (t, .error .eexist)
      else
        let t := Function.update t j { ip := ip, netifId := dev, mac := mac, inUse := true, permanent := true }
        neighbourLearn t dev ip mac

def neighbourDelete (t : NeighbourTable) (dev : Word16) (ip : Word) : NeighbourTable × Except Errno Unit :=
  match findSlot t dev ip with
  | none => (t, .error .enoent)
  | some j => if !(t j).inUse then (t, .error .enoent) else (neighbourScheme.erase t j, .ok ())

def flushLoop (dev : Word16) : ℕ → NeighbourTable → ℕ → Option (NeighbourTable × Except Errno Unit)
  | 0, _, _ => none
  | fuel + 1, t, i =>
    if h : i < neighbourCapacity then
      if (t ⟨i, h⟩).inUse && (t ⟨i, h⟩).netifId == dev then
        match neighbourDelete t dev (t ⟨i, h⟩).ip with
        | (t', .ok _) => flushLoop dev fuel t' i
        | (t', .error e) => some (t', .error e)
      else flushLoop dev fuel t (i + 1)
    else some (t, .ok ())

def flushFuel : ℕ := 2 * neighbourCapacity + 1

def neighbourFlush (t : NeighbourTable) (dev : Word16) : Option (NeighbourTable × Except Errno Unit) :=
  flushLoop dev flushFuel t 0

inductive NeighbourOp
  | learn (dev : Word16) (ip : Word) (mac : Mac)
  | set (rt : Routing) (dev : Word16) (ip : Word) (mac : Mac) (replace : Bool)
  | delete (dev : Word16) (ip : Word)
  | flush (dev : Word16)

def neighbourStep (t : NeighbourTable) : NeighbourOp → Option (NeighbourTable × Except Errno Unit)
  | .learn dev ip mac => some (neighbourLearn t dev ip mac)
  | .set rt dev ip mac replace => some (neighbourSet rt t dev ip mac replace)
  | .delete dev ip => some (neighbourDelete t dev ip)
  | .flush dev => neighbourFlush t dev

def neighbourRun : NeighbourTable → List NeighbourOp → Option (NeighbourTable × List (Except Errno Unit))
  | t, [] => some (t, [])
  | t, op :: ops => do
    let (t, result) ← neighbourStep t op
    let (t, results) ← neighbourRun t ops
    return (t, result :: results)

end PulsarNetstack
