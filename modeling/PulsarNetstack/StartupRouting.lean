import PulsarNetstack.AppConfig
import PulsarNetstack.AdminSnapshots

namespace PulsarNetstack

variable {conf : AppConfig} {table table' : List RouteEntry} {l l' : Loader}

def destination (network : Word) (length : ℕ) : Word × ℕ := (network &&& htonl (prefixMask length), length)

def RoutesDistinct (conf : AppConfig) : Prop :=
  (conf.routes.Pairwise fun r p => destination r.network r.prefixLen ≠ destination p.network p.prefixLen) ∧
    ∀ r ∈ conf.routes, ∀ netif ∈ conf.interfaces,
      destination r.network r.prefixLen ≠ destination netif.ip netif.prefixLen

instance : Decidable (RoutesDistinct conf) := inferInstanceAs (Decidable (_ ∧ _))

section RouteTable

def connectedEntry (p : NetifConfig × ℕ) : RouteEntry :=
  { network := p.1.ip &&& htonl (prefixMask p.1.prefixLen), gateway := 0, netifId := p.2, prefixLen := p.1.prefixLen }

structure StaticEntry (interfaces : List NetifConfig) (r : RouteConfig) (e : RouteEntry) : Prop where
  network : e.network = r.network &&& htonl (prefixMask r.prefixLen)
  prefixLen : e.prefixLen = r.prefixLen
  prefixLen_le : e.prefixLen ≤ 32
  gateway : e.gateway = r.gateway
  netifId : e.netifId < interfaces.length

theorem routeAddGateway_eq_ok {network gateway : Word} {length id : ℕ}
    (h : routeAddGateway table network length id gateway = .ok table') :
    length ≤ 32 ∧ table' = table ++ [{ network := network &&& htonl (prefixMask length), prefixLen := length
                                       netifId := id, gateway := gateway }] := by
  rw [routeAddGateway, if_error_eq_ok, if_error_eq_ok] at h
  exact ⟨not_lt.mp h.1, (Except.ok.inj h.2.2).symm⟩

theorem addInterfaces_eq_ok {interfaces : List (NetifConfig × ℕ)} (h : addInterfaces table interfaces = .ok table') :
    table' = table ++ interfaces.map connectedEntry ∧ ∀ p ∈ interfaces, p.1.prefixLen ≤ 32 := by
  induction interfaces generalizing table with
  | nil =>
    rw [List.map_nil, List.append_nil, Except.ok.inj h]
    exact ⟨rfl, List.forall_mem_nil _⟩
  | cons p interfaces ih =>
    rw [addInterfaces, except_bind_eq_ok] at h
    obtain ⟨table₁, hadd, h⟩ := h
    obtain ⟨hlen, rfl⟩ := routeAddGateway_eq_ok hadd
    obtain ⟨htable, hrest⟩ := ih h
    refine ⟨?_, List.forall_mem_cons.mpr ⟨hlen, hrest⟩⟩
    rw [htable, List.append_assoc]
    rfl

theorem addRoutes_eq_ok {interfaces : List NetifConfig} {routes : List RouteConfig}
    (h : addRoutes interfaces table routes = .ok table') :
    ∃ entries, table' = table ++ entries ∧ List.Forall₂ (StaticEntry interfaces) routes entries := by
  induction routes generalizing table with
  | nil => exact ⟨[], by rw [List.append_nil, Except.ok.inj h], .nil⟩
  | cons r routes ih =>
    rw [addRoutes] at h
    split at h
    · cases h
    · rename_i id hid
      rw [except_bind_eq_ok] at h
      obtain ⟨table₁, hadd, h⟩ := h
      obtain ⟨hlen, rfl⟩ := routeAddGateway_eq_ok hadd
      obtain ⟨entries, rfl, hentries⟩ := ih h
      refine ⟨_ :: entries, List.append_assoc .., .cons ⟨rfl, rfl, hlen, rfl, ?_⟩ hentries⟩
      exact (List.findIdx?_eq_some_iff_findIdx_eq.mp hid).1

structure RouteTable (conf : AppConfig) (table entries : List RouteEntry) : Prop where
  interfaces_length : conf.interfaces.length ≤ netifMax
  routes_length : conf.routes.length ≤ routeCapacity
  table_eq : table = conf.interfaces.zipIdx.map connectedEntry ++ entries
  interfaces : ∀ netif ∈ conf.interfaces, netif.prefixLen ≤ 32
  entries : List.Forall₂ (StaticEntry conf.interfaces) conf.routes entries
  gateways : ∀ e ∈ table, gatewayValid conf.interfaces table e = true

theorem routeConfigInit_eq_ok (h : routeConfigInit conf = .ok table) : ∃ entries, RouteTable conf table entries := by
  rw [routeConfigInit, if_error_eq_ok, except_bind_eq_ok] at h
  obtain ⟨hsize, table₁, hinterfaces, h⟩ := h
  rw [except_bind_eq_ok] at h
  obtain ⟨table₂, hroutes, h⟩ := h
  obtain ⟨rfl, hlen⟩ := addInterfaces_eq_ok hinterfaces
  obtain ⟨entries, rfl, hentries⟩ := addRoutes_eq_ok hroutes
  split at h
  · rename_i hgateways
    obtain rfl := Except.ok.inj h
    simp only [not_or, not_lt] at hsize
    refine ⟨entries, hsize.2.1, hsize.2.2.1, rfl, ?_, hentries, List.all_eq_true.mp hgateways⟩
    intro netif hmem
    obtain ⟨i, hi⟩ := List.mem_iff_getElem?.mp hmem
    exact hlen (netif, i) (List.mem_zipIdx_iff_getElem?.mpr hi)
  · cases h

end RouteTable

section Loading

def HostAddress (netif : NetifConfig) : Prop :=
  netUnicast netif.ip = true ∧ netHost netif.ip (BitVec.ofNat 32 netif.prefixLen) = true

theorem ofNat_toNat_of_le {n : ℕ} (h : n ≤ 32) : (BitVec.ofNat 32 n).toNat = n := by
  rw [BitVec.toNat_ofNat]
  exact Nat.mod_eq_of_lt (by omega)

theorem netMask_ofNat {n : ℕ} (h : n ≤ 32) : netMask (BitVec.ofNat 32 n) = htonl (prefixMask n) := by
  rw [netMask, ofNat_toNat_of_le h]

theorem netHost_ofNat_iff {ip : Word} {n : ℕ} (h : n ≤ 32) : netHost ip (BitVec.ofNat 32 n) = true ↔
    31 ≤ n ∨ htonl ip &&& ~~~ prefixMask n ≠ 0 ∧ htonl ip &&& ~~~ prefixMask n ≠ ~~~ prefixMask n := by
  have h32 : ¬ (32 : Word) < BitVec.ofNat 32 n := by
    rw [BitVec.lt_def, ofNat_toNat_of_le h]
    exact not_lt.mpr h
  have h31 : (31 : Word) ≤ BitVec.ofNat 32 n ↔ 31 ≤ n := by
    rw [BitVec.le_def, ofNat_toNat_of_le h]
    rfl
  have hzero : ip &&& ~~~ htonl (prefixMask n) = 0 ↔ htonl ip &&& ~~~ prefixMask n = 0 := by
    rw [← htonl_not, and_htonl_eq_iff, htonl_zero]
  have hones : ip &&& ~~~ htonl (prefixMask n) = ~~~ htonl (prefixMask n) ↔
      htonl ip &&& ~~~ prefixMask n = ~~~ prefixMask n := by
    rw [← htonl_not, and_htonl_eq_iff, htonl_htonl]
  simp only [netHost, if_neg h32, netMask_ofNat h, Bool.or_eq_true, Bool.and_eq_true, decide_eq_true_eq, bne_iff_ne, ne_eq,
    h31, hzero, hones]

theorem number_le {s : List Char} {max n : ℕ} (h : number s max = some n) : n ≤ max := by
  rw [number] at h
  split at h
  · cases h
  · dsimp only at h
    split at h
    · rename_i hle
      exact Option.some.inj h ▸ hle
    · cases h

theorem parsePrefix_le {s : List Char} {p : Word × ℕ} (h : parsePrefix s = some p) : p.2 ≤ 32 := by
  rw [parsePrefix] at h
  split at h
  · cases h
  · simp only [Option.bind_eq_bind, Option.bind_eq_some_iff] at h
    obtain ⟨n, hn, ip, -, h⟩ := h
    rw [← Option.some.inj h]
    exact number_le hn

theorem parseCidr_hostAddress {s : List Char} {p : Word × ℕ} (h : parseCidr s = some p) :
    netUnicast p.1 = true ∧ netHost p.1 (BitVec.ofNat 32 p.2) = true := by
  simp only [parseCidr, Option.bind_eq_bind, Option.bind_eq_some_iff] at h
  obtain ⟨⟨ip, length⟩, hprefix, h⟩ := h
  split at h
  · cases h
  · rename_i hrefused
    obtain rfl := Option.some.inj h
    simp only [not_or, BitVec.not_le] at hrefused
    obtain ⟨hzero, hloop, hmulticast, hhost⟩ := hrefused
    constructor
    · simp only [netUnicast, Bool.and_eq_true, bne_iff_ne, decide_eq_true_eq]
      exact ⟨⟨hzero, hloop⟩, hmulticast⟩
    · rw [netHost_ofNat_iff (parsePrefix_le hprefix)]
      by_cases h31 : 31 ≤ length
      · exact .inl h31
      · exact .inr (not_or.mp fun hn => hhost ⟨by omega, hn⟩)

def Addressed (interfaces : List (NetifConfig × List ConfigKey)) : Prop :=
  ∀ p ∈ interfaces, .ip ∈ p.2 → HostAddress p.1

theorem Addressed.concat {interfaces : List (NetifConfig × List ConfigKey)} {p : NetifConfig × List ConfigKey}
    (h : Addressed interfaces) (hp : .ip ∈ p.2 → HostAddress p.1) : Addressed (interfaces ++ [p]) := by
  intro q hq
  rcases List.mem_append.mp hq with hq | hq
  · exact h q hq
  · rw [List.mem_singleton.mp hq]
    exact hp

theorem setNetifKey_hostAddress {netif netif' : NetifConfig} {key : ConfigKey} {value : List Char} {seen : List ConfigKey}
    (h : .ip ∈ seen → HostAddress netif) (hset : setNetifKey netif key value = some netif') :
    .ip ∈ key :: seen → HostAddress netif' := by
  -- Every other key leaves the address and its prefix as they are.
  have hkeep (hne : ConfigKey.ip ≠ key) (hip : netif'.ip = netif.ip) (hlen : netif'.prefixLen = netif.prefixLen)
      (hmem : .ip ∈ key :: seen) : HostAddress netif' := by
    rw [HostAddress, hip, hlen]
    exact h ((List.mem_cons.mp hmem).resolve_left hne)
  cases key with
  | ip =>
    intro _
    obtain ⟨p, hp, rfl⟩ := Option.map_eq_some_iff.mp hset
    exact parseCidr_hostAddress hp
  | pmd =>
    rw [setNetifKey] at hset
    split_ifs at hset <;> obtain rfl := Option.some.inj hset <;> exact hkeep nofun rfl rfl
  | device =>
    rw [setNetifKey] at hset
    split_ifs at hset
    obtain rfl := Option.some.inj hset
    exact hkeep nofun rfl rfl
  | lcore | noHuge | ipv4Forwarding =>
    obtain rfl := Option.some.inj hset
    exact hkeep nofun rfl rfl

theorem setGlobalKey_interfaces {key : ConfigKey} {value : List Char} (h : setGlobalKey l key value = some l') :
    l'.interfaces = l.interfaces := by
  cases key with
  | lcore | noHuge | ipv4Forwarding =>
    obtain ⟨n, -, rfl⟩ := Option.map_eq_some_iff.mp h
    rfl
  | pmd | device | ip => rw [Option.some.inj h]

theorem assignKey_addressed {key value : List Char} (h : Addressed l.interfaces) (hok : assignKey l key value = .ok l') :
    Addressed l'.interfaces := by
  rw [assignKey] at hok
  split at hok
  · cases hok
  · rename_i k _
    rw [if_error_eq_ok] at hok
    replace hok := hok.2
    split at hok
    · rw [if_error_eq_ok] at hok
      replace hok := hok.2
      split at hok
      · cases hok
      · rename_i l₁ hset
        obtain rfl := Except.ok.inj hok
        change Addressed l₁.interfaces
        rw [setGlobalKey_interfaces hset]
        exact h
    · split at hok
      · rw [← Except.ok.inj hok]
        exact h
      · rename_i netif seen hlast
        rw [if_error_eq_ok] at hok
        replace hok := hok.2
        split at hok
        · cases hok
        · rename_i netif' hset
          obtain rfl := Except.ok.inj hok
          apply Addressed.concat
          · intro p hp
            exact h p (List.mem_of_mem_dropLast hp)
          · exact setNetifKey_hostAddress (h _ (List.mem_of_getLast? hlast)) hset

theorem loadLine_addressed {line : List Char} {eof : Bool} (h : Addressed l.interfaces)
    (hok : loadLine l line eof = .ok l') : Addressed l'.interfaces := by
  rw [loadLine] at hok
  dsimp only at hok
  rw [if_error_eq_ok] at hok
  replace hok := hok.2
  split at hok
  · rw [← Except.ok.inj hok]
    exact h
  split at hok
  · rw [openInterface, if_error_eq_ok, if_error_eq_ok] at hok
    obtain rfl := Except.ok.inj hok.2.2
    dsimp only
    split
    · exact h.concat (fun hm => absurd hm List.not_mem_nil)
    · exact h
  split at hok
  · rw [openRoute, if_error_eq_ok] at hok
    obtain rfl := Except.ok.inj hok.2
    exact h
  split at hok
  · cases hok
  · rename_i key value _
    split at hok
    · rw [assignRoute] at hok
      split at hok
      · cases hok
      · split at hok
        · rw [← Except.ok.inj hok]
          exact h
        · rw [if_error_eq_ok] at hok
          replace hok := hok.2
          split at hok
          · cases hok
          · obtain rfl := Except.ok.inj hok
            exact h
    · exact assignKey_addressed h hok

theorem loadLines_addressed {n m : ℕ} {lines : List (List Char × Bool)} (h : Addressed l.interfaces)
    (hok : loadLines n l lines = .ok (m, l')) : Addressed l'.interfaces := by
  induction lines generalizing n l with
  | nil =>
    obtain ⟨rfl, rfl⟩ := Prod.mk.inj (Except.ok.inj hok)
    exact h
  | cons line lines ih =>
    rw [loadLines] at hok
    split at hok
    · cases hok
    · rename_i l₁ hline
      exact ih (loadLine_addressed h hline) hok

theorem checkNetif_eq_ok {noHuge : ℕ} {before : List NetifConfig} {netif : NetifConfig} {seen : List ConfigKey}
    (h : checkNetif noHuge before netif seen = .ok ()) : .ip ∈ seen ∧ ∀ other ∈ before, netif.ip ≠ other.ip := by
  rw [checkNetif, if_error_eq_ok, if_error_eq_ok, if_error_eq_ok] at h
  obtain ⟨hseen, -, -, h⟩ := h
  simp only [not_or, not_not] at hseen
  refine ⟨hseen.2.2, ?_⟩
  intro other hother hip
  split at h
  · rename_i hfind
    have := List.find?_eq_none.mp hfind other hother
    rw [hip] at this
    simp at this
  · cases h

theorem checkNetifs_eq_ok {noHuge : ℕ} {before : List NetifConfig} {interfaces : List (NetifConfig × List ConfigKey)}
    (h : checkNetifs noHuge before interfaces = .ok ()) : (∀ p ∈ interfaces, .ip ∈ p.2) ∧
      (∀ p ∈ interfaces, ∀ other ∈ before, other.ip ≠ p.1.ip) ∧
      (interfaces.map Prod.fst).Pairwise fun a b => a.ip ≠ b.ip := by
  induction interfaces generalizing before with
  | nil => exact ⟨List.forall_mem_nil _, List.forall_mem_nil _, .nil⟩
  | cons p interfaces ih =>
    rw [checkNetifs, except_bind_eq_ok] at h
    obtain ⟨⟨⟩, hcheck, h⟩ := h
    obtain ⟨hip, hbefore⟩ := checkNetif_eq_ok hcheck
    obtain ⟨hseen, hother, hpair⟩ := ih h
    refine ⟨List.forall_mem_cons.mpr ⟨hip, hseen⟩, List.forall_mem_cons.mpr ⟨?_, ?_⟩, List.pairwise_cons.mpr ⟨?_, hpair⟩⟩
    · exact fun other ho => (hbefore other ho).symm
    · exact fun q hq other ho => hother q hq other (List.mem_append_left _ ho)
    · rintro netif hmem
      obtain ⟨q, hq, rfl⟩ := List.mem_map.mp hmem
      exact hother q hq p.1 (List.mem_append_right _ (List.mem_singleton_self _))

structure Loaded (conf : AppConfig) : Prop where
  addresses : ∀ netif ∈ conf.interfaces, HostAddress netif
  distinct : conf.interfaces.Pairwise fun a b => a.ip ≠ b.ip

theorem appConfigLoad_loaded {file : List Char} (h : appConfigLoad file = .ok conf) : Loaded conf := by
  rw [appConfigLoad] at h
  split at h
  · cases h
  · rename_i n l hlines
    have hstart : Addressed ({} : Loader).interfaces := by
      intro p hp hip
      rw [List.mem_singleton.mp hp] at hip
      cases hip
    have haddressed := loadLines_addressed hstart hlines
    split at h
    · cases h
    · rename_i conf' hfinish
      obtain rfl := Except.ok.inj h
      rw [finishLoad, except_bind_eq_ok] at hfinish
      obtain ⟨⟨⟩, hcheck, hfinish⟩ := hfinish
      rw [if_error_eq_ok] at hfinish
      obtain ⟨hseen, -, hdistinct⟩ := checkNetifs_eq_ok hcheck
      replace hfinish := hfinish.2
      dsimp only at hfinish
      split at hfinish
      · cases hfinish
      · obtain rfl := Except.ok.inj hfinish
        refine ⟨?_, hdistinct⟩
        intro netif hmem
        obtain ⟨p, hp, rfl⟩ := List.mem_map.mp hmem
        exact haddressed p hp (hseen p hp)

end Loading

section Startup

variable {devices : ℕ → Option PortDevice} {rt : Routing} {entries : List RouteEntry} {ports ports' : List PortState}

structure Ready (q : NetifConfig × ℕ) (p : PortState) : Prop where
  id : p.id = q.2
  ip : p.ip = q.1.ip
  prefixLen : p.prefixLen = q.1.prefixLen
  configured : p.configured = true
  up : p.up = true

theorem configurePort_ready {index : ℕ} {netif : NetifConfig} {device : Option PortDevice} {p : PortState}
    (h : configurePort ports index netif device = some p) : Ready (netif, index) p := by
  simp only [configurePort, Option.bind_eq_bind, Option.bind_eq_some_iff] at h
  obtain ⟨device, -, h⟩ := h
  split at h
  · cases h
  · obtain ⟨mtu, -, h⟩ := Option.bind_eq_some_iff.mp h
    split at h
    · cases h
    · obtain rfl := Option.some.inj h
      exact ⟨rfl, rfl, rfl, rfl, rfl⟩

theorem configurePorts_ready {interfaces : List (NetifConfig × ℕ)}
    (h : configurePorts devices ports interfaces = some ports') :
    ∃ new, ports' = ports ++ new ∧ List.Forall₂ Ready interfaces new := by
  induction interfaces generalizing ports with
  | nil => exact ⟨[], by rw [List.append_nil, Option.some.inj h], .nil⟩
  | cons q interfaces ih =>
    simp only [configurePorts, Option.bind_eq_bind, Option.bind_eq_some_iff] at h
    obtain ⟨p, hp, h⟩ := h
    obtain ⟨new, rfl, hnew⟩ := ih h
    exact ⟨p :: new, by rw [List.append_assoc, List.singleton_append], .cons (configurePort_ready hp) hnew⟩

structure Startup (conf : AppConfig) (rt : Routing) (entries : List RouteEntry) : Prop where
  ports : List.Forall₂ Ready conf.interfaces.zipIdx rt.ports
  routes : RouteTable conf rt.routes entries
  network : rt.network = none

theorem portInit_startup (h : portInit conf devices = some rt) : ∃ entries, Startup conf rt entries := by
  rw [portInit] at h
  split at h
  · cases h
  · simp only [Option.bind_eq_bind, Option.bind_eq_some_iff] at h
    obtain ⟨ports, hports, h⟩ := h
    obtain ⟨new, rfl, hready⟩ := configurePorts_ready hports
    split at h
    · cases h
    · rename_i routes hroutes
      obtain rfl := Option.some.inj h
      obtain ⟨entries, htable⟩ := routeConfigInit_eq_ok hroutes
      exact ⟨entries, hready, htable, rfl⟩

theorem Startup.ports_length (h : Startup conf rt entries) : rt.ports.length = conf.interfaces.length := by
  rw [← h.ports.length_eq, List.length_zipIdx]

def startupAddress (q : NetifConfig × ℕ) : NetAddress :=
  { ip := q.1.ip, prefixLen := BitVec.ofNat 32 q.1.prefixLen, dev := BitVec.ofNat 32 q.2 }

def startupRoute (e : RouteEntry) : NetRoute :=
  { ip := e.network, prefixLen := BitVec.ofNat 32 e.prefixLen, gateway := e.gateway, dev := BitVec.ofNat 32 e.netifId
    table := netTableMain }

/-- The first snapshot, before it is validated: the entries of the routes come before those of the interfaces. -/
def startupConfig (conf : AppConfig) (entries : List RouteEntry) : NetConfig where
  generation := 1
  addresses := conf.interfaces.zipIdx.map startupAddress
  routes := entries.map startupRoute ++ conf.interfaces.zipIdx.map fun q => connectedRoute (startupAddress q)

theorem initialConfig_eq (h : Startup conf rt entries) :
    initialConfig rt = { startupConfig conf entries with routes := entries.map startupRoute } := by
  have haddresses : conf.interfaces.zipIdx.map startupAddress =
      rt.ports.map fun p => ⟨p.ip, BitVec.ofNat 32 p.prefixLen, BitVec.ofNat 32 p.id⟩ := by
    rw [← List.forall₂_eq_eq_eq, List.forall₂_map_left_iff, List.forall₂_map_right_iff]
    apply h.ports.imp
    intro q p hready
    rw [startupAddress, hready.ip, hready.prefixLen, hready.id]
  have hroutes : rt.routes.drop rt.ports.length = entries := by
    rw [h.routes.table_eq, List.drop_left' (by rw [List.length_map, h.ports.length_eq])]
  rw [startupConfig, haddresses, initialConfig, hroutes]
  rfl

theorem addConnected_eq_ok {addresses : List NetAddress} {routes : List NetRoute}
    (hnew : ∀ r ∈ routes, ∀ a ∈ addresses, isConnectedOf a r = false)
    (hdev : addresses.Pairwise fun a b => a.dev ≠ b.dev) (hroom : routes.length + addresses.length ≤ netRouteMax) :
    addConnected routes addresses = .ok (routes ++ addresses.map connectedRoute) := by
  induction addresses generalizing routes with
  | nil => rw [addConnected, List.map_nil, List.append_nil]
  | cons a addresses ih =>
    rw [List.length_cons] at hroom
    have hany : ¬ routes.any (isConnectedOf a) = true := by
      rw [List.any_eq_true]
      rintro ⟨r, hr, hmatch⟩
      rw [hnew r hr a List.mem_cons_self] at hmatch
      cases hmatch
    rw [addConnected, if_neg hany, if_neg (by omega), ih, List.append_assoc, List.map_cons, List.singleton_append]
    · intro r hr b hb
      rcases List.mem_append.mp hr with hr | hr
      · exact hnew r hr b (.tail _ hb)
      · rw [List.mem_singleton.mp hr]
        have hne := (List.pairwise_cons.mp hdev).1 b hb
        simp [isConnectedOf, connectedRoute, hne]
    · exact hdev.tail
    · rw [List.length_append, List.length_singleton]
      omega

theorem mem_zipIdx {interfaces : List NetifConfig} {q : NetifConfig × ℕ} (hq : q ∈ interfaces.zipIdx) :
    q.1 ∈ interfaces ∧ q.2 < interfaces.length := by
  have hget : interfaces[q.2]? = some q.1 := List.mem_zipIdx_iff_getElem?.mp hq
  exact ⟨List.mem_of_getElem? hget, (List.getElem?_eq_some_iff.mp hget).1⟩

theorem ofNat_inj_of_le {n m : ℕ} (hn : n ≤ 32) (hm : m ≤ 32) (h : BitVec.ofNat 32 n = BitVec.ofNat 32 m) : n = m := by
  rw [← ofNat_toNat_of_le hn, h, ofNat_toNat_of_le hm]

theorem Startup.index_le (h : Startup conf rt entries) {q : NetifConfig × ℕ} (hq : q ∈ conf.interfaces.zipIdx) :
    q.2 ≤ 32 := by
  have hmax : conf.interfaces.length ≤ 8 := h.routes.interfaces_length
  have := (mem_zipIdx hq).2
  omega

theorem startupAddress_pairwise (h : Startup conf rt entries) :
    (startupConfig conf entries).addresses.Pairwise fun a b => a.dev ≠ b.dev := by
  have hindex : conf.interfaces.zipIdx.Pairwise fun q q' => q.2 ≠ q'.2 := by
    apply List.pairwise_map.mp
    change (conf.interfaces.zipIdx.map Prod.snd).Nodup
    rw [List.zipIdx_map_snd]
    exact List.nodup_range'
  rw [startupConfig, List.pairwise_map]
  apply hindex.imp_of_mem
  intro q q' hq hq' hne heq
  exact hne (ofNat_inj_of_le (h.index_le hq) (h.index_le hq') heq)

theorem netConfigInit_eq (h : Startup conf rt entries) :
    netConfigInit rt = netConfigPrepare (startupConfig conf entries) rt.ports.length := by
  have hinterfaces : (startupConfig conf entries).addresses.length ≤ 8 := by
    rw [startupConfig, List.length_map, List.length_zipIdx]
    exact h.routes.interfaces_length
  have hentries : (entries.map startupRoute).length ≤ 32 := by
    rw [List.length_map, ← h.routes.entries.length_eq]
    exact h.routes.routes_length
  have hadd : addConnected (entries.map startupRoute) (startupConfig conf entries).addresses =
      .ok (startupConfig conf entries).routes := by
    rw [addConnected_eq_ok, startupConfig, List.map_map]
    · rfl
    · intro r hr a _
      obtain ⟨e, -, rfl⟩ := List.mem_map.mp hr
      simp [isConnectedOf, startupRoute]
    · exact startupAddress_pairwise h
    · unfold netRouteMax
      omega
  have hstatic : (entries.map startupRoute).filter (fun r => r.connected == 0) = entries.map startupRoute := by
    apply List.filter_eq_self.mpr
    intro r hr
    obtain ⟨e, -, rfl⟩ := List.mem_map.mp hr
    rfl
  have hlengths : ¬ ((startupConfig conf entries).addresses.length > netAddrMax ∨
      (entries.map startupRoute).length > netRouteMax) := by
    unfold netAddrMax netRouteMax
    omega
  have hprefix : ¬ ((startupConfig conf entries).addresses.any fun a => decide (32 < a.prefixLen)) = true := by
    rw [List.any_eq_true]
    rintro ⟨a, ha, hlt⟩
    obtain ⟨q, hq, rfl⟩ := List.mem_map.mp ha
    have hle := h.routes.interfaces _ (mem_zipIdx hq).1
    rw [decide_eq_true_eq, BitVec.lt_def, startupAddress, ofNat_toNat_of_le hle] at hlt
    exact absurd hlt (not_lt.mpr hle)
  rw [netConfigInit, initialConfig_eq h, netConnectedRebuild]
  dsimp only
  rw [if_neg hlengths, if_neg hprefix, hstatic, hadd]
  rfl

structure Mirrors (ports : ℕ) (e : RouteEntry) (r : NetRoute) : Prop where
  ip : r.ip = e.network
  prefixLen : r.prefixLen = BitVec.ofNat 32 e.prefixLen
  prefixLen_le : e.prefixLen ≤ 32
  masked : e.network &&& htonl (prefixMask e.prefixLen) = e.network
  gateway : r.gateway = e.gateway
  dev : r.dev = BitVec.ofNat 32 e.netifId
  netifId : e.netifId < ports
  table : r.table = netTableMain
  type : r.type = 0

theorem Startup.mirrors_interface (h : Startup conf rt entries) {q : NetifConfig × ℕ}
    (hq : q ∈ conf.interfaces.zipIdx) :
    Mirrors rt.ports.length (connectedEntry q) (connectedRoute (startupAddress q)) := by
  have hle := h.routes.interfaces _ (mem_zipIdx hq).1
  refine ⟨?_, rfl, hle, ?_, rfl, rfl, ?_, rfl, rfl⟩
  · change q.1.ip &&& netMask (BitVec.ofNat 32 q.1.prefixLen) = _
    rw [netMask_ofNat hle]
    rfl
  · rw [connectedEntry, BitVec.and_assoc, BitVec.and_self]
  · rw [h.ports_length]
    exact (mem_zipIdx hq).2

theorem Startup.mirrors_static (h : Startup conf rt entries) {e : RouteEntry} (he : e ∈ entries) :
    Mirrors rt.ports.length e (startupRoute e) := by
  obtain ⟨r, -, hr⟩ := h.routes.entries.mem_right he
  refine ⟨rfl, rfl, hr.prefixLen_le, ?_, rfl, rfl, ?_, rfl, rfl⟩
  · rw [hr.network, hr.prefixLen, BitVec.and_assoc, BitVec.and_self]
  · rw [h.ports_length]
    exact hr.netifId

theorem Startup.mirror (h : Startup conf rt entries) {e : RouteEntry} (he : e ∈ rt.routes) :
    ∃ r ∈ (startupConfig conf entries).routes, Mirrors rt.ports.length e r := by
  rw [h.routes.table_eq] at he
  rcases List.mem_append.mp he with he | he
  · obtain ⟨q, hq, rfl⟩ := List.mem_map.mp he
    exact ⟨_, List.mem_append_right _ (List.mem_map_of_mem hq), h.mirrors_interface hq⟩
  · exact ⟨_, List.mem_append_left _ (List.mem_map_of_mem he), h.mirrors_static he⟩

section Mirrors

variable {n : ℕ} {e e' : RouteEntry} {r r' : NetRoute}

theorem Mirrors.prefixLen_toNat (h : Mirrors n e r) : r.prefixLen.toNat = e.prefixLen := by
  rw [h.prefixLen, ofNat_toNat_of_le h.prefixLen_le]

theorem Mirrors.match_iff (h : Mirrors n e r) (dst : Word) :
    netMatch dst r.ip r.prefixLen = true ↔ dst &&& htonl (prefixMask e.prefixLen) = e.network := by
  rw [netMatch, beq_iff_eq, netMask, h.prefixLen_toNat, h.ip]

theorem Mirrors.host_iff (h : Mirrors n e r) {ip : Word} (hmatch : netMatch ip r.ip r.prefixLen = true) :
    subnetHost e.network e.prefixLen ip = true ↔ netHost ip r.prefixLen = true := by
  have hle : r.prefixLen ≤ 32 := by
    rw [BitVec.le_def, h.prefixLen_toNat]
    exact h.prefixLen_le
  have hmasked : e.network &&& netMask r.prefixLen = r.ip := by
    rw [netMask, h.prefixLen_toNat, h.masked, h.ip]
  rw [← h.prefixLen_toNat, subnetHost_iff hle, hmasked]
  exact ⟨fun hi => hi hmatch, fun hh _ => hh⟩

theorem Mirrors.dev_toNat (h : Mirrors n e r) (hn : n ≤ 8) : r.dev.toNat = e.netifId := by
  rw [h.dev]
  exact ofNat_toNat_of_le (by have := h.netifId; omega)

theorem Mirrors.same_iff (h : Mirrors n e r) (h' : Mirrors n e' r') :
    r.ip = r'.ip ∧ r.prefixLen = r'.prefixLen ↔ e.network = e'.network ∧ e.prefixLen = e'.prefixLen := by
  rw [h.ip, h'.ip, ← BitVec.toNat_inj (x := r.prefixLen), h.prefixLen_toNat, h'.prefixLen_toNat]

end Mirrors

theorem Startup.ports_le (h : Startup conf rt entries) : rt.ports.length ≤ 8 := by
  rw [h.ports_length]
  exact h.routes.interfaces_length

theorem Startup.gateway_onLink (h : Startup conf rt entries) {e : RouteEntry} {r : NetRoute}
    (hm : Mirrors rt.ports.length e r) (hdirect : routeIsDirect rt.routes e.netifId e.gateway = true) :
    (startupConfig conf entries).routes.any (onLinkRoute r) = true := by
  rw [routeIsDirect, Bool.and_eq_true, List.any_eq_true] at hdirect
  obtain ⟨-, e', he', hdirect⟩ := hdirect
  simp only [Bool.and_eq_true, beq_iff_eq] at hdirect
  obtain ⟨⟨⟨hid, hgateway⟩, hmatch⟩, hhost⟩ := hdirect
  obtain ⟨r', hr', hm'⟩ := h.mirror he'
  have hmatch := (hm'.match_iff _).mpr hmatch
  have hid : e'.netifId = e.netifId := by
    have := h.ports_le
    have := hm.netifId
    omega
  rw [List.any_eq_true]
  refine ⟨r', hr', ?_⟩
  simp only [onLinkRoute, Bool.and_eq_true, beq_iff_eq]
  rw [hm'.table, hm.table, hm'.dev, hm.dev, hid, hm'.type, hm'.gateway, hgateway, hm.gateway]
  exact ⟨⟨⟨⟨⟨rfl, rfl⟩, rfl⟩, rfl⟩, hmatch⟩, (hm'.host_iff hmatch).mp hhost⟩

theorem Startup.gateway_allowed (h : Startup conf rt entries) {gateway : Word}
    (hall : ∀ netif ∈ conf.interfaces, gateway ≠ netif.ip ∧ subnetHost netif.ip netif.prefixLen gateway = true) :
    (startupConfig conf entries).addresses.any (gatewayRefused gateway) = false := by
  rw [List.any_eq_false]
  intro a ha hrefused
  obtain ⟨q, hq, rfl⟩ := List.mem_map.mp ha
  obtain ⟨hne, hhost⟩ := hall q.1 (mem_zipIdx hq).1
  have hle : BitVec.ofNat 32 q.1.prefixLen ≤ 32 := by
    rw [BitVec.le_def, ofNat_toNat_of_le (h.routes.interfaces _ (mem_zipIdx hq).1)]
    exact h.routes.interfaces _ (mem_zipIdx hq).1
  rw [← ofNat_toNat_of_le (h.routes.interfaces _ (mem_zipIdx hq).1), subnetHost_iff hle] at hhost
  simp only [gatewayRefused, Bool.or_eq_true, Bool.and_eq_true, beq_iff_eq, Bool.not_eq_true'] at hrefused
  rcases hrefused with heq | ⟨hmatch, hno⟩
  · exact hne heq.symm
  · have hyes : netHost gateway (startupAddress q).prefixLen = true := hhost hmatch
    rw [hno] at hyes
    cases hyes

theorem Startup.validateRoute_eq (h : Startup conf rt entries) {e : RouteEntry} {r : NetRoute} {before : List NetRoute}
    (he : e ∈ rt.routes) (hm : Mirrors rt.ports.length e r) (hconnected : r.connected ≤ 1)
    (hclash : before.any (routeClash r) = false) :
    validateRoute (startupConfig conf entries) rt.ports.length before r = .ok () := by
  have hvalid : netPrefixValid r.ip r.prefixLen = true := by
    rw [netPrefixValid, Bool.and_eq_true, decide_eq_true_eq, beq_iff_eq, BitVec.le_def, hm.prefixLen_toNat, netMask,
      hm.prefixLen_toNat, hm.ip, ← hm.masked, BitVec.and_assoc, BitVec.and_not_self]
    exact ⟨hm.prefixLen_le, BitVec.and_zero⟩
  have hdev : r.dev.toNat < rt.ports.length := by
    rw [hm.dev_toNat h.ports_le]
    exact hm.netifId
  rw [validateRoute, if_neg, if_neg (by rw [hclash]; exact Bool.false_ne_true)]
  · by_cases hg : r.gateway = 0
    · rw [if_pos hg]
    · have hentry := h.routes.gateways e he
      rw [hm.gateway] at hg
      simp only [gatewayValid, Bool.or_eq_true, Bool.and_eq_true, beq_iff_eq, hg, false_or, List.all_eq_true,
        bne_iff_ne] at hentry
      obtain ⟨hdirect, hall⟩ := hentry
      have hunicast : netUnicast e.gateway = true := by
        rw [routeIsDirect, Bool.and_eq_true] at hdirect
        exact hdirect.1
      rw [hm.gateway, if_neg hg, hunicast, h.gateway_allowed hall, h.gateway_onLink hm hdirect, Bool.or_true]
      rfl
  · rw [hvalid, hm.table, hm.type]
    simp only [Bool.not_true, Bool.false_eq_true, ne_eq, not_true_eq_false, false_and, or_false, false_or, not_or,
      BitVec.not_lt]
    exact ⟨by decide, by decide, by decide, hconnected, fun hports => absurd hdev (not_lt.mpr hports.2)⟩

theorem routeClash_iff {r p : NetRoute} : routeClash r p = true ↔ r.table = p.table ∧ (r.ip = p.ip ∧
    r.prefixLen = p.prefixLen) ∧ ¬ (r.connected ≠ 0 ∧ p.connected ≠ 0 ∧ r.dev ≠ p.dev) := by
  simp only [routeClash, Bool.and_eq_true, beq_iff_eq, Bool.not_eq_true', Bool.and_eq_false_iff, bne_eq_false_iff_eq]
  tauto

theorem StaticEntry.destination_eq {interfaces : List NetifConfig} {r : RouteConfig} {e : RouteEntry}
    (h : StaticEntry interfaces r e) : destination r.network r.prefixLen = (e.network, e.prefixLen) := by
  rw [destination, ← h.network, h.prefixLen]

theorem Mirrors.clash_iff {n : ℕ} {e e' : RouteEntry} {r r' : NetRoute} (h : Mirrors n e r) (h' : Mirrors n e' r')
    (hstatic : r'.connected = 0) : routeClash r r' = true ↔ (e.network, e.prefixLen) = (e'.network, e'.prefixLen) := by
  rw [routeClash_iff, h.table, h'.table, h.same_iff h', hstatic, Prod.mk.injEq]
  simp

theorem Startup.connected_apart (h : Startup conf rt entries) :
    (conf.interfaces.zipIdx.map fun q => connectedRoute (startupAddress q)).Pairwise fun p r => routeClash r p = false := by
  have hdev := startupAddress_pairwise h
  rw [startupConfig, List.pairwise_map] at hdev
  rw [List.pairwise_map]
  apply hdev.imp
  intro q q' hne
  apply eq_false_of_ne_true
  intro hclash
  have hone : (1 : Word) ≠ 0 := by decide
  exact (routeClash_iff.mp hclash).2.2 ⟨hone, hone, Ne.symm hne⟩

theorem Startup.routes_apart_iff (h : Startup conf rt entries) :
    ((startupConfig conf entries).routes.Pairwise fun p r => routeClash r p = false) ↔ RoutesDistinct conf := by
  have hpair {e e' : RouteEntry} {r r' : NetRoute} (hm : Mirrors rt.ports.length e r) (hm' : Mirrors rt.ports.length e' r')
      (hstatic : r.connected = 0) :
      routeClash r' r = false ↔ (e.network, e.prefixLen) ≠ (e'.network, e'.prefixLen) := by
    rw [← Bool.not_eq_true, hm'.clash_iff hm hstatic, ne_comm]
  have hentries : (entries.map startupRoute).Pairwise (fun p r => routeClash r p = false) ↔
      entries.Pairwise fun e e' => (e.network, e.prefixLen) ≠ (e'.network, e'.prefixLen) := by
    rw [List.pairwise_map]
    apply List.Pairwise.iff_of_mem
    intro e e' he he'
    exact hpair (h.mirrors_static he) (h.mirrors_static he') rfl
  have hroutes : (entries.Pairwise fun e e' => (e.network, e.prefixLen) ≠ (e'.network, e'.prefixLen)) ↔
      conf.routes.Pairwise fun r p => destination r.network r.prefixLen ≠ destination p.network p.prefixLen := by
    constructor
    · intro hentries
      apply h.routes.entries.flip.pairwise hentries
      intro e e' r r' he he' hne
      rwa [he.destination_eq, he'.destination_eq]
    · intro hdistinct
      apply h.routes.entries.pairwise hdistinct
      intro r r' e e' he he' hne
      rwa [he.destination_eq, he'.destination_eq] at hne
  rw [startupConfig, List.pairwise_append, hentries, hroutes, RoutesDistinct]
  apply and_congr_right
  intro _
  constructor
  · rintro ⟨-, hcross⟩ r hr netif hnetif
    obtain ⟨e, he, hentry⟩ := h.routes.entries.flip.mem_right hr
    obtain ⟨i, hi⟩ := List.mem_iff_getElem?.mp hnetif
    have hq : (netif, i) ∈ conf.interfaces.zipIdx := List.mem_zipIdx_iff_getElem?.mpr hi
    have := hcross _ (List.mem_map_of_mem he) _ (List.mem_map_of_mem hq)
    rw [hentry.destination_eq]
    exact (hpair (h.mirrors_static he) (h.mirrors_interface hq) rfl).mp this
  · intro hcross
    refine ⟨h.connected_apart, ?_⟩
    intro p hp r hr
    obtain ⟨e, he, rfl⟩ := List.mem_map.mp hp
    obtain ⟨q, hq, rfl⟩ := List.mem_map.mp hr
    obtain ⟨route, hroute, hentry⟩ := h.routes.entries.mem_right he
    have := hcross route hroute q.1 (mem_zipIdx hq).1
    rw [hentry.destination_eq] at this
    exact (hpair (h.mirrors_static he) (h.mirrors_interface hq) rfl).mpr this

theorem Startup.addresses_valid (h : Startup conf rt entries) (hload : Loaded conf) :
    validateEach (validateAddress rt.ports.length) [] (startupConfig conf entries).addresses = .ok () := by
  have hdistinct : (startupConfig conf entries).addresses.Pairwise fun a b => a.ip ≠ b.ip := by
    rw [startupConfig, List.pairwise_map]
    have := hload.distinct
    rw [← List.zipIdx_map_fst 0 conf.interfaces, List.pairwise_map] at this
    exact this
  have hhost : ∀ a ∈ (startupConfig conf entries).addresses, a.dev.toNat < rt.ports.length ∧ a.prefixLen ≤ 32 ∧
      netUnicast a.ip = true ∧ netHost a.ip a.prefixLen = true := by
    intro a ha
    obtain ⟨q, hq, rfl⟩ := List.mem_map.mp ha
    obtain ⟨hmem, hlt⟩ := mem_zipIdx hq
    have hle := h.routes.interfaces _ hmem
    refine ⟨?_, ?_, hload.addresses _ hmem⟩
    · rw [startupAddress, ofNat_toNat_of_le (h.index_le hq), h.ports_length]
      exact hlt
    · rw [startupAddress, BitVec.le_def, ofNat_toNat_of_le hle]
      exact hle
  apply validateEach_of_pairwise hhost hdistinct
  rintro before a ⟨hdev, hle, hunicast, hnet⟩ hbefore
  have hother : ¬ (before.any fun b => b.ip == a.ip) = true := by
    rw [List.any_eq_true]
    rintro ⟨b, hb, heq⟩
    exact hbefore b hb (beq_iff_eq.mp heq)
  rw [validateAddress, hunicast, hnet, if_neg, if_neg hother]
  simp only [Bool.not_true, Bool.false_eq_true, or_false, not_or, not_le, BitVec.not_lt]
  exact ⟨hdev, hle⟩

theorem Startup.valid_iff (h : Startup conf rt entries) (hload : Loaded conf) :
    NetConfigOk (startupConfig conf entries) rt.ports.length ↔ RoutesDistinct conf := by
  rw [← h.routes_apart_iff]
  constructor
  · intro hok
    apply validateEach_pairwise hok.routes
    intro before r hcheck p hp
    rw [validateRoute, if_error_eq_ok, if_error_eq_ok] at hcheck
    exact eq_false_of_ne_true fun hclash => hcheck.2.1 (List.any_eq_true.mpr ⟨p, hp, hclash⟩)
  · intro hapart
    have hsizes := And.intro h.routes.interfaces_length h.routes.routes_length
    rw [h.routes.entries.length_eq] at hsizes
    unfold netifMax routeCapacity at hsizes
    have haddresses : (startupConfig conf entries).addresses.length = conf.interfaces.length := by
      rw [startupConfig, List.length_map, List.length_zipIdx]
    have hroutes : (startupConfig conf entries).routes.length = entries.length + conf.interfaces.length := by
      rw [startupConfig, List.length_append, List.length_map, List.length_map, List.length_zipIdx]
    have hzero : (0 : Word) ≤ 1 := by decide
    refine ⟨?_, ?_, Nat.zero_le _, Nat.zero_le _, hzero, h.addresses_valid hload, ?_, rfl, rfl⟩
    · unfold netAddrMax
      omega
    · unfold netRouteMax
      omega
    · apply validateEach_of_pairwise (P := fun r => ∃ e ∈ rt.routes, Mirrors rt.ports.length e r ∧ r.connected ≤ 1) _ hapart
      · rintro before r ⟨e, he, hm, hconnected⟩ hbefore
        apply h.validateRoute_eq he hm hconnected
        rw [List.any_eq_false]
        intro p hp hclash
        rw [hbefore p hp] at hclash
        cases hclash
      · intro r hr
        rcases List.mem_append.mp hr with hr | hr
        · obtain ⟨e, he, rfl⟩ := List.mem_map.mp hr
          refine ⟨e, ?_, h.mirrors_static he, hzero⟩
          rw [h.routes.table_eq]
          exact List.mem_append_right _ he
        · obtain ⟨q, hq, rfl⟩ := List.mem_map.mp hr
          refine ⟨connectedEntry q, ?_, h.mirrors_interface hq, BitVec.le_refl _⟩
          rw [h.routes.table_eq]
          exact List.mem_append_left _ (List.mem_map_of_mem hq)

end Startup

/-- A configuration that the loader accepts starts the management service unless it gives a destination twice. -/
theorem netConfigInit_iff_routesDistinct {file : List Char} {devices : ℕ → Option PortDevice} {rt : Routing}
    (hload : appConfigLoad file = .ok conf) (hports : portInit conf devices = some rt) :
    (∃ c, netConfigInit rt = .ok c) ↔ RoutesDistinct conf := by
  obtain ⟨entries, hstart⟩ := portInit_startup hports
  rw [← hstart.valid_iff (appConfigLoad_loaded hload), netConfigInit_eq hstart]
  constructor
  · rintro ⟨c, hc⟩
    exact (netConfigPrepare_eq_ok hc).1
  · exact netConfigPrepare_of_ok

def gatewayFile : List Char :=
  "pmd=tap\ndevice=pshost0\nip=192.0.2.2/24\n[route]\nprefix=0.0.0.0/0\ndevice=pshost0\ngateway=192.0.2.1\n".toList

def gatewayAppConfig : AppConfig where
  interfaces := [{ device := "pshost0".toList, ip := htonl 0xc0000202, prefixLen := 24 }]
  routes := [{ gateway := htonl 0xc0000201, device := "pshost0".toList }]

def tapDevice : ℕ → Option PortDevice := fun _ => some { portId := 0, mac := 0x020000000001, mtu := 1500 }

def tapPort : PortState where
  id := 0
  portId := 0
  mtu := 1500
  ip := htonl 0xc0000202
  prefixLen := 24
  configured := true
  started := true
  mac := 0x020000000001

def gatewayStart : Routing where
  ports := [tapPort]
  routes := [{ network := htonl 0xc0000200, gateway := 0, netifId := 0, prefixLen := 24 },
    { network := 0, gateway := htonl 0xc0000201, netifId := 0, prefixLen := 0 }]

theorem gatewayFile_starts : appConfigLoad gatewayFile = .ok gatewayAppConfig ∧
    portInit gatewayAppConfig tapDevice = some gatewayStart ∧ ∃ c, netConfigInit gatewayStart = .ok c := by
  have hload : appConfigLoad gatewayFile = .ok gatewayAppConfig := by decide +kernel
  have hports : portInit gatewayAppConfig tapDevice = some gatewayStart := rfl
  have hdistinct : RoutesDistinct gatewayAppConfig := by decide
  exact ⟨hload, hports, (netConfigInit_iff_routesDistinct hload hports).mpr hdistinct⟩

def repeatedFile : List Char :=
  ("pmd=tap\ndevice=pshost0\nip=192.0.2.2/24\n[route]\nprefix=203.0.113.0/24\ndevice=pshost0\n" ++
    "[route]\nprefix=203.0.113.0/24\ndevice=pshost0\n").toList

def repeatedAppConfig : AppConfig where
  interfaces := gatewayAppConfig.interfaces
  routes := List.replicate 2 { network := htonl 0xcb007100, prefixLen := 24, device := "pshost0".toList }

def repeatedStart : Routing where
  ports := [tapPort]
  routes := { network := htonl 0xc0000200, gateway := 0, netifId := 0, prefixLen := 24 } ::
    List.replicate 2 { network := htonl 0xcb007100, gateway := 0, netifId := 0, prefixLen := 24 }

theorem repeatedFile_refused : appConfigLoad repeatedFile = .ok repeatedAppConfig ∧
    portInit repeatedAppConfig tapDevice = some repeatedStart ∧ netConfigInit repeatedStart = .error .eexist := by
  refine ⟨?_, rfl, ?_⟩
  · decide +kernel
  · decide

end PulsarNetstack
