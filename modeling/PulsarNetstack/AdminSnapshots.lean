import PulsarNetstack.AdminState
import PulsarNetstack.PolicyRouting

namespace PulsarNetstack

variable {c c' : NetConfig} {view : AdminView} {r : AdminRequest} {dev : Option ℕ} {ports : ℕ}
variable {addresses done : List NetAddress} {routes routes' : List NetRoute} {a b : NetAddress}

def connectedRoutes (routes : List NetRoute) : List NetRoute := routes.filter fun p => p.connected != 0

structure Connected (addresses : List NetAddress) (routes : List NetRoute) : Prop where
  nodup : (connectedRoutes routes).Nodup
  image : ∀ p, p ∈ connectedRoutes routes ↔ ∃ a ∈ addresses, p = connectedRoute a

theorem isConnectedOf_connectedRoute :
    isConnectedOf a (connectedRoute b) = true ↔ connectedRoute b = connectedRoute a := by
  constructor
  · intro h
    simp only [isConnectedOf, connectedRoute, Bool.and_eq_true, beq_iff_eq] at h
    obtain ⟨⟨⟨⟨-, hip⟩, hlen⟩, hdev⟩, -⟩ := h
    rw [connectedRoute, hip, hlen, hdev, connectedRoute]
  · intro h
    rw [h]
    simp [isConnectedOf, connectedRoute]

theorem Connected.any_iff (h : Connected done routes) (a : NetAddress) :
    routes.any (isConnectedOf a) = true ↔ connectedRoute a ∈ connectedRoutes routes := by
  rw [List.any_eq_true]
  constructor
  · rintro ⟨p, hp, hmatch⟩
    have hconnected : (p.connected != 0) = true := by
      rw [isConnectedOf, Bool.and_eq_true] at hmatch
      exact hmatch.2
    have hmem : p ∈ connectedRoutes routes := List.mem_filter.mpr ⟨hp, hconnected⟩
    obtain ⟨b, -, rfl⟩ := (h.image p).mp hmem
    rw [isConnectedOf_connectedRoute.mp hmatch] at hmem
    exact hmem
  · intro hmem
    exact ⟨connectedRoute a, (List.mem_filter.mp hmem).1, isConnectedOf_connectedRoute.mpr rfl⟩

theorem connectedRoutes_concat : connectedRoutes (routes ++ [connectedRoute a]) =
    connectedRoutes routes ++ [connectedRoute a] := List.filter_append ..

theorem Connected.add (h : Connected done routes) (hnew : routes.any (isConnectedOf a) = false) :
    Connected (done ++ [a]) (routes ++ [connectedRoute a]) := by
  have hnot : connectedRoute a ∉ connectedRoutes routes := by
    rw [← h.any_iff a, hnew]
    exact Bool.false_ne_true
  constructor
  · rw [connectedRoutes_concat]
    apply h.nodup.append (List.nodup_singleton _)
    exact List.disjoint_singleton.mpr hnot
  · intro p
    rw [connectedRoutes_concat, List.mem_append, h.image p, List.mem_singleton]
    constructor
    · rintro (⟨b, hb, rfl⟩ | rfl)
      · exact ⟨b, List.mem_append_left _ hb, rfl⟩
      · exact ⟨a, List.mem_append_right _ (List.mem_singleton_self a), rfl⟩
    · rintro ⟨b, hb, rfl⟩
      rcases List.mem_append.mp hb with hb | hb
      · exact .inl ⟨b, hb, rfl⟩
      · exact .inr (by rw [List.mem_singleton.mp hb])

theorem Connected.skip (h : Connected done routes) (hold : routes.any (isConnectedOf a) = true) :
    Connected (done ++ [a]) routes := by
  have hmem := (h.any_iff a).mp hold
  refine ⟨h.nodup, ?_⟩
  intro p
  constructor
  · intro hp
    obtain ⟨b, hb, rfl⟩ := (h.image p).mp hp
    exact ⟨b, List.mem_append_left _ hb, rfl⟩
  · rintro ⟨b, hb, rfl⟩
    rcases List.mem_append.mp hb with hb | hb
    · exact (h.image _).mpr ⟨b, hb, rfl⟩
    · rw [List.mem_singleton.mp hb]
      exact hmem

theorem addConnected_connected (h : Connected done routes) (hok : addConnected routes addresses = .ok routes') :
    Connected (done ++ addresses) routes' := by
  induction addresses generalizing done routes with
  | nil =>
    rw [addConnected] at hok
    rw [List.append_nil, ← Except.ok.inj hok]
    exact h
  | cons a addresses ih =>
    rw [addConnected] at hok
    have happend : done ++ a :: addresses = done ++ [a] ++ addresses := by rw [List.append_assoc, List.singleton_append]
    rw [happend]
    split at hok
    · rename_i hold
      exact ih (h.skip hold) hok
    · rename_i hold
      rw [if_error_eq_ok] at hok
      exact ih (h.add (eq_false_of_ne_true hold)) hok.2

theorem connectedRoutes_unconnected (routes : List NetRoute) :
    connectedRoutes (routes.filter fun p => p.connected == 0) = [] := by
  apply List.filter_eq_nil_iff.mpr
  intro p hp hne
  rw [bne, (List.mem_filter.mp hp).2] at hne
  cases hne

theorem netConnectedRebuild_eq_ok (h : netConnectedRebuild c = .ok c') :
    ∃ routes, Connected c.addresses routes ∧ c' = { c with routesIndexed := false, routes := routes } := by
  rw [netConnectedRebuild, if_error_eq_ok, if_error_eq_ok, except_bind_eq_ok] at h
  obtain ⟨-, -, routes, hadd, hc⟩ := h
  have hstart : Connected [] (c.routes.filter fun p => p.connected == 0) := by
    constructor
    · rw [connectedRoutes_unconnected]
      exact List.nodup_nil
    · intro p
      rw [connectedRoutes_unconnected]
      exact iff_of_false List.not_mem_nil fun ⟨a, ha, _⟩ => List.not_mem_nil ha
  exact ⟨routes, addConnected_connected hstart hadd, (Except.ok.inj hc).symm⟩

inductive Edit (c : NetConfig) : NetConfig → Prop
  | addresses {routes : List NetRoute} (addresses : List NetAddress) (connected : Connected addresses routes) :
      Edit c { c with addresses := addresses, routesIndexed := false, routes := routes }
  | routes (routes : List NetRoute) (same : connectedRoutes routes = connectedRoutes c.routes) :
      Edit c { c with routes := routes }
  | rules (rules : List NetRule) : Edit c { c with rules := rules }
  | acls (acls : List NetAcl) (defaultDrop : Word) : Edit c { c with acls := acls, defaultDrop := defaultDrop }

theorem Edit.rebuild (h : netConnectedRebuild { c with addresses := addresses } = .ok c') : Edit c c' := by
  obtain ⟨routes, hconnected, rfl⟩ := netConnectedRebuild_eq_ok h
  exact .addresses addresses hconnected

theorem mutateAddresses_rebuild (h : mutateAddresses c r dev = .ok c') :
    ∃ addresses, netConnectedRebuild { c with addresses := addresses } = .ok c' := by
  cases dev with
  | none => cases h
  | some dev =>
    rw [mutateAddresses] at h
    split at h
    · exact ⟨_, h⟩
    · rw [if_error_eq_ok] at h
      exact ⟨_, h.2⟩
    · rw [if_error_eq_ok] at h
      split at h
      · exact ⟨_, h.2⟩
      · exact ⟨_, (if_error_eq_ok.mp h.2).2⟩
    · rw [if_error_eq_ok] at h
      split at h
      · exact ⟨_, h.2⟩
      · exact ⟨_, (if_error_eq_ok.mp h.2).2⟩
    · cases h

theorem mutateAddresses_edit (h : mutateAddresses c r dev = .ok c') : Edit c c' := by
  obtain ⟨addresses, hrebuild⟩ := mutateAddresses_rebuild h
  exact .rebuild hrebuild

section Routes

variable {i : ℕ} {p new : NetRoute}

theorem connectedRoutes_flush (table : Word) (routes : List NetRoute) :
    connectedRoutes (routes.filter fun p => p.table != table || p.connected != 0) = connectedRoutes routes := by
  rw [connectedRoutes, List.filter_filter, connectedRoutes]
  apply List.filter_congr
  intro p _
  cases p.connected != 0 <;> simp

theorem connectedRoutes_eraseIdx (hi : routes[i]? = some p) (hp : p.connected = 0) :
    connectedRoutes (routes.eraseIdx i) = connectedRoutes routes := by
  obtain ⟨hlt, rfl⟩ := List.getElem?_eq_some_iff.mp hi
  have hsplit : routes = routes.take i ++ routes[i] :: routes.drop (i + 1) := by
    rw [List.getElem_cons_drop, List.take_append_drop]
  rw [List.eraseIdx_eq_take_drop_succ]
  conv_rhs => rw [hsplit]
  simp only [connectedRoutes, List.filter_append, List.filter_cons, hp, bne_self_eq_false, Bool.false_eq_true, if_false]

theorem connectedRoutes_set (hi : routes[i]? = some p) (hp : p.connected = 0) (hnew : new.connected = 0) :
    connectedRoutes (routes.set i new) = connectedRoutes routes := by
  have hlt : i < routes.length := (List.getElem?_eq_some_iff.mp hi).1
  have herase : (routes.set i new).eraseIdx i = routes.eraseIdx i := List.eraseIdx_set_eq
  have hset : (routes.set i new)[i]? = some new := by
    rw [List.getElem?_set_self hlt]
  rw [← connectedRoutes_eraseIdx hset hnew, herase, connectedRoutes_eraseIdx hi hp]

theorem connectedRoutes_concat_of_static (hnew : new.connected = 0) :
    connectedRoutes (routes ++ [new]) = connectedRoutes routes := by
  simp only [connectedRoutes, List.filter_append, List.filter_cons, hnew, bne_self_eq_false, Bool.false_eq_true, if_false,
    List.filter_nil, List.append_nil]

theorem placeRoute_edit (hadd : ¬ (c.routes[i]?.any fun p => decide (r.verb = .add) || p.connected != 0) = true)
    (hnew : new.connected = 0)
    (h : (if i < c.routes.length then Except.ok { c with routes := c.routes.set i new }
      else if i = netRouteMax then .error Errno.enospc else .ok { c with routes := c.routes ++ [new] }) = .ok c') :
    Edit c c' := by
  split at h
  · rename_i hlt
    obtain ⟨p, hp⟩ : ∃ p, c.routes[i]? = some p := ⟨c.routes[i], List.getElem?_eq_getElem hlt⟩
    rw [hp, Option.any_some, Bool.or_eq_true, not_or, bne_iff_ne, not_not] at hadd
    obtain rfl := Except.ok.inj h
    exact .routes _ (connectedRoutes_set hp hadd.2 hnew)
  · rw [if_error_eq_ok] at h
    obtain rfl := Except.ok.inj h.2
    exact .routes _ (connectedRoutes_concat_of_static hnew)

theorem mutateRoutes_edit (h : mutateRoutes view r dev = .ok c') : Edit view.config c' := by
  rw [mutateRoutes, if_error_eq_ok] at h
  replace h := h.2
  dsimp only at h
  split at h
  · obtain rfl := Except.ok.inj h
    exact .routes _ (connectedRoutes_flush _ _)
  · split at h
    · cases h
    · rename_i p hp
      rw [if_error_eq_ok, not_not] at h
      obtain rfl := Except.ok.inj h.2
      exact .routes _ (connectedRoutes_eraseIdx hp h.1)
  · rw [if_error_eq_ok, if_error_eq_ok] at h
    exact placeRoute_edit h.1 rfl h.2.2
  · rw [if_error_eq_ok, if_error_eq_ok] at h
    exact placeRoute_edit h.1 rfl h.2.2
  · cases h

end Routes

theorem mutateRules_eq_ok (h : mutateRules c r dev = .ok c') : ∃ rules, c' = { c with rules := rules } := by
  rw [mutateRules] at h
  split at h
  · exact ⟨_, (Except.ok.inj h).symm⟩
  · exact ⟨_, (Except.ok.inj (if_error_eq_ok.mp h).2).symm⟩
  · rw [if_error_eq_ok, if_error_eq_ok] at h
    exact ⟨_, (Except.ok.inj h.2.2).symm⟩
  · cases h

theorem mutateAcls_eq_ok (h : mutateAcls view r dev = .ok c') :
    ∃ acls defaultDrop, c' = { view.config with acls := acls, defaultDrop := defaultDrop } := by
  rw [mutateAcls] at h
  dsimp only at h
  split at h
  · exact ⟨_, _, (Except.ok.inj h).symm⟩
  · exact ⟨_, _, (Except.ok.inj h).symm⟩
  · rw [if_error_eq_ok, except_bind_eq_ok] at h
    obtain ⟨-, acls, -, h⟩ := h
    exact ⟨_, _, (Except.ok.inj h).symm⟩
  · exact ⟨_, _, (Except.ok.inj (if_error_eq_ok.mp h).2).symm⟩
  · rw [if_error_eq_ok, if_error_eq_ok] at h
    exact ⟨_, _, (Except.ok.inj h.2.2).symm⟩
  · cases h

theorem editConfig_edit (h : editConfig view r = .ok c') : Edit view.config c' := by
  rw [editConfig, except_bind_eq_ok] at h
  obtain ⟨dev, -, h⟩ := h
  split at h
  · exact mutateAddresses_edit h
  · exact mutateRoutes_edit h
  · obtain ⟨rules, rfl⟩ := mutateRules_eq_ok h
    exact .rules rules
  · obtain ⟨acls, defaultDrop, rfl⟩ := mutateAcls_eq_ok h
    exact .acls acls defaultDrop
  · cases h

theorem Edit.generation (h : Edit c c') : c'.generation = c.generation := by
  cases h <;> rfl

theorem Edit.connected (h : Edit c c') (hc : Connected c.addresses c.routes) : Connected c'.addresses c'.routes := by
  cases h with
  | addresses addresses connected => exact connected
  | routes routes same =>
    constructor
    · change (connectedRoutes routes).Nodup
      rw [same]
      exact hc.nodup
    · intro p
      change p ∈ connectedRoutes routes ↔ _
      rw [same]
      exact hc.image p
  | rules rules => exact hc
  | acls acls defaultDrop => exact hc

structure GatewayOk (c : NetConfig) (p : NetRoute) : Prop where
  unicast : netUnicast p.gateway = true
  onLink : (∃ a ∈ c.addresses, onLinkAddress p a = true) ∨ ∃ q ∈ c.routes, onLinkRoute p q = true
  foreign : ∀ a ∈ c.addresses, a.ip ≠ p.gateway
  host : ∀ a ∈ c.addresses, netMatch p.gateway a.network a.prefixLen = true → netHost p.gateway a.prefixLen = true

structure SnapshotOk (c : NetConfig) (ports : ℕ) : Prop where
  valid : netConfigValidate c ports = .ok ()
  connected : Connected c.addresses c.routes
  rules : c.rules.Pairwise fun a b => a.pref < b.pref
  acls : c.acls.Pairwise fun a b => a.pref < b.pref
  gateways : ∀ p ∈ c.routes, p.gateway ≠ 0 → GatewayOk c p
  index : c.routesIndexed = true →
    c.routeIndex.Perm (routeIndexEntries c.routes) ∧ c.routeIndex.Pairwise fun a b => routeOrder a b = true

theorem NetConfigOk.acls_pairwise (h : NetConfigOk c ports) : c.acls.Pairwise fun a b => a.pref < b.pref := by
  have : IsTrans NetAcl fun a b => a.pref < b.pref := ⟨fun _ _ _ => BitVec.lt_trans⟩
  apply validateEach_chain h.acls
  intro before a b hc hb
  rw [validateAcl, if_error_eq_ok] at hc
  by_contra hn
  exact hc.1 (by simp [hb, BitVec.not_lt.mp hn])

theorem NetConfigOk.gatewayOk (h : NetConfigOk c ports) {p : NetRoute} (hp : p ∈ c.routes) (hgateway : p.gateway ≠ 0) :
    GatewayOk c p := by
  obtain ⟨before, hb⟩ := validateEach_mem h.routes hp
  rw [validateRoute, if_error_eq_ok, if_error_eq_ok, if_neg hgateway, if_error_eq_ok, if_error_eq_ok] at hb
  obtain ⟨-, -, hunicast, hrefused, hlink⟩ := hb
  have hrefused (a : NetAddress) (ha : a ∈ c.addresses) : gatewayRefused p.gateway a = false := by
    apply eq_false_of_ne_true
    intro hr
    exact hrefused (List.any_eq_true.mpr ⟨a, ha, hr⟩)
  simp only [gatewayRefused, Bool.or_eq_false_iff, Bool.and_eq_false_iff, Bool.not_eq_false'] at hrefused
  constructor
  · by_contra hn
    exact hunicast (by rw [eq_false_of_ne_true hn]; rfl)
  · split at hlink
    · rename_i hany
      rcases Bool.or_eq_true_iff.mp hany with hany | hany
      · exact .inl (List.any_eq_true.mp hany)
      · exact .inr (List.any_eq_true.mp hany)
    · cases hlink
  · intro a ha
    exact beq_eq_false_iff_ne.mp (hrefused a ha).1
  · intro a ha hmatch
    rcases (hrefused a ha).2 with hno | hhost
    · rw [hmatch] at hno
      cases hno
    · exact hhost

theorem snapshotOk_of_prepare (h : netConfigPrepare c ports = .ok c') (hconnected : Connected c.addresses c.routes) :
    SnapshotOk c' ports := by
  obtain ⟨hok, hc⟩ := netConfigPrepare_eq_ok h
  have hok' : NetConfigOk c' ports := by
    rcases hc with ⟨-, rfl⟩ | ⟨-, rfl⟩ <;> exact { hok with }
  have hsame : c'.addresses = c.addresses ∧ c'.routes = c.routes := by
    rcases hc with ⟨-, rfl⟩ | ⟨-, rfl⟩ <;> exact ⟨rfl, rfl⟩
  constructor
  · exact netConfigValidate_eq_ok.mpr hok'
  · rw [hsame.1, hsame.2]
    exact hconnected
  · exact netConfigPrepare_rules hok'
  · exact hok'.acls_pairwise
  · intro p hp hgateway
    exact hok'.gatewayOk hp hgateway
  · intro hindexed
    rcases hc with ⟨-, rfl⟩ | ⟨-, rfl⟩
    · cases hindexed
    · exact ⟨List.mergeSort_perm _ _, buildRouteIndex_sorted c.routes⟩

theorem netConfigPrepare_generation (h : netConfigPrepare c ports = .ok c') : c'.generation = c.generation := by
  rcases (netConfigPrepare_eq_ok h).2 with ⟨-, rfl⟩ | ⟨-, rfl⟩ <;> rfl

theorem adminMutate_snapshotOk (hc : Connected view.config.addresses view.config.routes)
    (h : adminMutate view r = .ok c') :
    SnapshotOk c' view.links.length ∧ c'.generation = view.config.generation + 1 := by
  rw [adminMutate, except_bind_eq_ok] at h
  obtain ⟨c₁, hedit, h⟩ := h
  have hedit := editConfig_edit hedit
  rw [if_error_eq_ok] at h
  constructor
  · exact snapshotOk_of_prepare h.2 (hedit.connected hc)
  · rw [netConfigPrepare_generation h.2, ← hedit.generation]

theorem netConfigInit_snapshotOk {rt : Routing} (h : netConfigInit rt = .ok c) :
    SnapshotOk c rt.ports.length ∧ c.generation = 1 := by
  rw [netConfigInit, except_bind_eq_ok] at h
  obtain ⟨c₁, hrebuild, h⟩ := h
  obtain ⟨routes, hconnected, rfl⟩ := netConnectedRebuild_eq_ok hrebuild
  exact ⟨snapshotOk_of_prepare h hconnected, netConfigPrepare_generation h⟩

/-- The snapshots that the first one leads to; the links that a request is checked against are those of the ports. -/
inductive Published (rt : Routing) : NetConfig → Prop
  | init {c : NetConfig} (init : netConfigInit rt = .ok c) : Published rt c
  | mutate {c c' : NetConfig} {links : List AdminLink} {r : AdminRequest} (before : Published rt c)
      (links_length : links.length = rt.ports.length) (mutate : adminMutate ⟨c, links⟩ r = .ok c') : Published rt c'

theorem Published.snapshotOk {rt : Routing} (h : Published rt c) : SnapshotOk c rt.ports.length := by
  induction h with
  | init init => exact (netConfigInit_snapshotOk init).1
  | mutate before links_length mutate ih =>
    rw [← links_length]
    exact (adminMutate_snapshotOk ih.connected mutate).1

theorem adminMutate_prepared (h : adminMutate view r = .ok c') : ∃ c₁, netConfigPrepare c₁ view.links.length = .ok c' := by
  rw [adminMutate, except_bind_eq_ok] at h
  obtain ⟨c₁, -, h⟩ := h
  rw [if_error_eq_ok] at h
  exact ⟨_, h.2⟩

theorem Published.prepared {rt : Routing} (h : Published rt c) : ∃ c₁, netConfigPrepare c₁ rt.ports.length = .ok c := by
  cases h with
  | init init =>
    rw [netConfigInit, except_bind_eq_ok] at init
    obtain ⟨c₁, -, h⟩ := init
    exact ⟨c₁, h⟩
  | mutate before links_length mutate =>
    rw [← links_length]
    exact adminMutate_prepared mutate

theorem Published.ports_le {rt : Routing} (h : Published rt c) : rt.ports.length ≤ netAddrMax := by
  induction h with
  | init init =>
    rw [netConfigInit, except_bind_eq_ok] at init
    obtain ⟨c₁, hrebuild, -⟩ := init
    rw [netConnectedRebuild, if_error_eq_ok, not_or, not_lt] at hrebuild
    have hlength : (initialConfig rt).addresses.length = rt.ports.length := List.length_map _
    rw [← hlength]
    exact hrebuild.1.1
  | mutate before links_length mutate ih => exact ih

theorem Published.publish {rt : Routing} {links : List AdminLink} (h : Published rt c)
    (hlinks : links.length = rt.ports.length) : Published rt (publish c links r) := by
  rw [PulsarNetstack.publish]
  split
  · rename_i c' hmutate
    exact .mutate h hlinks hmutate
  · exact h

theorem Published.run {rt : Routing} (requests : List (List AdminLink × AdminRequest)) (h : Published rt c)
    (hlinks : ∀ q ∈ requests, q.1.length = rt.ports.length) :
    Published rt (requests.foldl (fun c q => PulsarNetstack.publish c q.1 q.2) c) := by
  induction requests generalizing c with
  | nil => exact h
  | cons q requests ih =>
    apply ih
    · exact h.publish (hlinks q List.mem_cons_self)
    · intro q' hq'
      exact hlinks q' (.tail _ hq')

/-- Every snapshot that a sequence of requests publishes is consistent, and each one counts its predecessor. -/
theorem snapshots_consistent {rt : Routing} {c₀ : NetConfig} (hinit : netConfigInit rt = .ok c₀)
    (requests : List (List AdminLink × AdminRequest)) (hlinks : ∀ q ∈ requests, q.1.length = rt.ports.length) :
    SnapshotOk (requests.foldl (fun c q => publish c q.1 q.2) c₀) rt.ports.length ∧
      ∀ (links : List AdminLink) (r : AdminRequest) (c' : NetConfig), links.length = rt.ports.length →
        adminMutate ⟨requests.foldl (fun c q => publish c q.1 q.2) c₀, links⟩ r = .ok c' →
        SnapshotOk c' rt.ports.length ∧
          c'.generation = (requests.foldl (fun c q => publish c q.1 q.2) c₀).generation + 1 := by
  have hrun := (Published.init hinit).run requests hlinks
  refine ⟨hrun.snapshotOk, ?_⟩
  intro links r c' hlength hmutate
  rw [← hlength]
  exact adminMutate_snapshotOk hrun.snapshotOk.connected hmutate

def startRouting : Routing where
  ports := [{ id := 0, portId := 0, mtu := 1500, ip := htonl 0x0a000001, prefixLen := 8, configured := true, started := true }]
  routes := [{ network := htonl 0x0a000000, gateway := 0, netifId := 0, prefixLen := 8 },
    { network := 0, gateway := htonl 0x0a000002, netifId := 0, prefixLen := 0 }]

def startConfig : NetConfig where
  generation := 1
  addresses := [{ ip := htonl 0x0a000001, prefixLen := 8, dev := 0 }]
  routes := [{ ip := 0, prefixLen := 0, gateway := htonl 0x0a000002, dev := 0, table := netTableMain },
    { ip := htonl 0x0a000000, prefixLen := 8, dev := 0, table := netTableMain, connected := 1 }]

def startLinks : List AdminLink := [{ name := "eth0", started := true, adminDown := false }]

def secondAddress : AdminRequest where
  group := .addr
  verb := .add
  v := { ip := htonl 0xc0a80001, prefixLen := 24 }
  dev := "eth0"

def secondConfig : NetConfig :=
  let routes := startConfig.routes ++
    [{ ip := htonl 0xc0a80000, prefixLen := 24, dev := 0, table := netTableMain, connected := 1 }]
  { startConfig with
    generation := 2
    addresses := startConfig.addresses ++ [{ ip := htonl 0xc0a80001, prefixLen := 24, dev := 0 }]
    routes := routes
    routesIndexed := true
    routeIndex := buildRouteIndex routes }

theorem netConfigInit_startRouting : netConfigInit startRouting = .ok startConfig := by decide

theorem adminMutate_secondAddress : adminMutate ⟨startConfig, startLinks⟩ secondAddress = .ok secondConfig := by
  have hedit : editConfig ⟨startConfig, startLinks⟩ secondAddress =
      .ok { secondConfig with generation := 1, routesIndexed := false, routeIndex := [] } := by decide
  have hvalid : netConfigValidate { secondConfig with routesIndexed := false, routeIndex := [] } 1 = .ok () := by decide
  rw [adminMutate, hedit]
  change netConfigPrepare { secondConfig with routesIndexed := false, routeIndex := [] } 1 = _
  rw [netConfigPrepare, hvalid]
  rfl

theorem second_address_consistent : netConfigInit startRouting = .ok startConfig ∧
    adminMutate ⟨startConfig, startLinks⟩ secondAddress = .ok secondConfig ∧ SnapshotOk secondConfig 1 ∧
      secondConfig.generation = startConfig.generation + 1 := by
  refine ⟨netConfigInit_startRouting, adminMutate_secondAddress, ?_⟩
  have hall := (snapshots_consistent netConfigInit_startRouting [] (List.forall_mem_nil _)).2
  exact hall startLinks secondAddress secondConfig rfl adminMutate_secondAddress

end PulsarNetstack
