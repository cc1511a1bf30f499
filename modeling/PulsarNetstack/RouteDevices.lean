import PulsarNetstack.RuntimeSteps

namespace PulsarNetstack

section Devices

variable {r : Routing} {c : NetConfig} {dst src iif table pref : Word} {out : RouteResult} {id : ℕ} {p : PortState}

structure WellRouted (r : Routing) : Prop where
  size : r.ports.length ≤ netifMax
  ports {i : ℕ} {p : PortState} : r.ports[i]? = some p → p.configured = true ∧ p.id = i
  snapshot {c : NetConfig} : r.network = some c → NetConfigOk c r.ports.length

theorem netifById_some (h : netifById r id = some p) : p ∈ r.ports ∧ p.configured = true ∧ p.id = id % 65536 := by
  have hfound (h : (r.ports.find? fun p => p.configured && p.id == id % 65536) = some p) :
      p ∈ r.ports ∧ p.configured = true ∧ p.id = id % 65536 := by
    have hmatch := List.find?_some h
    rw [Bool.and_eq_true, beq_iff_eq] at hmatch
    exact ⟨List.mem_of_find?_eq_some h, hmatch⟩
  rw [netifById] at h
  split at h
  · rename_i q hq
    split at h
    · rename_i hmatch
      obtain rfl := Option.some.inj h
      rw [Bool.and_eq_true, beq_iff_eq] at hmatch
      exact ⟨List.mem_of_getElem? hq, hmatch⟩
    · exact hfound h
  · exact hfound h

theorem netifById_mod : netifById r (id % 65536) = netifById r id := by
  rw [netifById, netifById, Nat.mod_mod]

theorem netifById_id (h : netifById r id = some p) : netifById r p.id = some p := by
  rw [(netifById_some h).2.2, netifById_mod]
  exact h

theorem WellRouted.device (h : WellRouted r) (hid : id < r.ports.length) : netifById r id = r.ports[id]? := by
  obtain ⟨hconfigured, hindex⟩ := h.ports (List.getElem?_eq_getElem hid)
  have hsmall : id < 65536 := hid.trans_le (h.size.trans (by decide))
  rw [netifById, Nat.mod_eq_of_lt hsmall, List.getElem?_eq_getElem hid]
  exact if_pos (by rw [hconfigured, hindex, beq_self_eq_true]; rfl)

theorem indexedScan_mem {l : List NetRouteIndex} {best : NetRoute} (h : indexedScan r c.routes dst table l = some best) :
    best ∈ c.routes := by
  induction l with
  | nil => cases h
  | cons i l ih =>
    rw [indexedScan] at h
    split at h
    · cases h
    split at h
    · exact ih h
    split at h
    · cases h
    rename_i q hq
    split at h
    · obtain rfl := Option.some.inj h
      exact List.mem_of_getElem? hq
    · exact ih h

theorem linearScan_mem {l : List NetRoute} {start best : Option NetRoute} (h : l.foldl (linearStep r dst table) start = best)
    (hstart : ∀ q ∈ start, q ∈ c.routes) (hl : ∀ q ∈ l, q ∈ c.routes) : ∀ q ∈ best, q ∈ c.routes := by
  induction l generalizing start with
  | nil => exact h ▸ hstart
  | cons a l ih =>
    refine ih h (fun q hq => ?_) fun q hq => hl q (List.mem_cons_of_mem _ hq)
    rw [linearStep] at hq
    split at hq
    · exact hstart q hq
    split at hq
    · obtain rfl := Option.some.inj hq
      exact hl _ List.mem_cons_self
    · exact hstart q hq

theorem tableBest_mem {best : NetRoute} (h : tableBest r c dst table = some best) : best ∈ c.routes := by
  rw [tableBest] at h
  split at h
  · exact indexedScan_mem h
  · exact linearScan_mem h (fun _ hq => absurd hq (Option.not_mem_none _)) (fun _ hq => hq) best rfl

theorem NetConfigOk.address {ports : ℕ} (h : NetConfigOk c ports) {a : NetAddress} (ha : a ∈ c.addresses) :
    a.dev.toNat < ports ∧ netUnicast a.ip = true := by
  obtain ⟨_, hcheck⟩ := validateEach_mem h.addresses ha
  rw [validateAddress, if_error_eq_ok] at hcheck
  simp only [not_or, not_le, Bool.not_eq_true', Bool.not_eq_false] at hcheck
  exact ⟨hcheck.1.1, hcheck.1.2.2.1⟩

def Named (r : Routing) (found : DropReason × RouteResult) : Prop :=
  found.1 = .none → ∃ p, netifById r found.2.netifId = some p ∧ p.mtu = found.2.mtu

theorem named_drop {reason : DropReason} (h : reason ≠ .none) (found : RouteResult) : Named r (reason, found) :=
  fun hnone => absurd hnone h

theorem tableLookup_named {ports : ℕ} (h : NetConfigOk c ports) : Named r (tableLookup r c dst src table pref out) := by
  rw [tableLookup]
  split
  · exact named_drop (by decide) _
  rename_i best hbest
  unfold routeOutcome
  dsimp only
  split
  · rename_i htype
    exact fun hnone => absurd hnone (routeAction_ne_none htype (h.route_type (tableBest_mem hbest)))
  split
  · exact named_drop (by decide) _
  split
  · exact named_drop (by decide) _
  · rename_i p hport
    exact fun _ => ⟨p, netifById_mod.trans hport, rfl⟩

theorem ruleLookup_named {ports : ℕ} (h : NetConfigOk c ports) {rules : List NetRule} (hrules : ∀ q ∈ rules, q ∈ c.rules) :
    Named r (ruleLookup r c dst src iif rules out) := by
  induction rules generalizing out with
  | nil =>
    rw [ruleLookup]
    split
    · exact tableLookup_named h
    · exact tableLookup_named h
  | cons q rules ih =>
    have hrest : ∀ q ∈ rules, q ∈ c.rules := fun q hq => hrules q (List.mem_cons_of_mem _ hq)
    rw [ruleLookup]
    split
    · exact ih hrest
    split
    · rename_i htype
      exact fun hnone => absurd hnone (routeAction_ne_none htype (h.rule_type (hrules q List.mem_cons_self)))
    dsimp only
    split
    · exact tableLookup_named h
    · exact ih hrest

theorem localResult_named (h : WellRouted r) (hc : r.network = some c) {found : RouteResult}
    (hfound : localResult r c dst = some found) : ∃ p, netifById r found.netifId = some p ∧ p.mtu = found.mtu := by
  obtain ⟨a, ha, rfl⟩ := Option.map_eq_some_iff.mp hfound
  have hdev : a.dev.toNat < r.ports.length := ((h.snapshot hc).address (List.mem_of_find?_eq_some ha)).1
  refine ⟨_, netifById_mod.trans ((h.device hdev).trans (List.getElem?_eq_getElem hdev)), ?_⟩
  change _ = (r.ports[a.dev.toNat]?.map PortState.mtu).getD 0
  rw [List.getElem?_eq_getElem hdev]
  rfl

theorem ipv4RouteLookupEntries_named : Named r (ipv4RouteLookupEntries r dst out) := by
  rw [ipv4RouteLookupEntries]
  split
  · exact named_drop (by decide) _
  split
  · exact named_drop (by decide) _
  rename_i best _
  split
  · exact named_drop (by decide) _
  rename_i p hport
  split
  · exact named_drop (by decide) _
  -- Which next hop is meant has no part in the device.
  dsimp only
  generalize (if best.gateway ≠ 0 then best.gateway else dst) = nextHop
  split
  · exact named_drop (by decide) _
  split
  · exact named_drop (by decide) _
  · exact fun _ => ⟨p, netifById_id hport, rfl⟩

theorem WellRouted.routeQuery (h : WellRouted r) (dst src iif : Word) (out : RouteResult) :
    Named r (ipv4RouteQuery r dst src iif out) := by
  rw [ipv4RouteQuery]
  split
  · exact ipv4RouteLookupEntries_named
  rename_i c hc
  rw [policyRouteQuery]
  split
  · rename_i found hfound
    exact fun _ => localResult_named h hc hfound
  split
  · exact named_drop (by decide) _
  · exact ruleLookup_named (h.snapshot hc) fun _ hq => hq

end Devices

theorem netConfigPrepare_ok {c c' : NetConfig} {ports : ℕ} (h : netConfigPrepare c ports = .ok c') : NetConfigOk c' ports := by
  obtain ⟨hok, hcases⟩ := netConfigPrepare_eq_ok h
  rcases hcases with ⟨-, rfl⟩ | ⟨-, rfl⟩
  · exact { hok with }
  · exact { hok with }

theorem Startup.wellRouted {conf : AppConfig} {r : Routing} {entries : List RouteEntry} (h : Startup conf r entries) :
    WellRouted r where
  size := by
    rw [h.ports_length]
    exact h.routes.interfaces_length
  ports {i p} hp := by
    have hlt : i < conf.interfaces.length := h.ports_length ▸ (List.getElem?_eq_some_iff.mp hp).1
    obtain ⟨q, hq, hready⟩ := h.port (List.getElem?_eq_getElem hlt)
    obtain rfl := Option.some.inj (hp.symm.trans hq)
    exact ⟨hready.configured, hready.id⟩
  snapshot hc := by
    rw [h.network] at hc
    cases hc

theorem Booted.wellRouted {rt : Runtime} (h : Booted rt) : WellRouted rt.routing := by
  obtain ⟨conf, devices, r, hinit, hrouting⟩ := h.routing
  obtain ⟨entries, hstartup⟩ := portInit_startup hinit
  rcases hrouting with hrouting | ⟨c, hc, hrouting⟩
  · rw [hrouting]
    exact hstartup.wellRouted
  · rw [netConfigInit_eq hstartup] at hc
    have hok : NetConfigOk c r.ports.length := netConfigPrepare_ok hc
    rw [hrouting]
    refine { hstartup.wellRouted with snapshot := fun hnetwork => ?_ }
    obtain rfl := Option.some.inj hnetwork
    exact hok

theorem WellRouted.activate {next : NetConfig} {view : AdminView} {request : AdminRequest} (h : WellRouted r)
    (hlinks : view.links.length = r.ports.length) (hnext : adminMutate view request = .ok next) :
    WellRouted { r with network := some next } := by
  refine { h with snapshot := fun hc => ?_ }
  obtain rfl := Option.some.inj hc
  obtain ⟨c, hprepared⟩ := adminMutate_prepared hnext
  have hok : NetConfigOk next view.links.length := netConfigPrepare_ok hprepared
  rwa [hlinks] at hok

theorem WellRouted.relink (h : WellRouted r) (dev : ℕ) (l : LinkState) :
    WellRouted { r with ports := r.ports.modify dev fun p => p.relink l } := by
  have hlength : (r.ports.modify dev fun p => p.relink l).length = r.ports.length := List.length_modify ..
  refine ⟨hlength.trans_le h.size, fun {i p} hp => ?_, fun {c} hc => ?_⟩
  · change (r.ports.modify dev fun p => p.relink l)[i]? = some p at hp
    rw [List.getElem?_modify] at hp
    obtain ⟨q, hq, rfl⟩ := Option.map_eq_some_iff.mp hp
    have hport := h.ports hq
    split
    · exact hport
    · exact hport
  · have hok : NetConfigOk c r.ports.length := h.snapshot hc
    rwa [← hlength] at hok

theorem steady_wellRouted :
    Steady fun v => Reachable (fun _ t event => OwnerFresh t event) v.sockets ∧ WellRouted v.routing where
  size hv := steady_sockets.size hv.1
  event busy hv hadmitted hclocked := ⟨steady_sockets.event busy hv.1 hadmitted hclocked, hv.2⟩
  account _ hv := hv
  activate _ hv _ hlinks hnext _ := ⟨hv.1, hv.2.activate hlinks hnext⟩
  relink dev l hv := ⟨hv.1, hv.2.relink dev l⟩

theorem RuntimeReachable.wellRouted {rt : Runtime} (h : RuntimeReachable rt) : WellRouted rt.routing := by
  have hsteady := steady_wellRouted
  have hstill := h.still hsteady fun rt hboot => ⟨(RuntimeReachable.boot hboot).sockets, hboot.wellRouted⟩
  exact hstill.2.2

end PulsarNetstack
