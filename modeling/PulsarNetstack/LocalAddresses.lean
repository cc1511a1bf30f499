import PulsarNetstack.RuntimeSteps

namespace PulsarNetstack

variable {c : NetConfig} {r : Routing} {v : View} {dst src iif table pref ip : Word} {out : RouteResult}

def NetConfig.HasAddress (c : NetConfig) (ip : Word) : Prop := ∃ a ∈ c.addresses, a.ip = ip

theorem netifIsLocalIp_hasAddress (hc : r.network = some c) (h : netifIsLocalIp r ip = true) : c.HasAddress ip := by
  rw [netifIsLocalIp, hc] at h
  obtain ⟨a, ha, hip⟩ := List.any_eq_true.mp h
  rw [Bool.and_eq_true, beq_iff_eq] at hip
  exact ⟨a, ha, hip.1⟩

def QuerySource (c : NetConfig) (src ip : Word) : Prop := ip = 0 ∨ ip = src ∨ c.HasAddress ip

theorem routeOutcome_source (hc : r.network = some c) (best : NetRoute) :
    QuerySource c src (routeOutcome r dst src table pref best).2.sourceIp := by
  unfold routeOutcome
  dsimp only
  split
  · exact .inl rfl
  split
  · exact .inl rfl
  split
  · exact .inl rfl
  dsimp only
  split
  · exact .inr (.inl rfl)
  · rcases netSource_sourceOk hc with hzero | ⟨a, ha, -, hip⟩
    · exact .inl hzero
    · exact .inr (.inr ⟨a, ha, hip⟩)

theorem tableLookup_source (hc : r.network = some c) (hout : QuerySource c src out.sourceIp) :
    QuerySource c src (tableLookup r c dst src table pref out).2.sourceIp := by
  unfold tableLookup
  split
  · exact hout
  · exact routeOutcome_source hc _

theorem ruleLookup_source (hc : r.network = some c) {rules : List NetRule} (hout : QuerySource c src out.sourceIp) :
    QuerySource c src (ruleLookup r c dst src iif rules out).2.sourceIp := by
  induction rules generalizing out with
  | nil =>
    unfold ruleLookup
    dsimp only
    split
    · exact tableLookup_source hc hout
    · exact tableLookup_source hc (tableLookup_source hc hout)
  | cons rule rules ih =>
    unfold ruleLookup
    split
    · exact ih hout
    split
    · exact .inl rfl
    dsimp only
    split
    · exact tableLookup_source hc hout
    · exact ih (tableLookup_source hc hout)

theorem ipv4RouteQuery_source (hc : r.network = some c) :
    QuerySource c src (ipv4RouteQuery r dst src iif {}).2.sourceIp := by
  unfold ipv4RouteQuery policyRouteQuery
  rw [hc]
  dsimp only
  split
  · rename_i found hlocal
    obtain ⟨a, ha, rfl⟩ := Option.map_eq_some_iff.mp hlocal
    have hip := List.find?_some ha
    exact .inr (.inr ⟨a, List.mem_of_find?_eq_some ha, (beq_iff_eq.mp hip).symm⟩)
  split
  · exact .inl rfl
  · exact ruleLookup_source hc (.inl rfl)

def BoundIn (c : NetConfig) (s : SocketEntry) : Prop :=
  s.allocated = true → s.localAddr.ip ≠ 0 → c.HasAddress s.localAddr.ip

section Events

variable {s s' : SocketEntry} {event : SocketEvent} {busy : Bool} {i : ℕ}

theorem Processed.boundIn (h : Processed s s') (hs : BoundIn c s) : BoundIn c s' := by
  cases h with
  | freed entry =>
    rw [entry]
    exact fun ha => absurd ha Bool.false_ne_true
  | kept fd allocated isOpen type owner localAddr =>
    intro ha hip
    rw [localAddr] at hip ⊢
    exact hs (allocated ▸ ha) hip

theorem Called.boundIn (hc : v.routing.network = some c) (h : Called (v.tcpEnv busy) s event s') (ha : s.allocated = true)
    (hs : BoundIn c s) : BoundIn c s' := by
  cases h with
  | bound addr remote ip =>
    intro _ hip
    rcases ip with hzero | hlocal | hsame
    · exact absurd hzero hip
    · exact netifIsLocalIp_hasAddress hc hlocal
    · change addr.ip ≠ 0 at hip
      change c.HasAddress addr.ip
      rw [hsame] at hip ⊢
      exact hs ha hip
  | connected fd addr seed now state localAddr ip route query =>
    -- The socket keeps its own address, or takes the source address of the route.
    intro _ hip
    change (if localAddr.ip = 0 then route.sourceIp else localAddr.ip) ≠ 0 at hip
    change c.HasAddress (if localAddr.ip = 0 then route.sourceIp else localAddr.ip)
    have hown : s.localAddr.ip ≠ 0 → c.HasAddress s.localAddr.ip := hs ha
    split at hip
    · rename_i hzero
      rw [if_pos hzero]
      have hsource : QuerySource c s.localAddr.ip route.sourceIp := by
        have hquery : ipv4RouteQuery v.routing addr.ip s.localAddr.ip netIifNone {} = (.none, route) := query
        have hfound : QuerySource c s.localAddr.ip (ipv4RouteQuery v.routing addr.ip s.localAddr.ip netIifNone {}).2.sourceIp :=
          ipv4RouteQuery_source hc
        rwa [hquery] at hfound
      rcases hsource with hnone | hsame | hmem
      · exact absurd hnone hip
      · rw [hsame] at hip ⊢
        exact hown hip
      · exact hmem
    · rename_i hne
      rw [if_neg hne]
      obtain rfl := ip.resolve_left hne
      exact hown hip
  | listening fd backlog bound =>
    unfold tcpListen
    split
    · exact hs
    split
    · exact hs
    · exact hs
  | processed step => exact step.boundIn hs
  | udp ep => exact hs
  | closing fd now state step => exact step.boundIn hs
  | cleared => exact fun ha => absurd ha Bool.false_ne_true

theorem Evolves.boundIn (hc : v.routing.network = some c) (h : Evolves (v.tcpEnv busy) v.sockets i s event s')
    (hadmitted : Admitted v event) (hs : BoundIn c s) : BoundIn c s' := by
  cases h with
  | same => exact hs
  | created => exact fun _ hip => absurd rfl hip
  | assigned => exact hs
  | called fd names get step => exact step.boundIn hc (getSocket_some get).2.1 hs
  | accepted => exact hs
  | orphaned fd now slot parent get listen other child =>
    unfold tcpFail
    generalize (if s.tcp.state ≠ .closed then _ else _ : List TcpEffect) = effects
    dsimp only
    split
    · exact hs
    · exact fun ha => absurd ha Bool.false_ne_true
  | delivered => exact hs
  | received srcIp dstIp hdr payload seed now connection step => exact step.boundIn hs
  | opened => exact fun _ _ => netifIsLocalIp_hasAddress hc hadmitted
  | ticked now step => exact step.boundIn hs

end Events

structure AddressesBound (v : View) : Prop where
  reachable : Reachable (fun _ t event => OwnerFresh t event) v.sockets
  bound {c : NetConfig} : v.routing.network = some c → ∀ s ∈ v.sockets.entries, BoundIn c s

theorem removedBinding_eq_false {t : SocketTable} (h : removedBinding t c = false) : ∀ s ∈ t.entries, BoundIn c s := by
  intro s hs ha hip
  by_contra hnone
  refine Bool.eq_false_iff.mp h (List.any_eq_true.mpr ⟨s, hs, ?_⟩)
  rw [ha, Bool.true_and, Bool.and_eq_true, List.all_eq_true]
  refine ⟨bne_iff_ne.mpr hip, fun a hmem => bne_iff_ne.mpr fun he => hnone ⟨a, hmem, he⟩⟩

theorem steady_addressesBound : Steady AddressesBound where
  size hv := hv.reachable.lineage.size
  event {v event} busy hv hadmitted hclocked := by
    refine ⟨steady_sockets.event busy hv.reachable hadmitted hclocked, fun {c} hc s' hs' => ?_⟩
    obtain ⟨i, hi⟩ := List.getElem?_of_mem hs'
    obtain ⟨s, hs, hevolves⟩ := (hv.reachable.evolves (v.tcpEnv busy) event).entry hi
    change v.routing.network = some c at hc
    exact hevolves.boundIn hc hadmitted (hv.bound hc s (List.mem_of_getElem? hs))
  account _ hv := ⟨hv.reachable, hv.bound⟩
  activate _ hv _ _ _ hbound := by
    refine ⟨hv.reachable, fun hc => ?_⟩
    obtain rfl := Option.some.inj hc
    exact removedBinding_eq_false hbound
  relink _ _ hv := ⟨hv.reachable, hv.bound⟩

/-- A socket's concrete local address is one of the snapshot in force. -/
theorem local_address_in_snapshot {rt : Runtime} (h : RuntimeReachable rt) (hc : rt.routing.network = some c)
    {s : SocketEntry} (hs : s ∈ rt.sockets.entries) (ha : s.allocated = true) (hip : s.localAddr.ip ≠ 0) :
    ∃ a ∈ c.addresses, a.ip = s.localAddr.ip := by
  have hstill : Still AddressesBound rt := by
    refine h.still steady_addressesBound fun rt hboot => ?_
    obtain ⟨capacity, hcapacity, hsockets⟩ := hboot.sockets
    refine ⟨?_, fun _ s hs => ?_⟩
    · change Reachable _ rt.sockets
      rw [hsockets]
      exact .init capacity hcapacity
    · change s ∈ rt.sockets.entries at hs
      rw [hsockets] at hs
      rw [List.eq_of_mem_replicate hs]
      exact fun ha => absurd ha Bool.false_ne_true
  exact hstill.2.bound hc s hs ha hip

def openedRuntime : Runtime :=
  { gatewayRuntime with
    calls := 1
    sockets := ⟨{ fd := 1, allocated := true, isOpen := true, type := .dgram } :: List.replicate 3 {}, [1, 0, 0, 0], 49152⟩ }

def boundEntry : SocketEntry where
  fd := 1
  allocated := true
  isOpen := true
  type := .dgram
  localAddr := ⟨htonl 0xc0000202, 5000⟩

def boundRuntime : Runtime :=
  { gatewayRuntime with calls := 2, sockets := ⟨boundEntry :: List.replicate 3 {}, [1, 0, 0, 0], 49152⟩ }

theorem boundRuntime_reachable : RuntimeReachable boundRuntime := by
  have hsocket : runCall (graphSubmit 0) (.socket 2 2 0) gatewayRuntime = some ({ result := .ok 1 }, openedRuntime) := rfl
  have hbind : runCall (graphSubmit 0) (.bind 1 (some ⟨htonl 0xc0000202, 5000⟩)) openedRuntime =
      some ({ result := .ok 0 }, boundRuntime) := rfl
  exact ((RuntimeReachable.boot gatewayRuntime_booted).step (.call hsocket)).step (.call hbind)

theorem boundRuntime_local_address : RuntimeReachable boundRuntime ∧ boundEntry ∈ boundRuntime.sockets.entries ∧
    ∃ a ∈ gatewaySnapshot.addresses, a.ip = boundEntry.localAddr.ip :=
  ⟨boundRuntime_reachable, List.mem_cons_self,
    local_address_in_snapshot boundRuntime_reachable rfl (s := boundEntry) List.mem_cons_self rfl (by decide)⟩

end PulsarNetstack
