import PulsarNetstack.StartupRouting

namespace PulsarNetstack

variable {conf : AppConfig}

section Migration

variable {rt : Routing} {entries : List RouteEntry} {c : NetConfig} {dst : Word}

theorem Startup.port (h : Startup conf rt entries) {i : ℕ} {netif : NetifConfig} (hi : conf.interfaces[i]? = some netif) :
    ∃ p, rt.ports[i]? = some p ∧ Ready (netif, i) p := by
  have hq : conf.interfaces.zipIdx[i]? = some (netif, i) := by
    rw [List.getElem?_zipIdx, hi, Option.map_some, Nat.zero_add]
  exact h.ports.flip.getElem?_right hq

theorem Startup.netifById (h : Startup conf rt entries) {i : ℕ} {netif : NetifConfig}
    (hi : conf.interfaces[i]? = some netif) : ∃ p, PulsarNetstack.netifById rt i = some p ∧ Ready (netif, i) p := by
  obtain ⟨p, hp, hready⟩ := h.port hi
  have hlt : i < 8 := lt_of_lt_of_le (List.getElem?_eq_some_iff.mp hi).1 h.routes.interfaces_length
  refine ⟨p, ?_, hready⟩
  rw [PulsarNetstack.netifById, Nat.mod_eq_of_lt (by omega), hp]
  dsimp only
  rw [hready.configured, hready.id, beq_self_eq_true]
  rfl

def Foreign (conf : AppConfig) (ip : Word) : Prop :=
  netUnicast ip = true ∧ ∀ netif ∈ conf.interfaces, netif.ip ≠ ip ∧ subnetHost netif.ip netif.prefixLen ip = true

theorem Startup.mem_ports (h : Startup conf rt entries) {P : Word → ℕ → Prop} :
    (∀ p ∈ rt.ports, P p.ip p.prefixLen) ↔ ∀ netif ∈ conf.interfaces, P netif.ip netif.prefixLen := by
  constructor
  · intro hports netif hmem
    obtain ⟨i, hi⟩ := List.mem_iff_getElem?.mp hmem
    obtain ⟨p, hp, hready⟩ := h.port hi
    have := hports p (List.mem_of_getElem? hp)
    rwa [hready.ip, hready.prefixLen] at this
  · intro hinterfaces p hp
    obtain ⟨q, hq, hready⟩ := h.ports.mem_right hp
    rw [hready.ip, hready.prefixLen]
    exact hinterfaces q.1 (mem_zipIdx hq).1

theorem Startup.netifIsLocalIp_iff (h : Startup conf rt entries) :
    netifIsLocalIp rt dst = true ↔ ∃ netif ∈ conf.interfaces, netif.ip = dst := by
  rw [netifIsLocalIp, h.network]
  simp only [List.any_eq_true, Bool.and_eq_true]
  constructor
  · rintro ⟨p, hp, -, hip⟩
    obtain ⟨q, hq, hready⟩ := h.ports.mem_right hp
    have hget : conf.interfaces[q.2]? = some q.1 := List.mem_zipIdx_iff_getElem?.mp hq
    obtain ⟨p', hp', hready'⟩ := h.netifById hget
    rw [netAddressOn, h.network, hready.id] at hip
    dsimp only at hip
    rw [ofNat_toNat_of_le (h.index_le hq), hp', Option.any_some, beq_iff_eq, hready'.ip] at hip
    exact ⟨q.1, (mem_zipIdx hq).1, hip⟩
  · rintro ⟨netif, hmem, hip⟩
    obtain ⟨i, hi⟩ := List.mem_iff_getElem?.mp hmem
    obtain ⟨p, hp, hready⟩ := h.port hi
    obtain ⟨p', hp', hready'⟩ := h.netifById hi
    have hq : (netif, i) ∈ conf.interfaces.zipIdx := List.mem_zipIdx_iff_getElem?.mpr hi
    refine ⟨p, List.mem_of_getElem? hp, hready.configured, ?_⟩
    rw [netAddressOn, h.network, hready.id]
    dsimp only
    rw [ofNat_toNat_of_le (h.index_le hq), hp', Option.any_some, beq_iff_eq, hready'.ip, hip]

theorem Startup.destinationValid_iff (h : Startup conf rt entries) :
    ipv4DestinationValid rt dst = true ↔ Foreign conf dst := by
  have hlocal : netifIsLocalIp rt dst = false ↔ ∀ netif ∈ conf.interfaces, netif.ip ≠ dst := by
    rw [← Bool.not_eq_true, h.netifIsLocalIp_iff]
    simp
  have hhosts : (rt.ports.all fun p => !p.configured || subnetHost p.ip p.prefixLen dst) = true ↔
      ∀ netif ∈ conf.interfaces, subnetHost netif.ip netif.prefixLen dst = true := by
    rw [List.all_eq_true, ← h.mem_ports (P := fun ip length => subnetHost ip length dst = true)]
    apply forall₂_congr
    intro p hp
    obtain ⟨q, -, hready⟩ := h.ports.mem_right hp
    rw [hready.configured, Bool.not_true, Bool.false_or]
  rw [ipv4DestinationValid, h.network, Bool.and_eq_true, Bool.and_eq_true, Bool.not_eq_true', hlocal, hhosts, Foreign,
    and_assoc, forall₂_and]

structure Migrated (conf : AppConfig) (entries : List RouteEntry) (c : NetConfig) : Prop where
  addresses : c.addresses = conf.interfaces.zipIdx.map startupAddress
  routes : c.routes = (startupConfig conf entries).routes
  rules : c.rules = []

theorem Startup.migrated (h : Startup conf rt entries) (hinit : netConfigInit rt = .ok c) : Migrated conf entries c := by
  rw [netConfigInit_eq h] at hinit
  rcases (netConfigPrepare_eq_ok hinit).2 with ⟨-, rfl⟩ | ⟨-, rfl⟩ <;> exact ⟨rfl, rfl, rfl⟩

theorem Startup.mem_addresses (h : Startup conf rt entries) (hc : Migrated conf entries c) {P : Word → ℕ → Prop} :
    (∀ a ∈ c.addresses, P a.ip a.prefixLen.toNat) ↔ ∀ netif ∈ conf.interfaces, P netif.ip netif.prefixLen := by
  rw [hc.addresses, List.forall_mem_map]
  constructor
  · intro haddresses netif hmem
    obtain ⟨i, hi⟩ := List.mem_iff_getElem?.mp hmem
    have := haddresses (netif, i) (List.mem_zipIdx_iff_getElem?.mpr hi)
    rwa [startupAddress, ofNat_toNat_of_le (h.routes.interfaces netif hmem)] at this
  · intro hinterfaces q hq
    have hmem := (mem_zipIdx hq).1
    rw [startupAddress, ofNat_toNat_of_le (h.routes.interfaces _ hmem)]
    exact hinterfaces q.1 hmem

theorem Startup.snapshotValid_iff (h : Startup conf rt entries) (hc : Migrated conf entries c) :
    ipv4DestinationValid { rt with network := some c } dst = true ↔ Foreign conf dst := by
  have hpresent {a : NetAddress} (ha : a ∈ c.addresses) :
      (PulsarNetstack.netifById { rt with network := some c } a.dev.toNat).isSome = true := by
    rw [hc.addresses] at ha
    obtain ⟨q, hq, rfl⟩ := List.mem_map.mp ha
    obtain ⟨p, hp, -⟩ := h.netifById (List.mem_zipIdx_iff_getElem?.mp hq)
    change (PulsarNetstack.netifById rt (BitVec.ofNat 32 q.2).toNat).isSome = true
    rw [ofNat_toNat_of_le (h.index_le hq), hp, Option.isSome_some]
  have hlocal : netifIsLocalIp { rt with network := some c } dst = false ↔ ∀ netif ∈ conf.interfaces, netif.ip ≠ dst := by
    rw [← h.mem_addresses hc (P := fun ip _ => ip ≠ dst), netifIsLocalIp, List.any_eq_false]
    apply forall₂_congr
    intro a ha
    rw [hpresent ha, Bool.and_true, beq_iff_eq]
  have hhosts : (c.addresses.all fun a => subnetHost a.ip a.prefixLen.toNat dst) = true ↔
      ∀ netif ∈ conf.interfaces, subnetHost netif.ip netif.prefixLen dst = true := by
    rw [List.all_eq_true]
    exact h.mem_addresses hc (P := fun ip length => subnetHost ip length dst = true)
  rw [ipv4DestinationValid, Bool.and_eq_true, Bool.and_eq_true, Bool.not_eq_true', hlocal, hhosts, Foreign, and_assoc,
    forall₂_and]

theorem foldl_mirrors {n : ℕ} {es : List RouteEntry} {rs : List NetRoute} (h : List.Forall₂ (Mirrors n) es rs)
    (husable : ∀ r ∈ rs, routeUsable rt r = true) {best : Option RouteEntry} {best' : Option NetRoute}
    (hbest : Option.Rel (Mirrors n) best best') :
    Option.Rel (Mirrors n) (es.foldl (routeEntryStep dst) best) (rs.foldl (linearStep rt dst netTableMain) best') := by
  induction h generalizing best best' with
  | nil => exact hbest
  | @cons e r es rs hm _ ih =>
    rw [List.foldl_cons, List.foldl_cons]
    apply ih fun r' hr' => husable r' (.tail _ hr')
    have hlonger : (best.all fun b => decide (b.prefixLen < e.prefixLen)) = true ↔
        ¬ (best'.any fun b => decide (r.prefixLen ≤ b.prefixLen)) = true := by
      cases hbest with
      | none => simp
      | some hb => simp [BitVec.le_def, hm.prefixLen_toNat, hb.prefixLen_toNat]
    have hcond : (dst &&& htonl (prefixMask e.prefixLen) = e.network ∧
        (best.all fun b => decide (b.prefixLen < e.prefixLen)) = true) ↔ ¬ (r.table ≠ netTableMain ∨
          !netMatch dst r.ip r.prefixLen ∨ (best'.any fun b => decide (r.prefixLen ≤ b.prefixLen)) = true) := by
      rw [← hm.match_iff, hlonger, hm.table]
      simp
    rw [routeEntryStep, linearStep]
    by_cases hnew : dst &&& htonl (prefixMask e.prefixLen) = e.network ∧
        (best.all fun b => decide (b.prefixLen < e.prefixLen)) = true
    · rw [if_pos hnew, if_neg (hcond.mp hnew), if_pos (husable r List.mem_cons_self)]
      exact .some hm
    · rw [if_neg hnew, if_pos (not_not.mp fun hno => hnew (hcond.mpr hno))]
      exact hbest

theorem Startup.usable (h : Startup conf rt entries) {e : RouteEntry} {r : NetRoute} (hm : Mirrors rt.ports.length e r) :
    ∃ p, PulsarNetstack.netifById { rt with network := some c } r.dev.toNat = some p ∧ p.up = true ∧ p.id = e.netifId ∧
      ∃ netif, conf.interfaces[e.netifId]? = some netif ∧ p.ip = netif.ip := by
  have hlt : e.netifId < conf.interfaces.length := h.ports_length ▸ hm.netifId
  obtain ⟨p, hp, hready⟩ := h.netifById (List.getElem?_eq_getElem hlt)
  refine ⟨p, ?_, hready.up, hready.id, _, List.getElem?_eq_getElem hlt, hready.ip⟩
  rw [hm.dev_toNat h.ports_le]
  exact hp

theorem Startup.best_mirrors (h : Startup conf rt entries) (hc : Migrated conf entries c)
    (hdistinct : RoutesDistinct conf) :
    Option.Rel (Mirrors rt.ports.length) (rt.routes.foldl (routeEntryStep dst) none)
      (bestRoute { rt with network := some c } c.routes dst netTableMain) := by
  have hmirrors : List.Forall₂ (Mirrors rt.ports.length) rt.routes
      ((conf.interfaces.zipIdx.map fun q => connectedRoute (startupAddress q)) ++ entries.map startupRoute) := by
    rw [h.routes.table_eq]
    apply List.rel_append
    · rw [List.forall₂_map_left_iff]
      exact List.forall₂_map_right_of_mem fun q hq => h.mirrors_interface hq
    · exact List.forall₂_map_right_of_mem fun e he => h.mirrors_static he
  have husable : ∀ r ∈ (conf.interfaces.zipIdx.map fun q => connectedRoute (startupAddress q)) ++ entries.map startupRoute,
      routeUsable { rt with network := some c } r = true := by
    intro r hr
    obtain ⟨e, -, hm⟩ := hmirrors.mem_right hr
    obtain ⟨p, hp, hup, -⟩ := h.usable hm
    rw [routeUsable, hp, Option.any_some, hup, Bool.or_true]
  have hapart := (List.pairwise_append.mp (h.routes_apart_iff.mpr hdistinct)).2.2
  rw [hc.routes]
  change Option.Rel _ _ (bestRoute _ (entries.map startupRoute ++ _) dst netTableMain)
  rw [bestRoute_append_comm, ← linearScan_eq_bestRoute]
  · exact foldl_mirrors hmirrors husable .none
  · -- Candidates of one length have one network, and a route does not share it with an interface.
    intro r hr r' hr' hc hc' hlen
    have hip : r'.ip = r.ip := by
      rw [← beq_iff_eq.mp hc'.2.1, ← beq_iff_eq.mp hc.2.1, hlen]
    have hclash : routeClash r' r = true := by
      rw [routeClash_iff, hc'.1, hc.1]
      obtain ⟨e, -, rfl⟩ := List.mem_map.mp hr
      exact ⟨rfl, ⟨hip, hlen.symm⟩, fun hboth => hboth.2.1 rfl⟩
    rw [hapart r hr r' hr'] at hclash
    cases hclash

theorem Startup.source_eq (h : Startup conf rt entries) (hload : Loaded conf) (hc : Migrated conf entries c) {i : ℕ}
    {netif : NetifConfig} (hi : conf.interfaces[i]? = some netif) (nextHop : Word) :
    netSource { rt with network := some c } (BitVec.ofNat 32 i) nextHop = netif.ip := by
  have hq : (netif, i) ∈ conf.interfaces.zipIdx := List.mem_zipIdx_iff_getElem?.mpr hi
  have hmem : startupAddress (netif, i) ∈ c.addresses := by
    rw [hc.addresses]
    exact List.mem_map_of_mem hq
  have hip : ∀ a ∈ c.addresses, a.ip ≠ 0 := by
    rw [h.mem_addresses hc (P := fun ip _ => ip ≠ 0)]
    exact fun netif hmem => netUnicast_ne_zero (hload.addresses netif hmem).1
  have hsource : SourceOk c.addresses (BitVec.ofNat 32 i)
      (netSource { rt with network := some c } (BitVec.ofNat 32 i) nextHop) := netSource_sourceOk rfl
  rcases hsource with hzero | ⟨a, ha, hdev, ha'⟩
  · exact absurd hzero (netSource_ne_zero rfl hip hmem rfl)
  · rw [← ha']
    rw [hc.addresses] at ha
    obtain ⟨q, hq', rfl⟩ := List.mem_map.mp ha
    have hindex : q.2 = i := ofNat_inj_of_le (h.index_le hq') (h.index_le hq) hdev
    have hget : conf.interfaces[q.2]? = some q.1 := List.mem_zipIdx_iff_getElem?.mp hq'
    rw [hindex, hi] at hget
    rw [startupAddress, ← Option.some.inj hget]

structure SameAnswer (old new : DropReason × RouteResult) : Prop where
  reason : old.1 = new.1
  route : old.1 = .none → old.2.netifId = new.2.netifId ∧ old.2.mtu = new.2.mtu ∧ old.2.nextHop = new.2.nextHop ∧
    old.2.sourceIp = new.2.sourceIp

theorem sameAnswer_drop {reason : DropReason} (h : reason ≠ .none) (old new : RouteResult) :
    SameAnswer (reason, old) (reason, new) :=
  ⟨rfl, fun hnone => absurd hnone h⟩

theorem Startup.gateway_valid (h : Startup conf rt entries) {e : RouteEntry} (he : e ∈ rt.routes) (hgateway : e.gateway ≠ 0) :
    ipv4DestinationValid rt e.gateway = true ∧ routeIsDirect rt.routes e.netifId e.gateway = true := by
  have hentry := h.routes.gateways e he
  simp only [gatewayValid, Bool.or_eq_true, Bool.and_eq_true, beq_iff_eq, hgateway, false_or, List.all_eq_true,
    bne_iff_ne] at hentry
  obtain ⟨hdirect, hall⟩ := hentry
  rw [h.destinationValid_iff, Foreign]
  refine ⟨⟨?_, fun netif hmem => (hall netif hmem).imp_left Ne.symm⟩, hdirect⟩
  rw [routeIsDirect, Bool.and_eq_true] at hdirect
  exact hdirect.1

def entryOutcome (rt : Routing) (dst : Word) (out : RouteResult) (best : RouteEntry) : DropReason × RouteResult :=
  match PulsarNetstack.netifById rt best.netifId with
  | none => (.invalidEgress, out)
  | some port =>
    if !port.up then (.invalidEgress, out)
    else
      let nextHop := if best.gateway ≠ 0 then best.gateway else dst
      if best.gateway = 0 ∧ !subnetHost best.network best.prefixLen dst then (.invalidDestination, out)
      else if best.gateway ≠ 0 ∧
          (!ipv4DestinationValid rt nextHop ∨ !routeIsDirect rt.routes best.netifId nextHop) then (.invalidEgress, out)
      else (.none, { netifId := port.id, mtu := port.mtu, sourceIp := port.ip, nextHop := nextHop })

theorem Startup.outcome_agrees (h : Startup conf rt entries) (hload : Loaded conf) (hc : Migrated conf entries c)
    {e : RouteEntry} {r : NetRoute} (he : e ∈ rt.routes) (hm : Mirrors rt.ports.length e r)
    (hmatch : netMatch dst r.ip r.prefixLen = true) (out : RouteResult) (pref : Word) :
    SameAnswer (entryOutcome rt dst out e)
      (routeOutcome { rt with network := some c } dst 0 netTableMain pref r) := by
  obtain ⟨p, hp, hup, hid, netif, hi, hip⟩ := h.usable hm
  have hold : PulsarNetstack.netifById rt e.netifId = some p := by
    rw [← hm.dev_toNat h.ports_le]
    exact hp
  have hsource (nextHop : Word) : netSource { rt with network := some c } (BitVec.ofNat 32 p.id) nextHop = p.ip := by
    rw [hid, h.source_eq hload hc hi, hip]
  have hne : p.ip ≠ 0 := by
    rw [hip]
    exact netUnicast_ne_zero (hload.addresses netif (List.mem_of_getElem? hi)).1
  have hhost : subnetHost e.network e.prefixLen dst = netHost dst r.prefixLen :=
    Bool.eq_iff_iff.mpr (hm.host_iff hmatch)
  rw [entryOutcome, routeOutcome, hold, hp, hm.type, hm.gateway, hhost]
  dsimp only
  rw [hup, if_neg (by decide), if_neg (not_not.mpr rfl)]
  by_cases hinvalid : e.gateway = 0 ∧ (!netHost dst r.prefixLen) = true
  · rw [if_pos hinvalid, if_pos hinvalid]
    exact sameAnswer_drop (by decide) _ _
  · rw [if_neg hinvalid, if_neg hinvalid, if_neg, hsource, if_neg (not_not.mpr rfl), if_pos hne]
    · refine ⟨rfl, fun _ => ⟨?_, rfl, rfl, rfl⟩⟩
      change p.id = r.dev.toNat % 65536
      rw [hm.dev_toNat h.ports_le, hid, Nat.mod_eq_of_lt]
      have := h.ports_le
      have := hm.netifId
      omega
    · rintro ⟨hgateway, hrefused⟩
      obtain ⟨hvalid, hdirect⟩ := h.gateway_valid he hgateway
      rw [if_pos hgateway, hvalid, hdirect] at hrefused
      simp at hrefused

theorem Startup.table_main (h : Startup conf rt entries) (hc : Migrated conf entries c) {r : NetRoute} (hr : r ∈ c.routes) :
    r.table = netTableMain := by
  rw [hc.routes] at hr
  rcases List.mem_append.mp hr with hr | hr
  · obtain ⟨e, he, rfl⟩ := List.mem_map.mp hr
    exact (h.mirrors_static he).table
  · obtain ⟨q, hq, rfl⟩ := List.mem_map.mp hr
    exact (h.mirrors_interface hq).table

theorem routeEntryStep_mem {l : List RouteEntry} {e : RouteEntry} (h : l.foldl (routeEntryStep dst) none = some e) :
    e ∈ l := by
  have hmem (best : Option RouteEntry) (hbest : ∀ b ∈ best, b ∈ l) (l' : List RouteEntry) (hl' : ∀ b ∈ l', b ∈ l) :
      ∀ b ∈ l'.foldl (routeEntryStep dst) best, b ∈ l := by
    induction l' generalizing best with
    | nil => exact hbest
    | cons r l' ih =>
      apply ih
      · rw [routeEntryStep]
        split
        · intro b hb
          rw [← Option.some.inj hb]
          exact hl' r List.mem_cons_self
        · exact hbest
      · exact fun b hb => hl' b (.tail _ hb)
  exact hmem none nofun l (fun b hb => hb) e h

theorem Startup.lookup_agrees (h : Startup conf rt entries) (hload : Loaded conf) (hinit : netConfigInit rt = .ok c)
    (hdst : netifIsLocalIp rt dst = false) (out out' : RouteResult) :
    SameAnswer (ipv4RouteLookup rt dst out) (ipv4RouteQuery { rt with network := some c } dst 0 netIifNone out') := by
  have hc := h.migrated hinit
  rw [netConfigInit_eq h] at hinit
  have hdistinct := (h.valid_iff hload).mp (netConfigPrepare_eq_ok hinit).1
  obtain ⟨-, hindex, hquery⟩ := ipv4RouteQuery_eq_policyReference hinit rt dst 0 netIifNone out'
  rw [show ipv4RouteQuery { rt with network := some c } dst 0 netIifNone out' = _ from
    hquery c.routesIndexed c.routeIndex hindex]
  have hlocal : localResult { rt with network := some c } c dst = none := by
    have hnone : ∀ a ∈ c.addresses, a.ip ≠ dst := by
      rw [h.mem_addresses hc (P := fun ip _ => ip ≠ dst)]
      intro netif hmem hip
      have := h.netifIsLocalIp_iff.mpr ⟨netif, hmem, hip⟩
      rw [hdst] at this
      cases this
    rw [localResult, List.find?_eq_none.mpr, Option.map_none]
    intro a ha hbeq
    exact hnone a ha (beq_iff_eq.mp hbeq).symm
  rw [ipv4RouteLookup, h.network, policyReference, hlocal, ipv4RouteLookupEntries]
  dsimp only
  by_cases hforeign : Foreign conf dst
  · rw [h.destinationValid_iff.mpr hforeign, (h.snapshotValid_iff hc).mpr hforeign, if_neg (by decide), if_pos rfl,
      policyStages, hc.rules, List.filter_nil, List.map_nil, List.nil_append]
    have hdefault : bestRoute { rt with network := some c } c.routes dst netTableDefault = none := by
      apply bestRoute_eq_none_iff.mpr
      intro r hr hcandidate
      have htable := h.table_main hc hr
      rw [hcandidate.1] at htable
      exact absurd htable (by decide)
    have hrel : Option.Rel (Mirrors rt.ports.length) (rt.routes.foldl (routeEntryStep dst) none) _ :=
      h.best_mirrors hc hdistinct
    cases hbest : rt.routes.foldl (routeEntryStep dst) none with
    | none =>
      rw [hbest] at hrel
      cases hnew : bestRoute { rt with network := some c } c.routes dst netTableMain with
      | none =>
        rw [policySearch, hnew]
        dsimp only
        rw [policySearch, hdefault]
        exact sameAnswer_drop (by decide) _ _
      | some r =>
        rw [hnew] at hrel
        cases hrel
    | some e =>
      rw [hbest] at hrel
      cases hnew : bestRoute { rt with network := some c } c.routes dst netTableMain with
      | none =>
        rw [hnew] at hrel
        cases hrel
      | some r =>
        rw [hnew] at hrel
        rw [policySearch, hnew]
        cases hrel with
        | some hm => exact h.outcome_agrees hload hc (routeEntryStep_mem hbest) hm (bestRoute_mem hnew).2.2.1 out _
  · have hold : ipv4DestinationValid rt dst = false := eq_false_of_ne_true fun hv => hforeign (h.destinationValid_iff.mp hv)
    have hnew : ipv4DestinationValid { rt with network := some c } dst = false :=
      eq_false_of_ne_true fun hv => hforeign ((h.snapshotValid_iff hc).mp hv)
    rw [hold, hnew]
    exact sameAnswer_drop (by decide) _ _

end Migration

/-- The first snapshot routes as the table that it was built from. -/
theorem startup_migration {file : List Char} {devices : ℕ → Option PortDevice} {rt : Routing} {c : NetConfig}
    (hload : appConfigLoad file = .ok conf) (hports : portInit conf devices = some rt) (hinit : netConfigInit rt = .ok c)
    (dst : Word) (hdst : netifIsLocalIp rt dst = false) (out out' : RouteResult) :
    SameAnswer (ipv4RouteLookup rt dst out) (ipv4RouteQuery { rt with network := some c } dst 0 netIifNone out') := by
  obtain ⟨entries, hstart⟩ := portInit_startup hports
  exact hstart.lookup_agrees (appConfigLoad_loaded hload) hinit hdst out out'

def gatewaySnapshot : NetConfig where
  generation := 1
  addresses := [{ ip := htonl 0xc0000202, prefixLen := 24, dev := 0 }]
  routes := [{ ip := 0, prefixLen := 0, gateway := htonl 0xc0000201, dev := 0, table := netTableMain },
    { ip := htonl 0xc0000200, prefixLen := 24, dev := 0, table := netTableMain, connected := 1 }]

theorem gatewayFile_migrates : netConfigInit gatewayStart = .ok gatewaySnapshot ∧
    ipv4RouteLookup gatewayStart (htonl 0x08080808) {} =
      (.none, { netifId := 0, mtu := 1500, sourceIp := htonl 0xc0000202, nextHop := htonl 0xc0000201 }) ∧
    SameAnswer (ipv4RouteLookup gatewayStart (htonl 0x08080808) {})
      (ipv4RouteQuery { gatewayStart with network := some gatewaySnapshot } (htonl 0x08080808) 0 netIifNone {}) := by
  have hload : appConfigLoad gatewayFile = .ok gatewayAppConfig := by decide +kernel
  have hports : portInit gatewayAppConfig tapDevice = some gatewayStart := rfl
  have hinit : netConfigInit gatewayStart = .ok gatewaySnapshot := by decide
  exact ⟨hinit, by decide, startup_migration hload hports hinit _ (by decide) _ _⟩

end PulsarNetstack
