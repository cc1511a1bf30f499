import PulsarNetstack.AcceptedSends
import PulsarNetstack.LocalAddresses

namespace PulsarNetstack

open Program

variable {w : Watch} {rt rt' : Runtime} {submit : Submit} {fuel : ℕ}

theorem Watches.tends {A : Runtime → Prop} (h : Watches submit w A) (hw : w.Open) : Tends submit A where
  tidy ha q hsends hpending := h.unstore hw.1 ha q.slots q.queue q.activeOutput hsends hpending
  icmpSendError := h.icmpSendError
  release i := h.release i hw
  arpRequest := h.arpRequest
  neighbourUpdate := h.neighbourUpdate hw

section Background

variable (hw : w.Open)
include hw

theorem tableCall_audited (call : TcpEnv → SocketTable → Word → ℕ → SocketTable × List TcpEffect × CallReply) :
    Safe (Audited w) (tableCall (graphSubmit fuel) call) fun _ => Audited w := by
  have hwatches : Watches (graphSubmit fuel) w (Audited w) := Audited.watches
  apply Safe.bind hwatches.timerCycles
  intro now
  apply Safe.get_bind
  intro rt h
  dsimp only
  apply Safe.bind (Q := fun _ => Audited w)
  · exact Safe.set fun _ _ => h.uncounted (.same rfl)
  · exact fun _ => Safe.bind (Safe.forM fun e _ => hwatches.tcpEffect hw.1 e) fun _ => Safe.pure fun _ h => h

theorem receiveBurst_audited (portId : ℕ) (buffers : List Buffer) :
    Safe (Audited w) (receiveBurst (graphSubmit fuel) portId buffers) fun _ => Audited w := by
  apply Safe.get_bind
  intro rt h
  dsimp only
  apply Safe.bind (Q := fun _ => Audited w)
  · exact Safe.set fun _ _ => h.uncounted ⟨⟨rfl, rfl, rfl, Nat.le_add_right _ _⟩, rfl, rfl, rfl⟩
  intro _
  apply Safe.ite
  · refine fun _ => graphSubmit_audited fun p hp => ⟨.inl hw, .inr ?_⟩
    obtain ⟨b, -, rfl⟩ := List.mem_map.mp hp
    rw [hw.1]
    exact iff_of_false Bool.false_ne_true nofun
  · exact fun _ => Safe.pure fun _ h => h

theorem runTcpTick_audited (now : ℕ) : Safe (Audited w) (runTcpTick (graphSubmit fuel) now) fun _ => Audited w := by
  apply Safe.get_bind
  intro rt h
  dsimp only
  apply Safe.bind (Q := fun _ => Audited w)
  · exact Safe.set fun _ _ => h.uncounted (.same rfl)
  · exact fun _ => Safe.forM fun e _ => Audited.watches.tcpEffect hw.1 e

theorem appStep_audited (bursts : ℕ → List Buffer) (timerNext : ℕ) :
    Safe (Audited w) (appStep (graphSubmit fuel) bursts timerNext) fun _ => Audited w := by
  have hwatches : Watches (graphSubmit fuel) w (Audited w) := Audited.watches
  apply Safe.peek
  intro rt _
  apply Safe.bind (Q := fun _ => Audited w)
  · apply Safe.forM
    intro port _
    apply Safe.ite
    · exact fun _ => receiveBurst_audited hw _ _
    · exact fun _ => Safe.pure fun _ h => h
  intro _
  apply Safe.bind hwatches.timerCycles
  intro now
  apply Safe.bind ((hwatches.tends hw).neighbourTick now)
  intro _
  apply Safe.ite
  · exact fun _ => Safe.pure fun _ h => h
  · exact fun _ => Safe.peek fun _ _ => Safe.bind (runTcpTick_audited hw now) fun _ => Safe.pure fun _ h => h

theorem adminActivate_audited (group : AdminGroup) (next : Option NetConfig) :
    Safe (Audited w) (adminActivate (graphSubmit fuel) group next) fun _ => Audited w := by
  apply Safe.get_bind
  intro rt h
  have hrefused (e : Errno) : Safe (fun s => s = rt) (pure (.error e) : GraphM (Except Errno Unit)) fun _ => Audited w := by
    apply Safe.pure
    rintro _ rfl
    exact h
  split
  · apply Safe.ite
    · exact fun _ => hrefused _
    intro _
    apply Safe.ite
    · exact fun _ => hrefused _
    intro _
    apply Safe.bind (Q := fun _ => Audited w)
    · exact Safe.set fun _ _ => h.uncounted (.same rfl)
    intro _
    apply Safe.ite
    · exact fun _ => Safe.bind ((Audited.watches.tends hw).neighbourFini) fun _ => Safe.pure fun _ h => h
    · exact fun _ => Safe.pure fun _ h => h
  · exact hrefused _

theorem adminWorkerOperation_audited (d : PortDriver) (names : List String) (steps : ℕ) (r : AdminRequest) :
    Safe (Audited w) (adminWorkerOperation (graphSubmit fuel) d names steps r) fun _ => Audited w := by
  apply (Audited.watches.tends hw).adminWorkerOperation
  exact fun _ _ h => h.uncounted (.same rfl)

end Background

def sendPacket (id : ℕ) (s : SocketEntry) (dst : SockAddr) (b : Buffer) : Packet :=
  (⟨id, b⟩, { srcPort := s.localAddr.port, srcIp := s.localAddr.ip, dstPort := dst.port, dstIp := dst.ip,
              ipProtocol := protoUdp, reportAcceptance := true })

def sendState (rt : Runtime) : Runtime :=
  { rt with
    calls := rt.calls + 1
    nextMbuf := rt.nextMbuf + 1
    ledger := { rt.ledger with allocated := rt.ledger.allocated ++ [rt.nextMbuf] } }

/-- Why a datagram to any destination can be refused; none of the tests looks for an address of the host. -/
inductive Undeliverable (fuel : ℕ) (rt : Runtime) (s : SocketEntry) (data : List Byte) (dst : SockAddr) : Prop
  | size (large : psDgramMaxPayload < data.length)
  | route (reason : (ipv4RouteQuery rt.routing dst.ip s.localAddr.ip netIifNone {}).1 ≠ .none)
  | mtu (large : (ipv4RouteQuery rt.routing dst.ip s.localAddr.ip netIifNone {}).2.mtu < data.length + ipv4HdrLen + udpHdrLen)
  | mbuf (failed : rt.world.alloc rt.calls = false)
  | graph {b : Buffer} {rt' : Runtime} (built : freshBuffer.append data = some b)
      (run : graphSubmit fuel .ipv4Route [sendPacket rt.nextMbuf s dst b] (sendState rt) = some (⟨⟩, rt'))
      (dropped : rt'.acceptedSends = rt.acceptedSends)

inductive UdpSend (fuel : ℕ) (rt : Runtime) (s : SocketEntry) (data : List Byte) (dst : SockAddr) :
    Option (CallReply × Runtime) → Prop
  | refused {e : Errno} {rt' : Runtime} (q : Uncounted rt rt') (why : Undeliverable fuel rt s data dst) :
      UdpSend fuel rt s data dst (some ({ result := .error e }, rt'))
  | submitted {b : Buffer} (size : ¬ psDgramMaxPayload < data.length)
      (mtu : (ipv4RouteQuery rt.routing dst.ip s.localAddr.ip netIifNone {}).1 = .none →
        ¬ (ipv4RouteQuery rt.routing dst.ip s.localAddr.ip netIifNone {}).2.mtu < data.length + ipv4HdrLen + udpHdrLen)
      (alloc : rt.world.alloc rt.calls = true) (built : freshBuffer.append data = some b) :
      UdpSend fuel rt s data dst ((graphSubmit fuel .ipv4Route [sendPacket rt.nextMbuf s dst b] (sendState rt)).map fun r =>
        ({ result := if r.2.acceptedSends ≠ rt.acceptedSends then .ok data.length else .error .eio }, r.2))

theorem sendFailure_cases {s : SocketEntry} {data : List Byte} {dst : SockAddr} (reason : DropReason) (error : Errno)
    {rt₁ : Runtime} (q : Uncounted rt rt₁) (why : Undeliverable fuel rt s data dst) :
    UdpSend fuel rt s data dst (sendFailure reason error rt₁) :=
  .refused ⟨⟨q.accepted, q.sent, q.pending, q.nextMbuf⟩, q.slots, q.queue, q.activeOutput⟩ why

theorem udpSend_cases (s : SocketEntry) (data : List Byte) (dst : SockAddr) (rt : Runtime) :
    UdpSend fuel rt s data dst (udpSend (graphSubmit fuel) s data dst rt) := by
  have hsame : Uncounted rt rt := .same rfl
  rw [udpSend, get_bind_run]
  generalize hfound : ipv4RouteQuery rt.routing dst.ip s.localAddr.ip netIifNone {} = found
  dsimp only
  split
  · rename_i hlarge
    exact sendFailure_cases _ _ hsame (.size hlarge)
  rename_i hsize
  split
  · rename_i hreason
    refine sendFailure_cases _ _ hsame (.route fun hnone => ?_)
    rw [← hfound, hnone] at hreason
    rcases hreason with h | h | h <;> cases h
  split
  · rename_i hlarge
    exact sendFailure_cases _ _ hsame (.mtu (hfound ▸ hlarge.2))
  rename_i hmtu
  rw [bind_run]
  cases halloc : rt.world.alloc rt.calls with
  | false =>
    have hnone : allocMbuf rt = some (none, { rt with calls := rt.calls + 1 }) := by
      change some (if rt.world.alloc rt.calls then _ else _) = _
      rw [halloc]
      rfl
    rw [hnone]
    exact sendFailure_cases _ _ (.same rfl) (.mbuf halloc)
  | true =>
    have hsome : allocMbuf rt = some (some ⟨rt.nextMbuf, freshBuffer⟩, sendState rt) := by
      change some (if rt.world.alloc rt.calls then _ else _) = _
      rw [halloc]
      rfl
    have hroom : ¬ freshBuffer.tailroom < data.length := by
      unfold psDgramMaxPayload at hsize
      change ¬ 2048 < data.length
      omega
    obtain ⟨b, hbuilt⟩ : ∃ b, freshBuffer.append data = some b := ⟨_, if_neg hroom⟩
    rw [hsome]
    dsimp only [Option.bind]
    rw [hbuilt]
    change UdpSend fuel rt s data dst ((graphSubmit fuel .ipv4Route [sendPacket rt.nextMbuf s dst b] (sendState rt)).bind
      (some ∘ fun r => (({ result := if r.2.acceptedSends ≠ rt.acceptedSends then .ok data.length else .error .eio } : CallReply), r.2)))
    rw [← Option.map_eq_bind]
    exact .submitted hsize (fun hnone hlarge => hmtu ⟨hfound ▸ hnone, hfound ▸ hlarge⟩) halloc hbuilt

inductive Sending (fuel length : ℕ) (rt : Runtime) : Option (CallReply × Runtime) → Prop
  | refused {e : Errno} {rt' : Runtime} (q : Uncounted rt rt') : Sending fuel length rt (some ({ result := .error e }, rt'))
  | submitted {rt₁ : Runtime} {b : Buffer} {ctx : PacketCtx} (q : Uncounted rt rt₁) (next : rt₁.nextMbuf = rt.nextMbuf + 1)
      (ledger : rt₁.ledger = { rt.ledger with allocated := rt.ledger.allocated ++ [rt.nextMbuf] })
      (report : ctx.reportAcceptance = true) :
      Sending fuel length rt ((graphSubmit fuel .ipv4Route [(⟨rt.nextMbuf, b⟩, ctx)] rt₁).map fun r =>
        ({ result := if r.2.acceptedSends ≠ rt.acceptedSends then .ok length else .error .eio }, r.2))

theorem coreSendto_bind (fuel : ℕ) (fd : ℤ) (data : List Byte) (dst : Option SockAddr) (rt : Runtime) :
    coreSendto (graphSubmit fuel) fd data dst rt =
      match coreSendtoBind rt.tcpEnv rt.sockets fd true data.length dst with
      | (sockets, .error e) => some ({ result := .error e }, { rt with calls := rt.calls + 1, sockets := sockets })
      | (sockets, .ok slot) => udpSend (graphSubmit fuel) (sockets.entries.getD slot {}) data (dst.getD {})
          { rt with calls := rt.calls + 1, sockets := sockets } := by
  generalize hbound : coreSendtoBind rt.tcpEnv rt.sockets fd true data.length dst = bound
  have hcall {call : TcpEnv → SocketTable → Word → ℕ → SocketTable × List TcpEffect × CallReply}
      (h : call = fun env t _ _ => ((coreSendtoBind env t fd true data.length dst).1, [],
        CallReply.of (coreSendtoBind env t fd true data.length dst).2 fun slot => { result := .ok slot })) :
      tableCall (graphSubmit fuel) call rt = some (CallReply.of bound.2 fun slot => { result := .ok slot },
        { rt with calls := rt.calls + 1, sockets := bound.1 }) := by
    rw [h, ← hbound]
    rfl
  unfold coreSendto
  rw [bind_run, hcall rfl]
  obtain ⟨sockets, result⟩ := bound
  cases result with
  | error e => rfl
  | ok slot => rfl

theorem coreSendto_sending (fuel : ℕ) (fd : ℤ) (data : List Byte) (dst : Option SockAddr) (rt : Runtime) :
    Sending fuel data.length rt (coreSendto (graphSubmit fuel) fd data dst rt) := by
  rw [coreSendto_bind]
  obtain ⟨sockets, result⟩ := coreSendtoBind rt.tcpEnv rt.sockets fd true data.length dst
  cases result with
  | error e => exact .refused (.same rfl)
  | ok slot =>
    let clocked : Runtime := { rt with calls := rt.calls + 1, sockets := sockets }
    have hsend : UdpSend fuel clocked (sockets.entries.getD slot {}) data (dst.getD {}) _ := udpSend_cases _ _ _ _
    change Sending fuel data.length rt (udpSend (graphSubmit fuel) (sockets.entries.getD slot {}) data (dst.getD {}) clocked)
    generalize udpSend (graphSubmit fuel) (sockets.entries.getD slot {}) data (dst.getD {}) clocked = run at hsend ⊢
    cases hsend with
    | refused q => exact .refused ⟨⟨q.accepted, q.sent, q.pending, q.nextMbuf⟩, q.slots, q.queue, q.activeOutput⟩
    | submitted => exact .submitted ⟨⟨rfl, rfl, rfl, Nat.le_succ _⟩, rfl, rfl, rfl⟩ rfl rfl rfl

theorem IdleGraph.uncounted (h : IdleGraph rt) (q : Uncounted rt rt') : IdleGraph rt' := by
  refine ⟨?_, ?_, q.activeOutput.trans h.active⟩
  · rw [q.queue]
    exact h.queue
  · rw [q.slots]
    exact h.slots

def Clean (rt : Runtime) : Prop := IdleGraph rt ∧ ∀ i, ∀ p ∈ (rt.pendingNeighbours i).packets, p.2.reportAcceptance = false

theorem Clean.audited (h : Clean rt) : Audited { base := rt.acceptedSends } rt :=
  ⟨h.1, .of_none rfl rfl fun _ => h.2⟩

theorem Audited.toClean (h : Audited w rt) (hclean : w.clean) : Clean rt := ⟨h.1, h.2.stored hclean⟩

theorem safe_clean {α : Type} {x : GraphM α}
    (h : ∀ base : ℤ, Safe (Audited { base := base }) x fun _ => Audited { base := base }) : Safe Clean x fun _ => Clean :=
  ⟨fun rt a rt' hrt hrun => ((h rt.acceptedSends).post rt a rt' hrt.audited hrun).toClean trivial⟩

theorem submitted_audited {rt₁ : Runtime} {b : Buffer} {ctx : PacketCtx} {base : ℤ} (clean : Prop) (hidle : IdleGraph rt)
    (hstored : clean → ∀ i, ∀ p ∈ (rt.pendingNeighbours i).packets, p.2.reportAcceptance = false)
    (hbase : (rt.acceptedSends : ℤ) = base + (placedIds rt).countP fun id => some rt.nextMbuf = some id)
    (q : Uncounted rt rt₁) (next : rt₁.nextMbuf = rt.nextMbuf + 1) (report : ctx.reportAcceptance = true)
    (hrun : graphSubmit fuel .ipv4Route [(⟨rt.nextMbuf, b⟩, ctx)] rt₁ = some (⟨⟩, rt')) :
    Audited ⟨some rt.nextMbuf, clean, base⟩ rt' := by
  refine (graphSubmit_audited ?_).post rt₁ _ rt' ⟨hidle.uncounted q, ?_, ?_, ?_⟩ hrun
  · intro p hp
    rw [List.mem_singleton.mp hp]
    exact ⟨.inr rfl, .inr (iff_of_true report rfl)⟩
  · intro id hid
    rw [next, ← Option.some.inj hid]
    exact Nat.lt_succ_self _
  · rw [q.pending]
    exact hstored
  · rw [q.accepted, q.placedIds]
    exact hbase

theorem coreSendto_clean (fd : ℤ) (data : List Byte) (dst : Option SockAddr) :
    Safe Clean (coreSendto (graphSubmit fuel) fd data dst) fun _ => Clean := by
  refine ⟨fun rt reply rt' h hrun => ?_⟩
  have hsend := coreSendto_sending fuel fd data dst rt
  rw [hrun] at hsend
  generalize hres : some (reply, rt') = res at hsend
  cases hsend with
  | refused q =>
    obtain ⟨-, rfl⟩ := Prod.mk.inj (Option.some.inj hres)
    refine ⟨h.1.uncounted q, ?_⟩
    rw [q.pending]
    exact h.2
  | submitted q next ledger report =>
    obtain ⟨⟨_, rt₂⟩, hsubmit, he⟩ := Option.map_eq_some_iff.mp hres.symm
    obtain ⟨-, rfl⟩ := Prod.mk.inj he
    -- The counter may have started anywhere.
    exact (submitted_audited True h.1 (fun _ => h.2) (eq_add_of_sub_eq rfl) q next report hsubmit).toClean trivial

def SocketCall.sends : SocketCall → Bool
  | .send .. | .sendto .. => true
  | _ => false

theorem runCall_audited (hw : w.Open) {call : SocketCall} (hcall : call.sends = false) :
    Safe (Audited w) (runCall (graphSubmit fuel) call) fun _ => Audited w := by
  cases call with
  | send | sendto => cases hcall
  | _ =>
    unfold runCall
    exact tableCall_audited hw _

theorem coreSendAny_clean (fd : ℤ) (data : List Byte) : Safe Clean (coreSendAny (graphSubmit fuel) fd data) fun _ => Clean := by
  apply Safe.peek
  intro rt _
  split
  · exact Safe.pure fun _ h => h
  apply Safe.ite
  · exact fun _ => safe_clean fun _ => tableCall_audited ⟨rfl, trivial⟩ _
  intro _
  apply Safe.ite
  · exact fun _ => Safe.pure fun _ h => h
  · exact fun _ => coreSendto_clean fd data _

theorem runCall_clean (call : SocketCall) : Safe Clean (runCall (graphSubmit fuel) call) fun _ => Clean := by
  cases hcall : call.sends with
  | false => exact safe_clean fun _ => runCall_audited ⟨rfl, trivial⟩ hcall
  | true =>
    cases call with
    | send fd data => exact coreSendAny_clean fd data
    | sendto fd data dst => exact coreSendto_clean fd data dst
    | _ => cases hcall

theorem createSocket_clean (owner : ℕ) (m : IpcMessage) :
    Safe Clean (createSocket (graphSubmit fuel) owner m) fun _ => Clean := by
  apply Safe.bind (runCall_clean _)
  intro reply
  split
  · exact Safe.pure fun _ h => h
  · refine Safe.bind (Safe.modify fun rt h => ?_) fun _ => Safe.pure fun _ h => h
    exact ⟨⟨h.1.queue, h.1.slots, h.1.active⟩, h.2⟩

theorem RuntimeStep.clean (hstep : RuntimeStep rt rt') (h : Clean rt) : Clean rt' := by
  cases hstep with
  | progress _ run => exact (safe_clean fun _ => appStep_audited ⟨rfl, trivial⟩ _ _).post rt _ rt' h run
  | call run => exact (runCall_clean _).post rt _ rt' h run
  | dispatch run => exact (daemonDispatch_safe runCall_clean createSocket_clean _).post rt _ rt' h run
  | activate _ _ run => exact (safe_clean fun _ => adminActivate_audited ⟨rfl, trivial⟩ _ _).post rt _ rt' h run
  | operate run => exact (safe_clean fun _ => adminWorkerOperation_audited ⟨rfl, trivial⟩ _ _ _ _).post rt _ rt' h run

theorem RuntimeReachable.clean (h : RuntimeReachable rt) : Clean rt := by
  induction h with
  | boot h =>
    refine ⟨h.idle, fun i p hp => ?_⟩
    rw [h.pending] at hp
    cases hp
  | step _ hstep ih => exact hstep.clean ih

inductive Background (rt rt' : Runtime) : Prop
  | progress {fuel timerNext next : ℕ} {bursts : ℕ → List Buffer}
      (run : appStep (graphSubmit fuel) bursts timerNext rt = some (next, rt'))
  | call {fuel : ℕ} {call : SocketCall} {reply : CallReply} (hcall : call.sends = false)
      (run : runCall (graphSubmit fuel) call rt = some (reply, rt'))
  | activate {fuel : ℕ} {group : AdminGroup} {next : Option NetConfig} {result : Except Errno Unit}
      (run : adminActivate (graphSubmit fuel) group next rt = some (result, rt'))
  | operate {fuel steps : ℕ} {driver : PortDriver} {names : List String} {request : AdminRequest} {result : Except Errno Unit}
      (run : adminWorkerOperation (graphSubmit fuel) driver names steps request rt = some (result, rt'))

theorem Background.accepted (hstep : Background rt rt') (h : Clean rt) : rt'.acceptedSends = rt.acceptedSends := by
  have hw : Watch.Open { base := rt.acceptedSends } := ⟨rfl, trivial⟩
  have haudited : Audited { base := rt.acceptedSends } rt' := by
    cases hstep with
    | progress run => exact (appStep_audited hw _ _).post rt _ rt' h.audited run
    | call hcall run => exact (runCall_audited hw hcall).post rt _ rt' h.audited run
    | activate run => exact (adminActivate_audited hw _ _).post rt _ rt' h.audited run
    | operate run => exact (adminWorkerOperation_audited hw _ _ _ _).post rt _ rt' h.audited run
  exact Int.ofNat_inj.mp (haudited.2.accepted_eq rfl)

theorem storedIds_uncounted (q : Uncounted rt rt') : storedIds rt' = storedIds rt := by
  unfold storedIds
  rw [q.pending]

theorem DistinctMbufs.uncounted (h : DistinctMbufs rt []) (q : Uncounted rt rt') : DistinctMbufs rt' [] := by
  refine ⟨?_, ?_, ?_⟩
  · rw [storedIds_uncounted q]
    exact h.nodup
  · rw [storedIds_uncounted q]
    exact fun i hi => (h.fresh i hi).trans_le q.nextMbuf
  · rw [q.pending]
    exact h.stored

theorem DistinctMbufs.lt_of_stored (h : DistinctMbufs rt []) {id : ℕ} (hid : id ∈ storedIds rt) : id < rt.nextMbuf :=
  h.fresh id (Multiset.mem_add.mpr (.inr hid))

theorem submitted_returns {rt₁ : Runtime} (b : Buffer) (ctx : PacketCtx) (hidle : IdleGraph rt) (hmbufs : DistinctMbufs rt [])
    (hempty : rt.ledger = {}) (q : Uncounted rt rt₁) (next : rt₁.nextMbuf = rt.nextMbuf + 1)
    (ledger : rt₁.ledger = { rt.ledger with allocated := rt.ledger.allocated ++ [rt.nextMbuf] })
    (hfuel : NodeId.ipv4Route.weight ≤ fuel) :
    ∃ rt', graphSubmit fuel .ipv4Route [(⟨rt.nextMbuf, b⟩, ctx)] rt₁ = some (⟨⟩, rt') ∧ IdleGraph rt' ∧
      DistinctMbufs rt' [] ∧ (placedIds rt').Nodup := by
  have hledger : rt₁.ledger = { allocated := [rt.nextMbuf] } := by
    rw [ledger, hempty]
    rfl
  have hidle₁ := hidle.uncounted q
  let c : Setting := { base := storedIds rt, limit := NodeId.ipv4Route.weight, running := [], routing := rt₁.routing,
                       drops := rt₁.graph.dropReasons }
  have hbase : c.base + (rt₁.ledger.allocated : Multiset ℕ) = storedIds rt + {rt.nextMbuf} := by
    rw [hledger]
    rfl
  have hids : rt₁.graph.ids {} = 0 := hidle₁.tally _
  have hcost : rt₁.graph.cost {} = 0 := hidle₁.tally _
  have hbetween : Between c (idsOf [(⟨rt.nextMbuf, b⟩, ctx)] + 0) (1 * NodeId.ipv4Route.weight + 0) rt₁ {} := by
    refine ⟨Nat.zero_le 1, hidle₁.active, hidle₁.graphOk, ?_, ?_, ?_, ?_, ?_, ?_, rfl⟩
    · rw [hbase, accounted, hids, storedIds_uncounted q, hledger]
      change 0 + storedIds rt + 0 + 0 + ({rt.nextMbuf} + 0) = _
      abel
    · rw [hbase]
      refine Multiset.nodup_add.mpr ⟨(Multiset.nodup_add.mp hmbufs.nodup).2.1, Multiset.nodup_singleton _, ?_⟩
      rw [Multiset.disjoint_singleton]
      exact fun hid => Nat.lt_irrefl _ (hmbufs.lt_of_stored hid)
    · intro id hid
      rw [hbase] at hid
      rw [next]
      rcases Multiset.mem_add.mp hid with hid | hid
      · exact (hmbufs.lt_of_stored hid).trans (Nat.lt_succ_self _)
      · rw [Multiset.mem_singleton.mp hid]
        exact Nat.lt_succ_self _
    · rw [hcost]
      exact Nat.le_refl _
    · intro r
      rw [hledger]
      change rt₁.graph.dropReasons r = rt₁.graph.dropReasons r + 0 + if r = .mbufAllocationFailed then 0 else 0
      rw [ite_self]
      rfl
    · rw [q.pending]
      exact hmbufs.stored
  obtain ⟨hseeded, -⟩ := hbetween.seedFrame
  obtain ⟨rt', credit, hdrain, -, h, hdone⟩ := drain_between fuel hseeded rfl hfuel
  have hidle' := h.idleGraph rfl hdone
  have hids' : rt'.graph.ids {} = 0 := hidle'.tally _
  have hfates : storedIds rt' + rt'.ledger.freedIds + (rt'.ledger.sent : Multiset ℕ) =
      c.base + (rt'.ledger.allocated : Multiset ℕ) := by
    have hold := h.owned.ids
    rw [accounted, hids', zero_add, add_zero] at hold
    exact hold
  have hnodup := h.owned.nodup
  rw [← hfates] at hnodup
  have hstored : (storedIds rt').Nodup := (Multiset.nodup_add.mp (Multiset.nodup_add.mp hnodup).1).1
  refine ⟨rt', ?_, hidle', ⟨?_, ?_, h.owned.stored⟩, ?_⟩
  · have hsize : ¬ graphFrameSize < 1 := by decide
    exact (if_neg hsize).trans hdrain
  · change (0 + storedIds rt').Nodup
    rw [zero_add]
    exact hstored
  · intro id hid
    change id ∈ 0 + storedIds rt' at hid
    rw [zero_add] at hid
    apply h.owned.fresh
    rw [← hfates, add_assoc]
    exact Multiset.mem_add.mpr (.inl hid)
  · rw [placedIds, add_comm]
    refine Multiset.nodup_of_le ?_ hnodup
    rw [add_right_comm]
    exact Multiset.le_add_right _ _

def Placed (id : ℕ) (rt : Runtime) : Prop :=
  id ∈ rt.ledger.sent ∨ ∃ i, ∃ p ∈ (rt.pendingNeighbours i).packets, p.1.id = id

theorem placed_iff {id : ℕ} : Placed id rt ↔ id ∈ placedIds rt := by
  unfold Placed placedIds storedIds
  rw [Multiset.mem_add, Multiset.mem_coe, Multiset.mem_sum]
  apply or_congr_right
  constructor
  · rintro ⟨i, p, hp, rfl⟩
    exact ⟨i, Finset.mem_univ i, Multiset.mem_coe.mpr (List.mem_map.mpr ⟨p, hp, rfl⟩)⟩
  · rintro ⟨i, -, hid⟩
    obtain ⟨p, hp, he⟩ := List.mem_map.mp (Multiset.mem_coe.mp hid)
    exact ⟨i, p, hp, he⟩

structure TruthfulReply (rt : Runtime) (length : ℕ) (reply : CallReply) (rt' : Runtime) : Prop where
  returned : reply.result = .ok length ∨ ∃ e, reply.result = .error e
  accepted : reply.result = .ok length ↔ Placed rt.nextMbuf rt'
  failed : ∀ e, reply.result = .error e → ¬ Placed rt.nextMbuf rt'
  counted : Placed rt.nextMbuf rt' → rt'.acceptedSends = rt.acceptedSends + 1
  uncounted : ¬ Placed rt.nextMbuf rt' → rt'.acceptedSends = rt.acceptedSends

theorem coreSendto_truthful (hidle : IdleGraph rt) (hmbufs : DistinctMbufs rt []) (hempty : rt.ledger = {}) (fd : ℤ)
    (data : List Byte) (dst : Option SockAddr) (hfuel : NodeId.ipv4Route.weight ≤ fuel) :
    ∃ reply rt', coreSendto (graphSubmit fuel) fd data dst rt = some (reply, rt') ∧ IdleGraph rt' ∧ DistinctMbufs rt' [] ∧
      TruthfulReply rt data.length reply rt' := by
  have hnew : rt.nextMbuf ∉ placedIds rt := by
    rw [placedIds, hempty, Multiset.mem_add]
    rintro (hid | hid)
    · exact List.not_mem_nil (Multiset.mem_coe.mp hid)
    · exact Nat.lt_irrefl _ (hmbufs.lt_of_stored hid)
  have hsend := coreSendto_sending fuel fd data dst rt
  generalize coreSendto (graphSubmit fuel) fd data dst rt = run at hsend ⊢
  cases hsend with
  | @refused e rt' q =>
    have hnot : ¬ Placed rt.nextMbuf rt' := by
      rw [placed_iff, q.placedIds]
      exact hnew
    refine ⟨_, rt', rfl, hidle.uncounted q, hmbufs.uncounted q, .inr ⟨e, rfl⟩, ?_, fun _ _ => hnot, ?_, fun _ => q.accepted⟩
    · exact iff_of_false nofun hnot
    · exact fun h => absurd h hnot
  | @submitted rt₁ b ctx q next ledger report =>
    obtain ⟨rt', hrun, hidle', hmbufs', hnodup⟩ := submitted_returns b ctx hidle hmbufs hempty q next ledger hfuel
    have hbase : (rt.acceptedSends : ℤ) =
        rt.acceptedSends + (placedIds rt).countP fun id => some rt.nextMbuf = some id := by
      have hzero : (placedIds rt).countP (fun id => some rt.nextMbuf = some id) = 0 := by
        apply Multiset.countP_eq_zero.mpr
        intro id hid he
        exact hnew (Option.some.inj he ▸ hid)
      rw [hzero]
      exact (add_zero _).symm
    have htally : (rt'.acceptedSends : ℤ) =
        rt.acceptedSends + (placedIds rt').countP fun id => some rt.nextMbuf = some id :=
      (submitted_audited False hidle nofun hbase q next report hrun).2.tally
    have hcount : (placedIds rt').countP (fun id => some rt.nextMbuf = some id) = (placedIds rt').count rt.nextMbuf :=
      Multiset.countP_congr rfl fun id _ => propext Option.some_inj
    have hplaced : Placed rt.nextMbuf rt' → rt'.acceptedSends = rt.acceptedSends + 1 := by
      intro h
      have hone := Multiset.count_eq_one_of_mem hnodup (placed_iff.mp h)
      omega
    have hmissing : ¬ Placed rt.nextMbuf rt' → rt'.acceptedSends = rt.acceptedSends := by
      intro h
      have hzero := Multiset.count_eq_zero_of_notMem fun hid => h (placed_iff.mpr hid)
      omega
    rw [hrun]
    refine ⟨_, rt', rfl, hidle', hmbufs', ?_⟩
    by_cases h : Placed rt.nextMbuf rt'
    · have hne : rt'.acceptedSends ≠ rt.acceptedSends := by
        have := hplaced h
        omega
      rw [if_pos hne]
      exact ⟨.inl rfl, iff_of_true rfl h, nofun, hplaced, hmissing⟩
    · rw [if_neg (not_not_intro (hmissing h))]
      exact ⟨.inr ⟨_, rfl⟩, iff_of_false nofun h, fun _ _ => h, hplaced, hmissing⟩

/-- The call returns, with the length exactly if the datagram was sent or queued, and counts it then and only then; what the
worker does with a queued one later is not counted. -/
theorem datagram_send_truthful :
    (∀ (rt : Runtime) (fd : ℤ) (data : List Byte) (dst : Option SockAddr), IdleGraph rt → DistinctMbufs rt [] →
      ∃ n, ∀ fuel ≥ n, ∃ reply rt', coreSendto (graphSubmit fuel) fd data dst { rt with ledger := {} } = some (reply, rt') ∧
        IdleGraph rt' ∧ DistinctMbufs rt' [] ∧ TruthfulReply rt data.length reply rt') ∧
    ∀ rt, RuntimeReachable rt →
      (∀ i, ∀ p ∈ (rt.pendingNeighbours i).packets, p.2.reportAcceptance = false) ∧
      ∀ rt', Background rt rt' → rt'.acceptedSends = rt.acceptedSends := by
  constructor
  · intro rt fd data dst hidle hmbufs
    refine ⟨NodeId.ipv4Route.weight, fun fuel hfuel => ?_⟩
    have hidle' : IdleGraph { rt with ledger := {} } := ⟨hidle.queue, hidle.slots, hidle.active⟩
    have hmbufs' : DistinctMbufs { rt with ledger := {} } [] := ⟨hmbufs.nodup, hmbufs.fresh, hmbufs.stored⟩
    obtain ⟨reply, rt', hrun, hdone, hnext, h⟩ := coreSendto_truthful hidle' hmbufs' rfl fd data dst hfuel
    exact ⟨reply, rt', hrun, hdone, hnext, h.returned, h.accepted, h.failed, h.counted, h.uncounted⟩
  · exact fun rt h => ⟨h.clean.2, fun rt' hstep => hstep.accepted h.clean⟩

theorem datagram_send_truthful_bound :
    (∃ n, ∀ fuel ≥ n, ∃ reply rt',
      coreSendto (graphSubmit fuel) 1 [104, 105] (some ⟨htonl 0xc0000203, 5001⟩) { boundRuntime with ledger := {} } =
        some (reply, rt') ∧ IdleGraph rt' ∧ DistinctMbufs rt' [] ∧ TruthfulReply boundRuntime 2 reply rt') ∧
      ∀ rt', Background boundRuntime rt' → rt'.acceptedSends = 0 := by
  have hmbufs : DistinctMbufs boundRuntime [] :=
    distinctMbufs_of_empty rfl Multiset.nodup_zero fun i hi => absurd hi (Multiset.notMem_zero i)
  exact ⟨datagram_send_truthful.1 boundRuntime 1 [104, 105] _ boundRuntime_reachable.idle hmbufs,
    (datagram_send_truthful.2 boundRuntime boundRuntime_reachable).2⟩

end PulsarNetstack
