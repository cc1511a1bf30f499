import PulsarNetstack.GraphTriples
import PulsarNetstack.TcpCases

namespace PulsarNetstack

open Program

variable {c : Setting} {held : Multiset ℕ} {credit rank : ℕ} {submit : Submit} {p : Packet} {node : NodeId}

theorem ignore_triple {α : Type} {x : GraphM α} {P Q : Runtime → Prop} (h : Triple (Step rank) P x fun _ => Q) :
    Triple (Step rank) P (do let _ ← x) fun _ => Q := by
  apply Triple.bind h
  intro _
  exact Triple.pure fun _ hq => hq

theorem Triple.spend {α : Type} {x : GraphM α} {credit' : ℕ} {Q : α → Runtime → Prop}
    (h : Triple (Step rank) (Holds c held credit') x Q) (hle : credit' ≤ credit) : Triple (Step rank) (Holds c held credit) x Q :=
  h.conseq (fun _ hs => hs.spend hle) fun _ _ hq => hq

theorem skip_triple {a : PUnit} {credit' : ℕ} (hle : credit' ≤ credit) :
    Triple (Step rank) (Holds c held credit) (pure a : GraphM PUnit) fun _ => Holds c held credit' :=
  Triple.pure fun _ h => h.spend hle

theorem arpRequest_triple {port : PortState} {target : Word} (hlater : NodeId.arpOutput.weight < rank) :
    Triple (Step rank) (Holds c held (NodeId.arpOutput.weight + credit)) (arpRequest submit port target)
      fun _ => Holds c held credit := by
  apply Triple.bind allocMbuf_triple
  rintro (_ | m)
  · apply Triple.modify
    intro rt h
    obtain ⟨hrunning, out, hactive, hown⟩ := h
    have hpaid := hown.paid
    have h' : Holds c held credit { rt with
        graph := (rt.graph.countDrop .mbufAllocationFailed 1).updateStats .arpOutput fun s =>
          { s with drops := s.drops + 1, errors := s.errors + 1 }
        ledger := { rt.ledger with arpFailures := rt.ledger.arpFailures + 1 } } := by
      refine ⟨hrunning, out, hactive, hown.ok.congr rfl rfl, ?_, hown.nodup, hown.fresh, ?_, ?_, hown.stored, hown.routing⟩
      · have hids := hown.ids
        rw [← hids]
        change _ = _ + (0 + held)
        rw [zero_add]
        rfl
      · change rt.graph.cost out + credit ≤ c.limit
        omega
      · intro r
        have hdrops := hown.drops r
        have hcount := rt.graph.dropReasons_countDrop .mbufAllocationFailed r
        change (rt.graph.countDrop .mbufAllocationFailed 1).dropReasons r = c.drops r + rt.ledger.counted r +
          if r = .mbufAllocationFailed then rt.ledger.arpFailures + 1 else 0
        rw [hcount, hdrops]
        by_cases hr : r = .mbufAllocationFailed
        · rw [if_pos hr, if_pos (congrArg some hr.symm), if_pos hr]
          omega
        · rw [if_neg hr, if_neg fun he => hr (Option.some.inj he).symm, if_neg hr]
    exact ⟨⟨.other rfl rfl rfl, h'.partitioned⟩, h'⟩
  · exact ignore_triple (inject_triple (p := (m, { egressPortId := port.portId, nextHop := target })) hlater)

theorem releasePending_triple {i : Fin neighbourPendingMax} (hlater : NodeId.ethOutput.weight < rank) :
    Triple (Step rank) (Holds c held (neighbourPendingQueueMax * NodeId.ethOutput.weight + credit)) (releasePending submit i)
      fun _ => Holds c held credit := by
  apply Triple.get_bind
  intro rt h
  have hlen : (rt.pendingNeighbours i).packets.length ≤ neighbourPendingQueueMax := by
    obtain ⟨-, out, -, hown⟩ := h
    exact hown.stored i
  have hsome : rt.activeOutput.isSome = true := by
    obtain ⟨-, out, hactive, -⟩ := h
    rw [hactive]
    rfl
  apply Triple.bind (Q := fun _ => Holds c (idsOf (rt.pendingNeighbours i).packets + held)
    (neighbourPendingQueueMax * NodeId.ethOutput.weight + credit))
  · apply Triple.set
    rintro _ rfl
    exact h.restock (Unnoticed.refl _) (zero_add _) (Nat.zero_le _)
  · intro _
    rw [if_pos hsome]
    apply Triple.spend (forPackets_triple _ (fun p held credit => ignore_triple (emit_triple hlater)) _)
    exact Nat.add_le_add_right (Nat.mul_le_mul_right _ hlen) _

theorem neighbourQueue_triple {netifId now : ℕ} (hlater : NodeId.arpOutput.weight < rank) :
    Triple (Step rank) (Holds c ({p.1.id} + held) (NodeId.arpOutput.weight + credit)) (neighbourQueue submit netifId p now)
      fun reason => if reason = .none then Holds c held credit
        else Holds c ({p.1.id} + held) (NodeId.arpOutput.weight + credit) := by
  apply Triple.get_bind
  intro rt h
  have hrefused : ∀ reason, reason ≠ .none → Triple (Step rank) (fun s => s = rt) (pure reason : GraphM DropReason)
      fun reason => if reason = .none then Holds c held credit
        else Holds c ({p.1.id} + held) (NodeId.arpOutput.weight + credit) := by
    intro reason hne
    apply Triple.pure
    rintro _ rfl
    rw [if_neg hne]
    exact h
  dsimp only
  split
  case h_1 => exact hrefused _ DropReason.noConfusion
  case h_2 i hi =>
  split
  case isTrue => exact hrefused _ DropReason.noConfusion
  case isFalse hlen =>
  split
  case h_1 => exact hrefused _ DropReason.noConfusion
  case h_2 port hport =>
  have hroom : (rt.pendingNeighbours i).packets.length ≤ neighbourPendingQueueMax := by
    obtain ⟨-, out, -, hown⟩ := h
    exact hown.stored i
  apply Triple.bind (Q := fun _ => Holds c held (NodeId.arpOutput.weight + credit))
  · apply Triple.set
    rintro _ rfl
    refine h.restock ⟨rfl, rfl, rfl, rfl, rfl, rfl, rfl, rfl⟩ ?_ ?_
    · rw [apply_ite PendingNeighbour.packets, ite_self, idsOf_append, add_assoc]
      rfl
    · rw [apply_ite PendingNeighbour.packets, ite_self, List.length_append]
      exact Nat.lt_of_le_of_ne hroom hlen
  · intro _
    split
    · apply Triple.bind (arpRequest_triple hlater)
      intro _
      exact Triple.pure fun _ h => h
    · exact Triple.pure fun _ h => h.spend (Nat.le_add_left _ _)

theorem neighbourUpdate_triple {netifId : ℕ} {ip : Word} {mac : Mac} (hlater : NodeId.ethOutput.weight < rank) :
    Triple (Step rank) (Holds c held (neighbourPendingMax * (neighbourPendingQueueMax * NodeId.ethOutput.weight) + credit))
      (neighbourUpdate submit netifId ip mac) fun _ => Holds c held credit := by
  apply Triple.get_bind
  intro rt h
  dsimp only
  apply Triple.bind (Q := fun _ => Holds c held
    (neighbourPendingMax * (neighbourPendingQueueMax * NodeId.ethOutput.weight) + credit))
  · apply Triple.set
    rintro _ rfl
    exact Unnoticed.holds ⟨rfl, rfl, rfl, rfl, rfl, rfl, rfl, rfl⟩ h
  · intro _
    split
    · apply Triple.bind (Q := fun _ => Holds c held credit)
      · apply Triple.conseq (forM_triple (fun _ => 0) (fun _ => neighbourPendingQueueMax * NodeId.ethOutput.weight) ?_ _)
        · intro rt h
          rw [sum_map_const, List.map_const', List.sum_replicate, nsmul_zero, zero_add, List.length_finRange]
          exact h
        · exact fun _ _ h => h
        · intro i held credit
          rw [zero_add]
          apply Triple.peek
          intro t _
          split
          · exact releasePending_triple hlater
          · exact skip_triple (Nat.le_add_left _ _)
      · intro _
        exact Triple.pure fun _ h => h
    · exact Triple.pure fun _ h => h.spend (Nat.le_add_left _ _)

theorem modifyIcmp_triple {f : IcmpErrorState → IcmpErrorState} :
    Triple (Step rank) (Holds c held credit) (modifyIcmp f) fun _ => Holds c held credit :=
  Triple.unnoticed fun _ => ⟨rfl, rfl, rfl, rfl, rfl, rfl, rfl, rfl⟩

theorem modifyTcp_triple {f : TcpStats → TcpStats} :
    Triple (Step rank) (Holds c held credit) (modifyTcp f) fun _ => Holds c held credit :=
  Triple.unnoticed fun _ => ⟨rfl, rfl, rfl, rfl, rfl, rfl, rfl, rfl⟩

theorem sendNew_triple {bytes : List Byte} {ctx : PacketCtx} {sent failed : GraphM PUnit}
    (hlater : NodeId.ipv4Output.weight < rank)
    (hsent : Triple (Step rank) (Holds c held credit) sent fun _ => Holds c held credit)
    (hfailed : Triple (Step rank) (Holds c held credit) failed fun _ => Holds c held credit) :
    Triple (Step rank) (Holds c held (NodeId.ipv4Output.weight + credit)) (sendNew submit bytes ctx sent failed)
      fun _ => Holds c held credit := by
  apply Triple.bind allocMbuf_triple
  rintro (_ | m)
  · apply hfailed.conseq
    · intro rt h
      change Holds c (0 + held) _ rt at h
      rw [zero_add] at h
      exact h.spend (Nat.le_add_left _ _)
    · exact fun _ _ h => h
  · dsimp only
    generalize m.buffer.append bytes = built
    cases built with
    | none =>
      apply Triple.bind (Triple.spend consume_triple (Nat.le_add_left _ _))
      intro _
      exact hfailed
    | some buffer =>
      apply Triple.bind (inject_triple (p := (⟨m.id, buffer⟩, ctx)) hlater)
      intro _
      exact Triple.ite (fun _ => hsent) fun _ => hfailed

theorem icmpSendError_triple {b : Buffer} {ctx : PacketCtx} {type code : Byte} {mtu now : ℕ}
    (hlater : NodeId.ipv4Output.weight < rank) :
    Triple (Step rank) (Holds c held (NodeId.ipv4Output.weight + credit)) (icmpSendError submit b ctx type code mtu now)
      fun _ => Holds c held credit := by
  have hcount : ∀ f, Triple (Step rank) (Holds c held (NodeId.ipv4Output.weight + credit)) (modifyIcmp f)
      fun _ => Holds c held credit := by
    intro f
    exact Triple.spend modifyIcmp_triple (Nat.le_add_left _ _)
  unfold icmpSendError
  apply Triple.peek
  intro rt _
  -- The kernel would otherwise compute with the 64-bit times.
  generalize takeToken rt.world.hz rt.icmpErrors now = token
  obtain ⟨state, granted⟩ := token
  apply Triple.ite
  · exact fun _ => hcount _
  intro _
  apply Triple.bind modifyIcmp_triple
  intro _
  apply Triple.ite
  · exact fun _ => hcount _
  intro _
  apply Triple.ite
  · exact fun _ => hcount _
  intro _
  exact sendNew_triple hlater modifyIcmp_triple modifyIcmp_triple

theorem tcpEmit_triple {localAddr remoteAddr : SockAddr} {seq ack : Word} {flags : Byte} {window : ℕ} {data : List Byte}
    (hlater : NodeId.ipv4Output.weight < rank) :
    Triple (Step rank) (Holds c held (NodeId.ipv4Output.weight + credit))
      (tcpEmit submit localAddr remoteAddr seq ack flags window data) fun _ => Holds c held credit := by
  unfold tcpEmit
  apply Triple.peek
  intro rt _
  generalize ipv4RouteQuery rt.routing remoteAddr.ip localAddr.ip netIifNone {} = answer
  obtain ⟨reason, route⟩ := answer
  apply Triple.ite
  · intro _
    exact Triple.spend modifyTcp_triple (Nat.le_add_left _ _)
  intro _
  exact sendNew_triple hlater modifyTcp_triple modifyTcp_triple

theorem discardPacket_triple {reason : DropReason} :
    Triple (Step rank) (Holds c ({p.1.id} + held) credit) (discardPacket reason p) fun _ => Holds c held credit := by
  intro rt h
  -- The counters and the free are one step: between the two the books would not balance.
  have hfree : Step rank rt _ ∧ _ := h.free (.discarded reason) (((rt.graph.countDrop reason 1).updateStats .drop fun s =>
    { s with packets := s.packets + 1, drops := s.drops + 1, bytes := s.bytes + p.1.buffer.pktLen }).updateStats .ethOutput
      fun s => { s with drops := s.drops + 1 }) rfl rfl (rt.graph.dropReasons_countDrop reason)
  exact ⟨⟨⟩, _, rfl, .single hfree.1, hfree.2⟩

theorem cancelQueued_triple {localAddr remoteAddr : SockAddr} :
    Triple (Step rank) (Holds c held credit) (cancelQueued localAddr remoteAddr) fun _ => Holds c held credit := by
  apply Triple.conseq (forM_triple (fun _ => 0) (fun _ => 0) ?_ _)
  · intro rt h
    rw [sum_map_const, List.map_const', List.sum_replicate, nsmul_zero, Nat.mul_zero, zero_add, zero_add]
    exact h
  · exact fun _ _ h => h
  intro i held credit
  rw [zero_add, zero_add]
  apply Triple.get_bind
  intro rt h
  let packets := (rt.pendingNeighbours i).packets
  let removed := packets.filter (queuedBy localAddr remoteAddr)
  let keep := packets.filter fun p => !queuedBy localAddr remoteAddr p
  have hparted : idsOf keep + (idsOf removed + held) = idsOf packets + held := by
    rw [← add_assoc, ← idsOf_append]
    congr 1
    apply idsOf_perm
    exact List.perm_append_comm.trans (List.filter_append_perm _ packets)
  have hlen : keep.length ≤ neighbourPendingQueueMax := by
    obtain ⟨-, out, -, hown⟩ := h
    exact (List.length_filter_le _ _).trans (hown.stored i)
  have hpackets : (if keep = [] then {} else { rt.pendingNeighbours i with packets := keep } : PendingNeighbour).packets =
      keep := by
    split
    · exact Eq.symm ‹_›
    · rfl
  apply Triple.bind (Q := fun _ => Holds c (idsOf removed + held) credit)
  · apply Triple.set
    rintro _ rfl
    exact h.restock (Unnoticed.refl _) (by rw [hpackets]; exact hparted) (by rw [hpackets]; exact hlen)
  · intro _
    apply Triple.conseq (forPackets_triple 0 (fun p held credit => ?_) removed)
    · intro rt h
      rw [Nat.mul_zero, zero_add]
      exact h
    · exact fun _ _ h => h
    · rw [zero_add]
      exact discardPacket_triple

def TcpEffect.cost (e : TcpEffect) : ℕ := if e.emits then NodeId.ipv4Output.weight else 0

theorem tcpEffect_triple (e : TcpEffect) (hlater : NodeId.ipv4Output.weight < rank) :
    Triple (Step rank) (Holds c held (e.cost + credit)) (tcpEffect submit e) fun _ => Holds c held credit := by
  cases e with
  | emit => exact tcpEmit_triple hlater
  | cancelQueued => exact Triple.spend cancelQueued_triple (Nat.le_add_left _ _)
  | count counter =>
    unfold tcpEffect
    exact Triple.spend modifyTcp_triple (Nat.le_add_left _ _)

theorem tcpEffects_cost (effects : List TcpEffect) :
    (effects.map TcpEffect.cost).sum = effects.countP TcpEffect.emits * NodeId.ipv4Output.weight := by
  induction effects with
  | nil => rfl
  | cons e effects ih =>
    rw [List.map_cons, List.sum_cons, ih, List.countP_cons, TcpEffect.cost]
    split
    · rw [Nat.add_mul, Nat.one_mul, Nat.add_comm]
    · rw [Nat.zero_add, Nat.add_zero]

theorem tcpEffects_triple {effects : List TcpEffect} (h : effects.countP TcpEffect.emits ≤ 2)
    (hlater : NodeId.ipv4Output.weight < rank) :
    Triple (Step rank) (Holds c held (2 * NodeId.ipv4Output.weight + credit)) (effects.forM (tcpEffect submit))
      fun _ => Holds c held credit := by
  have hcost : (effects.map TcpEffect.cost).sum ≤ 2 * NodeId.ipv4Output.weight := by
    rw [tcpEffects_cost]
    exact Nat.mul_le_mul_right _ h
  apply Triple.conseq (forM_triple (fun _ => 0) TcpEffect.cost (fun e held credit => ?_) effects)
  · intro rt hrt
    rw [List.map_const', List.sum_replicate, nsmul_zero, zero_add]
    exact hrt.spend (Nat.add_le_add_right hcost _)
  · exact fun _ _ hrt => hrt
  · rw [zero_add]
    exact tcpEffect_triple e hlater

theorem tcpInputSegment_emits (env : TcpEnv) (t : SocketTable) (srcIp dstIp : Word) (hdr : TcpHeader)
    (payload : List Byte) (seed : Word) (now : ℕ) :
    (tcpInputSegment env t srcIp dstIp hdr payload seed now).2.1.countP TcpEffect.emits ≤ 2 := by
  have hreset : ∀ (l r : SockAddr) (seg : Segment),
      (resetReply l r seg.seq seg.ack seg.flags seg.payload.length).countP TcpEffect.emits ≤ 2 := by
    intro l r seg
    exact List.countP_le_length.trans (resetReply_length ..)
  unfold tcpInputSegment
  split
  · exact Nat.zero_le 2
  split
  · exact Nat.zero_le 2
  unfold tcpInput
  split
  · exact Nat.zero_le 2
  split
  · exact tcpInputConnection_emits ..
  split
  · split
    · unfold passiveOpen
      dsimp only
      split
      · exact Nat.zero_le 2
      split
      · exact Nat.zero_le 2
      · exact Nat.le_succ 1
    · exact hreset _ _ _
  · exact hreset _ _ _

section Verdicts

variable (r : Routing) (b : Buffer) (ctx : PacketCtx)

def Verdict.Leads (ctx : PacketCtx) (next : List NodeId) : Verdict → Prop
  | .drop .. => True
  | .enqueue n _ ctx' => n ∈ next ∧
    ctx'.reportAcceptance = ctx.reportAcceptance ∧ ctx'.transit = (n == .ipv4Forward || ctx.transit)

theorem ethInput_leads : (ethInput r b ctx).Leads ctx [.arpInput, .ipv4Input] := by
  unfold ethInput
  dsimp only
  split
  · trivial
  · split_ifs <;> trivial

theorem ipv4Input_leads : (ipv4Input r b ctx).Leads ctx [.ipv4Acl] := by
  unfold ipv4Input
  dsimp only
  split
  · trivial
  · split_ifs <;> trivial

theorem ipv4Acl_leads (forwarding : Bool) :
    (ipv4Acl r forwarding b ctx).Leads ctx [.icmpInput, .udpInput, .tcpInput, .ipv4Forward] := by
  unfold ipv4Acl
  dsimp only
  split_ifs <;> trivial

theorem icmpInput_leads : (icmpInput r b ctx).Leads ctx [.tx, .ethOutput] := by
  unfold icmpInput
  dsimp only
  split_ifs <;> trivial

theorem ipv4Route_leads : (ipv4Route r b ctx).Leads ctx [.ipv4Output, .udpOutput] := by
  unfold ipv4Route
  dsimp only
  split_ifs <;> trivial

theorem udpOutput_leads : (udpOutput b ctx).Leads ctx [.ipv4Output] := by
  unfold udpOutput
  dsimp only
  split
  · trivial
  · split <;> trivial

theorem ipv4Output_leads (id : ℕ) : (ipv4Output r id b ctx).Leads ctx [.ethOutput] := by
  unfold ipv4Output
  dsimp only
  split
  · trivial
  split
  · trivial
  · split <;> trivial

theorem arpOutput_leads : (arpOutput r b ctx).Leads ctx [.tx] := by
  unfold arpOutput
  split
  · trivial
  · split <;> trivial

variable {ctx} {v : Verdict} {next : List NodeId} {rank : ℕ}

theorem Verdict.Leads.cost (h : v.Leads ctx next) (hnext : ∀ n ∈ .drop :: next, NodeId.weight n < rank) : v.cost < rank := by
  cases v with
  | drop => exact hnext _ List.mem_cons_self
  | enqueue => exact hnext _ (List.mem_cons_of_mem _ h.1)

end Verdicts

theorem NodeId.weight_eq (node : NodeId) : node.weight = (node.weight - 1) + 1 := by
  cases node <;> rfl

def Disposes (c : Setting) (node : NodeId) (run : Frame → GraphM PUnit) : Prop :=
  ∀ frame held credit, Triple (Step node.weight) (Holds c (idsOf frame + held) (frame.length * (node.weight - 1) + credit))
    (run frame) fun _ => Holds c held credit

theorem Disposes.forM {f : Packet → GraphM PUnit} (h : ∀ p held credit, Triple (Step node.weight)
    (Holds c ({p.1.id} + held) (node.weight - 1 + credit)) (f p) fun _ => Holds c held credit) :
    Disposes c node fun frame => frame.forM f := by
  intro frame held credit
  exact forPackets_triple _ h frame

theorem decideEach_disposes {verdict : Runtime → Buffer → PacketCtx → Verdict}
    (h : ∀ rt b ctx, (verdict rt b ctx).cost < node.weight) : Disposes c node (decideEach node verdict) := by
  apply Disposes.forM
  intro p held credit
  apply Triple.peek
  intro rt _
  have hcost := h rt p.1.buffer p.2
  apply Triple.spend (settle_triple _ hcost)
  omega

theorem dropNodeRun_disposes : Disposes c .drop dropNodeRun := by
  intro frame held credit
  apply Triple.bind (Q := fun _ => Holds c (idsOf frame + held) (frame.length * (NodeId.drop.weight - 1) + credit))
  · exact Triple.unnoticed fun rt => ⟨rfl, rfl, rfl, rfl, rfl, rfl, rfl, rfl⟩
  intro _
  apply Disposes.forM
  intro p held credit rt h
  have hfree : Step NodeId.drop.weight rt _ ∧ _ := h.free (.dropped p.2.dropReason)
    (rt.graph.countDrop p.2.dropReason 1) rfl rfl (rt.graph.dropReasons_countDrop _)
  exact ⟨⟨⟩, _, rfl, .single hfree.1, hfree.2.spend (Nat.le_add_left _ _)⟩

theorem ipv4OutputNodeRun_disposes : Disposes c .ipv4Output ipv4OutputNodeRun := by
  apply Disposes.forM
  intro p held credit
  apply Triple.get_bind
  intro rt h
  have hsettle : Triple (Step NodeId.ipv4Output.weight) (Holds c ({p.1.id} + held) (NodeId.ipv4Output.weight - 1 + credit))
      (settle .ipv4Output p (ipv4Output rt.routing rt.nextIpId p.1.buffer p.2)) fun _ => Holds c held credit := by
    have hcost : _ < NodeId.ipv4Output.weight := (ipv4Output_leads rt.routing p.1.buffer p.2 rt.nextIpId).cost (by decide)
    apply Triple.spend (settle_triple _ hcost)
    omega
  dsimp only
  split
  · apply Triple.bind (Q := fun _ => Holds c ({p.1.id} + held) (NodeId.ipv4Output.weight - 1 + credit))
    · apply Triple.set
      rintro _ rfl
      exact Unnoticed.holds ⟨rfl, rfl, rfl, rfl, rfl, rfl, rfl, rfl⟩ h
    · intro _
      exact hsettle
  · apply hsettle.conseq
    · rintro _ rfl
      exact h
    · exact fun _ _ h => h

theorem ipv4AclNodeRun_disposes : Disposes c .ipv4Acl ipv4AclNodeRun := by
  apply Disposes.forM
  intro p held credit
  apply Triple.get_bind
  intro rt h
  have hend : ∀ accepted : Bool, Triple (Step NodeId.ipv4Acl.weight)
      (Holds c ({p.1.id} + held) (NodeId.ipv4Acl.weight - 1 + credit))
      (if accepted then settle .ipv4Acl p (ipv4Acl rt.routing rt.ipv4Forwarding p.1.buffer p.2)
        else graphDrop .ipv4Acl p .acl false) fun _ => Holds c held credit := by
    intro accepted
    apply Triple.ite
    · intro _
      have hcost : _ < NodeId.ipv4Acl.weight := (ipv4Acl_leads rt.routing p.1.buffer p.2 rt.ipv4Forwarding).cost (by decide)
      apply Triple.spend (settle_triple _ hcost)
      omega
    · intro _
      apply Triple.spend (graphDrop_triple (by decide))
      exact Nat.add_le_add_right (by decide) _
  dsimp only
  split
  · apply Triple.bind (Q := fun _ => Holds c ({p.1.id} + held) (NodeId.ipv4Acl.weight - 1 + credit))
    · apply Triple.pure
      rintro _ rfl
      exact h
    · exact hend
  · apply Triple.bind (Q := fun _ => Holds c ({p.1.id} + held) (NodeId.ipv4Acl.weight - 1 + credit))
    · apply Triple.set
      rintro _ rfl
      exact Unnoticed.holds ⟨rfl, rfl, rfl, rfl, rfl, rfl, rfl, rfl⟩ h
    · intro _
      exact Triple.bind (Triple.pure fun _ h => h) hend

theorem dropped_triple {owner : NodeId} {price : ℕ} {reason : DropReason} {error : Bool} (hlater : NodeId.drop.weight < rank)
    (hprice : 1 ≤ price) : Triple (Step rank) (Holds c ({p.1.id} + held) (price + credit)) (graphDrop owner p reason error)
      fun _ => Holds c held credit :=
  Triple.spend (graphDrop_triple hlater) (Nat.add_le_add_right hprice _)

theorem reported_triple {owner : NodeId} {reason : DropReason} {error : Bool} {report : GraphM PUnit}
    (hlater : NodeId.drop.weight < rank) (hreport : ∀ held credit, Triple (Step rank)
      (Holds c held (NodeId.ipv4Output.weight + credit)) report fun _ => Holds c held credit) :
    Triple (Step rank) (Holds c ({p.1.id} + held) (6 + credit)) (do report; graphDrop owner p reason error)
      fun _ => Holds c held credit := by
  have hprice : 6 + credit = NodeId.ipv4Output.weight + (1 + credit) := (Nat.add_assoc 5 1 credit)
  rw [hprice]
  apply Triple.bind (hreport _ _)
  intro _
  exact graphDrop_triple hlater

theorem ipv4ForwardNodeRun_disposes : Disposes c .ipv4Forward (ipv4ForwardNodeRun submit) := by
  have hreport : ∀ (b : Buffer) (ctx : PacketCtx) (type code : Byte) (mtu : ℕ) held credit,
      Triple (Step NodeId.ipv4Forward.weight) (Holds c held (NodeId.ipv4Output.weight + credit)) (do
        let now ← timerCycles
        icmpSendError submit b ctx type code mtu now) fun _ => Holds c held credit := by
    intro b ctx type code mtu held credit
    apply Triple.bind timerCycles_triple
    intro _
    exact icmpSendError_triple (by decide)
  apply Disposes.forM
  intro p held credit
  apply Triple.peek
  intro rt _
  dsimp only
  apply Triple.ite
  · intro _
    exact reported_triple (by decide) (hreport _ _ _ _ _)
  intro _
  apply Triple.ite
  · intro _
    split
    · exact reported_triple (by decide) (hreport _ _ _ _ _)
    · exact dropped_triple (by decide) (by decide)
  intro _
  apply Triple.ite
  · intro _
    apply Triple.ite
    · intro _
      exact reported_triple (by decide) (hreport _ _ _ _ _)
    · intro _
      exact dropped_triple (by decide) (by decide)
  intro _
  apply Triple.spend (settle_triple _ (by simp [Verdict.cost, NodeId.weight]))
  simp [Verdict.cost, NodeId.weight]

theorem arpInputNodeRun_disposes : Disposes c .arpInput (arpInputNodeRun submit) := by
  apply Disposes.forM
  intro p held credit
  apply Triple.peek
  intro rt _
  split
  · exact dropped_triple (by decide) (by decide)
  rename_i port _
  split
  · exact dropped_triple (by decide) (by decide)
  -- What is left pays for the reply.
  have hend : Triple (Step NodeId.arpInput.weight) (Holds c ({p.1.id} + held) (NodeId.tx.weight + credit))
      (if be16 (p.1.buffer.data.drop p.2.l3Offset) 6 = 2 then freeMbuf p.1 .consumed
        else settle .arpInput p (.enqueue .tx (arpReply port p.1.buffer p.2) { p.2 with egressPortId := port.portId }))
      fun _ => Holds c held credit := by
    apply Triple.ite
    · intro _
      exact Triple.spend consume_triple (Nat.le_add_left _ _)
    · intro _
      exact settle_triple (.enqueue .tx (arpReply port p.1.buffer p.2) { p.2 with egressPortId := port.portId })
        (by simp [Verdict.cost, NodeId.weight])
  have hprice : NodeId.arpInput.weight - 1 + credit =
      neighbourPendingMax * (neighbourPendingQueueMax * NodeId.ethOutput.weight) + (NodeId.tx.weight + credit) :=
    Nat.add_assoc 512 2 credit
  rw [hprice]
  dsimp only
  apply Triple.ite
  · intro _
    apply Triple.bind (neighbourUpdate_triple (by decide))
    intro result
    apply Triple.ite
    · intro _
      apply Triple.bind (Q := fun _ => Holds c ({p.1.id} + held) (NodeId.tx.weight + credit))
      · exact Triple.unnoticed fun rt => ⟨rfl, rfl, rfl, rfl, rfl, rfl, rfl, rfl⟩
      · exact fun _ => hend
    · exact fun _ => hend
  · intro _
    exact Triple.spend hend (Nat.le_add_left _ _)

theorem udpInputNodeRun_disposes : Disposes c .udpInput (udpInputNodeRun submit) := by
  apply Disposes.forM
  intro p held credit
  apply Triple.get_bind
  intro rt h
  split
  · apply (dropped_triple (by decide) (Nat.le_add_left 1 5)).conseq
    · rintro _ rfl
      exact h
    · exact fun _ _ h => h
  dsimp only
  apply Triple.bind (Q := fun _ => Holds c ({p.1.id} + held) (NodeId.udpInput.weight - 1 + credit))
  · apply Triple.set
    rintro _ rfl
    exact Unnoticed.holds ⟨rfl, rfl, rfl, rfl, rfl, rfl, rfl, rfl⟩ h
  intro _
  split
  · exact Triple.spend consume_triple (Nat.le_add_left _ _)
  · apply Triple.bind timerCycles_triple
    intro now
    exact reported_triple (by decide) fun _ _ => icmpSendError_triple (by decide)
  · exact dropped_triple (by decide) (by decide)
  · exact dropped_triple (by decide) (by decide)

theorem tcpInputNodeRun_disposes : Disposes c .tcpInput (tcpInputNodeRun submit) := by
  apply Disposes.forM
  intro p held credit
  apply Triple.peek
  intro rt _
  apply Triple.ite
  · intro _
    exact dropped_triple (by decide) (by decide)
  intro _
  apply Triple.ite
  · intro _
    exact dropped_triple (by decide) (by decide)
  intro _
  apply Triple.bind (Q := fun _ => Holds c ({p.1.id} + held) (NodeId.tcpInput.weight - 1 + credit))
  · apply Triple.ite
    · exact fun _ => timerCycles_triple
    · exact fun _ => Triple.pure fun _ h => h
  intro now
  generalize hres : tcpInputSegment rt.tcpEnv _ _ _ _ _ _ now = result
  have hemits : result.2.1.countP TcpEffect.emits ≤ 2 := by
    rw [← hres]
    exact tcpInputSegment_emits ..
  obtain ⟨sockets, effects, reason⟩ := result
  apply Triple.bind (Q := fun _ => Holds c ({p.1.id} + held) (NodeId.tcpInput.weight - 1 + credit))
  · exact Triple.unnoticed fun rt => ⟨rfl, rfl, rfl, rfl, rfl, rfl, rfl, rfl⟩
  intro _
  have hprice : NodeId.tcpInput.weight - 1 + credit = 2 * NodeId.ipv4Output.weight + (1 + credit) := Nat.add_assoc 10 1 credit
  rw [hprice]
  apply Triple.bind (tcpEffects_triple hemits (by decide))
  intro _
  apply Triple.ite
  · exact fun _ => graphDrop_triple (by decide)
  · intro _
    exact Triple.spend consume_triple (Nat.le_add_left _ _)

theorem ethOutputNodeRun_disposes : Disposes c .ethOutput (ethOutputNodeRun submit) := by
  apply Disposes.forM
  intro p held credit
  apply Triple.peek
  intro rt _
  split
  · exact dropped_triple (by decide) (by decide)
  apply Triple.ite
  · exact fun _ => dropped_triple (by decide) (by decide)
  intro _
  split
  · apply Triple.bind timerCycles_triple
    intro now
    apply Triple.bind (neighbourQueue_triple (by decide))
    intro reason
    apply Triple.ite
    · intro hreason
      rw [if_neg hreason]
      exact dropped_triple (by decide) (by decide)
    · intro hreason
      rw [if_pos (not_not.mp hreason)]
      exact Triple.pure fun _ h => h
  split
  · exact dropped_triple (by decide) (by decide)
  · apply Triple.spend (settle_triple _ (by simp [Verdict.cost, NodeId.weight]))
    simp [Verdict.cost, NodeId.weight]

def serves (port : PortState) (p : Packet) : Bool := port.configured && port.up && p.2.egressPortId == port.portId

def served (ports : List PortState) (p : Packet) : Bool := ports.any fun port => serves port p

theorem egressPort_served {r : Routing} (h : (egressPort r p.2.egressPortId).isSome) : served r.ports p = true := by
  obtain ⟨port, hport⟩ := Option.isSome_iff_exists.mp h
  rw [egressPort, Option.filter_eq_some_iff, netifByDpdkPort] at hport
  obtain ⟨hfind, hup⟩ := hport
  have hmatch := List.find?_some hfind
  rw [Bool.and_eq_true, beq_iff_eq] at hmatch
  rw [served, List.any_eq_true]
  refine ⟨port, List.mem_of_find?_eq_some hfind, ?_⟩
  rw [serves, hmatch.1, hup, hmatch.2]
  exact beq_self_eq_true _

theorem txPrepare_triple (frame : Frame) :
    Triple (Step NodeId.tx.weight) (Holds c (idsOf frame + held) (frame.length + credit)) (txPrepare frame)
      fun packets rt => Holds c (idsOf packets + held) (packets.length + credit) rt ∧
        packets.filter (served c.routing.ports) = packets := by
  induction frame generalizing held credit with
  | nil => exact Triple.pure fun rt h => ⟨h, rfl⟩
  | cons p frame ih =>
    have hprice : (p :: frame).length + credit = 1 + (frame.length + credit) := by
      rw [List.length_cons]
      omega
    rw [idsOf_cons, add_assoc, hprice]
    have hdropped : ∀ reason error, Triple (Step NodeId.tx.weight)
        (Holds c ({p.1.id} + (idsOf frame + held)) (1 + (frame.length + credit)))
        (do graphDrop .tx p reason error; txPrepare frame)
        fun packets rt => Holds c (idsOf packets + held) (packets.length + credit) rt ∧
          packets.filter (served c.routing.ports) = packets := by
      intro reason error
      apply Triple.bind (graphDrop_triple (by decide))
      exact fun _ => ih
    apply Triple.peek
    intro rt h
    have hrouting : rt.routing = c.routing := by
      obtain ⟨-, out, -, hown⟩ := h
      exact hown.routing
    split
    · exact hdropped _ _
    · rename_i port hport
      split
      · apply Triple.bind (Q := fun _ => Holds c ({p.1.id} + (idsOf frame + held)) (1 + (frame.length + credit)))
        · exact Triple.unnoticed fun rt => ⟨rfl, rfl, rfl, rfl, rfl, rfl, rfl, rfl⟩
        · exact fun _ => hdropped _ _
      · rename_i b _
        have hswap : Triple (Step NodeId.tx.weight)
            (Holds c ({p.1.id} + (idsOf frame + held)) (1 + (frame.length + credit))) (txPrepare frame)
            fun packets rt => Holds c (idsOf packets + ({p.1.id} + held)) (packets.length + (1 + credit)) rt ∧
              packets.filter (served c.routing.ports) = packets := by
          have hids : ({p.1.id} : Multiset ℕ) + (idsOf frame + held) = idsOf frame + ({p.1.id} + held) := by abel
          rw [hids, Nat.add_left_comm]
          exact ih
        apply Triple.bind hswap
        intro rest
        apply Triple.pure
        intro rt' h'
        refine ⟨?_, ?_⟩
        · have hids : idsOf ((⟨p.1.id, b⟩, p.2) :: rest) + held = idsOf rest + ({p.1.id} + held) := by
            rw [idsOf_cons]
            abel
          rw [hids]
          exact h'.1.spend (by rw [List.length_cons]; omega)
        · have hserved : served c.routing.ports (⟨p.1.id, b⟩, p.2) = true := by
            apply egressPort_served
            rw [← hrouting]
            change (egressPort rt.routing p.2.egressPortId).isSome
            rw [hport]
            rfl
          rw [List.filter_cons_of_pos hserved, h'.2]

theorem Holds.send {rt rt' : Runtime} {taken : List Packet} (h : Holds c (idsOf taken + held) credit rt)
    (q : Unnoticed { rt with ledger := { rt.ledger with sent := rt.ledger.sent ++ taken.map fun p => p.1.id } } rt') :
    Step rank rt rt' ∧ Holds c held credit rt' := by
  obtain ⟨hrunning, out, hactive, hown⟩ := h
  have hown' : Balanced c held credit
      { rt with ledger := { rt.ledger with sent := rt.ledger.sent ++ taken.map fun p => p.1.id } } out := by
    refine ⟨hown.ok, ?_, hown.nodup, hown.fresh, hown.paid, hown.drops, hown.stored, hown.routing⟩
    have hids := hown.ids
    change rt.graph.ids out + storedIds rt + rt.ledger.freedIds +
      ((rt.ledger.sent ++ taken.map fun p => p.1.id : List ℕ) : Multiset ℕ) + held = _ + (rt.ledger.allocated : Multiset ℕ)
    rw [← hids, accounted, ← Multiset.coe_add, idsOf]
    abel
  have h' : Holds c held credit rt' := ⟨hrunning, out, q.activeOutput.trans hactive, q.owned hown'⟩
  exact ⟨⟨.other q.slots q.queue q.activeOutput, h'.partitioned⟩, h'⟩

theorem txPort_triple (packets : List Packet) (port : PortState) :
    Triple (Step NodeId.tx.weight)
      (Holds c (idsOf (packets.filter (serves port)) + held) ((packets.filter (serves port)).length + credit))
      (txPort packets port) fun _ => Holds c held credit := by
  let batch := packets.filter fun p => p.2.egressPortId == port.portId
  apply Triple.ite
  · intro hidle
    have hnone : packets.filter (serves port) = [] := by
      rw [List.filter_eq_nil_iff]
      intro p hp hserves
      rw [serves, Bool.and_eq_true, Bool.and_eq_true] at hserves
      rcases hidle with hconf | hup | hbatch
      · rw [hserves.1.1] at hconf
        exact Bool.noConfusion hconf
      · rw [hserves.1.2] at hup
        exact Bool.noConfusion hup
      · exact List.filter_eq_nil_iff.mp hbatch p hp hserves.2
    rw [hnone]
    apply Triple.pure
    intro rt h
    have hnil : idsOf [] + held = held := zero_add held
    rw [hnil] at h
    exact h.spend (Nat.le_add_left _ _)
  intro hbusy
  obtain ⟨hconf, hrest⟩ := not_or.mp hbusy
  obtain ⟨hup, -⟩ := not_or.mp hrest
  have hbatch : packets.filter (serves port) = batch := by
    apply List.filter_congr
    intro p _
    have hconf : port.configured = true := by simpa using hconf
    have hup : port.up = true := by simpa using hup
    rw [serves, hconf, hup]
    rfl
  rw [hbatch]
  apply Triple.get_bind
  intro rt h
  dsimp only
  generalize min (rt.world.burst rt.calls) batch.length = sent
  have hids : idsOf batch = idsOf (batch.take sent) + idsOf (batch.drop sent) := by
    rw [← idsOf_append, List.take_append_drop]
  rw [hids, add_assoc] at h
  apply Triple.bind (Q := fun _ => Holds c (idsOf (batch.drop sent) + held) (batch.length + credit))
  · apply Triple.set
    rintro _ rfl
    exact h.send ⟨rfl, rfl, rfl, rfl, rfl, rfl, rfl, rfl⟩
  intro _
  apply Triple.bind (Q := fun _ => Holds c (idsOf (batch.drop sent) + held) (batch.length + credit))
  · exact Triple.unnoticed fun rt => ⟨rfl, rfl, rfl, rfl, rfl, rfl, rfl, rfl⟩
  intro _
  apply Triple.spend (forPackets_triple 1 (fun p held credit => graphDrop_triple (by decide)) _)
  rw [List.length_drop]
  omega

theorem txPorts_triple (packets : List Packet) (ports : List PortState) (hdistinct : DistinctPorts ports) :
    Triple (Step NodeId.tx.weight)
      (Holds c (idsOf (packets.filter (served ports)) + held) ((packets.filter (served ports)).length + credit))
      (ports.forM (txPort packets)) fun _ => Holds c held credit := by
  induction ports with
  | nil =>
    have hnone : packets.filter (served []) = [] := by
      rw [List.filter_eq_nil_iff]
      intro p _
      exact Bool.false_ne_true
    rw [hnone]
    apply Triple.pure
    intro rt h
    have hnil : idsOf [] + held = held := zero_add held
    rw [hnil] at h
    exact h.spend (Nat.le_add_left _ _)
  | cons port ports ih =>
    obtain ⟨hport, hports⟩ := List.pairwise_cons.mp hdistinct
    -- No other port serves what this one does, so its packets and those of the rest are all of them.
    have hrest : (packets.filter (served (port :: ports))).Perm
        (packets.filter (serves port) ++ packets.filter (served ports)) := by
      have hdisjoint : ∀ p, serves port p = true → served ports p = false := by
        intro p hp
        apply eq_false_of_ne_true
        intro hq
        obtain ⟨q, hq, hserves⟩ := List.any_eq_true.mp hq
        rw [serves, Bool.and_eq_true, Bool.and_eq_true, beq_iff_eq] at hp hserves
        exact hport q hq hp.1.1 hserves.1.1 (hp.2.symm.trans hserves.2)
      have hserved : ∀ p, served (port :: ports) p = (serves port p || served ports p) := fun p => List.any_cons ..
      have hown : (packets.filter (served (port :: ports))).filter (serves port) = packets.filter (serves port) := by
        rw [List.filter_filter]
        apply List.filter_congr
        intro p _
        rw [hserved]
        cases serves port p <;> rfl
      have hothers : (packets.filter (served (port :: ports))).filter (fun p => !serves port p) =
          packets.filter (served ports) := by
        rw [List.filter_filter]
        apply List.filter_congr
        intro p _
        rw [hserved]
        cases hp : serves port p with
        | true => rw [hdisjoint p hp]; rfl
        | false => exact Bool.true_and _
      rw [← hown, ← hothers]
      exact (List.filter_append_perm _ _).symm
    rw [idsOf_perm hrest, hrest.length_eq, idsOf_append, List.length_append, add_assoc, add_assoc]
    apply Triple.bind (txPort_triple packets port)
    intro _
    exact ih hports

theorem txNodeRun_disposes : Disposes c .tx txNodeRun := by
  intro frame held credit
  have hprice : frame.length * (NodeId.tx.weight - 1) + credit = frame.length + credit := by
    rw [show NodeId.tx.weight - 1 = 1 from rfl, Nat.mul_one]
  rw [hprice]
  apply Triple.bind (txPrepare_triple frame)
  intro packets
  apply Triple.get_bind
  rintro rt ⟨h, hserved⟩
  have hrouting : rt.routing = c.routing := by
    obtain ⟨-, out, -, hown⟩ := h
    exact hown.routing
  rw [← hrouting] at hserved
  apply (txPorts_triple packets rt.routing.ports rt.distinct).conseq
  · rintro _ rfl
    rw [hserved]
    exact h
  · exact fun _ _ h => h

theorem runNode_disposes (submit : Submit) (node : NodeId) : Disposes c node (runNode submit node) := by
  cases node with
  | drop => exact dropNodeRun_disposes
  | ethInput => exact decideEach_disposes fun _ _ _ => (ethInput_leads ..).cost (by decide)
  | arpInput => exact arpInputNodeRun_disposes
  | ipv4Input => exact decideEach_disposes fun _ _ _ => (ipv4Input_leads ..).cost (by decide)
  | icmpInput => exact decideEach_disposes fun _ _ _ => (icmpInput_leads ..).cost (by decide)
  | udpInput => exact udpInputNodeRun_disposes
  | tcpInput => exact tcpInputNodeRun_disposes
  | ipv4Route => exact decideEach_disposes fun _ _ _ => (ipv4Route_leads ..).cost (by decide)
  | udpOutput => exact decideEach_disposes fun _ _ _ => (udpOutput_leads ..).cost (by decide)
  | ipv4Output => exact ipv4OutputNodeRun_disposes
  | ethOutput => exact ethOutputNodeRun_disposes
  | arpOutput => exact decideEach_disposes fun _ _ _ => (arpOutput_leads ..).cost (by decide)
  | tx => exact txNodeRun_disposes
  | ipv4Forward => exact ipv4ForwardNodeRun_disposes
  | ipv4Acl => exact ipv4AclNodeRun_disposes

end PulsarNetstack
