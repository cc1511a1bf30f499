import PulsarNetstack.GraphInvariants
import PulsarNetstack.RuntimeSteps

namespace PulsarNetstack

open Program

/-- What is watched of the counter of accepted datagrams: the mbuf that is being sent, whether no packet of the
pending queues asks for a report, and where the counter started. -/
structure Watch where
  datagram : Option ℕ := none
  clean : Prop := True
  base : ℤ

def Watch.Open (w : Watch) : Prop := w.datagram = none ∧ w.clean

def Flagged (w : Watch) (node : NodeId) (p : Packet) : Prop :=
  (w.Open ∨ node.outbound = true) ∧ (node = .drop ∨ (p.2.reportAcceptance = true ↔ w.datagram = some p.1.id))

def placedIds (rt : Runtime) : Multiset ℕ := (rt.ledger.sent : Multiset ℕ) + storedIds rt

structure Tallied (w : Watch) (rt : Runtime) : Prop where
  fresh : ∀ id, w.datagram = some id → id < rt.nextMbuf
  stored : w.clean → ∀ i, ∀ p ∈ (rt.pendingNeighbours i).packets, p.2.reportAcceptance = false
  tally : (rt.acceptedSends : ℤ) = w.base + (placedIds rt).countP fun id => w.datagram = some id

structure Unsent (rt rt' : Runtime) : Prop where
  accepted : rt'.acceptedSends = rt.acceptedSends
  sent : rt'.ledger.sent = rt.ledger.sent
  pending : rt'.pendingNeighbours = rt.pendingNeighbours
  nextMbuf : rt.nextMbuf ≤ rt'.nextMbuf

structure Uncounted (rt rt' : Runtime) : Prop extends Unsent rt rt' where
  slots : rt'.graph.slots = rt.graph.slots
  queue : rt'.graph.queue = rt.graph.queue
  activeOutput : rt'.activeOutput = rt.activeOutput

variable {w : Watch} {rt rt' : Runtime} {out : NodeOutput} {node : NodeId} {p : Packet} {submit : Submit} {slot : SlotId}
  {running : List SlotId} {fuel : ℕ}

theorem Uncounted.same (h : (rt'.acceptedSends, rt'.ledger.sent, rt'.pendingNeighbours, rt'.nextMbuf, rt'.graph.slots,
    rt'.graph.queue, rt'.activeOutput) = (rt.acceptedSends, rt.ledger.sent, rt.pendingNeighbours, rt.nextMbuf, rt.graph.slots,
      rt.graph.queue, rt.activeOutput)) : Uncounted rt rt' := by
  simp only [Prod.mk.injEq] at h
  obtain ⟨haccepted, hsent, hpending, hnext, hslots, hqueue, hactive⟩ := h
  exact ⟨⟨haccepted, hsent, hpending, hnext.ge⟩, hslots, hqueue, hactive⟩

theorem Unsent.placedIds (h : Unsent rt rt') : placedIds rt' = placedIds rt := by
  unfold PulsarNetstack.placedIds storedIds
  rw [h.sent, h.pending]

namespace Tallied

theorem unsent (h : Tallied w rt) (q : Unsent rt rt') : Tallied w rt' := by
  refine ⟨fun id hid => (h.fresh id hid).trans_le q.nextMbuf, ?_, ?_⟩
  · rw [q.pending]
    exact h.stored
  · rw [q.accepted, q.placedIds]
    exact h.tally

theorem countP_none (hw : w.datagram = none) (ids : Multiset ℕ) : ids.countP (fun id => w.datagram = some id) = 0 := by
  apply Multiset.countP_eq_zero.mpr
  intro id _ hid
  exact nomatch hw.symm.trans hid

theorem accepted_eq (h : Tallied w rt) (hw : w.datagram = none) : (rt.acceptedSends : ℤ) = w.base := by
  rw [h.tally, countP_none hw]
  exact add_zero _

theorem of_none (hw : w.datagram = none) (haccepted : (rt.acceptedSends : ℤ) = w.base)
    (hstored : w.clean → ∀ i, ∀ p ∈ (rt.pendingNeighbours i).packets, p.2.reportAcceptance = false) : Tallied w rt := by
  refine ⟨fun id hid => ?_, hstored, ?_⟩
  · exact nomatch hw.symm.trans hid
  · rw [haccepted, countP_none hw]
    exact (add_zero _).symm

theorem unstore (h : Tallied w rt) (hw : w.datagram = none) (haccepted : rt'.acceptedSends = rt.acceptedSends)
    (hsub : ∀ i, ∀ p ∈ (rt'.pendingNeighbours i).packets, p ∈ (rt.pendingNeighbours i).packets) : Tallied w rt' := by
  refine of_none hw ?_ fun hclean i p hp => h.stored hclean i p (hsub i p hp)
  rw [haccepted]
  exact h.accepted_eq hw

theorem countP_flagged (w : Watch) (packets : List Packet)
    (hflags : ∀ p ∈ packets, (p.2.reportAcceptance = true ↔ w.datagram = some p.1.id)) :
    (idsOf packets).countP (fun id => w.datagram = some id) = packets.countP fun p => p.2.reportAcceptance := by
  unfold idsOf
  rw [Multiset.coe_countP, List.countP_map]
  apply List.countP_congr
  intro p hp
  rw [hflags p hp]
  exact decide_eq_true_iff

theorem send (h : Tallied w rt) (taken : List Packet)
    (hflags : ∀ p ∈ taken, (p.2.reportAcceptance = true ↔ w.datagram = some p.1.id))
    (haccepted : rt'.acceptedSends = rt.acceptedSends + taken.countP fun p => p.2.reportAcceptance)
    (hsent : rt'.ledger.sent = rt.ledger.sent ++ taken.map fun p => p.1.id)
    (hpending : rt'.pendingNeighbours = rt.pendingNeighbours) (hmbuf : rt'.nextMbuf = rt.nextMbuf) : Tallied w rt' := by
  refine ⟨?_, ?_, ?_⟩
  · rw [hmbuf]
    exact h.fresh
  · rw [hpending]
    exact h.stored
  · have hplaced : placedIds rt' = placedIds rt + idsOf taken := by
      unfold placedIds storedIds
      rw [hsent, hpending, ← Multiset.coe_add]
      unfold idsOf
      abel
    rw [hplaced, Multiset.countP_add, countP_flagged w taken hflags, haccepted]
    have htally := h.tally
    omega

theorem store (h : Tallied w rt) (i : Fin neighbourPendingMax) (entry : PendingNeighbour)
    (log : Fin neighbourPendingMax → List PendingEvent)
    (hflag : p.2.reportAcceptance = true ↔ w.datagram = some p.1.id)
    (hentry : entry.packets = (rt.pendingNeighbours i).packets ++ [(p.1, { p.2 with reportAcceptance := false })]) :
    Tallied w { rt with
      pendingNeighbours := Function.update rt.pendingNeighbours i entry
      pendingLog := log
      acceptedSends := rt.acceptedSends + if p.2.reportAcceptance then 1 else 0 } := by
  refine ⟨h.fresh, fun hclean j q hq => ?_, ?_⟩
  · change q ∈ (Function.update rt.pendingNeighbours i entry j).packets at hq
    by_cases hj : j = i
    · rw [hj, Function.update_self, hentry] at hq
      rcases List.mem_append.mp hq with hq | hq
      · exact h.stored hclean i q hq
      · rw [List.mem_singleton.mp hq]
    · rw [Function.update_of_ne hj] at hq
      exact h.stored hclean j q hq
  · have hstored := storedIds_update rt i entry
    rw [hentry, idsOf_append] at hstored
    have hmine : storedIds { rt with pendingNeighbours := Function.update rt.pendingNeighbours i entry } =
        storedIds rt + {p.1.id} := by
      apply add_right_cancel (b := idsOf (rt.pendingNeighbours i).packets)
      rw [hstored]
      change _ + (_ + {p.1.id}) = _
      abel
    have hcount : ({p.1.id} : Multiset ℕ).countP (fun id => w.datagram = some id) =
        if p.2.reportAcceptance then 1 else 0 := by
      rw [← Multiset.coe_singleton, Multiset.coe_countP, List.countP_singleton]
      by_cases hp : p.2.reportAcceptance = true
      · rw [if_pos hp, if_pos (decide_eq_true (hflag.mp hp))]
      · rw [if_neg hp, if_neg fun hid => hp (hflag.mpr (of_decide_eq_true hid))]
    change ((rt.acceptedSends + _ : ℕ) : ℤ) = w.base + (((rt.ledger.sent : Multiset ℕ) + storedIds { rt with
      pendingNeighbours := Function.update rt.pendingNeighbours i entry }).countP _ : ℕ)
    have htally := h.tally
    unfold placedIds at htally
    rw [hmine, ← add_assoc, Multiset.countP_add, hcount]
    omega

end Tallied

theorem Shuffled.unsent (h : Shuffled rt rt') : Unsent rt rt' := by
  obtain ⟨g, out, freed, rfl⟩ := h
  exact ⟨rfl, rfl, rfl, Nat.le_refl _⟩

abbrev Tracking (w : Watch) : List SlotId → Runtime → Prop := Guarded (Flagged w) (Tallied w)

abbrev Tracks (w : Watch) (running : List SlotId) {α : Type} (x : GraphM α) : Prop := Guards (Flagged w) (Tallied w) running x

theorem tallied_unframed (w : Watch) : Unframed (Tallied w) := fun _ _ h q => h.unsent q.unsent

theorem Guarded.uncounted (h : Tracking w running rt) (q : Uncounted rt rt') : Tracking w running rt' :=
  h.keep q.slots q.queue q.activeOutput (h.holds.unsent q.toUnsent)

theorem emit_tracks (hp : Flagged w node p) : Tracks w running (emit node p) := emit_guards (tallied_unframed w) hp

theorem graphDrop_tracks (owner : NodeId) (p : Packet) (reason : DropReason) (error : Bool) :
    Tracks w running (graphDrop owner p reason error) :=
  graphDrop_guards (tallied_unframed w) owner p reason error fun _ => ⟨.inr rfl, .inl rfl⟩

theorem freeMbuf_tracks (m : Mbuf) (cause : FreeCause) : Tracks w running (freeMbuf m cause) :=
  freeMbuf_guards (tallied_unframed w) m cause

structure Watches (submit : Submit) (w : Watch) (A : Runtime → Prop) : Prop where
  uncounted {rt rt' : Runtime} : A rt → Uncounted rt rt' → A rt'
  fresh {rt : Runtime} : A rt → ∀ id, w.datagram = some id → id < rt.nextMbuf
  unstore {rt rt' : Runtime} : w.datagram = none → A rt → rt'.graph.slots = rt.graph.slots →
    rt'.graph.queue = rt.graph.queue → rt'.activeOutput = rt.activeOutput → rt'.acceptedSends = rt.acceptedSends →
    (∀ i, ∀ p ∈ (rt'.pendingNeighbours i).packets, p ∈ (rt.pendingNeighbours i).packets) → A rt'
  inject {n : NodeId} {p : Packet} : n.outbound = true → (p.2.reportAcceptance = true ↔ w.datagram = some p.1.id) →
    Safe A (inject submit n p) fun _ => A
  release (i : Fin neighbourPendingMax) : w.Open → Safe A (releasePending submit i) fun _ => A

namespace Watches

variable {A : Runtime → Prop} (h : Watches submit w A)
include h

theorem modify {f : Runtime → Runtime} (hf : ∀ rt, Uncounted rt (f rt)) : Safe A (modify f : GraphM PUnit) fun _ => A :=
  Safe.modify fun rt ha => h.uncounted ha (hf rt)

theorem timerCycles : Safe A timerCycles fun _ => A := by
  refine ⟨fun rt a rt' ha hrun => ?_⟩
  obtain ⟨rfl, rfl⟩ := Prod.mk.inj (Option.some.inj hrun)
  exact h.uncounted ha (.same rfl)

theorem allocMbuf : Safe A allocMbuf fun m rt => A rt ∧ ∀ new, m = some new → w.datagram ≠ some new.id := by
  refine ⟨fun rt a rt' ha hrun => ?_⟩
  change some (if rt.world.alloc rt.calls then _ else _) = _ at hrun
  split at hrun
  · obtain ⟨rfl, rfl⟩ := Prod.mk.inj (Option.some.inj hrun)
    refine ⟨h.uncounted ha ⟨⟨rfl, rfl, rfl, Nat.le_succ _⟩, rfl, rfl, rfl⟩, ?_⟩
    intro new hnew hid
    rw [← Option.some.inj hnew] at hid
    exact Nat.lt_irrefl _ (h.fresh ha rt.nextMbuf hid)
  · obtain ⟨rfl, rfl⟩ := Prod.mk.inj (Option.some.inj hrun)
    refine ⟨h.uncounted ha (.same rfl), ?_⟩
    intro new hnew
    cases hnew

theorem freeMbuf (m : Mbuf) (cause : FreeCause) : Safe A (freeMbuf m cause) fun _ => A :=
  h.modify fun _ => .same rfl

theorem modifyIcmp (f : IcmpErrorState → IcmpErrorState) : Safe A (modifyIcmp f) fun _ => A :=
  h.modify fun _ => .same rfl

theorem modifyTcp (f : TcpStats → TcpStats) : Safe A (modifyTcp f) fun _ => A :=
  h.modify fun _ => .same rfl

theorem injectNew {n : NodeId} {m : Mbuf} {ctx : PacketCtx} (hn : n.outbound = true) (hctx : ctx.reportAcceptance = false)
    (hm : w.datagram ≠ some m.id) : Safe A (PulsarNetstack.inject submit n (m, ctx)) fun _ => A := by
  apply h.inject hn
  change ctx.reportAcceptance = true ↔ _
  rw [hctx]
  exact iff_of_false Bool.false_ne_true hm

theorem arpRequest (port : PortState) (target : Word) : Safe A (arpRequest submit port target) fun _ => A := by
  apply Safe.bind h.allocMbuf
  rintro (_ | m)
  · exact Safe.given fun _ => h.modify fun _ => .same rfl
  · refine Safe.given fun hm => Safe.bind ?_ fun _ => Safe.pure fun _ ha => ha
    exact h.injectNew rfl rfl (hm m rfl)

theorem neighbourUpdate (hw : w.Open) (netifId : ℕ) (ip : Word) (mac : Mac) :
    Safe A (neighbourUpdate submit netifId ip mac) fun _ => A := by
  apply Safe.get_bind
  intro rt ha
  dsimp only
  apply Safe.bind (Q := fun _ => A)
  · exact Safe.set fun _ _ => h.uncounted ha (.same rfl)
  · intro _
    split
    · refine Safe.bind (Safe.forM fun i _ => Safe.peek fun _ _ => ?_) fun _ => Safe.pure fun _ ha => ha
      split
      · exact h.release i hw
      · exact Safe.pure fun _ ha => ha
    · exact Safe.pure fun _ ha => ha

theorem sendNew (bytes : List Byte) {ctx : PacketCtx} (hctx : ctx.reportAcceptance = false) {sent failed : GraphM PUnit}
    (hsent : Safe A sent fun _ => A) (hfailed : Safe A failed fun _ => A) :
    Safe A (sendNew submit bytes ctx sent failed) fun _ => A := by
  apply Safe.bind h.allocMbuf
  rintro (_ | m)
  · exact Safe.given fun _ => hfailed
  · apply Safe.given
    intro hm
    dsimp only
    generalize m.buffer.append bytes = built
    cases built with
    | none => exact Safe.bind (h.freeMbuf m _) fun _ => hfailed
    | some buffer =>
      apply Safe.bind
      · exact h.injectNew (m := ⟨m.id, buffer⟩) rfl hctx (hm m rfl)
      · exact fun _ => Safe.ite (fun _ => hsent) fun _ => hfailed

theorem icmpSendError (b : Buffer) (ctx : PacketCtx) (type code : Byte) (mtu now : ℕ) :
    Safe A (icmpSendError submit b ctx type code mtu now) fun _ => A :=
  icmpSendError_safe h.modifyIcmp (fun _ _ hctx _ => h.sendNew _ hctx (h.modifyIcmp _) (h.modifyIcmp _)) b ctx type code mtu now

theorem tcpEmit (localAddr remoteAddr : SockAddr) (seq ack : Word) (flags : Byte) (window : ℕ) (data : List Byte) :
    Safe A (tcpEmit submit localAddr remoteAddr seq ack flags window data) fun _ => A := by
  unfold PulsarNetstack.tcpEmit
  apply Safe.peek
  intro rt _
  exact Safe.ite (fun _ => h.modifyTcp _) fun _ => h.sendNew _ rfl (h.modifyTcp _) (h.modifyTcp _)

theorem discardPacket (reason : DropReason) (p : Packet) : Safe A (discardPacket reason p) fun _ => A :=
  Safe.bind (h.modify fun _ => .same rfl) fun _ => h.freeMbuf _ _

theorem restock (hw : w.datagram = none) (ha : A rt) {i : Fin neighbourPendingMax} {entry : PendingNeighbour}
    (hsub : ∀ p ∈ entry.packets, p ∈ (rt.pendingNeighbours i).packets) {g : Graph} (hslots : g.slots = rt.graph.slots)
    (hqueue : g.queue = rt.graph.queue) :
    A { rt with pendingNeighbours := Function.update rt.pendingNeighbours i entry, graph := g } :=
  h.unstore hw ha hslots hqueue rfl rfl (packets_update hsub)

theorem cancelQueued (hw : w.datagram = none) (localAddr remoteAddr : SockAddr) :
    Safe A (cancelQueued localAddr remoteAddr) fun _ => A := by
  apply Safe.forM
  intro i _
  apply Safe.get_bind
  intro rt ha
  dsimp only
  apply Safe.bind (Q := fun _ => A)
  · refine Safe.set fun _ _ => h.restock hw ha (fun p hp => ?_) rfl rfl
    split at hp
    · cases hp
    · exact List.mem_of_mem_filter hp
  · exact fun _ => Safe.forM fun p _ => h.discardPacket _ p

theorem tcpEffect (hw : w.datagram = none) (e : TcpEffect) : Safe A (tcpEffect submit e) fun _ => A := by
  cases e with
  | emit => exact h.tcpEmit _ _ _ _ _ _ _
  | cancelQueued => exact h.cancelQueued hw _ _
  | count =>
    unfold PulsarNetstack.tcpEffect
    exact h.modifyTcp _

end Watches

def Verdict.reports (report : Bool) : Verdict → Prop
  | .drop .. => True
  | .enqueue _ _ ctx => ctx.reportAcceptance = report

theorem Verdict.Leads.reports {ctx : PacketCtx} {next : List NodeId} {v : Verdict} (h : v.Leads ctx next) :
    v.reports ctx.reportAcceptance := by
  cases v with
  | drop => trivial
  | enqueue => exact h.2.1

namespace Tracks

theorem bind {α β : Type} {x : GraphM α} {f : α → GraphM β} (hx : Tracks w running x) (hf : ∀ a, Tracks w running (f a)) :
    Tracks w running (x >>= f) :=
  Safe.bind hx hf

theorem pure {α : Type} (a : α) : Tracks w running (pure a : GraphM α) := Safe.pure fun _ h => h

theorem ite {α : Type} {q : Prop} [Decidable q] {x y : GraphM α} (hx : Tracks w running x) (hy : Tracks w running y) :
    Tracks w running (if q then x else y) :=
  Safe.ite (fun _ => hx) fun _ => hy

theorem modify {f : Runtime → Runtime} (hf : ∀ rt, Uncounted rt (f rt)) : Tracks w running (modify f : GraphM PUnit) :=
  Safe.modify fun rt h => h.uncounted (hf rt)

theorem from_eq {α : Type} {x : GraphM α} (hx : Tracks w running x) (h : Tracking w running rt) :
    Safe (fun s => s = rt) x fun _ => Tracking w running := by
  apply hx.conseq
  · rintro _ rfl
    exact h
  · exact fun _ _ h => h

end Tracks

theorem Tracking.watches (submit : Submit) : Watches submit w (Tracking w running) where
  uncounted h q := h.uncounted q
  fresh h := h.holds.fresh
  unstore hw h hslots hqueue hactive haccepted hsub := h.keep hslots hqueue hactive (h.holds.unstore hw haccepted hsub)
  inject hn hp := inject_guards (tallied_unframed w) ⟨.inr hn, .inr hp⟩
  release i hw := by
    apply Safe.get_bind
    intro rt h
    apply Safe.bind (Q := fun _ => Tracking w running)
    · refine Safe.set fun _ _ => h.keep rfl rfl rfl (h.holds.unstore hw.1 rfl fun j p hp => ?_)
      change p ∈ (Function.update rt.pendingNeighbours i {} j).packets at hp
      by_cases hj : j = i
      · rw [hj, Function.update_self] at hp
        cases hp
      · rwa [Function.update_of_ne hj] at hp
    · intro _
      rw [if_pos h.running.isSome]
      refine Safe.forM fun p hp => Tracks.bind (emit_tracks ⟨.inl hw, .inr ?_⟩) fun _ => Tracks.pure _
      rw [h.holds.stored hw.2 i p hp, hw.1]
      exact iff_of_false Bool.false_ne_true nofun

theorem settle_tracks {owner : NodeId} {v : Verdict} (howner : owner ≠ .drop) (hp : Flagged w owner p)
    (hreach : w.Open ∨ v.outbound = true) (hreports : v.reports p.2.reportAcceptance) :
    Tracks w running (settle owner p v) := by
  cases v with
  | drop reason error => exact graphDrop_tracks owner p reason error
  | enqueue n b ctx =>
    refine Tracks.bind (emit_tracks ⟨hreach, .inr ?_⟩) fun _ => Tracks.pure _
    have hctx : ctx.reportAcceptance = p.2.reportAcceptance := hreports
    change ctx.reportAcceptance = true ↔ _
    rw [hctx]
    exact hp.2.resolve_left howner

theorem Flagged.isOpen (hp : Flagged w node p) (hn : node.outbound = false) : w.Open := by
  refine hp.1.resolve_right fun h => ?_
  rw [hn] at h
  cases h

section Nodes

variable {frame : Frame}

theorem decideEach_tracks {owner : NodeId} {verdict : Runtime → Buffer → PacketCtx → Verdict} (howner : owner ≠ .drop)
    (hframe : ∀ p ∈ frame, Flagged w owner p)
    (hreach : owner.outbound = false ∨ ∀ rt b ctx, (verdict rt b ctx).outbound = true)
    (hreports : ∀ rt b ctx, (verdict rt b ctx).reports ctx.reportAcceptance) :
    Tracks w running (decideEach owner verdict frame) := by
  refine Safe.forM fun p hp => Safe.peek fun rt _ => settle_tracks howner (hframe p hp) ?_ (hreports rt _ _)
  rcases hreach with hn | hout
  · exact .inl ((hframe p hp).isOpen hn)
  · exact .inr (hout rt _ _)

theorem ipv4OutputNodeRun_tracks (hframe : ∀ p ∈ frame, Flagged w .ipv4Output p) :
    Tracks w running (ipv4OutputNodeRun frame) := by
  apply Safe.forM
  intro p hp
  apply Safe.get_bind
  intro rt h
  have hsettle : Tracks w running (settle .ipv4Output p (ipv4Output rt.routing rt.nextIpId p.1.buffer p.2)) :=
    settle_tracks nofun (hframe p hp) (.inr ((ipv4Output_leads ..).outbound (by decide))) (ipv4Output_leads ..).reports
  dsimp only
  split
  · apply Safe.bind (Q := fun _ => Tracking w running)
    · exact Safe.set fun _ _ => h.uncounted (.same rfl)
    · exact fun _ => hsettle
  · exact hsettle.from_eq h

theorem ipv4AclNodeRun_tracks (hframe : ∀ p ∈ frame, Flagged w .ipv4Acl p) : Tracks w running (ipv4AclNodeRun frame) := by
  apply Safe.forM
  intro p hp
  apply Safe.get_bind
  intro rt h
  have hend (accepted : Bool) : Tracks w running (if accepted then
      settle .ipv4Acl p (ipv4Acl rt.routing rt.ipv4Forwarding p.1.buffer p.2) else graphDrop .ipv4Acl p .acl false) :=
    Tracks.ite (settle_tracks nofun (hframe p hp) (.inl ((hframe p hp).isOpen rfl)) (ipv4Acl_leads ..).reports)
      (graphDrop_tracks _ _ _ _)
  dsimp only
  split
  · exact ((Tracks.pure true).bind hend).from_eq h
  · apply Safe.bind (Q := fun _ => Tracking w running)
    · exact Safe.set fun _ _ => h.uncounted (.same rfl)
    · exact fun _ => (Tracks.pure _).bind hend

theorem report_tracks (b : Buffer) (ctx : PacketCtx) (type code : Byte) (mtu : ℕ) : Tracks w running (do
    let now ← timerCycles
    icmpSendError submit b ctx type code mtu now) :=
  Tracks.bind (Tracking.watches submit).timerCycles fun _ => (Tracking.watches submit).icmpSendError _ _ _ _ _ _

theorem ipv4ForwardNodeRun_tracks (hframe : ∀ p ∈ frame, Flagged w .ipv4Forward p) :
    Tracks w running (ipv4ForwardNodeRun submit frame) := by
  apply Safe.forM
  intro p hp
  apply Safe.peek
  intro rt _
  have hreport (type code : Byte) (mtu : ℕ) (reason : DropReason) : Tracks w running (do
      (do let now ← timerCycles; icmpSendError submit p.1.buffer p.2 type code mtu now)
      graphDrop .ipv4Forward p reason false) :=
    Tracks.bind (report_tracks _ _ _ _ _) fun _ => graphDrop_tracks _ _ _ _
  dsimp only
  apply Tracks.ite
  · exact hreport _ _ _ _
  apply Tracks.ite
  · split
    · exact hreport _ _ _ _
    · exact graphDrop_tracks _ _ _ _
  apply Tracks.ite
  · exact Tracks.ite (hreport _ _ _ _) (graphDrop_tracks _ _ _ _)
  · exact settle_tracks nofun (hframe p hp) (.inr rfl) rfl

theorem arpInputNodeRun_tracks (hframe : ∀ p ∈ frame, Flagged w .arpInput p) :
    Tracks w running (arpInputNodeRun submit frame) := by
  apply Safe.forM
  intro p hp
  apply Safe.peek
  intro rt _
  split
  · exact graphDrop_tracks _ _ _ _
  rename_i port _
  split
  · exact graphDrop_tracks _ _ _ _
  have hend : Tracks w running (if be16 (p.1.buffer.data.drop p.2.l3Offset) 6 = 2 then freeMbuf p.1 .consumed
      else settle .arpInput p (.enqueue .tx (arpReply port p.1.buffer p.2) { p.2 with egressPortId := port.portId })) :=
    Tracks.ite (freeMbuf_tracks _ _) (settle_tracks nofun (hframe p hp) (.inr rfl) rfl)
  dsimp only
  apply Tracks.ite
  · apply Tracks.bind ((Tracking.watches submit).neighbourUpdate ((hframe p hp).isOpen rfl) _ _ _)
    intro result
    apply Tracks.ite
    · apply Tracks.bind (Tracks.modify fun _ => ?_) fun _ => hend
      exact .same rfl
    · exact hend
  · exact hend

theorem udpInputNodeRun_tracks (frame : Frame) : Tracks w running (udpInputNodeRun submit frame) := by
  apply Safe.forM
  intro p _
  apply Safe.get_bind
  intro rt h
  split
  · exact (graphDrop_tracks _ _ _ _).from_eq h
  dsimp only
  apply Safe.bind (Q := fun _ => Tracking w running)
  · exact Safe.set fun _ _ => h.uncounted (.same rfl)
  intro _
  split
  · exact freeMbuf_tracks _ _
  · exact Tracks.bind (Tracking.watches submit).timerCycles fun _ =>
      Tracks.bind ((Tracking.watches submit).icmpSendError _ _ _ _ _ _) fun _ => graphDrop_tracks _ _ _ _
  · exact graphDrop_tracks _ _ _ _
  · exact graphDrop_tracks _ _ _ _

theorem tcpInputNodeRun_tracks (hframe : ∀ p ∈ frame, Flagged w .tcpInput p) :
    Tracks w running (tcpInputNodeRun submit frame) := by
  apply Safe.forM
  intro p hp
  apply Safe.peek
  intro rt _
  apply Tracks.ite
  · exact graphDrop_tracks _ _ _ _
  apply Tracks.ite
  · exact graphDrop_tracks _ _ _ _
  apply Tracks.bind
  · exact Tracks.ite (Tracking.watches submit).timerCycles (Tracks.pure _)
  intro now
  generalize tcpInputSegment rt.tcpEnv _ _ _ _ _ _ now = result
  obtain ⟨sockets, effects, reason⟩ := result
  apply Tracks.bind
  · exact Tracks.modify fun _ => .same rfl
  intro _
  apply Tracks.bind
  · exact Safe.forM fun e _ => (Tracking.watches submit).tcpEffect ((hframe p hp).isOpen rfl).1 e
  · exact fun _ => Tracks.ite (graphDrop_tracks _ _ _ _) (freeMbuf_tracks _ _)

theorem neighbourQueue_tracks (netifId now : ℕ) (hp : Flagged w .ethOutput p) :
    Tracks w running (neighbourQueue submit netifId p now) := by
  apply Safe.get_bind
  intro rt h
  have hrefused (reason : DropReason) : Safe (fun s => s = rt) (pure reason : GraphM DropReason) fun _ => Tracking w running :=
    (Tracks.pure reason).from_eq h
  have hflag := hp.2.resolve_left nofun
  dsimp only
  split
  · exact hrefused _
  rename_i i _
  split
  · exact hrefused _
  split
  · exact hrefused _
  apply Safe.bind (Q := fun _ => Tracking w running)
  · refine Safe.set fun _ _ => h.keep rfl rfl rfl (h.holds.store i _ _ hflag ?_)
    dsimp only
    split <;> rfl
  · intro _
    split
    · exact Tracks.bind ((Tracking.watches submit).arpRequest _ _) fun _ => Tracks.pure _
    · exact Tracks.pure _

theorem ethOutputNodeRun_tracks (hframe : ∀ p ∈ frame, Flagged w .ethOutput p) :
    Tracks w running (ethOutputNodeRun submit frame) := by
  apply Safe.forM
  intro p hp
  apply Safe.peek
  intro rt _
  split
  · exact graphDrop_tracks _ _ _ _
  apply Tracks.ite
  · exact graphDrop_tracks _ _ _ _
  split
  · apply Tracks.bind (Tracking.watches submit).timerCycles
    intro now
    apply Tracks.bind (neighbourQueue_tracks _ _ (hframe p hp))
    intro reason
    exact Tracks.ite (graphDrop_tracks _ _ _ _) (Tracks.pure _)
  split
  · exact graphDrop_tracks _ _ _ _
  · exact settle_tracks nofun (hframe p hp) (.inr rfl) rfl

theorem txPrepare_tracks (hframe : ∀ p ∈ frame, Flagged w .tx p) :
    Safe (Tracking w running) (txPrepare frame) fun packets rt => Tracking w running rt ∧ ∀ p ∈ packets, Flagged w .tx p := by
  induction frame with
  | nil => exact Safe.pure fun _ h => ⟨h, nofun⟩
  | cons p frame ih =>
    have hrest := ih fun q hq => hframe q (List.mem_cons_of_mem p hq)
    have hdropped (reason : DropReason) (error : Bool) :
        Safe (Tracking w running) (do graphDrop .tx p reason error; txPrepare frame)
          fun packets rt => Tracking w running rt ∧ ∀ p ∈ packets, Flagged w .tx p :=
      Safe.bind (graphDrop_tracks _ _ _ _) fun _ => hrest
    unfold txPrepare
    apply Safe.peek
    intro rt _
    split
    · exact hdropped _ _
    split
    · refine Safe.bind (Tracks.modify fun _ => ?_) fun _ => hdropped _ _
      exact .same rfl
    · refine Safe.bind hrest fun rest => Safe.pure fun rt h => ⟨h.1, ?_⟩
      rintro q (_ | ⟨_, hq⟩)
      · exact hframe p List.mem_cons_self
      · exact h.2 q hq

theorem txPort_tracks {packets : List Packet} (port : PortState) (hpackets : ∀ p ∈ packets, Flagged w .tx p) :
    Tracks w running (txPort packets port) := by
  apply Tracks.ite
  · exact Tracks.pure _
  apply Safe.get_bind
  intro rt h
  apply Safe.bind (Q := fun _ => Tracking w running)
  · refine Safe.set fun _ _ => h.keep rfl rfl rfl (h.holds.send _ (fun p hp => ?_) rfl rfl rfl rfl)
    exact (hpackets p (List.mem_of_mem_filter (List.mem_of_mem_take hp))).2.resolve_left nofun
  · intro _
    apply Tracks.bind
    · exact Tracks.modify fun _ => .same rfl
    · exact fun _ => Safe.forM fun p _ => graphDrop_tracks _ _ _ _

theorem txNodeRun_tracks (hframe : ∀ p ∈ frame, Flagged w .tx p) : Tracks w running (txNodeRun frame) := by
  refine Safe.bind (txPrepare_tracks hframe) fun packets => Safe.given fun hpackets => ?_
  exact Safe.peek fun _ _ => Safe.forM fun port _ => txPort_tracks port hpackets

theorem runNode_tracks (submit : Submit) (node : NodeId) (hframe : ∀ p ∈ frame, Flagged w node p) :
    Tracks w running (runNode submit node frame) := by
  cases node with
  | drop => exact dropNodeRun_guards (tallied_unframed w) frame
  | ethInput => exact decideEach_tracks nofun hframe (.inl rfl) fun _ _ _ => (ethInput_leads ..).reports
  | arpInput => exact arpInputNodeRun_tracks hframe
  | ipv4Input => exact decideEach_tracks nofun hframe (.inl rfl) fun _ _ _ => (ipv4Input_leads ..).reports
  | icmpInput => exact decideEach_tracks nofun hframe (.inl rfl) fun _ _ _ => (icmpInput_leads ..).reports
  | udpInput => exact udpInputNodeRun_tracks frame
  | tcpInput => exact tcpInputNodeRun_tracks hframe
  | ipv4Route =>
    exact decideEach_tracks nofun hframe (.inr fun _ _ _ => (ipv4Route_leads ..).outbound (by decide))
      fun _ _ _ => (ipv4Route_leads ..).reports
  | udpOutput =>
    exact decideEach_tracks nofun hframe (.inr fun _ _ _ => (udpOutput_leads ..).outbound (by decide))
      fun _ _ _ => (udpOutput_leads ..).reports
  | ipv4Output => exact ipv4OutputNodeRun_tracks hframe
  | ethOutput => exact ethOutputNodeRun_tracks hframe
  | arpOutput =>
    exact decideEach_tracks nofun hframe (.inr fun _ _ _ => (arpOutput_leads ..).outbound (by decide))
      fun _ _ _ => (arpOutput_leads ..).reports
  | tx => exact txNodeRun_tracks hframe
  | ipv4Forward => exact ipv4ForwardNodeRun_tracks hframe
  | ipv4Acl => exact ipv4AclNodeRun_tracks hframe

end Nodes

def Audited (w : Watch) (rt : Runtime) : Prop := IdleGraph rt ∧ Tallied w rt

theorem graphSubmit_audited {frame : Frame} (hframe : ∀ p ∈ frame, Flagged w node p) :
    Safe (Audited w) (graphSubmit fuel node frame) fun _ => Audited w :=
  graphSubmit_guarded (tallied_unframed w) (fun submit node _ _ hframe => runNode_tracks submit node hframe) hframe

theorem Audited.uncounted (h : Audited w rt) (q : Uncounted rt rt') : Audited w rt' := by
  refine ⟨⟨?_, ?_, q.activeOutput.trans h.1.active⟩, h.2.unsent q.toUnsent⟩
  · rw [q.queue]
    exact h.1.queue
  · rw [q.slots]
    exact h.1.slots

theorem Audited.watches : Watches (graphSubmit fuel) w (Audited w) where
  uncounted h q := h.uncounted q
  fresh h := h.2.fresh
  unstore {rt rt'} hw h hslots hqueue hactive haccepted hsub := by
    refine ⟨⟨?_, ?_, hactive.trans h.1.active⟩, h.2.unstore hw haccepted hsub⟩
    · rw [hqueue]
      exact h.1.queue
    · rw [hslots]
      exact h.1.slots
  inject {n p} hn hp := by
    apply Safe.get_bind
    intro rt h
    rw [h.1.active]
    apply Safe.bind (Q := fun _ => Audited w)
    · refine (graphSubmit_audited fun q hq => ?_).conseq (fun s hs => hs ▸ h) fun _ _ h => h
      rw [List.mem_singleton.mp hq]
      exact ⟨.inr hn, .inr hp⟩
    · exact fun _ => Safe.peek fun _ _ => Safe.pure fun _ h => h
  release i hw := by
    apply Safe.get_bind
    intro rt h
    apply Safe.bind (Q := fun _ => Audited w)
    · refine Safe.set fun _ _ => ⟨⟨h.1.queue, h.1.slots, h.1.active⟩, h.2.unstore hw.1 rfl fun j p hp => ?_⟩
      change p ∈ (Function.update rt.pendingNeighbours i {} j).packets at hp
      by_cases hj : j = i
      · rw [hj, Function.update_self] at hp
        cases hp
      · rwa [Function.update_of_ne hj] at hp
    · intro _
      rw [h.1.active]
      refine graphSubmit_audited fun p hp => ⟨.inl hw, .inr ?_⟩
      rw [h.2.stored hw.2 i p hp, hw.1]
      exact iff_of_false Bool.false_ne_true nofun

end PulsarNetstack
