import PulsarNetstack.GraphOwnership

namespace PulsarNetstack

open Program

variable {c : Setting} {held : Multiset ℕ} {credit rank : ℕ} {submit : Submit} {node : NodeId} {p : Packet}

def Partitioned (rt : Runtime) : Prop :=
  ∃ out running, (∀ o, rt.activeOutput = some o → o = out) ∧ running.length ≤ 1 ∧ GraphOk rt.graph out running

inductive NodeStep (rank : ℕ) : Runtime → Runtime → Prop
  | enqueue {rt : Runtime} {out : NodeOutput} (node : NodeId) (p : Packet) (later : node.weight < rank)
      (active : rt.activeOutput = some out) (full : (nodeEnqueue rt out node p).2.2 = false → slotAlloc rt.graph = none) :
      NodeStep rank rt { (nodeEnqueue rt out node p).1 with activeOutput := some (nodeEnqueue rt out node p).2.1 }
  | other {rt rt' : Runtime} (slots : rt'.graph.slots = rt.graph.slots) (queue : rt'.graph.queue = rt.graph.queue)
      (active : rt'.activeOutput = rt.activeOutput) : NodeStep rank rt rt'

def Step (rank : ℕ) (rt rt' : Runtime) : Prop := NodeStep rank rt rt' ∧ Partitioned rt'

def Holds (c : Setting) (held : Multiset ℕ) (credit : ℕ) (rt : Runtime) : Prop :=
  c.running.length ≤ 1 ∧ ∃ out, rt.activeOutput = some out ∧ Balanced c held credit rt out

theorem Holds.partitioned {rt : Runtime} (h : Holds c held credit rt) : Partitioned rt := by
  obtain ⟨hrunning, out, hactive, hown⟩ := h
  refine ⟨out, c.running, ?_, hrunning, hown.ok⟩
  intro o ho
  exact Option.some.inj (ho.symm.trans hactive)

theorem Holds.spend {rt : Runtime} {credit' : ℕ} (h : Holds c held credit rt) (hle : credit' ≤ credit) :
    Holds c held credit' rt := by
  obtain ⟨hrunning, out, hactive, hown⟩ := h
  have hpaid := hown.paid
  exact ⟨hrunning, out, hactive, { hown with paid := by omega }⟩

structure Unnoticed (rt rt' : Runtime) : Prop where
  slots : rt'.graph.slots = rt.graph.slots
  queue : rt'.graph.queue = rt.graph.queue
  dropReasons : rt'.graph.dropReasons = rt.graph.dropReasons
  ledger : rt'.ledger = rt.ledger
  nextMbuf : rt'.nextMbuf = rt.nextMbuf
  pendingNeighbours : rt'.pendingNeighbours = rt.pendingNeighbours
  routing : rt'.routing = rt.routing
  activeOutput : rt'.activeOutput = rt.activeOutput

theorem Unnoticed.refl (rt : Runtime) : Unnoticed rt rt := ⟨rfl, rfl, rfl, rfl, rfl, rfl, rfl, rfl⟩

theorem Unnoticed.owned {rt rt' : Runtime} {out : NodeOutput} (q : Unnoticed rt rt') (h : Balanced c held credit rt out) :
    Balanced c held credit rt' out where
  ok := h.ok.congr q.slots q.queue
  ids := by
    have hids : rt'.graph.ids out = rt.graph.ids out := Graph.tally_congr q.slots q.queue _
    rw [accounted, hids, storedIds, q.pendingNeighbours, q.ledger]
    exact h.ids
  nodup := by rw [q.ledger]; exact h.nodup
  fresh := by rw [q.ledger, q.nextMbuf]; exact h.fresh
  paid := by
    have hcost : rt'.graph.cost out = rt.graph.cost out := Graph.tally_congr q.slots q.queue _
    rw [hcost]
    exact h.paid
  drops := by rw [q.dropReasons, q.ledger]; exact h.drops
  stored := by rw [q.pendingNeighbours]; exact h.stored
  routing := q.routing.trans h.routing

theorem Unnoticed.holds {rt rt' : Runtime} (q : Unnoticed rt rt') (h : Holds c held credit rt) :
    Step rank rt rt' ∧ Holds c held credit rt' := by
  obtain ⟨hrunning, out, hactive, hown⟩ := h
  have h' : Holds c held credit rt' := ⟨hrunning, out, q.activeOutput.trans hactive, q.owned hown⟩
  exact ⟨⟨.other q.slots q.queue q.activeOutput, h'.partitioned⟩, h'⟩

theorem Triple.unnoticed {f : Runtime → Runtime} (hf : ∀ rt, Unnoticed rt (f rt)) :
    Triple (Step rank) (Holds c held credit) (modify f : GraphM PUnit) fun _ => Holds c held credit := by
  apply Triple.modify
  intro rt h
  exact (hf rt).holds h

theorem timerCycles_triple : Triple (Step rank) (Holds c held credit) timerCycles fun _ => Holds c held credit := by
  intro rt h
  have q : Unnoticed rt { rt with calls := rt.calls + 1 } := ⟨rfl, rfl, rfl, rfl, rfl, rfl, rfl, rfl⟩
  obtain ⟨hstep, h'⟩ : Step rank rt _ ∧ _ := q.holds h
  exact ⟨_, _, rfl, .single hstep, h'⟩

theorem emit_triple (hlater : node.weight < rank) : Triple (Step rank) (Holds c ({p.1.id} + held) (node.weight + credit)) (emit node p)
    fun _ => Holds c held credit := by
  intro rt h
  obtain ⟨hrunning, out, hactive, hown⟩ := h
  have h' : Holds c held credit
      { (nodeEnqueue rt out node p).1 with activeOutput := some (nodeEnqueue rt out node p).2.1 } := by
    have hown' := hown.enqueue
    exact ⟨hrunning, _, rfl, { hown' with }⟩
  refine ⟨(nodeEnqueue rt out node p).2.2, _, ?_, .single ⟨.enqueue node p hlater hactive (nodeEnqueue_fails hown.ok), h'.partitioned⟩, h'⟩
  rw [emit, get_bind_run, hactive]
  rfl

theorem inject_triple (hlater : node.weight < rank) : Triple (Step rank) (Holds c ({p.1.id} + held) (node.weight + credit)) (inject submit node p)
    fun _ => Holds c held credit := by
  intro rt h
  have hsome : rt.activeOutput.isSome := by
    obtain ⟨-, out, hactive, -⟩ := h
    rw [hactive]
    rfl
  rw [inject_eq_emit hsome]
  exact emit_triple hlater rt h

def allocatedId (o : Option Mbuf) : Multiset ℕ := o.elim 0 fun m => {m.id}

theorem allocMbuf_triple : Triple (Step rank) (Holds c held credit) allocMbuf fun o => Holds c (allocatedId o + held) credit := by
  intro rt h
  obtain ⟨hrunning, out, hactive, hown⟩ := h
  by_cases ha : rt.world.alloc rt.calls = true
  · let rt' := { rt with
      calls := rt.calls + 1
      nextMbuf := rt.nextMbuf + 1
      ledger := { rt.ledger with allocated := rt.ledger.allocated ++ [rt.nextMbuf] } }
    have halloc : c.base + (rt'.ledger.allocated : Multiset ℕ) =
        c.base + (rt.ledger.allocated : Multiset ℕ) + {rt.nextMbuf} := by
      change c.base + ((rt.ledger.allocated ++ [rt.nextMbuf] : List ℕ) : Multiset ℕ) = _
      rw [← Multiset.coe_add, ← add_assoc]
      rfl
    have hown' : Balanced c ({rt.nextMbuf} + held) credit rt' out := by
      refine ⟨hown.ok, ?_, ?_, ?_, hown.paid, hown.drops, hown.stored, hown.routing⟩
      · rw [halloc, ← hown.ids]
        change accounted rt out + ({rt.nextMbuf} + held) = _
        abel
      · rw [halloc, Multiset.nodup_add]
        refine ⟨hown.nodup, Multiset.nodup_singleton _, ?_⟩
        rw [Multiset.disjoint_singleton]
        intro hm
        exact Nat.lt_irrefl _ (hown.fresh _ hm)
      · intro i hi
        rw [halloc, Multiset.mem_add, Multiset.mem_singleton] at hi
        change i < rt.nextMbuf + 1
        rcases hi with hi | rfl
        · have := hown.fresh i hi
          omega
        · omega
    have h' : Holds c (allocatedId (some ⟨rt.nextMbuf, freshBuffer⟩) + held) credit rt' := ⟨hrunning, out, hactive, hown'⟩
    refine ⟨some ⟨rt.nextMbuf, freshBuffer⟩, rt', ?_, .single ⟨.other rfl rfl rfl, h'.partitioned⟩, h'⟩
    change some (if rt.world.alloc rt.calls then _ else _) = _
    rw [if_pos ha]
  · have q : Unnoticed rt { rt with calls := rt.calls + 1 } := ⟨rfl, rfl, rfl, rfl, rfl, rfl, rfl, rfl⟩
    have hq : Step rank rt _ ∧ _ := q.holds ⟨hrunning, out, hactive, hown⟩
    have hnone : Holds c (allocatedId none + held) credit { rt with calls := rt.calls + 1 } := by
      change Holds c (0 + held) credit _
      rw [zero_add]
      exact hq.2
    refine ⟨none, _, ?_, .single hq.1, hnone⟩
    change some (if rt.world.alloc rt.calls then _ else _) = _
    rw [if_neg ha]

theorem Holds.free {rt : Runtime} {m : Mbuf} (h : Holds c ({m.id} + held) credit rt) (cause : FreeCause) (g : Graph)
    (hslots : g.slots = rt.graph.slots) (hqueue : g.queue = rt.graph.queue)
    (hdrops : ∀ r, g.dropReasons r = rt.graph.dropReasons r + if cause.reason = some r then 1 else 0) :
    Step rank rt { rt.free m cause with graph := g } ∧ Holds c held credit { rt.free m cause with graph := g } := by
  obtain ⟨hrunning, out, hactive, hown⟩ := h
  have h' : Holds c held credit { rt.free m cause with graph := g } :=
    ⟨hrunning, out, hactive, hown.free hslots hqueue hdrops⟩
  exact ⟨⟨.other hslots hqueue rfl, h'.partitioned⟩, h'⟩

theorem consume_triple {m : Mbuf} : Triple (Step rank) (Holds c ({m.id} + held) credit) (freeMbuf m .consumed)
    fun _ => Holds c held credit := by
  apply Triple.modify
  intro rt h
  apply h.free .consumed rt.graph rfl rfl
  intro r
  rfl

theorem graphDrop_triple {owner : NodeId} {reason : DropReason} {error : Bool} (hlater : NodeId.drop.weight < rank) :
    Triple (Step rank) (Holds c ({p.1.id} + held) (1 + credit)) (graphDrop owner p reason error) fun _ => Holds c held credit := by
  intro rt h
  let rt' := { rt with graph := rt.graph.updateStats owner fun s =>
    { s with drops := s.drops + 1, errors := s.errors + if error then 1 else 0 } }
  have q : Unnoticed rt rt' := ⟨rfl, rfl, rfl, rfl, rfl, rfl, rfl, rfl⟩
  obtain ⟨hstep, h'⟩ : Step rank rt rt' ∧ _ := q.holds h
  have hdrop : Holds c ({(p.1, { p.2 with dropReason := reason }).1.id} + held) (NodeId.drop.weight + credit) rt' := h'
  obtain ⟨ok, rt'', hrun, hsteps, hpost⟩ := emit_triple hlater rt' hdrop
  have hsome : rt.activeOutput.isSome := by
    obtain ⟨-, out, hactive, -⟩ := h
    rw [hactive]
    rfl
  refine ⟨⟨⟩, rt'', ?_, .head hstep hsteps, hpost⟩
  rw [graphDrop_eq_emit hsome]
  exact congrArg (Option.map fun r => (PUnit.unit, r.2)) hrun

def Verdict.cost : Verdict → ℕ
  | .drop .. => NodeId.drop.weight
  | .enqueue node .. => node.weight

theorem settle_triple {owner : NodeId} (v : Verdict) (hlater : v.cost < rank) :
    Triple (Step rank) (Holds c ({p.1.id} + held) (v.cost + credit)) (settle owner p v) fun _ => Holds c held credit := by
  cases v with
  | drop reason error => exact graphDrop_triple hlater
  | enqueue node buffer ctx =>
    apply Triple.bind (emit_triple (p := (⟨p.1.id, buffer⟩, ctx)) hlater)
    intro _
    exact Triple.pure fun rt h => h

theorem forM_triple {ι : Type} {f : ι → GraphM PUnit} (hands : ι → Multiset ℕ) (price : ι → ℕ) (h : ∀ i held credit,
    Triple (Step rank) (Holds c (hands i + held) (price i + credit)) (f i) fun _ => Holds c held credit) (l : List ι) :
    Triple (Step rank) (Holds c ((l.map hands).sum + held) ((l.map price).sum + credit)) (l.forM f)
      fun _ => Holds c held credit := by
  induction l with
  | nil =>
    apply Triple.pure
    intro rt hrt
    rw [List.map_nil, List.map_nil, List.sum_nil, List.sum_nil, zero_add, zero_add] at hrt
    exact hrt
  | cons i l ih =>
    rw [List.map_cons, List.map_cons, List.sum_cons, List.sum_cons, add_assoc, add_assoc]
    apply Triple.bind (h i _ _)
    intro _
    exact ih

theorem sum_map_const {ι : Type} (l : List ι) (price : ℕ) : (l.map fun _ => price).sum = l.length * price := by
  rw [List.map_const', List.sum_replicate, smul_eq_mul]

theorem idsOf_eq_sum (l : List Packet) : idsOf l = (l.map fun p => ({p.1.id} : Multiset ℕ)).sum := by
  induction l with
  | nil => rfl
  | cons p l ih => rw [List.map_cons, List.sum_cons, ← ih, idsOf_cons]

theorem forPackets_triple {f : Packet → GraphM PUnit} (price : ℕ) (h : ∀ p held credit,
    Triple (Step rank) (Holds c ({p.1.id} + held) (price + credit)) (f p) fun _ => Holds c held credit) (l : List Packet) :
    Triple (Step rank) (Holds c (idsOf l + held) (l.length * price + credit)) (l.forM f) fun _ => Holds c held credit := by
  rw [idsOf_eq_sum, ← sum_map_const]
  exact forM_triple _ _ h l

theorem storedIds_update (rt : Runtime) (i : Fin neighbourPendingMax) (e : PendingNeighbour) :
    storedIds { rt with pendingNeighbours := Function.update rt.pendingNeighbours i e } +
      idsOf (rt.pendingNeighbours i).packets = storedIds rt + idsOf e.packets := by
  have hrest : ∑ j ∈ Finset.univ.erase i, idsOf (Function.update rt.pendingNeighbours i e j).packets =
      ∑ j ∈ Finset.univ.erase i, idsOf (rt.pendingNeighbours j).packets := by
    apply Finset.sum_congr rfl
    intro j hj
    rw [Function.update_of_ne (Finset.ne_of_mem_erase hj)]
  rw [storedIds, storedIds, ← Finset.add_sum_erase _ _ (Finset.mem_univ i), ← Finset.add_sum_erase _ _ (Finset.mem_univ i)]
  change idsOf (Function.update rt.pendingNeighbours i e i).packets + _ + _ = _
  rw [Function.update_self, hrest]
  abel

theorem Holds.restock {rt rt' : Runtime} {held' : Multiset ℕ} {i : Fin neighbourPendingMax} {e : PendingNeighbour}
    (h : Holds c held credit rt)
    (q : Unnoticed { rt with pendingNeighbours := Function.update rt.pendingNeighbours i e } rt')
    (hids : idsOf e.packets + held' = idsOf (rt.pendingNeighbours i).packets + held)
    (hlen : e.packets.length ≤ neighbourPendingQueueMax) : Step rank rt rt' ∧ Holds c held' credit rt' := by
  obtain ⟨hrunning, out, hactive, hown⟩ := h
  have hown' : Balanced c held' credit { rt with pendingNeighbours := Function.update rt.pendingNeighbours i e } out := by
    refine ⟨hown.ok, ?_, hown.nodup, hown.fresh, hown.paid, hown.drops, ?_, hown.routing⟩
    · have hstored := storedIds_update rt i e
      have hold := hown.ids
      change rt.graph.ids out + storedIds _ + rt.ledger.freedIds + (rt.ledger.sent : Multiset ℕ) + held' =
        c.base + (rt.ledger.allocated : Multiset ℕ)
      rw [← hold, accounted]
      apply add_right_cancel (b := idsOf (rt.pendingNeighbours i).packets)
      calc _ = rt.graph.ids out + (storedIds { rt with pendingNeighbours := Function.update rt.pendingNeighbours i e } +
            idsOf (rt.pendingNeighbours i).packets) + rt.ledger.freedIds + (rt.ledger.sent : Multiset ℕ) + held' := by abel
        _ = rt.graph.ids out + storedIds rt + rt.ledger.freedIds + (rt.ledger.sent : Multiset ℕ) +
            (idsOf e.packets + held') := by rw [hstored]; abel
        _ = _ := by rw [hids]; abel
    · intro j
      by_cases hj : j = i
      · rw [hj]
        change (Function.update rt.pendingNeighbours i e i).packets.length ≤ _
        rw [Function.update_self]
        exact hlen
      · change (Function.update rt.pendingNeighbours i e j).packets.length ≤ _
        rw [Function.update_of_ne hj]
        exact hown.stored j
  have h' : Holds c held' credit rt' := ⟨hrunning, out, q.activeOutput.trans hactive, q.owned hown'⟩
  exact ⟨⟨.other q.slots q.queue q.activeOutput, h'.partitioned⟩, h'⟩

end PulsarNetstack
