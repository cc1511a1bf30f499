import PulsarNetstack.NodeTriples
import PulsarNetstack.StartupRouting

namespace PulsarNetstack

open Program Relation

variable {c : Setting} {held : Multiset ℕ} {credit : ℕ} {rt : Runtime} {out : NodeOutput} {slot : SlotId}

/-- One change during `graph_submit`: while a node runs, or of the loop around the nodes. The outputs and the slots are those
that account for every used slot. -/
inductive GraphStep : Runtime → Runtime → Prop
  | node {rank : ℕ} {rt rt' : Runtime} (h : NodeStep rank rt rt') : GraphStep rt rt'
  | seed {rt : Runtime} {out : NodeOutput} {running : List SlotId} (node : NodeId) (p : Packet)
      (idle : rt.activeOutput = none) (ok : GraphOk rt.graph out running)
      (full : (nodeEnqueue rt out node p).2.2 = false → slotAlloc rt.graph = none) :
      GraphStep rt (nodeEnqueue rt out node p).1
  | flush {rt : Runtime} {out : NodeOutput} {running : List SlotId} (node : NodeId)
      (idle : rt.activeOutput = none) (ok : GraphOk rt.graph out running)
      (queued : (flushPending rt out node).2.2 = true) : GraphStep rt (flushPending rt out node).1
  | dequeue {rt : Runtime} {slot : SlotId} {queue : RingBuffer SlotId graphFramePoolSize}
      (idle : rt.activeOutput = none) (pop : rt.graph.queue.pop = some (slot, queue)) :
      GraphStep rt { rt with graph := { rt.graph with queue := queue } }
  | start {rt : Runtime} (idle : rt.activeOutput = none) : GraphStep rt { rt with activeOutput := some {} }
  | finish {rt : Runtime} {out : NodeOutput} (slot : SlotId) (active : rt.activeOutput = some out)
      (ok : GraphOk rt.graph out [slot]) :
      GraphStep rt { rt with
        activeOutput := none
        graph := { rt.graph with slots := Function.update rt.graph.slots slot { rt.graph.slots slot with used := false } } }

def Runs : Runtime → Runtime → Prop := ReflTransGen fun rt rt' => GraphStep rt rt' ∧ Partitioned rt'

theorem Runs.of_steps {rank : ℕ} {rt rt' : Runtime} (h : ReflTransGen (Step rank) rt rt') : Runs rt rt' := by
  induction h with
  | refl => exact .refl
  | tail _ hs ih => exact ih.tail ⟨.node hs.1, hs.2⟩

structure Between (c : Setting) (held : Multiset ℕ) (credit : ℕ) (rt : Runtime) (out : NodeOutput) : Prop where
  running : c.running.length ≤ 1
  idle : rt.activeOutput = none
  owned : Balanced c held credit rt out

theorem Between.partitioned (h : Between c held credit rt out) : Partitioned rt := by
  refine ⟨out, c.running, ?_, h.running, h.owned.ok⟩
  intro o ho
  rw [h.idle] at ho
  cases ho

theorem Between.flush (h : Between c held credit rt out) (node : NodeId) :
    Between c held credit (flushPending rt out node).1 (flushPending rt out node).2.1 ∧
      Runs rt (flushPending rt out node).1 ∧
      (flushPending rt out node).2.1.pending = Function.update out.pending node none := by
  obtain ⟨g, out', he, hok, hf⟩ := h.owned.ok.flush node
  have hown : Balanced c held credit { rt with graph := g } out' := by
    have hids : g.ids out' = rt.graph.ids out := hf.tally _
    have hcost : g.cost out' = rt.graph.cost out := hf.tally _
    refine ⟨hok, ?_, h.owned.nodup, h.owned.fresh, ?_, ?_, h.owned.stored, h.owned.routing⟩
    · change g.ids out' + _ + _ + _ + held = _
      rw [hids]
      exact h.owned.ids
    · change g.cost out' + credit ≤ c.limit
      rw [hcost]
      exact h.owned.paid
    · intro r
      change g.dropReasons r = _
      rw [hf.dropReasons]
      exact h.owned.drops r
  have hbetween : Between c held credit { rt with graph := g } out' := ⟨h.running, h.idle, hown⟩
  have hstep : GraphStep rt (flushPending rt out node).1 := .flush node h.idle h.owned.ok (by rw [he])
  rw [he] at hstep ⊢
  exact ⟨hbetween, .single ⟨hstep, hbetween.partitioned⟩, hf.pending⟩

theorem NodeOutput.eq_empty (h : ∀ n, out.pending n = none) : out = {} := by
  cases out with
  | mk pending =>
    have hpending : pending = fun _ => none := funext h
    rw [hpending]

theorem Between.flushes (h : Between c held credit rt out) (nodes : List NodeId) :
    ∃ rt' out', nodes.foldl (fun s node => ((flushPending s.1 s.2 node).1, (flushPending s.1 s.2 node).2.1)) (rt, out) =
      (rt', out') ∧ Between c held credit rt' out' ∧ Runs rt rt' ∧
      ∀ n, out'.pending n = if n ∈ nodes then none else out.pending n := by
  induction nodes generalizing rt out with
  | nil => exact ⟨rt, out, rfl, h, .refl, fun n => (if_neg List.not_mem_nil).symm⟩
  | cons node nodes ih =>
    obtain ⟨h', hrun, hpending⟩ := h.flush node
    obtain ⟨rt', out', he, hb, hrun', hpending'⟩ := ih h'
    refine ⟨rt', out', he, hb, hrun.trans hrun', ?_⟩
    intro n
    rw [hpending' n, hpending]
    by_cases hn : n = node
    · rw [hn, Function.update_self, ite_self, if_pos List.mem_cons_self]
    · rw [Function.update_of_ne hn]
      simp only [List.mem_cons, hn, false_or]

theorem Between.flushAll (h : Between c held credit rt out) :
    Between c held credit (flushAll rt out) {} ∧ Runs rt (flushAll rt out) := by
  obtain ⟨rt', out', he, hb, hrun, hpending⟩ := h.flushes NodeId.all
  have hempty : out' = {} := by
    apply NodeOutput.eq_empty
    intro n
    rw [hpending n, if_pos n.mem_all]
  have hall : PulsarNetstack.flushAll rt out = rt' := congrArg Prod.fst he
  rw [hall, ← hempty]
  exact ⟨hb, hrun⟩

def Setting.running1 (c : Setting) (slot : SlotId) : Setting := { c with running := [slot] }

theorem Between.dequeue {queue : RingBuffer SlotId graphFramePoolSize} (h : Between c held credit rt {})
    (hc : c.running = []) (hpop : rt.graph.queue.pop = some (slot, queue)) :
    Between (c.running1 slot) (idsOf (rt.graph.slots slot).frame + held)
      ((rt.graph.slots slot).frame.length * (rt.graph.slots slot).node.weight + credit)
      { rt with graph := { rt.graph with queue := queue } } {} ∧ (rt.graph.slots slot).frame ≠ [] := by
  let g : Graph := { rt.graph with queue := queue }
  obtain ⟨hok, hnonempty, htally⟩ := GraphOk.dequeue (hc ▸ h.owned.ok) hpop
  have hids : rt.graph.ids {} = idsOf (rt.graph.slots slot).frame + g.ids {} := by
    rw [Graph.ids, htally, FrameSlot.tally, idsOf_eq_sum]
    rfl
  have hcost : rt.graph.cost {} = (rt.graph.slots slot).frame.length * (rt.graph.slots slot).node.weight + g.cost {} := by
    rw [Graph.cost, htally, FrameSlot.tally, sum_map_const]
    rfl
  refine ⟨⟨Nat.le_refl 1, h.idle, hok, ?_, h.owned.nodup, h.owned.fresh, ?_, h.owned.drops, h.owned.stored,
    h.owned.routing⟩, hnonempty⟩
  · have hold := h.owned.ids
    rw [accounted, hids] at hold
    change g.ids {} + storedIds rt + rt.ledger.freedIds + (rt.ledger.sent : Multiset ℕ) + _ = c.base + _
    rw [← hold]
    abel
  · have hpaid := h.owned.paid
    change g.cost {} + _ ≤ c.limit
    omega

theorem Balanced.release (hc : c.running = []) (h : Balanced (c.running1 slot) held credit rt out) :
    Balanced c held credit { rt with
      activeOutput := none
      graph := { rt.graph with
        slots := Function.update rt.graph.slots slot { rt.graph.slots slot with used := false } } } out := by
  let g : Graph := { rt.graph with
    slots := Function.update rt.graph.slots slot { rt.graph.slots slot with used := false } }
  obtain ⟨hok, htally⟩ := GraphOk.release h.ok
  have hids : g.ids out = rt.graph.ids out := htally _
  have hcost : g.cost out = rt.graph.cost out := htally _
  refine ⟨hc ▸ hok, ?_, h.nodup, h.fresh, ?_, h.drops, h.stored, h.routing⟩
  · change g.ids out + _ + _ + _ + held = _
    rw [hids]
    exact h.ids
  · change g.cost out + credit ≤ _
    rw [hcost]
    exact h.paid

theorem runSlot_between {submit : Submit} {queue : RingBuffer SlotId graphFramePoolSize} (h : Between c 0 credit rt {})
    (hc : c.running = []) (hpop : rt.graph.queue.pop = some (slot, queue)) :
    ∃ rt', runSlot submit slot { rt with graph := { rt.graph with queue := queue } } = some (⟨⟩, rt') ∧ Runs rt rt' ∧
      Between c 0 (credit + 1) rt' {} := by
  obtain ⟨hdequeued, hnonempty⟩ := h.dequeue hc hpop
  let s := rt.graph.slots slot
  let rt₁ := { rt with graph := { rt.graph with queue := queue } }
  let rt₂ := { rt₁ with graph := rt₁.graph.updateStats s.node fun stats => { stats with
    packets := stats.packets + s.frame.length, bytes := stats.bytes + (s.frame.map fun (p : Packet) => p.1.buffer.pktLen).sum } }
  let rt₃ := { rt₂ with activeOutput := some {} }
  have hstart : Runs rt rt₁ := .single ⟨.dequeue h.idle hpop, hdequeued.partitioned⟩
  have q : Unnoticed rt₁ rt₂ := ⟨rfl, rfl, rfl, rfl, rfl, rfl, rfl, rfl⟩
  have hcounted : Between (c.running1 slot) (idsOf s.frame + 0) (s.frame.length * s.node.weight + credit) rt₂ {} :=
    ⟨hdequeued.running, hdequeued.idle, q.owned hdequeued.owned⟩
  have hcount : Runs rt₁ rt₂ := by
    have hstep : NodeStep 0 rt₁ rt₂ := .other rfl rfl rfl
    exact .single ⟨.node hstep, hcounted.partitioned⟩
  have hown : Balanced (c.running1 slot) (idsOf s.frame + 0) (s.frame.length * s.node.weight + credit) rt₃ {} :=
    { hcounted.owned with }
  have hholds : Holds (c.running1 slot) (idsOf s.frame + 0) (s.frame.length * s.node.weight + credit) rt₃ :=
    ⟨hdequeued.running, {}, rfl, hown⟩
  have hactive : Runs rt₂ rt₃ := .single ⟨.start hcounted.idle, hholds.partitioned⟩
  -- The weight of the node is one more than what its run may spend on a packet.
  have hlen : 0 < s.frame.length := List.length_pos_of_ne_nil hnonempty
  have hprice : s.frame.length * (s.node.weight - 1) + (credit + 1) ≤ s.frame.length * s.node.weight + credit := by
    have hweight : s.frame.length * s.node.weight = s.frame.length * (s.node.weight - 1) + s.frame.length := by
      rw [NodeId.weight_eq, Nat.mul_succ]
      rfl
    omega
  obtain ⟨_, rt₄, hrun, hsteps, hrunning, out, hout, hown'⟩ :=
    runNode_disposes submit s.node s.frame 0 (credit + 1) rt₃ (hholds.spend hprice)
  have hfinished : Between c 0 (credit + 1) _ out := ⟨by rw [hc]; exact Nat.zero_le 1, rfl, hown'.release hc⟩
  obtain ⟨hflushed, hflush⟩ := hfinished.flushAll
  refine ⟨_, ?_, ?_, hflushed⟩
  · change ((runNode submit s.node s.frame rt₃).bind _) = _
    rw [hrun]
    change some (_, flushAll _ (rt₄.activeOutput.getD {})) = _
    rw [hout]
    rfl
  · have hfinish : Runs rt₄ _ := .single ⟨.finish slot hout hown'.ok, hfinished.partitioned⟩
    exact hstart.trans (hcount.trans (hactive.trans ((Runs.of_steps hsteps).trans (hfinish.trans hflush))))

theorem Graph.cost_pos {g : Graph} {running : List SlotId} (h : GraphOk g {} running) (hq : g.queue.toList ≠ []) :
    0 < g.cost {} := by
  obtain ⟨i, l, hl⟩ := List.exists_cons_of_ne_nil hq
  have hheld : g.held {} = i :: l := by
    rw [Graph.held, hl]
    exact List.append_nil _
  have hframe : (g.slots i).frame ≠ [] := by
    apply h.nonempty
    rw [hheld]
    exact List.mem_cons_self
  have hlen := List.length_pos_of_ne_nil hframe
  have hpos : 0 < (g.slots i).frame.length * (g.slots i).node.weight := by
    apply Nat.mul_pos hlen
    rw [NodeId.weight_eq]
    exact Nat.succ_pos _
  rw [Graph.cost, Graph.tally, hheld, Graph.tallyOf_cons, FrameSlot.tally, sum_map_const]
  exact Nat.add_pos_left hpos _

theorem drain_between (fuel : ℕ) (h : Between c 0 credit rt {}) (hc : c.running = []) (hfuel : c.limit ≤ fuel + credit) :
    ∃ rt' credit', drain fuel rt = some (⟨⟩, rt') ∧ Runs rt rt' ∧ Between c 0 credit' rt' {} ∧ rt'.graph.queue.toList = [] := by
  induction fuel generalizing rt credit with
  | zero =>
    have hempty : rt.graph.queue.toList = [] := by
      by_contra hq
      have hpos := Graph.cost_pos h.owned.ok hq
      have hpaid := h.owned.paid
      omega
    refine ⟨rt, credit, ?_, .refl, h, hempty⟩
    have hcount : rt.graph.queue.count = 0 := by
      rw [← RingBuffer.length_toList, hempty]
      rfl
    exact if_pos hcount
  | succ fuel ih =>
    unfold drain
    cases hpop : rt.graph.queue.pop with
    | none => exact ⟨rt, credit, rfl, .refl, h, RingBuffer.pop_eq_none_iff.mp hpop⟩
    | some r =>
      obtain ⟨slot, queue⟩ := r
      obtain ⟨rt₁, hslot, hrun, h₁⟩ := runSlot_between h hc hpop
      obtain ⟨rt₂, credit', hdrain, hrun', h₂, hempty⟩ := ih h₁ (by omega)
      refine ⟨rt₂, credit', ?_, hrun.trans hrun', h₂, hempty⟩
      change Option.bind (runSlot _ slot _) _ = _
      rw [hslot]
      exact hdrain

section Seed

variable {node n : NodeId} {p : Packet}

theorem flushPending_pending_of_ne (hn : n ≠ node) : (flushPending rt out node).2.1.pending n = out.pending n := by
  unfold flushPending
  split
  · rfl
  · dsimp only
    split <;> exact Function.update_of_ne hn ..

theorem appendPacket_pending_of_ne (hn : n ≠ node) : (appendPacket rt out node slot p).2.1.pending n = out.pending n := by
  unfold appendPacket
  dsimp only
  split
  · exact flushPending_pending_of_ne hn
  · rfl

theorem nodeEnqueue_pending_of_ne (hn : n ≠ node) : (nodeEnqueue rt out node p).2.1.pending n = out.pending n := by
  unfold nodeEnqueue
  split
  · exact appendPacket_pending_of_ne hn
  · split
    · rfl
    · exact (appendPacket_pending_of_ne hn).trans (Function.update_of_ne hn ..)

theorem nodeEnqueue_activeOutput (h : GraphOk rt.graph out c.running) :
    (nodeEnqueue rt out node p).1.activeOutput = rt.activeOutput := by
  generalize hres : nodeEnqueue rt out node p = res
  cases hres ▸ nodeEnqueue_enqueued h node p with
  | accepted | refused => rfl

theorem Between.seed (h : Between c ({p.1.id} + held) (node.weight + credit) rt out) :
    Between c held credit (nodeEnqueue rt out node p).1 (nodeEnqueue rt out node p).2.1 ∧
      Runs rt (nodeEnqueue rt out node p).1 := by
  have hidle : (nodeEnqueue rt out node p).1.activeOutput = none := (nodeEnqueue_activeOutput h.owned.ok).trans h.idle
  have h' : Between c held credit (nodeEnqueue rt out node p).1 (nodeEnqueue rt out node p).2.1 :=
    ⟨h.running, hidle, h.owned.enqueue⟩
  exact ⟨h', .single ⟨.seed node p h.idle h.owned.ok (nodeEnqueue_fails h.owned.ok), h'.partitioned⟩⟩

theorem Between.seeds {frame : Frame} (h : Between c (idsOf frame + held) (frame.length * node.weight + credit) rt out)
    (hout : ∀ n, n ≠ node → out.pending n = none) :
    ∃ rt' out', frame.foldl (fun s p => ((nodeEnqueue s.1 s.2 node p).1, (nodeEnqueue s.1 s.2 node p).2.1)) (rt, out) =
      (rt', out') ∧ Between c held credit rt' out' ∧ Runs rt rt' ∧ ∀ n, n ≠ node → out'.pending n = none := by
  induction frame generalizing rt out with
  | nil =>
    have hids : idsOf [] + held = held := zero_add held
    have hcost : ([] : Frame).length * node.weight + credit = credit := by
      rw [List.length_nil, Nat.zero_mul, Nat.zero_add]
    rw [hids, hcost] at h
    exact ⟨rt, out, rfl, h, .refl, hout⟩
  | cons p frame ih =>
    have hcost : (p :: frame).length * node.weight + credit = node.weight + (frame.length * node.weight + credit) := by
      rw [List.length_cons, Nat.succ_mul]
      omega
    rw [idsOf_cons, add_assoc, hcost] at h
    obtain ⟨h', hrun⟩ := h.seed
    obtain ⟨rt', out', he, hb, hrun', hpending⟩ := ih h' fun n hn => (nodeEnqueue_pending_of_ne hn).trans (hout n hn)
    exact ⟨rt', out', he, hb, hrun.trans hrun', hpending⟩

theorem Between.seedFrame {frame : Frame} (h : Between c (idsOf frame + held) (frame.length * node.weight + credit) rt {}) :
    Between c held credit (seedFrame node frame rt) {} ∧ Runs rt (seedFrame node frame rt) := by
  obtain ⟨rt', out', he, hb, hrun, hpending⟩ := h.seeds fun n _ => rfl
  obtain ⟨hb', hrun', hflushed⟩ := hb.flush node
  have hempty : (flushPending rt' out' node).2.1 = {} := by
    apply NodeOutput.eq_empty
    intro n
    rw [hflushed]
    by_cases hn : n = node
    · rw [hn, Function.update_self]
    · rw [Function.update_of_ne hn, hpending n hn]
  have hseed : PulsarNetstack.seedFrame node frame rt = (flushPending rt' out' node).1 := by
    unfold PulsarNetstack.seedFrame
    rw [he]
  rw [hempty] at hb'
  rw [hseed]
  exact ⟨hb', hrun.trans hrun'⟩

end Seed

structure IdleGraph (rt : Runtime) : Prop where
  queue : rt.graph.queue.toList = []
  slots : ∀ i, (rt.graph.slots i).used = false
  active : rt.activeOutput = none

structure DistinctMbufs (rt : Runtime) (frame : Frame) : Prop where
  nodup : (idsOf frame + storedIds rt).Nodup
  fresh : ∀ i ∈ idsOf frame + storedIds rt, i < rt.nextMbuf
  stored : ∀ i, (rt.pendingNeighbours i).packets.length ≤ neighbourPendingQueueMax

theorem distinctMbufs_of_empty {rt : Runtime} {frame : Frame} (hpending : rt.pendingNeighbours = fun _ => {})
    (hnodup : (idsOf frame).Nodup) (hfresh : ∀ i ∈ idsOf frame, i < rt.nextMbuf) : DistinctMbufs rt frame := by
  have hstored : storedIds rt = 0 := Finset.sum_eq_zero fun i _ => by rw [hpending]; rfl
  refine ⟨?_, ?_, fun i => ?_⟩
  · rwa [hstored, add_zero]
  · rwa [hstored, add_zero]
  · rw [hpending]
    exact Nat.zero_le _

def Setting.submit (rt : Runtime) (node : NodeId) (frame : Frame) : Setting where
  base := idsOf frame + storedIds rt
  limit := frame.length * node.weight
  running := []
  routing := rt.routing
  drops := rt.graph.dropReasons

theorem IdleGraph.graphOk (h : IdleGraph rt) : GraphOk rt.graph {} [] := by
  have hheld : rt.graph.held {} ++ [] = [] := by
    rw [Graph.held, h.queue]
    rfl
  refine ⟨⟨?_, ?_, ?_, ?_, ?_⟩, ?_⟩
  · rw [hheld]
    exact List.nodup_nil
  · intro i
    rw [hheld, h.slots i]
    exact iff_of_false Bool.false_ne_true List.not_mem_nil
  · intro i hi
    rw [List.append_nil] at hheld
    rw [hheld] at hi
    cases hi
  · intro i hi
    rw [h.slots i] at hi
    cases hi
  · intro n i hi
    cases hi
  · intro n i hi
    cases hi

theorem IdleGraph.tally (h : IdleGraph rt) {M : Type} [AddCommMonoid M] (f : NodeId → Packet → M) :
    rt.graph.tally f {} = 0 := by
  have hheld : rt.graph.held {} = [] := by
    rw [Graph.held, h.queue]
    rfl
  rw [Graph.tally, hheld]
  rfl

theorem DistinctMbufs.between {frame : Frame} (h : DistinctMbufs rt frame) (hidle : IdleGraph rt) (node : NodeId) :
    Between (Setting.submit rt node frame) (idsOf frame + 0) (frame.length * node.weight + 0) { rt with ledger := {} } {} := by
  have hids : rt.graph.ids {} = 0 := hidle.tally _
  have hcost : rt.graph.cost {} = 0 := hidle.tally _
  refine ⟨Nat.zero_le 1, hidle.active, hidle.graphOk, ?_, ?_, ?_, ?_, ?_, h.stored, rfl⟩
  · change rt.graph.ids {} + storedIds rt + 0 + 0 + (idsOf frame + 0) = idsOf frame + storedIds rt + 0
    rw [hids]
    abel
  · change (idsOf frame + storedIds rt + 0).Nodup
    rw [add_zero]
    exact h.nodup
  · change ∀ i ∈ idsOf frame + storedIds rt + 0, i < rt.nextMbuf
    rw [add_zero]
    exact h.fresh
  · change rt.graph.cost {} + (frame.length * node.weight + 0) ≤ frame.length * node.weight
    rw [hcost]
    omega
  · intro r
    change rt.graph.dropReasons r = rt.graph.dropReasons r + 0 + if r = .mbufAllocationFailed then 0 else 0
    rw [ite_self]
    rfl

theorem Between.idleGraph (h : Between c held credit rt {}) (hc : c.running = []) (hq : rt.graph.queue.toList = []) :
    IdleGraph rt := by
  refine ⟨hq, ?_, h.idle⟩
  intro i
  have hheld : rt.graph.held {} ++ c.running = [] := by
    rw [Graph.held, hq, hc]
    rfl
  apply eq_false_of_ne_true
  intro hused
  have hmem := (h.owned.ok.used i).mp hused
  rw [hheld] at hmem
  cases hmem

theorem graphSubmit_between {frame : Frame} {node : NodeId} (hidle : IdleGraph rt) (hframe : DistinctMbufs rt frame)
    (hlen : frame.length ≤ graphFrameSize) {fuel : ℕ} (hfuel : frame.length * node.weight ≤ fuel) :
    ∃ rt' credit, graphSubmit fuel node frame { rt with ledger := {} } = some (⟨⟩, rt') ∧ Runs { rt with ledger := {} } rt' ∧
      Between (Setting.submit rt node frame) 0 credit rt' {} ∧ IdleGraph rt' := by
  obtain ⟨hseeded, hseed⟩ := (hframe.between hidle node).seedFrame
  obtain ⟨rt', credit, hdrain, hrun, h, hempty⟩ := drain_between fuel hseeded rfl hfuel
  refine ⟨rt', credit, ?_, hseed.trans hrun, h, h.idleGraph rfl hempty⟩
  have hsize : ¬ graphFrameSize < frame.length := Nat.not_lt.mpr hlen
  exact (if_neg hsize).trans hdrain

structure Conserved (rt : Runtime) (frame : Frame) (rt' : Runtime) : Prop where
  fates : storedIds rt' + rt'.ledger.freedIds + (rt'.ledger.sent : Multiset ℕ) =
    idsOf frame + storedIds rt + (rt'.ledger.allocated : Multiset ℕ)
  once : (storedIds rt' + rt'.ledger.freedIds + (rt'.ledger.sent : Multiset ℕ)).Nodup
  counted : ∀ r, rt'.graph.dropReasons r = rt.graph.dropReasons r + rt'.ledger.counted r +
    if r = .mbufAllocationFailed then rt'.ledger.arpFailures else 0

theorem Between.conserved {frame : Frame} {node : NodeId} {rt' : Runtime}
    (h : Between (Setting.submit rt node frame) 0 credit rt' {}) (hidle : IdleGraph rt') : Conserved rt frame rt' := by
  have hids : rt'.graph.ids {} = 0 := hidle.tally _
  have hfates : storedIds rt' + rt'.ledger.freedIds + (rt'.ledger.sent : Multiset ℕ) =
      idsOf frame + storedIds rt + (rt'.ledger.allocated : Multiset ℕ) := by
    have hold := h.owned.ids
    rw [accounted, hids, zero_add, add_zero] at hold
    exact hold
  refine ⟨hfates, ?_, h.owned.drops⟩
  rw [hfates]
  exact h.owned.nodup

theorem Between.distinctMbufs {frame : Frame} {node : NodeId} {rt' : Runtime}
    (h : Between (Setting.submit rt node frame) 0 credit rt' {}) (hidle : IdleGraph rt') : DistinctMbufs rt' [] := by
  have hconserved := h.conserved hidle
  have hnil : idsOf [] + storedIds rt' = storedIds rt' := zero_add _
  refine ⟨?_, ?_, h.owned.stored⟩
  · rw [hnil]
    exact (Multiset.nodup_add.mp (Multiset.nodup_add.mp hconserved.once).1).1
  · intro i hi
    rw [hnil] at hi
    apply h.owned.fresh
    change i ∈ idsOf frame + storedIds rt + (rt'.ledger.allocated : Multiset ℕ)
    rw [← hconserved.fates, add_assoc]
    exact Multiset.mem_add.mpr (.inl hi)

def LoopTurn (rt rt' : Runtime) : Prop :=
  ∃ submit slot queue, rt.graph.queue.pop = some (slot, queue) ∧
    runSlot submit slot { rt with graph := { rt.graph with queue := queue } } = some (⟨⟩, rt')

theorem Between.turn {rt' : Runtime} (h : Between c 0 credit rt {}) (hc : c.running = []) (hturn : LoopTurn rt rt') :
    Runs rt rt' ∧ Between c 0 (credit + 1) rt' {} := by
  obtain ⟨submit, slot, queue, hpop, hrun⟩ := hturn
  obtain ⟨rt'', hrun', hruns, h'⟩ := runSlot_between h hc hpop
  obtain ⟨-, rfl⟩ := Prod.mk.inj (Option.some.inj (hrun'.symm.trans hrun))
  exact ⟨hruns, h'⟩

theorem Between.turns {rt' : Runtime} (h : Between c 0 credit rt {}) (hc : c.running = [])
    (hturns : ReflTransGen LoopTurn rt rt') : ∃ credit', Between c 0 credit' rt' {} := by
  induction hturns with
  | refl => exact ⟨credit, h⟩
  | tail _ hturn ih =>
    obtain ⟨_, h'⟩ := ih
    exact ⟨_, (h'.turn hc hturn).2⟩

/-- A call of `graph_submit` returns with the graph idle, and every mbuf that it was given, found in a pending queue or
allocated was sent, freed or put into a pending queue, once. Each turn of its loop keeps the slots partitioned. -/
theorem graphSubmit_conserves (rt : Runtime) (node : NodeId) (frame : Frame) (hidle : IdleGraph rt)
    (hframe : DistinctMbufs rt frame) (hlen : frame.length ≤ graphFrameSize) :
    (∃ n, ∀ fuel ≥ n, ∃ rt', graphSubmit fuel node frame { rt with ledger := {} } = some (⟨⟩, rt') ∧
      Runs { rt with ledger := {} } rt' ∧ IdleGraph rt' ∧ Conserved rt frame rt' ∧ DistinctMbufs rt' []) ∧
    ∀ rt₁, ReflTransGen LoopTurn (seedFrame node frame { rt with ledger := {} }) rt₁ →
      GraphOk rt₁.graph {} [] ∧ rt₁.activeOutput = none ∧ ∀ rt₂, LoopTurn rt₁ rt₂ → Runs rt₁ rt₂ := by
  constructor
  · refine ⟨frame.length * node.weight, ?_⟩
    intro fuel hfuel
    obtain ⟨rt', credit, hsubmit, hrun, h, hidle'⟩ := graphSubmit_between hidle hframe hlen hfuel
    exact ⟨rt', hsubmit, hrun, hidle', h.conserved hidle', h.distinctMbufs hidle'⟩
  · intro rt₁ hturns
    obtain ⟨hseeded, -⟩ := (hframe.between hidle node).seedFrame
    obtain ⟨credit, h⟩ := hseeded.turns rfl hturns
    exact ⟨h.owned.ok, h.idle, fun rt₂ hturn => (h.turn rfl hturn).1⟩

def datagramTo (last : Byte) (checksum dst : List Byte) : Buffer :=
  { freshBuffer with data := [2, 0, 0, 0, 0, 1, 2, 0, 0, 0, 0, last, 8, 0, 0x45, 0, 0, 28, 0, 0, 0, 0, 64, 17] ++ checksum ++
      [192, 0, 2, last] ++ dst ++ [0, 53, 0, 53, 0, 8, 0, 0] }

def strayDatagram (last checksum : Byte) : Buffer := datagramTo last [168, checksum] [8, 8, 8, 8]

def strayFrame : Frame := [(⟨0, strayDatagram 5 188⟩, {}), (⟨1, strayDatagram 6 187⟩, {})]

theorem gatewayStart_distinct : DistinctPorts gatewayStart.ports := List.pairwise_singleton _ _

def strayRuntime : Runtime where
  routing := gatewayStart
  distinct := gatewayStart_distinct
  world := { hz := 1000, time := fun n => n, random := fun _ => 0, alloc := fun _ => true, burst := fun _ => 64 }
  nextMbuf := 2
  ipv4Forwarding := true
  sockets := socketSubsystemInit 4

theorem strayRuntime_idle : IdleGraph strayRuntime := ⟨rfl, fun _ => rfl, rfl⟩

theorem strayFrame_distinct : DistinctMbufs strayRuntime strayFrame := distinctMbufs_of_empty rfl (by decide) (by decide)

-- Both datagrams wait for the gateway in the end, and the request for it was sent.
theorem strayFrame_conserved : (∃ n, ∀ fuel ≥ n, ∃ rt',
    graphSubmit fuel .ethInput strayFrame { strayRuntime with ledger := {} } = some (⟨⟩, rt') ∧
      Runs { strayRuntime with ledger := {} } rt' ∧ IdleGraph rt' ∧ Conserved strayRuntime strayFrame rt' ∧
      DistinctMbufs rt' []) ∧
    (graphSubmit 30 .ethInput strayFrame strayRuntime).map (fun r =>
      ((r.2.pendingNeighbours ⟨0, by decide⟩).packets.map fun p => p.1.id, r.2.ledger.allocated, r.2.ledger.sent)) =
      some ([0, 1], [2], [2]) :=
  ⟨(graphSubmit_conserves strayRuntime .ethInput strayFrame strayRuntime_idle strayFrame_distinct (by decide)).1,
    by decide +kernel⟩

def Runtime.tally (rt : Runtime) (f : NodeId → ℕ) : ℕ := rt.graph.tally (fun n _ => f n) (rt.activeOutput.getD {})

theorem NodeStep.tally_le {rank : ℕ} {rt' : Runtime} (hpart : Partitioned rt) (h : NodeStep rank rt rt') {f g : NodeId → ℕ}
    (hfg : ∀ n, n.weight < rank → f n ≤ g n) : rt'.tally f + rt.tally g ≤ rt.tally f + rt'.tally g := by
  cases h with
  | @enqueue out node p hlater hactive =>
    obtain ⟨out', running, hout, -, hok⟩ := hpart
    obtain rfl := hout out hactive
    have hbefore : ∀ f, rt.tally f = rt.graph.tally (fun n _ => f n) out := by
      intro f
      rw [Runtime.tally, hactive]
      rfl
    generalize hres : nodeEnqueue rt out node p = res
    cases hres ▸ nodeEnqueue_enqueued hok node p with
    | @accepted graph out' ok tally =>
      have hafter : ∀ f : NodeId → ℕ, graph.tally (fun n _ => f n) out' = rt.tally f + f node := by
        intro f
        rw [hbefore f]
        exact tally _
      have hle := hfg node hlater
      change graph.tally (fun n _ => f n) out' + _ ≤ _ + graph.tally (fun n _ => g n) out'
      rw [hafter f, hafter g]
      omega
    | refused =>
      have hafter : ∀ f : NodeId → ℕ, (rt.graph.countFull node 1).tally (fun n _ => f n) out = rt.tally f := by
        intro f
        rw [hbefore f]
        exact Graph.tally_congr rfl rfl _
      change (rt.graph.countFull node 1).tally (fun n _ => f n) out + _ ≤
        _ + (rt.graph.countFull node 1).tally (fun n _ => g n) out
      rw [hafter f, hafter g]
  | other slots queue active =>
    have hsame : ∀ f, rt'.tally f = rt.tally f := by
      intro f
      rw [Runtime.tally, Runtime.tally, active]
      exact Graph.tally_congr slots queue _
    rw [hsame f, hsame g]

theorem steps_tally_le {rank : ℕ} {rt' : Runtime} (hpart : Partitioned rt) (h : ReflTransGen (Step rank) rt rt')
    {f g : NodeId → ℕ} (hfg : ∀ n, n.weight < rank → f n ≤ g n) : rt'.tally f + rt.tally g ≤ rt.tally f + rt'.tally g := by
  have hboth : Partitioned rt' ∧ rt'.tally f + rt.tally g ≤ rt.tally f + rt'.tally g := by
    induction h with
    | refl => exact ⟨hpart, Nat.le_refl _⟩
    | tail _ hs ih =>
      obtain ⟨hmid, hle⟩ := ih
      have hstep := hs.1.tally_le hmid hfg
      exact ⟨hs.2, by omega⟩
  exact hboth.2

def Given (rt : Runtime) (frame : Frame) : Prop := ∃ c, Holds c (idsOf frame) 0 rt

theorem runNode_returns {frame : Frame} (h : Given rt frame) (submit : Submit) (node : NodeId) :
    ∃ rt', runNode submit node frame rt = some (⟨⟩, rt') ∧ ReflTransGen (Step node.weight) rt rt' ∧
      rt'.tally NodeId.weight ≤ rt.tally NodeId.weight + frame.length * (node.weight - 1) := by
  obtain ⟨c, hrunning, out, hactive, hown⟩ := h
  have hbefore : rt.tally NodeId.weight = rt.graph.cost out := by
    rw [Runtime.tally, hactive]
    rfl
  let c' : Setting := { c with limit := rt.graph.cost out + frame.length * (node.weight - 1) }
  have hids : idsOf frame = idsOf frame + 0 := (add_zero _).symm
  have hown' : Balanced c' (idsOf frame + 0) (frame.length * (node.weight - 1) + 0) rt out :=
    { hown with ids := hids ▸ hown.ids, paid := Nat.le_refl _ }
  have hholds : Holds c' (idsOf frame + 0) (frame.length * (node.weight - 1) + 0) rt := ⟨hrunning, out, hactive, hown'⟩
  obtain ⟨_, rt', hrun, hsteps, -, out', hactive', hown''⟩ := runNode_disposes submit node frame 0 0 rt hholds
  refine ⟨rt', hrun, hsteps, ?_⟩
  have hafter : rt'.tally NodeId.weight = rt'.graph.cost out' := by
    rw [Runtime.tally, hactive']
    rfl
  rw [hbefore, hafter]
  exact hown''.paid

def Feeds (a b : NodeId) : Prop :=
  ∃ submit frame rt rt', Given rt frame ∧ runNode submit a frame rt = some (⟨⟩, rt') ∧
    rt.tally (fun n => if n = b then 1 else 0) < rt'.tally fun n => if n = b then 1 else 0

theorem Feeds.lighter {a b : NodeId} (h : Feeds a b) : b.weight < a.weight := by
  obtain ⟨submit, frame, rt, rt', hgiven, hrun, hmore⟩ := h
  obtain ⟨rt'', hrun', hsteps, -⟩ := runNode_returns hgiven submit a
  obtain rfl : rt' = rt'' := by
    rw [hrun] at hrun'
    exact congrArg Prod.snd (Option.some.inj hrun')
  have hpart : Partitioned rt := by
    obtain ⟨c, hholds⟩ := hgiven
    exact hholds.partitioned
  by_contra hheavy
  have hnone : ∀ n : NodeId, n.weight < a.weight → (if n = b then 1 else 0) ≤ (fun _ : NodeId => 0) n := by
    intro n hn
    have hne : n ≠ b := fun he => hheavy (he ▸ hn)
    rw [if_neg hne]
  have hle := steps_tally_le hpart hsteps hnone
  have hzero : ∀ rt : Runtime, rt.tally (fun _ => 0) = 0 := by
    intro rt
    rw [Runtime.tally, Graph.tally, Graph.tallyOf]
    apply List.sum_eq_zero
    intro x hx
    obtain ⟨i, -, rfl⟩ := List.mem_map.mp hx
    rw [FrameSlot.tally, sum_map_const, Nat.mul_zero]
  rw [hzero, hzero] at hle
  omega

theorem Feeds.acyclic (a : NodeId) : ¬ TransGen Feeds a a := by
  have hlighter : ∀ {a b}, TransGen Feeds a b → b.weight < a.weight := by
    intro a b h
    induction h with
    | single hab => exact hab.lighter
    | tail _ hbc ih => exact hbc.lighter.trans ih
  intro h
  exact Nat.lt_irrefl _ (hlighter h)

/-- Every call of `graph_submit` returns: the nodes cannot feed each other in a circle, and the run of a node never calls it. -/
theorem graphSubmit_terminates :
    (∀ rt node frame, IdleGraph rt → DistinctMbufs rt frame →
      ∃ n, ∀ fuel ≥ n, ∃ rt', graphSubmit fuel node frame { rt with ledger := {} } = some (⟨⟩, rt')) ∧
    (∀ a, ¬ TransGen Feeds a a) ∧
    (∀ rt frame, Given rt frame → ∀ submit node, ∃ rt', runNode submit node frame rt = some (⟨⟩, rt') ∧
      rt'.tally (fun _ => 1) ≤ rt.tally (fun _ => 1) + frame.length * (node.weight - 1)) ∧
    (∀ rt frame, Given rt frame → ∀ node, ∃ rt', runNode (fun _ _ _ => none) node frame rt = some (⟨⟩, rt')) := by
  refine ⟨?_, Feeds.acyclic, ?_, ?_⟩
  · intro rt node frame hidle hframe
    by_cases hlen : frame.length ≤ graphFrameSize
    · refine ⟨frame.length * node.weight, ?_⟩
      intro fuel hfuel
      obtain ⟨rt', _, hsubmit, -⟩ := graphSubmit_between hidle hframe hlen hfuel
      exact ⟨rt', hsubmit⟩
    · exact ⟨0, fun fuel _ => ⟨_, if_pos (Nat.not_le.mp hlen)⟩⟩
  · intro rt frame hgiven submit node
    obtain ⟨rt', hrun, hsteps, hcost⟩ := runNode_returns hgiven submit node
    have hpart : Partitioned rt := by
      obtain ⟨c, hholds⟩ := hgiven
      exact hholds.partitioned
    have hle := steps_tally_le hpart hsteps (f := fun _ => 1) (g := NodeId.weight) fun n _ => by
      rw [NodeId.weight_eq]
      exact Nat.le_add_left 1 _
    exact ⟨rt', hrun, by omega⟩
  · intro rt frame hgiven node
    obtain ⟨rt', hrun, -⟩ := runNode_returns hgiven (fun _ _ _ => none) node
    exact ⟨rt', hrun⟩

theorem strayFrame_terminates : ∃ n, ∀ fuel ≥ n, ∃ rt',
    graphSubmit fuel .ethInput strayFrame { strayRuntime with ledger := {} } = some (⟨⟩, rt') :=
  graphSubmit_terminates.1 strayRuntime .ethInput strayFrame strayRuntime_idle strayFrame_distinct

end PulsarNetstack
