import PulsarNetstack.PacketFlow

namespace PulsarNetstack

open Program

def Shuffled (rt rt' : Runtime) : Prop :=
  ∃ g out freed, rt' = { rt with graph := g, activeOutput := out, ledger := { rt.ledger with freed := freed } }

def Unframed (J : Runtime → Prop) : Prop := ∀ rt rt', J rt → Shuffled rt rt' → J rt'

variable {P : NodeId → Packet → Prop} {J : Runtime → Prop} {rt rt' : Runtime} {out : NodeOutput} {node : NodeId} {p : Packet}
  {submit : Submit} {slot : SlotId} {running : List SlotId} {fuel : ℕ}

theorem Shuffled.refl (rt : Runtime) : Shuffled rt rt := ⟨rt.graph, rt.activeOutput, rt.ledger.freed, rfl⟩

theorem Shuffled.trans {rt'' : Runtime} (h : Shuffled rt rt') (h' : Shuffled rt' rt'') : Shuffled rt rt'' := by
  obtain ⟨g, out, freed, rfl⟩ := h
  obtain ⟨g', out', freed', rfl⟩ := h'
  exact ⟨g', out', freed', rfl⟩

theorem freeFrame_shuffled (frame : Frame) (rt : Runtime) : Shuffled rt (freeFrame rt frame) := by
  unfold freeFrame
  induction frame generalizing rt with
  | nil => exact .refl rt
  | cons p frame ih =>
    refine Shuffled.trans ?_ (ih (rt.free p.1 .enqueueFailed))
    exact ⟨rt.graph, rt.activeOutput, _, rfl⟩

theorem flushPending_shuffled (rt : Runtime) (out : NodeOutput) (node : NodeId) :
    Shuffled rt (flushPending rt out node).1 := by
  unfold flushPending
  split
  · exact .refl rt
  dsimp only
  split
  · exact ⟨_, rt.activeOutput, rt.ledger.freed, rfl⟩
  · exact (freeFrame_shuffled _ rt).trans ⟨_, _, _, rfl⟩

theorem appendPacket_shuffled (rt : Runtime) (out : NodeOutput) (node : NodeId) (slot : SlotId) (p : Packet) :
    Shuffled rt (appendPacket rt out node slot p).1 := by
  unfold appendPacket
  dsimp only
  split
  · refine Shuffled.trans ?_ (flushPending_shuffled _ out node)
    exact ⟨_, rt.activeOutput, rt.ledger.freed, rfl⟩
  · exact ⟨_, rt.activeOutput, rt.ledger.freed, rfl⟩

theorem nodeEnqueue_shuffled (rt : Runtime) (out : NodeOutput) (node : NodeId) (p : Packet) :
    Shuffled rt (nodeEnqueue rt out node p).1 := by
  unfold nodeEnqueue
  split
  · exact appendPacket_shuffled rt out node _ p
  split
  · exact ⟨_, rt.activeOutput, _, rfl⟩
  · refine Shuffled.trans ?_ (appendPacket_shuffled _ _ node _ p)
    exact ⟨_, rt.activeOutput, rt.ledger.freed, rfl⟩

theorem foldl_shuffled {ι : Type} (f : Runtime × NodeOutput → ι → Runtime × NodeOutput)
    (hf : ∀ s i, Shuffled s.1 (f s i).1) (l : List ι) (s : Runtime × NodeOutput) : Shuffled s.1 (l.foldl f s).1 := by
  induction l generalizing s with
  | nil => exact .refl s.1
  | cons i l ih => exact (hf s i).trans (ih (f s i))

theorem flushAll_shuffled (rt : Runtime) (out : NodeOutput) : Shuffled rt (flushAll rt out) :=
  foldl_shuffled _ (fun s node => flushPending_shuffled s.1 s.2 node) NodeId.all (rt, out)

theorem seedFrame_shuffled (node : NodeId) (frame : Frame) (rt : Runtime) : Shuffled rt (seedFrame node frame rt) :=
  (foldl_shuffled _ (fun s p => nodeEnqueue_shuffled s.1 s.2 node p) frame (rt, {})).trans (flushPending_shuffled _ _ node)

structure Guarded (P : NodeId → Packet → Prop) (J : Runtime → Prop) (running : List SlotId) (rt : Runtime) : Prop where
  running : Running P (fun _ => True) running rt
  holds : J rt

abbrev Guards (P : NodeId → Packet → Prop) (J : Runtime → Prop) (running : List SlotId) {α : Type} (x : GraphM α) : Prop :=
  Safe (Guarded P J running) x fun _ => Guarded P J running

theorem Guarded.keep (h : Guarded P J running rt) (hslots : rt'.graph.slots = rt.graph.slots)
    (hqueue : rt'.graph.queue = rt.graph.queue) (hactive : rt'.activeOutput = rt.activeOutput) (hJ : J rt') :
    Guarded P J running rt' := by
  obtain ⟨out, hout, hcarries, -⟩ := h.running
  exact ⟨⟨out, hactive.trans hout, hcarries.of_eq hslots hqueue, trivial⟩, hJ⟩

section Unframed

variable (hJ : Unframed J)
include hJ

theorem emit_guards (hp : P node p) : Guards P J running (emit node p) := by
  refine ⟨fun rt ok rt' h hrun => ⟨(emit_flows hp).post rt ok rt' h.running hrun, ?_⟩⟩
  obtain ⟨out, hactive, -⟩ := h.running
  rw [emit_eq rt hactive] at hrun
  obtain ⟨-, rfl⟩ := Prod.mk.inj (Option.some.inj hrun)
  exact hJ rt _ h.holds ((nodeEnqueue_shuffled rt out node p).trans ⟨_, _, _, rfl⟩)

theorem inject_guards (hp : P node p) : Guards P J running (inject submit node p) := by
  refine ⟨fun rt ok rt' h hrun => ?_⟩
  rw [inject_eq_emit h.running.isSome] at hrun
  exact (emit_guards hJ hp).post rt ok rt' h hrun

theorem graphDrop_guards (owner : NodeId) (p : Packet) (reason : DropReason) (error : Bool) (hdrop : ∀ p, P .drop p) :
    Guards P J running (graphDrop owner p reason error) := by
  refine ⟨fun rt a rt' h hrun => ?_⟩
  rw [graphDrop_eq_emit h.running.isSome] at hrun
  obtain ⟨⟨ok, rt₂⟩, hemit, he⟩ := Option.map_eq_some_iff.mp hrun
  obtain ⟨-, rfl⟩ := Prod.mk.inj he
  refine (emit_guards hJ (hdrop _)).post _ ok rt₂ ?_ hemit
  exact h.keep rfl rfl rfl (hJ rt _ h.holds ⟨_, rt.activeOutput, rt.ledger.freed, rfl⟩)

theorem settle_guards (owner : NodeId) (p : Packet) (v : Verdict) (hdrop : ∀ p, P .drop p)
    (hv : ∀ n b ctx, v = .enqueue n b ctx → P n (⟨p.1.id, b⟩, ctx)) : Guards P J running (settle owner p v) := by
  cases v with
  | drop reason error => exact graphDrop_guards hJ owner p reason error hdrop
  | enqueue n b ctx => exact Safe.bind (emit_guards hJ (hv n b ctx rfl)) fun _ => Safe.pure fun _ h => h

theorem decideEach_guards {owner : NodeId} {verdict : Runtime → Buffer → PacketCtx → Verdict} {frame : Frame}
    (hdrop : ∀ p, P .drop p)
    (h : ∀ rt, J rt → ∀ p ∈ frame, ∀ n b ctx, verdict rt p.1.buffer p.2 = .enqueue n b ctx → P n (⟨p.1.id, b⟩, ctx)) :
    Guards P J running (decideEach owner verdict frame) := by
  apply Safe.forM
  intro p hp
  apply Safe.peek
  intro rt hrt
  exact settle_guards hJ owner p _ hdrop (h rt hrt.holds p hp)

theorem freeMbuf_guards (m : Mbuf) (cause : FreeCause) : Guards P J running (freeMbuf m cause) :=
  Safe.modify fun rt h => h.keep rfl rfl rfl (hJ rt _ h.holds ⟨rt.graph, rt.activeOutput, _, rfl⟩)

theorem dropNodeRun_guards (frame : Frame) : Guards P J running (dropNodeRun frame) := by
  have hcount (f : Graph → Graph) (hslots : ∀ g, (f g).slots = g.slots) (hqueue : ∀ g, (f g).queue = g.queue) :
      Guards P J running (modifyGraph f) :=
    Safe.modify fun rt h => h.keep (hslots _) (hqueue _) rfl (hJ rt _ h.holds ⟨_, rt.activeOutput, rt.ledger.freed, rfl⟩)
  apply Safe.bind
  · exact hcount _ (fun _ => rfl) fun _ => rfl
  · intro _
    exact Safe.forM fun p _ => Safe.bind (hcount _ (fun _ => rfl) fun _ => rfl) fun _ => freeMbuf_guards hJ _ _

theorem runSlot_guarded {queue : RingBuffer SlotId graphFramePoolSize}
    (hnode : ∀ submit node frame slot, (∀ p ∈ frame, P node p) → Guards P J [slot] (runNode submit node frame))
    (h : Resting P (fun _ => True) {} rt) (hrest : J rt) (hpop : rt.graph.queue.pop = some (slot, queue))
    (hrun : runSlot submit slot { rt with graph := { rt.graph with queue := queue } } = some (⟨⟩, rt')) :
    Resting P (fun _ => True) {} rt' ∧ J rt' := by
  obtain ⟨hcarries, hframe⟩ := h.dequeue hpop
  obtain ⟨rt₁, hran, rfl⟩ := runSlot_eq_some hrun
  have hguarded : Guarded P J [slot] (Runtime.enterSlot { rt with graph := { rt.graph with queue := queue } } slot) :=
    ⟨⟨{}, rfl, hcarries.of_eq rfl rfl, trivial⟩, hJ rt _ hrest ⟨_, _, rt.ledger.freed, rfl⟩⟩
  obtain ⟨hrunning, hholds⟩ := (hnode submit _ _ slot hframe).post _ _ rt₁ hguarded hran
  refine ⟨hrunning.leaveSlot, hJ rt₁ _ hholds (Shuffled.trans ?_ (flushAll_shuffled _ _))⟩
  exact ⟨_, none, rt₁.ledger.freed, rfl⟩

theorem submitLog_guarded
    (hnode : ∀ submit node frame slot, (∀ p ∈ frame, P node p) → Guards P J [slot] (runNode submit node frame))
    {frame : Frame} {log : List Visit} (hidle : IdleGraph rt) (hrest : J rt) (hframe : ∀ p ∈ frame, P node p)
    (hrun : submitLog fuel node frame rt = some (log, rt')) :
    IdleGraph rt' ∧ J rt' ∧ ∀ visit ∈ log, ∀ p ∈ visit.2, P visit.1 p := by
  unfold submitLog at hrun
  split at hrun
  · obtain ⟨rfl, rfl⟩ := Prod.mk.inj (Option.some.inj hrun)
    exact ⟨hidle, hrest, nofun⟩
  · obtain ⟨hidle', hend, hvisits⟩ := drainLog_keeps And.left (fun h => runSlot_guarded hJ hnode h.1 h.2)
      ⟨(hidle.resting trivial).seedFrame hframe, hJ rt _ hrest (seedFrame_shuffled node frame rt)⟩ hrun
    exact ⟨hidle', hend.2, hvisits⟩

theorem graphSubmit_guarded
    (hnode : ∀ submit node frame slot, (∀ p ∈ frame, P node p) → Guards P J [slot] (runNode submit node frame))
    {frame : Frame} (hframe : ∀ p ∈ frame, P node p) :
    Safe (fun rt => IdleGraph rt ∧ J rt) (graphSubmit fuel node frame) fun _ rt => IdleGraph rt ∧ J rt := by
  refine ⟨fun rt _ rt' h hrun => ?_⟩
  rw [graphSubmit_eq_submitLog] at hrun
  obtain ⟨⟨log, rt₁⟩, hlog, he⟩ := Option.map_eq_some_iff.mp hrun
  obtain ⟨-, rfl⟩ := Prod.mk.inj he
  obtain ⟨hidle, hholds, -⟩ := submitLog_guarded hJ hnode h.1 h.2 hframe hlog
  exact ⟨hidle, hholds⟩

end Unframed

end PulsarNetstack
