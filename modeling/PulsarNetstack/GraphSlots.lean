import Mathlib.Algebra.BigOperators.Group.List.Basic
import PulsarNetstack.NodeRuns

namespace PulsarNetstack

variable {g : Graph} {out : NodeOutput} {node : NodeId} {slot : SlotId} {running : List SlotId} {p : Packet}

theorem NodeId.mem_all (n : NodeId) : n ∈ NodeId.all := by
  cases n <;> decide

theorem NodeId.all_nodup : NodeId.all.Nodup := by
  decide

def NodeOutput.slots (out : NodeOutput) : List SlotId := NodeId.all.filterMap out.pending

def Graph.held (g : Graph) (out : NodeOutput) : List SlotId := g.queue.toList ++ out.slots

theorem NodeOutput.slots_update (out : NodeOutput) (node : NodeId) :
    ∃ rest, (out.slots.Perm ((out.pending node).toList ++ rest)) ∧
      ∀ o, (NodeOutput.slots { out with pending := Function.update out.pending node o }).Perm (o.toList ++ rest) := by
  obtain ⟨l₁, l₂, hall⟩ := List.append_of_mem node.mem_all
  have hnodup := NodeId.all_nodup
  rw [hall, List.nodup_append, List.nodup_cons] at hnodup
  have hmoved (pending : NodeId → Option SlotId) : (NodeId.all.filterMap pending).Perm
      ((pending node).toList ++ (l₁.filterMap pending ++ l₂.filterMap pending)) := by
    rw [hall, List.filterMap_append, List.filterMap_cons]
    cases pending node with
    | none => exact .refl _
    | some i => exact List.perm_middle
  refine ⟨l₁.filterMap out.pending ++ l₂.filterMap out.pending, hmoved out.pending, fun o => ?_⟩
  have hother (l : List NodeId) (hl : node ∉ l) :
      l.filterMap (Function.update out.pending node o) = l.filterMap out.pending := by
    apply List.filterMap_congr
    intro n hn
    have hne : n ≠ node := fun he => hl (he ▸ hn)
    exact Function.update_of_ne hne o out.pending
  have h := hmoved (Function.update out.pending node o)
  rw [Function.update_self, hother l₁ fun hm => hnodup.2.2 node hm node List.mem_cons_self rfl,
    hother l₂ hnodup.2.1.1] at h
  exact h

section Tally

variable {M : Type} [AddCommMonoid M] (f : NodeId → Packet → M)

def FrameSlot.tally (s : FrameSlot) : M := (s.frame.map (f s.node)).sum

def Graph.tallyOf (g : Graph) (l : List SlotId) : M := (l.map fun i => (g.slots i).tally f).sum

def Graph.tally (g : Graph) (out : NodeOutput) : M := g.tallyOf f (g.held out)

theorem Graph.tallyOf_perm {l l' : List SlotId} (h : l.Perm l') : g.tallyOf f l = g.tallyOf f l' :=
  (h.map _).sum_eq

theorem Graph.tallyOf_cons (i : SlotId) (l : List SlotId) : g.tallyOf f (i :: l) = (g.slots i).tally f + g.tallyOf f l :=
  List.sum_cons

theorem Graph.tallyOf_update {g' : Graph} {s : FrameSlot} (hs : g'.slots = Function.update g.slots slot s)
    {l : List SlotId} (hl : slot ∉ l) : g'.tallyOf f l = g.tallyOf f l := by
  apply congrArg List.sum
  apply List.map_congr_left
  intro i hi
  have hne : i ≠ slot := fun he => hl (he ▸ hi)
  rw [hs, Function.update_of_ne hne]

end Tally

structure SlotsOk (g : Graph) (out : NodeOutput) (running : List SlotId) : Prop where
  nodup : (g.held out ++ running).Nodup
  used : ∀ i, (g.slots i).used = true ↔ i ∈ g.held out ++ running
  nonempty : ∀ i ∈ g.held out, (g.slots i).frame ≠ []
  bounded : ∀ i, (g.slots i).used = true → (g.slots i).frame.length ≤ graphFrameSize
  node : ∀ n i, out.pending n = some i → (g.slots i).node = n

structure GraphOk (g : Graph) (out : NodeOutput) (running : List SlotId) : Prop extends SlotsOk g out running where
  room : ∀ n i, out.pending n = some i → (g.slots i).frame.length < graphFrameSize

theorem NodeOutput.mem_slots : slot ∈ out.slots ↔ ∃ n, out.pending n = some slot := by
  rw [NodeOutput.slots, List.mem_filterMap]
  constructor
  · rintro ⟨n, -, hn⟩
    exact ⟨n, hn⟩
  · rintro ⟨n, hn⟩
    exact ⟨n, n.mem_all, hn⟩

theorem SlotsOk.queueSlot_ne_none (h : SlotsOk g out running) (hslot : slot ∉ g.queue.toList) :
    queueSlot g slot ≠ none := by
  intro hnone
  have hfull : g.queue.toList.length = graphFramePoolSize :=
    RingBuffer.push_eq_none_iff.mp (Option.map_eq_none_iff.mp hnone)
  have hnodup : (slot :: g.queue.toList).Nodup :=
    List.nodup_cons.mpr ⟨hslot, (List.nodup_append.mp (List.nodup_append.mp h.nodup).1).1⟩
  have hle := hnodup.length_le_card
  rw [List.length_cons, hfull, Fintype.card_fin] at hle
  omega

theorem SlotsOk.pending_held (_ : SlotsOk g out running) (hp : out.pending node = some slot) : slot ∈ g.held out :=
  List.mem_append_right _ (NodeOutput.mem_slots.mpr ⟨node, hp⟩)

theorem SlotsOk.pending_not_queued (h : SlotsOk g out running) (hp : out.pending node = some slot) :
    slot ∉ g.queue.toList := by
  intro hq
  have hdisjoint := (List.nodup_append.mp (List.nodup_append.mp h.nodup).1).2.2
  exact hdisjoint slot hq slot (NodeOutput.mem_slots.mpr ⟨node, hp⟩) rfl

theorem SlotsOk.of_perm (h : SlotsOk g out running) {g' : Graph} {out' : NodeOutput} (hslots : g'.slots = g.slots)
    (hheld : (g'.held out').Perm (g.held out)) (hnode : ∀ n i, out'.pending n = some i → out.pending n = some i) :
    SlotsOk g' out' running where
  nodup := (hheld.append_right running).nodup_iff.mpr h.nodup
  used i := by rw [hslots, h.used i, (hheld.append_right running).mem_iff]
  nonempty i hi := by rw [hslots]; exact h.nonempty i (hheld.mem_iff.mp hi)
  bounded i := by rw [hslots]; exact h.bounded i
  node n i hi := by rw [hslots]; exact h.node n i (hnode n i hi)

structure Flushed (g : Graph) (out : NodeOutput) (running : List SlotId) (node : NodeId) (g' : Graph) (out' : NodeOutput) :
    Prop where
  ok : SlotsOk g' out' running
  slots : g'.slots = g.slots
  held : (g'.held out').Perm (g.held out)
  dropReasons : g'.dropReasons = g.dropReasons
  pending : out'.pending = Function.update out.pending node none

theorem Flushed.tally {g' : Graph} {out' : NodeOutput} (h : Flushed g out running node g' out') {M : Type}
    [AddCommMonoid M] (f : NodeId → Packet → M) : g'.tally f out' = g.tally f out := by
  rw [Graph.tally, Graph.tally, ← Graph.tallyOf_perm f h.held, Graph.tallyOf, Graph.tallyOf, h.slots]

theorem flushPending_flushed (rt : Runtime) (h : SlotsOk rt.graph out running) (node : NodeId) :
    ∃ g' out', flushPending rt out node = ({ rt with graph := g' }, out', true) ∧
      Flushed rt.graph out running node g' out' := by
  unfold flushPending
  cases hp : out.pending node with
  | none =>
    have hsame : Function.update out.pending node none = out.pending := by rw [← hp, Function.update_eq_self]
    exact ⟨rt.graph, out, rfl, h, rfl, .refl _, rfl, hsame.symm⟩
  | some slot =>
    obtain ⟨g', hq⟩ := Option.ne_none_iff_exists'.mp (h.queueSlot_ne_none (h.pending_not_queued hp))
    obtain ⟨q, hpush, rfl⟩ := Option.map_eq_some_iff.mp hq
    obtain ⟨rest, hbefore, hafter⟩ := out.slots_update node
    rw [hp] at hbefore
    have hheld : (Graph.held { rt.graph with queue := q }
        { out with pending := Function.update out.pending node none }).Perm (rt.graph.held out) := by
      rw [Graph.held, Graph.held, RingBuffer.toList_push hpush, List.append_assoc]
      exact ((hafter none).cons slot |>.trans hbefore.symm).append_left _
    refine ⟨{ rt.graph with queue := q }, { out with pending := Function.update out.pending node none }, ?_, ?_, rfl,
      hheld, rfl, rfl⟩
    · dsimp only
      rw [hq]
    refine h.of_perm ?_ hheld ?_
    · rfl
    intro n i hi
    change Function.update out.pending node none n = some i at hi
    by_cases hn : n = node
    · rw [hn, Function.update_self] at hi
      cases hi
    · rwa [Function.update_of_ne hn] at hi

theorem GraphOk.flush {rt : Runtime} (h : GraphOk rt.graph out running) (node : NodeId) :
    ∃ g out', flushPending rt out node = ({ rt with graph := g }, out', true) ∧ GraphOk g out' running ∧
      Flushed rt.graph out running node g out' := by
  obtain ⟨g, out', he, hf⟩ := flushPending_flushed rt h.toSlotsOk node
  refine ⟨g, out', he, ⟨hf.ok, ?_⟩, hf⟩
  intro n i hi
  rw [hf.pending] at hi
  rw [hf.slots]
  by_cases hn : n = node
  · rw [hn, Function.update_self] at hi
    cases hi
  · rw [Function.update_of_ne hn] at hi
    exact h.room n i hi

theorem GraphOk.dequeue {queue : RingBuffer SlotId graphFramePoolSize} (h : GraphOk g {} [])
    (hpop : g.queue.pop = some (slot, queue)) :
    GraphOk { g with queue := queue } {} [slot] ∧ (g.slots slot).frame ≠ [] ∧
      ∀ {M : Type} [AddCommMonoid M] (f : NodeId → Packet → M),
        g.tally f {} = (g.slots slot).tally f + Graph.tally f { g with queue := queue } {} := by
  have hslots : NodeOutput.slots {} = [] := rfl
  have hheld : g.held {} = slot :: queue.toList := by
    rw [Graph.held, hslots, List.append_nil, RingBuffer.toList_pop hpop]
  have hheld' : Graph.held { g with queue := queue } {} = queue.toList := by rw [Graph.held, hslots, List.append_nil]
  have hperm : (Graph.held { g with queue := queue } {} ++ [slot]).Perm (g.held {} ++ []) := by
    rw [hheld', hheld, List.append_nil]
    exact List.perm_append_singleton slot queue.toList
  refine ⟨⟨⟨hperm.nodup_iff.mpr h.nodup, ?_, ?_, h.bounded, nofun⟩, nofun⟩, ?_, ?_⟩
  · intro i
    rw [hperm.mem_iff]
    exact h.used i
  · intro i hi
    rw [hheld'] at hi
    apply h.nonempty
    rw [hheld]
    exact List.mem_cons_of_mem slot hi
  · apply h.nonempty
    rw [hheld]
    exact List.mem_cons_self
  · intro M _ f
    rw [Graph.tally, hheld, Graph.tallyOf_cons, Graph.tally, hheld']
    rfl

theorem GraphOk.release (h : GraphOk g out [slot]) :
    GraphOk { g with slots := Function.update g.slots slot { g.slots slot with used := false } } out [] ∧
      ∀ {M : Type} [AddCommMonoid M] (f : NodeId → Packet → M),
        Graph.tally f { g with slots := Function.update g.slots slot { g.slots slot with used := false } } out = g.tally f out := by
  have hnot : slot ∉ g.held out := by
    intro hm
    exact (List.nodup_append.mp h.nodup).2.2 slot hm slot (List.mem_singleton_self slot) rfl
  have hne {i : SlotId} (hi : i ∈ g.held out) : i ≠ slot := fun he => hnot (he ▸ hi)
  let g' : Graph := { g with slots := Function.update g.slots slot { g.slots slot with used := false } }
  have hself : g'.slots slot = { g.slots slot with used := false } := Function.update_self ..
  have hother {i : SlotId} (hi : i ≠ slot) : g'.slots i = g.slots i := Function.update_of_ne hi ..
  refine ⟨⟨⟨?_, fun i => ?_, fun i hi => ?_, fun i hi => ?_, fun n i hi => ?_⟩, fun n i hi => ?_⟩, fun f => ?_⟩
  · rw [List.append_nil]
    exact (List.nodup_append.mp h.nodup).1
  · change (g'.slots i).used = true ↔ i ∈ g.held out ++ []
    rw [List.append_nil]
    by_cases hi : i = slot
    · rw [hi, hself]
      exact iff_of_false Bool.false_ne_true hnot
    · rw [hother hi, h.used i, List.mem_append]
      exact or_iff_left fun hs => hi (List.mem_singleton.mp hs)
  · change (g'.slots i).frame ≠ []
    rw [hother (hne hi)]
    exact h.nonempty i hi
  · change (g'.slots i).used = true at hi
    change (g'.slots i).frame.length ≤ _
    by_cases he : i = slot
    · rw [he, hself] at hi
      cases hi
    · rw [hother he] at hi ⊢
      exact h.bounded i hi
  · change (g'.slots i).node = n
    rw [hother (hne (h.pending_held hi))]
    exact h.node n i hi
  · change (g'.slots i).frame.length < _
    rw [hother (hne (h.pending_held hi))]
    exact h.room n i hi
  · exact Graph.tallyOf_update f rfl hnot

structure Collects (g : Graph) (out : NodeOutput) (running : List SlotId) (node : NodeId) (slot : SlotId) : Prop where
  pending : out.pending node = some slot
  nodup : (g.held out ++ running).Nodup
  used : ∀ i, (g.slots i).used = true ↔ i ∈ g.held out ++ running
  nonempty : ∀ i ∈ g.held out, i ≠ slot → (g.slots i).frame ≠ []
  bounded : ∀ i, (g.slots i).used = true → (g.slots i).frame.length ≤ graphFrameSize
  node : ∀ n i, out.pending n = some i → (g.slots i).node = n
  room : ∀ n i, out.pending n = some i → (g.slots i).frame.length < graphFrameSize

theorem GraphOk.collects (h : GraphOk g out running) (hp : out.pending node = some slot) :
    Collects g out running node slot :=
  ⟨hp, h.nodup, h.used, fun i hi _ => h.nonempty i hi, h.bounded, h.node, h.room⟩

def Graph.appended (g : Graph) (slot : SlotId) (p : Packet) : Graph :=
  { g with slots := Function.update g.slots slot { g.slots slot with frame := (g.slots slot).frame ++ [p] } }

theorem Graph.appended_self (g : Graph) (slot : SlotId) (p : Packet) :
    (g.appended slot p).slots slot = { g.slots slot with frame := (g.slots slot).frame ++ [p] } :=
  Function.update_self ..

theorem Graph.appended_of_ne {i : SlotId} (hi : i ≠ slot) : (g.appended slot p).slots i = g.slots i :=
  Function.update_of_ne hi ..

theorem Collects.appended (h : Collects g out running node slot) (p : Packet) : SlotsOk (g.appended slot p) out running := by
  have hslot := g.appended_self slot p
  have hother {i : SlotId} (hi : i ≠ slot) : (g.appended slot p).slots i = g.slots i := Graph.appended_of_ne hi
  refine ⟨h.nodup, fun i => ?_, fun i hi => ?_, fun i hi => ?_, fun n i hi => ?_⟩
  all_goals by_cases he : i = slot
  · rw [he, hslot]
    exact h.used slot
  · rw [hother he]
    exact h.used i
  · rw [he, hslot]
    exact List.append_ne_nil_of_right_ne_nil _ (List.cons_ne_nil p [])
  · rw [hother he]
    exact h.nonempty i hi he
  · rw [he, hslot, List.length_append, List.length_singleton]
    exact h.room node slot h.pending
  · rw [hother he] at hi ⊢
    exact h.bounded i hi
  · rw [he, hslot]
    exact h.node n slot (he ▸ hi)
  · rw [hother he]
    exact h.node n i hi

theorem Collects.tally_appended (h : Collects g out running node slot) (p : Packet) {M : Type} [AddCommMonoid M]
    (f : NodeId → Packet → M) : (g.appended slot p).tally f out = g.tally f out + f node p := by
  have hmem : slot ∈ g.held out := List.mem_append_right _ (NodeOutput.mem_slots.mpr ⟨node, h.pending⟩)
  have hnodup : (g.held out).Nodup := (List.nodup_append.mp h.nodup).1
  obtain ⟨rest, hperm⟩ : ∃ rest, (g.held out).Perm (slot :: rest) := ⟨_, List.perm_cons_erase hmem⟩
  have hrest : slot ∉ rest := (List.nodup_cons.mp (hperm.nodup_iff.mp hnodup)).1
  have hslot : ((g.appended slot p).slots slot).tally f = (g.slots slot).tally f + f node p := by
    rw [Graph.appended_self, FrameSlot.tally, FrameSlot.tally, List.map_append, List.sum_append, List.map_singleton,
      List.sum_singleton, h.node node slot h.pending]
  rw [Graph.tally, Graph.tally, show (g.appended slot p).held out = g.held out from rfl, Graph.tallyOf_perm f hperm,
    Graph.tallyOf_perm f hperm, Graph.tallyOf_cons, Graph.tallyOf_cons, hslot, Graph.tallyOf_update f rfl hrest,
    add_right_comm]

inductive Enqueued (rt : Runtime) (out : NodeOutput) (running : List SlotId) (node : NodeId) (p : Packet) :
    Runtime × NodeOutput × Bool → Prop
  | accepted {g : Graph} {out' : NodeOutput} (ok : GraphOk g out' running)
      (tally : ∀ {M : Type} [AddCommMonoid M] (f : NodeId → Packet → M), g.tally f out' = rt.graph.tally f out + f node p)
      (dropReasons : g.dropReasons = rt.graph.dropReasons) : Enqueued rt out running node p ({ rt with graph := g }, out', true)
  | refused (full : slotAlloc rt.graph = none) : Enqueued rt out running node p
      ({ rt.free p.1 .enqueueFailed with graph := rt.graph.countFull node 1 }, out, false)

theorem appendPacket_enqueued (rt : Runtime) (h : Collects rt.graph out running node slot) (p : Packet) :
    ∃ g out', appendPacket rt out node slot p = ({ rt with graph := g }, out', true) ∧ GraphOk g out' running ∧
      (∀ {M : Type} [AddCommMonoid M] (f : NodeId → Packet → M), g.tally f out' = rt.graph.tally f out + f node p) ∧
      g.dropReasons = rt.graph.dropReasons := by
  have hok := h.appended p
  have hother {n : NodeId} {i : SlotId} (hn : n ≠ node) (hi : out.pending n = some i) : i ≠ slot := by
    rintro rfl
    exact hn ((h.node n i hi).symm.trans (h.node node i h.pending))
  have hroom {n : NodeId} {i : SlotId} (hn : n ≠ node) (hi : out.pending n = some i) :
      ((rt.graph.appended slot p).slots i).frame.length < graphFrameSize := by
    rw [Graph.appended_of_ne (hother hn hi)]
    exact h.room n i hi
  unfold appendPacket
  dsimp only
  by_cases hfull : ((rt.graph.slots slot).frame ++ [p]).length = graphFrameSize
  · rw [if_pos hfull]
    obtain ⟨g, out', he, hf⟩ := flushPending_flushed { rt with graph := rt.graph.appended slot p } hok node
    refine ⟨g, out', he, ⟨hf.ok, fun n i hi => ?_⟩, fun f => (hf.tally f).trans (h.tally_appended p f), hf.dropReasons⟩
    rw [hf.pending] at hi
    rw [hf.slots]
    by_cases hn : n = node
    · rw [hn, Function.update_self] at hi
      cases hi
    · rw [Function.update_of_ne hn] at hi
      exact hroom hn hi
  · rw [if_neg hfull]
    refine ⟨rt.graph.appended slot p, out, rfl, ⟨hok, fun n i hi => ?_⟩, h.tally_appended p, rfl⟩
    by_cases hn : n = node
    · obtain rfl := Option.some.inj (h.pending.symm.trans (hn ▸ hi))
      rw [Graph.appended_self]
      exact lt_of_le_of_ne (by rw [List.length_append]; exact h.room node slot h.pending) hfull
    · exact hroom hn hi

theorem slotAlloc_eq_some {g' : Graph} (h : slotAlloc g = some (slot, g')) : (g.slots slot).used = false ∧
    g' = { g with slots := Function.update g.slots slot { g.slots slot with used := true, frame := [] } } := by
  obtain ⟨i, hfind, he⟩ := Option.map_eq_some_iff.mp h
  obtain ⟨rfl, rfl⟩ := Prod.mk.inj he
  exact ⟨by simpa using List.find?_some hfind, rfl⟩

def Graph.opened (g : Graph) (slot : SlotId) (node : NodeId) : Graph :=
  { g with slots := Function.update g.slots slot { frame := [], node := node, used := true } }

theorem GraphOk.opened (h : GraphOk g out running) (hp : out.pending node = none) (hfree : (g.slots slot).used = false) :
    Collects (g.opened slot node) { out with pending := Function.update out.pending node (some slot) } running node slot ∧
      ∀ {M : Type} [AddCommMonoid M] (f : NodeId → Packet → M), (g.opened slot node).tally f
        { out with pending := Function.update out.pending node (some slot) } = g.tally f out := by
  have hnew : slot ∉ g.held out ++ running := by
    intro hm
    rw [(h.used slot).mpr hm] at hfree
    cases hfree
  have hself : (g.opened slot node).slots slot = { frame := [], node := node, used := true } := Function.update_self ..
  have hother {i : SlotId} (hi : i ≠ slot) : (g.opened slot node).slots i = g.slots i := Function.update_of_ne hi ..
  obtain ⟨rest, hbefore, hafter⟩ := out.slots_update node
  rw [hp] at hbefore
  have hheld : ((g.opened slot node).held { out with pending := Function.update out.pending node (some slot) }).Perm
      (slot :: g.held out) := by
    refine ((hafter (some slot)).append_left _).trans ?_
    exact List.perm_middle.trans ((hbefore.symm.append_left _).cons slot)
  have hpending {n : NodeId} {i : SlotId} (hi : Function.update out.pending node (some slot) n = some i) :
      (n = node ∧ i = slot) ∨ (i ≠ slot ∧ out.pending n = some i) := by
    by_cases hn : n = node
    · rw [hn, Function.update_self] at hi
      exact .inl ⟨hn, (Option.some.inj hi).symm⟩
    · rw [Function.update_of_ne hn] at hi
      refine .inr ⟨?_, hi⟩
      rintro rfl
      exact hnew (List.mem_append_left _ (h.pending_held hi))
  have hold {i : SlotId} (hi : i ∈ slot :: g.held out) (hne : i ≠ slot) : i ∈ g.held out :=
    (List.mem_cons.mp hi).resolve_left hne
  refine ⟨⟨Function.update_self .., ?_, fun i => ?_, fun i hi hne => ?_, fun i hi => ?_, fun n i hi => ?_, fun n i hi => ?_⟩,
    fun f => ?_⟩
  · exact (hheld.append_right running).nodup_iff.mpr (List.nodup_cons.mpr ⟨hnew, h.nodup⟩)
  · rw [(hheld.append_right running).mem_iff, List.cons_append, List.mem_cons]
    by_cases he : i = slot
    · rw [he, hself]
      exact iff_of_true rfl (.inl rfl)
    · rw [hother he, h.used i]
      exact (or_iff_right he).symm
  · rw [hother hne]
    exact h.nonempty i (hold (hheld.mem_iff.mp hi) hne)
  · by_cases he : i = slot
    · rw [he, hself]
      exact Nat.zero_le _
    · rw [hother he] at hi ⊢
      exact h.bounded i hi
  · rcases hpending hi with ⟨rfl, rfl⟩ | ⟨hne, hi⟩
    · rw [hself]
    · rw [hother hne]
      exact h.node n i hi
  · rcases hpending hi with ⟨rfl, rfl⟩ | ⟨hne, hi⟩
    · rw [hself]
      exact Nat.zero_lt_succ 63
    · rw [hother hne]
      exact h.room n i hi
  · rw [Graph.tally, Graph.tallyOf_perm f hheld, Graph.tallyOf_cons, hself,
      Graph.tallyOf_update f rfl fun hm => hnew (List.mem_append_left _ hm)]
    exact zero_add _

theorem nodeEnqueue_enqueued {rt : Runtime} (h : GraphOk rt.graph out running) (node : NodeId) (p : Packet) :
    Enqueued rt out running node p (nodeEnqueue rt out node p) := by
  unfold nodeEnqueue
  cases hp : out.pending node with
  | some slot =>
    obtain ⟨g, out', he, hok, htally, hdrops⟩ := appendPacket_enqueued rt (h.collects hp) p
    dsimp only
    rw [he]
    exact .accepted hok htally hdrops
  | none =>
    dsimp only
    cases ha : slotAlloc rt.graph with
    | none => exact .refused ha
    | some r =>
      obtain ⟨slot, g⟩ := r
      obtain ⟨hfree, rfl⟩ := slotAlloc_eq_some ha
      obtain ⟨hcollects, htally⟩ := h.opened hp hfree
      obtain ⟨g', out', he, hok, htally', hdrops⟩ :=
        appendPacket_enqueued { rt with graph := rt.graph.opened slot node } hcollects p
      dsimp only
      rw [Function.update_idem, Function.update_self]
      change Enqueued rt out running node p (appendPacket { rt with graph := rt.graph.opened slot node } _ node slot p)
      rw [he]
      exact .accepted hok (fun f => by rw [htally' f, htally f]) hdrops

theorem nodeEnqueue_fails {rt : Runtime} (h : GraphOk rt.graph out running)
    (hfail : (nodeEnqueue rt out node p).2.2 = false) : slotAlloc rt.graph = none := by
  generalize hres : nodeEnqueue rt out node p = res at hfail
  cases hres ▸ nodeEnqueue_enqueued h node p with
  | accepted => cases hfail
  | refused full => exact full

end PulsarNetstack
