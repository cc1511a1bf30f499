import Mathlib.Algebra.BigOperators.Fin
import Mathlib.Data.Multiset.Basic
import Mathlib.Tactic.Abel
import PulsarNetstack.GraphSlots

namespace PulsarNetstack

open Program

variable {rt : Runtime} {out : NodeOutput} {node : NodeId} {p : Packet} {held : Multiset ℕ} {credit : ℕ}

def FreeCause.reason : FreeCause → Option DropReason
  | .dropped reason => some reason
  | .enqueueFailed => some .graphFull
  | .discarded reason => some reason
  | .consumed => none

def NodeId.weight : NodeId → ℕ
  | .drop => 1
  | .tx => 2
  | .arpOutput => 3
  | .ethOutput => 4
  | .ipv4Output => 5
  | .icmpInput => 5
  | .udpOutput => 6
  | .ipv4Route => 7
  | .udpInput => 7
  | .ipv4Forward => 7
  | .tcpInput => 12
  | .ipv4Acl => 13
  | .ipv4Input => 14
  | .arpInput => 515
  | .ethInput => 516

def idsOf (packets : List Packet) : Multiset ℕ := (packets.map fun p => p.1.id : List ℕ)

theorem idsOf_cons (p : Packet) (l : List Packet) : idsOf (p :: l) = {p.1.id} + idsOf l := rfl

theorem idsOf_append (l l' : List Packet) : idsOf (l ++ l') = idsOf l + idsOf l' := by
  rw [idsOf, List.map_append, ← Multiset.coe_add]
  rfl

theorem idsOf_perm {l l' : List Packet} (h : l.Perm l') : idsOf l = idsOf l' :=
  Multiset.coe_eq_coe.mpr (h.map _)

def storedIds (rt : Runtime) : Multiset ℕ := ∑ i, idsOf (rt.pendingNeighbours i).packets

def Graph.ids (g : Graph) (out : NodeOutput) : Multiset ℕ := g.tally (fun _ p => {p.1.id}) out

def Graph.cost (g : Graph) (out : NodeOutput) : ℕ := g.tally (fun n _ => n.weight) out

def Ledger.freedIds (l : Ledger) : Multiset ℕ := (l.freed.map Prod.fst : List ℕ)

def accounted (rt : Runtime) (out : NodeOutput) : Multiset ℕ :=
  rt.graph.ids out + storedIds rt + rt.ledger.freedIds + (rt.ledger.sent : Multiset ℕ)

def Ledger.counted (l : Ledger) (reason : DropReason) : ℕ := l.freed.countP fun e => e.2.reason == some reason

structure Setting where
  base : Multiset ℕ
  limit : ℕ
  running : List SlotId
  routing : Routing
  drops : DropReason → ℕ

variable {c : Setting}

structure Balanced (c : Setting) (held : Multiset ℕ) (credit : ℕ) (rt : Runtime) (out : NodeOutput) : Prop where
  ok : GraphOk rt.graph out c.running
  ids : accounted rt out + held = c.base + (rt.ledger.allocated : Multiset ℕ)
  nodup : (c.base + (rt.ledger.allocated : Multiset ℕ)).Nodup
  fresh : ∀ i ∈ c.base + (rt.ledger.allocated : Multiset ℕ), i < rt.nextMbuf
  paid : rt.graph.cost out + credit ≤ c.limit
  drops : ∀ r, rt.graph.dropReasons r = c.drops r + rt.ledger.counted r +
    if r = .mbufAllocationFailed then rt.ledger.arpFailures else 0
  stored : ∀ i, (rt.pendingNeighbours i).packets.length ≤ neighbourPendingQueueMax
  routing : rt.routing = c.routing

theorem Ledger.counted_append (l : Ledger) (id : ℕ) (cause : FreeCause) (r : DropReason) :
    Ledger.counted { l with freed := l.freed ++ [(id, cause)] } r =
      l.counted r + if cause.reason = some r then 1 else 0 := by
  rw [Ledger.counted, Ledger.counted, List.countP_append, List.countP_singleton]
  simp

theorem Graph.tally_congr {g g' : Graph} (hslots : g'.slots = g.slots) (hqueue : g'.queue = g.queue) {M : Type}
    [AddCommMonoid M] (f : NodeId → Packet → M) : g'.tally f out = g.tally f out := by
  rw [Graph.tally, Graph.tally, Graph.tallyOf, Graph.tallyOf, Graph.held, Graph.held, hslots, hqueue]

theorem GraphOk.congr {g g' : Graph} {running : List SlotId} (h : GraphOk g out running) (hslots : g'.slots = g.slots)
    (hqueue : g'.queue = g.queue) : GraphOk g' out running := by
  have hheld : g'.held out = g.held out := by rw [Graph.held, Graph.held, hqueue]
  refine ⟨h.toSlotsOk.of_perm hslots (.of_eq hheld) fun _ _ hi => hi, ?_⟩
  intro n i hi
  rw [hslots]
  exact h.room n i hi

theorem Balanced.free {m : Mbuf} {cause : FreeCause} {g : Graph} (h : Balanced c ({m.id} + held) credit rt out)
    (hslots : g.slots = rt.graph.slots) (hqueue : g.queue = rt.graph.queue)
    (hdrops : ∀ r, g.dropReasons r = rt.graph.dropReasons r + if cause.reason = some r then 1 else 0) :
    Balanced c held credit { rt.free m cause with graph := g } out where
  ok := h.ok.congr hslots hqueue
  ids := by
    have hfreed : Ledger.freedIds { rt.ledger with freed := rt.ledger.freed ++ [(m.id, cause)] } =
        rt.ledger.freedIds + {m.id} := by
      rw [Ledger.freedIds, List.map_append, ← Multiset.coe_add]
      rfl
    have hids : g.ids out = rt.graph.ids out := Graph.tally_congr hslots hqueue _
    change g.ids out + storedIds rt + Ledger.freedIds { rt.ledger with freed := rt.ledger.freed ++ [(m.id, cause)] } +
      (rt.ledger.sent : Multiset ℕ) + held = c.base + (rt.ledger.allocated : Multiset ℕ)
    rw [hfreed, hids, ← h.ids, accounted]
    abel
  nodup := h.nodup
  fresh := h.fresh
  paid := by
    have hcost : g.cost out = rt.graph.cost out := Graph.tally_congr hslots hqueue _
    change g.cost out + credit ≤ c.limit
    rw [hcost]
    exact h.paid
  drops := by
    intro r
    change g.dropReasons r = c.drops r + Ledger.counted { rt.ledger with freed := rt.ledger.freed ++ [(m.id, cause)] } r +
      if r = .mbufAllocationFailed then rt.ledger.arpFailures else 0
    rw [hdrops r, Ledger.counted_append, h.drops r]
    omega
  stored := h.stored
  routing := h.routing

theorem Graph.dropReasons_countDrop (g : Graph) (reason r : DropReason) :
    (g.countDrop reason 1).dropReasons r = g.dropReasons r + if some reason = some r then 1 else 0 := by
  by_cases hr : r = reason
  · rw [hr, if_pos rfl]
    exact Function.update_self ..
  · rw [if_neg fun he => hr (Option.some.inj he).symm]
    exact Function.update_of_ne hr ..

theorem Balanced.enqueue (h : Balanced c ({p.1.id} + held) (node.weight + credit) rt out) :
    Balanced c held credit (nodeEnqueue rt out node p).1 (nodeEnqueue rt out node p).2.1 := by
  generalize hres : nodeEnqueue rt out node p = res
  cases hres ▸ nodeEnqueue_enqueued h.ok node p with
  | @accepted g out' ok tally dropReasons =>
    have hids : g.ids out' = rt.graph.ids out + {p.1.id} := tally _
    have hcost : g.cost out' = rt.graph.cost out + node.weight := tally _
    refine ⟨ok, ?_, h.nodup, h.fresh, ?_, ?_, h.stored, h.routing⟩
    · change g.ids out' + storedIds rt + rt.ledger.freedIds + (rt.ledger.sent : Multiset ℕ) + held =
        c.base + (rt.ledger.allocated : Multiset ℕ)
      rw [hids, ← h.ids, accounted]
      abel
    · have hpaid := h.paid
      change g.cost out' + credit ≤ c.limit
      omega
    · intro r
      change g.dropReasons r = _
      rw [dropReasons]
      exact h.drops r
  | refused =>
    have h' : Balanced c ({p.1.id} + held) credit rt out := { h with paid := by have := h.paid; omega }
    apply h'.free
    · rfl
    · rfl
    · exact rt.graph.dropReasons_countDrop .graphFull

end PulsarNetstack
