import PulsarNetstack.TransitIntegrity

namespace PulsarNetstack

open Program

structure ArpTeaching (r : Routing) (t : NeighbourTable) (p : Packet) (port : PortState) (j : Fin neighbourCapacity) :
    Prop where
  ingress : ingressPort r p.2.ingressPortId = some port
  sender : macAt p.1.buffer.data 6 = macAt (p.1.buffer.data.drop p.2.l3Offset) 8
  assigned : validAssignedEtherAddr (macAt (p.1.buffer.data.drop p.2.l3Offset) 8) = true
  target : netAddressOn r (BitVec.ofNat 32 port.id) (wordAt (p.1.buffer.data.drop p.2.l3Offset) 24) = true
  valid : validSourceIp r port (wordAt (p.1.buffer.data.drop p.2.l3Offset) 14) = true
  remote : netifIsLocalIp r (wordAt (p.1.buffer.data.drop p.2.l3Offset) 14) = false
  unicast : netUnicast (wordAt (p.1.buffer.data.drop p.2.l3Offset) 14) = true
  direct : netDirect r (BitVec.ofNat 32 port.id) (wordAt (p.1.buffer.data.drop p.2.l3Offset) 14) = true
  reply : be16 (p.1.buffer.data.drop p.2.l3Offset) 6 = 2 → macAt (p.1.buffer.data.drop p.2.l3Offset) 18 = port.mac
  slot : findSlot t (BitVec.ofNat 16 port.id) (wordAt (p.1.buffer.data.drop p.2.l3Offset) 14) = some j
  replaces : (t j).inUse = true → (t j).netifId = BitVec.ofNat 16 port.id ∧
    (t j).ip = wordAt (p.1.buffer.data.drop p.2.l3Offset) 14 ∧ (t j).permanent = false

def senderEntry (p : Packet) (port : PortState) : NeighbourEntry where
  ip := wordAt (p.1.buffer.data.drop p.2.l3Offset) 14
  netifId := BitVec.ofNat 16 port.id
  mac := macAt (p.1.buffer.data.drop p.2.l3Offset) 8
  inUse := true

inductive ArpLearned (r : Routing) (p : Packet) (t : NeighbourTable) : NeighbourTable → Prop
  | same : ArpLearned r p t t
  | taught {port : PortState} {j : Fin neighbourCapacity} (h : ArpTeaching r t p port j) :
    ArpLearned r p t (Function.update t j (senderEntry p port))

inductive ArpRun (r : Routing) : Frame → NeighbourTable → NeighbourTable → Prop
  | nil (t : NeighbourTable) : ArpRun r [] t t
  | cons {p : Packet} {rest : Frame} {t t' t'' : NeighbourTable} : ArpLearned r p t t' → ArpRun r rest t' t'' →
    ArpRun r (p :: rest) t t''

structure ArpAnswer (r : Routing) (p q : Packet) (port : PortState) : Prop where
  ingress : ingressPort r p.2.ingressPortId = some port
  request : be16 (p.1.buffer.data.drop p.2.l3Offset) 6 = 1
  target : netAddressOn r (BitVec.ofNat 32 port.id) (wordAt (p.1.buffer.data.drop p.2.l3Offset) 24) = true
  answer : q = (⟨p.1.id, arpReply port p.1.buffer p.2⟩, { p.2 with egressPortId := port.portId })

section Checks

variable {r : Routing} {port : PortState} {b : Buffer} {ctx : PacketCtx} {ip : Word}

theorem validSourceIp_unicast (h : validSourceIp r port ip = true) : netUnicast ip = true := by
  unfold validSourceIp at h
  split at h
  · cases h
  split at h
  · simp only [ipv4DestinationValid, Bool.and_eq_true] at h
    exact h.1.1
  dsimp only at h
  split at h
  · cases h
  rename_i hrange
  push Not at hrange
  obtain ⟨hzero, hloop, hmulticast, -⟩ := hrange
  simp only [netUnicast, bne_iff_ne, ne_eq, Bool.and_eq_true, decide_eq_true_eq]
  exact ⟨⟨hzero, hloop⟩, BitVec.not_le.mp hmulticast⟩

structure ArpAccepted (r : Routing) (port : PortState) (b : Buffer) (ctx : PacketCtx) : Prop where
  sender : macAt b.data 6 = macAt (b.data.drop ctx.l3Offset) 8
  operation : be16 (b.data.drop ctx.l3Offset) 6 = 1 ∨ be16 (b.data.drop ctx.l3Offset) 6 = 2
  source : wordAt (b.data.drop ctx.l3Offset) 14 ≠ 0 → validSourceIp r port (wordAt (b.data.drop ctx.l3Offset) 14) = true
  target : netAddressOn r (BitVec.ofNat 32 port.id) (wordAt (b.data.drop ctx.l3Offset) 24) = true
  reply : be16 (b.data.drop ctx.l3Offset) 6 = 2 → macAt (b.data.drop ctx.l3Offset) 18 = port.mac

theorem arpAccepted (h : arpRefused r port b ctx = none) : ArpAccepted r port b ctx := by
  unfold arpRefused at h
  dsimp only at h
  split at h
  · cases h
  split at h
  · cases h
  rename_i hfields
  split at h
  · cases h
  rename_i htarget
  split at h
  · cases h
  rename_i hreply
  push Not at hfields hreply
  obtain ⟨-, -, -, -, hsender, hoperation, hsource⟩ := hfields
  refine ⟨hsender, ?_, ?_, ?_, hreply⟩
  · by_cases hrequest : be16 (b.data.drop ctx.l3Offset) 6 = 1
    · exact .inl hrequest
    · exact .inr (hoperation hrequest)
  · intro hne
    simpa using hsource hne
  · simpa using htarget

end Checks

section Learning

variable {r : Routing} {p : Packet} {port : PortState} {t : NeighbourTable}

theorem neighbourLearn_taught (hport : ingressPort r p.2.ingressPortId = some port)
    (haccepted : ArpAccepted r port p.1.buffer p.2)
    (hlearn : wordAt (p.1.buffer.data.drop p.2.l3Offset) 14 ≠ 0 ∧
      (!netifIsLocalIp r (wordAt (p.1.buffer.data.drop p.2.l3Offset) 14)) = true ∧
      netDirect r (BitVec.ofNat 32 port.id) (wordAt (p.1.buffer.data.drop p.2.l3Offset) 14) = true) :
    ArpLearned r p t (neighbourLearn t (BitVec.ofNat 16 port.id) (wordAt (p.1.buffer.data.drop p.2.l3Offset) 14)
      (macAt (p.1.buffer.data.drop p.2.l3Offset) 8)).1 := by
  obtain ⟨hne, hremote, hdirect⟩ := hlearn
  have hvalid := haccepted.source hne
  unfold neighbourLearn
  split
  · exact .same
  rename_i hmac
  push Not at hmac
  have hassigned : validAssignedEtherAddr (macAt (p.1.buffer.data.drop p.2.l3Offset) 8) = true := by simpa using hmac.2
  split
  · exact .same
  rename_i j hslot
  have hteaching (hreplaces : (t j).inUse = true → (t j).netifId = BitVec.ofNat 16 port.id ∧
      (t j).ip = wordAt (p.1.buffer.data.drop p.2.l3Offset) 14 ∧ (t j).permanent = false) : ArpTeaching r t p port j :=
    ⟨hport, haccepted.sender, hassigned, haccepted.target, hvalid, by simpa using hremote, validSourceIp_unicast hvalid,
      hdirect, haccepted.reply, hslot, hreplaces⟩
  split
  · rename_i hfree
    exact .taught (hteaching fun hused => by rw [hused] at hfree; cases hfree)
  rename_i hused
  have hused : (t j).inUse = true := by simpa using hused
  obtain ⟨hd, hi⟩ := Prod.mk.inj ((LinearProbing.Scheme.probe_some hslot).1.resolve_left (by simp [neighbourScheme, hused]))
  split
  · rename_i hperm
    have hperm : (t j).permanent = false := by simpa using hperm
    have hentry : ({ t j with mac := macAt (p.1.buffer.data.drop p.2.l3Offset) 8 } : NeighbourEntry) =
        senderEntry p port := by
      rw [senderEntry, ← hi, ← hd]
      dsimp only
      rw [hused, hperm]
    rw [hentry]
    exact .taught (hteaching fun _ => ⟨hd, hi, hperm⟩)
  · exact .same

theorem ArpLearned.binding {t' : NeighbourTable} (h : ArpLearned r p t t') (hok : NeighbourOk t) :
    NeighbourOk t' ∧ ∀ key, neighbourMap t' key ≠ neighbourMap t key →
      ∃ port, ingressPort r p.2.ingressPortId = some port ∧
        key = (BitVec.ofNat 16 port.id, wordAt (p.1.buffer.data.drop p.2.l3Offset) 14) ∧
        ∀ old, neighbourMap t key = some old → old.permanent = false := by
  cases h with
  | same => exact ⟨hok, fun key hne => absurd rfl hne⟩
  | @taught port j h =>
    obtain ⟨hok', hmap⟩ := write_slot hok h.slot (e := senderEntry p port) rfl rfl rfl
    refine ⟨hok', fun key hne => ⟨port, h.ingress, ?_⟩⟩
    have hkey : key = (BitVec.ofNat 16 port.id, wordAt (p.1.buffer.data.drop p.2.l3Offset) 14) := by
      by_contra hother
      rw [hmap, Function.update_of_ne hother] at hne
      exact hne rfl
    refine ⟨hkey, fun old hold => ?_⟩
    have hslot := h.slot ▸ findSlot_cases hok (BitVec.ofNat 16 port.id) (wordAt (p.1.buffer.data.drop p.2.l3Offset) 14)
    rw [hkey] at hold
    cases hslot with
    | free _ _ hk =>
      rw [hk] at hold
      cases hold
    | found _ hused _ _ hk =>
      rw [hk] at hold
      rw [← Option.some.inj hold]
      exact (h.replaces hused).2.2

end Learning

structure ArpHost (r : Routing) (P : NodeId → Packet → Prop) (A : NeighbourTable → Runtime → Prop) : Prop where
  routing {t : NeighbourTable} {rt : Runtime} : A t rt → rt.routing = r
  neighbours {t : NeighbourTable} {rt : Runtime} : A t rt → rt.neighbours = t
  active {t : NeighbourTable} {rt : Runtime} : A t rt → rt.activeOutput.isSome = true
  emit {t : NeighbourTable} {node : NodeId} {p : Packet} : P node p → Safe (A t) (emit node p) fun _ => A t
  keep {t : NeighbourTable} {rt rt' : Runtime} : A t rt → rt'.graph.slots = rt.graph.slots →
    rt'.graph.queue = rt.graph.queue → rt'.activeOutput = rt.activeOutput → rt'.routing = rt.routing → A rt'.neighbours rt'

namespace ArpHost

variable {r : Routing} {P : NodeId → Packet → Prop} {A : NeighbourTable → Runtime → Prop} {t : NeighbourTable} {p : Packet}
  {submit : Submit}

variable (h : ArpHost r P A)
include h

theorem still {rt rt' : Runtime} (ha : A t rt) (hslots : rt'.graph.slots = rt.graph.slots)
    (hqueue : rt'.graph.queue = rt.graph.queue) (hactive : rt'.activeOutput = rt.activeOutput)
    (hrouting : rt'.routing = rt.routing) (hneighbours : rt'.neighbours = rt.neighbours) : A t rt' := by
  have hkept := h.keep ha hslots hqueue hactive hrouting
  rwa [hneighbours, h.neighbours ha] at hkept

theorem drop (hdrop : ∀ q, P .drop q) (owner : NodeId) (reason : DropReason) (error : Bool) :
    Safe (A t) (graphDrop owner p reason error) fun _ => A t := by
  refine ⟨fun rt a rt' ha hrun => ?_⟩
  rw [graphDrop_eq_emit (h.active ha)] at hrun
  obtain ⟨⟨ok, rt₂⟩, hemit, he⟩ := Option.map_eq_some_iff.mp hrun
  obtain ⟨-, rfl⟩ := Prod.mk.inj he
  refine (h.emit (hdrop _)).post _ ok rt₂ ?_ hemit
  exact h.still ha rfl rfl rfl rfl rfl

theorem release (hpending : ∀ q, P .ethOutput q) (i : Fin neighbourPendingMax) :
    Safe (A t) (releasePending submit i) fun _ => A t := by
  apply Safe.get_bind
  intro rt ha
  dsimp only
  apply Safe.bind (Q := fun _ => A t)
  · exact Safe.set fun _ _ => h.still ha rfl rfl rfl rfl rfl
  intro _
  -- The node is running, so its output takes the packets.
  rw [if_pos (h.active ha)]
  exact Safe.forM fun q _ => Safe.bind (h.emit (hpending q)) fun _ => Safe.pure fun _ ha => ha

theorem update (hpending : ∀ q, P .ethOutput q) (netifId : ℕ) (ip : Word) (mac : Mac) :
    Safe (A t) (neighbourUpdate submit netifId ip mac) fun _ =>
      A (neighbourLearn t (BitVec.ofNat 16 netifId) ip mac).1 := by
  apply Safe.get_bind
  intro rt ha
  dsimp only
  rw [← h.neighbours ha]
  apply Safe.bind (Q := fun _ => A (neighbourLearn rt.neighbours (BitVec.ofNat 16 netifId) ip mac).1)
  · refine Safe.set fun _ _ => ?_
    have hkept {s : Runtime} (hs : s = { rt with
        neighbours := (neighbourLearn rt.neighbours (BitVec.ofNat 16 netifId) ip mac).1 }) : A s.neighbours s := by
      subst hs
      exact h.keep ha rfl rfl rfl rfl
    exact hkept rfl
  intro _
  split
  · refine Safe.bind (Safe.forM fun i _ => Safe.peek fun _ _ => ?_) fun _ => Safe.pure fun _ ha => ha
    split
    · exact h.release hpending i
    · exact Safe.pure fun _ ha => ha
  · exact Safe.pure fun _ ha => ha

theorem finish {port : PortState} (hanswer : be16 (p.1.buffer.data.drop p.2.l3Offset) 6 ≠ 2 →
      P .tx (⟨p.1.id, arpReply port p.1.buffer p.2⟩, { p.2 with egressPortId := port.portId })) :
    Safe (A t) (arpFinish port p) fun _ => A t := by
  apply Safe.ite
  · exact fun _ => Safe.modify fun rt ha => h.still ha rfl rfl rfl rfl rfl
  · exact fun hrequest => Safe.bind (h.emit (hanswer hrequest)) fun _ => Safe.pure fun _ ha => ha

variable {frame : Frame}

theorem packet (hdrop : ∀ q, P .drop q) (hpending : ∀ q, P .ethOutput q)
    (hanswer : ∀ q port, ArpAnswer r p q port → P .tx q) :
    Safe (A t) (arpInputNodeRun submit [p]) fun _ rt => ∃ t', ArpLearned r p t t' ∧ A t' rt := by
  have hsame : ∀ rt, A t rt → ∃ t', ArpLearned r p t t' ∧ A t' rt := fun rt ha => ⟨t, .same, ha⟩
  refine Safe.bind (Q := fun _ rt => ∃ t', ArpLearned r p t t' ∧ A t' rt) ?_ fun _ => Safe.pure fun _ ha => ha
  apply Safe.peek
  intro rt hrt
  rw [h.routing hrt]
  split
  · exact (h.drop hdrop _ _ _).conseq (fun _ ha => ha) fun _ => hsame
  rename_i port hport
  split
  · exact (h.drop hdrop _ _ _).conseq (fun _ ha => ha) fun _ => hsame
  rename_i haccepted
  have haccepted := arpAccepted haccepted
  have hend (t : NeighbourTable) : Safe (A t) (arpFinish port p) fun _ => A t := by
    refine h.finish fun hrequest => hanswer _ port ⟨hport, ?_, haccepted.target, rfl⟩
    exact haccepted.operation.resolve_right hrequest
  dsimp only
  apply Safe.ite
  · intro hlearn
    have hlearned := neighbourLearn_taught (t := t) hport haccepted hlearn
    have htaught : ∀ rt, A _ rt → ∃ t', ArpLearned r p t t' ∧ A t' rt := fun rt ha => ⟨_, hlearned, ha⟩
    apply Safe.bind (h.update hpending _ _ _)
    intro result
    apply Safe.ite
    · intro _
      refine Safe.bind (Safe.modify fun rt ha => ?_) fun _ => (hend _).conseq (fun _ ha => ha) fun _ => htaught
      exact h.still ha rfl rfl rfl rfl rfl
    · exact fun _ => (hend _).conseq (fun _ ha => ha) fun _ => htaught
  · exact fun _ => (hend t).conseq (fun _ ha => ha) fun _ => hsame

theorem input (hdrop : ∀ q, P .drop q) (hpending : ∀ q, P .ethOutput q)
    (hanswer : ∀ p ∈ frame, ∀ q port, ArpAnswer r p q port → P .tx q) :
    Safe (A t) (arpInputNodeRun submit frame) fun _ rt => ∃ t', ArpRun r frame t t' ∧ A t' rt := by
  induction frame generalizing t with
  | nil => exact Safe.pure fun rt ha => ⟨t, .nil t, ha⟩
  | cons p rest ih =>
    rw [arpInputNodeRun, forM_cons_singleton]
    apply Safe.bind (h.packet hdrop hpending (hanswer p (List.mem_cons_self ..)))
    refine fun _ => ⟨fun rt a rt' hrt hrun => ?_⟩
    obtain ⟨t₁, hlearned, ha⟩ := hrt
    obtain ⟨t₂, hrest, ha'⟩ := (ih fun p hp => hanswer p (List.mem_cons_of_mem _ hp)).post rt a rt' ha hrun
    exact ⟨t₂, .cons hlearned hrest, ha'⟩

end ArpHost

section Hosts

variable {r : Routing}

theorem emit_kept {node : NodeId} {p : Packet} {t : NeighbourTable} :
    Safe (fun rt => rt.routing = r ∧ rt.neighbours = t ∧ rt.activeOutput.isSome = true) (emit node p)
      fun _ rt => rt.routing = r ∧ rt.neighbours = t ∧ rt.activeOutput.isSome = true := by
  refine ⟨fun rt a rt' ha hrun => ?_⟩
  obtain ⟨hrouting, hneighbours, hactive⟩ := ha
  obtain ⟨out, hout⟩ := Option.isSome_iff_exists.mp hactive
  rw [emit_eq rt hout] at hrun
  obtain ⟨-, rfl⟩ := Prod.mk.inj (Option.some.inj hrun)
  obtain ⟨g, out', freed, hs⟩ := nodeEnqueue_shuffled rt out node p
  rw [hs]
  exact ⟨hrouting, hneighbours, rfl⟩

theorem arpHost_any : ArpHost r (fun _ _ => True)
    fun t rt => rt.routing = r ∧ rt.neighbours = t ∧ rt.activeOutput.isSome = true where
  routing ha := ha.1
  neighbours ha := ha.2.1
  active ha := ha.2.2
  emit _ := emit_kept
  keep ha _ _ hactive hrouting := ⟨hrouting.trans ha.1, rfl, hactive ▸ ha.2.2⟩

theorem arpHost_guarded {P : NodeId → Packet → Prop} {running : List SlotId} : ArpHost r P
    fun t => Guarded P (fun rt => rt.routing = r ∧ rt.neighbours = t) running where
  routing ha := ha.holds.1
  neighbours ha := ha.holds.2
  active ha := ha.running.isSome
  emit hp := by
    apply emit_guards _ hp
    rintro rt _ ⟨hrouting, hneighbours⟩ ⟨g, out, freed, rfl⟩
    exact ⟨hrouting, hneighbours⟩
  keep ha hslots hqueue hactive hrouting := by
    obtain ⟨out, hout, hcarries, -⟩ := ha.running
    exact ⟨⟨out, hactive.trans hout, hcarries.of_eq hslots hqueue, trivial⟩, hrouting.trans ha.holds.1, rfl⟩

end Hosts

/-- A frame at `arp_input` teaches only neighbours on the link that it came in at, and it is answered only for addresses
of that interface. -/
theorem arp_input_on_link (submit : Submit) (frame : Frame) (rt rt' : Runtime) (hactive : rt.activeOutput.isSome = true)
    (hrun : arpInputNodeRun submit frame rt = some (⟨⟩, rt')) :
    ArpRun rt.routing frame rt.neighbours rt'.neighbours ∧
      (∀ p t t', ArpLearned rt.routing p t t' → NeighbourOk t → NeighbourOk t' ∧
        ∀ key, neighbourMap t' key ≠ neighbourMap t key →
          ∃ port, ingressPort rt.routing p.2.ingressPortId = some port ∧
            key = (BitVec.ofNat 16 port.id, wordAt (p.1.buffer.data.drop p.2.l3Offset) 14) ∧
            ∀ old, neighbourMap t key = some old → old.permanent = false) ∧
      ∀ (before : Packet → Prop) (running : List SlotId),
        Running (fun node q => node = .tx → before q) (fun _ => True) running rt →
        Running (fun node q => node = .tx → before q ∨ ∃ p ∈ frame, ∃ port, ArpAnswer rt.routing p q port)
          (fun _ => True) running rt' := by
  have hany : Safe _ (arpInputNodeRun submit frame) _ :=
    (arpHost_any (r := rt.routing)).input (t := rt.neighbours) (fun _ => trivial) (fun _ => trivial) fun _ _ _ _ _ => trivial
  obtain ⟨t', harp, -, rfl, -⟩ := hany.post rt ⟨⟩ rt' ⟨rfl, rfl, hactive⟩ hrun
  refine ⟨harp, fun p t t' hlearned => hlearned.binding, ?_⟩
  rintro before running ⟨out, hout, hcarries, -⟩
  let P : NodeId → Packet → Prop := fun node q =>
    node = .tx → before q ∨ ∃ p ∈ frame, ∃ port, ArpAnswer rt.routing p q port
  have hstart : Guarded P (fun s => s.routing = rt.routing ∧ s.neighbours = rt.neighbours) running rt := by
    refine ⟨⟨out, hout, ⟨hcarries.ok, fun x hx htx => .inl (hcarries.packets x hx htx)⟩, trivial⟩, rfl, rfl⟩
  have hanswer : ∀ p ∈ frame, ∀ q port, ArpAnswer rt.routing p q port → P .tx q :=
    fun p hp q port ha _ => .inr ⟨p, hp, port, ha⟩
  have hguarded : Safe (Guarded P (fun s => s.routing = rt.routing ∧ s.neighbours = rt.neighbours) running)
      (arpInputNodeRun submit frame) _ :=
    arpHost_guarded.input (fun _ => nofun) (fun _ => nofun) hanswer
  obtain ⟨_, -, hend⟩ := hguarded.post rt ⟨⟩ rt' hstart hrun
  exact hend.running

theorem arp_input_on_link_gateway : ∃ rt' : Runtime,
    ArpRun startRuntime.routing [gatewayRequest] startRuntime.neighbours rt'.neighbours ∧
    (neighbourLookup startRuntime.neighbours 0 (htonl 0x0a000002)).isOk = false ∧
    (neighbourLookup rt'.neighbours 0 (htonl 0x0a000002)).isOk = true := by
  have hfacts : ((arpInputNodeRun (fun _ _ => pure ⟨⟩) [gatewayRequest] startRuntime).any fun s =>
      (neighbourLookup s.2.neighbours 0 (htonl 0x0a000002)).isOk) = true := by decide +kernel
  obtain ⟨⟨_, rt'⟩, hrun, hlearned⟩ := (Option.any_eq_true _ _).mp hfacts
  exact ⟨rt', (arp_input_on_link _ _ startRuntime rt' rfl hrun).1, by decide +kernel, hlearned⟩

end PulsarNetstack
