import PulsarNetstack.Listeners

namespace PulsarNetstack

variable {env : TcpEnv} {t t' : SocketTable} {i slot : ℕ} {s s' : SocketEntry}

def slotGenerations (slot : ℕ) : ℕ := (intMax - slot - 1) / psSocketMax + 1

theorem nextGeneration_eq_mod {g : ℕ} (hg : g < slotGenerations slot) :
    nextGeneration slot g = (g + 1) % slotGenerations slot := by
  unfold nextGeneration slotGenerations at *
  split
  · rename_i h
    rw [h, Nat.mod_self]
  · rw [Nat.mod_eq_of_lt (by omega)]

theorem nextGeneration_lt {g : ℕ} (hg : g < slotGenerations slot) : nextGeneration slot g < slotGenerations slot := by
  rw [nextGeneration_eq_mod hg]
  exact Nat.mod_lt _ (Nat.succ_pos _)

def generationFd (slot generation : ℕ) : ℕ := generation * psSocketMax + slot + 1

theorem generationFd_le {g : ℕ} (hslot : slot < psSocketMax) (hg : g < slotGenerations slot) :
    generationFd slot g ≤ intMax := by
  unfold slotGenerations at hg
  have hle : g ≤ (intMax - slot - 1) / psSocketMax := Nat.le_of_lt_succ hg
  have hmul : g * psSocketMax ≤ intMax - slot - 1 :=
    (Nat.mul_le_mul_right _ hle).trans (Nat.div_mul_le_self _ _)
  have hmax : slot + 1 ≤ intMax := Nat.le_trans hslot (by decide)
  calc generationFd slot g = g * psSocketMax + (slot + 1) := Nat.add_assoc _ _ _
    _ ≤ intMax - slot - 1 + (slot + 1) := Nat.add_le_add_right hmul _
    _ = intMax := by omega

theorem generationFd_slot (g : ℕ) (hslot : slot < psSocketMax) : (generationFd slot g - 1) % psSocketMax = slot := by
  rw [generationFd, Nat.add_sub_cancel, Nat.mul_comm, Nat.mul_add_mod, Nat.mod_eq_of_lt hslot]

theorem generationFd_injective {g g' : ℕ} (h : generationFd slot g = generationFd slot g') : g = g' := by
  unfold generationFd psSocketMax at h
  omega

inductive SlotStep (i : ℕ) (s : SocketEntry) (g : ℕ) (s' : SocketEntry) : ℕ → Prop
  | kept : (s'.allocated = true → s.allocated = true ∧ s'.fd = s.fd) → SlotStep i s g s' g
  | allocated : s.allocated = false → s'.allocated = true → s'.fd = generationFd i g →
      SlotStep i s g s' (nextGeneration i g)

inductive TableHandles (t t' : SocketTable) : Prop
  | kept : t'.generations = t.generations →
      (∀ (i : ℕ) (s s' : SocketEntry), t.entries[i]? = some s → t'.entries[i]? = some s' → s'.allocated = true →
        s.allocated = true ∧ s'.fd = s.fd) → TableHandles t t'
  | allocated {type : SockType} {t₁ : SocketTable} {slot : ℕ} {fresh s' : SocketEntry} :
      socketAllocate t type = some (t₁, slot, fresh) → t'.generations = t₁.generations →
      t'.entries = t.entries.set slot s' → s'.allocated = true → s'.fd = fresh.fd → TableHandles t t'

namespace TableHandles

theorem of_eq (hg : t'.generations = t.generations) (he : t'.entries = t.entries) : TableHandles t t' := by
  refine .kept hg fun i s s' hs hs' ha => ?_
  rw [he, hs] at hs'
  obtain rfl := Option.some.inj hs'
  exact ⟨ha, rfl⟩

theorem of_evolves {event : SocketEvent} (he : TableEvolves env event t t') (hevent : event.opens = false)
    (hg : t'.generations = t.generations) : TableHandles t t' := by
  refine .kept hg fun i s s' hs hs' ha => ?_
  obtain ⟨a, hi, hevolves⟩ := he.entry hs'
  obtain rfl := Option.some.inj (hi.symm.trans hs)
  rcases hevolves.allocated_fd ha with hkept | ⟨hopens, -⟩
  · exact hkept
  · rw [hevent] at hopens
    cases hopens

end TableHandles

section Generations

variable (env : TcpEnv) (t : SocketTable) (fd : ℤ) (now : ℕ)

theorem socketBind_generations (slot : ℕ) (s : SocketEntry) (addr : SockAddr) :
    (socketBind env t slot s addr).1.generations = t.generations := by
  unfold socketBind
  dsimp only
  split_ifs <;> rfl

theorem ensureBound_generations (slot : ℕ) (s : SocketEntry) :
    (ensureBound env t slot s).1.generations = t.generations := by
  unfold ensureBound
  split
  · exact socketBind_generations env t slot s {}
  · rfl

theorem coreBind_generations (addr : Option SockAddr) : (coreBind env t fd addr).1.generations = t.generations := by
  unfold coreBind
  split
  · rfl
  · split
    · rfl
    · exact socketBind_generations ..

theorem tcpConnect_generations (slot : ℕ) (s : SocketEntry) (addr : SockAddr) (seed : Word) :
    (tcpConnect env t slot s addr seed now).1.generations = t.generations := by
  unfold tcpConnect
  have hb := ensureBound_generations env t slot s
  split
  · rfl
  split
  · rfl
  · rfl
  · rfl
  · dsimp only
    split
    · rfl
    split
    · rename_i h
      rwa [h] at hb
    · rename_i h
      rwa [h] at hb
  · rfl

theorem coreConnect_generations (addr : Option SockAddr) (seed : Word) :
    (coreConnect env t fd addr seed now).1.generations = t.generations := by
  unfold coreConnect
  split
  · rfl
  rename_i slot s _
  have hb := ensureBound_generations env t slot s
  split
  · rfl
  split
  · rfl
  split
  · exact tcpConnect_generations env t now slot s _ seed
  split
  · rename_i h
    rwa [h] at hb
  · rename_i h
    rwa [h] at hb

theorem coreListen_generations (backlog : ℤ) : (coreListen t fd backlog).1.generations = t.generations := by
  unfold coreListen
  split
  · rfl
  split <;> rfl

theorem coreAccept_generations : (coreAccept t fd).1.generations = t.generations := by
  unfold coreAccept tcpAccept
  split
  · rfl
  split
  · rfl
  split
  · rfl
  split <;> rfl

theorem coreSendtoBind_generations (hasBuffer : Bool) (length : ℕ) (dst : Option SockAddr) :
    (coreSendtoBind env t fd hasBuffer length dst).1.generations = t.generations := by
  unfold coreSendtoBind
  split
  · rfl
  split
  · rfl
  split
  · rfl
  split
  · rfl
  · exact ensureBound_generations ..

theorem coreRecvfrom_generations (hasBuffer : Bool) (length : ℕ) :
    (coreRecvfrom t fd hasBuffer length).1.generations = t.generations := by
  unfold coreRecvfrom
  split
  · rfl
  split
  · rfl
  split <;> rfl

theorem coreSend_generations (data : List Byte) : (coreSend env t fd data now).1.generations = t.generations := by
  unfold coreSend
  split
  · rfl
  split
  · rfl
  split
  · rfl
  · exact coreSendtoBind_generations ..

theorem coreRecv_generations (length : ℕ) : (coreRecv t fd length).1.generations = t.generations := by
  unfold coreRecv
  split
  · rfl
  split
  · rfl
  · exact coreRecvfrom_generations ..

theorem coreClose_generations : (coreClose env t fd now).1.generations = t.generations := by
  unfold coreClose tcpClose
  split
  · rfl
  split
  · dsimp only
    split <;> rfl
  · rfl

theorem assignOwner_generations (owner : ℕ) : (assignOwner t fd owner).generations = t.generations := by
  unfold assignOwner
  split <;> rfl

theorem udpDeliver_generations (localIp : Word) (port : Word16) (source : SockAddr) (payload : List Byte) :
    (udpDeliver t localIp port source payload).1.generations = t.generations := by
  unfold udpDeliver
  split
  · rfl
  · dsimp only
    split_ifs <;> rfl

end Generations

theorem coreSocket_handles (domain type protocol : ℤ) : TableHandles t (coreSocket env t domain type protocol).1 := by
  unfold coreSocket
  generalize (if type = 2 then (17 : ℤ) else 6) = expected
  generalize (if type = 2 then SockType.dgram else SockType.stream) = kind
  split
  · exact .of_eq rfl rfl
  split
  · exact .of_eq rfl rfl
  split
  · exact .of_eq rfl rfl
  split
  · exact .of_eq rfl rfl
  split
  · exact .of_eq rfl rfl
  split
  · exact .of_eq rfl rfl
  · rename_i h
    obtain ⟨old, generation, -, -, he, hs⟩ := socketAllocate_fd h
    exact .allocated h rfl he (by rw [hs]) rfl

theorem tcpInputSegment_handles (srcIp dstIp : Word) (hdr : TcpHeader) (payload : List Byte) (seed : Word) (now : ℕ) :
    TableHandles t (tcpInputSegment env t srcIp dstIp hdr payload seed now).1 := by
  unfold tcpInputSegment
  split
  · exact .of_eq rfl rfl
  split
  · exact .of_eq rfl rfl
  rename_i mss hm
  generalize Segment.mk hdr.seq hdr.ack hdr.flags hdr.window mss payload = seg
  unfold tcpInput
  split
  · exact .of_eq rfl rfl
  split
  · rename_i slot hc
    obtain ⟨s, hs, hp⟩ := List.getElem?_of_findIdx? hc
    obtain ⟨hclosed, hlisten⟩ := live_of_role (connectionMatch_iff.mp hp).2.2.1
    have hd : t.entries.getD slot {} = s := by rw [List.getD_eq_getElem?_getD, hs]; rfl
    refine .kept rfl fun i a a' ha ha' halloc => ?_
    rcases List.getElem?_set_cases ha' with ⟨rfl, rfl⟩ | ⟨-, ha'⟩
    · obtain rfl := Option.some.inj (hs.symm.trans ha)
      rw [hd] at halloc ⊢
      exact (Processed.input hclosed hlisten _ _).allocated_fd halloc
    · obtain rfl := Option.some.inj (ha.symm.trans ha')
      exact ⟨halloc, rfl⟩
  · split
    · split
      · unfold passiveOpen
        dsimp only
        split
        · exact .of_eq rfl rfl
        split
        · exact .of_eq rfl rfl
        rename_i t₁ slot s h
        obtain ⟨old, generation, -, -, he, hs⟩ := socketAllocate_fd h
        have hset (child : SocketEntry) : (t₁.set slot child).entries = t.entries.set slot child := by
          simp only [SocketTable.set, he, List.set_set]
        exact .allocated h rfl (hset _) (show s.allocated = true by rw [hs]) rfl
      · exact .of_eq rfl rfl
    · exact .of_eq rfl rfl

theorem socketStep_handles (hd : ∀ s ∈ t.entries, Dormant s) (event : SocketEvent) :
    TableHandles t (socketStep env t event).1 := by
  have he : TableEvolves env event t (socketStep env t event).1 := socketStep_evolves env hd event
  cases event with
  | socket domain type protocol => exact coreSocket_handles domain type protocol
  | segment srcIp dstIp hdr payload seed now => exact tcpInputSegment_handles srcIp dstIp hdr payload seed now
  | assignOwner fd owner => exact .of_evolves he rfl (assignOwner_generations t fd owner)
  | bind fd addr => exact .of_evolves he rfl (coreBind_generations env t fd addr)
  | connect fd addr seed now => exact .of_evolves he rfl (coreConnect_generations env t fd now addr seed)
  | listen fd backlog => exact .of_evolves he rfl (coreListen_generations t fd backlog)
  | accept fd => exact .of_evolves he rfl (coreAccept_generations t fd)
  | send fd data now => exact .of_evolves he rfl (coreSend_generations env t fd now data)
  | recv fd length => exact .of_evolves he rfl (coreRecv_generations t fd length)
  | sendto fd hasBuffer length dst => exact .of_evolves he rfl (coreSendtoBind_generations env t fd hasBuffer length dst)
  | recvfrom fd hasBuffer length => exact .of_evolves he rfl (coreRecvfrom_generations t fd hasBuffer length)
  | close fd now => exact .of_evolves he rfl (coreClose_generations env t fd now)
  | datagram localIp port source payload => exact .of_evolves he rfl (udpDeliver_generations t localIp port source payload)
  | tick now => exact .of_evolves he rfl rfl

def SocketTable.generation (t : SocketTable) (slot : ℕ) : ℕ := t.generations.getD slot 0

theorem socketAllocate_generation {type : SockType} {t₁ : SocketTable} (h : socketAllocate t type = some (t₁, slot, s)) :
    t₁.generations = t.generations.set slot (nextGeneration slot (t.generation slot)) ∧
      s.fd = generationFd slot (t.generation slot) := by
  unfold socketAllocate at h
  split at h
  · cases h
  · simp only [Option.some.injEq, Prod.mk.injEq] at h
    obtain ⟨rfl, rfl, rfl⟩ := h
    exact ⟨rfl, rfl⟩

theorem TableHandles.slotStep (h : TableHandles t t') (hlen : t.generations.length = t.entries.length)
    (hs : t.entries[i]? = some s) (hs' : t'.entries[i]? = some s') :
    SlotStep i s (t.generation i) s' (t'.generation i) := by
  cases h with
  | kept hg hkept =>
    rw [SocketTable.generation, SocketTable.generation, hg]
    exact .kept (hkept i s s' hs hs')
  | @allocated type t₁ slot fresh a halloc hg he ha hfd =>
    obtain ⟨hgen, hfresh⟩ := socketAllocate_generation halloc
    obtain ⟨old, -, hold, hfree, -, -⟩ := socketAllocate_fd halloc
    rw [he] at hs'
    rw [hgen] at hg
    rcases List.getElem?_set_cases hs' with ⟨rfl, rfl⟩ | ⟨hne, hs'⟩
    · obtain rfl := Option.some.inj (hold.symm.trans hs)
      have hi : i < t.generations.length := hlen ▸ (List.getElem?_eq_some_iff.mp hs).1
      have htaken : t'.generation i = nextGeneration i (t.generation i) := by
        rw [SocketTable.generation, hg, List.getD_eq_getElem?_getD, List.getElem?_set_self hi]
        rfl
      rw [htaken]
      exact .allocated hfree ha (hfd.trans hfresh)
    · obtain rfl := Option.some.inj (hs.symm.trans hs')
      have hother : t'.generation i = t.generation i := by
        rw [SocketTable.generation, hg, List.getD_eq_getElem?_getD, List.getElem?_set_ne (Ne.symm hne)]
        exact (List.getD_eq_getElem?_getD ..).symm
      rw [hother]
      exact .kept fun ha => ⟨ha, rfl⟩

theorem TableHandles.generations_length (h : TableHandles t t') : t'.generations.length = t.generations.length := by
  cases h with
  | kept hg _ => rw [hg]
  | allocated halloc hg _ _ _ => rw [hg, (socketAllocate_generation halloc).1, List.length_set]

structure Handles (t : SocketTable) : Prop where
  size : t.entries.length ≤ psSocketMax
  length : t.generations.length = t.entries.length
  generation {i : ℕ} : i < t.entries.length → t.generation i < slotGenerations i
  taken {i : ℕ} {s : SocketEntry} : t.entries[i]? = some s → s.allocated = true →
    ∃ g < slotGenerations i, s.fd = generationFd i g ∧ t.generation i = nextGeneration i g

namespace Handles

theorem init {capacity : ℕ} (h : capacity ≤ psSocketMax) : Handles (socketSubsystemInit capacity) where
  size := by rwa [socketSubsystemInit, List.length_replicate]
  length := by rw [socketSubsystemInit, List.length_replicate, List.length_replicate]
  generation {i} hi := by
    rw [SocketTable.generation, socketSubsystemInit, List.getD_eq_getElem?_getD, List.getElem?_replicate]
    split
    · exact Nat.succ_pos _
    · exact Nat.succ_pos _
  taken {i s} hs ha := by
    rw [List.eq_of_mem_replicate (List.mem_of_getElem? hs)] at ha
    cases ha

theorem step (h : Handles t) (hd : ∀ s ∈ t.entries, Dormant s) (env : TcpEnv) (event : SocketEvent) :
    Handles (socketStep env t event).1 := by
  have he : TableEvolves env event t (socketStep env t event).1 := socketStep_evolves env hd event
  have hh : TableHandles t (socketStep env t event).1 := socketStep_handles hd event
  refine ⟨he.length ▸ h.size, hh.generations_length.trans (h.length.trans he.length.symm), ?_, ?_⟩
  · intro i hi
    obtain ⟨s', hs'⟩ : ∃ s', (socketStep env t event).1.entries[i]? = some s' := ⟨_, List.getElem?_eq_getElem hi⟩
    obtain ⟨s, hs, -⟩ := he.entry hs'
    have hold := h.generation (List.getElem?_eq_some_iff.mp hs).1
    generalize hg : (socketStep env t event).1.generation i = g
    cases hg ▸ hh.slotStep h.length hs hs' with
    | kept _ => exact hold
    | allocated _ _ _ => exact nextGeneration_lt hold
  · intro i s' hs' ha
    obtain ⟨s, hs, -⟩ := he.entry hs'
    generalize hg : (socketStep env t event).1.generation i = g
    cases hg ▸ hh.slotStep h.length hs hs' with
    | kept hkept =>
      obtain ⟨ha, hfd⟩ := hkept ha
      rw [hfd]
      exact h.taken hs ha
    | allocated _ _ hfd => exact ⟨_, h.generation (List.getElem?_eq_some_iff.mp hs).1, hfd, rfl⟩

theorem fd_bounds (h : Handles t) (hs : t.entries[i]? = some s) (ha : s.allocated = true) :
    0 < s.fd ∧ s.fd ≤ intMax ∧ (s.fd - 1) % psSocketMax = i := by
  obtain ⟨g, hg, hfd, -⟩ := h.taken hs ha
  have hi : i < psSocketMax := Nat.lt_of_lt_of_le (List.getElem?_eq_some_iff.mp hs).1 h.size
  rw [hfd]
  exact ⟨Nat.succ_pos _, generationFd_le hi hg, generationFd_slot g hi⟩

theorem lookup (h : Handles t) (hs : t.entries[i]? = some s) (ha : s.allocated = true) :
    socketLookup t s.fd = some (i, s) := by
  obtain ⟨hpos, -, hslot⟩ := h.fd_bounds hs ha
  unfold socketLookup
  rw [if_neg (by omega)]
  dsimp only
  rw [Int.toNat_natCast, hslot, hs]
  exact if_pos ⟨ha, rfl⟩

end Handles

theorem Reachable.handles {admissible : TcpEnv → SocketTable → SocketEvent → Prop} (ht : Reachable admissible t) :
    Handles t := by
  induction ht with
  | init capacity h => exact .init h
  | step env event ht _ ih => exact ih.step ht.dormant env event

def reallocates (i : ℕ) (t t' : SocketTable) : Bool :=
  !(t.entries.getD i {}).allocated && (t'.entries.getD i {}).allocated

inductive SlotRun (i : ℕ) (t : SocketTable) : ℕ → SocketTable → Prop
  | refl : SlotRun i t 0 t
  | step {n : ℕ} {t' : SocketTable} (env : TcpEnv) (event : SocketEvent) : SlotRun i t n t' →
      SlotRun i t (n + (reallocates i t' (socketStep env t' event).1).toNat) (socketStep env t' event).1

structure Reissued (i g n : ℕ) (t : SocketTable) : Prop where
  reachable : Reachable (fun _ _ _ => True) t
  generation : t.generation i = (g + 1 + n) % slotGenerations i
  fd {s : SocketEntry} : t.entries[i]? = some s → s.allocated = true →
    0 < n ∧ s.fd = generationFd i ((g + n) % slotGenerations i)

theorem Reissued.step {g n : ℕ} (h : Reissued i g n t) (hi : i < t.entries.length) (env : TcpEnv) (event : SocketEvent) :
    Reissued i g (n + (reallocates i t (socketStep env t event).1).toNat) (socketStep env t event).1 := by
  have hreach : Reachable (fun _ _ _ => True) (socketStep env t event).1 := h.reachable.step env event trivial
  have he := h.reachable.evolves env event
  have hh : TableHandles t (socketStep env t event).1 := socketStep_handles h.reachable.dormant event
  generalize (socketStep env t event).1 = t' at *
  obtain ⟨s, hs⟩ : ∃ s, t.entries[i]? = some s := ⟨_, List.getElem?_eq_getElem hi⟩
  obtain ⟨s', hs', -⟩ := he.getElem? hs
  have hcount : reallocates i t t' = (!s.allocated && s'.allocated) := by
    rw [reallocates, List.getD_eq_getElem?_getD, List.getD_eq_getElem?_getD, hs, hs']
    rfl
  have hlt := h.reachable.handles.generation hi
  generalize hg : t'.generation i = g'
  cases hg ▸ hh.slotStep h.reachable.handles.length hs hs' with
  | kept hkept =>
    have hnone : reallocates i t t' = false := by
      rw [hcount]
      cases ha : s'.allocated with
      | false => exact Bool.and_false _
      | true => rw [(hkept ha).1]; rfl
    rw [hnone]
    refine ⟨hreach, hg.trans h.generation, fun {a} ha halloc => ?_⟩
    obtain rfl := Option.some.inj (hs'.symm.trans ha)
    obtain ⟨halloc, hfd⟩ := hkept halloc
    rw [hfd]
    exact h.fd hs halloc
  | allocated hfree ha hfd =>
    have hone : reallocates i t t' = true := by rw [hcount, hfree, ha]; rfl
    rw [hone]
    refine ⟨hreach, ?_, fun {a} ha _ => ⟨Nat.succ_pos _, ?_⟩⟩
    · rw [hg, nextGeneration_eq_mod hlt, h.generation, Nat.mod_add_mod]
      rfl
    · obtain rfl := Option.some.inj (hs'.symm.trans ha)
      rw [hfd, h.generation, Nat.add_right_comm]
      rfl

theorem Reissued.run {g n : ℕ} (h : Reissued i g 0 t) (hi : i < t.entries.length) (hrun : SlotRun i t n t') :
    Reissued i g n t' ∧ i < t'.entries.length := by
  induction hrun with
  | refl => exact ⟨h, hi⟩
  | step env event _ ih => exact ⟨ih.1.step ih.2 env event, (ih.1.reachable.evolves env event).length ▸ ih.2⟩

theorem Reissued.lookup_none {g n : ℕ} (h : Reissued i g n t) (hi : i < psSocketMax) (hg : g < slotGenerations i)
    (hn : n < slotGenerations i) : socketLookup t (generationFd i g) = none := by
  by_contra hsome
  obtain ⟨⟨slot, s⟩, hl⟩ := Option.ne_none_iff_exists'.mp hsome
  obtain ⟨hs, ha, -, hfd⟩ := socketLookup_some hl
  have hfd : s.fd = generationFd i g := Int.ofNat.inj hfd
  have hslot := (h.reachable.handles.fd_bounds hs ha).2.2
  rw [hfd, generationFd_slot g hi] at hslot
  subst hslot
  obtain ⟨hpos, hnew⟩ := h.fd hs ha
  have hmod : (g + n) % slotGenerations i = g := generationFd_injective (hnew.symm.trans hfd)
  by_cases hwrap : g + n < slotGenerations i
  · rw [Nat.mod_eq_of_lt hwrap] at hmod
    omega
  · rw [Nat.mod_eq_sub_mod (Nat.le_of_not_lt hwrap), Nat.mod_eq_of_lt (by omega)] at hmod
    omega

structure DescriptorsSafe (t : SocketTable) : Prop where
  named {i : ℕ} {s : SocketEntry} : t.entries[i]? = some s → s.allocated = true →
    0 < s.fd ∧ s.fd ≤ intMax ∧ (s.fd - 1) % 256 = i ∧ socketLookup t s.fd = some (i, s)
  distinct {i j : ℕ} {s s' : SocketEntry} : t.entries[i]? = some s → t.entries[j]? = some s' → s.allocated = true →
    s'.allocated = true → i ≠ j → s.fd ≠ s'.fd
  stale {i n : ℕ} {s freed : SocketEntry} {env : TcpEnv} {event : SocketEvent} {t' : SocketTable} :
    t.entries[i]? = some s → s.allocated = true →
    (socketStep env t event).1.entries[i]? = some freed → freed.allocated = false →
    SlotRun i (socketStep env t event).1 n t' → n < (intMax - i - 1) / 256 + 1 → socketLookup t' s.fd = none

theorem descriptors_safe (ht : Reachable (fun _ _ _ => True) t) : DescriptorsSafe t where
  named {i s} hs ha := by
    obtain ⟨hpos, hle, hslot⟩ := ht.handles.fd_bounds hs ha
    exact ⟨hpos, hle, hslot, ht.handles.lookup hs ha⟩
  distinct {i j s s'} hs hs' ha ha' hne heq := by
    have hi := (ht.handles.fd_bounds hs ha).2.2
    have hj := (ht.handles.fd_bounds hs' ha').2.2
    rw [heq] at hi
    exact hne (hi.symm.trans hj)
  stale {i n s freed env event t'} hs ha hfreed hfree hrun hn := by
    obtain ⟨g, hg, hfd, hgen⟩ := ht.handles.taken hs ha
    obtain ⟨hi, -⟩ := List.getElem?_eq_some_iff.mp hs
    have hlength := (ht.evolves env event).length
    have hnext : Reissued i g 0 (socketStep env t event).1 := by
      refine ⟨ht.step env event trivial, ?_, fun {a} ha' halloc => ?_⟩
      · generalize hg' : (socketStep env t event).1.generation i = g'
        cases hg' ▸ (socketStep_handles ht.dormant event).slotStep ht.handles.length hs hfreed with
        | kept _ => rw [hgen, nextGeneration_eq_mod hg]
        | allocated hunused _ _ => rw [ha] at hunused; cases hunused
      · obtain rfl := Option.some.inj (hfreed.symm.trans ha')
        rw [hfree] at halloc
        cases halloc
    rw [hfd]
    exact (hnext.run (hlength ▸ hi) hrun).1.lookup_none (Nat.lt_of_lt_of_le hi ht.handles.size) hg hn

theorem descriptors_safe_after_close :
    DescriptorsSafe (socketRun steadyEnv (socketSubsystemInit 4) [.socket 2 2 0]) ∧
      socketLookup (socketRun steadyEnv (socketSubsystemInit 4) [.socket 2 2 0, .close 1 0, .socket 2 2 0]) 1 = none ∧
      socketLookup (socketRun steadyEnv (socketSubsystemInit 4) [.socket 2 2 0, .close 1 0, .socket 2 2 0]) 257 ≠ none := by
  have ht : Reachable (fun _ _ _ => True) (socketRun steadyEnv (socketSubsystemInit 4) [.socket 2 2 0]) :=
    (Reachable.init 4 (by decide)).run steadyEnv [.socket 2 2 0] ⟨trivial, trivial⟩
  exact ⟨descriptors_safe ht, by decide, by decide⟩

end PulsarNetstack
