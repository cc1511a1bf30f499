import PulsarNetstack.SocketEvolution

namespace PulsarNetstack

variable {env : TcpEnv} {s s' : SocketEntry} {t t' : SocketTable} {event : SocketEvent} {i slot : ℕ}

structure Listens (s : SocketEntry) : Prop where
  allocated : s.allocated = true
  isOpen : s.isOpen = true
  type : s.type = .stream
  state : s.tcp.state = .listen

theorem Owned.child_state (h : Owned s.isOpen s.tcp) (hp : s.tcp.parent ≠ 0) :
    s.isOpen = false ∧ (s.tcp.state = .synReceived ∨ s.tcp.state = .established ∨ s.tcp.state = .closeWait) := by
  have hopen : s.isOpen = false := eq_false_of_ne_true fun ho => hp (h.held ho).2
  have hclosing := h.child hp
  have hstate := h.stateOk
  have hholder := h.holder
  rw [hclosing] at hstate
  rw [hopen] at hholder
  refine ⟨hopen, ?_⟩
  cases hs : s.tcp.state with
  | synReceived => exact .inl rfl
  | established => exact .inr (.inl rfl)
  | closeWait => exact .inr (.inr rfl)
  | closed | listen | synSent =>
    rw [hs] at hholder
    cases hholder
  | finWait1 =>
    rw [hs] at hstate
    cases hstate.1
  | finWait2 | lastAck | timeWait =>
    rw [hs] at hstate
    cases hstate.2.1

def OwnerFresh (t : SocketTable) : SocketEvent → Prop
  | .assignOwner fd _ => ∀ i s, socketLookup t fd = some (i, s) → s.tcp = {}
  | _ => True

theorem Evolves.listens (h : Evolves env t i s event s') (hl : Listens s) (hfresh : OwnerFresh t event)
    (hown : OwnedEntry s) :
    (Listens s' ∧ s'.fd = s.fd ∧ s'.owner = s.owner) ∨ ∃ fd now, event = .close fd now ∧ getSocket t fd = some (i, s) := by
  have hstate := hl.state
  have hkept {s' : SocketEntry} (hp : Processed s s') : Listens s' ∧ s'.fd = s.fd ∧ s'.owner = s.owner := by
    cases hp with
    | freed entry not_open => rw [hl.isOpen] at not_open; cases not_open
    | kept fd allocated isOpen type owner localAddr parent listen dormant =>
      exact ⟨⟨allocated.trans hl.allocated, isOpen.trans hl.isOpen, type.trans hl.type, listen.mpr hl.state⟩, fd, owner⟩
  cases h with
  | same => exact .inl ⟨hl, rfl, rfl⟩
  | created domain type protocol free => rw [hl.allocated] at free; cases free
  | assigned fd owner lookup =>
    rw [hfresh i s lookup] at hstate
    cases hstate
  | called fd names get step =>
    cases step with
    | bound | udp => exact .inl ⟨⟨hl.allocated, hl.isOpen, hl.type, hl.state⟩, rfl, rfl⟩
    | connected fd addr seed now state => rw [hstate] at state; cases state
    | listening fd backlog bound =>
      left
      unfold tcpListen
      split
      · exact ⟨hl, rfl, rfl⟩
      split
      · exact ⟨hl, rfl, rfl⟩
      · exact ⟨⟨hl.allocated, hl.isOpen, hl.type, rfl⟩, rfl, rfl⟩
    | processed step => exact .inl (hkept step)
    | closing fd now state => exact absurd hstate state
    | cleared fd' now =>
      obtain rfl : fd' = fd := Option.some.inj names
      exact .inr ⟨fd', now, rfl, get⟩
  | accepted fd slot parent get listen ready =>
    rw [acceptable, hstate, Bool.and_eq_true] at ready
    cases ready.2
  | orphaned fd now slot parent get listen other child =>
    simp only [childOf, Bool.and_eq_true, beq_iff_eq] at child
    have hparent := ((hown hl.allocated hl.type).held hl.isOpen).2
    obtain ⟨-, -, -, hfd, -⟩ := getSocket_some get
    omega
  | delivered localIp port source payload ep bound =>
    have htype := (boundMatch_iff.mp bound).2.1
    rw [hl.type] at htype
    cases htype
  | received srcIp dstIp hdr payload seed now connection step => exact .inl (hkept step)
  | opened srcIp dstIp hdr payload seed now seg free => rw [hl.allocated] at free; cases free
  | ticked now step => exact .inl (hkept step)

def Admits (t : SocketTable) (s s' : SocketEntry) : Prop :=
  s.allocated = false ∧ s'.isOpen = false ∧ s'.type = .stream ∧ ∃ parent ∈ t.entries, Listens parent ∧
    s'.tcp.parent = parent.fd ∧ s'.owner = parent.owner ∧ t.entries.countP (childOf parent.fd) < parent.tcp.backlog

theorem Processed.parent_ne_zero (h : Processed s s') (hp : s'.tcp.parent ≠ 0) :
    s'.allocated = s.allocated ∧ s'.fd = s.fd ∧ s'.type = s.type ∧ s'.owner = s.owner ∧ s'.tcp.parent = s.tcp.parent := by
  cases h with
  | freed entry => rw [entry] at hp; exact absurd rfl hp
  | kept fd allocated isOpen type owner localAddr parent listen dormant =>
    exact ⟨allocated, fd, type, owner, parent.resolve_right fun h => hp h.2⟩

theorem Evolves.parent (h : Evolves env t i s event s') (hfresh : OwnerFresh t event) (hp : s'.tcp.parent ≠ 0) :
    Admits t s s' ∨ s'.allocated = s.allocated ∧ s'.fd = s.fd ∧ s'.type = s.type ∧ s'.owner = s.owner ∧
      s'.tcp.parent = s.tcp.parent := by
  cases h with
  | same => exact .inr ⟨rfl, rfl, rfl, rfl, rfl⟩
  | created => exact absurd rfl hp
  | assigned fd owner lookup =>
    rw [hfresh i s lookup] at hp
    exact absurd rfl hp
  | called fd names get step =>
    right
    cases step with
    | bound | connected | udp => exact ⟨rfl, rfl, rfl, rfl, rfl⟩
    | listening fd backlog bound =>
      unfold tcpListen
      split
      · exact ⟨rfl, rfl, rfl, rfl, rfl⟩
      split <;> exact ⟨rfl, rfl, rfl, rfl, rfl⟩
    | processed step => exact step.parent_ne_zero hp
    | closing fd now state step => exact step.parent_ne_zero hp
    | cleared => exact absurd rfl hp
  | accepted => exact absurd rfl hp
  | orphaned =>
    rw [tcpFail_tcp] at hp
    exact absurd rfl hp
  | delivered => exact .inr ⟨rfl, rfl, rfl, rfl, rfl⟩
  | received srcIp dstIp hdr payload seed now connection step => exact .inr (step.parent_ne_zero hp)
  | opened srcIp dstIp hdr payload seed now seg free generation parent mem listens room =>
    obtain ⟨ha, ho, hk, hr, -⟩ := listenerMatch_iff.mp listens
    exact .inl ⟨free, rfl, rfl, parent, mem, ⟨ha, ho, hk, role_listening.mp hr⟩, rfl, rfl, room⟩
  | ticked now step => exact .inr (step.parent_ne_zero hp)

section Close

variable {fd : ℤ} {parent : SocketEntry} {now : ℕ}

theorem coreClose_listener (hg : getSocket t fd = some (slot, parent)) (hl : Listens parent) :
    (coreClose env t fd now).1.entries = (t.entries.map fun child => (closeChild parent.fd child).1).set slot {} := by
  unfold coreClose
  rw [hg]
  dsimp only
  rw [if_pos hl.type]
  exact tcpClose_listener hl.state

theorem coreClose_no_child (hg : getSocket t fd = some (slot, parent)) (hl : Listens parent) :
    ∀ s ∈ (coreClose env t fd now).1.entries, childOf parent.fd s = false := by
  intro s hs
  obtain ⟨-, -, -, hfd, -⟩ := getSocket_some hg
  obtain ⟨i, hi⟩ := List.mem_iff_getElem?.mp hs
  rw [coreClose_listener hg hl] at hi
  rcases List.getElem?_set_cases hi with ⟨-, rfl⟩ | ⟨-, hi⟩
  · rfl
  · rw [List.getElem?_map] at hi
    obtain ⟨child, -, rfl⟩ := Option.map_eq_some_iff.mp hi
    unfold closeChild
    split
    · have hparent : (0 == parent.fd) = false := beq_eq_false_iff_ne.mpr (by omega)
      rw [childOf, tcpFail_tcp, hparent, Bool.and_false]
    · rename_i hc
      exact eq_false_of_ne_true hc

theorem coreClose_other (hg : getSocket t fd = some (slot, parent)) (hl : Listens parent) (hs : t.entries[i]? = some s)
    (hi : i ≠ slot) (hc : childOf parent.fd s = false) : (coreClose env t fd now).1.entries[i]? = some s := by
  rw [coreClose_listener hg hl, List.getElem?_set_ne hi.symm, List.getElem?_map, hs]
  simp [closeChild, hc]

end Close

structure Lineage (t : SocketTable) : Prop where
  size : t.entries.length ≤ psSocketMax
  slots {i : ℕ} {s : SocketEntry} : t.entries[i]? = some s → s.allocated = true →
    0 < s.fd ∧ (s.fd - 1) % psSocketMax = i
  child {s : SocketEntry} : s ∈ t.entries → s.allocated = true → s.tcp.parent ≠ 0 →
    s.type = .stream ∧ ∃ parent ∈ t.entries, Listens parent ∧ parent.fd = s.tcp.parent ∧ parent.owner = s.owner

theorem Processed.allocated_fd (h : Processed s s') (ha : s'.allocated = true) : s.allocated = true ∧ s'.fd = s.fd := by
  cases h with
  | freed entry => rw [entry] at ha; cases ha
  | kept fd allocated => exact ⟨allocated.symm.trans ha, fd⟩

theorem Called.allocated_fd (h : Called env s event s') (ha : s'.allocated = true) : s.allocated = true ∧ s'.fd = s.fd := by
  cases h with
  | bound | connected | udp => exact ⟨ha, rfl⟩
  | listening fd backlog bound =>
    revert ha
    unfold tcpListen
    split
    · exact fun ha => ⟨ha, rfl⟩
    split <;> exact fun ha => ⟨ha, rfl⟩
  | processed step => exact step.allocated_fd ha
  | closing fd now state step => exact step.allocated_fd ha
  | cleared => cases ha

def SocketEvent.opens : SocketEvent → Bool
  | .socket .. | .segment .. => true
  | _ => false

theorem Evolves.allocated_fd (h : Evolves env t i s event s') (ha : s'.allocated = true) :
    s.allocated = true ∧ s'.fd = s.fd ∨
      event.opens = true ∧ s.allocated = false ∧ ∃ generation, s'.fd = generation * psSocketMax + i + 1 := by
  cases h with
  | same => exact .inl ⟨ha, rfl⟩
  | created domain type protocol free generation => exact .inr ⟨rfl, free, generation, rfl⟩
  | assigned => exact .inl ⟨ha, rfl⟩
  | called fd names get step => exact .inl (step.allocated_fd ha)
  | accepted => exact .inl ⟨ha, rfl⟩
  | orphaned fd now slot parent get listen other child =>
    left
    rw [tcpFail_entry] at ha ⊢
    split at ha
    · rename_i ho
      rw [if_pos ho]
      exact ⟨ha, rfl⟩
    · cases ha
  | delivered => exact .inl ⟨ha, rfl⟩
  | received srcIp dstIp hdr payload seed now connection step => exact .inl (step.allocated_fd ha)
  | opened srcIp dstIp hdr payload seed now seg free generation => exact .inr ⟨rfl, free, generation, rfl⟩
  | ticked now step => exact .inl (step.allocated_fd ha)

theorem Lineage.init {capacity : ℕ} (h : capacity ≤ psSocketMax) : Lineage (socketSubsystemInit capacity) := by
  have hempty : ∀ s ∈ (socketSubsystemInit capacity).entries, s = {} := fun s hs => List.eq_of_mem_replicate hs
  refine ⟨?_, ?_, ?_⟩
  · change (List.replicate capacity _).length ≤ _
    rw [List.length_replicate]
    exact h
  · intro i s hs ha
    rw [hempty s (List.mem_of_getElem? hs)] at ha
    cases ha
  · intro s hs ha
    rw [hempty s hs] at ha
    cases ha

theorem TableEvolves.getElem? (h : TableEvolves env event t t') (hs : t.entries[i]? = some s) :
    ∃ s', t'.entries[i]? = some s' ∧ Evolves env t i s event s' := by
  obtain ⟨hlt, -⟩ := List.getElem?_eq_some_iff.mp hs
  obtain ⟨s', hs'⟩ : ∃ s', t'.entries[i]? = some s' := ⟨_, List.getElem?_eq_getElem (h.length ▸ hlt)⟩
  obtain ⟨a, ha, hevolves⟩ := h.entry hs'
  obtain rfl := Option.some.inj (ha.symm.trans hs)
  exact ⟨s', hs', hevolves⟩

theorem Lineage.slots_evolves (h : Lineage t) (he : TableEvolves env event t t') (hs' : t'.entries[i]? = some s')
    (ha : s'.allocated = true) : 0 < s'.fd ∧ (s'.fd - 1) % psSocketMax = i := by
  obtain ⟨s, hs, hevolves⟩ := he.entry hs'
  obtain ⟨hi, -⟩ := List.getElem?_eq_some_iff.mp hs
  have hsize := h.size
  rcases hevolves.allocated_fd ha with ⟨ha', hfd⟩ | ⟨-, -, generation, hfd⟩
  · rw [hfd]
    exact h.slots hs ha'
  · rw [hfd]
    refine ⟨Nat.succ_pos _, ?_⟩
    rw [Nat.add_sub_cancel, Nat.mul_comm, Nat.mul_add_mod, Nat.mod_eq_of_lt (by omega)]

theorem Lineage.step (h : Lineage t) (hd : ∀ s ∈ t.entries, Dormant s) (hown : ∀ s ∈ t.entries, OwnedEntry s)
    (hfresh : OwnerFresh t event) : Lineage (socketStep env t event).1 := by
  have he : TableEvolves env event t (socketStep env t event).1 := socketStep_evolves env hd event
  refine ⟨he.length ▸ h.size, h.slots_evolves he, fun {s'} hs' ha hp => ?_⟩
  obtain ⟨i, hi⟩ := List.mem_iff_getElem?.mp hs'
  obtain ⟨s, hs, hevolves⟩ := he.entry hi
  -- The parent was there before the event, whether the child was or not.
  obtain ⟨htype, parent, hmem, hlistens, hfd, howner⟩ : s'.type = .stream ∧ ∃ parent ∈ t.entries, Listens parent ∧
      parent.fd = s'.tcp.parent ∧ parent.owner = s'.owner := by
    rcases hevolves.parent hfresh hp with ⟨-, -, htype, parent, hmem, hlistens, hfd, howner, -⟩ | ⟨ha', hfd', htype, howner, hparent⟩
    · exact ⟨htype, parent, hmem, hlistens, hfd.symm, howner.symm⟩
    · rw [htype, hparent, howner]
      exact h.child (List.mem_of_getElem? hs) (ha'.symm.trans ha) (hparent ▸ hp)
  obtain ⟨j, hj⟩ := List.mem_iff_getElem?.mp hmem
  obtain ⟨parent', hj', hparent⟩ := he.getElem? hj
  rcases hparent.listens hlistens hfresh (hown parent hmem) with ⟨hlistens', hfd', howner'⟩ | ⟨fd, now, rfl, hget⟩
  · exact ⟨htype, parent', List.mem_of_getElem? hj', hlistens', hfd'.trans hfd, howner'.trans howner⟩
  · -- The listener is closed, and with it all its children.
    have hno := coreClose_no_child hget hlistens s' hs'
    rw [childOf, ha, htype, hfd] at hno
    simp at hno

theorem Reachable.lineage (ht : Reachable (fun _ t event => OwnerFresh t event) t) : Lineage t := by
  induction ht with
  | init capacity h => exact .init h
  | step env event ht hfresh ih => exact ih.step ht.dormant (fun s hs => (ht.owned s hs).2) hfresh

theorem coreAccept_ok {fd : ℤ} {child : ℕ} {addr : SockAddr} (h : coreAccept t fd = (t', .ok (child, addr))) :
    ∃ slot listener i s, getSocket t fd = some (slot, listener) ∧ Listens listener ∧ t.entries[i]? = some s ∧
      acceptable listener.fd s = true ∧ s.fd = child ∧ t'.entries = t.entries.set i (acceptEntry s) := by
  unfold coreAccept at h
  split at h
  · cases h
  rename_i slot listener hg
  obtain ⟨-, ha, ho, -⟩ := getSocket_some hg
  split at h
  · cases h
  rename_i hk
  unfold tcpAccept at h
  split at h
  · cases h
  rename_i hl
  split at h
  · cases h
  rename_i i hi
  obtain ⟨s, hs, hp⟩ := List.getElem?_of_findIdx? hi
  have hd : t.entries.getD i {} = s := by rw [List.getD_eq_getElem?_getD, hs]; rfl
  dsimp only at h
  rw [hd] at h
  obtain ⟨rfl, hresult⟩ := Prod.mk.inj h
  exact ⟨slot, listener, i, s, hg, ⟨ha, ho, not_not.mp hk, not_not.mp hl⟩, hs, hp,
    (Prod.mk.inj (Except.ok.inj hresult)).1, rfl⟩

inductive Outlives (fd : ℕ) (t : SocketTable) : SocketTable → Prop
  | refl : Outlives fd t t
  | step {t' : SocketTable} (env : TcpEnv) (event : SocketEvent) (h : Outlives fd t t') (hfresh : OwnerFresh t' event)
      (held : (socketLookup (socketStep env t' event).1 fd).isSome) : Outlives fd t (socketStep env t' event).1

theorem Outlives.reachable {fd : ℕ} (h : Outlives fd t t') (ht : Reachable (fun _ t event => OwnerFresh t event) t) :
    Reachable (fun _ t event => OwnerFresh t event) t' := by
  induction h with
  | refl => exact ht
  | step env event h hfresh held ih => exact ih.step env event hfresh

def Adopted (fd : ℕ) (t : SocketTable) : Prop :=
  ∃ (i : ℕ) (s : SocketEntry), t.entries[i]? = some s ∧ s.allocated = true ∧ s.fd = fd ∧ s.tcp.parent = 0

theorem Outlives.adopted {fd : ℕ} (h : Outlives fd t t') (ht : Reachable (fun _ t event => OwnerFresh t event) t)
    (hadopted : Adopted fd t) : Adopted fd t' := by
  induction h with
  | refl => exact hadopted
  | @step t' env event h hfresh held ih =>
    obtain ⟨i, s, hs, ha, hfd, hparent⟩ := ih
    have ht' := h.reachable ht
    have hlineage := ht'.lineage
    obtain ⟨⟨j, s'⟩, hlookup⟩ := Option.isSome_iff_exists.mp held
    obtain ⟨hs', ha', -, hfd'⟩ := socketLookup_some hlookup
    have hfd' : s'.fd = fd := Int.ofNat.inj hfd'
    obtain rfl : i = j := by
      rw [← (hlineage.slots hs ha).2, ← ((ht'.step env event hfresh).lineage.slots hs' ha').2, hfd, hfd']
    refine ⟨i, s', hs', ha', hfd', ?_⟩
    obtain ⟨a, hget, hevolves⟩ := (ht'.evolves env event).entry hs'
    obtain rfl := Option.some.inj (hget.symm.trans hs)
    by_contra hp
    rcases hevolves.parent hfresh hp with ⟨hfree, -⟩ | ⟨-, -, -, -, hsame⟩
    · rw [ha] at hfree
      cases hfree
    · exact hp (hsame.trans hparent)

theorem Adopted.not_accepted {fd : ℕ} (h : Adopted fd t) (hlineage : Lineage t) (listener : ℤ) (addr : SockAddr) :
    (coreAccept t listener).2 ≠ .ok (fd, addr) := by
  intro hresult
  obtain ⟨i, s, hs, ha, hfd, hparent⟩ := h
  have hcall : coreAccept t listener = ((coreAccept t listener).1, .ok (fd, addr)) := Prod.ext rfl hresult
  obtain ⟨slot, l, j, child, hget, -, hchild, hready, hcfd, -⟩ := coreAccept_ok hcall
  simp only [acceptable, Bool.and_eq_true, beq_iff_eq] at hready
  obtain rfl : j = i := by
    rw [← (hlineage.slots hs ha).2, ← (hlineage.slots hchild hready.1.1.1).2, hfd, hcfd]
  obtain rfl := Option.some.inj (hchild.symm.trans hs)
  obtain ⟨-, -, -, hpos, -⟩ := getSocket_some hget
  omega

structure ListenerLifecycle (t : SocketTable) : Prop where
  child : ∀ s ∈ t.entries, s.allocated = true → s.type = .stream → s.tcp.parent ≠ 0 → s.isOpen = false ∧
    (s.tcp.state = .synReceived ∨ s.tcp.state = .established ∨ s.tcp.state = .closeWait) ∧
    ∃ parent ∈ t.entries, Listens parent ∧ parent.fd = s.tcp.parent ∧ parent.owner = s.owner
  admission : ∀ (env : TcpEnv) (event : SocketEvent) (fd : ℕ), OwnerFresh t event → 0 < fd →
    t.entries.countP (childOf fd) < (socketStep env t event).1.entries.countP (childOf fd) →
    ∃ parent ∈ t.entries, Listens parent ∧ parent.fd = fd ∧ t.entries.countP (childOf fd) < parent.tcp.backlog
  once : ∀ (fd : ℤ) (t₁ : SocketTable) (child : ℕ) (addr : SockAddr), coreAccept t fd = (t₁, .ok (child, addr)) →
    ∀ t₂, Outlives child t₁ t₂ → ∀ (fd' : ℤ) (addr' : SockAddr), (coreAccept t₂ fd').2 ≠ .ok (child, addr')
  orphans : ∀ (env : TcpEnv) (fd : ℤ) (now slot : ℕ) (parent : SocketEntry), getSocket t fd = some (slot, parent) →
    Listens parent → ∀ s ∈ (coreClose env t fd now).1.entries, childOf parent.fd s = false
  adopted : ∀ (env : TcpEnv) (fd : ℤ) (now slot : ℕ) (parent : SocketEntry), getSocket t fd = some (slot, parent) →
    Listens parent → ∀ i s, t.entries[i]? = some s → i ≠ slot → s.tcp.parent ≠ parent.fd →
    (coreClose env t fd now).1.entries[i]? = some s

theorem listener_lifecycle (ht : Reachable (fun _ t event => OwnerFresh t event) t) : ListenerLifecycle t where
  child s hs ha hk hp := by
    obtain ⟨hopen, hstate⟩ := ((ht.owned s hs).2 ha hk).child_state hp
    exact ⟨hopen, hstate, (ht.lineage.child hs ha hp).2⟩
  admission env event fd hfresh hpos hlt := by
    have he := ht.evolves env event
    by_contra hnone
    refine absurd hlt (Nat.not_lt.mpr (List.countP_le_of_getElem? he.length fun i s s' hs hs' hchild => ?_))
    simp only [childOf, Bool.and_eq_true, beq_iff_eq] at hchild ⊢
    obtain ⟨a, ha, hevolves⟩ := he.entry hs'
    obtain rfl := Option.some.inj (ha.symm.trans hs)
    rcases hevolves.parent hfresh (by omega) with ⟨-, -, -, parent, hmem, hlistens, hfd, -, hroom⟩ | ⟨hal, -, htype, -, hparent⟩
    · rw [hchild.2] at hfd
      exact absurd ⟨parent, hmem, hlistens, hfd.symm, hfd ▸ hroom⟩ hnone
    · rw [← hal, ← htype, ← hparent]
      exact hchild
  once fd t₁ child addr haccept t₂ houtlives fd' addr' := by
    have ht₁ : Reachable (fun _ t event => OwnerFresh t event) t₁ := by
      have hstep : (socketStep steadyEnv t (.accept fd)).1 = t₁ := congrArg Prod.fst haccept
      rw [← hstep]
      exact ht.step steadyEnv (.accept fd) trivial
    obtain ⟨slot, listener, i, s, -, -, hs, hready, hfd, he⟩ := coreAccept_ok haccept
    simp only [acceptable, Bool.and_eq_true] at hready
    have hget : t₁.entries[i]? = some (acceptEntry s) := by
      rw [he, List.getElem?_set_self (List.getElem?_eq_some_iff.mp hs).1]
    have hadopted : Adopted child t₁ := ⟨i, acceptEntry s, hget, hready.1.1.1, hfd, rfl⟩
    exact (houtlives.adopted ht₁ hadopted).not_accepted (houtlives.reachable ht₁).lineage fd' addr'
  orphans env fd now slot parent hget hlistens := coreClose_no_child hget hlistens
  adopted env fd now slot parent hget hlistens i s hs hi hp := by
    apply coreClose_other hget hlistens hs hi
    rw [childOf, beq_eq_false_iff_ne.mpr hp, Bool.and_false]

def listenerRun : List SocketEvent :=
  [.socket 2 1 0, .assignOwner 1 5, .bind 1 (some ⟨0, 80⟩), .listen 1 4,
    .segment 0x0200000a 0x0100000a ⟨4000, 80, 50, 0, synFlag, 1000, []⟩ [] 7 100,
    .segment 0x0200000a 0x0100000a ⟨4000, 80, 51, 8, ackFlag, 1000, []⟩ [] 0 101,
    .accept 1,
    .segment 0x0300000a 0x0100000a ⟨4000, 80, 50, 0, synFlag, 1000, []⟩ [] 7 102]

theorem listenerRun_lifecycle : ListenerLifecycle (socketRun steadyEnv (socketSubsystemInit 4) listenerRun) ∧
    (socketRun steadyEnv (socketSubsystemInit 4) listenerRun).entries.countP (childOf 1) = 1 := by
  refine ⟨listener_lifecycle ((Reachable.init 4 (by decide)).run steadyEnv listenerRun ?_), by decide⟩
  refine ⟨trivial, fun i s h => ?_, trivial, trivial, trivial, trivial, trivial, trivial, trivial⟩
  have hg : socketLookup (socketRun steadyEnv (socketSubsystemInit 4) (listenerRun.take 1)) 1 = some (0,
      { fd := 1, allocated := true, isOpen := true, type := .stream }) := by decide
  obtain ⟨rfl, rfl⟩ := Prod.mk.inj (Option.some.inj (hg.symm.trans h))
  rfl

end PulsarNetstack
