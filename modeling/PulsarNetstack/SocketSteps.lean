import PulsarNetstack.IndexedLists
import PulsarNetstack.SocketCalls
import PulsarNetstack.TcpCases

namespace PulsarNetstack

variable {env : TcpEnv} {t : SocketTable} {now : ℕ}

def SocketEvent.time : SocketEvent → ℕ
  | .connect _ _ _ now | .send _ _ now | .close _ now | .segment _ _ _ _ _ now | .tick now => now
  | _ => 0

inductive EntryStep (env : TcpEnv) (now : ℕ) : SocketEntry → SocketEntry → Prop
  | frame {s s' : SocketEntry} (ht : s'.tcp = s.tcp) (ho : s'.isOpen = s.isOpen)
      (ha : s'.allocated = s.allocated) (hk : s'.type = s.type) (he : s'.error = s.error) : EntryStep env now s s'
  | clear (s : SocketEntry) : EntryStep env now s {}
  | allocate {s : SocketEntry} (ha : s.allocated = false) (fd : ℕ) (type : SockType) :
      EntryStep env now s { fd := fd, allocated := true, isOpen := true, type := type }
  | connect {s : SocketEntry} (ha : s.allocated = true) (hk : s.type = .stream) (ho : s.isOpen = true)
      (he : s.error = none) (hs : s.tcp.state = .closed) (localAddr addr : SockAddr) (source seed : Word) :
      EntryStep env now s (connectEntry env { s with localAddr := localAddr } addr source seed now)
  | listen {s : SocketEntry} (ha : s.allocated = true) (hk : s.type = .stream) (ho : s.isOpen = true)
      (backlog : ℤ) : EntryStep env now s (tcpListen s backlog).1
  | accept {s : SocketEntry} (fd : ℕ) (hf : 0 < fd) (h : acceptable fd s = true) : EntryStep env now s (acceptEntry s)
  | send {s : SocketEntry} (ha : s.allocated = true) (hk : s.type = .stream) (ho : s.isOpen = true)
      (data : List Byte) : EntryStep env now s (tcpSend env s data now).1
  | recv {s : SocketEntry} (ha : s.allocated = true) (hk : s.type = .stream) (ho : s.isOpen = true)
      (length : ℕ) : EntryStep env now s (tcpRecv s length).1
  | close {s : SocketEntry} (ha : s.allocated = true) (hk : s.type = .stream) (ho : s.isOpen = true)
      (hs : s.tcp.state ≠ .listen) : EntryStep env now s (closeEntry env s now).1
  | fail (s : SocketEntry) (e : Errno) : EntryStep env now s (tcpFail s (some e)).1
  | input {s : SocketEntry} (hk : s.type = .stream) (ha : s.allocated = true) (hc : s.tcp.state ≠ .closed)
      (hl : s.tcp.state ≠ .listen) (localAddr remoteAddr : SockAddr) (seg : Segment) (hm : 0 < seg.mss) :
      EntryStep env now s (tcpInputConnection env s localAddr remoteAddr seg now).entry
  | child {s : SocketEntry} (ha : s.allocated = false) (fd : ℕ) (parent : SocketEntry)
      (localAddr remoteAddr : SockAddr) (seg : Segment) (hm : 0 < seg.mss) (seed : Word) :
      EntryStep env now s (childEntry env { fd := fd, allocated := true, isOpen := true, type := .stream }
        parent localAddr remoteAddr seg seed now)
  | tick {s : SocketEntry} (ha : s.allocated = true) (hk : s.type = .stream) :
      EntryStep env now s (tcpTickEntry env s now).1

theorem EntryStep.refl (s : SocketEntry) : EntryStep env now s s := .frame rfl rfl rfl rfl rfl

theorem socketLookup_some {fd : ℤ} {slot : ℕ} {s : SocketEntry} (h : socketLookup t fd = some (slot, s)) :
    t.entries[slot]? = some s ∧ s.allocated = true ∧ 0 < s.fd ∧ (s.fd : ℤ) = fd := by
  unfold socketLookup at h
  dsimp only at h
  split at h
  · simp at h
  rename_i hpos
  split at h
  · simp at h
  rename_i s' hs'
  split at h
  · rename_i hc
    simp only [Option.some.injEq, Prod.mk.injEq] at h
    obtain ⟨rfl, rfl⟩ := h
    exact ⟨hs', hc.1, by omega, hc.2⟩
  · simp at h

theorem getSocket_some {fd : ℤ} {slot : ℕ} {s : SocketEntry} (h : getSocket t fd = some (slot, s)) :
    t.entries[slot]? = some s ∧ s.allocated = true ∧ s.isOpen = true ∧ 0 < s.fd ∧ (s.fd : ℤ) = fd := by
  obtain ⟨hl, ho⟩ := Option.filter_eq_some_iff.mp h
  obtain ⟨hs, ha, hf⟩ := socketLookup_some hl
  exact ⟨hs, ha, ho, hf⟩

theorem socketBound_some {type : SockType} {ip : Word} {port : Word16} {slot : ℕ}
    (h : socketBound t type ip port = some slot) : ∃ s, t.entries[slot]? = some s ∧ t.entries.getD slot {} = s := by
  unfold socketBound at h
  split at h
  · simp at h
  · obtain ⟨s, hs, -⟩ := List.getElem?_of_findIdx? h
    exact ⟨s, hs, by rw [List.getD_eq_getElem?_getD, hs]; rfl⟩

theorem socketAllocate_some {type : SockType} {t' : SocketTable} {slot : ℕ} {s : SocketEntry}
    (h : socketAllocate t type = some (t', slot, s)) :
    ∃ old fd, t.entries[slot]? = some old ∧ old.allocated = false ∧ t'.entries = t.entries.set slot s ∧
      t'.nextPort = t.nextPort ∧ s = { fd := fd, allocated := true, isOpen := true, type := type } := by
  unfold socketAllocate at h
  split at h
  · simp at h
  · rename_i i hi
    obtain ⟨old, ho, hn⟩ := List.getElem?_of_findIdx? hi
    simp only [Option.some.injEq, Prod.mk.injEq] at h
    obtain ⟨rfl, rfl, rfl⟩ := h
    exact ⟨old, _, ho, by simpa using hn, rfl, rfl, rfl⟩

theorem ephemeralPort_available (t : SocketTable) (slot : ℕ) (type : SockType) (ip : Word) (fuel : ℕ)
    (next : Word16) (h : (ephemeralPort t slot type ip fuel next).1 ≠ 0) :
    portAvailable t slot type ⟨ip, (ephemeralPort t slot type ip fuel next).1⟩ = true := by
  induction fuel generalizing next with
  | zero => simp [ephemeralPort] at h
  | succ fuel ih =>
    unfold ephemeralPort at h ⊢
    split
    · assumption
    · rename_i hn
      rw [if_neg hn] at h
      exact ih _ h

inductive Bound (t : SocketTable) (slot : ℕ) (s : SocketEntry) : SocketTable × Except Errno SocketEntry → Prop
  | failed (t' : SocketTable) (e : Errno) (he : t'.entries = t.entries) : Bound t slot s (t', .error e)
  | bound (t' : SocketTable) (addr : SockAddr) (hu : s.localAddr.port = 0) (hp : addr.port ≠ 0)
      (ha : portAvailable t slot s.type addr = true)
      (he : t'.entries = t.entries.set slot { s with localAddr := addr }) :
      Bound t slot s (t', .ok { s with localAddr := addr })

theorem socketBind_cases (env : TcpEnv) (t : SocketTable) (slot : ℕ) (s : SocketEntry) (addr : SockAddr) :
    Bound t slot s (socketBind env t slot s addr) := by
  unfold socketBind
  split
  · exact .failed _ _ rfl
  rename_i hu
  split
  · exact .failed _ _ rfl
  split
  · dsimp only
    split
    · exact .failed _ _ rfl
    · rename_i hp
      exact .bound _ _ (not_not.mp hu) hp (ephemeralPort_available t slot s.type addr.ip _ _ hp) rfl
  · rename_i hp
    split
    · rename_i ha
      exact .bound _ _ (not_not.mp hu) hp ha rfl
    · exact .failed _ _ rfl

def Settled (t : SocketTable) (slot : ℕ) (s : SocketEntry) (addr : SockAddr) : Prop :=
  addr.port ≠ 0 ∧ (addr = s.localAddr ∨ s.localAddr.port = 0 ∧ portAvailable t slot s.type addr = true)

inductive Ensured (t : SocketTable) (slot : ℕ) (s : SocketEntry) : SocketTable × Except Errno SocketEntry → Prop
  | failed (t' : SocketTable) (e : Errno) (he : t'.entries = t.entries) : Ensured t slot s (t', .error e)
  | bound (t' : SocketTable) (addr : SockAddr) (ha : Settled t slot s addr)
      (he : ∀ x, t'.entries.set slot x = t.entries.set slot x)
      (hs : t.entries[slot]? = some s → t'.entries = t.entries.set slot { s with localAddr := addr }) :
      Ensured t slot s (t', .ok { s with localAddr := addr })

theorem ensureBound_cases (env : TcpEnv) (t : SocketTable) (slot : ℕ) (s : SocketEntry) :
    Ensured t slot s (ensureBound env t slot s) := by
  unfold ensureBound
  split
  · generalize hr : socketBind env t slot s {} = r
    cases hr ▸ socketBind_cases env t slot s {} with
    | failed t' e he => exact .failed t' e he
    | bound t' addr hu hp ha he =>
      exact .bound t' addr ⟨hp, .inr ⟨hu, ha⟩⟩ (fun x => by rw [he, List.set_set]) (fun _ => he)
  · rename_i hp
    exact .bound t s.localAddr ⟨hp, .inl rfl⟩ (fun _ => rfl) (fun hs => (List.set_getElem?_eq_self hs).symm)

theorem tcpOptions_pos {syn : Bool} {skip mss m : ℕ} {options : List Byte} (hm : 0 < mss)
    (h : tcpOptions syn skip mss options = some m) : 0 < m := by
  induction options generalizing skip mss with
  | nil => simp only [tcpOptions, Option.some.injEq] at h; omega
  | cons kind rest ih =>
    cases skip with
    | succ skip => exact ih hm (by simpa [tcpOptions] using h)
    | zero =>
      unfold tcpOptions at h
      split at h
      · simp only [Option.some.injEq] at h; omega
      split at h
      · exact ih hm h
      split at h
      · simp at h
      · split at h
        · simp at h
        · refine ih ?_ h
          split
          · rename_i hv
            exact Nat.pos_of_ne_zero hv.2.2
          · exact hm

abbrev TableStep (env : TcpEnv) (now : ℕ) (t t' : SocketTable) : Prop :=
  List.Forall₂ (EntryStep env now) t.entries t'.entries

theorem TableStep.of_eq {t t' : SocketTable} (h : t'.entries = t.entries) : TableStep env now t t' := by
  unfold TableStep
  rw [h]
  exact List.forall₂_refl_of EntryStep.refl _

theorem TableStep.of_set {t t' : SocketTable} {slot : ℕ} {s s' : SocketEntry}
    (hs : t.entries[slot]? = some s) (he : t'.entries = t.entries.set slot s')
    (h : EntryStep env now s s') : TableStep env now t t' := by
  unfold TableStep
  rw [he]
  exact List.forall₂_set EntryStep.refl hs h

theorem bind_tableStep {slot : ℕ} {s : SocketEntry} (hs : t.entries[slot]? = some s) (addr : SockAddr) :
    TableStep env now t (socketBind env t slot s addr).1 := by
  generalize hr : socketBind env t slot s addr = r
  cases hr ▸ socketBind_cases env t slot s addr with
  | failed t' e he => exact .of_eq he
  | bound t' addr hu hp ha he => exact .of_set hs he (.frame rfl rfl rfl rfl rfl)

theorem coreConnect_tableStep (fd : ℤ) (addr : Option SockAddr) (seed : Word) :
    TableStep env now t (coreConnect env t fd addr seed now).1 := by
  unfold coreConnect
  split
  · exact .of_eq rfl
  rename_i slot s hg
  obtain ⟨hs, ha, ho, -⟩ := getSocket_some hg
  split
  · exact .of_eq rfl
  rename_i addr
  split
  · exact .of_eq rfl
  split
  · rename_i hk
    unfold tcpConnect
    split
    · exact .of_eq rfl
    rename_i he
    split
    · exact .of_eq rfl
    · exact .of_eq rfl
    · exact .of_eq rfl
    · rename_i hc
      dsimp only
      split
      · exact .of_eq rfl
      generalize hr : ensureBound env t slot s = r
      cases hr ▸ ensureBound_cases env t slot s with
      | failed t' e he => exact .of_eq he
      | bound t' la _ he' _ =>
        exact .of_set hs (he' _) (.connect ha hk ho he hc la addr (env.routeQuery addr.ip s.localAddr.ip).2.sourceIp seed)
    · exact .of_eq rfl
  · generalize hr : ensureBound env t slot s = r
    cases hr ▸ ensureBound_cases env t slot s with
    | failed t' e he => exact .of_eq he
    | bound t' la _ he' _ =>
      exact .of_set hs (he' { s with localAddr := la, remoteAddr := addr }) (.frame rfl rfl rfl rfl rfl)

theorem closeChild_entryStep (fd : ℕ) (s : SocketEntry) : EntryStep env now s (closeChild fd s).1 := by
  unfold closeChild
  split
  · exact .fail s _
  · exact .refl s

theorem coreClose_tableStep (fd : ℤ) : TableStep env now t (coreClose env t fd now).1 := by
  unfold coreClose
  split
  · exact .of_eq rfl
  rename_i slot s hg
  obtain ⟨hs, ha, ho, -⟩ := getSocket_some hg
  split
  · rename_i hk
    unfold tcpClose
    dsimp only
    split
    · -- the listener's own slot is cleared, so what the loop made of it does not matter
      have hmap : (((t.set slot { s with isOpen := false }).entries.map (closeChild s.fd)).map Prod.fst).set slot {} =
          (t.entries.map (fun s' => (closeChild s.fd s').1)).set slot {} := by
        simp only [SocketTable.set, List.map_set, List.map_map, List.set_set, Function.comp_def]
      unfold TableStep
      dsimp only
      rw [hmap]
      exact (List.forall₂_map_right_of (closeChild_entryStep s.fd) t.entries).set_right slot .clear
    · rename_i hl
      exact .of_set hs rfl (.close ha hk ho hl)
  · exact .of_set hs rfl (.clear s)

theorem tcpInput_tableStep (localAddr remoteAddr : SockAddr) (seg : Segment) (hm : 0 < seg.mss) (seed : Word) :
    TableStep env now t (tcpInput env t localAddr remoteAddr seg seed now).1 := by
  unfold tcpInput
  split
  · exact .of_eq rfl
  split
  · rename_i slot hc
    obtain ⟨s, hs, hp⟩ := List.getElem?_of_findIdx? hc
    simp only [connectionMatch, Bool.and_eq_true, beq_iff_eq, bne_iff_ne] at hp
    obtain ⟨⟨⟨⟨⟨ha, hk⟩, hc⟩, hl⟩, -⟩, -⟩ := hp
    have hd : t.entries.getD slot {} = s := by rw [List.getD_eq_getElem?_getD, hs]; rfl
    dsimp only
    rw [hd]
    exact .of_set hs rfl (.input hk ha hc hl localAddr remoteAddr seg hm)
  · split
    · rename_i i hi
      split
      · unfold passiveOpen
        dsimp only
        split
        · exact .of_eq rfl
        split
        · exact .of_eq rfl
        rename_i t' slot s h
        obtain ⟨old, fd, ho, hn, he, -, rfl⟩ := socketAllocate_some h
        refine .of_set ho ?_ (.child hn fd (t.entries.getD i {}) localAddr remoteAddr seg hm seed)
        simp only [SocketTable.set, he, List.set_set]
      · exact .of_eq rfl
    · exact .of_eq rfl

theorem tcpInputSegment_tableStep (srcIp dstIp : Word) (hdr : TcpHeader) (payload : List Byte) (seed : Word) :
    TableStep env now t (tcpInputSegment env t srcIp dstIp hdr payload seed now).1 := by
  unfold tcpInputSegment
  split
  · exact .of_eq rfl
  split
  · exact .of_eq rfl
  · rename_i mss hm
    exact tcpInput_tableStep _ _ _ (tcpOptions_pos (by decide) hm) seed

theorem tcpTick_tableStep : TableStep env now t (tcpTick env t now).1 := by
  have h : ∀ s, EntryStep env now s (tickSlot env now s).1 := by
    intro s
    unfold tickSlot
    split
    · rename_i h
      exact .tick h.1 h.2
    · exact .refl s
  unfold TableStep tcpTick
  dsimp only
  rw [List.map_map]
  exact List.forall₂_map_right_of h t.entries

theorem coreAccept_tableStep (fd : ℤ) : TableStep env now t (coreAccept t fd).1 := by
  unfold coreAccept
  split
  · exact .of_eq rfl
  rename_i slot s hg
  obtain ⟨-, -, -, hf, -⟩ := getSocket_some hg
  split
  · exact .of_eq rfl
  unfold tcpAccept
  split
  · exact .of_eq rfl
  split
  · exact .of_eq rfl
  · rename_i i hi
    obtain ⟨child, hs, hp⟩ := List.getElem?_of_findIdx? hi
    have hd : t.entries.getD i {} = child := by rw [List.getD_eq_getElem?_getD, hs]; rfl
    dsimp only
    rw [hd]
    exact .of_set hs rfl (.accept _ hf hp)

theorem coreSendtoBind_tableStep (fd : ℤ) (hasBuffer : Bool) (length : ℕ) (dst : Option SockAddr) :
    TableStep env now t (coreSendtoBind env t fd hasBuffer length dst).1 := by
  unfold coreSendtoBind
  split
  · exact .of_eq rfl
  rename_i slot s hg
  obtain ⟨hs, -⟩ := getSocket_some hg
  split
  · exact .of_eq rfl
  split
  · exact .of_eq rfl
  split
  · exact .of_eq rfl
  · dsimp only
    generalize hr : ensureBound env t slot s = r
    cases hr ▸ ensureBound_cases env t slot s with
    | failed t' e he => exact .of_eq he
    | bound t' la _ _ he' => exact .of_set hs (he' hs) (.frame rfl rfl rfl rfl rfl)

theorem coreRecvfrom_tableStep (fd : ℤ) (hasBuffer : Bool) (length : ℕ) :
    TableStep env now t (coreRecvfrom t fd hasBuffer length).1 := by
  unfold coreRecvfrom
  split
  · exact .of_eq rfl
  rename_i slot s hg
  obtain ⟨hs, -⟩ := getSocket_some hg
  split
  · exact .of_eq rfl
  split
  · exact .of_eq rfl
  · exact .of_set hs rfl (.frame rfl rfl rfl rfl rfl)

theorem udpDeliver_tableStep (localIp : Word) (port : Word16) (source : SockAddr) (payload : List Byte) :
    TableStep env now t (udpDeliver t localIp port source payload).1 := by
  unfold udpDeliver
  split
  · exact .of_eq rfl
  rename_i slot hb
  obtain ⟨s, hs, hd⟩ := socketBound_some hb
  dsimp only
  rw [hd]
  split
  · exact .of_eq rfl
  split
  · exact .of_eq rfl
  split
  · exact .of_eq rfl
  · exact .of_set hs rfl (.frame rfl rfl rfl rfl rfl)

theorem coreSocket_tableStep (domain type protocol : ℤ) :
    TableStep env now t (coreSocket env t domain type protocol).1 := by
  unfold coreSocket
  generalize (if type = 2 then (17 : ℤ) else 6) = expected
  generalize (if type = 2 then SockType.dgram else SockType.stream) = kind
  split
  · exact .of_eq rfl
  split
  · exact .of_eq rfl
  split
  · exact .of_eq rfl
  split
  · exact .of_eq rfl
  split
  · exact .of_eq rfl
  split
  · exact .of_eq rfl
  · rename_i h
    obtain ⟨old, fd, ho, hn, he, -, rfl⟩ := socketAllocate_some h
    exact .of_set ho he (.allocate hn fd kind)

theorem assignOwner_tableStep (fd : ℤ) (owner : ℕ) : TableStep env now t (assignOwner t fd owner) := by
  unfold assignOwner
  split
  · exact .of_eq rfl
  · rename_i slot s h
    exact .of_set (socketLookup_some h).1 rfl (.frame rfl rfl rfl rfl rfl)

theorem coreBind_tableStep (fd : ℤ) (addr : Option SockAddr) : TableStep env now t (coreBind env t fd addr).1 := by
  unfold coreBind
  split
  · exact .of_eq rfl
  rename_i slot s hg
  split
  · exact .of_eq rfl
  · exact bind_tableStep (getSocket_some hg).1 _

theorem coreListen_tableStep (fd backlog : ℤ) : TableStep env now t (coreListen t fd backlog).1 := by
  unfold coreListen
  split
  · exact .of_eq rfl
  rename_i slot s hg
  obtain ⟨hs, ha, ho, -⟩ := getSocket_some hg
  split
  · exact .of_eq rfl
  · rename_i hk
    exact .of_set hs rfl (.listen ha (not_not.mp hk) ho _)

theorem coreSend_tableStep (fd : ℤ) (data : List Byte) : TableStep env now t (coreSend env t fd data now).1 := by
  unfold coreSend
  split
  · exact .of_eq rfl
  rename_i slot s hg
  obtain ⟨hs, ha, ho, -⟩ := getSocket_some hg
  split
  · rename_i hk
    exact .of_set hs rfl (.send ha hk ho data)
  split
  · exact .of_eq rfl
  · exact coreSendtoBind_tableStep _ _ _ _

theorem coreRecv_tableStep (fd : ℤ) (length : ℕ) : TableStep env now t (coreRecv t fd length).1 := by
  unfold coreRecv
  split
  · exact .of_eq rfl
  rename_i slot s hg
  obtain ⟨hs, ha, ho, -⟩ := getSocket_some hg
  split
  · rename_i hk
    exact .of_set hs rfl (.recv ha hk ho length)
  · exact coreRecvfrom_tableStep _ _ _

theorem socketStep_tableStep (env : TcpEnv) (t : SocketTable) (event : SocketEvent) :
    TableStep env event.time t (socketStep env t event).1 := by
  cases event with
  | socket domain type protocol => exact coreSocket_tableStep domain type protocol
  | assignOwner fd owner => exact assignOwner_tableStep fd owner
  | bind fd addr => exact coreBind_tableStep fd addr
  | connect fd addr seed now => exact coreConnect_tableStep fd addr seed
  | listen fd backlog => exact coreListen_tableStep fd backlog
  | accept fd => exact coreAccept_tableStep fd
  | send fd data now => exact coreSend_tableStep fd data
  | recv fd length => exact coreRecv_tableStep fd length
  | sendto fd hasBuffer length dst => exact coreSendtoBind_tableStep fd hasBuffer length dst
  | recvfrom fd hasBuffer length => exact coreRecvfrom_tableStep fd hasBuffer length
  | close fd now => exact coreClose_tableStep fd
  | segment srcIp dstIp hdr payload seed now => exact tcpInputSegment_tableStep srcIp dstIp hdr payload seed
  | datagram localIp port source payload => exact udpDeliver_tableStep localIp port source payload
  | tick now => exact tcpTick_tableStep

theorem Reachable.forall_entries {admissible : TcpEnv → SocketTable → SocketEvent → Prop}
    {P : SocketEntry → Prop} (h0 : P {})
    (hstep : ∀ env t event s s', admissible env t event → EntryStep env event.time s s' → P s → P s')
    {t : SocketTable} (ht : Reachable admissible t) : ∀ s ∈ t.entries, P s := by
  induction ht with
  | init capacity _ =>
    intro s hs
    rw [List.eq_of_mem_replicate hs]
    exact h0
  | step env event _ he ih =>
    intro s' hs'
    obtain ⟨s, hs, hss⟩ := (socketStep_tableStep env _ event).mem_right hs'
    exact hstep env _ event s s' he hss (ih s hs)

end PulsarNetstack
