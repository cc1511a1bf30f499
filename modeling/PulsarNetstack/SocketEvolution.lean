import PulsarNetstack.Demultiplexing

namespace PulsarNetstack

variable {env : TcpEnv} {s s' : SocketEntry} {seg : Segment} {now : ℕ} {t t' : SocketTable} {slot : ℕ} {event : SocketEvent}

def Dormant (s : SocketEntry) : Prop :=
  s.tcp.state = .closed ∨ s.tcp.state = .listen → s.tcp.deadline = 0 ∧ s.tcp.expires = 0

theorem Dormant.of_state (hc : s.tcp.state ≠ .closed) (hl : s.tcp.state ≠ .listen) : Dormant s :=
  fun h => (h.elim hc hl).elim

theorem Dormant.of_tcp (h : s.tcp = {}) : Dormant s := by
  intro _
  rw [h]
  exact ⟨rfl, rfl⟩

inductive Processed (s s' : SocketEntry) : Prop
  | freed (entry : s' = {}) (not_open : s.isOpen = false)
  | kept (fd : s'.fd = s.fd) (allocated : s'.allocated = s.allocated) (isOpen : s'.isOpen = s.isOpen)
      (type : s'.type = s.type) (owner : s'.owner = s.owner) (localAddr : s'.localAddr = s.localAddr)
      (parent : s'.tcp.parent = s.tcp.parent ∨ s.isOpen = true ∧ s'.tcp.parent = 0)
      (listen : s'.tcp.state = .listen ↔ s.tcp.state = .listen) (dormant : Dormant s → Dormant s')

namespace Processed

theorem refl (s : SocketEntry) : Processed s s :=
  .kept rfl rfl rfl rfl rfl rfl (.inl rfl) Iff.rfl id

theorem trans {s'' : SocketEntry} (h : Processed s s') (h' : Processed s' s'') (ha : s'.allocated = true) :
    Processed s s'' := by
  cases h with
  | freed entry => rw [entry] at ha; cases ha
  | kept fd allocated isOpen type owner localAddr parent listen dormant =>
    cases h' with
    | freed entry' not_open' => exact .freed entry' (isOpen.symm.trans not_open')
    | kept fd' allocated' isOpen' type' owner' localAddr' parent' listen' dormant' =>
      refine .kept (fd'.trans fd) (allocated'.trans allocated) (isOpen'.trans isOpen) (type'.trans type)
        (owner'.trans owner) (localAddr'.trans localAddr) ?_ (listen'.trans listen) fun hd => dormant' (dormant hd)
      rcases parent' with hp' | ⟨ho', hp'⟩
      · rw [hp']
        exact parent
      · exact .inr ⟨isOpen.symm.trans ho', hp'⟩

theorem of_live {c : TcpConnection} (hparent : c.parent = s.tcp.parent) (hlisten : s.tcp.state ≠ .listen)
    (hc : c.state ≠ .closed) (hl : c.state ≠ .listen) : Processed s { s with tcp := c } :=
  .kept rfl rfl rfl rfl rfl rfl (.inl hparent) (iff_of_false hl hlisten) fun _ => .of_state hc hl

theorem of_state {c : TcpConnection} (hparent : c.parent = s.tcp.parent) (hstate : c.state = s.tcp.state)
    (hdormant : Dormant s → Dormant { s with tcp := c }) : Processed s { s with tcp := c } := by
  refine .kept rfl rfl rfl rfl rfl rfl (.inl hparent) ?_ hdormant
  change c.state = .listen ↔ _
  rw [hstate]

theorem failed (hlisten : s.tcp.state ≠ .listen) (e : Option Errno) : Processed s (tcpFail s e).1 := by
  rw [tcpFail_entry]
  split
  · rename_i ho
    exact .kept rfl rfl rfl rfl rfl rfl (.inr ⟨ho, rfl⟩) (iff_of_false nofun hlisten) fun _ => .of_tcp rfl
  · rename_i ho
    exact .freed rfl (eq_false_of_ne_true ho)

theorem kick (env : TcpEnv) (s : SocketEntry) (now : ℕ) : Processed s (tcpKick env s now).1 := by
  have hstreaming {state : TcpState} (h : Streaming state) : state ≠ .closed ∧ state ≠ .listen := by
    rcases h with rfl | rfl <;> decide
  generalize hr : tcpKick env s now = r
  cases hr ▸ tcpKick_cases env s now with
  | blocked | waiting | empty => exact refl s
  | probe hf hs => exact of_live rfl (hstreaming hs).2 (hstreaming hs).1 (hstreaming hs).2
  | failed hf hs e => exact failed (hstreaming hs).2 _
  | data hf hs hw ht mtu hm s' he =>
    subst he
    exact of_live rfl (hstreaming hs).2 (hstreaming hs).1 (hstreaming hs).2
  | fin hf hs ht hc s' he =>
    have hfin : finState s.tcp.state ≠ .closed ∧ finState s.tcp.state ≠ .listen := by
      rcases hs with hs | hs <;> rw [hs] <;> decide
    subst he
    exact of_live rfl (hstreaming hs).2 hfin.1 hfin.2

theorem of_connection {c : TcpConnection} (h : Processed { s with tcp := c } s') (hparent : c.parent = s.tcp.parent)
    (hlisten : c.state = .listen ↔ s.tcp.state = .listen) (hdormant : Dormant s → Dormant { s with tcp := c }) :
    Processed s s' := by
  cases h with
  | freed entry not_open => exact .freed entry not_open
  | kept fd allocated isOpen type owner localAddr parent listen dormant =>
    refine .kept fd allocated isOpen type owner localAddr (parent.imp_left fun h => h.trans hparent)
      (listen.trans hlisten) fun hd => dormant (hdormant hd)

theorem acknowledge (hc : s.tcp.state ≠ .closed) (hl : s.tcp.state ≠ .listen) (ack : Word) :
    Processed s (acknowledge env s ack now).1 := by
  generalize hr : PulsarNetstack.acknowledge env s ack now = r
  cases hr ▸ acknowledge_cases env s ack now with
  | duplicate => exact refl s
  | advanced | completed => exact of_live rfl hl hc hl
  | lastAck => exact (failed hl none).of_connection rfl Iff.rfl fun _ => .of_state hc hl
  | timeWait => exact of_live rfl hl nofun nofun
  | finWait2 => exact of_live rfl hl nofun nofun

theorem receiveSegment_parent (env : TcpEnv) (c : TcpConnection) (seg : Segment) (now : ℕ) :
    (receiveSegment env (updateWindow c seg) seg now).parent = c.parent := by
  have hw : (updateWindow c seg).parent = c.parent := by
    unfold updateWindow
    split <;> rfl
  have hp : (receivePayload (updateWindow c seg) seg).parent = c.parent := by
    rw [← hw]
    unfold receivePayload
    split <;> rfl
  unfold receiveSegment
  split
  · exact hp
  · rw [← hp]
    unfold receiveFin
    split
    · dsimp only
      split
      · rfl
      split <;> rfl
    · rfl

theorem receive (hc : s.tcp.state ≠ .closed) (hl : s.tcp.state ≠ .listen) :
    Processed s { s with tcp := receiveSegment env (updateWindow s.tcp seg) seg now } := by
  have hparent := receiveSegment_parent env s.tcp seg now
  have hst : (receivePayload (updateWindow s.tcp seg) seg).state = s.tcp.state := by
    rw [receivePayload_state, updateWindow_state]
  apply of_live hparent hl
  all_goals
    unfold receiveSegment
    split
    · rwa [hst]
    · rcases Quiet.receiveFin_state env (receivePayload (updateWindow s.tcp seg) seg) seg now with h | h | h
      · rwa [h, hst]
      · rw [h]; nofun
      · rw [h]; nofun

theorem inputAccepted (hc : s.tcp.state ≠ .closed) (hl : s.tcp.state ≠ .listen) :
    Processed s (tcpInputAccepted env s seg now).entry := by
  have ha : Processed s (PulsarNetstack.acknowledge env s seg.ack now).1 := acknowledge hc hl seg.ack
  rcases tcpInputAccepted_entry env s seg now _ rfl with ⟨-, he⟩ | ⟨hallocated, hd, he⟩
  · rw [he]
    exact ha
  · have hlisten : (PulsarNetstack.acknowledge env s seg.ack now).1.tcp.state ≠ .listen := by
      cases ha with
      | freed entry => rw [entry] at hd; exact absurd rfl hd
      | kept fd allocated isOpen type owner localAddr parent listen dormant => exact fun h => hl (listen.mp h)
    rw [he]
    refine ha.trans ?_ hallocated
    exact (receive hd hlisten).trans (kick _ _ _) hallocated

theorem input (hc : s.tcp.state ≠ .closed) (hl : s.tcp.state ≠ .listen) (localAddr remoteAddr : SockAddr) :
    Processed s (tcpInputConnection env s localAddr remoteAddr seg now).entry := by
  generalize hr : tcpInputConnection env s localAddr remoteAddr seg now = r
  cases hr ▸ tcpInputConnection_cases env s localAddr remoteAddr seg now with
  | keep => exact refl s
  | failed e => exact failed hl _
  | established hs ha hf s' he =>
    subst he
    exact of_live rfl hl nofun nofun
  | timeWait => exact of_live rfl hl nofun nofun
  | accepted => exact inputAccepted hc hl
  | opened hs hseq hack hroom s₀ h₀ =>
    have hstate : s₀.tcp.state = .established := by rw [h₀]
    have h : Processed s₀ (tcpInputAccepted env s₀ seg now).entry :=
      inputAccepted (by rw [hstate]; nofun) (by rw [hstate]; nofun)
    subst h₀
    exact h.of_connection rfl (iff_of_false nofun hl) fun _ => .of_state nofun nofun

theorem send (env : TcpEnv) (s : SocketEntry) (data : List Byte) (now : ℕ) : Processed s (tcpSend env s data now).1 := by
  generalize hr : tcpSend env s data now = r
  cases hr ▸ tcpSend_cases env s data now with
  | unchanged => exact refl s
  | queued hs he n hn s₁ h₁ =>
    subst h₁
    exact (kick _ _ _).of_connection rfl Iff.rfl id

theorem recv (s : SocketEntry) (length : ℕ) : Processed s (tcpRecv s length).1 := by
  generalize hr : tcpRecv s length = r
  cases hr ▸ tcpRecv_cases s length with
  | refused | nothing => exact refl s
  | data hl hr n hn s' he =>
    subst he
    exact of_state rfl rfl id

theorem tickEntry_idle (hdeadline : s.tcp.deadline = 0) (hexpires : s.tcp.expires = 0) :
    tcpTickEntry env s now = (s, []) := by
  unfold tcpTickEntry
  dsimp only
  rw [if_neg (not_and_of_not_left _ (not_not.mpr hexpires)), if_pos (.inl hdeadline)]

theorem tick (hd : Dormant s) : Processed s (tcpTickEntry env s now).1 := by
  by_cases hidle : s.tcp.state = .closed ∨ s.tcp.state = .listen
  · rw [tickEntry_idle (hd hidle).1 (hd hidle).2]
    exact refl s
  obtain ⟨hc, hl⟩ := not_or.mp hidle
  generalize hr : tcpTickEntry env s now = r
  cases hr ▸ tcpTickEntry_cases env s now with
  | waiting => exact refl s
  | failed => exact failed hl _
  | resent | probed | cleared => exact of_live rfl hl hc hl

theorem close (hl : s.tcp.state ≠ .listen) : Processed { s with isOpen := false } (closeEntry env s now).1 := by
  have hfail : Processed { s with isOpen := false } (tcpFail { s with isOpen := false } (some .econnaborted)).1 :=
    failed (s := { s with isOpen := false }) hl _
  unfold closeEntry
  dsimp only
  split
  · exact hfail
  · exact (kick _ _ _).of_connection rfl Iff.rfl id

end Processed

inductive Called (env : TcpEnv) (s : SocketEntry) : SocketEvent → SocketEntry → Prop
  | bound {event : SocketEvent} (addr remote : SockAddr)
      (ip : addr.ip = 0 ∨ env.isLocalIp addr.ip = true ∨ addr = s.localAddr) :
      Called env s event { s with localAddr := addr, remoteAddr := remote }
  | connected (fd : ℤ) (addr : SockAddr) (seed : Word) (now : ℕ) (state : s.tcp.state = .closed) (localAddr : SockAddr)
      (ip : localAddr.ip = 0 ∨ localAddr = s.localAddr) (route : RouteResult)
      (query : env.routeQuery addr.ip s.localAddr.ip = (.none, route)) :
      Called env s (.connect fd (some addr) seed now)
        (connectEntry env { s with localAddr := localAddr } addr route.sourceIp seed now)
  | listening (fd backlog : ℤ) (bound : ℤ) (type : s.type = .stream) : Called env s (.listen fd backlog) (tcpListen s bound).1
  | processed {event : SocketEvent} {s' : SocketEntry} (step : Processed s s') : Called env s event s'
  | udp {event : SocketEvent} (ep : UdpEndpoint) : Called env s event { s with udp := ep }
  | closing (fd : ℤ) (now : ℕ) {s' : SocketEntry} (state : s.tcp.state ≠ .listen)
      (step : Processed { s with isOpen := false } s') : Called env s (.close fd now) s'
  | cleared (fd : ℤ) (now : ℕ) (type : s.type = .stream → s.tcp.state = .listen) : Called env s (.close fd now) {}

def SocketEvent.fd : SocketEvent → Option ℤ
  | .bind fd _ | .connect fd _ _ _ | .listen fd _ | .accept fd | .send fd _ _ | .recv fd _ | .sendto fd _ _ _
  | .recvfrom fd _ _ | .close fd _ => some fd
  | .socket .. | .assignOwner .. | .segment .. | .datagram .. | .tick _ => none

inductive Evolves (env : TcpEnv) (t : SocketTable) (i : ℕ) (s : SocketEntry) : SocketEvent → SocketEntry → Prop
  | same {event : SocketEvent} : Evolves env t i s event s
  | created (domain type protocol : ℤ) (free : s.allocated = false) (generation : ℕ) (kind : SockType) :
      Evolves env t i s (.socket domain type protocol)
        { fd := generation * psSocketMax + i + 1, allocated := true, isOpen := true, type := kind }
  | assigned (fd : ℤ) (owner : ℕ) (lookup : socketLookup t fd = some (i, s)) :
      Evolves env t i s (.assignOwner fd owner) { s with owner := owner }
  | called {event : SocketEvent} (fd : ℤ) (names : event.fd = some fd) (get : getSocket t fd = some (i, s))
      {s' : SocketEntry} (step : Called env s event s') : Evolves env t i s event s'
  | accepted (fd : ℤ) (slot : ℕ) (parent : SocketEntry) (get : getSocket t fd = some (slot, parent))
      (listen : parent.tcp.state = .listen) (ready : acceptable parent.fd s = true) :
      Evolves env t i s (.accept fd) (acceptEntry s)
  | orphaned (fd : ℤ) (now : ℕ) (slot : ℕ) (parent : SocketEntry) (get : getSocket t fd = some (slot, parent))
      (listen : parent.tcp.state = .listen) (other : i ≠ slot) (child : childOf parent.fd s = true) :
      Evolves env t i s (.close fd now) (tcpFail s (some .econnreset)).1
  | delivered (localIp : Word) (port : Word16) (source : SockAddr) (payload : List Byte) (ep : UdpEndpoint)
      (bound : boundMatch .dgram localIp port s = true) :
      Evolves env t i s (.datagram localIp port source payload) { s with udp := ep }
  | received (srcIp dstIp : Word) (hdr : TcpHeader) (payload : List Byte) (seed : Word) (now : ℕ) {s' : SocketEntry}
      (connection : connectionMatch ⟨dstIp, hdr.dstPort⟩ ⟨srcIp, hdr.srcPort⟩ s = true) (step : Processed s s') :
      Evolves env t i s (.segment srcIp dstIp hdr payload seed now) s'
  | opened (srcIp dstIp : Word) (hdr : TcpHeader) (payload : List Byte) (seed : Word) (now : ℕ) (seg : Segment)
      (free : s.allocated = false) (generation : ℕ) (parent : SocketEntry) (mem : parent ∈ t.entries)
      (listens : listenerMatch ⟨dstIp, hdr.dstPort⟩ parent = true)
      (room : t.entries.countP (childOf parent.fd) < parent.tcp.backlog) :
      Evolves env t i s (.segment srcIp dstIp hdr payload seed now)
        (childEntry env { fd := generation * psSocketMax + i + 1, allocated := true, isOpen := true, type := .stream }
          parent ⟨dstIp, hdr.dstPort⟩ ⟨srcIp, hdr.srcPort⟩ seg seed now)
  | ticked (now : ℕ) {s' : SocketEntry} (step : Processed s s') : Evolves env t i s (.tick now) s'

structure TableEvolves (env : TcpEnv) (event : SocketEvent) (t t' : SocketTable) : Prop where
  length : t'.entries.length = t.entries.length
  entry {i : ℕ} {s' : SocketEntry} (h : t'.entries[i]? = some s') :
    ∃ s, t.entries[i]? = some s ∧ Evolves env t i s event s'

namespace TableEvolves

theorem of_eq (h : t'.entries = t.entries) : TableEvolves env event t t' where
  length := by rw [h]
  entry hs' := ⟨_, h ▸ hs', .same⟩

theorem of_set (hs : t.entries[slot]? = some s) (he : t'.entries = t.entries.set slot s')
    (h : Evolves env t slot s event s') : TableEvolves env event t t' where
  length := by rw [he, List.length_set]
  entry {i a} ha := by
    rw [he] at ha
    rcases List.getElem?_set_cases ha with ⟨rfl, rfl⟩ | ⟨hne, ha⟩
    · exact ⟨s, hs, h⟩
    · exact ⟨a, ha, .same⟩

theorem of_map {f : SocketEntry → SocketEntry} (he : t'.entries = t.entries.map f)
    (h : ∀ i s, t.entries[i]? = some s → Evolves env t i s event (f s)) : TableEvolves env event t t' where
  length := by rw [he, List.length_map]
  entry {i a} ha := by
    rw [he, List.getElem?_map] at ha
    obtain ⟨s, hs, rfl⟩ := Option.map_eq_some_iff.mp ha
    exact ⟨s, hs, h i s hs⟩

end TableEvolves

theorem socketAllocate_fd {type : SockType} (h : socketAllocate t type = some (t', slot, s)) :
    ∃ old generation, t.entries[slot]? = some old ∧ old.allocated = false ∧ t'.entries = t.entries.set slot s ∧
      s = { fd := generation * psSocketMax + slot + 1, allocated := true, isOpen := true, type := type } := by
  unfold socketAllocate at h
  split at h
  · simp at h
  · rename_i i hi
    obtain ⟨old, ho, hn⟩ := List.getElem?_of_findIdx? hi
    simp only [Option.some.injEq, Prod.mk.injEq] at h
    obtain ⟨rfl, rfl, rfl⟩ := h
    exact ⟨old, _, ho, by simpa using hn, rfl, rfl⟩

theorem socketBind_ip {addr : SockAddr} (h : socketBind env t slot s addr = (t', .ok s')) :
    s'.localAddr.ip = addr.ip ∧ (addr.ip = 0 ∨ env.isLocalIp addr.ip = true) := by
  unfold socketBind at h
  split at h
  · cases h
  split at h
  · cases h
  rename_i hip
  have hip : addr.ip = 0 ∨ env.isLocalIp addr.ip = true := by
    rw [not_and_or, not_not] at hip
    exact hip.imp_right fun hn => by simpa using hn
  split at h
  · dsimp only at h
    split at h
    · cases h
    · cases h
      exact ⟨rfl, hip⟩
  · split at h
    · cases h
      exact ⟨rfl, hip⟩
    · cases h

theorem ensureBound_ip (h : ensureBound env t slot s = (t', .ok s')) : s'.localAddr.ip = 0 ∨ s'.localAddr = s.localAddr := by
  unfold ensureBound at h
  split at h
  · exact .inl (socketBind_ip h).1
  · cases h
    exact .inr rfl

section Calls

variable {fd : ℤ}

theorem coreBind_evolves (addr : Option SockAddr) :
    TableEvolves env (.bind fd addr) t (coreBind env t fd addr).1 := by
  unfold coreBind
  split
  · exact .of_eq rfl
  rename_i slot s hg
  split
  · exact .of_eq rfl
  rename_i addr
  generalize hr : socketBind env t slot s addr = r
  cases hr ▸ socketBind_cases env t slot s addr with
  | failed t' e he => exact .of_eq he
  | bound t' addr' hu hp ha he =>
    obtain ⟨hip, hlocal⟩ := socketBind_ip hr
    rw [← hip] at hlocal
    exact .of_set (getSocket_some hg).1 he
      (.called fd rfl hg (.bound addr' s.remoteAddr (hlocal.imp_right .inl)))

theorem coreConnect_evolves (addr : Option SockAddr) (seed : Word) :
    TableEvolves env (.connect fd addr seed now) t (coreConnect env t fd addr seed now).1 := by
  unfold coreConnect
  split
  · exact .of_eq rfl
  rename_i slot s hg
  split
  · exact .of_eq rfl
  rename_i addr
  split
  · exact .of_eq rfl
  split
  · unfold tcpConnect
    split
    · exact .of_eq rfl
    split
    · exact .of_eq rfl
    · exact .of_eq rfl
    · exact .of_eq rfl
    · rename_i hc
      dsimp only
      split
      · exact .of_eq rfl
      rename_i hquery
      have hquery : env.routeQuery addr.ip s.localAddr.ip = (.none, (env.routeQuery addr.ip s.localAddr.ip).2) :=
        Prod.ext (not_not.mp (not_or.mp hquery).1) rfl
      generalize hr : ensureBound env t slot s = r
      cases hr ▸ ensureBound_cases env t slot s with
      | failed t' e he => exact .of_eq he
      | bound t' la _ he' _ =>
        exact .of_set (getSocket_some hg).1 (he' _)
          (.called fd rfl hg (.connected fd addr seed now hc la (ensureBound_ip hr) _ hquery))
    · exact .of_eq rfl
  · generalize hr : ensureBound env t slot s = r
    cases hr ▸ ensureBound_cases env t slot s with
    | failed t' e he => exact .of_eq he
    | bound t' la _ he' _ =>
      exact .of_set (getSocket_some hg).1 (he' { s with localAddr := la, remoteAddr := addr })
        (.called fd rfl hg (.bound la addr ((ensureBound_ip hr).imp_right .inr)))

theorem coreSendtoBind_evolves (hasBuffer : Bool) (length : ℕ) (dst : Option SockAddr) (hevent : event.fd = some fd) :
    TableEvolves env event t (coreSendtoBind env t fd hasBuffer length dst).1 := by
  unfold coreSendtoBind
  split
  · exact .of_eq rfl
  rename_i slot s hg
  split
  · exact .of_eq rfl
  split
  · exact .of_eq rfl
  split
  · exact .of_eq rfl
  · dsimp only
    generalize hr : ensureBound env t slot s = r
    cases hr ▸ ensureBound_cases env t slot s with
    | failed t' e he => exact .of_eq he
    | bound t' la _ _ he' =>
      exact .of_set (getSocket_some hg).1 (he' (getSocket_some hg).1)
        (.called fd hevent hg (.bound la s.remoteAddr ((ensureBound_ip hr).imp_right .inr)))

theorem coreListen_evolves (backlog : ℤ) : TableEvolves env (.listen fd backlog) t (coreListen t fd backlog).1 := by
  unfold coreListen
  split
  · exact .of_eq rfl
  rename_i slot s hg
  split
  · exact .of_eq rfl
  · rename_i hk
    exact .of_set (getSocket_some hg).1 rfl (.called fd rfl hg (.listening fd backlog _ (not_not.mp hk)))

theorem coreAccept_evolves : TableEvolves env (.accept fd) t (coreAccept t fd).1 := by
  unfold coreAccept
  split
  · exact .of_eq rfl
  rename_i slot s hg
  split
  · exact .of_eq rfl
  unfold tcpAccept
  split
  · exact .of_eq rfl
  rename_i hl
  split
  · exact .of_eq rfl
  · rename_i i hi
    obtain ⟨child, hs, hp⟩ := List.getElem?_of_findIdx? hi
    have hd : t.entries.getD i {} = child := by rw [List.getD_eq_getElem?_getD, hs]; rfl
    dsimp only
    rw [hd]
    exact .of_set hs rfl (.accepted fd slot s hg (not_not.mp hl) hp)

theorem coreRecvfrom_evolves (hasBuffer : Bool) (length : ℕ) (hevent : event.fd = some fd) :
    TableEvolves env event t (coreRecvfrom t fd hasBuffer length).1 := by
  unfold coreRecvfrom
  split
  · exact .of_eq rfl
  rename_i slot s hg
  split
  · exact .of_eq rfl
  split
  · exact .of_eq rfl
  · exact .of_set (getSocket_some hg).1 rfl (.called fd hevent hg (.udp _))

theorem coreSend_evolves (data : List Byte) : TableEvolves env (.send fd data now) t (coreSend env t fd data now).1 := by
  unfold coreSend
  split
  · exact .of_eq rfl
  rename_i slot s hg
  split
  · exact .of_set (getSocket_some hg).1 rfl (.called fd rfl hg (.processed (.send env s data now)))
  split
  · exact .of_eq rfl
  · exact coreSendtoBind_evolves _ _ _ rfl

theorem coreRecv_evolves (length : ℕ) : TableEvolves env (.recv fd length) t (coreRecv t fd length).1 := by
  unfold coreRecv
  split
  · exact .of_eq rfl
  rename_i slot s hg
  split
  · exact .of_set (getSocket_some hg).1 rfl (.called fd rfl hg (.processed (.recv s length)))
  · exact coreRecvfrom_evolves _ _ rfl

theorem tcpClose_listener (hl : s.tcp.state = .listen) :
    (tcpClose env t slot s now).1.entries = (t.entries.map fun child => (closeChild s.fd child).1).set slot {} := by
  unfold tcpClose
  rw [if_pos hl]
  simp only [SocketTable.set, List.map_set, List.map_map, List.set_set, Function.comp_def]

theorem coreClose_evolves : TableEvolves env (.close fd now) t (coreClose env t fd now).1 := by
  unfold coreClose
  split
  · exact .of_eq rfl
  rename_i slot s hg
  obtain ⟨hs, -⟩ := getSocket_some hg
  split
  · rename_i hk
    by_cases hl : s.tcp.state = .listen
    · have he : (tcpClose env t slot s now).1.entries = _ := tcpClose_listener hl
      refine ⟨by dsimp only; rw [he, List.length_set, List.length_map], fun {i a} ha => ?_⟩
      dsimp only at ha
      rw [he] at ha
      rcases List.getElem?_set_cases ha with ⟨rfl, rfl⟩ | ⟨hne, ha⟩
      · exact ⟨s, hs, .called fd rfl hg (.cleared fd now fun _ => hl)⟩
      · rw [List.getElem?_map] at ha
        obtain ⟨child, hchild, rfl⟩ := Option.map_eq_some_iff.mp ha
        refine ⟨child, hchild, ?_⟩
        unfold closeChild
        split
        · rename_i hc
          exact .orphaned fd now slot s hg hl hne hc
        · exact .same
    · unfold tcpClose
      rw [if_neg hl]
      exact .of_set hs rfl (.called fd rfl hg (.closing fd now hl (.close hl)))
  · rename_i hk
    exact .of_set hs rfl (.called fd rfl hg (.cleared fd now fun h => absurd h hk))

end Calls

theorem coreSocket_evolves (domain type protocol : ℤ) :
    TableEvolves env (.socket domain type protocol) t (coreSocket env t domain type protocol).1 := by
  unfold coreSocket
  generalize (if type = 2 then (17 : ℤ) else 6) = expected
  generalize (if type = 2 then SockType.dgram else SockType.stream) = kind
  split
  · exact .of_eq rfl
  split
  · exact .of_eq rfl
  split
  · exact .of_eq rfl
  split
  · exact .of_eq rfl
  split
  · exact .of_eq rfl
  split
  · exact .of_eq rfl
  · rename_i h
    obtain ⟨old, generation, ho, hn, he, rfl⟩ := socketAllocate_fd h
    exact .of_set ho he (.created domain type protocol hn generation kind)

theorem assignOwner_evolves (fd : ℤ) (owner : ℕ) : TableEvolves env (.assignOwner fd owner) t (assignOwner t fd owner) := by
  unfold assignOwner
  split
  · exact .of_eq rfl
  · rename_i slot s h
    exact .of_set (socketLookup_some h).1 rfl (.assigned fd owner h)

theorem udpDeliver_evolves (localIp : Word) (port : Word16) (source : SockAddr) (payload : List Byte) :
    TableEvolves env (.datagram localIp port source payload) t (udpDeliver t localIp port source payload).1 := by
  unfold udpDeliver
  split
  · exact .of_eq rfl
  rename_i slot hb
  unfold socketBound at hb
  split at hb
  · cases hb
  obtain ⟨s, hs, hm⟩ := List.getElem?_of_findIdx? hb
  have hd : t.entries.getD slot {} = s := by rw [List.getD_eq_getElem?_getD, hs]; rfl
  dsimp only
  rw [hd]
  split
  · exact .of_eq rfl
  split
  · exact .of_eq rfl
  split
  · exact .of_eq rfl
  · exact .of_set hs rfl (.delivered localIp port source payload _ hm)

theorem tcpInputSegment_evolves (srcIp dstIp : Word) (hdr : TcpHeader) (payload : List Byte) (seed : Word) :
    TableEvolves env (.segment srcIp dstIp hdr payload seed now) t
      (tcpInputSegment env t srcIp dstIp hdr payload seed now).1 := by
  unfold tcpInputSegment
  split
  · exact .of_eq rfl
  split
  · exact .of_eq rfl
  rename_i mss hm
  generalize hseg : Segment.mk hdr.seq hdr.ack hdr.flags hdr.window mss payload = seg
  unfold tcpInput
  split
  · exact .of_eq rfl
  split
  · rename_i slot hc
    obtain ⟨s, hs, hp⟩ := List.getElem?_of_findIdx? hc
    obtain ⟨hc, hl⟩ := live_of_role (connectionMatch_iff.mp hp).2.2.1
    have hd : t.entries.getD slot {} = s := by rw [List.getD_eq_getElem?_getD, hs]; rfl
    dsimp only
    rw [hd]
    exact .of_set hs rfl (.received srcIp dstIp hdr payload seed now hp (.input hc hl _ _))
  · split
    · rename_i i hi
      obtain ⟨parent, hparent, hlistens⟩ := List.getElem?_of_findIdx? hi
      have hd : t.entries.getD i {} = parent := by rw [List.getD_eq_getElem?_getD, hparent]; rfl
      rw [hd]
      split
      · unfold passiveOpen
        dsimp only
        split
        · exact .of_eq rfl
        rename_i hroom
        split
        · exact .of_eq rfl
        rename_i t' slot s h
        obtain ⟨old, generation, ho, hn, he, rfl⟩ := socketAllocate_fd h
        refine .of_set ho ?_ (.opened srcIp dstIp hdr payload seed now seg hn generation parent
          (List.mem_of_getElem? hparent) hlistens (Nat.lt_of_not_le hroom))
        simp only [SocketTable.set, he, List.set_set]
      · exact .of_eq rfl
    · exact .of_eq rfl

theorem tcpTick_evolves (hd : ∀ s ∈ t.entries, Dormant s) : TableEvolves env (.tick now) t (tcpTick env t now).1 := by
  refine .of_map (f := fun s => (tickSlot env now s).1) (by simp [tcpTick, Function.comp_def]) fun i s hs => ?_
  unfold tickSlot
  split
  · exact .ticked now (.tick (hd s (List.mem_of_getElem? hs)))
  · exact .same

theorem socketStep_evolves (env : TcpEnv) (hd : ∀ s ∈ t.entries, Dormant s) (event : SocketEvent) :
    TableEvolves env event t (socketStep env t event).1 := by
  cases event with
  | socket domain type protocol => exact coreSocket_evolves domain type protocol
  | assignOwner fd owner => exact assignOwner_evolves fd owner
  | bind fd addr => exact coreBind_evolves addr
  | connect fd addr seed now => exact coreConnect_evolves addr seed
  | listen fd backlog => exact coreListen_evolves backlog
  | accept fd => exact coreAccept_evolves
  | send fd data now => exact coreSend_evolves data
  | recv fd length => exact coreRecv_evolves length
  | sendto fd hasBuffer length dst => exact coreSendtoBind_evolves hasBuffer length dst rfl
  | recvfrom fd hasBuffer length => exact coreRecvfrom_evolves hasBuffer length rfl
  | close fd now => exact coreClose_evolves
  | segment srcIp dstIp hdr payload seed now => exact tcpInputSegment_evolves srcIp dstIp hdr payload seed
  | datagram localIp port source payload => exact udpDeliver_evolves localIp port source payload
  | tick now => exact tcpTick_evolves hd

theorem Processed.dormant_of (h : Processed s s') (hd : Dormant s) : Dormant s' := by
  cases h with
  | freed entry => rw [entry]; exact .of_tcp rfl
  | kept fd allocated isOpen type owner localAddr parent listen dormant => exact dormant hd

theorem Called.dormant (hd : Dormant s) (h : Called env s event s') : Dormant s' := by
  cases h with
  | bound | udp => exact hd
  | connected => exact .of_state nofun nofun
  | listening fd backlog bound =>
    unfold tcpListen
    split
    · exact hd
    split
    · exact hd
    · rename_i hidle
      rw [not_and_or, not_not, not_not] at hidle
      exact fun _ => hd hidle
  | processed step => exact step.dormant_of hd
  | closing fd now state step => exact step.dormant_of hd
  | cleared => exact .of_tcp rfl

theorem Evolves.dormant (hd : Dormant s) {i : ℕ} (h : Evolves env t i s event s') : Dormant s' := by
  cases h with
  | same | assigned | delivered => exact hd
  | created => exact .of_tcp rfl
  | called fd names get step => exact step.dormant hd
  | accepted fd slot parent get listen ready =>
    simp only [acceptable, Bool.and_eq_true, Bool.or_eq_true, beq_iff_eq] at ready
    apply Dormant.of_state
    all_goals
      change s.tcp.state ≠ _
      rcases ready.2 with h | h <;> rw [h] <;> decide
  | orphaned => exact .of_tcp (tcpFail_tcp _ _)
  | received srcIp dstIp hdr payload seed now connection step => exact step.dormant_of hd
  | opened =>
    apply Dormant.of_state
    all_goals
      intro h
      cases h
  | ticked now step => exact step.dormant_of hd

theorem Reachable.dormant {admissible : TcpEnv → SocketTable → SocketEvent → Prop} (ht : Reachable admissible t) :
    ∀ s ∈ t.entries, Dormant s := by
  induction ht with
  | init capacity =>
    intro s hs
    rw [List.eq_of_mem_replicate hs]
    exact .of_tcp rfl
  | step env event _ he ih =>
    intro s' hs'
    obtain ⟨i, hi⟩ := List.mem_iff_getElem?.mp hs'
    obtain ⟨s, hs, hevolves⟩ := (socketStep_evolves env ih event).entry hi
    exact hevolves.dormant (ih s (List.mem_of_getElem? hs))

theorem Reachable.evolves {admissible : TcpEnv → SocketTable → SocketEvent → Prop} (ht : Reachable admissible t)
    (env : TcpEnv) (event : SocketEvent) : TableEvolves env event t (socketStep env t event).1 :=
  socketStep_evolves env ht.dormant event

end PulsarNetstack
