import PulsarNetstack.TcpOwnership

namespace PulsarNetstack

variable {env : TcpEnv} {s s' : SocketEntry} {seg : Segment} {now : ℕ} {t t' : SocketTable} {slot : ℕ}

inductive Role
  | idle | failed | listening | live
  deriving DecidableEq, Repr

def role (s : SocketEntry) : Role :=
  if s.tcp.state = .closed then if s.error = none then .idle else .failed
  else if s.tcp.state = .listen then .listening
  else .live

theorem role_live (hc : s.tcp.state ≠ .closed) (hl : s.tcp.state ≠ .listen) : role s = .live := by
  simp [role, hc, hl]

theorem role_listening : role s = .listening ↔ s.tcp.state = .listen := by
  unfold role
  by_cases hc : s.tcp.state = .closed
  · by_cases he : s.error = none <;> simp [hc, he]
  · by_cases hl : s.tcp.state = .listen <;> simp [hl, hc]

theorem live_of_role (h : role s = .live) : s.tcp.state ≠ .closed ∧ s.tcp.state ≠ .listen := by
  unfold role at h
  by_cases hc : s.tcp.state = .closed
  · by_cases he : s.error = none <;> simp [hc, he] at h
  · by_cases hl : s.tcp.state = .listen
    · simp [hl] at h
    · exact ⟨hc, hl⟩

inductive Quiet (s s' : SocketEntry) : Prop
  | freed (h : s'.allocated = false)
  | kept (ha : s'.allocated = s.allocated) (hk : s'.type = s.type) (hl : s'.localAddr = s.localAddr)
      (hr : s.type = .stream → s'.remoteAddr = s.remoteAddr) (ho : role s' = role s ∨ role s' = .failed)

namespace Quiet

theorem refl (s : SocketEntry) : Quiet s s := .kept rfl rfl rfl (fun _ => rfl) (.inl rfl)

theorem trans {s'' : SocketEntry} (h : Quiet s s') (h' : Quiet s' s'') : Quiet s s'' := by
  cases h' with
  | freed h' => exact .freed h'
  | kept ha' hk' hl' hr' ho' =>
    cases h with
    | freed h => exact .freed (ha'.trans h)
    | kept ha hk hl hr ho =>
      refine .kept (ha'.trans ha) (hk'.trans hk) (hl'.trans hl)
        (fun h => (hr' (hk.trans h)).trans (hr h)) ?_
      rcases ho' with ho' | ho'
      · rwa [ho']
      · exact .inr ho'

theorem of_live {c : TcpConnection} (hs : role s = .live) (hc : c.state ≠ .closed) (hl : c.state ≠ .listen) :
    Quiet s { s with tcp := c } :=
  .kept rfl rfl rfl (fun _ => rfl) (.inl ((role_live hc hl).trans hs.symm))

theorem of_state {c : TcpConnection} (hs : c.state = s.tcp.state) : Quiet s { s with tcp := c } := by
  refine .kept rfl rfl rfl (fun _ => rfl) (.inl ?_)
  simp only [role, hs]

theorem fail (s : SocketEntry) (e : Errno) : Quiet s (tcpFail s (some e)).1 := by
  rw [tcpFail_entry]
  split
  · exact .kept rfl rfl rfl (fun _ => rfl) (.inr rfl)
  · exact .freed rfl

theorem fail_not_open {s₀ : SocketEntry} (ho : s.isOpen = false) (e : Option Errno) : Quiet s₀ (tcpFail s e).1 := by
  rw [tcpFail_entry, ho]
  exact .freed rfl

theorem kick (env : TcpEnv) (s : SocketEntry) (now : ℕ) : Quiet s (tcpKick env s now).1 := by
  generalize hr : tcpKick env s now = r
  cases hr ▸ tcpKick_cases env s now with
  | blocked | waiting | empty => exact refl s
  | probe => exact of_state rfl
  | failed hf hs e => exact fail s e
  | data hf hs hw ht mtu hm s' he =>
    subst he
    exact of_state rfl
  | fin hf hs ht hc s' he =>
    subst he
    refine of_live (role_live ?_ ?_) ?_ ?_
    all_goals rcases hs with hs | hs <;> simp [hs, startFlight, finState]

theorem acknowledge (hw : Owned s.isOpen s.tcp) (hc : s.tcp.state ≠ .closed)
    (hl : s.tcp.state ≠ .listen) {ack : Word} : Quiet s (acknowledge env s ack now).1 := by
  generalize hr : PulsarNetstack.acknowledge env s ack now = r
  cases hr ▸ acknowledge_cases env s ack now with
  | duplicate => exact refl s
  | advanced | completed => exact of_state rfl
  | lastAck _ _ hf hs =>
    have hok := hw.stateOk
    rw [hs] at hok
    have hn : s.isOpen = false := hw.not_open hok.2.1
    exact fail_not_open hn none
  | timeWait => exact of_live (role_live hc hl) (by simp [tcpTimeWait]) (by simp [tcpTimeWait])
  | finWait2 => exact of_live (role_live hc hl) (by simp) (by simp)

theorem receiveFin_state (env : TcpEnv) (c : TcpConnection) (seg : Segment) (now : ℕ) :
    (receiveFin env c seg now).state = c.state ∨ (receiveFin env c seg now).state = .closeWait ∨
      (receiveFin env c seg now).state = .timeWait := by
  unfold receiveFin
  split
  · dsimp only
    split
    · exact .inr (.inl rfl)
    split
    · exact .inr (.inr rfl)
    · exact .inl rfl
  · exact .inl rfl

theorem receive (hc : s.tcp.state ≠ .closed) (hl : s.tcp.state ≠ .listen) :
    Quiet s { s with tcp := receiveSegment env (updateWindow s.tcp seg) seg now } := by
  have hst : (receivePayload (updateWindow s.tcp seg) seg).state = s.tcp.state := by
    rw [receivePayload_state, updateWindow_state]
  unfold receiveSegment
  split
  · exact of_state hst
  · have h := receiveFin_state env (receivePayload (updateWindow s.tcp seg) seg) seg now
    rw [hst] at h
    refine of_live (role_live hc hl) ?_ ?_
    all_goals rcases h with h | h | h <;> rw [h] <;> first | assumption | decide

theorem inputAccepted (hw : Owned s.isOpen s.tcp) (hno : ¬ Opening s.tcp.state) :
    Quiet s (tcpInputAccepted env s seg now).entry := by
  have hc : s.tcp.state ≠ .closed := fun h => hno (.inl h)
  have hl : s.tcp.state ≠ .listen := fun h => hno (.inr (.inl h))
  have ha : Quiet s (PulsarNetstack.acknowledge env s seg.ack now).1 := acknowledge hw hc hl
  rcases tcpInputAccepted_entry env s seg now _ rfl with ⟨-, he⟩ | ⟨-, hd, he⟩
  · rw [he]
    exact ha
  · rw [he]
    refine (ha.trans (receive hd ?_)).trans (kick env _ now)
    exact fun h => acknowledge_not_opening hno rfl hd (.inr (.inl h))

theorem input (hw : Owned s.isOpen s.tcp) (hc : s.tcp.state ≠ .closed) (hl : s.tcp.state ≠ .listen)
    (localAddr remoteAddr : SockAddr) : Quiet s (tcpInputConnection env s localAddr remoteAddr seg now).entry := by
  generalize hres : tcpInputConnection env s localAddr remoteAddr seg now = r
  cases hres ▸ tcpInputConnection_cases env s localAddr remoteAddr seg now with
  | keep => exact refl s
  | failed e => exact fail s e
  | established hs ha hf s' he =>
    subst he
    exact of_live (role_live hc hl) (by simp) (by simp)
  | timeWait hs => exact of_state hs.symm
  | accepted hs hr =>
    refine inputAccepted hw ?_
    rintro (h | h | h | h)
    exacts [hc h, hl h, hs h, hr h]
  | opened hs _ _ _ s₀ h₀ =>
    subst h₀
    have hopen : Quiet s { s with tcp := { s.tcp with
        state := .established, expires := add64 now (60 * env.hz) } } :=
      of_live (role_live hc hl) (by simp) (by simp)
    have hok := hw.stateOk
    rw [hs] at hok
    exact hopen.trans (inputAccepted { hw with stateOk := hok.1, holder := trivial } (by decide : ¬ Opening .established))

theorem tick (hw : Owned s.isOpen s.tcp) : Quiet s (tcpTickEntry env s now).1 := by
  generalize hr : tcpTickEntry env s now = r
  cases hr ▸ tcpTickEntry_cases env s now with
  | waiting => exact refl s
  | failed e he =>
    cases e with
    | some e => exact fail s e
    | none =>
      have hok := hw.stateOk
      rw [he rfl] at hok
      exact fail_not_open (hw.not_open hok.2.1) none
  | resent | probed | cleared => exact of_state rfl

theorem send (env : TcpEnv) (s : SocketEntry) (data : List Byte) (now : ℕ) : Quiet s (tcpSend env s data now).1 := by
  generalize hr : tcpSend env s data now = r
  cases hr ▸ tcpSend_cases env s data now with
  | unchanged => exact refl s
  | queued hs he n hn s₁ h₁ =>
    have hbuf : Quiet s s₁ := by
      rw [h₁]
      exact of_state rfl
    exact hbuf.trans (kick env s₁ now)

theorem recv (s : SocketEntry) (length : ℕ) : Quiet s (tcpRecv s length).1 := by
  generalize hr : tcpRecv s length = r
  cases hr ▸ tcpRecv_cases s length with
  | refused | nothing => exact refl s
  | data hl hr n hn s' he =>
    subst he
    exact of_state rfl

theorem close (env : TcpEnv) (s : SocketEntry) (now : ℕ) : Quiet s (closeEntry env s now).1 := by
  unfold closeEntry
  dsimp only
  split
  · exact fail_not_open rfl _
  · have hcl : Quiet s { s with isOpen := false, tcp := { s.tcp with closing := true } } :=
      .kept rfl rfl rfl (fun _ => rfl) (.inl rfl)
    exact hcl.trans (kick env _ now)

theorem closeChild (fd : ℕ) (s : SocketEntry) : Quiet s (closeChild fd s).1 := by
  unfold PulsarNetstack.closeChild
  split
  · exact fail s _
  · exact refl s

end Quiet

structure SharePort (a b : SocketEntry) : Prop where
  stream : a.type = .stream
  left : role a ≠ .idle
  right : role b ≠ .idle
  listening : ¬ (role a = .listening ∧ role b = .listening)
  live : role a = .live → role b = .live → a.localAddr ≠ b.localAddr ∨ a.remoteAddr ≠ b.remoteAddr

def Compatible (a b : SocketEntry) : Prop :=
  a.allocated = true → b.allocated = true → a.type = b.type → a.localAddr.port = b.localAddr.port →
    a.localAddr.port ≠ 0 → overlaps a.localAddr.ip b.localAddr.ip = true → SharePort a b

theorem overlaps_comm (a b : Word) : overlaps a b = overlaps b a := by
  simp only [overlaps, Bool.or_comm (a == 0), Bool.beq_comm (a := a) (b := b)]

theorem Compatible.symm (a b : SocketEntry) (h : Compatible a b) : Compatible b a := by
  intro hb ha hk hp h0 ho
  have hs := h ha hb hk.symm hp.symm (hp ▸ h0) (by rwa [overlaps_comm])
  exact ⟨hk.trans hs.stream, hs.right, hs.left, fun hl => hs.listening hl.symm,
    fun hb ha => (hs.live ha hb).imp Ne.symm Ne.symm⟩

theorem Compatible.quiet (a b a' b' : SocketEntry) (h : Compatible a b) (ha : Quiet a a') (hb : Quiet b b') :
    Compatible a' b' := by
  cases ha with
  | freed hf => exact fun ha => absurd ha (by simp [hf])
  | kept haa hak hal har hao =>
    cases hb with
    | freed hf => exact fun _ hb => absurd hb (by simp [hf])
    | kept hba hbk hbl hbr hbo =>
      intro ha hb hk hp h0 ho
      rw [hal] at hp h0 ho
      rw [hbl] at hp ho
      rw [hak, hbk] at hk
      have hs := h (haa ▸ ha) (hba ▸ hb) hk hp h0 ho
      have role_eq {x x' : SocketEntry} {r : Role} (hr : role x' = role x ∨ role x' = .failed) (hx : role x' = r)
          (hf : r ≠ .failed) : role x = r := by
        rcases hr with hr | hr
        · exact hr.symm.trans hx
        · exact absurd (hx.symm.trans hr) hf
      refine ⟨hak.trans hs.stream, fun hi => hs.left (role_eq hao hi (by decide)),
        fun hi => hs.right (role_eq hbo hi (by decide)),
        fun hl => hs.listening ⟨role_eq hao hl.1 (by decide), role_eq hbo hl.2 (by decide)⟩, fun hla hlb => ?_⟩
      rw [hal, hbl, har hs.stream, hbr (hk ▸ hs.stream)]
      exact hs.live (role_eq hao hla (by decide)) (role_eq hbo hlb (by decide))

structure Demux (t : SocketTable) : Prop where
  apart : t.entries.Apart Compatible
  ported : ∀ s ∈ t.entries, s.allocated = true → s.type = .stream → role s = .live ∨ role s = .listening →
    s.localAddr.port ≠ 0

namespace Demux

theorem quiet (hd : Demux t) (h : List.Forall₂ Quiet t.entries t'.entries) : Demux t' := by
  refine ⟨hd.apart.of_forall₂ h Compatible.quiet, fun s' hs' ha hk hr => ?_⟩
  obtain ⟨s, hs, hq⟩ := h.mem_right hs'
  cases hq with
  | freed hf => exact absurd ha (by simp [hf])
  | kept haa hak hal har hao =>
    rw [hal]
    refine hd.ported s hs (haa ▸ ha) (hak ▸ hk) ?_
    rcases hao with ho | ho
    · rwa [ho] at hr
    · rw [ho] at hr
      exact absurd hr (by decide)

theorem quiet_set (hd : Demux t) (hs : t.entries[slot]? = some s) (he : t'.entries = t.entries.set slot s')
    (h : Quiet s s') : Demux t' := by
  refine hd.quiet ?_
  rw [he]
  exact List.forall₂_set .refl hs h

theorem of_eq (hd : Demux t) (he : t'.entries = t.entries) : Demux t' := by
  refine hd.quiet ?_
  rw [he]
  exact List.forall₂_refl_of .refl _

theorem place (hd : Demux t) (he : t'.entries = t.entries.set slot s')
    (hc : ∀ j b, j ≠ slot → t.entries[j]? = some b → Compatible s' b)
    (hp : role s' = .live ∨ role s' = .listening → s'.localAddr.port ≠ 0) : Demux t' := by
  refine ⟨?_, fun s hs ha hk hr => ?_⟩
  · rw [he]
    exact hd.apart.set Compatible.symm hc
  · rw [he] at hs
    rcases List.mem_or_eq_of_mem_set hs with hs | rfl
    · exact hd.ported s hs ha hk hr
    · exact hp hr

end Demux

def Free (t : SocketTable) (slot : ℕ) (type : SockType) (addr : SockAddr) : Prop :=
  ∀ j b, j ≠ slot → t.entries[j]? = some b → b.allocated = true → b.type = type →
    b.localAddr.port = addr.port → overlaps addr.ip b.localAddr.ip = false

namespace Free

variable {type : SockType} {addr : SockAddr}

theorem of_portAvailable (h : portAvailable t slot type addr = true) : Free t slot type addr := by
  intro j b hj hb ha hk hp
  unfold portAvailable at h
  have hm : (b, j) ∈ t.entries.zipIdx := by
    rw [List.mem_zipIdx_iff_getElem?]
    exact hb
  simpa [hj, ha, hk, hp] using List.all_eq_true.mp h _ hm

theorem compatible (h : Free t slot type addr) (hk : s'.type = type) (ha : s'.localAddr = addr) (j : ℕ)
    (b : SocketEntry) (hj : j ≠ slot) (hb : t.entries[j]? = some b) : Compatible s' b := by
  intro _ hba hkb hp _ ho
  rw [ha] at hp ho
  rw [h j b hj hb hba (hkb ▸ hk) hp.symm] at ho
  exact absurd ho (by decide)

theorem narrow (h : Free t slot type addr) (source : Word) :
    Free t slot type { addr with ip := if addr.ip = 0 then source else addr.ip } := by
  intro j b hj hb hba hk hp
  have hf := h j b hj hb hba hk hp
  by_cases h0 : addr.ip = 0
  · simp [overlaps, h0] at hf
  · simpa only [if_neg h0] using hf

theorem of_settled (hd : Demux t) (hs : t.entries[slot]? = some s) (ha : s.allocated = true)
    (hi : s.type = .stream → role s = .idle) (h : Settled t slot s addr) : Free t slot s.type addr := by
  obtain ⟨h0, rfl | ⟨-, hav⟩⟩ := h
  · intro j b hj hb hba hk hp
    by_contra ho
    have hsp := hd.apart slot j s b hj.symm hs hb ha hba hk.symm hp.symm h0 (by simpa using ho)
    exact hsp.left (hi hsp.stream)
  · exact of_portAvailable hav

end Free

theorem boundMatch_iff {type : SockType} {ip : Word} {port : Word16} {s : SocketEntry} :
    boundMatch type ip port s = true ↔ s.allocated = true ∧ s.type = type ∧ s.localAddr.port = port ∧
      (s.localAddr.ip = 0 ∨ s.localAddr.ip = ip) := by
  simp [boundMatch, and_assoc]

theorem connectionMatch_iff {localAddr remoteAddr : SockAddr} {s : SocketEntry} :
    connectionMatch localAddr remoteAddr s = true ↔ s.allocated = true ∧ s.type = .stream ∧ role s = .live ∧
      s.localAddr = localAddr ∧ s.remoteAddr = remoteAddr := by
  simp only [connectionMatch, Bool.and_eq_true, beq_iff_eq, bne_iff_ne]
  constructor
  · rintro ⟨⟨⟨⟨⟨ha, hk⟩, hc⟩, hn⟩, hl⟩, hr⟩
    exact ⟨ha, hk, role_live hc hn, hl, hr⟩
  · rintro ⟨ha, hk, hv, hl, hr⟩
    obtain ⟨hc, hn⟩ := live_of_role hv
    exact ⟨⟨⟨⟨⟨ha, hk⟩, hc⟩, hn⟩, hl⟩, hr⟩

theorem listenerMatch_iff {localAddr : SockAddr} {s : SocketEntry} :
    listenerMatch localAddr s = true ↔ s.allocated = true ∧ s.isOpen = true ∧ s.type = .stream ∧
      role s = .listening ∧ s.localAddr.port = localAddr.port ∧
      (s.localAddr.ip = 0 ∨ s.localAddr.ip = localAddr.ip) := by
  simp [listenerMatch, and_assoc, role_listening]

theorem overlaps_of_match {a b ip : Word} (ha : a = 0 ∨ a = ip) (hb : b = 0 ∨ b = ip) : overlaps a b = true := by
  simp only [overlaps, Bool.or_eq_true, beq_iff_eq]
  rcases ha with ha | ha <;> rcases hb with hb | hb <;> simp [ha, hb]

theorem overlaps_of_overlaps {a b ip : Word} (ha : a = 0 ∨ a = ip) (hb : overlaps ip b = true) : overlaps a b = true := by
  simp only [overlaps, Bool.or_eq_true, beq_iff_eq] at hb ⊢
  rcases ha with ha | ha
  · exact .inl (.inl ha)
  · rw [ha]
    exact hb

namespace Demux

theorem passiveOpen (hd : Demux t) {localAddr remoteAddr : SockAddr} {i : ℕ} {parent : SocketEntry}
    (hp : t.entries[i]? = some parent) (hm : listenerMatch localAddr parent = true)
    (hn : connection t localAddr remoteAddr = none) (seed : Word) :
    Demux (passiveOpen env t parent localAddr remoteAddr seg seed now).1 := by
  unfold PulsarNetstack.passiveOpen
  dsimp only
  split
  · exact hd
  split
  · exact hd
  rename_i t' slot s h
  obtain ⟨old, fd, ho, hnew, he, -, rfl⟩ := socketAllocate_some h
  obtain ⟨hpa, -, hpk, hpl, hpp, hpi⟩ := listenerMatch_iff.mp hm
  have hport := hd.ported parent (List.mem_of_getElem? hp) hpa hpk (.inr hpl)
  have he' : (t'.set slot (childEntry env { fd := fd, allocated := true, isOpen := true, type := .stream } parent
      localAddr remoteAddr seg seed now)).entries = t.entries.set slot (childEntry env
        { fd := fd, allocated := true, isOpen := true, type := .stream } parent localAddr remoteAddr seg seed now) := by
    simp only [SocketTable.set, he, List.set_set]
  refine hd.place he' ?_ (fun _ => ?_)
  · intro j b hj hb _ hba hkb hpb h0 hob
    have hlive : role (childEntry env { fd := fd, allocated := true, isOpen := true, type := .stream } parent
        localAddr remoteAddr seg seed now) = .live := role_live (by simp [childEntry, startFlight])
          (by simp [childEntry, startFlight])
    have hnot : role b ≠ .idle := by
      by_cases hij : i = j
      · obtain rfl : parent = b := Option.some.inj ((hij ▸ hp).symm.trans hb)
        rw [hpl]
        decide
      · have hob' : overlaps parent.localAddr.ip b.localAddr.ip = true := overlaps_of_overlaps hpi hob
        exact (hd.apart i j parent b hij hp hb hpa hba (hpk.trans hkb) (hpp.trans hpb) hport hob').right
    refine ⟨rfl, by rw [hlive]; decide, hnot, fun hl => by rw [hlive] at hl; exact absurd hl.1 (by decide), ?_⟩
    intro _ hbl
    by_contra hsame
    rw [not_or, not_not, not_not] at hsame
    have hmatch : connectionMatch localAddr remoteAddr b = true :=
      connectionMatch_iff.mpr ⟨hba, hkb.symm, hbl, hsame.1.symm, hsame.2.symm⟩
    have := List.findIdx?_eq_none_iff.mp hn b (List.mem_of_getElem? hb)
    rw [hmatch] at this
    exact absurd this (by decide)
  · change localAddr.port ≠ 0
    rw [← hpp]
    exact hport

theorem coreSocket (hd : Demux t) (domain type protocol : ℤ) : Demux (coreSocket env t domain type protocol).1 := by
  unfold PulsarNetstack.coreSocket
  generalize (if type = 2 then (17 : ℤ) else 6) = expected
  generalize (if type = 2 then SockType.dgram else SockType.stream) = kind
  split
  · exact hd
  split
  · exact hd
  split
  · exact hd
  split
  · exact hd
  split
  · exact hd
  split
  · exact hd
  · rename_i h
    obtain ⟨old, fd, ho, hn, he, -, rfl⟩ := socketAllocate_some h
    exact hd.place he (fun j b _ _ _ _ _ _ h0 => absurd rfl h0) (fun h => absurd h (by simp [role]))

theorem coreBind (hd : Demux t) (fd : ℤ) (addr : Option SockAddr) : Demux (coreBind env t fd addr).1 := by
  unfold PulsarNetstack.coreBind
  split
  · exact hd
  rename_i slot s hg
  split
  · exact hd
  rename_i addr
  dsimp only
  generalize hr : socketBind env t slot s addr = r
  cases hr ▸ socketBind_cases env t slot s addr with
  | failed t' e he => exact hd.of_eq he
  | bound t' la hu hp ha he =>
    exact hd.place he ((Free.of_portAvailable ha).compatible rfl rfl) (fun _ => hp)

theorem coreSendtoBind (hd : Demux t) (fd : ℤ) (hasBuffer : Bool) (length : ℕ) (dst : Option SockAddr) :
    Demux (coreSendtoBind env t fd hasBuffer length dst).1 := by
  unfold PulsarNetstack.coreSendtoBind
  split
  · exact hd
  rename_i slot s hg
  obtain ⟨hs, ha, -⟩ := getSocket_some hg
  split
  · exact hd
  rename_i hk
  split
  · exact hd
  split
  · exact hd
  dsimp only
  generalize hr : ensureBound env t slot s = r
  cases hr ▸ ensureBound_cases env t slot s with
  | failed t' e he => exact hd.of_eq he
  | bound t' la hset _ he' =>
    have hf := Free.of_settled hd hs ha (fun h => absurd h (by simp [not_not.mp hk])) hset
    exact hd.place (he' hs) (hf.compatible rfl rfl) (fun _ => hset.1)

theorem coreConnect (hd : Demux t) (fd : ℤ) (addr : Option SockAddr) (seed : Word) :
    Demux (coreConnect env t fd addr seed now).1 := by
  unfold PulsarNetstack.coreConnect
  split
  · exact hd
  rename_i slot s hg
  obtain ⟨hs, ha, -⟩ := getSocket_some hg
  split
  · exact hd
  rename_i addr
  split
  · exact hd
  split
  · rename_i hk
    unfold tcpConnect
    split
    · exact hd
    rename_i he
    split
    · exact hd
    · exact hd
    · exact hd
    · rename_i hc
      dsimp only
      split
      · exact hd
      generalize hr : ensureBound env t slot s = r
      cases hr ▸ ensureBound_cases env t slot s with
      | failed t' e he => exact hd.of_eq he
      | bound t' la hset he' _ =>
        have hf := Free.of_settled hd hs ha (fun _ => by simp [role, hc, he]) hset
        exact hd.place (he' _) ((hf.narrow _).compatible rfl rfl) (fun _ => hset.1)
    · exact hd
  · rename_i hk
    generalize hr : ensureBound env t slot s = r
    cases hr ▸ ensureBound_cases env t slot s with
    | failed t' e he => exact hd.of_eq he
    | bound t' la hset he' _ =>
      have hf := Free.of_settled hd hs ha (fun h => absurd h hk) hset
      exact hd.place (he' { s with localAddr := la, remoteAddr := addr }) (hf.compatible rfl rfl) (fun _ => hset.1)

theorem coreListen (hd : Demux t) (fd backlog : ℤ)
    (hok : ∀ slot s, getSocket t fd = some (slot, s) → s.error = none) : Demux (coreListen t fd backlog).1 := by
  unfold PulsarNetstack.coreListen
  split
  · exact hd
  rename_i slot s hg
  obtain ⟨hs, ha, -⟩ := getSocket_some hg
  split
  · exact hd
  unfold tcpListen
  dsimp only
  split
  · exact hd.quiet_set hs rfl (.refl s)
  rename_i hport
  split
  · exact hd.quiet_set hs rfl (.refl s)
  rename_i hst
  by_cases hl : s.tcp.state = .listen
  · exact hd.quiet_set hs rfl (.of_state hl.symm)
  · have hc : s.tcp.state = .closed := by
      by_contra hc
      exact hst ⟨hc, hl⟩
    have hset : Settled t slot s s.localAddr := ⟨(not_or.mp hport).2, .inl rfl⟩
    have hf := Free.of_settled hd hs ha (fun _ => by simp [role, hc, hok slot s hg]) hset
    exact hd.place rfl (hf.compatible rfl rfl) (fun _ => hset.1)

theorem coreAccept (hd : Demux t) (fd : ℤ) : Demux (coreAccept t fd).1 := by
  unfold PulsarNetstack.coreAccept
  split
  · exact hd
  split
  · exact hd
  unfold tcpAccept
  split
  · exact hd
  split
  · exact hd
  · rename_i i hi
    obtain ⟨child, hs, -⟩ := List.getElem?_of_findIdx? hi
    have hget : t.entries.getD i {} = child := by rw [List.getD_eq_getElem?_getD, hs]; rfl
    dsimp only
    rw [hget]
    exact hd.quiet_set hs rfl (.kept rfl rfl rfl (fun _ => rfl) (.inl rfl))

theorem coreClose (hd : Demux t) (fd : ℤ) : Demux (coreClose env t fd now).1 := by
  unfold PulsarNetstack.coreClose
  split
  · exact hd
  rename_i slot s hg
  obtain ⟨hs, -⟩ := getSocket_some hg
  split
  · unfold tcpClose
    dsimp only
    split
    · have hmap : (((t.set slot { s with isOpen := false }).entries.map (closeChild s.fd)).map Prod.fst).set slot {} =
          (t.entries.map (fun s' => (closeChild s.fd s').1)).set slot {} := by
        simp only [SocketTable.set, List.map_set, List.map_map, List.set_set, Function.comp_def]
      refine hd.quiet ?_
      dsimp only
      rw [hmap]
      exact (List.forall₂_map_right_of (Quiet.closeChild s.fd) t.entries).set_right slot fun _ => .freed rfl
    · exact hd.quiet_set hs rfl (.close env s now)
  · exact hd.quiet_set hs rfl (.freed rfl)

theorem tcpInput (hd : Demux t) (hw : ∀ s ∈ t.entries, OwnedEntry s) (localAddr remoteAddr : SockAddr) (seed : Word) :
    Demux (tcpInput env t localAddr remoteAddr seg seed now).1 := by
  unfold PulsarNetstack.tcpInput
  split
  · exact hd
  split
  · rename_i slot hc
    obtain ⟨s, hs, hm⟩ := List.getElem?_of_findIdx? hc
    obtain ⟨ha, hk, hv, -⟩ := connectionMatch_iff.mp hm
    obtain ⟨hcl, hli⟩ := live_of_role hv
    have hget : t.entries.getD slot {} = s := by rw [List.getD_eq_getElem?_getD, hs]; rfl
    dsimp only
    rw [hget]
    exact hd.quiet_set hs rfl (.input (hw s (List.mem_of_getElem? hs) ha hk) hcl hli localAddr remoteAddr)
  · rename_i hn
    split
    · rename_i i hi
      obtain ⟨parent, hp, hm⟩ := List.getElem?_of_findIdx? hi
      have hget : t.entries.getD i {} = parent := by rw [List.getD_eq_getElem?_getD, hp]; rfl
      split
      · rw [hget]
        exact hd.passiveOpen hp hm hn seed
      · exact hd
    · exact hd

theorem tcpInputSegment (hd : Demux t) (hw : ∀ s ∈ t.entries, OwnedEntry s) (srcIp dstIp : Word) (hdr : TcpHeader)
    (payload : List Byte) (seed : Word) : Demux (tcpInputSegment env t srcIp dstIp hdr payload seed now).1 := by
  unfold PulsarNetstack.tcpInputSegment
  split
  · exact hd
  split
  · exact hd
  · exact hd.tcpInput hw _ _ seed

theorem tcpTick (hd : Demux t) (hw : ∀ s ∈ t.entries, OwnedEntry s) : Demux (tcpTick env t now).1 := by
  refine hd.quiet ?_
  unfold PulsarNetstack.tcpTick
  dsimp only
  rw [List.map_map]
  refine List.forall₂_map_right_of_mem fun s hs => ?_
  simp only [Function.comp_apply, tickSlot]
  split
  · rename_i h
    exact .tick (hw s hs h.1 h.2)
  · exact .refl s

theorem coreRecvfrom (hd : Demux t) (fd : ℤ) (hasBuffer : Bool) (length : ℕ) :
    Demux (coreRecvfrom t fd hasBuffer length).1 := by
  unfold PulsarNetstack.coreRecvfrom
  split
  · exact hd
  rename_i slot s hg
  obtain ⟨hs, -⟩ := getSocket_some hg
  split
  · exact hd
  split
  · exact hd
  · exact hd.quiet_set hs rfl (.kept rfl rfl rfl (fun _ => rfl) (.inl rfl))

theorem udpDeliver (hd : Demux t) (localIp : Word) (port : Word16) (source : SockAddr) (payload : List Byte) :
    Demux (udpDeliver t localIp port source payload).1 := by
  unfold PulsarNetstack.udpDeliver
  split
  · exact hd
  rename_i slot hb
  obtain ⟨s, hs, hget⟩ := socketBound_some hb
  dsimp only
  rw [hget]
  split
  · exact hd
  split
  · exact hd
  split
  · exact hd
  · exact hd.quiet_set hs rfl (.kept rfl rfl rfl (fun _ => rfl) (.inl rfl))

theorem coreSend (hd : Demux t) (fd : ℤ) (data : List Byte) : Demux (coreSend env t fd data now).1 := by
  unfold PulsarNetstack.coreSend
  split
  · exact hd
  rename_i slot s hg
  obtain ⟨hs, -⟩ := getSocket_some hg
  split
  · exact hd.quiet_set hs rfl (.send env s data now)
  split
  · exact hd
  · exact hd.coreSendtoBind _ _ _ _

theorem coreRecv (hd : Demux t) (fd : ℤ) (length : ℕ) : Demux (coreRecv t fd length).1 := by
  unfold PulsarNetstack.coreRecv
  split
  · exact hd
  rename_i slot s hg
  obtain ⟨hs, -⟩ := getSocket_some hg
  split
  · exact hd.quiet_set hs rfl (.recv s length)
  · exact hd.coreRecvfrom _ _ _

theorem assignOwner (hd : Demux t) (fd : ℤ) (owner : ℕ) : Demux (assignOwner t fd owner) := by
  unfold PulsarNetstack.assignOwner
  split
  · exact hd
  · rename_i slot s h
    exact hd.quiet_set (socketLookup_some h).1 rfl (.kept rfl rfl rfl (fun _ => rfl) (.inl rfl))

theorem init (capacity : ℕ) : Demux (socketSubsystemInit capacity) := by
  have hempty (s : SocketEntry) (hs : s ∈ (socketSubsystemInit capacity).entries) : s.allocated = false := by
    rw [List.eq_of_mem_replicate hs]
  refine ⟨fun i j a b _ ha _ hal => ?_, fun s hs hal => ?_⟩
  · exact absurd hal (by simp [hempty a (List.mem_of_getElem? ha)])
  · exact absurd hal (by simp [hempty s hs])

end Demux

def ListenOk (t : SocketTable) : SocketEvent → Prop
  | .listen fd _ => ∀ slot s, getSocket t fd = some (slot, s) → s.error = none
  | _ => True

theorem Demux.step (hd : Demux t) (hw : ∀ s ∈ t.entries, OwnedEntry s) {event : SocketEvent}
    (he : ListenOk t event) : Demux (socketStep env t event).1 := by
  cases event with
  | socket domain type protocol => exact hd.coreSocket domain type protocol
  | assignOwner fd owner => exact hd.assignOwner fd owner
  | bind fd addr => exact hd.coreBind fd addr
  | connect fd addr seed now => exact hd.coreConnect fd addr seed
  | listen fd backlog => exact hd.coreListen fd backlog he
  | accept fd => exact hd.coreAccept fd
  | send fd data now => exact hd.coreSend fd data
  | recv fd length => exact hd.coreRecv fd length
  | sendto fd hasBuffer length dst => exact hd.coreSendtoBind fd hasBuffer length dst
  | recvfrom fd hasBuffer length => exact hd.coreRecvfrom fd hasBuffer length
  | close fd now => exact hd.coreClose fd
  | segment srcIp dstIp hdr payload seed now => exact hd.tcpInputSegment hw srcIp dstIp hdr payload seed
  | datagram localIp port source payload => exact hd.udpDeliver localIp port source payload
  | tick now => exact hd.tcpTick hw

theorem Reachable.demux (ht : Reachable (fun _ t event => ListenOk t event) t) : Demux t := by
  induction ht with
  | init capacity _ => exact .init capacity
  | step env event ht he ih => exact ih.step (fun s hs => (ht.owned s hs).2) he

structure ScanOk (t : SocketTable) (p : SocketEntry → Bool) : Prop where
  unique : t.entries.countP p ≤ 1
  order : ∀ l, t.entries.Perm l → l.find? p = t.entries.find? p

theorem ScanOk.of_apart {p : SocketEntry → Bool} (h : t.entries.Apart fun a b => p a = true → p b = false) :
    ScanOk t p :=
  ⟨h.countP_le_one, fun _ hl => hl.find?_eq_of_countP_le_one h.countP_le_one⟩

structure Unambiguous (t : SocketTable) : Prop where
  datagram : t.entries.Apart fun a b => a.allocated = true → b.allocated = true → a.type = .dgram → b.type = .dgram →
    a.localAddr.port ≠ 0 → a.localAddr.port = b.localAddr.port → overlaps a.localAddr.ip b.localAddr.ip = false
  tuple : t.entries.Apart fun a b => a.allocated = true → b.allocated = true → a.type = .stream → b.type = .stream →
    a.tcp.state ≠ .closed → a.tcp.state ≠ .listen → b.tcp.state ≠ .closed → b.tcp.state ≠ .listen →
    ¬ (a.localAddr = b.localAddr ∧ a.remoteAddr = b.remoteAddr)
  bound : ∀ ip port, port ≠ 0 → ScanOk t (boundMatch .dgram ip port)
  connection : ∀ localAddr remoteAddr, ScanOk t (connectionMatch localAddr remoteAddr)
  listener : ∀ localAddr, ScanOk t (listenerMatch localAddr)

namespace Demux

theorem datagram (hd : Demux t) : t.entries.Apart fun a b => a.allocated = true → b.allocated = true →
    a.type = .dgram → b.type = .dgram → a.localAddr.port ≠ 0 → a.localAddr.port = b.localAddr.port →
    overlaps a.localAddr.ip b.localAddr.ip = false := by
  intro i j a b hij ha hb haa hba hak hbk h0 hp
  by_contra ho
  have hs := hd.apart i j a b hij ha hb haa hba (hak.trans hbk.symm) hp h0 (by simpa using ho)
  exact absurd (hak.symm.trans hs.stream) (by decide)

theorem tuple (hd : Demux t) : t.entries.Apart fun a b => a.allocated = true → b.allocated = true →
    a.type = .stream → b.type = .stream → a.tcp.state ≠ .closed → a.tcp.state ≠ .listen → b.tcp.state ≠ .closed →
    b.tcp.state ≠ .listen → ¬ (a.localAddr = b.localAddr ∧ a.remoteAddr = b.remoteAddr) := by
  rintro i j a b hij ha hb haa hba hak hbk hac hal hbc hbl ⟨hl, hr⟩
  have hport := hd.ported a (List.mem_of_getElem? ha) haa hak (.inl (role_live hac hal))
  have hs := hd.apart i j a b hij ha hb haa hba (hak.trans hbk.symm) (by rw [hl]) hport (by simp [overlaps, hl])
  exact (hs.live (role_live hac hal) (role_live hbc hbl)).elim (fun h => h hl) (fun h => h hr)

theorem unambiguous (hd : Demux t) : Unambiguous t where
  datagram := hd.datagram
  tuple := hd.tuple
  bound ip port h0 := by
    refine .of_apart fun i j a b hij ha hb hma => ?_
    by_contra hmb
    obtain ⟨haa, hak, hap, hai⟩ := boundMatch_iff.mp hma
    obtain ⟨hba, hbk, hbp, hbi⟩ := boundMatch_iff.mp (by simpa using hmb)
    have hno := hd.datagram i j a b hij ha hb haa hba hak hbk (hap ▸ h0) (hap.trans hbp.symm)
    rw [overlaps_of_match hai hbi] at hno
    exact absurd hno (by decide)
  connection localAddr remoteAddr := by
    refine .of_apart fun i j a b hij ha hb hma => ?_
    by_contra hmb
    obtain ⟨haa, hak, hav, hal, har⟩ := connectionMatch_iff.mp hma
    obtain ⟨hba, hbk, hbv, hbl, hbr⟩ := connectionMatch_iff.mp (by simpa using hmb)
    exact hd.tuple i j a b hij ha hb haa hba hak hbk (live_of_role hav).1 (live_of_role hav).2
      (live_of_role hbv).1 (live_of_role hbv).2 ⟨hal.trans hbl.symm, har.trans hbr.symm⟩
  listener localAddr := by
    refine .of_apart fun i j a b hij ha hb hma => ?_
    by_contra hmb
    obtain ⟨haa, -, hak, hal, hap, hai⟩ := listenerMatch_iff.mp hma
    obtain ⟨hba, -, hbk, hbl, hbp, hbi⟩ := listenerMatch_iff.mp (by simpa using hmb)
    have hport := hd.ported a (List.mem_of_getElem? ha) haa hak (.inr hal)
    exact (hd.apart i j a b hij ha hb haa hba (hak.trans hbk.symm) (hap.trans hbp.symm) hport
      (overlaps_of_match hai hbi)).listening ⟨hal, hbl⟩

end Demux

theorem unambiguous_of_listenOk (ht : Reachable (fun _ t event => ListenOk t event) t) : Unambiguous t :=
  ht.demux.unambiguous

def hijackRun : List SocketEvent :=
  [.socket 2 1 0, .bind 1 (some ⟨0, 80⟩), .listen 1 4,
    .segment 0x0200000a 0x0100000a ⟨4000, 80, 50, 0, synFlag, 1000, []⟩ [] 7 100,
    .segment 0x0200000a 0x0100000a ⟨4000, 80, 51, 8, ackFlag, 1000, []⟩ [] 0 101,
    .accept 1,
    .segment 0x0200000a 0x0100000a ⟨4000, 80, 51, 8, rstFlag, 0, []⟩ [] 0 102]

def hijackTable : SocketTable := socketRun steadyEnv (socketSubsystemInit 4) (hijackRun ++ [.listen 2 4])

theorem hijackTable_ambiguous : Reachable (fun _ _ _ => True) hijackTable ∧ ¬ Unambiguous hijackTable := by
  have hrun : AdmissibleRun (fun _ _ _ => True) steadyEnv (socketSubsystemInit 4) (hijackRun ++ [.listen 2 4]) :=
    ⟨trivial, trivial, trivial, trivial, trivial, trivial, trivial, trivial, trivial⟩
  refine ⟨(Reachable.init 4 (by decide)).run steadyEnv _ hrun, fun h => ?_⟩
  · exact absurd (h.listener ⟨0x0100000a, 80⟩).unique (by decide)

theorem unambiguous_hijackRun :
    Unambiguous (socketRun steadyEnv (socketSubsystemInit 4) hijackRun) ∧
      (socketRun steadyEnv (socketSubsystemInit 4) hijackRun).entries.countP (listenerMatch ⟨0x0100000a, 80⟩) = 1 := by
  refine ⟨unambiguous_of_listenOk ((Reachable.init 4 (by decide)).run steadyEnv hijackRun ?_), by decide⟩
  refine ⟨trivial, trivial, fun slot s h => ?_, trivial, trivial, trivial, trivial, trivial⟩
  have hg : getSocket (socketRun steadyEnv (socketSubsystemInit 4) (hijackRun.take 2)) 1 = some (0,
      { fd := 1, allocated := true, isOpen := true, type := .stream, localAddr := ⟨0, 80⟩ }) := by decide
  obtain ⟨rfl, rfl⟩ := Prod.mk.inj (Option.some.inj (hg.symm.trans h))
  rfl

end PulsarNetstack
