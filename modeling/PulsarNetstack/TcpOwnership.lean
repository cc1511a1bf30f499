import PulsarNetstack.TcpBookkeeping

namespace PulsarNetstack

variable {env : TcpEnv} {s s' : SocketEntry} {isOpen : Bool} {c : TcpConnection} {seg : Segment} {now : ℕ}

def Opening (state : TcpState) : Prop :=
  state = .closed ∨ state = .listen ∨ state = .synSent ∨ state = .synReceived

instance (state : TcpState) : Decidable (Opening state) := by unfold Opening; infer_instance

def StateOk (peerFin closing : Bool) (txLen : ℕ) : TcpState → Prop
  | .closed | .listen | .synSent | .synReceived => peerFin = false ∧ txLen = 0
  | .established => peerFin = false
  | .closeWait => peerFin = true
  | .finWait1 => closing = true ∧ txLen = 0
  | .finWait2 => peerFin = false ∧ closing = true ∧ txLen = 0
  | .lastAck | .timeWait => peerFin = true ∧ closing = true ∧ txLen = 0

def HolderOk (isOpen : Bool) : TcpState → Prop
  | .closed | .listen | .synSent => isOpen = true
  | .synReceived => isOpen = false
  | _ => True

structure Owned (isOpen : Bool) (c : TcpConnection) : Prop where
  held : isOpen = true → c.closing = false ∧ c.parent = 0
  child : c.parent ≠ 0 → c.closing = false
  stateOk : StateOk c.peerFin c.closing c.txLen c.state
  holder : HolderOk isOpen c.state

def OwnedEntry (s : SocketEntry) : Prop :=
  s.allocated = true → s.type = .stream → Owned s.isOpen s.tcp

theorem Owned.empty : Owned true {} :=
  ⟨fun _ => ⟨rfl, rfl⟩, fun h => absurd rfl h, ⟨rfl, rfl⟩, rfl⟩

theorem Streaming.stateOk_txLen {peerFin closing : Bool} {txLen : ℕ} {state : TcpState} (hs : Streaming state)
    (h : StateOk peerFin closing txLen state) (closing' : Bool) (txLen' : ℕ) :
    StateOk peerFin closing' txLen' state := by
  rcases hs with rfl | rfl <;> exact h

theorem Streaming.holderOk {state : TcpState} (hs : Streaming state) (isOpen : Bool) : HolderOk isOpen state := by
  rcases hs with rfl | rfl <;> trivial

theorem Bookkeeping.fin_flight (hb : Bookkeeping c) (hf : flag c.flightFlags finFlag = true) :
    (c.state = .finWait1 ∨ c.state = .lastAck) ∧ c.flightLen = 0 := by
  cases hb.flight with
  | idle _ hf' => rw [hf'] at hf; exact absurd hf (by decide)
  | data _ hf' => rw [hf'] at hf; exact absurd hf (by decide)
  | syn _ hf' => rcases hf' with hf' | hf' <;> rw [hf'] at hf <;> exact absurd hf (by decide)
  | fin hs _ hl => exact ⟨hs, hl⟩

theorem Bookkeeping.data_flight (hb : Bookkeeping c) (hl : c.flightLen ≠ 0) :
    Streaming c.state ∧ c.flightFlags ≠ 0 := by
  cases hb.flight with
  | data hs hf => exact ⟨hs, by rw [hf]; decide⟩
  | idle _ _ hl' => exact absurd hl' hl
  | syn _ _ hl' => exact absurd hl' hl
  | fin _ _ hl' => exact absurd hl' hl

theorem Bookkeeping.completed_streaming (hb : Bookkeeping c) (hs : c.state ≠ .synSent) (hr : c.state ≠ .synReceived)
    (hu : before c.sndUna c.sndNxt = true) (hf : flag c.flightFlags finFlag = false) : Streaming c.state := by
  cases hb.flight with
  | data hd => exact hd
  | idle _ _ _ hi => rw [hi, before_self] at hu; exact absurd hu (by decide)
  | syn hd => exact absurd hd (by simp [hs, hr])
  | fin _ hf' => rw [hf'] at hf; exact absurd hf (by decide)

theorem ackAdvance_txLen (hl : c.flightLen = 0) (ack : Word) (now : ℕ) : (ackAdvance c ack now).txLen = c.txLen := by
  simp [ackAdvance, hl]

theorem receivePayload_state (c : TcpConnection) (seg : Segment) : (receivePayload c seg).state = c.state := by
  unfold receivePayload
  split <;> rfl

theorem updateWindow_state (c : TcpConnection) (seg : Segment) : (updateWindow c seg).state = c.state := by
  unfold updateWindow
  split <;> rfl

theorem acknowledge_not_opening (hno : ¬ Opening s.tcp.state) {ack : Word} {r : SocketEntry}
    (he : (acknowledge env s ack now).1 = r) (hcl : r.tcp.state ≠ .closed) : ¬ Opening r.tcp.state := by
  subst he
  generalize hres : acknowledge env s ack now = r at hcl ⊢
  cases hres ▸ acknowledge_cases env s ack now with
  | duplicate | advanced | completed => exact hno
  | lastAck => exact absurd (by rw [tcpFail_tcp]) hcl
  | timeWait => exact (by decide : ¬ Opening .timeWait)
  | finWait2 => exact (by decide : ¬ Opening .finWait2)

theorem acknowledge_dead (hno : ¬ Opening s.tcp.state) {ack : Word} {r : SocketEntry}
    (he : (acknowledge env s ack now).1 = r) (hd : r.allocated = false ∨ r.tcp.state = .closed) :
    r.allocated = false ∨ ∃ s₀ e, r = (tcpFail s₀ e).1 := by
  rcases hd with hd | hd
  · exact .inl hd
  subst he
  generalize hres : acknowledge env s ack now = r at hd ⊢
  cases hres ▸ acknowledge_cases env s ack now with
  | duplicate | advanced | completed => exact absurd (.inl hd) hno
  | lastAck => exact .inr ⟨_, _, rfl⟩
  | timeWait => exact absurd hd (by simp [tcpTimeWait])
  | finWait2 => exact absurd hd (by simp)

namespace Owned

theorem streaming_of_open (h : Owned isOpen c) (ho : isOpen = true) (hl : c.state ≠ .listen) (hc : c.state ≠ .closed)
    (hn : c.state ≠ .synSent) (hr : c.state ≠ .synReceived) : Streaming c.state := by
  have hok := h.stateOk
  rw [(h.held ho).1] at hok
  generalize c.state = state at *
  cases state <;> simp_all [StateOk, Streaming]

theorem not_open (h : Owned isOpen c) (hc : c.closing = true) : isOpen = false := by
  by_contra ho
  exact absurd (h.held (by simpa using ho)).1 (by simp [hc])

theorem fail (s : SocketEntry) (e : Option Errno) : OwnedEntry (tcpFail s e).1 := by
  rw [tcpFail_entry]
  split
  · rename_i ho
    intro _ _
    rw [ho]
    exact empty
  · intro ha
    exact absurd ha (by decide)

theorem finState (h : Owned isOpen c) (hs : Streaming c.state) (ht : c.txLen = 0) (hc : c.closing = true) :
    StateOk c.peerFin c.closing c.txLen (finState c.state) ∧ HolderOk isOpen (PulsarNetstack.finState c.state) ∧
      AwaitingControl (PulsarNetstack.finState c.state) := by
  have hok := h.stateOk
  rcases hs with hs | hs <;> rw [hs] at hok ⊢
  · exact ⟨⟨hc, ht⟩, trivial, by decide⟩
  · exact ⟨⟨hok, hc, ht⟩, trivial, by decide⟩

theorem kick (h : Owned s.isOpen s.tcp) : OwnedEntry (tcpKick env s now).1 := by
  generalize hr : tcpKick env s now = r
  cases hr ▸ tcpKick_cases env s now with
  | blocked | waiting | empty => exact fun _ _ => h
  | probe => exact fun _ _ => { h with }
  | failed => exact fail _ _
  | data hf hs hw ht mtu hm s' he =>
    subst he
    exact fun _ _ => { h with }
  | fin hf hs ht hc s' he =>
    subst he
    obtain ⟨hst, hho, -⟩ := h.finState hs ht hc
    exact fun _ _ => { h with stateOk := hst, holder := hho }

theorem acknowledge (hb : Bookkeeping s.tcp) (h : Owned s.isOpen s.tcp) (hs : s.tcp.state ≠ .synSent)
    (hr : s.tcp.state ≠ .synReceived) {ack : Word} (ha : before s.tcp.sndNxt ack = false) {r : SocketEntry}
    (he : (acknowledge env s ack now).1 = r) (hcl : r.tcp.state ≠ .closed) : Owned r.isOpen r.tcp := by
  subst he
  generalize hres : PulsarNetstack.acknowledge env s ack now = r at hcl ⊢
  cases hres ▸ acknowledge_cases env s ack now with
  | duplicate => exact h
  | advanced hu hn =>
    have hl : s.tcp.flightLen ≠ 0 := fun hl => hn (hb.ack_control hl hu ha)
    exact { h with stateOk := (hb.data_flight hl).1.stateOk_txLen h.stateOk _ _ }
  | completed hu hn hf =>
    have hstr := hb.completed_streaming hs hr (hn ▸ hu) hf
    exact { h with stateOk := hstr.stateOk_txLen h.stateOk _ _ }
  | lastAck => exact absurd (by rw [tcpFail_tcp]) hcl
  | timeWait _ hn hf hs hp =>
    obtain ⟨hst, hl⟩ := hb.fin_flight hf
    have hok := h.stateOk
    rw [hst.resolve_right hs] at hok
    exact { h with stateOk := ⟨hp, hok.1, (ackAdvance_txLen hl ack now).trans hok.2⟩, holder := trivial }
  | finWait2 _ hn hf hs hp =>
    obtain ⟨hst, hl⟩ := hb.fin_flight hf
    have hok := h.stateOk
    rw [hst.resolve_right hs] at hok
    exact { h with stateOk := ⟨hp, hok.1, (ackAdvance_txLen hl ack now).trans hok.2⟩, holder := trivial }

theorem updateWindow (h : Owned isOpen c) : Owned isOpen (updateWindow c seg) := by
  unfold PulsarNetstack.updateWindow
  split
  · exact { h with }
  · exact h

theorem receivePayload (h : Owned isOpen c) : Owned isOpen (receivePayload c seg) := by
  unfold PulsarNetstack.receivePayload
  split
  · exact { h with }
  · exact h

theorem receiveFin (h : Owned isOpen c) (hno : ¬ Opening c.state) : Owned isOpen (receiveFin env c seg now) := by
  unfold PulsarNetstack.receiveFin
  split
  · rename_i hfin
    have hpeer : c.peerFin = false := by
      simp only [Bool.and_eq_true] at hfin
      simpa using hfin.1.1
    have hok := h.stateOk
    dsimp only
    split
    · exact { h with stateOk := rfl, holder := trivial }
    rename_i hest
    split
    · rename_i hs
      rw [hs] at hok
      exact { h with stateOk := ⟨rfl, hok.2⟩, holder := trivial }
    · rename_i hfw
      refine { h with stateOk := ?_ }
      change StateOk true c.closing c.txLen c.state
      generalize c.state = state at hok hno hest hfw
      cases state <;> simp_all [StateOk, Opening]
  · exact h

theorem receiveSegment (h : Owned isOpen c) (hno : ¬ Opening c.state) :
    Owned isOpen (receiveSegment env c seg now) := by
  unfold PulsarNetstack.receiveSegment
  split
  · exact h.receivePayload
  · refine h.receivePayload.receiveFin ?_
    rwa [receivePayload_state]

theorem inputAccepted (hno : ¬ Opening s.tcp.state)
    (h : ∀ r, (PulsarNetstack.acknowledge env s seg.ack now).1 = r → r.tcp.state ≠ .closed → Owned r.isOpen r.tcp) :
    OwnedEntry (tcpInputAccepted env s seg now).entry := by
  rcases tcpInputAccepted_entry env s seg now _ rfl with ⟨hd, he⟩ | ⟨ha, hc, he⟩
  · rw [he]
    rcases acknowledge_dead hno rfl hd with hn | ⟨s₀, e, hf⟩
    · exact fun ha => absurd ha (by simp [hn])
    · rw [hf]
      exact fail s₀ e
  · rw [he]
    refine kick ((h _ rfl hc).updateWindow.receiveSegment ?_)
    rw [updateWindow_state]
    exact acknowledge_not_opening hno rfl hc

theorem opened (h : Owned isOpen c) (hs : c.state = .synReceived) (ack : Word) (now expires : ℕ) :
    Owned isOpen { ackComplete c ack now with state := .established, expires := expires } := by
  have hok := h.stateOk
  rw [hs] at hok
  exact { h with stateOk := hok.1, holder := trivial }

theorem input (hb : Bookkeeping s.tcp) (h : Owned s.isOpen s.tcp) (hc : s.tcp.state ≠ .closed)
    (hl : s.tcp.state ≠ .listen) (localAddr remoteAddr : SockAddr) :
    OwnedEntry (tcpInputConnection env s localAddr remoteAddr seg now).entry := by
  generalize hres : tcpInputConnection env s localAddr remoteAddr seg now = r
  cases hres ▸ tcpInputConnection_cases env s localAddr remoteAddr seg now with
  | keep => exact fun _ _ => h
  | failed => exact fail _ _
  | established hs ha hf s' he =>
    subst he
    have hok := h.stateOk
    rw [hs] at hok
    exact fun _ _ => { h with stateOk := hok.1, holder := trivial }
  | timeWait hs =>
    have hok := h.stateOk
    rw [hs] at hok
    exact fun _ _ => { h with stateOk := hok, holder := trivial }
  | accepted hs hr _ _ hack =>
    have hno : ¬ Opening s.tcp.state := by
      rintro (h | h | h | h)
      exacts [hc h, hl h, hs h, hr h]
    exact inputAccepted hno fun r he hc => h.acknowledge hb hs hr hack he hc
  | opened hs _ hack _ s₀ h₀ =>
    subst h₀
    refine inputAccepted (by decide : ¬ Opening .established) fun r he _ => ?_
    rw [hack, hb.acknowledge_opened hs] at he
    subst he
    exact h.opened hs _ _ _

theorem tick (h : Owned s.isOpen s.tcp) : OwnedEntry (tcpTickEntry env s now).1 := by
  generalize hr : tcpTickEntry env s now = r
  cases hr ▸ tcpTickEntry_cases env s now with
  | waiting => exact fun _ _ => h
  | failed => exact fail _ _
  | resent | probed | cleared => exact fun _ _ => { h with }

theorem send (h : Owned s.isOpen s.tcp) (data : List Byte) : OwnedEntry (tcpSend env s data now).1 := by
  generalize hr : tcpSend env s data now = r
  cases hr ▸ tcpSend_cases env s data now with
  | unchanged => exact fun _ _ => h
  | queued hs he n hn s₁ h₁ =>
    subst h₁
    have hbuf : Owned s.isOpen { s.tcp with tx := s.tcp.tx ++ data.take n, txLen := add16 s.tcp.txLen n } :=
      { h with stateOk := hs.stateOk_txLen h.stateOk _ _ }
    exact kick hbuf

theorem recv (h : Owned s.isOpen s.tcp) (length : ℕ) : OwnedEntry (tcpRecv s length).1 := by
  generalize hr : tcpRecv s length = r
  cases hr ▸ tcpRecv_cases s length with
  | refused | nothing => exact fun _ _ => h
  | data hl hr n hn s' he =>
    subst he
    exact fun _ _ => { h with }

theorem listen (h : OwnedEntry s) (ho : s.isOpen = true) (backlog : ℤ) : OwnedEntry (tcpListen s backlog).1 := by
  unfold tcpListen
  split
  · exact h
  split
  · exact h
  · rename_i hs
    have hs : s.tcp.state = .closed ∨ s.tcp.state = .listen := by
      by_contra hn
      exact hs (not_or.mp hn)
    intro ha hk
    have h := h ha hk
    refine { h with stateOk := ?_, holder := ho }
    have hok := h.stateOk
    rcases hs with hs | hs <;> rw [hs] at hok <;> exact hok

theorem accept (h : OwnedEntry s) {fd : ℕ} (hf : 0 < fd) (ha : acceptable fd s = true) : OwnedEntry (acceptEntry s) := by
  simp only [acceptable, Bool.and_eq_true, Bool.or_eq_true, beq_iff_eq] at ha
  obtain ⟨⟨⟨hal, hk⟩, hp⟩, hs⟩ := ha
  have h := h hal hk
  exact fun _ _ => { h with
    held := fun _ => ⟨h.child (by omega), rfl⟩
    child := fun hp => absurd rfl hp
    holder := Streaming.holderOk hs true }

theorem closing (h : Owned s.isOpen s.tcp) (ho : s.isOpen = true) (hst : Streaming s.tcp.state) :
    Owned false { s.tcp with closing := true } where
  held ho := absurd ho (by decide)
  child hp := absurd (h.held ho).2 hp
  stateOk := hst.stateOk_txLen h.stateOk _ _
  holder := hst.holderOk false

theorem close (h : Owned s.isOpen s.tcp) (ho : s.isOpen = true) (hl : s.tcp.state ≠ .listen) :
    OwnedEntry (closeEntry env s now).1 := by
  unfold closeEntry
  dsimp only
  split
  · exact fail _ _
  · rename_i hn
    obtain ⟨hc, hn, hr⟩ := by simpa only [not_or] using hn
    exact kick (h.closing ho (h.streaming_of_open ho hl hc hn hr))

theorem step (hb : Bookkeeping s.tcp) (h : OwnedEntry s) (hs : EntryStep env now s s') : OwnedEntry s' := by
  cases hs with
  | frame ht ho ha hk => unfold OwnedEntry; rw [ht, ho, ha, hk]; exact h
  | clear => exact fun ha => absurd ha (by decide)
  | allocate => exact fun _ _ => empty
  | connect ha hk ho he hs =>
    have h := h ha hk
    have hok := h.stateOk
    rw [hs] at hok
    exact fun _ _ => { h with stateOk := hok, holder := ho }
  | listen _ _ ho backlog => exact listen h ho backlog
  | accept fd hf ha => exact accept h hf ha
  | send ha hk ho data => exact send (h ha hk) data
  | recv ha hk ho length => exact recv (h ha hk) length
  | close ha hk ho hs => exact close (h ha hk) ho hs
  | fail => exact fail _ _
  | input hk ha hc hl la ra seg hm => exact input hb (h ha hk) hc hl la ra
  | child ha fd parent la ra seg hm seed =>
    exact fun _ _ => ⟨fun ho => absurd ho (by simp [childEntry]), fun _ => rfl, ⟨rfl, rfl⟩, rfl⟩
  | tick ha hk => exact tick (h ha hk)

end Owned

theorem Reachable.owned {admissible : TcpEnv → SocketTable → SocketEvent → Prop} {t : SocketTable}
    (ht : Reachable admissible t) : ∀ s ∈ t.entries, Bookkeeping s.tcp ∧ OwnedEntry s :=
  ht.forall_entries ⟨.empty, fun ha => absurd ha (by decide)⟩
    fun _ _ _ _ _ _ hs h => ⟨h.1.step hs, Owned.step h.1 h.2 hs⟩

end PulsarNetstack
