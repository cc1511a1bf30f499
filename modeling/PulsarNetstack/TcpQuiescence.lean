import Mathlib.Data.Prod.Lex
import Mathlib.Order.WellFounded
import PulsarNetstack.TcpStream

namespace PulsarNetstack

variable {env : TcpEnv} {s s' : SocketEntry} {c c' : TcpConnection} {seg : Segment} {now : ℕ}
  {localAddr remoteAddr : SockAddr}

def Held (s : SocketEntry) : Prop := s.tcp.state ≠ .closed → s.allocated = true ∧ s.type = .stream

namespace Held

theorem of_closed (h : s.tcp.state = .closed) : Held s := fun hc => absurd h hc

theorem kick (ha : s.allocated = true) (hk : s.type = .stream) : Held (tcpKick env s now).1 := by
  generalize hres : tcpKick env s now = r
  cases hres ▸ tcpKick_cases env s now with
  | blocked | waiting | empty | probe => exact fun _ => ⟨ha, hk⟩
  | failed => exact of_closed (by simp)
  | data _ _ _ _ _ _ s' he => subst he; exact fun _ => ⟨ha, hk⟩
  | fin _ _ _ _ s' he => subst he; exact fun _ => ⟨ha, hk⟩

theorem acknowledge (ha : s.allocated = true) (hk : s.type = .stream) (ack : Word) :
    Held (acknowledge env s ack now).1 := by
  generalize hres : PulsarNetstack.acknowledge env s ack now = r
  cases hres ▸ acknowledge_cases env s ack now with
  | duplicate | advanced | completed | timeWait | finWait2 => exact fun _ => ⟨ha, hk⟩
  | lastAck => exact of_closed (by simp)

theorem inputAccepted (ha : s.allocated = true) (hk : s.type = .stream) :
    Held (tcpInputAccepted env s seg now).entry := by
  have h : Held (PulsarNetstack.acknowledge env s seg.ack now).1 := acknowledge ha hk seg.ack
  rcases tcpInputAccepted_entry env s seg now _ rfl with ⟨-, he⟩ | ⟨-, hn, he⟩
  · rw [he]
    exact h
  · rw [he]
    exact kick (h hn).1 (h hn).2

theorem input (ha : s.allocated = true) (hk : s.type = .stream) :
    Held (tcpInputConnection env s localAddr remoteAddr seg now).entry := by
  generalize hres : tcpInputConnection env s localAddr remoteAddr seg now = r
  cases hres ▸ tcpInputConnection_cases env s localAddr remoteAddr seg now with
  | keep | timeWait => exact fun _ => ⟨ha, hk⟩
  | failed => exact of_closed (by simp)
  | established _ _ _ s' he => subst he; exact fun _ => ⟨ha, hk⟩
  | accepted => exact inputAccepted ha hk
  | opened _ _ _ _ s₀ h₀ =>
    subst h₀
    apply inputAccepted
    · exact ha
    · exact hk

theorem step (h : Held s) (hs : EntryStep env now s s') : Held s' := by
  cases hs with
  | frame ht _ ha hk =>
    intro hc
    rw [ht] at hc
    rw [ha, hk]
    exact h hc
  | clear | allocate => exact of_closed rfl
  | connect ha hk => exact fun _ => ⟨ha, hk⟩
  | listen ha hk =>
    unfold tcpListen
    dsimp only
    split_ifs <;> exact fun _ => ⟨ha, hk⟩
  | accept fd hf ha => exact fun hc => h hc
  | send ha hk _ data =>
    generalize hres : tcpSend env s data now = r
    cases hres ▸ tcpSend_cases env s data now with
    | unchanged => exact h
    | queued _ _ _ _ s₁ h₁ =>
      subst h₁
      apply kick
      · exact ha
      · exact hk
  | recv ha hk _ length =>
    generalize hres : tcpRecv s length = r
    cases hres ▸ tcpRecv_cases s length with
    | refused | nothing => exact h
    | data _ _ _ _ s' he => subst he; exact fun _ => ⟨ha, hk⟩
  | close ha hk =>
    unfold closeEntry
    dsimp only
    split
    · exact of_closed (by simp)
    · apply kick
      · exact ha
      · exact hk
  | fail => exact of_closed (by simp)
  | input hk ha => exact input ha hk
  | child => exact fun _ => ⟨rfl, rfl⟩
  | tick ha hk =>
    generalize hres : tcpTickEntry env s now = r
    cases hres ▸ tcpTickEntry_cases env s now with
    | waiting => exact h
    | failed => exact of_closed (by simp)
    | resent | probed | cleared => exact fun _ => ⟨ha, hk⟩

end Held

theorem Side.step_entryStep (x : Side) {e : SideEvent} {sent : List Segment} (he : e.Deliverable sent) :
    ∃ env now, EntryStep env now x.entry (x.step e).entry := by
  cases e with
  | send env data now =>
    refine ⟨env, now, ?_⟩
    simp only [step, send]
    split
    · rename_i hc
      obtain ⟨ha, ho, hk⟩ := SideOk.callable_iff.mp hc
      exact .send ha hk ho data
    · exact .refl _
  | recv length =>
    refine ⟨steadyEnv, 0, ?_⟩
    simp only [step, recv]
    split
    · rename_i hc
      obtain ⟨ha, ho, hk⟩ := SideOk.callable_iff.mp hc
      exact .recv ha hk ho length
    · exact .refl _
  | close env now =>
    refine ⟨env, now, ?_⟩
    simp only [step, close]
    split
    · rename_i hc
      obtain ⟨ha, ho, hk⟩ := SideOk.callable_iff.mp hc.1
      exact .close ha hk ho hc.2
    · exact .refl _
  | accept fd =>
    refine ⟨steadyEnv, 0, ?_⟩
    simp only [step, accept]
    split
    · rename_i hc
      exact .accept fd hc.1 hc.2
    · exact .refl _
  | tick env now =>
    refine ⟨env, now, ?_⟩
    simp only [step, tick, tickSlot]
    split
    · rename_i hc
      exact .tick hc.1 hc.2
    · exact .refl _
  | input env seg now =>
    refine ⟨env, now, ?_⟩
    simp only [step, input]
    split
    · rename_i hc
      obtain ⟨ha, hk, hcl, hl⟩ := SideOk.connected_iff.mp hc
      exact .input hk ha hcl hl _ _ seg he.1
    · exact .refl _

theorem PairReachable.entries {P : SocketEntry → Prop} (hempty : P {}) (hfresh : ∀ s, FreshSocket s → P s)
    (hstep : ∀ env now s s', EntryStep env now s s' → P s → P s') {p : Pair} (h : PairReachable p) :
    P p.client.entry ∧ P p.server.entry := by
  induction h with
  | connect env hs addr source seed serverSeed now =>
    refine ⟨hstep env now _ _ (.connect hs.allocated hs.stream hs.isOpen hs.error ?_ _ addr source seed) (hfresh _ hs),
      hempty⟩
    rw [hs.tcp]
  | @step p h e he ih =>
    cases e with
    | client e =>
      obtain ⟨env, now, hs⟩ := p.client.step_entryStep he
      exact ⟨hstep _ _ _ _ hs ih.1, ih.2⟩
    | server e =>
      obtain ⟨env, now, hs⟩ := p.server.step_entryStep he
      exact ⟨ih.1, hstep _ _ _ _ hs ih.2⟩
    | passiveOpen env fd parent localAddr remoteAddr seg now =>
      exact ⟨ih.1, hstep env now {} _ (.child rfl fd parent localAddr remoteAddr seg he.2.1.1 p.server.iss) hempty⟩

structure Settling (s : SocketEntry) : Prop where
  bookkeeping : Bookkeeping s.tcp
  held : Held s
  state : s.tcp.state = .closed ∨ ¬ Opening s.tcp.state

theorem PairReachable.settling {p : Pair} (h : PairReachable p) (hc : p.client.entry.tcp.state = .established)
    (hs : p.server.entry.tcp.state = .established) : Settling p.client.entry ∧ Settling p.server.entry := by
  have hb := h.entries (P := fun s => Bookkeeping s.tcp) .empty (fun s hs => hs.tcp ▸ .empty)
    (fun _ _ _ _ hs hb => hb.step hs)
  have hh := h.entries (P := Held) (.of_closed rfl) (fun s hs => .of_closed (by rw [hs.tcp]))
    (fun _ _ _ _ hs hh => hh.step hs)
  refine ⟨⟨hb.1, hh.1, .inr ?_⟩, hb.2, hh.2, .inr ?_⟩
  · rw [hc]
    decide
  · rw [hs]
    decide

structure Posture where
  state : TcpState
  sndNxt : Word
  rcvNxt : Word
  rxLen : ℕ
  deriving DecidableEq

def TcpConnection.posture (c : TcpConnection) : Posture := ⟨c.state, c.sndNxt, c.rcvNxt, c.rxLen⟩

def stateRank : TcpState → ℕ
  | .established => 5
  | .closeWait | .finWait1 => 4
  | .finWait2 | .lastAck => 3
  | .timeWait => 2
  | _ => 1

/-- What an endpoint can still do without a call or a timer: start flights, have them acknowledged, take data
into its buffer, take the FIN of the peer, and end. -/
def potential (c : TcpConnection) : ℕ :=
  if c.state = .closed then 0
  else stateRank c.state + (2 * c.txLen - c.flightLen) + (tcpBufferSize - c.rxLen) + (if c.peerFin then 0 else 1)

theorem potential_of_ne (h : c.state ≠ .closed) : potential c =
    stateRank c.state + (2 * c.txLen - c.flightLen) + (tcpBufferSize - c.rxLen) + (if c.peerFin then 0 else 1) :=
  if_neg h

def Settles (c c' : TcpConnection) : Prop :=
  potential c' < potential c ∨ potential c' = potential c ∧ c'.posture = c.posture

namespace Settles

theorem refl (c : TcpConnection) : Settles c c := .inr ⟨rfl, rfl⟩

theorem trans {c₁ c₂ c₃ : TcpConnection} (h : Settles c₁ c₂) (h' : Settles c₂ c₃) : Settles c₁ c₃ := by
  rcases h with h | ⟨h, hp⟩ <;> rcases h' with h' | ⟨h', hp'⟩
  · exact .inl (h'.trans h)
  · exact .inl (h'.trans_lt h)
  · exact .inl (h'.trans_le h.le)
  · exact .inr ⟨h'.trans h, hp'.trans hp⟩

theorem fail (h : s.tcp.state ≠ .closed) (e : Option Errno) : potential (tcpFail s' e).1.tcp < potential s.tcp := by
  rw [tcpFail_tcp]
  simp only [potential, if_neg h, ↓reduceIte]
  cases s.tcp.state <;> simp only [stateRank] <;> omega

theorem kick (hb : Bookkeeping s.tcp) : Settles s.tcp (tcpKick env s now).1.tcp ∧
    (emitted (tcpKick env s now).2 = [] ∨ potential (tcpKick env s now).1.tcp < potential s.tcp) := by
  generalize hres : tcpKick env s now = r
  cases hres ▸ tcpKick_cases env s now with
  | blocked | waiting | empty => exact ⟨.refl _, .inl rfl⟩
  | probe => exact ⟨.inr ⟨rfl, rfl⟩, .inl rfl⟩
  | failed _ hs e =>
    have hcl : s.tcp.state ≠ .closed := by rintro hc; rw [hc] at hs; exact absurd hs (by decide)
    have hlt : potential (tcpFail s (some e)).1.tcp < potential s.tcp := fail hcl (some e)
    exact ⟨.inl hlt, .inr hlt⟩
  | data hf hs hw ht mtu hm s' he =>
    subst he
    have hn : s.tcp.state ≠ .closed ∧ s.tcp.state ≠ .listen := by
      constructor <;> rintro hn <;> rw [hn] at hs <;> exact absurd hs (by decide)
    have hmss := hb.mss_pos hn.1 hn.2
    obtain ⟨hl, -⟩ := hb.idle hf
    have hlt : potential (startFlight env s.tcp (ackFlag ||| pshFlag) (flightLength s.tcp mtu) now) < potential s.tcp := by
      have hlen : 1 ≤ flightLength s.tcp mtu ∧ flightLength s.tcp mtu ≤ s.tcp.txLen := by
        unfold flightLength
        omega
      rw [potential_of_ne hn.1, potential_of_ne (show (startFlight env s.tcp _ _ now).state ≠ .closed from hn.1), hl]
      change stateRank s.tcp.state + (2 * s.tcp.txLen - flightLength s.tcp mtu) + (tcpBufferSize - s.tcp.rxLen) +
        (if s.tcp.peerFin then 0 else 1) < _
      omega
    exact ⟨.inl hlt, .inr hlt⟩
  | fin hf hs ht hc s' he =>
    subst he
    have hlt : potential (startFlight env { s.tcp with state := finState s.tcp.state } (finFlag ||| ackFlag) 0 now) <
        potential s.tcp := by
      rcases hs with hs | hs <;> simp only [potential, startFlight, finState, hs, stateRank, ht] <;> simp
    exact ⟨.inl hlt, .inr hlt⟩

theorem acknowledge (hb : Bookkeeping s.tcp) (hno : ¬ Opening s.tcp.state) {ack : Word}
    (ha : before s.tcp.sndNxt ack = false) : Settles s.tcp (acknowledge env s ack now).1.tcp := by
  have hcl : s.tcp.state ≠ .closed := fun h => hno (.inl h)
  have hle := hb.flightLen_le
  have htx := hb.txLen_le
  unfold tcpBufferSize at htx
  -- An acknowledgement of data shortens the transmit buffer and the flight by the same amount.
  have hdata (hl : s.tcp.flightLen ≠ 0) (hu : before s.tcp.sndUna ack = true) :
      potential (ackAdvance s.tcp ack now) < potential s.tcp := by
    obtain ⟨hb1, hb2⟩ := hb.ack_bytes hl hu ha
    have h1 : sub16 s.tcp.txLen (ack - s.tcp.sndUna).toNat = s.tcp.txLen - (ack - s.tcp.sndUna).toNat :=
      sub16_eq (by omega) (by omega)
    have h2 : sub16 s.tcp.flightLen (ack - s.tcp.sndUna).toNat = s.tcp.flightLen - (ack - s.tcp.sndUna).toNat :=
      sub16_eq (by omega) (by omega)
    simp only [potential, ackAdvance, if_neg hcl, if_pos hl, h1, h2]
    omega
  have hfin (hf : flag s.tcp.flightFlags finFlag = true) :
      (s.tcp.state = .finWait1 ∨ s.tcp.state = .lastAck) ∧ s.tcp.flightLen = 0 := hb.fin_flight hf
  generalize hres : PulsarNetstack.acknowledge env s ack now = r
  cases hres ▸ acknowledge_cases env s ack now with
  | duplicate => exact .refl _
  | advanced hu hn => exact .inl (hdata (fun hl => hn (hb.ack_control hl hu ha)) hu)
  | completed hu hn hf =>
    subst hn
    have hst := hb.completed_streaming (fun h => hno (.inr (.inr (.inl h)))) (fun h => hno (.inr (.inr (.inr h)))) hu hf
    exact .inl (hdata (hb.flightLen_ne_zero hst hu) hu)
  | lastAck => exact .inl (fail hcl _)
  | timeWait _ _ hf hs =>
    obtain ⟨hst, hl⟩ := hfin hf
    left
    rcases hst with hst | hst
    · simp only [potential, tcpTimeWait, ackComplete, ackAdvance, hst, hl, stateRank]
      simp
    · exact absurd hst hs
  | finWait2 _ _ hf hs =>
    obtain ⟨hst, hl⟩ := hfin hf
    left
    rcases hst with hst | hst
    · simp only [potential, ackComplete, ackAdvance, hst, hl, stateRank]
      simp
    · exact absurd hst hs

theorem updateWindow (c : TcpConnection) (seg : Segment) : Settles c (updateWindow c seg) := by
  unfold PulsarNetstack.updateWindow
  split
  · exact .inr ⟨rfl, rfl⟩
  · exact .refl _

theorem receivePayload (hb : Bookkeeping c) (hcl : c.state ≠ .closed) : Settles c (receivePayload c seg) := by
  have hrx := hb.rxLen_le
  unfold PulsarNetstack.receivePayload
  split
  · have hadd : add16 c.rxLen (receivedLength c seg) = c.rxLen + receivedLength c seg := by
      apply add16_eq
      unfold receivedLength tcpBufferSize at *
      omega
    by_cases hz : receivedLength c seg = 0
    · rw [hz, Nat.add_zero] at hadd
      refine .inr ⟨?_, ?_⟩
      · simp [potential, hadd, hz]
      · simp [TcpConnection.posture, hadd, hz]
    · left
      simp only [potential, if_neg hcl, hadd]
      unfold receivedLength tcpBufferSize at *
      omega
  · exact .refl _

theorem receiveFin (hcl : c.state ≠ .closed) : Settles c (receiveFin env c seg now) := by
  -- Taking the FIN uses up the last summand, and none of the states it leads to is farther from the end.
  have htaken {c' : TcpConnection} (hfin : c.peerFin = false) (hfin' : c'.peerFin = true) (hcl' : c'.state ≠ .closed)
      (hrank : stateRank c'.state ≤ stateRank c.state) (htx : c'.txLen = c.txLen) (hflight : c'.flightLen = c.flightLen)
      (hrx : c'.rxLen = c.rxLen) : Settles c c' := by
    left
    rw [potential_of_ne hcl, potential_of_ne hcl', htx, hflight, hrx, hfin, hfin', if_pos rfl, if_neg Bool.false_ne_true]
    omega
  unfold PulsarNetstack.receiveFin
  split
  · rename_i h
    simp only [Bool.and_eq_true, Bool.not_eq_true'] at h
    dsimp only
    split
    · rename_i hs
      have hrank : stateRank .closeWait ≤ stateRank c.state := by
        rw [show c.state = .established from hs]
        decide
      exact htaken h.1.1 rfl TcpState.noConfusion hrank rfl rfl rfl
    · split
      · rename_i hs
        have hrank : stateRank .timeWait ≤ stateRank c.state := by
          rw [show c.state = .finWait2 from hs]
          decide
        exact htaken h.1.1 rfl TcpState.noConfusion hrank rfl rfl rfl
      · exact htaken h.1.1 rfl hcl (le_refl _) rfl rfl rfl
  · exact .refl _

theorem receiveSegment (hb : Bookkeeping c) (hcl : c.state ≠ .closed) : Settles c (receiveSegment env c seg now) := by
  have hp : Settles c (PulsarNetstack.receivePayload c seg) := receivePayload hb hcl
  unfold PulsarNetstack.receiveSegment
  split
  · exact hp
  · exact hp.trans (receiveFin (by rwa [receivePayload_state]))

end Settles

def Posture.ack (k : Posture) : Segment := ⟨k.sndNxt, k.rcvNxt, ackFlag, sub16 tcpBufferSize k.rxLen, 536, []⟩

def Posture.refuses (k : Posture) (seg : Segment) : Bool :=
  if k.state = .closed then false
  else if k.state = .timeWait then !flag seg.flags rstFlag
  else if seg.seq ≠ k.rcvNxt then
    !flag seg.flags rstFlag || !before seg.seq k.rcvNxt &&
      before seg.seq (k.rcvNxt + BitVec.ofNat 32 tcpBufferSize - BitVec.ofNat 32 k.rxLen)
  else !flag seg.flags rstFlag && (flag seg.flags synFlag ||
    (seg.payload.length != 0 || flag seg.flags finFlag) && k.rxLen == tcpBufferSize ||
    flag seg.flags ackFlag && before k.sndNxt seg.ack)

def Posture.answers (k : Posture) (seg : Segment) : Bool :=
  k.refuses seg || seg.payload.length != 0 || flag seg.flags finFlag

inductive Answered (c : TcpConnection) (seg : Segment) (r : TcpResult) : Prop
  | spent (h : potential r.entry.tcp < potential c) (hr : c.posture.refuses seg = false)
  | silent (h : potential r.entry.tcp = potential c) (hp : r.entry.tcp.posture = c.posture) (he : emitted r.effects = [])
      (hr : c.posture.refuses seg = false)
  | acked (h : potential r.entry.tcp = potential c) (hp : r.entry.tcp.posture = c.posture)
      (he : emitted r.effects = [c.posture.ack]) (ha : c.posture.answers seg = true)

theorem Answered.refused (hr : s.tcp.posture.refuses seg = true) {effects : List TcpEffect} {reason : DropReason}
    (he : emitted effects = [s.tcp.posture.ack]) : Answered s.tcp seg ⟨s, effects, reason⟩ :=
  .acked rfl rfl he (by simp [Posture.answers, hr])

theorem emitted_tcpAck (s : SocketEntry) : emitted [tcpAck s] = [s.tcp.posture.ack] := rfl

theorem tcpInputAccepted_answered (hs : Settling s) (hno : ¬ Opening s.tcp.state)
    (hack : before s.tcp.sndNxt seg.ack = false) (hr : s.tcp.posture.refuses seg = false) :
    Answered s.tcp seg (tcpInputAccepted env s seg now) := by
  have hcl : s.tcp.state ≠ .closed := fun h => hno (.inl h)
  have hmss := hs.bookkeeping.mss_pos hcl (fun h => hno (.inr (.inl h)))
  obtain ⟨ha, hk⟩ := hs.held hcl
  have hsettle : Settles s.tcp (acknowledge env s seg.ack now).1.tcp := Settles.acknowledge hs.bookkeeping hno hack
  have hheld : Held (acknowledge env s seg.ack now).1 := Held.acknowledge ha hk seg.ack
  have hbook : Bookkeeping (acknowledge env s seg.ack now).1.tcp :=
    hs.bookkeeping.acknowledge hmss (fun h => hno (.inr (.inr (.inl h)))) (fun h => hno (.inr (.inr (.inr h)))) hack
  have hnone : emitted (acknowledge env s seg.ack now).2 = [] := Sender.emitted_acknowledge env s seg.ack now
  generalize hres : acknowledge env s seg.ack now = a at hsettle hheld hbook hnone
  by_cases hd : a.1.tcp.state = .closed
  · rw [tcpInputAccepted_dead env s seg now a hres (.inr hd)]
    refine .spent ?_ hr
    rcases hsettle with h | ⟨-, h⟩
    · exact h
    · exact absurd ((congrArg Posture.state h).symm.trans hd) hcl
  obtain ⟨hal, -⟩ := hheld hd
  rw [tcpInputAccepted_eq env s seg now a hres hal hd _ rfl]
  have hrecv : Settles s.tcp (receiveSegment env (updateWindow a.1.tcp seg) seg now) :=
    (hsettle.trans (.updateWindow _ _)).trans
      (.receiveSegment hbook.updateWindow (by rwa [updateWindow_state]))
  generalize hr₀ : ({ a.1 with tcp := receiveSegment env (updateWindow a.1.tcp seg) seg now } : SocketEntry) = r₀
  have hr₀' : Settles s.tcp r₀.tcp := by rw [← hr₀]; exact hrecv
  have hb₀ : Bookkeeping r₀.tcp := by rw [← hr₀]; exact hbook.updateWindow.receiveSegment
  obtain ⟨hkick, hsilent⟩ : Settles r₀.tcp (tcpKick env r₀ now).1.tcp ∧ (emitted (tcpKick env r₀ now).2 = [] ∨
      potential (tcpKick env r₀ now).1.tcp < potential r₀.tcp) := Settles.kick hb₀
  rcases hr₀' with hlt | ⟨heq, hpost⟩
  · refine .spent ?_ hr
    rcases hkick with h | ⟨h, -⟩
    · exact h.trans hlt
    · exact h.trans_lt hlt
  rcases hkick with h | ⟨h, hp⟩
  · exact .spent (h.trans_eq heq) hr
  have hsilent := hsilent.resolve_right (by omega)
  have hp := hp.trans hpost
  by_cases hdata : seg.payload.length ≠ 0 ∨ flag seg.flags finFlag = true
  · refine .acked (h.trans heq) hp ?_ ?_
    · rw [if_pos hdata, emitted_append, emitted_append, hnone, hsilent, emitted_tcpAck, hpost]
      rfl
    · rcases hdata with h | h <;> simp [Posture.answers, h]
  · refine .silent (h.trans heq) hp ?_ hr
    rw [if_neg hdata, emitted_append, emitted_append, hnone, hsilent]
    rfl

theorem tcpInputConnection_answered (hs : Settling s) (hno : ¬ Opening s.tcp.state) (env : TcpEnv)
    (localAddr remoteAddr : SockAddr) (seg : Segment) (now : ℕ) :
    Answered s.tcp seg (tcpInputConnection env s localAddr remoteAddr seg now) := by
  have hcl : s.tcp.state ≠ .closed := fun h => hno (.inl h)
  have hsent : s.tcp.state ≠ .synSent := fun h => hno (.inr (.inr (.inl h)))
  have hrecv : s.tcp.state ≠ .synReceived := fun h => hno (.inr (.inr (.inr h)))
  unfold tcpInputConnection
  simp only [hsent, hrecv, false_and, ↓reduceIte]
  by_cases ht : s.tcp.state = .timeWait
  · have hre : s.tcp.posture.refuses seg = !flag seg.flags rstFlag := by
      simp [Posture.refuses, TcpConnection.posture, ht]
    rw [if_pos ht]
    by_cases hrst : flag seg.flags rstFlag = true
    · rw [if_pos hrst]
      exact .silent rfl rfl rfl (by simp [hre, hrst])
    rw [if_neg hrst]
    split
    · refine .acked ?_ ?_ rfl (by simp [Posture.answers, hre, hrst])
      · have hst : (tcpTimeWait env s.tcp now).state = s.tcp.state := ht.symm
        unfold potential
        rw [hst]
        rfl
      · simp [TcpConnection.posture, tcpTimeWait, ht]
    · exact .refused (by simp [hre, hrst]) rfl
  rw [if_neg ht]
  by_cases hseq : seg.seq = s.tcp.rcvNxt
  · rw [if_neg (not_not.mpr hseq)]
    have hre : s.tcp.posture.refuses seg = (!flag seg.flags rstFlag && (flag seg.flags synFlag ||
        (seg.payload.length != 0 || flag seg.flags finFlag) && s.tcp.rxLen == tcpBufferSize ||
        flag seg.flags ackFlag && before s.tcp.sndNxt seg.ack)) := by
      simp [Posture.refuses, TcpConnection.posture, hcl, ht, hseq]
    unfold tcpInputInOrder
    simp only [hrecv, ↓reduceIte]
    split
    · rename_i hrst
      exact .spent (Settles.fail hcl _) (by simp [hre, hrst])
    rename_i hrst
    split
    · rename_i hsyn
      exact .refused (by simp [hre, hrst, hsyn]) rfl
    rename_i hsyn
    split
    · rename_i hfull
      refine .refused ?_ rfl
      rcases hfull.1 with h | h <;> simp [hre, hrst, h, hfull.2]
    rename_i hroom
    have hroom : ((seg.payload.length != 0 || flag seg.flags finFlag) && s.tcp.rxLen == tcpBufferSize) = false := by
      simpa [-List.length_eq_zero_iff] using hroom
    split
    · rename_i hack
      simp only [Bool.not_eq_true'] at hack
      exact .silent rfl rfl rfl (by simp [hre, hroom, hsyn, hack])
    rename_i hack
    have hack : flag seg.flags ackFlag = true := by simpa using hack
    split
    · rename_i hb
      exact .refused (by simp [hre, hrst, hb, hack]) rfl
    · rename_i hb
      exact tcpInputAccepted_answered hs hno (by simpa using hb) (by simp [hre, hroom, hsyn, hb])
  · rw [if_pos hseq]
    have hre : s.tcp.posture.refuses seg = (!flag seg.flags rstFlag || resetInWindow s.tcp seg.seq) := by
      simp [Posture.refuses, TcpConnection.posture, hcl, ht, hseq, resetInWindow]
    split
    · rename_i h
      exact .refused (hre.trans h) rfl
    · rename_i h
      exact .silent rfl rfl rfl (by rw [hre]; simpa using h)

def resetSegment (seg : Segment) : Option Segment :=
  (emitted (resetReply {} {} seg.seq seg.ack seg.flags seg.payload.length)).head?

theorem emitted_resetReply (seg : Segment) :
    emitted (resetReply localAddr remoteAddr seg.seq seg.ack seg.flags seg.payload.length) =
      (resetSegment seg).toList := by
  unfold resetSegment resetReply
  split
  · rfl
  split <;> rfl

theorem resetSegment_rst {g : Segment} (h : resetSegment seg = some g) : flag g.flags rstFlag = true := by
  unfold resetSegment resetReply at h
  split at h
  · exact absurd h (by simp)
  split at h
  · obtain rfl := Option.some.inj h
    exact (by decide : flag rstFlag rstFlag = true)
  · obtain rfl := Option.some.inj h
    exact (by decide : flag (rstFlag ||| ackFlag) rstFlag = true)

theorem resetSegment_of_rst (h : flag seg.flags rstFlag = true) : resetSegment seg = none := by
  simp [resetSegment, resetReply, h]

namespace Posture

variable {k k' : Posture}

def reply (k : Posture) (seg : Segment) : Option Segment :=
  if k.state = .closed then resetSegment seg else if k.answers seg then some k.ack else none

theorem reply_of_closed (h : k.state = .closed) (seg : Segment) : k.reply seg = resetSegment seg := if_pos h

theorem reply_of_open (h : k.state ≠ .closed) (seg : Segment) :
    k.reply seg = if k.answers seg then some k.ack else none := if_neg h

theorem answers_ack (k k' : Posture) : k.answers k'.ack = k.refuses k'.ack := by
  simp only [answers, ack, List.length_nil, show flag ackFlag finFlag = false by decide, bne_self_eq_false, Bool.or_false]

theorem resetSegment_ack (k : Posture) : resetSegment k.ack = some ⟨k.rcvNxt, 0, rstFlag, 0, 536, []⟩ := by
  simp only [resetSegment, resetReply, ack, show flag ackFlag rstFlag = false by decide,
    show flag ackFlag ackFlag = true by decide, Bool.false_eq_true, ↓reduceIte]
  rfl

theorem reply_reset (h : k.state ≠ .closed) : k.reply ⟨k.rcvNxt, 0, rstFlag, 0, 536, []⟩ = none := by
  have hr : k.refuses ⟨k.rcvNxt, 0, rstFlag, 0, 536, []⟩ = false := by
    simp [refuses, show flag rstFlag rstFlag = true by decide]
  have ha : k.answers ⟨k.rcvNxt, 0, rstFlag, 0, 536, []⟩ = false := by
    simp only [answers, hr, show flag rstFlag finFlag = false by decide, List.length_nil, bne_self_eq_false, Bool.or_false]
  rw [reply_of_open h, ha]
  rfl

def life : ℕ → Posture → Posture → Segment → ℕ
  | 0, _, _, _ => 0
  | n + 1, k, k', seg => 1 + (k.reply seg).elim 0 (life n k' k)

theorem life_of_none {n : ℕ} (h : k.reply seg = none) : life (n + 1) k k' seg = 1 := by
  rw [life, h]
  rfl

theorem life_of_some {n : ℕ} {g : Segment} (h : k.reply seg = some g) :
    life (n + 1) k k' seg = 1 + life n k' k g := by
  rw [life, h]
  rfl

theorem reply_reply_reply {g₁ g₂ g₃ : Segment}
    (hstorm : k.state ≠ .closed → k'.refuses k.ack = true → k.refuses k'.ack = false)
    (h₁ : k.reply seg = some g₁) (h₂ : k'.reply g₁ = some g₂) (h₃ : k.reply g₂ = some g₃) : k'.reply g₃ = none := by
  by_cases hk : k.state = .closed
  · rw [reply_of_closed hk] at h₁ h₃
    by_cases hk' : k'.state = .closed
    · rw [reply_of_closed hk', resetSegment_of_rst (resetSegment_rst h₁)] at h₂
      exact absurd h₂ (by simp)
    · rw [reply_of_open hk'] at h₂
      split at h₂
      · obtain rfl := Option.some.inj h₂
        rw [resetSegment_ack] at h₃
        obtain rfl := Option.some.inj h₃
        exact reply_reset hk'
      · exact absurd h₂ (by simp)
  · rw [reply_of_open hk] at h₁
    split at h₁
    · obtain rfl := Option.some.inj h₁
      by_cases hk' : k'.state = .closed
      · rw [reply_of_closed hk', resetSegment_ack] at h₂
        obtain rfl := Option.some.inj h₂
        rw [reply_reset hk] at h₃
        exact absurd h₃ (by simp)
      · rw [reply_of_open hk', answers_ack] at h₂
        split at h₂
        · rename_i hre
          obtain rfl := Option.some.inj h₂
          rw [reply_of_open hk, answers_ack, hstorm hk hre] at h₃
          exact absurd h₃ (by simp)
        · exact absurd h₂ (by simp)
    · exact absurd h₁ (by simp)

theorem life_reply_lt {g : Segment} (hstorm : k.state ≠ .closed → k'.refuses k.ack = true → k.refuses k'.ack = false)
    (h : k.reply seg = some g) : life 4 k' k g < life 4 k k' seg := by
  have hle : life 4 k' k g ≤ life 3 k' k g := by
    cases h₂ : k'.reply g with
    | none => rw [life_of_none h₂, life_of_none h₂]
    | some g₂ =>
      rw [life_of_some h₂, life_of_some h₂]
      cases h₃ : k.reply g₂ with
      | none => rw [life_of_none h₃, life_of_none h₃]
      | some g₃ =>
        have h₄ := reply_reply_reply hstorm h h₂ h₃
        rw [life_of_some h₃, life_of_some h₃, life_of_none h₄, life_of_none h₄]
  rw [life_of_some h]
  omega

theorem life_pos (k k' : Posture) (seg : Segment) : 0 < life 4 k k' seg := by
  rw [life]
  omega

end Posture

theorem tcpInputConnection_mss (h : s.tcp.state ≠ .synSent) (m : ℕ) :
    tcpInputConnection env s localAddr remoteAddr { seg with mss := m } now =
      tcpInputConnection env s localAddr remoteAddr seg now := by
  simp only [tcpInputConnection, if_neg h]
  rfl

theorem kick_past (h : ¬ Opening s.tcp.state) :
    (tcpKick env s now).1.tcp.state = .closed ∨ ¬ Opening (tcpKick env s now).1.tcp.state := by
  generalize hres : tcpKick env s now = r
  cases hres ▸ tcpKick_cases env s now with
  | blocked | waiting | empty | probe => exact .inr h
  | failed => exact .inl (by simp)
  | data _ _ _ _ _ _ s' he => subst he; exact .inr h
  | fin _ _ _ _ s' he =>
    subst he
    right
    simp only [startFlight, finState]
    split <;> decide

theorem receiveSegment_past (h : ¬ Opening c.state) : ¬ Opening (receiveSegment env c seg now).state := by
  have hp : ¬ Opening (receivePayload c seg).state := by rwa [receivePayload_state]
  unfold receiveSegment
  split
  · exact hp
  unfold receiveFin
  split
  · dsimp only
    split
    · exact (by decide : ¬ Opening .closeWait)
    split
    · exact (by decide : ¬ Opening .timeWait)
    · exact hp
  · exact hp

theorem tcpInputConnection_past (h : ¬ Opening s.tcp.state) :
    (tcpInputConnection env s localAddr remoteAddr seg now).entry.tcp.state = .closed ∨
      ¬ Opening (tcpInputConnection env s localAddr remoteAddr seg now).entry.tcp.state := by
  generalize hres : tcpInputConnection env s localAddr remoteAddr seg now = r
  cases hres ▸ tcpInputConnection_cases env s localAddr remoteAddr seg now with
  | keep => exact .inr h
  | failed => exact .inl (by simp)
  | established hs => exact absurd (.inr (.inr (.inl hs))) h
  | timeWait => exact .inr (by decide : ¬ Opening .timeWait)
  | opened hs => exact absurd (.inr (.inr (.inr hs))) h
  | accepted =>
    by_cases hc : (acknowledge env s seg.ack now).1.tcp.state = .closed
    · left
      rw [tcpInputAccepted_dead env s seg now _ rfl (.inr hc)]
      exact hc
    · have hno := acknowledge_not_opening h rfl hc
      rcases tcpInputAccepted_entry env s seg now _ rfl with ⟨-, he⟩ | ⟨-, -, he⟩
      · rw [he]
        exact .inr hno
      · rw [he]
        apply kick_past
        apply receiveSegment_past
        rwa [updateWindow_state]

theorem Settling.input (hs : Settling s) (hno : ¬ Opening s.tcp.state) :
    Settling (tcpInputConnection env s localAddr remoteAddr seg now).entry := by
  have hcl : s.tcp.state ≠ .closed := fun h => hno (.inl h)
  have hsent : s.tcp.state ≠ .synSent := fun h => hno (.inr (.inr (.inl h)))
  obtain ⟨ha, hk⟩ := hs.held hcl
  have hb : Bookkeeping (tcpInputConnection env s localAddr remoteAddr { seg with mss := 1 } now).entry.tcp :=
    hs.bookkeeping.input hcl (fun h => hno (.inr (.inl h))) localAddr remoteAddr Nat.one_pos
  rw [tcpInputConnection_mss hsent] at hb
  exact ⟨hb, .input ha hk, tcpInputConnection_past hno⟩

namespace Side

def posture (x : Side) : Posture := x.entry.tcp.posture

def answer (x : Side) (env : TcpEnv) (seg : Segment) (now : ℕ) : List Segment :=
  if x.connected then
    emitted (tcpInputConnection env x.entry x.entry.localAddr x.entry.remoteAddr seg now).effects
  else
    emitted (resetReply x.entry.localAddr x.entry.remoteAddr seg.seq seg.ack seg.flags seg.payload.length)

theorem connected_iff_of_settling {x : Side} (h : Settling x.entry) : x.connected = true ↔ x.entry.tcp.state ≠ .closed := by
  rw [SideOk.connected_iff]
  constructor
  · intro hc
    exact hc.2.2.1
  · intro hc
    obtain ⟨ha, hk⟩ := h.held hc
    exact ⟨ha, hk, hc, fun hl => h.state.resolve_left hc (.inr (.inl hl))⟩

theorem input_settling {x : Side} (h : Settling x.entry) (env : TcpEnv) (seg : Segment) (now : ℕ) :
    Settling (x.input env seg now).entry := by
  unfold input
  split
  · rename_i hc
    exact h.input (h.state.resolve_left ((connected_iff_of_settling h).mp hc))
  · exact h

theorem input_settles {x : Side} (h : Settling x.entry) (env : TcpEnv) (seg : Segment) (now : ℕ) :
    potential (x.input env seg now).entry.tcp < potential x.entry.tcp ∨
      potential (x.input env seg now).entry.tcp = potential x.entry.tcp ∧
        (x.input env seg now).posture = x.posture ∧
        (x.answer env seg now = [] ∨ ∃ g, x.answer env seg now = [g] ∧ x.posture.reply seg = some g) := by
  by_cases hc : x.entry.tcp.state = .closed
  · have hn : ¬ x.connected = true := fun hcon => (connected_iff_of_settling h).mp hcon hc
    have hreply : x.posture.reply seg = resetSegment seg := Posture.reply_of_closed hc seg
    right
    unfold input answer
    rw [if_neg hn, if_neg hn, emitted_resetReply, hreply]
    refine ⟨rfl, rfl, ?_⟩
    cases resetSegment seg with
    | none => exact .inl rfl
    | some g => exact .inr ⟨g, rfl, rfl⟩
  · have hreply : x.posture.reply seg = if x.posture.answers seg then some x.posture.ack else none :=
      Posture.reply_of_open hc seg
    unfold input answer
    rw [if_pos ((connected_iff_of_settling h).mpr hc), if_pos ((connected_iff_of_settling h).mpr hc)]
    cases tcpInputConnection_answered h (h.state.resolve_left hc) env x.entry.localAddr x.entry.remoteAddr seg now with
    | spent hlt => exact .inl hlt
    | silent heq hp he => exact .inr ⟨heq, hp, .inl he⟩
    | acked heq hp he ha => exact .inr ⟨heq, hp, .inr ⟨_, he, hreply.trans (if_pos ha)⟩⟩

theorem input_refused {x : Side} (h : Settling x.entry) {seg : Segment} (hr : x.posture.refuses seg = true)
    (env : TcpEnv) (now : ℕ) :
    (x.input env seg now).posture = x.posture ∧ x.answer env seg now = [x.posture.ack] := by
  have hc : x.entry.tcp.state ≠ .closed := by
    intro hc
    simp [Posture.refuses, posture, TcpConnection.posture, hc] at hr
  unfold input answer
  rw [if_pos ((connected_iff_of_settling h).mpr hc), if_pos ((connected_iff_of_settling h).mpr hc)]
  cases tcpInputConnection_answered h (h.state.resolve_left hc) env x.entry.localAddr x.entry.remoteAddr seg now with
  | spent _ hf | silent _ _ _ hf => exact absurd (hf.symm.trans hr) (by decide)
  | acked _ hp he => exact ⟨hp, he⟩

end Side

structure Exchange where
  client : Side
  server : Side
  toClient : List Segment
  toServer : List Segment

inductive Delivery : Exchange → Exchange → Prop
  | client (x : Exchange) {l₁ l₂ : List Segment} {seg : Segment} (h : x.toClient = l₁ ++ seg :: l₂) (env : TcpEnv)
      (now : ℕ) : Delivery x
        { client := x.client.input env seg now, server := x.server, toClient := l₁ ++ l₂,
          toServer := x.toServer ++ x.client.answer env seg now }
  | server (x : Exchange) {l₁ l₂ : List Segment} {seg : Segment} (h : x.toServer = l₁ ++ seg :: l₂) (env : TcpEnv)
      (now : ℕ) : Delivery x
        { client := x.client, server := x.server.input env seg now, toServer := l₁ ++ l₂,
          toClient := x.toClient ++ x.server.answer env seg now }

def Quiesces (x : Exchange) : Prop := ¬ ∃ run : ℕ → Exchange, run 0 = x ∧ ∀ n, Delivery (run n) (run (n + 1))

def Stormy (x : Exchange) : Prop :=
  x.client.posture.refuses x.server.posture.ack = true ∧ x.server.posture.refuses x.client.posture.ack = true ∧
    ((∃ seg ∈ x.toClient, x.client.posture.refuses seg = true) ∨ ∃ seg ∈ x.toServer, x.server.posture.refuses seg = true)

instance (x : Exchange) : Decidable (Stormy x) := by unfold Stormy; infer_instance

theorem quiesces_iff_acc (x : Exchange) : Quiesces x ↔ Acc (fun b a => Delivery a b) x := by
  have h := not_acc_iff_exists_descending_chain (r := fun b a => Delivery a b) (x := x)
  exact (not_congr h.symm).trans not_not

namespace Exchange

structure Settled (x : Exchange) : Prop where
  client : Settling x.client.entry
  server : Settling x.server.entry

def potential (x : Exchange) : ℕ :=
  PulsarNetstack.potential x.client.entry.tcp + PulsarNetstack.potential x.server.entry.tcp

def lives (k k' : Posture) (l l' : List Segment) : ℕ :=
  (l.map (Posture.life 4 k k')).sum + (l'.map (Posture.life 4 k' k)).sum

def rank (x : Exchange) : ℕ ×ₗ ℕ :=
  toLex (x.potential, lives x.client.posture x.server.posture x.toClient x.toServer)

theorem lives_comm (k k' : Posture) (l l' : List Segment) : lives k k' l l' = lives k' k l' l := Nat.add_comm _ _

theorem lives_lt {k k' : Posture} {seg : Segment} {l₁ l₂ l' answer : List Segment}
    (ha : answer = [] ∨ ∃ g, answer = [g] ∧ k.reply seg = some g)
    (hstorm : k.ack ∈ answer → k'.refuses k.ack = true → k.refuses k'.ack = false) :
    lives k k' (l₁ ++ l₂) (l' ++ answer) < lives k k' (l₁ ++ seg :: l₂) l' := by
  have hpos := Posture.life_pos k k' seg
  rcases ha with rfl | ⟨g, rfl, hg⟩
  · simp only [lives, List.map_append, List.sum_append, List.map_cons, List.sum_cons, List.map_nil, List.sum_nil]
    omega
  · have hlt : Posture.life 4 k' k g < Posture.life 4 k k' seg := by
      refine Posture.life_reply_lt (fun hk => hstorm ?_) hg
      rw [Posture.reply_of_open hk] at hg
      split at hg
      · rw [Option.some.inj hg]
        exact List.mem_singleton_self g
      · exact absurd hg (by simp)
    simp only [lives, List.map_append, List.sum_append, List.map_cons, List.sum_cons, List.map_nil, List.sum_nil]
    omega

theorem Settled.delivery {x y : Exchange} (h : x.Settled) (hd : Delivery x y) : y.Settled := by
  cases hd with
  | client _ env now => exact ⟨Side.input_settling h.client env _ now, h.server⟩
  | server _ env now => exact ⟨h.client, Side.input_settling h.server env _ now⟩

theorem rank_lt {x y : Exchange} (h : x.Settled) (hd : Delivery x y) (hy : ¬ Stormy y) : y.rank < x.rank := by
  rw [rank, rank, Prod.Lex.toLex_lt_toLex]
  cases hd with
  | @client l₁ l₂ seg hl env now =>
    rcases Side.input_settles h.client env seg now with hlt | ⟨heq, hp, ha⟩
    · exact .inl (Nat.add_lt_add_right hlt _)
    · refine .inr ⟨congrArg (· + _) heq, ?_⟩
      dsimp only at hy ⊢
      rw [hp, hl]
      refine lives_lt ha fun hmem hre => ?_
      by_contra hc
      refine hy ⟨?_, ?_, .inr ⟨x.client.posture.ack, List.mem_append_right _ hmem, hre⟩⟩
      · rw [hp]
        simpa using hc
      · rw [hp]
        exact hre
  | @server l₁ l₂ seg hl env now =>
    rcases Side.input_settles h.server env seg now with hlt | ⟨heq, hp, ha⟩
    · exact .inl (Nat.add_lt_add_left hlt _)
    · refine .inr ⟨congrArg (_ + ·) heq, ?_⟩
      dsimp only at hy ⊢
      rw [hp, hl, lives_comm, lives_comm _ _ x.toClient]
      refine lives_lt ha fun hmem hre => ?_
      by_contra hc
      refine hy ⟨?_, ?_, .inl ⟨x.server.posture.ack, List.mem_append_right _ hmem, hre⟩⟩
      · rw [hp]
        exact hre
      · rw [hp]
        simpa using hc

theorem acc_of_not_stormy {x : Exchange} (h : x.Settled)
    (hs : ∀ y, Relation.ReflTransGen Delivery x y → ¬ Stormy y) : Acc (fun b a => Delivery a b) x := by
  induction hr : x.rank using WellFoundedLT.induction generalizing x with
  | ind r ih =>
    subst hr
    refine ⟨x, fun y hd => ?_⟩
    have hlt := rank_lt h hd (hs y (.single hd))
    exact ih _ hlt (h.delivery hd) (fun z hz => hs z (.head hd hz)) rfl

theorem Settled.stormy_delivery {x : Exchange} (h : x.Settled) (hx : Stormy x) : ∃ y, Delivery x y ∧ Stormy y := by
  obtain ⟨hc, hs, ⟨seg, hmem, hre⟩ | ⟨seg, hmem, hre⟩⟩ := hx
  · obtain ⟨l₁, l₂, hl⟩ := List.append_of_mem hmem
    obtain ⟨hp, ha⟩ := Side.input_refused h.client hre steadyEnv 0
    refine ⟨_, .client x hl steadyEnv 0, ?_, ?_, .inr ⟨x.client.posture.ack, ?_, ?_⟩⟩
    · rwa [hp]
    · rwa [hp]
    · rw [ha]
      exact List.mem_append_right _ (List.mem_singleton_self _)
    · exact hs
  · obtain ⟨l₁, l₂, hl⟩ := List.append_of_mem hmem
    obtain ⟨hp, ha⟩ := Side.input_refused h.server hre steadyEnv 0
    refine ⟨_, .server x hl steadyEnv 0, ?_, ?_, .inl ⟨x.server.posture.ack, ?_, ?_⟩⟩
    · rwa [hp]
    · rwa [hp]
    · rw [ha]
      exact List.mem_append_right _ (List.mem_singleton_self _)
    · exact hc

theorem Settled.not_stormy_of_acc {x : Exchange} (h : x.Settled) (ha : Acc (fun b a => Delivery a b) x) : ¬ Stormy x := by
  induction ha with
  | intro x _ ih =>
    intro hx
    obtain ⟨y, hd, hy⟩ := h.stormy_delivery hx
    exact ih y hd (h.delivery hd) hy

theorem Settled.quiesces_iff {x : Exchange} (h : x.Settled) :
    Quiesces x ↔ ∀ y, Relation.ReflTransGen Delivery x y → ¬ Stormy y := by
  rw [quiesces_iff_acc]
  constructor
  · intro ha y hy
    have hy : y.Settled ∧ Acc (fun b a => Delivery a b) y := by
      induction hy with
      | refl => exact ⟨h, ha⟩
      | tail _ hd ih => exact ⟨ih.1.delivery hd, ih.2.inv hd⟩
    exact hy.1.not_stormy_of_acc hy.2
  · exact acc_of_not_stormy h

end Exchange

/-- Two established endpoints of one connection, with any segments on their way, fall silent by themselves exactly
when no order of deliveries leads into a storm. -/
theorem established_quiesces_iff {p : Pair} (h : PairReachable p) (hc : p.client.entry.tcp.state = .established)
    (hs : p.server.entry.tcp.state = .established) (toClient toServer : List Segment) :
    Quiesces ⟨p.client, p.server, toClient, toServer⟩ ↔
      ∀ y, Relation.ReflTransGen Delivery ⟨p.client, p.server, toClient, toServer⟩ y → ¬ Stormy y := by
  obtain ⟨hc, hs⟩ := h.settling hc hs
  exact Exchange.Settled.quiesces_iff ⟨hc, hs⟩

def crossedLosses : List PairEvent :=
  [.client (.send steadyEnv [1] 5),
    .server (.input steadyEnv ⟨101, 201, ackFlag ||| pshFlag, 8192, 536, [1]⟩ 6),
    .client (.input steadyEnv ⟨201, 102, ackFlag, 8191, 536, []⟩ 7),
    .client (.send steadyEnv [2] 8),
    .server (.send steadyEnv [3] 8),
    .server (.recv 1)]

def crossedPair : Pair := startPair.run (handshake ++ crossedLosses)

theorem crossedPair_reachable : PairReachable crossedPair :=
  startPair_reachable.run (show PairRun startPair (handshake ++ crossedLosses) by decide)

theorem crossedPair_not_quiesces :
    PairReachable crossedPair ∧ crossedPair.client.entry.tcp.state = .established ∧
      crossedPair.server.entry.tcp.state = .established ∧
      (⟨202, 102, ackFlag, 8192, 536, []⟩ : Segment) ∈ crossedPair.server.sent ∧
      ¬ Quiesces ⟨crossedPair.client, crossedPair.server, [⟨202, 102, ackFlag, 8192, 536, []⟩], []⟩ := by
  have hc : crossedPair.client.entry.tcp.state = .established := by decide
  have hs : crossedPair.server.entry.tcp.state = .established := by decide
  obtain ⟨hsc, hss⟩ := crossedPair_reachable.settling hc hs
  refine ⟨crossedPair_reachable, hc, hs, by decide, ?_⟩
  rw [quiesces_iff_acc]
  intro ha
  exact Exchange.Settled.not_stormy_of_acc ⟨hsc, hss⟩ ha (by decide)

def quietAck : Segment := ⟨201, 101, ackFlag, 8192, 536, []⟩

theorem handshake_quiesces :
    (startPair.run handshake).client.entry.tcp.state = .established ∧
      (startPair.run handshake).server.entry.tcp.state = .established ∧
      Quiesces ⟨(startPair.run handshake).client, (startPair.run handshake).server, [quietAck], []⟩ := by
  have h := startPair_reachable.run (show PairRun startPair handshake by decide)
  refine ⟨by decide, by decide, (established_quiesces_iff h (by decide) (by decide) _ []).mpr fun y hy => ?_⟩
  rcases hy.cases_head with heq | ⟨z, hd, hz⟩
  · rw [← heq]
    decide
  cases hd with
  | server hl => simp at hl
  | @client l₁ l₂ seg hl env now =>
    obtain ⟨rfl, rfl, rfl⟩ : l₁ = [] ∧ l₂ = [] ∧ seg = quietAck := by
      cases l₁ <;> simp_all
    have hnone : (startPair.run handshake).client.answer env quietAck now = [] := rfl
    rcases hz.cases_head with heq | ⟨w, hd, -⟩
    · rw [← heq]
      simp [Stormy, hnone]
    · cases hd with
      | client hl => simp at hl
      | server hl => simp [hnone] at hl

end PulsarNetstack
