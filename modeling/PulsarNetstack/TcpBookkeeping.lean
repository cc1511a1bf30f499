import PulsarNetstack.SocketSteps

namespace PulsarNetstack

variable {env : TcpEnv} {s s' : SocketEntry} {c : TcpConnection} {seg : Segment} {now : ℕ}

theorem before_iff (a b : Word) : before a b = true ↔ 2147483648 ≤ (a - b).toNat := by
  unfold before
  rw [decide_eq_true_iff, BitVec.toInt_eq_toNat_cond]
  have h := (a - b).isLt
  split <;> omega

theorem ack_range {una nxt ack : Word} {length : ℕ} (hl : length ≤ tcpBufferSize)
    (hn : nxt = una + BitVec.ofNat 32 length) (hu : before una ack = true) (ha : before nxt ack = false) :
    1 ≤ (ack - una).toNat ∧ (ack - una).toNat ≤ length := by
  have hu := (before_iff una ack).mp hu
  have ha : ¬ 2147483648 ≤ (nxt - ack).toNat := fun h => by
    rw [(before_iff nxt ack).mpr h] at ha
    exact absurd ha (by decide)
  subst hn
  unfold tcpBufferSize at hl
  simp only [BitVec.toNat_sub, BitVec.toNat_add, BitVec.toNat_ofNat] at hu ha ⊢
  have h1 := una.isLt
  have h2 := ack.isLt
  omega

theorem ofNat_sub_toNat {n : ℕ} {x : Word} (hn : n < 4294967296) (hx : x.toNat ≤ n) :
    BitVec.ofNat 32 (n - x.toNat) = BitVec.ofNat 32 n - x := by
  apply BitVec.eq_of_toNat_eq
  have h := x.isLt
  simp only [BitVec.toNat_sub, BitVec.toNat_ofNat]
  omega

theorem before_succ (a : Word) : before a (a + 1) = true := by
  have h : a - (a + 1) = -1 := by grind
  unfold before
  rw [h]
  decide

theorem before_self (a : Word) : before a a = false := by
  unfold before
  simp

def AwaitingControl (state : TcpState) : Prop :=
  state = .synSent ∨ state = .synReceived ∨ state = .finWait1 ∨ state = .lastAck

instance (state : TcpState) : Decidable (AwaitingControl state) := by unfold AwaitingControl; infer_instance

theorem Streaming.not_awaitingControl {state : TcpState} (h : Streaming state) : ¬ AwaitingControl state := by
  rcases h with rfl | rfl <;> decide

inductive Flight (state : TcpState) (flags : Byte) (length txLen : ℕ) (una nxt : Word) : Prop
  | idle (hs : ¬ AwaitingControl state) (hf : flags = 0) (hl : length = 0) (hn : nxt = una)
  | data (hs : Streaming state) (hf : flags = ackFlag ||| pshFlag) (hl : 1 ≤ length) (ht : length ≤ txLen)
      (hn : nxt = una + BitVec.ofNat 32 length)
  | syn (hs : state = .synSent ∨ state = .synReceived) (hf : flags = synFlag ∨ flags = synFlag ||| ackFlag)
      (hl : length = 0) (hn : nxt = una + 1)
  | fin (hs : state = .finWait1 ∨ state = .lastAck) (hf : flags = finFlag ||| ackFlag) (hl : length = 0)
      (hn : nxt = una + 1)

structure Bookkeeping (c : TcpConnection) : Prop where
  rxLen_le : c.rxLen ≤ tcpBufferSize
  txLen_le : c.txLen ≤ tcpBufferSize
  rx_length : c.rx.length = c.rxLen
  tx_length : c.tx.length = c.txLen
  mss_pos : c.state ≠ .closed → c.state ≠ .listen → 0 < c.mss
  flight : Flight c.state c.flightFlags c.flightLen c.txLen c.sndUna c.sndNxt

namespace Bookkeeping

theorem empty : Bookkeeping {} := by
  refine ⟨Nat.zero_le _, Nat.zero_le _, rfl, rfl, ?_, .idle (by decide) rfl rfl rfl⟩
  intro h
  exact absurd rfl h

theorem fail (s : SocketEntry) (e : Option Errno) : Bookkeeping (tcpFail s e).1.tcp := by
  rw [tcpFail_tcp]
  exact empty

theorem flightLen_le (h : Bookkeeping c) : c.flightLen ≤ c.txLen := by
  cases h.flight <;> omega

theorem idle_of_state (h : Bookkeeping c) (hs : c.state = .closed ∨ c.state = .listen ∨ c.state = .finWait2 ∨
    c.state = .timeWait) : c.flightFlags = 0 ∧ c.flightLen = 0 ∧ c.sndNxt = c.sndUna := by
  cases h.flight with
  | idle _ hf hl hn => exact ⟨hf, hl, hn⟩
  | data hd => rcases hd with hd | hd <;> rw [hd] at hs <;> simp at hs
  | syn hd => rcases hd with hd | hd <;> rw [hd] at hs <;> simp at hs
  | fin hd => rcases hd with hd | hd <;> rw [hd] at hs <;> simp at hs

theorem idle (h : Bookkeeping c) (hf : c.flightFlags = 0) : c.flightLen = 0 ∧ c.sndNxt = c.sndUna := by
  cases h.flight with
  | idle _ _ hl hn => exact ⟨hl, hn⟩
  | data _ hf' => rw [hf'] at hf; exact absurd hf (by decide)
  | syn _ hf' => rcases hf' with hf' | hf' <;> rw [hf'] at hf <;> exact absurd hf (by decide)
  | fin _ hf' => rw [hf'] at hf; exact absurd hf (by decide)

theorem flightLen_ne_zero (h : Bookkeeping c) (hs : Streaming c.state) (hu : before c.sndUna c.sndNxt = true) :
    c.flightLen ≠ 0 := by
  cases h.flight with
  | idle _ _ _ hn => rw [hn, before_self] at hu; exact absurd hu (by decide)
  | data _ _ hl => omega
  | syn hd => rcases hd with hd | hd <;> rw [hd] at hs <;> exact absurd hs (by decide)
  | fin hd => rcases hd with hd | hd <;> rw [hd] at hs <;> exact absurd hs (by decide)

theorem syn_flightLen (h : Bookkeeping c) (hs : c.state = .synSent ∨ c.state = .synReceived) : c.flightLen = 0 := by
  cases h.flight with
  | idle _ _ hl => exact hl
  | syn _ _ hl => exact hl
  | fin _ _ hl => exact hl
  | data hd => rcases hs with hs | hs <;> rw [hs] at hd <;> exact absurd hd (by decide)

theorem syn_sndNxt (h : Bookkeeping c) (hs : c.state = .synSent ∨ c.state = .synReceived) :
    c.sndNxt = c.sndUna + 1 := by
  cases h.flight with
  | syn _ _ _ hn => exact hn
  | idle hi => exact absurd (hs.imp_right .inl) hi
  | data hd => rcases hs with hs | hs <;> rw [hs] at hd <;> exact absurd hd (by decide)
  | fin hd => rcases hs with hs | hs <;> rw [hs] at hd <;> simp at hd

theorem flightFlags_ne_zero (h : Bookkeeping c) (hs : AwaitingControl c.state) : c.flightFlags ≠ 0 := by
  cases h.flight with
  | idle hi => exact absurd hs hi
  | data hd => exact absurd hs hd.not_awaitingControl
  | syn _ hf => rcases hf with hf | hf <;> rw [hf] <;> decide
  | fin _ hf => rw [hf]; decide

theorem withRx (h : Bookkeeping c) {rx : List Byte} {rxLen : ℕ} (hl : rx.length = rxLen)
    (hb : rxLen ≤ tcpBufferSize) (rcvNxt : Word) :
    Bookkeeping { c with rx := rx, rxLen := rxLen, rcvNxt := rcvNxt } :=
  { h with rxLen_le := hb, rx_length := hl }

theorem withTx (h : Bookkeeping c) {tx : List Byte} {txLen : ℕ} (hl : tx.length = txLen)
    (hb : txLen ≤ tcpBufferSize) (hle : c.txLen ≤ txLen) :
    Bookkeeping { c with tx := tx, txLen := txLen } := by
  refine { h with txLen_le := hb, tx_length := hl, flight := ?_ }
  cases h.flight with
  | idle hs hf hl hn => exact .idle hs hf hl hn
  | data hs hf hl ht hn => exact .data hs hf hl (ht.trans hle) hn
  | syn hs hf hl hn => exact .syn hs hf hl hn
  | fin hs hf hl hn => exact .fin hs hf hl hn

theorem kick (h : Bookkeeping s.tcp) : Bookkeeping (tcpKick env s now).1.tcp := by
  generalize hr : tcpKick env s now = r
  cases hr ▸ tcpKick_cases env s now with
  | blocked | waiting | empty => exact h
  | probe => exact { h with }
  | failed => exact fail _ _
  | data hf hs hw ht mtu hm s' he =>
    subst he
    have hc : s.tcp.state ≠ .closed := by rintro hc; simp [Streaming, hc] at hs
    have hl : s.tcp.state ≠ .listen := by rintro hl; simp [Streaming, hl] at hs
    have hm := h.mss_pos hc hl
    refine { h with flight := .data hs rfl ?_ ?_ ?_ }
    · simp only [startFlight, flightLength]
      omega
    · simp only [startFlight, flightLength]
      omega
    · simp [startFlight, show flag (ackFlag ||| pshFlag) (synFlag ||| finFlag) = false by decide]
  | fin hf hs ht hc s' he =>
    subst he
    have hn : s.tcp.state ≠ .closed ∧ s.tcp.state ≠ .listen := by
      constructor <;> rintro hn <;> simp [Streaming, hn] at hs
    refine { h with mss_pos := fun _ _ => h.mss_pos hn.1 hn.2, flight := .fin ?_ rfl rfl ?_ }
    · simp only [startFlight, finState]
      split
      · exact .inr rfl
      · exact .inl rfl
    · simp [startFlight, show flag (finFlag ||| ackFlag) (synFlag ||| finFlag) = true by decide]

section Acknowledge

variable {ack : Word}

theorem ack_bytes (h : Bookkeeping c) (hl : c.flightLen ≠ 0) (hu : before c.sndUna ack = true)
    (ha : before c.sndNxt ack = false) :
    1 ≤ (ack - c.sndUna).toNat ∧ (ack - c.sndUna).toNat ≤ c.flightLen := by
  have hle := h.flightLen_le
  have htx := h.txLen_le
  cases h.flight with
  | data hs hf _ ht hn => exact ack_range (by omega) hn hu ha
  | idle _ _ hl' => exact absurd hl' hl
  | syn _ _ hl' => exact absurd hl' hl
  | fin _ _ hl' => exact absurd hl' hl

theorem ack_control (h : Bookkeeping c) (hl : c.flightLen = 0) (hu : before c.sndUna ack = true)
    (ha : before c.sndNxt ack = false) : ack = c.sndNxt := by
  have hone (hn : c.sndNxt = c.sndUna + 1) : ack = c.sndNxt := by
    have hr := ack_range (show 1 ≤ tcpBufferSize by decide) hn hu ha
    have hd : ack - c.sndUna = 1 := by
      apply BitVec.eq_of_toNat_eq
      change _ = 1
      omega
    rw [hn, ← hd]
    exact (BitVec.sub_add_cancel ..).symm.trans (BitVec.add_comm ..)
  cases h.flight with
  | idle _ _ _ hn => rw [hn, hu] at ha; exact absurd ha (by decide)
  | data _ _ hl' => omega
  | syn _ _ _ hn => exact hone hn
  | fin _ _ _ hn => exact hone hn

theorem ack_bytes_eq (h : Bookkeeping c) (hl : c.flightLen ≠ 0) : (c.sndNxt - c.sndUna).toNat = c.flightLen := by
  have hle := h.flightLen_le
  have htx := h.txLen_le
  unfold tcpBufferSize at htx
  cases h.flight with
  | data hs hf _ ht hn =>
    rw [hn, BitVec.add_comm, BitVec.add_sub_cancel, BitVec.toNat_ofNat]
    omega
  | idle _ _ hl' => exact absurd hl' hl
  | syn _ _ hl' => exact absurd hl' hl
  | fin _ _ hl' => exact absurd hl' hl

theorem advance (h : Bookkeeping c) (hu : before c.sndUna ack = true) (ha : before c.sndNxt ack = false)
    (hn : ack ≠ c.sndNxt) : Bookkeeping (ackAdvance c ack now) := by
  have hl : c.flightLen ≠ 0 := fun hl => hn (h.ack_control hl hu ha)
  obtain ⟨hb1, hb2⟩ := h.ack_bytes hl hu ha
  have hle := h.flightLen_le
  have htx := h.txLen_le
  unfold tcpBufferSize at htx
  have htx' : sub16 c.txLen (ack - c.sndUna).toNat = c.txLen - (ack - c.sndUna).toNat := sub16_eq (by omega) (by omega)
  have hfl' : sub16 c.flightLen (ack - c.sndUna).toNat = c.flightLen - (ack - c.sndUna).toNat :=
    sub16_eq (by omega) (by omega)
  have hne : (ack - c.sndUna).toNat ≠ c.flightLen := by
    rw [← h.ack_bytes_eq hl]
    intro he
    exact hn (by simpa using congrArg (· + c.sndUna) (BitVec.eq_of_toNat_eq he))
  unfold ackAdvance
  simp only [if_pos hl, htx', hfl']
  refine { h with txLen_le := ?_, tx_length := ?_, flight := ?_ }
  · change c.txLen - _ ≤ 8192
    omega
  · simp [h.tx_length]
  · cases h.flight with
    | data hs hf _ ht hnxt =>
      refine .data hs hf ?_ ?_ ?_
      · change 1 ≤ c.flightLen - _
        omega
      · change c.flightLen - _ ≤ c.txLen - _
        omega
      · change c.sndNxt = ack + BitVec.ofNat 32 (c.flightLen - (ack - c.sndUna).toNat)
        rw [ofNat_sub_toNat (by omega) hb2, hnxt]
        grind
    | idle _ _ hl' => exact absurd hl' hl
    | syn _ _ hl' => exact absurd hl' hl
    | fin _ _ hl' => exact absurd hl' hl

theorem complete (h : Bookkeeping c) (hn : ack = c.sndNxt) (hm : 0 < c.mss) (now : ℕ) (state : TcpState)
    (hs : ¬ AwaitingControl state) (expires : ℕ) : Bookkeeping { ackComplete c ack now with state := state, expires := expires } := by
  subst hn
  have hle := h.flightLen_le
  have htx := h.txLen_le
  unfold tcpBufferSize at htx
  by_cases hl : c.flightLen = 0
  · simp only [ackComplete, ackAdvance, hl, ne_eq, not_true_eq_false, ↓reduceIte]
    exact { h with mss_pos := fun _ _ => hm, flight := .idle hs rfl rfl rfl }
  · simp only [ackComplete, ackAdvance, h.ack_bytes_eq hl, if_pos hl]
    have htx' : sub16 c.txLen c.flightLen = c.txLen - c.flightLen := sub16_eq (by omega) (by omega)
    have hfl' : sub16 c.flightLen c.flightLen = c.flightLen - c.flightLen := sub16_eq (by omega) (by omega)
    simp only [htx', hfl']
    refine { h with mss_pos := fun _ _ => hm, txLen_le := ?_, tx_length := ?_, flight := .idle hs rfl (by simp) rfl }
    · change c.txLen - _ ≤ 8192
      omega
    · simp [h.tx_length]

theorem acknowledge (h : Bookkeeping s.tcp) (hm : 0 < s.tcp.mss) (hs : s.tcp.state ≠ .synSent)
    (hr : s.tcp.state ≠ .synReceived) (ha : before s.tcp.sndNxt ack = false) :
    Bookkeeping (acknowledge env s ack now).1.tcp := by
  generalize hr : PulsarNetstack.acknowledge env s ack now = r
  cases hr ▸ acknowledge_cases env s ack now with
  | duplicate => exact h
  | advanced hu hn => exact h.advance hu ha hn
  | completed hu hn hf =>
    refine h.complete hn hm now s.tcp.state ?_ s.tcp.expires
    cases h.flight with
    | idle hi => exact hi
    | data hd => exact hd.not_awaitingControl
    | syn hd => exact absurd hd (by simp [*])
    | fin _ hf' => rw [hf'] at hf; exact absurd hf (by decide)
  | lastAck => exact fail _ _
  | timeWait _ hn =>
    exact { h.complete hn hm now .timeWait (by decide) (add64 now (tcpTimeWaitSeconds * env.hz)) with }
  | finWait2 _ hn => exact h.complete hn hm now .finWait2 (by decide) (add64 now (tcpFinWaitSeconds * env.hz))

end Acknowledge

theorem updateWindow (h : Bookkeeping c) : Bookkeeping (updateWindow c seg) := by
  unfold PulsarNetstack.updateWindow
  split
  · exact { h with }
  · exact h

theorem receivePayload (h : Bookkeeping c) : Bookkeeping (receivePayload c seg) := by
  unfold PulsarNetstack.receivePayload
  split
  · have hrx := h.rxLen_le
    have hadd : add16 c.rxLen (receivedLength c seg) = c.rxLen + receivedLength c seg := by
      apply add16_eq
      unfold receivedLength tcpBufferSize at *
      omega
    refine h.withRx ?_ ?_ _
    · rw [hadd, List.length_append, List.length_take, h.rx_length]
      unfold receivedLength
      omega
    · rw [hadd]
      unfold receivedLength
      omega
  · exact h

theorem receiveFin (h : Bookkeeping c) : Bookkeeping (receiveFin env c seg now) := by
  unfold PulsarNetstack.receiveFin
  split
  · dsimp only
    split
    · rename_i hs
      have hm := h.mss_pos (by rw [hs]; decide) (by rw [hs]; decide)
      refine { h with mss_pos := fun _ _ => hm, flight := ?_ }
      cases h.flight with
      | idle _ hf hl hn => exact .idle (by decide : ¬ AwaitingControl .closeWait) hf hl hn
      | data _ hf hl ht hn => exact .data (.inr rfl) hf hl ht hn
      | syn hd => rcases hd with hd | hd <;> rw [hd] at hs <;> simp at hs
      | fin hd => rcases hd with hd | hd <;> rw [hd] at hs <;> simp at hs
    · split
      · rename_i hs
        have hm := h.mss_pos (by rw [hs]; decide) (by rw [hs]; decide)
        obtain ⟨-, hl, hn⟩ := h.idle_of_state (.inr (.inr (.inl hs)))
        exact { h with mss_pos := fun _ _ => hm, flight := .idle (by decide : ¬ AwaitingControl .timeWait) rfl hl hn }
      · exact { h with }
  · exact h

theorem receiveSegment (h : Bookkeeping c) : Bookkeeping (receiveSegment env c seg now) := by
  unfold PulsarNetstack.receiveSegment
  split
  · exact h.receivePayload
  · exact h.receivePayload.receiveFin

theorem inputAccepted (h : Bookkeeping (PulsarNetstack.acknowledge env s seg.ack now).1.tcp) :
    Bookkeeping (tcpInputAccepted env s seg now).entry.tcp := by
  rcases tcpInputAccepted_entry env s seg now _ rfl with ⟨-, he⟩ | ⟨-, -, he⟩
  · rw [he]
    exact h
  · rw [he]
    exact kick h.updateWindow.receiveSegment

theorem acknowledge_opened (h : Bookkeeping s.tcp) (hs : s.tcp.state = .synReceived) (expires : ℕ) :
    PulsarNetstack.acknowledge env { s with tcp := { s.tcp with state := .established, expires := expires } }
      s.tcp.sndNxt now = ({ s with tcp := { ackComplete s.tcp s.tcp.sndNxt now with
        state := .established, expires := expires } }, []) := by
  have hflags : before s.tcp.sndUna s.tcp.sndNxt = true ∧ flag s.tcp.flightFlags finFlag = false := by
    cases h.flight with
    | idle hi => rw [hs] at hi; exact absurd (by decide) hi
    | data hd => rw [hs] at hd; exact absurd hd (by decide)
    | syn _ hf _ hn => rw [hn]; exact ⟨before_succ _, by rcases hf with hf | hf <;> rw [hf] <;> decide⟩
    | fin hd => rw [hs] at hd; simp at hd
  unfold PulsarNetstack.acknowledge
  simp [hflags.1, hflags.2, ackComplete, ackAdvance]

theorem input (h : Bookkeeping s.tcp) (hc : s.tcp.state ≠ .closed) (hl : s.tcp.state ≠ .listen)
    (localAddr remoteAddr : SockAddr) (hm : 0 < seg.mss) :
    Bookkeeping (tcpInputConnection env s localAddr remoteAddr seg now).entry.tcp := by
  have hmss := h.mss_pos hc hl
  generalize hres : tcpInputConnection env s localAddr remoteAddr seg now = r
  cases hres ▸ tcpInputConnection_cases env s localAddr remoteAddr seg now with
  | keep => exact h
  | failed => exact fail _ _
  | established hs ha hf s' he =>
    subst he
    have hlen := h.syn_flightLen (.inl hs)
    exact { h with
      mss_pos := fun _ _ => hm
      flight := .idle (by decide : ¬ AwaitingControl .established) rfl hlen ha.symm }
  | timeWait hs =>
    obtain ⟨-, hl, hn⟩ := h.idle_of_state (.inr (.inr (.inr hs)))
    exact { h with mss_pos := fun _ _ => hmss, flight := .idle (by decide : ¬ AwaitingControl .timeWait) rfl hl hn }
  | accepted hs hr ht hseq hack => exact inputAccepted (h.acknowledge hmss hs hr hack)
  | opened hs hseq hack hroom s₀ h₀ =>
    subst h₀
    refine inputAccepted ?_
    rw [hack, h.acknowledge_opened hs]
    exact h.complete rfl hmss now .established (by decide) _

theorem tick (h : Bookkeeping s.tcp) : Bookkeeping (tcpTickEntry env s now).1.tcp := by
  generalize hr : tcpTickEntry env s now = r
  cases hr ▸ tcpTickEntry_cases env s now with
  | waiting => exact h
  | failed => exact fail _ _
  | resent | probed | cleared => exact { h with }

theorem buffered (h : Bookkeeping c) (data : List Byte) {n : ℕ} (hn : n = min data.length (tcpBufferSize - c.txLen)) :
    Bookkeeping { c with tx := c.tx ++ data.take n, txLen := add16 c.txLen n } ∧ add16 c.txLen n = c.txLen + n := by
  have htx := h.txLen_le
  have hadd : add16 c.txLen n = c.txLen + n := by
    apply add16_eq
    unfold tcpBufferSize at *
    omega
  refine ⟨h.withTx ?_ ?_ ?_, hadd⟩
  · rw [hadd, List.length_append, List.length_take, h.tx_length]
    omega
  · rw [hadd]
    omega
  · rw [hadd]
    omega

theorem send (h : Bookkeeping s.tcp) (data : List Byte) : Bookkeeping (tcpSend env s data now).1.tcp := by
  generalize hr : tcpSend env s data now = r
  cases hr ▸ tcpSend_cases env s data now with
  | unchanged => exact h
  | queued hs he n hn s₁ h₁ =>
    subst h₁
    exact kick (h.buffered data hn).1

theorem recv (h : Bookkeeping s.tcp) (length : ℕ) : Bookkeeping (tcpRecv s length).1.tcp := by
  generalize hr : tcpRecv s length = r
  cases hr ▸ tcpRecv_cases s length with
  | refused | nothing => exact h
  | data hl hr n hn s' he =>
    subst he
    have hrx := h.rxLen_le
    have hsub : sub16 s.tcp.rxLen n = s.tcp.rxLen - n := by
      apply sub16_eq (by omega)
      unfold tcpBufferSize at hrx
      omega
    refine h.withRx ?_ ?_ _
    · rw [hsub, List.length_drop, h.rx_length]
    · rw [hsub]
      omega

theorem listen (h : Bookkeeping s.tcp) (backlog : ℤ) : Bookkeeping (tcpListen s backlog).1.tcp := by
  unfold tcpListen
  split
  · exact h
  split
  · exact h
  · rename_i hs
    have hs : s.tcp.state = .closed ∨ s.tcp.state = .listen := by
      by_contra hn
      exact hs (not_or.mp hn)
    obtain ⟨hf, hl, hn⟩ := h.idle_of_state (hs.imp_right .inl)
    exact { h with
      mss_pos := fun _ hl => absurd rfl hl
      flight := .idle (by decide : ¬ AwaitingControl .listen) hf hl hn }

theorem close (h : Bookkeeping s.tcp) : Bookkeeping (closeEntry env s now).1.tcp := by
  unfold closeEntry
  dsimp only
  split
  · exact fail _ _
  · have hb : Bookkeeping { s.tcp with closing := true } := { h with }
    exact hb.kick

theorem step (h : Bookkeeping s.tcp) (hs : EntryStep env now s s') : Bookkeeping s'.tcp := by
  cases hs with
  | frame ht => rw [ht]; exact h
  | clear | allocate => exact empty
  | connect =>
    exact { h with
      mss_pos := fun _ _ => (by decide : 0 < 536)
      flight := .syn (.inl rfl) (.inl rfl) rfl (by simp [connectEntry, startFlight]; decide) }
  | listen _ _ _ backlog => exact h.listen backlog
  | accept => exact { h with }
  | send _ _ _ data => exact h.send data
  | recv _ _ _ length => exact h.recv length
  | close => exact h.close
  | fail => exact fail _ _
  | input hk ha hc hl la ra seg hm => exact h.input hc hl la ra hm
  | child ha fd parent la ra seg hm seed =>
    exact { empty with
      mss_pos := fun _ _ => hm
      flight := .syn (.inr rfl) (.inr rfl) rfl (by simp [childEntry, startFlight]; decide) }
  | tick => exact h.tick

end Bookkeeping

theorem Reachable.bookkeeping {admissible : TcpEnv → SocketTable → SocketEvent → Prop} {t : SocketTable}
    (ht : Reachable admissible t) : ∀ s ∈ t.entries, Bookkeeping s.tcp :=
  ht.forall_entries .empty fun _ _ _ _ _ _ hs h => h.step hs

inductive FlightKind
  | data | syn | fin
  deriving DecidableEq, Repr

def FlightKind.Holds (c : TcpConnection) : FlightKind → Prop
  | .data => 1 ≤ c.flightLen ∧ flag c.flightFlags synFlag = false ∧ flag c.flightFlags finFlag = false ∧
      (c.state = .established ∨ c.state = .closeWait)
  | .syn => c.flightLen = 0 ∧ flag c.flightFlags synFlag = true ∧
      (c.state = .synSent ∨ c.state = .synReceived)
  | .fin => c.flightLen = 0 ∧ flag c.flightFlags finFlag = true ∧
      (c.state = .finWait1 ∨ c.state = .lastAck)

theorem Bookkeeping.flightKind (h : Bookkeeping c) (hf : c.flightFlags ≠ 0) :
    c.sndNxt = c.sndUna + BitVec.ofNat 32 c.flightLen +
        (if flag c.flightFlags synFlag ∨ flag c.flightFlags finFlag then 1 else 0) ∧
      ∃! kind : FlightKind, kind.Holds c := by
  cases h.flight with
  | idle _ hf' => exact absurd hf' hf
  | data hs hf' hl ht hn =>
    refine ⟨?_, .data, ?_, ?_⟩
    · rw [hn, hf']
      simp [show flag (ackFlag ||| pshFlag) synFlag = false by decide,
        show flag (ackFlag ||| pshFlag) finFlag = false by decide]
    · exact ⟨hl, by rw [hf']; decide, by rw [hf']; decide, hs⟩
    · rintro (_ | _ | _) hk
      · rfl
      · exact absurd hk.1 (by omega)
      · exact absurd hk.1 (by omega)
  | syn hs hf' hl hn =>
    have hflags : flag c.flightFlags synFlag = true ∧ flag c.flightFlags finFlag = false := by
      rcases hf' with hf' | hf' <;> rw [hf'] <;> decide
    refine ⟨?_, .syn, ⟨hl, hflags.1, hs⟩, ?_⟩
    · rw [hn, hl]
      simp [hflags.1]
    · rintro (_ | _ | _) hk
      · exact absurd hk.1 (by omega)
      · rfl
      · exact absurd hk.2.1 (by simp [hflags.2])
  | fin hs hf' hl hn =>
    have hflags : flag c.flightFlags synFlag = false ∧ flag c.flightFlags finFlag = true := by
      rw [hf']
      decide
    refine ⟨?_, .fin, ⟨hl, hflags.2, hs⟩, ?_⟩
    · rw [hn, hl]
      simp [hflags.2]
    · rintro (_ | _ | _) hk
      · exact absurd hk.1 (by omega)
      · exact absurd hk.2.1 (by simp [hflags.1])
      · rfl

theorem reachable_bookkeeping {t : SocketTable} (ht : Reachable (fun _ _ _ => True) t) {s : SocketEntry}
    (hs : s ∈ t.entries) (_ha : s.allocated = true) (_hk : s.type = .stream) :
    s.tcp.rxLen ≤ 8192 ∧ s.tcp.flightLen ≤ s.tcp.txLen ∧ s.tcp.txLen ≤ 8192 ∧
      (s.tcp.flightFlags = 0 → s.tcp.flightLen = 0 ∧ s.tcp.sndNxt = s.tcp.sndUna) ∧
      (s.tcp.flightFlags ≠ 0 → s.tcp.sndNxt = s.tcp.sndUna + BitVec.ofNat 32 s.tcp.flightLen +
          (if flag s.tcp.flightFlags synFlag ∨ flag s.tcp.flightFlags finFlag then 1 else 0) ∧
        ∃! kind : FlightKind, kind.Holds s.tcp) ∧
      ∀ ack, before s.tcp.sndNxt ack = false → before s.tcp.sndUna ack = true → s.tcp.flightLen ≠ 0 →
        (ack - s.tcp.sndUna).toNat ≤ s.tcp.flightLen ∧ (ack - s.tcp.sndUna).toNat ≤ s.tcp.txLen := by
  have h := ht.bookkeeping s hs
  refine ⟨h.rxLen_le, h.flightLen_le, h.txLen_le, h.idle, h.flightKind, ?_⟩
  intro ack ha hu hl
  have hb := (h.ack_bytes hl hu ha).2
  exact ⟨hb, hb.trans h.flightLen_le⟩

def sendingRun : List SocketEvent :=
  [.socket 2 1 0, .connect 1 (some ⟨0x0200000a, 80⟩) 7 100,
    .segment 0x0200000a 0x0100000a ⟨80, 49152, 50, 8, synFlag ||| ackFlag, 1000, []⟩ [] 0 101,
    .send 1 [1, 2, 3] 102]

def sendingEntry : SocketEntry := (socketRun steadyEnv (socketSubsystemInit 2) sendingRun).entries.getD 0 {}

theorem sendingEntry_bookkeeping :
    sendingEntry.tcp.state = .established ∧ sendingEntry.tcp.flightLen = 3 ∧
      (∃! kind : FlightKind, kind.Holds sendingEntry.tcp) ∧
      (before sendingEntry.tcp.sndNxt 10 = false ∧ before sendingEntry.tcp.sndUna 10 = true) ∧
      ((10 : Word) - sendingEntry.tcp.sndUna).toNat ≤ sendingEntry.tcp.txLen := by
  have ht : Reachable (fun _ _ _ => True) (socketRun steadyEnv (socketSubsystemInit 2) sendingRun) :=
    (Reachable.init 2 (by decide)).run steadyEnv sendingRun ⟨trivial, trivial, trivial, trivial, trivial⟩
  obtain ⟨-, -, -, -, hflight, hack⟩ := reachable_bookkeeping ht (s := sendingEntry) (by decide) (by decide) (by decide)
  exact ⟨by decide, by decide, (hflight (by decide)).2, by decide, (hack 10 (by decide) (by decide) (by decide)).2⟩

end PulsarNetstack
