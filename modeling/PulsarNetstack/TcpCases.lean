import PulsarNetstack.TcpConnection

namespace PulsarNetstack

variable {env : TcpEnv} {s : SocketEntry} {seg : Segment} {now : ℕ} {ack : Word}
  {localAddr remoteAddr : SockAddr}

def Streaming (state : TcpState) : Prop := state = .established ∨ state = .closeWait

instance (state : TcpState) : Decidable (Streaming state) := by unfold Streaming; infer_instance

theorem not_streaming_iff {state : TcpState} :
    ¬ Streaming state ↔ state ≠ .established ∧ state ≠ .closeWait := by
  simp [Streaming]

@[simp] theorem tcpFail_tcp (s : SocketEntry) (e : Option Errno) : (tcpFail s e).1.tcp = {} := by
  unfold tcpFail
  by_cases h : s.isOpen <;> simp [h]

theorem tcpFail_entry (s : SocketEntry) (e : Option Errno) :
    (tcpFail s e).1 = if s.isOpen then { s with error := e, tcp := {} } else {} := by
  unfold tcpFail
  by_cases h : s.isOpen <;> simp [h]

inductive Kicked (env : TcpEnv) (s : SocketEntry) (now : ℕ) : SocketEntry × List TcpEffect → Prop
  | blocked (h : s.tcp.flightFlags ≠ 0 ∨ ¬ Streaming s.tcp.state) : Kicked env s now (s, [])
  | waiting (hf : s.tcp.flightFlags = 0) (hw : s.tcp.peerWindow = 0) (hd : s.tcp.deadline ≠ 0) :
      Kicked env s now (s, [])
  | empty (hf : s.tcp.flightFlags = 0) (ht : s.tcp.txLen = 0) (hc : s.tcp.closing = false) :
      Kicked env s now (s, [])
  | probe (hf : s.tcp.flightFlags = 0) (hs : Streaming s.tcp.state) (hw : s.tcp.peerWindow = 0) :
      Kicked env s now ({ s with tcp := { s.tcp with
        rto := env.hz, deadline := add64 now env.hz, retries := 0 } }, [])
  | failed (hf : s.tcp.flightFlags = 0) (hs : Streaming s.tcp.state) (e : Errno) :
      Kicked env s now (tcpFail s (some e))
  | data (hf : s.tcp.flightFlags = 0) (hs : Streaming s.tcp.state) (hw : s.tcp.peerWindow ≠ 0)
      (ht : s.tcp.txLen ≠ 0) (mtu : ℕ) (hm : 40 < mtu) (s' : SocketEntry)
      (he : s' = { s with
        tcp := startFlight env s.tcp (ackFlag ||| pshFlag) (flightLength s.tcp mtu) now }) :
      Kicked env s now (s', [tcpEmitFlight s'])
  | fin (hf : s.tcp.flightFlags = 0) (hs : Streaming s.tcp.state) (ht : s.tcp.txLen = 0)
      (hc : s.tcp.closing = true) (s' : SocketEntry)
      (he : s' = { s with
        tcp := startFlight env { s.tcp with state := finState s.tcp.state } (finFlag ||| ackFlag) 0 now }) :
      Kicked env s now (s', [tcpEmitFlight s'])

theorem tcpKick_cases (env : TcpEnv) (s : SocketEntry) (now : ℕ) : Kicked env s now (tcpKick env s now) := by
  unfold tcpKick
  simp only
  split_ifs with h1 h2 h3 h4 h5 h6
  · exact .blocked (h1.imp id not_streaming_iff.mpr)
  · obtain ⟨hf, hs⟩ := not_or.mp h1
    rw [← not_streaming_iff, not_not] at hs
    exact .probe (not_not.mp hf) hs h2.1
  · exact .waiting (not_not.mp (not_or.mp h1).1) h2.1 h3
  · obtain ⟨hf, hs⟩ := not_or.mp h1
    rw [← not_streaming_iff, not_not] at hs
    exact .failed (not_not.mp hf) hs _
  · obtain ⟨hf, hs⟩ := not_or.mp h1
    rw [← not_streaming_iff, not_not] at hs
    have hw : s.tcp.peerWindow ≠ 0 := fun h => h2 ⟨h, .inl h4⟩
    exact .data (not_not.mp hf) hs hw h4 _ (by omega) _ rfl
  · obtain ⟨hf, hs⟩ := not_or.mp h1
    rw [← not_streaming_iff, not_not] at hs
    exact .fin (not_not.mp hf) hs (not_not.mp h4) h6 _ rfl
  · exact .empty (not_not.mp (not_or.mp h1).1) (not_not.mp h4) (by simpa using h6)

inductive Acknowledged (env : TcpEnv) (s : SocketEntry) (ack : Word) (now : ℕ) :
    SocketEntry × List TcpEffect → Prop
  | duplicate (h : before s.tcp.sndUna ack = false) : Acknowledged env s ack now (s, [.count .duplicateAcks])
  | advanced (h : before s.tcp.sndUna ack = true) (hn : ack ≠ s.tcp.sndNxt) :
      Acknowledged env s ack now ({ s with tcp := ackAdvance s.tcp ack now }, [])
  | completed (h : before s.tcp.sndUna ack = true) (hn : ack = s.tcp.sndNxt)
      (hf : flag s.tcp.flightFlags finFlag = false) :
      Acknowledged env s ack now ({ s with tcp := ackComplete s.tcp ack now }, [])
  | lastAck (h : before s.tcp.sndUna ack = true) (hn : ack = s.tcp.sndNxt)
      (hf : flag s.tcp.flightFlags finFlag = true) (hs : s.tcp.state = .lastAck) :
      Acknowledged env s ack now (tcpFail { s with tcp := ackComplete s.tcp ack now } none)
  | timeWait (h : before s.tcp.sndUna ack = true) (hn : ack = s.tcp.sndNxt)
      (hf : flag s.tcp.flightFlags finFlag = true) (hs : s.tcp.state ≠ .lastAck)
      (hp : s.tcp.peerFin = true) :
      Acknowledged env s ack now ({ s with tcp := tcpTimeWait env (ackComplete s.tcp ack now) now }, [])
  | finWait2 (h : before s.tcp.sndUna ack = true) (hn : ack = s.tcp.sndNxt)
      (hf : flag s.tcp.flightFlags finFlag = true) (hs : s.tcp.state ≠ .lastAck)
      (hp : s.tcp.peerFin = false) :
      Acknowledged env s ack now ({ s with tcp := { ackComplete s.tcp ack now with
        state := .finWait2, expires := add64 now (tcpFinWaitSeconds * env.hz) } }, [])

theorem acknowledge_cases (env : TcpEnv) (s : SocketEntry) (ack : Word) (now : ℕ) :
    Acknowledged env s ack now (acknowledge env s ack now) := by
  unfold acknowledge
  simp only
  split_ifs with h1 h2 h3 h4 h5
  · exact .duplicate (by simpa using h1)
  · exact .advanced (by simpa using h1) h2
  · exact .lastAck (by simpa using h1) (not_not.mp h2) h3 h4
  · exact .timeWait (by simpa using h1) (not_not.mp h2) h3 h4 h5
  · exact .finWait2 (by simpa using h1) (not_not.mp h2) h3 h4 (by simpa using h5)
  · exact .completed (by simpa using h1) (not_not.mp h2) (by simpa using h3)

def receiveSegment (env : TcpEnv) (c : TcpConnection) (seg : Segment) (now : ℕ) : TcpConnection :=
  if !c.peerFin && seg.payload.length != 0 && receivedLength c seg != seg.payload.length then
    receivePayload c seg
  else receiveFin env (receivePayload c seg) seg now

theorem tcpInputAccepted_eq (env : TcpEnv) (s : SocketEntry) (seg : Segment) (now : ℕ)
    (a : SocketEntry × List TcpEffect) (ha : acknowledge env s seg.ack now = a)
    (hl : a.1.allocated = true) (hs : a.1.tcp.state ≠ .closed) (r : SocketEntry)
    (hr : r = { a.1 with tcp := receiveSegment env (updateWindow a.1.tcp seg) seg now }) :
    tcpInputAccepted env s seg now = ⟨(tcpKick env r now).1,
      a.2 ++ (if seg.payload.length ≠ 0 ∨ flag seg.flags finFlag then [tcpAck r] else []) ++
        (tcpKick env r now).2, .none⟩ := by
  subst hr
  have hdead : ¬ ((!a.1.allocated || decide (a.1.tcp.state = .closed)) = true) := by simp [hl, hs]
  simp only [tcpInputAccepted, ha, if_neg hdead, receiveSegment]
  split_ifs with h1 h2 h3
  · rfl
  · simp only [Bool.and_eq_true, bne_iff_ne, ne_eq] at h1
    exact absurd (.inl h1.1.2) h2
  · rfl
  · rfl

theorem tcpInputAccepted_dead (env : TcpEnv) (s : SocketEntry) (seg : Segment) (now : ℕ)
    (a : SocketEntry × List TcpEffect) (ha : acknowledge env s seg.ack now = a)
    (h : a.1.allocated = false ∨ a.1.tcp.state = .closed) :
    tcpInputAccepted env s seg now = ⟨a.1, a.2, .none⟩ := by
  have hdead : (!a.1.allocated || decide (a.1.tcp.state = .closed)) = true := by
    rcases h with h | h <;> simp [h]
  simp only [tcpInputAccepted, ha, if_pos hdead]

theorem tcpInputAccepted_entry (env : TcpEnv) (s : SocketEntry) (seg : Segment) (now : ℕ)
    (a : SocketEntry) (ha : (acknowledge env s seg.ack now).1 = a) :
    ((a.allocated = false ∨ a.tcp.state = .closed) ∧ (tcpInputAccepted env s seg now).entry = a) ∨
      (a.allocated = true ∧ a.tcp.state ≠ .closed ∧ (tcpInputAccepted env s seg now).entry =
        (tcpKick env { a with tcp := receiveSegment env (updateWindow a.tcp seg) seg now } now).1) := by
  subst ha
  by_cases h : (acknowledge env s seg.ack now).1.allocated = false ∨
      (acknowledge env s seg.ack now).1.tcp.state = .closed
  · exact .inl ⟨h, by rw [tcpInputAccepted_dead env s seg now _ rfl h]⟩
  · obtain ⟨hl, hs⟩ := not_or.mp h
    have hl : (acknowledge env s seg.ack now).1.allocated = true := by simpa using hl
    exact .inr ⟨hl, hs, by rw [tcpInputAccepted_eq env s seg now _ rfl hl hs _ rfl]⟩

inductive Reply (s : SocketEntry) (localAddr remoteAddr : SockAddr) (seg : Segment) : TcpEffect → Prop
  | count (counter : TcpCounter) : Reply s localAddr remoteAddr seg (.count counter)
  | ack : Reply s localAddr remoteAddr seg (tcpAck s)
  | flight (h : s.tcp.state = .synReceived) : Reply s localAddr remoteAddr seg (tcpEmitFlight s)
  | reset (seq ack : Word) (flags : Byte) (h : flags = rstFlag ∨ flags = rstFlag ||| ackFlag) :
      Reply s localAddr remoteAddr seg (.emit localAddr remoteAddr seq ack flags 0 [])

theorem resetReply_reply (s : SocketEntry) (seg : Segment) :
    ∀ e ∈ resetReply localAddr remoteAddr seg.seq seg.ack seg.flags seg.payload.length,
      Reply s localAddr remoteAddr seg e := by
  intro e he
  unfold resetReply at he
  by_cases hr : flag seg.flags rstFlag = true
  · simp [hr] at he
  by_cases ha : flag seg.flags ackFlag = true
  · simp only [hr, ha, Bool.false_eq_true, ↓reduceIte, List.mem_cons, List.not_mem_nil, or_false] at he
    rcases he with rfl | rfl
    · exact .reset _ _ _ (.inl rfl)
    · exact .count _
  · simp only [hr, ha, Bool.false_eq_true, ↓reduceIte, List.mem_cons, List.not_mem_nil, or_false] at he
    rcases he with rfl | rfl
    · exact .reset _ _ _ (.inr rfl)
    · exact .count _

theorem resetReply_length (localAddr remoteAddr : SockAddr) (seq ack : Word) (flags : Byte) (length : ℕ) :
    (resetReply localAddr remoteAddr seq ack flags length).length ≤ 2 := by
  unfold resetReply
  split
  · exact Nat.zero_le 2
  split
  · exact Nat.le_refl 2
  · exact Nat.le_refl 2

inductive Input (env : TcpEnv) (s : SocketEntry) (localAddr remoteAddr : SockAddr) (seg : Segment) (now : ℕ) :
    TcpResult → Prop
  | keep (effects : List TcpEffect) (reason : DropReason)
      (h : ∀ e ∈ effects, Reply s localAddr remoteAddr seg e) (hlen : effects.length ≤ 2) :
      Input env s localAddr remoteAddr seg now ⟨s, effects, reason⟩
  | failed (e : Errno) (counted : List TcpEffect) (hc : ∀ e ∈ counted, e = .count .resets) :
      Input env s localAddr remoteAddr seg now
        ⟨(tcpFail s (some e)).1, counted ++ (tcpFail s (some e)).2, .none⟩
  | established (hs : s.tcp.state = .synSent) (ha : seg.ack = s.tcp.sndNxt)
      (hf : flag seg.flags synFlag = true) (s' : SocketEntry)
      (he : s' = { s with tcp := { s.tcp with
        rcvNxt := seg.seq + 1, sndUna := seg.ack, flightFlags := 0, deadline := 0, mss := seg.mss,
        peerWindow := seg.window, sndWl1 := seg.seq, sndWl2 := seg.ack, state := .established } }) :
      Input env s localAddr remoteAddr seg now ⟨s', [.count .established, tcpAck s'], .none⟩
  | timeWait (hs : s.tcp.state = .timeWait) :
      Input env s localAddr remoteAddr seg now ⟨{ s with tcp := tcpTimeWait env s.tcp now }, [tcpAck s], .none⟩
  | accepted (hs : s.tcp.state ≠ .synSent) (hr : s.tcp.state ≠ .synReceived) (ht : s.tcp.state ≠ .timeWait)
      (hseq : seg.seq = s.tcp.rcvNxt) (hack : before s.tcp.sndNxt seg.ack = false)
      (hroom : seg.payload.length ≠ 0 ∨ flag seg.flags finFlag = true → s.tcp.rxLen ≠ tcpBufferSize) :
      Input env s localAddr remoteAddr seg now (tcpInputAccepted env s seg now)
  | opened (hs : s.tcp.state = .synReceived) (hseq : seg.seq = s.tcp.rcvNxt) (hack : seg.ack = s.tcp.sndNxt)
      (hroom : seg.payload.length ≠ 0 ∨ flag seg.flags finFlag = true → s.tcp.rxLen ≠ tcpBufferSize)
      (s₀ : SocketEntry) (h₀ : s₀ = { s with tcp := { s.tcp with
        state := .established, expires := add64 now (60 * env.hz) } }) :
      Input env s localAddr remoteAddr seg now ⟨(tcpInputAccepted env s₀ seg now).entry,
        .count .established :: (tcpInputAccepted env s₀ seg now).effects,
        (tcpInputAccepted env s₀ seg now).reason⟩

theorem flag_of_and {flags mask sub : Byte} (h : flags &&& mask = mask) (hs : mask &&& sub = sub)
    (h0 : sub ≠ 0) : flag flags sub = true := by
  have he : flags &&& sub = sub := by
    rw [← hs, ← BitVec.and_assoc, h]
  unfold flag
  rw [he]
  exact bne_iff_ne.mpr h0

theorem tcpInputSynSent_cases (env : TcpEnv) (s : SocketEntry) (localAddr remoteAddr : SockAddr)
    (seg : Segment) (now : ℕ) (hs : s.tcp.state = .synSent) :
    Input env s localAddr remoteAddr seg now (tcpInputSynSent s localAddr remoteAddr seg) := by
  unfold tcpInputSynSent
  simp only
  split_ifs with h1 h2 h3 h4
  · exact .keep _ _ (resetReply_reply s seg) (resetReply_length ..)
  · exact .failed _ [] (by simp)
  · exact .keep _ _ (by simp) (by simp)
  · exact .keep _ _ (by simp) (by simp)
  · have hb := not_not.mp h4
    have hack : seg.ack = s.tcp.sndNxt := by
      by_contra hne
      exact h1 ⟨flag_of_and hb (by decide) (by decide), hne⟩
    exact .established hs hack (flag_of_and hb (by decide) (by decide)) _ rfl

theorem reply_ack (s : SocketEntry) (localAddr remoteAddr : SockAddr) (seg : Segment) :
    ∀ e ∈ [tcpAck s], Reply s localAddr remoteAddr seg e := by
  simp only [List.mem_singleton, forall_eq]
  exact .ack

theorem tcpInputInOrder_cases (env : TcpEnv) (s : SocketEntry) (localAddr remoteAddr : SockAddr)
    (seg : Segment) (now : ℕ) (hs : s.tcp.state ≠ .synSent) (ht : s.tcp.state ≠ .timeWait)
    (hseq : seg.seq = s.tcp.rcvNxt) :
    Input env s localAddr remoteAddr seg now (tcpInputInOrder env s localAddr remoteAddr seg now) := by
  unfold tcpInputInOrder
  dsimp only
  split
  · exact .failed .econnreset [.count .resets] (by simp)
  split
  · exact .keep _ _ (reply_ack _ _ _ _) (by simp)
  split
  · exact .keep _ _ (reply_ack _ _ _ _) (by simp)
  rename_i hroom
  have hroom : seg.payload.length ≠ 0 ∨ flag seg.flags finFlag = true → s.tcp.rxLen ≠ tcpBufferSize :=
    fun h e => hroom ⟨h, e⟩
  split
  · exact .keep _ _ (by simp) (by simp)
  split
  · exact .keep _ _ (reply_ack _ _ _ _) (by simp)
  rename_i hack
  split
  · rename_i hr
    split
    · exact .keep _ _ (resetReply_reply s seg) (resetReply_length ..)
    · rename_i ha
      exact .opened hr hseq (not_not.mp ha) hroom _ rfl
  · rename_i hr
    exact .accepted hs hr ht hseq (by simpa using hack) hroom

theorem tcpInputConnection_cases (env : TcpEnv) (s : SocketEntry) (localAddr remoteAddr : SockAddr)
    (seg : Segment) (now : ℕ) :
    Input env s localAddr remoteAddr seg now (tcpInputConnection env s localAddr remoteAddr seg now) := by
  unfold tcpInputConnection
  dsimp only
  split
  · exact tcpInputSynSent_cases env s localAddr remoteAddr seg now ‹_›
  rename_i hs
  split
  · rename_i h
    refine .keep _ _ ?_ (by simp)
    simp only [List.mem_singleton, forall_eq]
    exact .flight h.1
  split
  · rename_i ht
    split
    · exact .keep _ _ (by simp) (by simp)
    split
    · exact .timeWait ht
    · exact .keep _ _ (reply_ack _ _ _ _) (by simp)
  rename_i ht
  split
  · split
    · refine .keep _ _ ?_ (by simp)
      simp only [List.mem_cons, List.not_mem_nil, or_false, forall_eq_or_imp, forall_eq]
      exact ⟨.ack, .count _⟩
    · refine .keep _ _ ?_ (by simp)
      simp only [List.mem_singleton, forall_eq]
      exact .count _
  · rename_i hseq
    exact tcpInputInOrder_cases env s localAddr remoteAddr seg now hs ht (not_not.mp hseq)

inductive Sent (env : TcpEnv) (s : SocketEntry) (data : List Byte) (now : ℕ) :
    SocketEntry × List TcpEffect × Except Errno ℕ → Prop
  | unchanged (r : Except Errno ℕ) (hr : r = .ok 0 ∨ ∃ e, r = .error e) : Sent env s data now (s, [], r)
  | queued (hs : Streaming s.tcp.state) (he : s.error = none) (n : ℕ)
      (hn : n = min data.length (tcpBufferSize - s.tcp.txLen)) (s₁ : SocketEntry)
      (h₁ : s₁ = { s with tcp := { s.tcp with tx := s.tcp.tx ++ data.take n, txLen := add16 s.tcp.txLen n } })
      (r : Except Errno ℕ) (hr : r = .ok n ∧ (tcpKick env s₁ now).1.error = none ∨
        ∃ e, r = .error e ∧ (tcpKick env s₁ now).1.error = some e) :
      Sent env s data now ((tcpKick env s₁ now).1, (tcpKick env s₁ now).2, r)

theorem tcpSend_cases (env : TcpEnv) (s : SocketEntry) (data : List Byte) (now : ℕ) :
    Sent env s data now (tcpSend env s data now) := by
  unfold tcpSend
  dsimp only
  split
  · exact .unchanged _ (.inr ⟨_, rfl⟩)
  rename_i he
  split
  · exact .unchanged _ (.inr ⟨_, rfl⟩)
  rename_i hs
  rw [← not_streaming_iff, not_not] at hs
  split
  · exact .unchanged _ (.inl rfl)
  split
  · exact .unchanged _ (.inr ⟨_, rfl⟩)
  split
  · rename_i e hk
    exact .queued hs he _ rfl _ rfl _ (.inr ⟨e, rfl, hk⟩)
  · rename_i hk
    exact .queued hs he _ rfl _ rfl _ (.inl ⟨rfl, hk⟩)

inductive Taken (s : SocketEntry) (length : ℕ) : SocketEntry × List TcpEffect × Except Errno (List Byte) → Prop
  | refused (e : Errno) : Taken s length (s, [], .error e)
  | nothing (h : length = 0 ∨ s.tcp.rxLen = 0 ∧ s.tcp.peerFin = true) : Taken s length (s, [], .ok [])
  | data (hl : length ≠ 0) (hr : s.tcp.rxLen ≠ 0) (n : ℕ) (hn : n = min length s.tcp.rxLen) (s' : SocketEntry)
      (he : s' = { s with tcp := { s.tcp with rx := s.tcp.rx.drop n, rxLen := sub16 s.tcp.rxLen n } }) :
      Taken s length (s', [tcpAck s'], .ok (s.tcp.rx.take n))

theorem tcpRecv_cases (s : SocketEntry) (length : ℕ) : Taken s length (tcpRecv s length) := by
  unfold tcpRecv
  dsimp only
  split
  · rename_i h
    exact .nothing (.inl h)
  rename_i hl
  split
  · rename_i hr
    split
    · exact .refused _
    split
    · rename_i hp
      exact .nothing (.inr ⟨hr, hp⟩)
    · exact .refused _
  · rename_i hr
    exact .data hl hr _ rfl _ rfl

def backoff (env : TcpEnv) (c : TcpConnection) : ℕ := min (c.rto * 2 % 18446744073709551616) (60 * env.hz)

def rearm (env : TcpEnv) (c : TcpConnection) (now : ℕ) : TcpConnection :=
  { c with retries := c.retries + 1, rto := backoff env c, deadline := add64 now (backoff env c) }

inductive Ticked (env : TcpEnv) (s : SocketEntry) (now : ℕ) : SocketEntry × List TcpEffect → Prop
  | waiting : Ticked env s now (s, [])
  | failed (e : Option Errno) (he : e = none → s.tcp.state = .timeWait) (counted : List TcpEffect)
      (hc : ∀ x ∈ counted, x = .count .timeouts) : Ticked env s now ((tcpFail s e).1, counted ++ (tcpFail s e).2)
  | resent (hd : s.tcp.deadline ≠ 0) (hf : s.tcp.flightFlags ≠ 0) :
      Ticked env s now ({ s with tcp := rearm env s.tcp now }, [tcpEmitFlight s, .count .retransmissions])
  | probed (hd : s.tcp.deadline ≠ 0) (hf : s.tcp.flightFlags = 0) (hw : s.tcp.peerWindow = 0) :
      Ticked env s now ({ s with tcp := rearm env s.tcp now }, [.emit s.localAddr s.remoteAddr (s.tcp.sndNxt - 1)
        s.tcp.rcvNxt ackFlag (receiveWindow s.tcp) []])
  | cleared (hf : s.tcp.flightFlags = 0) (hn : ¬ ((s.tcp.txLen ≠ 0 ∨ s.tcp.closing = true) ∧ s.tcp.peerWindow = 0)) :
      Ticked env s now ({ s with tcp := { s.tcp with deadline := 0 } }, [])

theorem tcpTickEntry_cases (env : TcpEnv) (s : SocketEntry) (now : ℕ) : Ticked env s now (tcpTickEntry env s now) := by
  unfold tcpTickEntry
  dsimp only
  split
  · refine .failed _ ?_ _ ?_
    · by_cases hs : s.tcp.state = .timeWait <;> simp [hs]
    · by_cases hs : s.tcp.state = .timeWait <;> simp [hs]
  split
  · exact .waiting
  rename_i hd
  split
  · exact .failed _ (by simp) [.count .timeouts] (by simp)
  split
  · rename_i hf
    exact .resent (not_or.mp hd).1 hf
  rename_i hf
  split
  · rename_i hp
    exact .probed (not_or.mp hd).1 (not_not.mp hf) hp.2
  · rename_i hp
    exact .cleared (not_not.mp hf) hp

def TcpEffect.emits : TcpEffect → Bool
  | .emit .. => true
  | .cancelQueued .. | .count _ => false

theorem tcpFail_silent (s : SocketEntry) (e : Option Errno) : (tcpFail s e).2.countP TcpEffect.emits = 0 := by
  unfold tcpFail
  split_ifs <;> rfl

theorem acknowledge_silent (env : TcpEnv) (s : SocketEntry) (ack : Word) (now : ℕ) :
    (acknowledge env s ack now).2.countP TcpEffect.emits = 0 := by
  generalize hres : acknowledge env s ack now = r
  cases hres ▸ acknowledge_cases env s ack now with
  | lastAck => exact tcpFail_silent _ none
  | duplicate | advanced | completed | timeWait | finWait2 => rfl

theorem tcpKick_emits (env : TcpEnv) (s : SocketEntry) (now : ℕ) : (tcpKick env s now).2.countP TcpEffect.emits ≤ 1 := by
  generalize hres : tcpKick env s now = r
  cases hres ▸ tcpKick_cases env s now with
  | failed hf hs e => exact (tcpFail_silent s (some e)).trans_le (Nat.zero_le 1)
  | blocked | waiting | empty | probe => exact Nat.zero_le 1
  | data | fin => exact Nat.le_refl 1

theorem tcpInputAccepted_emits (env : TcpEnv) (s : SocketEntry) (seg : Segment) (now : ℕ) :
    (tcpInputAccepted env s seg now).effects.countP TcpEffect.emits ≤ 2 := by
  have hsilent := acknowledge_silent env s seg.ack now
  by_cases h : (acknowledge env s seg.ack now).1.allocated = false ∨ (acknowledge env s seg.ack now).1.tcp.state = .closed
  · rw [tcpInputAccepted_dead env s seg now _ rfl h]
    exact hsilent.trans_le (Nat.zero_le 2)
  · obtain ⟨hl, hs⟩ := not_or.mp h
    generalize hr : { (acknowledge env s seg.ack now).1 with
      tcp := receiveSegment env (updateWindow (acknowledge env s seg.ack now).1.tcp seg) seg now } = r
    rw [tcpInputAccepted_eq env s seg now _ rfl (eq_true_of_ne_false hl) hs r hr.symm]
    have hkick := tcpKick_emits env r now
    have hack : (if seg.payload.length ≠ 0 ∨ flag seg.flags finFlag then [tcpAck r] else []).countP TcpEffect.emits ≤ 1 := by
      split_ifs
      · exact Nat.le_refl 1
      · exact Nat.zero_le 1
    rw [List.countP_append, List.countP_append, hsilent]
    omega

theorem tcpInputConnection_emits (env : TcpEnv) (s : SocketEntry) (localAddr remoteAddr : SockAddr) (seg : Segment)
    (now : ℕ) : (tcpInputConnection env s localAddr remoteAddr seg now).effects.countP TcpEffect.emits ≤ 2 := by
  generalize hres : tcpInputConnection env s localAddr remoteAddr seg now = r
  cases hres ▸ tcpInputConnection_cases env s localAddr remoteAddr seg now with
  | keep effects reason h hlen => exact List.countP_le_length.trans hlen
  | failed e counted hc =>
    have hcounted : counted.countP TcpEffect.emits = 0 := by
      rw [List.countP_eq_zero]
      intro e he
      rw [hc e he]
      exact Bool.false_ne_true
    change (counted ++ (tcpFail s (some e)).2).countP _ ≤ 2
    rw [List.countP_append, hcounted, tcpFail_silent]
    exact Nat.zero_le 2
  | established | timeWait => exact Nat.le_succ 1
  | accepted => exact tcpInputAccepted_emits env s seg now
  | opened hs hseq hack hroom s₀ h₀ => exact tcpInputAccepted_emits env s₀ seg now

end PulsarNetstack
