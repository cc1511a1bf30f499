import PulsarNetstack.TcpLiveness

namespace PulsarNetstack

variable {env : TcpEnv} {s : SocketEntry} {now window : ℕ}

def windowAnswer (c : TcpConnection) (window : ℕ) : Segment where
  seq := c.rcvNxt
  ack := c.sndNxt
  flags := ackFlag
  window := window
  mss := 536
  payload := []

def WindowCurrent (c : TcpConnection) : Prop :=
  before c.rcvNxt c.sndWl1 = false ∧ (c.rcvNxt ≠ c.sndWl1 ∨ before c.sndNxt c.sndWl2 = false)

structure Persisting (s : SocketEntry) : Prop where
  allocated : s.allocated = true
  streaming : Streaming s.tcp.state
  flightFlags : s.tcp.flightFlags = 0
  txLen : s.tcp.txLen ≠ 0
  txLen_le : s.tcp.txLen ≤ tcpBufferSize
  peerWindow : s.tcp.peerWindow = 0
  sndUna : s.tcp.sndUna = s.tcp.sndNxt
  expires : s.tcp.expires = 0

theorem streaming_ne {state other : TcpState} (h : Streaming state) (hother : ¬ Streaming other) : state ≠ other := by
  rintro rfl
  exact hother h

structure Waits (s s' : SocketEntry) (n : ℕ) : Prop where
  persisting : Persisting s'
  retries : s'.tcp.retries ≤ s.tcp.retries + n
  current : WindowCurrent s.tcp → WindowCurrent s'.tcp

theorem Waits.refl (h : Persisting s) : Waits s s 0 := ⟨h, Nat.le_refl _, id⟩

theorem Waits.trans {s' s'' : SocketEntry} {n m : ℕ} (h : Waits s s' n) (h' : Waits s' s'' m) : Waits s s'' (n + m) := by
  refine ⟨h'.persisting, ?_, fun hcurrent => h'.current (h.current hcurrent)⟩
  have := h.retries
  have := h'.retries
  omega

theorem tcpKick_waits (h : Persisting s) (env : TcpEnv) (now : ℕ) : Waits s (tcpKick env s now).1 0 := by
  have hready : ¬ (s.tcp.flightFlags ≠ 0 ∨ s.tcp.state ≠ .established ∧ s.tcp.state ≠ .closeWait) :=
    not_or.mpr ⟨not_not.mpr h.flightFlags, not_streaming_iff.not.mp (not_not.mpr h.streaming)⟩
  rw [tcpKick, if_neg hready, if_pos ⟨h.peerWindow, .inl h.txLen⟩]
  split
  · exact ⟨{ h with }, Nat.zero_le _, id⟩
  · exact .refl h

theorem tcpKick_data (hflight : s.tcp.flightFlags = 0) (hstreaming : Streaming s.tcp.state) (hwindow : s.tcp.peerWindow ≠ 0)
    (hdata : s.tcp.txLen ≠ 0) {route : RouteResult}
    (hroute : env.routeQuery s.remoteAddr.ip s.localAddr.ip = (.none, route)) (hmtu : 40 < route.mtu) (s' : SocketEntry)
    (hs' : s' = { s with tcp := startFlight env s.tcp (ackFlag ||| pshFlag) (flightLength s.tcp route.mtu) now }) :
    tcpKick env s now = (s', [tcpEmitFlight s']) := by
  have hready : ¬ (s.tcp.flightFlags ≠ 0 ∨ s.tcp.state ≠ .established ∧ s.tcp.state ≠ .closeWait) :=
    not_or.mpr ⟨not_not.mpr hflight, not_streaming_iff.not.mp (not_not.mpr hstreaming)⟩
  have hopen : ¬ (s.tcp.peerWindow = 0 ∧ (s.tcp.txLen ≠ 0 ∨ s.tcp.closing = true)) := fun h => hwindow h.1
  have hfits : ¬ (DropReason.none ≠ .none ∨ route.mtu ≤ 40) := not_or.mpr ⟨not_not.mpr rfl, not_le.mpr hmtu⟩
  rw [hs']
  simp only [tcpKick, if_neg hready, if_neg hopen, if_pos hdata, hroute, if_neg hfits]

theorem tcpInputConnection_answer (h : Persisting s) (localAddr remoteAddr : SockAddr) (payload : List Byte) :
    tcpInputConnection env s localAddr remoteAddr { windowAnswer s.tcp window with payload } now =
      if payload.length ≠ 0 ∧ s.tcp.rxLen = tcpBufferSize then ⟨s, [tcpAck s], .tcpOutOfOrder⟩
      else tcpInputAccepted env s { windowAnswer s.tcp window with payload } now := by
  have hack : before s.tcp.sndNxt s.tcp.sndNxt = false := before_self _
  have hseq : ¬ (windowAnswer s.tcp window).seq ≠ s.tcp.rcvNxt := not_not.mpr rfl
  have hflags : (windowAnswer s.tcp window).flags = ackFlag := rfl
  unfold tcpInputConnection
  dsimp only
  rw [if_neg (streaming_ne h.streaming (by decide)), if_neg fun hs => streaming_ne h.streaming (by decide) hs.1,
    if_neg (streaming_ne h.streaming (by decide)), if_neg hseq]
  unfold tcpInputInOrder
  dsimp only
  rw [hflags, if_neg (by decide), if_neg (by decide)]
  by_cases hfull : payload.length ≠ 0 ∧ s.tcp.rxLen = tcpBufferSize
  · rw [if_pos hfull, if_pos ⟨.inl hfull.1, hfull.2⟩]
  · rw [if_neg hfull, if_neg fun h => hfull ⟨h.1.resolve_right (by decide), h.2⟩, if_neg (by decide),
      if_neg (by rw [windowAnswer, hack]; decide), if_neg (streaming_ne h.streaming (by decide))]

theorem tcpInputAccepted_answer (h : Persisting s) {seg : Segment} (hack : seg.ack = s.tcp.sndNxt) (hflags : seg.flags = ackFlag)
    (s' : SocketEntry) (hs' : s' = { s with tcp := receivePayload (updateWindow s.tcp seg) seg }) :
    tcpInputAccepted env s seg now = ⟨(tcpKick env s' now).1,
      .count .duplicateAcks :: (if seg.payload.length ≠ 0 then [tcpAck s'] else []) ++ (tcpKick env s' now).2, .none⟩ := by
  have hduplicate : acknowledge env s seg.ack now = (s, [.count .duplicateAcks]) := by
    rw [hack]
    unfold acknowledge
    dsimp only
    rw [if_pos]
    rw [h.sndUna, before_self]
    rfl
  have hfin : flag seg.flags finFlag = false := by
    rw [hflags]
    decide
  have hreceive : receiveSegment env (updateWindow s.tcp seg) seg now = receivePayload (updateWindow s.tcp seg) seg := by
    unfold receiveSegment receiveFin
    simp only [hfin, Bool.and_false, Bool.false_and, Bool.false_eq_true, if_false, ite_self]
  rw [← hreceive] at hs'
  rw [tcpInputAccepted_eq env s seg now _ hduplicate h.allocated (streaming_ne h.streaming (by decide)) s' hs']
  simp only [hfin, Bool.false_eq_true, or_false, List.cons_append, List.nil_append]

theorem updateWindow_answer (h : WindowCurrent s.tcp) : updateWindow s.tcp (windowAnswer s.tcp window) =
    { s.tcp with peerWindow := window, sndWl1 := s.tcp.rcvNxt, sndWl2 := s.tcp.sndNxt } := by
  unfold updateWindow
  apply if_pos
  change (!before s.tcp.rcvNxt s.tcp.sndWl1 && (s.tcp.rcvNxt != s.tcp.sndWl1 || !before s.tcp.sndNxt s.tcp.sndWl2)) = true
  rw [h.1, Bool.not_false, Bool.true_and, Bool.or_eq_true, bne_iff_ne, Bool.not_eq_true']
  exact h.2

inductive PersistEvent
  | tick (now : ℕ)
  | answer (payload : List Byte) (now : ℕ)
  | send (data : List Byte) (now : ℕ)
  | recv (length : ℕ)
  | close (now : ℕ)

def persistStep (env : TcpEnv) (s : SocketEntry) : PersistEvent → SocketEntry
  | .tick now => (tcpTickEntry env s now).1
  | .answer payload now =>
    (tcpInputConnection env s s.localAddr s.remoteAddr { windowAnswer s.tcp 0 with payload } now).entry
  | .send data now => (tcpSend env s data now).1
  | .recv length => (tcpRecv s length).1
  | .close now => (closeEntry env s now).1

def probes (s : SocketEntry) : PersistEvent → ℕ
  | .tick now => if s.tcp.deadline = 0 ∨ now < s.tcp.deadline then 0 else 1
  | _ => 0

def persistRun : SocketEntry → List (TcpEnv × PersistEvent) → SocketEntry
  | s, [] => s
  | s, (env, event) :: events => persistRun (persistStep env s event) events

def probeCount : SocketEntry → List (TcpEnv × PersistEvent) → ℕ
  | _, [] => 0
  | s, (env, event) :: events => probes s event + probeCount (persistStep env s event) events

namespace Persisting

theorem tick (h : Persisting s) (env : TcpEnv) (now : ℕ) (hretries : s.tcp.retries + probes s (.tick now) ≤ tcpMaxRetries) :
    Waits s (tcpTickEntry env s now).1 (probes s (.tick now)) := by
  dsimp only [probes] at hretries ⊢
  unfold tcpTickEntry
  dsimp only
  rw [if_neg fun hexpired => hexpired.1 h.expires]
  split
  · exact .refl h
  · rename_i hdue
    rw [if_neg hdue] at hretries
    rw [if_neg (by omega), if_neg (not_not.mpr h.flightFlags), if_pos ⟨.inl h.txLen, h.peerWindow⟩]
    exact ⟨{ h with }, Nat.le_refl _, id⟩

theorem receives (h : Persisting s) (payload : List Byte) : Waits s { s with
    tcp := receivePayload (updateWindow s.tcp (windowAnswer s.tcp 0)) { windowAnswer s.tcp 0 with payload } } 0 := by
  have hupdated : Waits s { s with tcp := updateWindow s.tcp (windowAnswer s.tcp 0) } 0 := by
    unfold updateWindow
    split
    · refine ⟨⟨h.allocated, h.streaming, h.flightFlags, h.txLen, h.txLen_le, rfl, h.sndUna, h.expires⟩, Nat.le_refl _, ?_⟩
      exact fun _ => ⟨before_self _, .inr (before_self _)⟩
    · exact .refl h
  unfold receivePayload
  split
  · refine ⟨{ hupdated.persisting with }, hupdated.retries, fun hcurrent => ?_⟩
    rw [updateWindow_answer hcurrent]
    -- the window was taken from this segment, and what it carries moves `rcv_nxt` by at most one buffer
    refine ⟨Bool.eq_false_iff.mpr fun hbefore => ?_, .inr (before_self _)⟩
    rw [before_iff] at hbefore
    simp only [receivedLength, BitVec.toNat_sub, BitVec.toNat_add, BitVec.toNat_ofNat, tcpBufferSize] at hbefore
    omega
  · exact hupdated

theorem answer (h : Persisting s) (env : TcpEnv) (payload : List Byte) (now : ℕ) :
    Waits s (persistStep env s (.answer payload now)) 0 := by
  dsimp only [persistStep]
  rw [tcpInputConnection_answer h]
  split
  · exact .refl h
  · rw [tcpInputAccepted_answer h rfl rfl _ rfl]
    exact (h.receives payload).trans (tcpKick_waits (h.receives payload).persisting env now)

theorem send (h : Persisting s) (env : TcpEnv) (data : List Byte) (now : ℕ) : Waits s (tcpSend env s data now).1 0 := by
  generalize hres : tcpSend env s data now = r
  cases hres ▸ tcpSend_cases env s data now with
  | unchanged => exact .refl h
  | queued _ _ n hn s₁ h₁ =>
    have hle := h.txLen_le
    have hsum : add16 s.tcp.txLen n = s.tcp.txLen + n := by
      rw [add16]
      have hsize : tcpBufferSize = 8192 := rfl
      omega
    have hqueued : Waits s s₁ 0 := by
      rw [h₁]
      refine ⟨{ h with txLen := ?_, txLen_le := ?_ }, Nat.le_refl _, id⟩
      · change add16 s.tcp.txLen n ≠ 0
        have := h.txLen
        omega
      · change add16 s.tcp.txLen n ≤ tcpBufferSize
        omega
    exact hqueued.trans (tcpKick_waits hqueued.persisting env now)

theorem recv (h : Persisting s) (length : ℕ) : Waits s (tcpRecv s length).1 0 := by
  generalize hres : tcpRecv s length = r
  cases hres ▸ tcpRecv_cases s length with
  | refused | nothing => exact .refl h
  | data _ _ n _ s' he =>
    rw [he]
    exact ⟨{ h with }, Nat.le_refl _, id⟩

theorem close (h : Persisting s) (env : TcpEnv) (now : ℕ) : Waits s (closeEntry env s now).1 0 := by
  have hopen : ¬ (s.tcp.state = .closed ∨ s.tcp.state = .synSent ∨ s.tcp.state = .synReceived) := by
    rintro (hs | hs | hs)
    all_goals exact streaming_ne h.streaming (by decide) hs
  have hclosing : Waits s { s with isOpen := false, tcp := { s.tcp with closing := true } } 0 := ⟨{ h with }, Nat.le_refl _, id⟩
  unfold closeEntry
  dsimp only
  rw [if_neg hopen]
  exact hclosing.trans (tcpKick_waits hclosing.persisting env now)

theorem step (h : Persisting s) (env : TcpEnv) (event : PersistEvent)
    (hretries : s.tcp.retries + probes s event ≤ tcpMaxRetries) : Waits s (persistStep env s event) (probes s event) := by
  cases event with
  | tick now => exact h.tick env now hretries
  | answer payload now => exact h.answer env payload now
  | send data now => exact h.send env data now
  | recv length => exact h.recv length
  | close now => exact h.close env now

theorem run (h : Persisting s) (events : List (TcpEnv × PersistEvent))
    (hretries : s.tcp.retries + probeCount s events ≤ tcpMaxRetries) :
    Waits s (persistRun s events) (probeCount s events) := by
  induction events generalizing s with
  | nil => exact .refl h
  | cons event events ih =>
    obtain ⟨env, event⟩ := event
    unfold probeCount at hretries
    have hstep := h.step env event (by omega)
    have hle := hstep.retries
    exact hstep.trans (ih hstep.persisting (by omega))

theorem opens (h : Persisting s) (hcurrent : WindowCurrent s.tcp) (hwindow : window ≠ 0)
    {route : RouteResult} (hroute : env.routeQuery s.remoteAddr.ip s.localAddr.ip = (.none, route)) (hmtu : 40 < route.mtu) :
    ∃ s', tcpInputConnection env s s.localAddr s.remoteAddr (windowAnswer s.tcp window) now =
        ⟨s', [.count .duplicateAcks, tcpEmitFlight s'], .none⟩ ∧
      s'.tcp.flightLen = min s.tcp.txLen (min window (min s.tcp.mss (route.mtu - 40))) ∧
      s'.tcp.flightFlags = ackFlag ||| pshFlag ∧ s'.tcp.tx = s.tcp.tx ∧ s'.tcp.retries = 0 := by
  let opened : SocketEntry :=
    { s with tcp := { s.tcp with peerWindow := window, sndWl1 := s.tcp.rcvNxt, sndWl2 := s.tcp.sndNxt } }
  have hkick : tcpKick env opened now = _ :=
    tcpKick_data (s := opened) h.flightFlags h.streaming hwindow h.txLen hroute hmtu _ rfl
  have hopened : opened = { s with
      tcp := receivePayload (updateWindow s.tcp (windowAnswer s.tcp window)) (windowAnswer s.tcp window) } := by
    rw [updateWindow_answer hcurrent]
    unfold receivePayload
    simp [windowAnswer, opened]
  have hanswer : tcpInputConnection env s s.localAddr s.remoteAddr (windowAnswer s.tcp window) now =
      tcpInputAccepted env s (windowAnswer s.tcp window) now := tcpInputConnection_answer h s.localAddr s.remoteAddr []
  have haccepted : tcpInputAccepted env s (windowAnswer s.tcp window) now =
      ⟨(tcpKick env opened now).1, .count .duplicateAcks :: (tcpKick env opened now).2, .none⟩ :=
    tcpInputAccepted_answer h rfl rfl opened hopened
  rw [hanswer, haccepted, hkick]
  exact ⟨_, rfl, rfl, rfl, rfl, rfl⟩

end Persisting

section Expiry

structure Keeps (c c' : TcpConnection) : Prop where
  streaming : Streaming c.state
  expires : c'.expires = c.expires
  txLen : c.txLen = 0 → c'.txLen = 0

theorem Keeps.trans {c c' c'' : TcpConnection} (h : Keeps c c') (h' : Keeps c' c'') : Keeps c c'' :=
  ⟨h.streaming, h'.expires.trans h.expires, fun ht => h'.txLen (h.txLen ht)⟩

theorem tcpFail_not_streaming (s : SocketEntry) (e : Option Errno) : ¬ Streaming (tcpFail s e).1.tcp.state := by
  rw [tcpFail_entry]
  split
  · exact (by decide : ¬ Streaming .closed)
  · exact (by decide : ¬ Streaming .closed)

theorem tcpKick_keeps (h : Streaming (tcpKick env s now).1.tcp.state) : Keeps s.tcp (tcpKick env s now).1.tcp := by
  generalize hres : tcpKick env s now = r at h ⊢
  cases hres ▸ tcpKick_cases env s now with
  | blocked | waiting | empty => exact ⟨h, rfl, id⟩
  | probe _ hs => exact ⟨hs, rfl, id⟩
  | failed => exact absurd h (tcpFail_not_streaming _ _)
  | data _ hs _ _ _ _ s' he =>
    rw [he]
    exact ⟨hs, rfl, id⟩
  | fin _ _ _ _ s' he =>
    rw [he] at h
    have hstate : Streaming (finState s.tcp.state) := h
    unfold finState at hstate
    split at hstate
    · exact absurd hstate (by decide)
    · exact absurd hstate (by decide)

theorem receiveSegment_keeps {c : TcpConnection} {seg : Segment} (h : Streaming (receiveSegment env c seg now).state) :
    Keeps c (receiveSegment env c seg now) := by
  have hpayload : Streaming c.state → Keeps c (receivePayload c seg) := by
    intro hs
    unfold receivePayload
    split
    · exact ⟨hs, rfl, id⟩
    · exact ⟨hs, rfl, id⟩
  have hstate := receivePayload_state c seg
  unfold receiveSegment at h ⊢
  split at h
  · rw [if_pos ‹_›]
    exact hpayload (hstate ▸ h)
  · rw [if_neg ‹_›]
    unfold receiveFin at h ⊢
    split at h
    · rw [if_pos ‹_›]
      dsimp only at h ⊢
      split at h
      · rename_i hestablished
        rw [if_pos hestablished]
        have hs : Streaming c.state := .inl (hstate ▸ hestablished)
        exact (hpayload hs).trans ⟨.inl hestablished, rfl, id⟩
      · rw [if_neg ‹_›]
        split at h
        · exact absurd h (by decide : ¬ Streaming .timeWait)
        · rw [if_neg ‹_›]
          exact (hpayload (hstate ▸ h)).trans ⟨h, rfl, id⟩
    · rw [if_neg ‹_›]
      exact hpayload (hstate ▸ h)

theorem updateWindow_keeps {c : TcpConnection} (h : Streaming c.state) (seg : Segment) : Keeps c (updateWindow c seg) := by
  unfold updateWindow
  split
  · exact ⟨h, rfl, id⟩
  · exact ⟨h, rfl, id⟩

theorem Bookkeeping.flightLen_zero {c : TcpConnection} (hb : Bookkeeping c) (ht : c.txLen = 0) : c.flightLen = 0 := by
  cases hb.flight with
  | idle _ _ hl => exact hl
  | data _ _ _ hle => omega
  | syn _ _ hl => exact hl
  | fin _ _ hl => exact hl

theorem ackAdvance_keeps {c : TcpConnection} (hflight : c.txLen = 0 → c.flightLen = 0) (hs : Streaming c.state) (ack : Word)
    (now : ℕ) : Keeps c (ackAdvance c ack now) := by
  refine ⟨hs, rfl, fun ht => ?_⟩
  rw [ackAdvance_txLen (hflight ht)]
  exact ht

theorem acknowledge_keeps (hflight : s.tcp.txLen = 0 → s.tcp.flightLen = 0) {ack : Word}
    (h : Streaming (acknowledge env s ack now).1.tcp.state) : Keeps s.tcp (acknowledge env s ack now).1.tcp := by
  generalize hres : acknowledge env s ack now = r at h ⊢
  cases hres ▸ acknowledge_cases env s ack now with
  | duplicate => exact ⟨h, rfl, id⟩
  | advanced => exact ackAdvance_keeps hflight h ack now
  | completed =>
    obtain ⟨hs, hexpires, htx⟩ := ackAdvance_keeps hflight h ack now
    exact ⟨hs, hexpires, htx⟩
  | lastAck => exact absurd h (tcpFail_not_streaming _ _)
  | timeWait => exact absurd h (by decide : ¬ Streaming .timeWait)
  | finWait2 => exact absurd h (by decide : ¬ Streaming .finWait2)

theorem tcpInputAccepted_keeps (hflight : s.tcp.txLen = 0 → s.tcp.flightLen = 0) {seg : Segment}
    (h : Streaming (tcpInputAccepted env s seg now).entry.tcp.state) :
    Keeps s.tcp (tcpInputAccepted env s seg now).entry.tcp := by
  rcases tcpInputAccepted_entry env s seg now _ rfl with ⟨-, he⟩ | ⟨-, -, he⟩
  · rw [he] at h ⊢
    exact acknowledge_keeps hflight h
  · rw [he] at h ⊢
    have hkick := tcpKick_keeps h
    have hreceive := receiveSegment_keeps hkick.streaming
    have hstate : Streaming (acknowledge env s seg.ack now).1.tcp.state := updateWindow_state _ _ ▸ hreceive.streaming
    exact (acknowledge_keeps hflight hstate).trans ((updateWindow_keeps hstate seg).trans (hreceive.trans hkick))

def Unexpiring (s : SocketEntry) : Prop :=
  s.allocated = true → s.type = .stream → Streaming s.tcp.state → s.tcp.txLen ≠ 0 → s.tcp.expires = 0

theorem Keeps.unexpiring {c c' : TcpConnection} (h : Keeps c c') (hc : c.txLen ≠ 0 → c.expires = 0) (ht : c'.txLen ≠ 0) :
    c'.expires = 0 := by
  rw [h.expires]
  exact hc fun hzero => ht (h.txLen hzero)

theorem Unexpiring.input {seg : Segment} (hb : Bookkeeping s.tcp) (hw : Owned s.isOpen s.tcp)
    (h : s.tcp.txLen ≠ 0 → s.tcp.expires = 0 ∨ ¬ Streaming s.tcp.state) (localAddr remoteAddr : SockAddr) :
    Unexpiring (tcpInputConnection env s localAddr remoteAddr seg now).entry := by
  intro _ _ hs ht
  have hok := hw.stateOk
  generalize hres : tcpInputConnection env s localAddr remoteAddr seg now = r at hs ht ⊢
  cases hres ▸ tcpInputConnection_cases env s localAddr remoteAddr seg now with
  | keep => exact (h ht).resolve_right (not_not.mpr hs)
  | failed => exact absurd hs (tcpFail_not_streaming _ _)
  | established hsyn _ _ s' he =>
    rw [hsyn] at hok
    rw [he] at ht
    exact absurd hok.2 ht
  | timeWait => exact absurd hs (by decide : ¬ Streaming .timeWait)
  | accepted =>
    have hkeeps := tcpInputAccepted_keeps hb.flightLen_zero hs
    exact hkeeps.unexpiring (fun hne => (h hne).resolve_right (not_not.mpr hkeeps.streaming)) ht
  | opened hsyn _ _ _ s₀ h₀ =>
    rw [hsyn] at hok
    have hzero : s₀.tcp.txLen = 0 := by
      rw [h₀]
      exact hok.2
    have hflight : s₀.tcp.txLen = 0 → s₀.tcp.flightLen = 0 := by
      rw [h₀]
      exact hb.flightLen_zero
    exact absurd ((tcpInputAccepted_keeps hflight hs).txLen hzero) ht

theorem Unexpiring.step {hz : ℕ} {s' : SocketEntry} (hb : Bookkeeping s.tcp) (hw : OwnedEntry s) (hlive : Live hz s)
    (h : Unexpiring s) (hs : EntryStep env now s s') : Unexpiring s' := by
  cases hs with
  | frame ht ho ha hk =>
    unfold Unexpiring
    rw [ht, ha, hk]
    exact h
  | clear => exact fun ha => absurd ha (by decide)
  | allocate => exact fun _ _ hs => absurd hs (by decide : ¬ Streaming .closed)
  | connect => exact fun _ _ hs => absurd hs (by decide : ¬ Streaming .synSent)
  | listen _ _ _ backlog =>
    unfold tcpListen
    split
    · exact h
    split
    · exact h
    · exact fun _ _ hs => absurd hs (by decide : ¬ Streaming .listen)
  | accept => exact fun _ _ _ _ => rfl
  | send ha hk ho data =>
    have hheld := (hlive ha hk).1.held ho
    intro _ _ hs ht
    generalize hres : tcpSend env s data now = r at hs ht ⊢
    cases hres ▸ tcpSend_cases env s data now with
    | unchanged => exact hheld
    | queued _ _ n hn s₁ h₁ =>
      rw [(tcpKick_keeps hs).expires, h₁]
      exact hheld
  | recv ha hk ho length =>
    have hheld := (hlive ha hk).1.held ho
    intro _ _ _ _
    generalize hres : tcpRecv s length = r
    cases hres ▸ tcpRecv_cases s length with
    | refused | nothing => exact hheld
    | data _ _ _ _ s' he =>
      rw [he]
      exact hheld
  | close ha hk ho hl =>
    have hheld := (hlive ha hk).1.held ho
    unfold closeEntry
    dsimp only
    split
    · exact fun _ _ hs => absurd hs (tcpFail_not_streaming _ _)
    · intro _ _ hs _
      rw [(tcpKick_keeps hs).expires]
      exact hheld
  | fail => exact fun _ _ hs => absurd hs (tcpFail_not_streaming _ _)
  | input hk ha hc hl localAddr remoteAddr seg hm =>
    refine Unexpiring.input hb (hw ha hk) (fun ht => ?_) localAddr remoteAddr
    by_cases hs : Streaming s.tcp.state
    · exact .inl (h ha hk hs ht)
    · exact .inr hs
  | child => exact fun _ _ hs => absurd hs (by decide : ¬ Streaming .synReceived)
  | tick ha hk =>
    intro _ _ hs ht
    generalize hres : tcpTickEntry env s now = r at hs ht ⊢
    cases hres ▸ tcpTickEntry_cases env s now with
    | failed => exact absurd hs (tcpFail_not_streaming _ _)
    | waiting | resent | probed | cleared => exact h ha hk hs ht

theorem Reachable.persisting {hz : ℕ} {t : SocketTable} (ht : Reachable (fun env _ event => ClockOk hz env event.time) t)
    (hs : s ∈ t.entries) (ha : s.allocated = true) (hk : s.type = .stream) (hstreaming : Streaming s.tcp.state)
    (hdata : s.tcp.txLen ≠ 0) (hflight : s.tcp.flightFlags = 0) : Persisting s := by
  have hall : ∀ s ∈ t.entries, ((Bookkeeping s.tcp ∧ OwnedEntry s) ∧ Live hz s) ∧ Unexpiring s :=
    ht.forall_entries ⟨⟨⟨.empty, fun ha => absurd ha (by decide)⟩, fun ha => absurd ha (by decide)⟩,
      fun ha => absurd ha (by decide)⟩ fun _ _ _ _ _ hclk hstep h =>
        ⟨⟨⟨h.1.1.1.step hstep, Owned.step h.1.1.1 h.1.1.2 hstep⟩, h.1.2.step hclk h.1.1.1 h.1.1.2 hstep⟩,
          h.2.step h.1.1.1 h.1.1.2 h.1.2 hstep⟩
  obtain ⟨⟨⟨hb, -⟩, hlive⟩, hexpires⟩ := hall s hs
  have hwindow := (hlive ha hk).2 hstreaming hflight (.inl hdata)
  have huna : s.tcp.sndUna = s.tcp.sndNxt := by
    cases hb.flight with
    | idle _ _ _ hn => exact hn.symm
    | data _ hf =>
      rw [hf] at hflight
      exact absurd hflight (by decide)
    | syn hsyn => exact absurd hstreaming fun h => by rcases h with h | h <;> rw [h] at hsyn <;> revert hsyn <;> decide
    | fin hfin => exact absurd hstreaming fun h => by rcases h with h | h <;> rw [h] at hfin <;> revert hfin <;> decide
  exact ⟨ha, hstreaming, hflight, hdata, hb.txLen_le, hwindow.1, huna, hexpires ha hk hstreaming hdata⟩

end Expiry

/-- As long as the probes since the counter was reset stay within its limit, a connection that waits for the window of its
peer is kept by ticks, answers and socket calls, and an answer that opens the window sends the data. -/
theorem closed_window_persists {hz : ℕ} {t : SocketTable} (ht : Reachable (fun env _ event => ClockOk hz env event.time) t)
    (hs : s ∈ t.entries) (ha : s.allocated = true) (hk : s.type = .stream) (hstreaming : Streaming s.tcp.state)
    (hdata : s.tcp.txLen ≠ 0) (hflight : s.tcp.flightFlags = 0) (events : List (TcpEnv × PersistEvent))
    (hretries : s.tcp.retries + probeCount s events ≤ tcpMaxRetries) :
    Streaming (persistRun s events).tcp.state ∧ (persistRun s events).tcp.txLen ≠ 0 ∧
      (WindowCurrent s.tcp → ∀ env now window route, window ≠ 0 →
        env.routeQuery (persistRun s events).remoteAddr.ip (persistRun s events).localAddr.ip = (.none, route) → 40 < route.mtu →
        ∃ s', tcpInputConnection env (persistRun s events) (persistRun s events).localAddr (persistRun s events).remoteAddr
              (windowAnswer (persistRun s events).tcp window) now = ⟨s', [.count .duplicateAcks, tcpEmitFlight s'], .none⟩ ∧
          s'.tcp.flightLen = min (persistRun s events).tcp.txLen (min window (min (persistRun s events).tcp.mss (route.mtu - 40))) ∧
          s'.tcp.flightFlags = ackFlag ||| pshFlag ∧ s'.tcp.tx = (persistRun s events).tcp.tx ∧ s'.tcp.retries = 0) := by
  have hwaits := (ht.persisting hs ha hk hstreaming hdata hflight).run events hretries
  refine ⟨hwaits.persisting.streaming, hwaits.persisting.txLen, fun hcurrent env now window route hwindow hroute hmtu => ?_⟩
  exact hwaits.persisting.opens (hwaits.current hcurrent) hwindow hroute hmtu

def waitingRun : List SocketEvent :=
  [.socket 2 1 0, .connect 1 (some ⟨0x0200000a, 80⟩) 7 100,
    .segment 0x0200000a 0x0100000a ⟨80, 49152, 50, 8, synFlag ||| ackFlag, 0, []⟩ [] 0 101,
    .send 1 [1, 2, 3] 102]

def waitingEntry : SocketEntry := (socketRun steadyEnv (socketSubsystemInit 2) waitingRun).entries.getD 0 {}

theorem waitingRun_reachable :
    Reachable (fun env _ event => ClockOk 1000 env event.time) (socketRun steadyEnv (socketSubsystemInit 2) waitingRun) := by
  have hrun : AdmissibleRun (fun env _ event => ClockOk 1000 env event.time) steadyEnv (socketSubsystemInit 2) waitingRun := by
    simp [waitingRun, AdmissibleRun, ClockOk, SocketEvent.time, steadyEnv]
  exact (Reachable.init 2 (by decide)).run steadyEnv waitingRun hrun

theorem closed_window_persists_once :
    probeCount waitingEntry [(steadyEnv, .tick 1102), (steadyEnv, .answer [] 1103)] = 1 ∧
      Streaming (persistRun waitingEntry [(steadyEnv, .tick 1102), (steadyEnv, .answer [] 1103)]).tcp.state := by
  refine ⟨by decide, ?_⟩
  exact (closed_window_persists waitingRun_reachable (s := waitingEntry) (by decide) (by decide) (by decide) (by decide)
    (by decide) (by decide) [(steadyEnv, .tick 1102), (steadyEnv, .answer [] 1103)] (by decide)).1

def probedRun : List (TcpEnv × PersistEvent) :=
  [(steadyEnv, .tick 1102), (steadyEnv, .answer [] 1103), (steadyEnv, .tick 3102), (steadyEnv, .answer [] 3103),
    (steadyEnv, .tick 7102), (steadyEnv, .answer [] 7103), (steadyEnv, .tick 15102), (steadyEnv, .answer [] 15103),
    (steadyEnv, .tick 31102), (steadyEnv, .answer [] 31103), (steadyEnv, .tick 63102)]

/-- The peer has answered each probe before the next deadline, and the connection times out. -/
theorem answered_probes_time_out :
    Reachable (fun env _ event => ClockOk 1000 env event.time) (socketRun steadyEnv (socketSubsystemInit 2) waitingRun) ∧
      waitingEntry ∈ (socketRun steadyEnv (socketSubsystemInit 2) waitingRun).entries ∧
      waitingEntry.tcp.state = .established ∧ waitingEntry.tcp.txLen = 3 ∧ waitingEntry.tcp.flightFlags = 0 ∧
      (persistRun waitingEntry (probedRun.take 10)).tcp.deadline = 63102 ∧
      (persistRun waitingEntry (probedRun.take 10)).tcp.state = .established ∧
      (persistRun waitingEntry probedRun).error = some .etimedout ∧ (persistRun waitingEntry probedRun).tcp.state = .closed :=
  ⟨waitingRun_reachable, by decide, by decide, by decide, by decide, by decide, by decide, by decide, by decide⟩

end PulsarNetstack
