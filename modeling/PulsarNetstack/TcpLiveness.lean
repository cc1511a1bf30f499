import PulsarNetstack.TcpOwnership

namespace PulsarNetstack

variable {hz : ℕ} {env : TcpEnv} {s s' : SocketEntry} {isOpen : Bool} {c : TcpConnection} {seg : Segment} {now : ℕ}

def ClockOk (hz : ℕ) (env : TcpEnv) (now : ℕ) : Prop :=
  env.hz = hz ∧ 1 ≤ hz ∧ now + 120 * hz < 18446744073709551616

theorem ClockOk.add64_ne_zero (h : ClockOk hz env now) {n : ℕ} (h1 : 1 ≤ n) (h2 : n ≤ 120 * hz) : add64 now n ≠ 0 := by
  obtain ⟨-, -, hw⟩ := h
  rw [add64_eq (by omega)]
  omega

theorem ClockOk.expires_ne_zero (h : ClockOk hz env now) {seconds : ℕ} (h1 : 1 ≤ seconds) (h2 : seconds ≤ 120) :
    add64 now (seconds * env.hz) ≠ 0 := by
  rw [h.1]
  exact h.add64_ne_zero (Nat.mul_pos h1 h.2.1) (Nat.mul_le_mul_right hz h2)

theorem ClockOk.deadline_ne_zero (h : ClockOk hz env now) : add64 now env.hz ≠ 0 := by
  rw [h.1]
  exact h.add64_ne_zero h.2.1 (by omega)

theorem ClockOk.rto (h : ClockOk hz env now) : 1 ≤ env.hz ∧ env.hz ≤ 60 * hz := by
  rw [h.1]
  exact ⟨h.2.1, by omega⟩

structure Timely (hz : ℕ) (isOpen : Bool) (c : TcpConnection) : Prop where
  held : isOpen = true → c.expires = 0
  flight : c.flightFlags ≠ 0 → c.deadline ≠ 0
  timeout : c.deadline ≠ 0 → 1 ≤ c.rto ∧ c.rto ≤ 60 * hz
  reclaim : isOpen = false → AwaitingControl c.state ∨ Streaming c.state ∧ c.closing = true ∨ c.expires ≠ 0

def Armed (c : TcpConnection) : Prop :=
  Streaming c.state → c.flightFlags = 0 → c.txLen ≠ 0 ∨ c.closing = true → c.peerWindow = 0 ∧ c.deadline ≠ 0

def Live (hz : ℕ) (s : SocketEntry) : Prop :=
  s.allocated = true → s.type = .stream → Timely hz s.isOpen s.tcp ∧ Armed s.tcp

theorem Armed.of_not_streaming (h : ¬ Streaming c.state) : Armed c := fun hs => absurd hs h

namespace Timely

theorem empty : Timely hz true {} :=
  ⟨fun _ => rfl, fun h => absurd rfl h, fun h => absurd rfl h, fun h => absurd h (by decide)⟩

theorem idle {c : TcpConnection} (hf : c.flightFlags = 0) (hd : c.deadline = 0) (hheld : isOpen = true → c.expires = 0)
    (hreclaim : isOpen = false → AwaitingControl c.state ∨ Streaming c.state ∧ c.closing = true ∨ c.expires ≠ 0) :
    Timely hz isOpen c :=
  ⟨hheld, fun h => absurd hf h, fun h => absurd hd h, hreclaim⟩

theorem acknowledge (hclk : ClockOk hz env now) (hb : Bookkeeping s.tcp) (hw : Owned s.isOpen s.tcp)
    (h : Timely hz s.isOpen s.tcp) {ack : Word} (ha : before s.tcp.sndNxt ack = false) {r : SocketEntry}
    (he : (acknowledge env s ack now).1 = r) (hcl : r.tcp.state ≠ .closed) : Timely hz r.isOpen r.tcp := by
  subst he
  generalize hres : PulsarNetstack.acknowledge env s ack now = r at hcl ⊢
  have hopen (hf : flag s.tcp.flightFlags finFlag = true) : s.isOpen = false := by
    apply hw.not_open
    have hok := hw.stateOk
    rcases (hb.fin_flight hf).1 with hs | hs <;> rw [hs] at hok
    exacts [hok.1, hok.2.1]
  cases hres ▸ acknowledge_cases env s ack now with
  | duplicate => exact h
  | advanced hu hn =>
    have hl : s.tcp.flightLen ≠ 0 := fun hl => hn (hb.ack_control hl hu ha)
    have hrto := h.timeout (h.flight (hb.data_flight hl).2)
    exact { h with flight := fun _ => hclk.add64_ne_zero hrto.1 (by omega), timeout := fun _ => hrto }
  | completed hu hn hf => exact idle rfl rfl h.held h.reclaim
  | lastAck => exact absurd (by rw [tcpFail_tcp]) hcl
  | timeWait _ _ hf =>
    exact idle rfl rfl (fun ho => absurd ho (by simp [hopen hf]))
      (fun _ => .inr (.inr (hclk.expires_ne_zero (show 1 ≤ tcpTimeWaitSeconds by decide) (by decide))))
  | finWait2 _ _ hf =>
    exact idle rfl rfl (fun ho => absurd ho (by simp [hopen hf]))
      (fun _ => .inr (.inr (hclk.expires_ne_zero (show 1 ≤ tcpFinWaitSeconds by decide) (by decide))))

theorem updateWindow (h : Timely hz isOpen c) : Timely hz isOpen (updateWindow c seg) := by
  unfold PulsarNetstack.updateWindow
  split
  · exact { h with }
  · exact h

theorem receivePayload (h : Timely hz isOpen c) : Timely hz isOpen (receivePayload c seg) := by
  unfold PulsarNetstack.receivePayload
  split
  · exact { h with }
  · exact h

theorem receiveFin (hclk : ClockOk hz env now) (hw : Owned isOpen c) (h : Timely hz isOpen c) :
    Timely hz isOpen (receiveFin env c seg now) := by
  unfold PulsarNetstack.receiveFin
  split
  · dsimp only
    split
    · rename_i hs
      refine { h with reclaim := fun ho => ?_ }
      rcases h.reclaim ho with hw | ⟨-, hc⟩ | he
      · rw [hs] at hw; exact absurd hw (by decide)
      · exact .inr (.inl ⟨.inr rfl, hc⟩)
      · exact .inr (.inr he)
    split
    · rename_i hs
      have hok := hw.stateOk
      rw [hs] at hok
      exact idle rfl rfl (fun ho => absurd ho (by simp [hw.not_open hok.2.1]))
        (fun _ => .inr (.inr (hclk.expires_ne_zero (show 1 ≤ tcpTimeWaitSeconds by decide) (by decide))))
    · exact { h with }
  · exact h

theorem receiveSegment (hclk : ClockOk hz env now) (hw : Owned isOpen c) (h : Timely hz isOpen c) :
    Timely hz isOpen (receiveSegment env c seg now) := by
  unfold PulsarNetstack.receiveSegment
  split
  · exact h.receivePayload
  · exact receiveFin hclk hw.receivePayload h.receivePayload

end Timely

namespace Live

theorem fail (s : SocketEntry) (e : Option Errno) : Live hz (tcpFail s e).1 := by
  rw [tcpFail_entry]
  split
  · rename_i ho
    intro _ _
    exact ⟨by rw [ho]; exact .empty, .of_not_streaming (by decide : ¬ Streaming .closed)⟩
  · intro ha
    exact absurd ha (by decide)

theorem kick (hclk : ClockOk hz env now) (hw : Owned s.isOpen s.tcp) (h : Timely hz s.isOpen s.tcp) :
    Live hz (tcpKick env s now).1 := by
  have hd := hclk.deadline_ne_zero
  have hrto := hclk.rto
  generalize hr : tcpKick env s now = r
  cases hr ▸ tcpKick_cases env s now with
  | blocked hb =>
    refine fun _ _ => ⟨h, fun hs hf _ => ?_⟩
    exact absurd (hb.resolve_left (not_not.mpr hf)) (not_not.mpr hs)
  | waiting hf hw hd => exact fun _ _ => ⟨h, fun _ _ _ => ⟨hw, hd⟩⟩
  | empty hf ht hc =>
    refine fun _ _ => ⟨h, fun _ _ hne => ?_⟩
    simp [ht, hc] at hne
  | probe hf hs hw =>
    exact fun _ _ => ⟨{ h with flight := fun _ => hd, timeout := fun _ => hrto }, fun _ _ _ => ⟨hw, hd⟩⟩
  | failed => exact .fail _ _
  | data hf hs hw ht mtu hm s' he =>
    subst he
    refine fun _ _ => ⟨{ h with flight := fun _ => hd, timeout := fun _ => hrto }, fun _ hf' => ?_⟩
    exact absurd hf' (by decide : ackFlag ||| pshFlag ≠ 0)
  | fin hf hs ht hc s' he =>
    subst he
    obtain ⟨-, -, hst⟩ := hw.finState hs ht hc
    refine fun _ _ => ⟨{ h with flight := fun _ => hd, timeout := fun _ => hrto, reclaim := fun _ => .inl hst }, ?_⟩
    exact .of_not_streaming fun hs => hs.not_awaitingControl hst

theorem inputAccepted (hclk : ClockOk hz env now) (hno : ¬ Opening s.tcp.state)
    (h : ∀ r, (acknowledge env s seg.ack now).1 = r → r.tcp.state ≠ .closed →
      Owned r.isOpen r.tcp ∧ Timely hz r.isOpen r.tcp) : Live hz (tcpInputAccepted env s seg now).entry := by
  rcases tcpInputAccepted_entry env s seg now _ rfl with ⟨hd, he⟩ | ⟨ha, hc, he⟩
  · rw [he]
    rcases acknowledge_dead hno rfl hd with hn | ⟨s₀, e, hf⟩
    · exact fun ha => absurd ha (by simp [hn])
    · rw [hf]
      exact fail s₀ e
  · rw [he]
    obtain ⟨hw, ht⟩ := h _ rfl hc
    refine kick hclk (hw.updateWindow.receiveSegment ?_) (ht.updateWindow.receiveSegment hclk hw.updateWindow)
    rw [updateWindow_state]
    exact acknowledge_not_opening hno rfl hc

section

variable (hclk : ClockOk hz env now) (hb : Bookkeeping s.tcp) (hw : Owned s.isOpen s.tcp)
  (ht : Timely hz s.isOpen s.tcp) (har : Armed s.tcp)

include hclk hb hw ht har in
theorem input (hc : s.tcp.state ≠ .closed) (hl : s.tcp.state ≠ .listen) (localAddr remoteAddr : SockAddr) :
    Live hz (tcpInputConnection env s localAddr remoteAddr seg now).entry := by
  generalize hres : tcpInputConnection env s localAddr remoteAddr seg now = r
  cases hres ▸ tcpInputConnection_cases env s localAddr remoteAddr seg now with
  | keep => exact fun _ _ => ⟨ht, har⟩
  | failed => exact .fail _ _
  | established hs ha hf s' he =>
    subst he
    have hok := hw.stateOk
    have hho := hw.holder
    rw [hs] at hok hho
    refine fun _ _ => ⟨.idle rfl rfl ht.held fun ho => ?_, fun _ _ hne => ?_⟩
    · exact absurd ho (by simp [show s.isOpen = true from hho])
    · rcases hne with hne | hne
      · exact absurd hok.2 hne
      · exact absurd hne (by simp [(hw.held hho).1])
  | timeWait hs =>
    have hok := hw.stateOk
    rw [hs] at hok
    exact fun _ _ => ⟨.idle rfl rfl (fun ho => absurd ho (by simp [hw.not_open hok.2.1]))
      (fun _ => .inr (.inr (hclk.expires_ne_zero (show 1 ≤ tcpTimeWaitSeconds by decide) (by decide)))),
      .of_not_streaming (by decide : ¬ Streaming .timeWait)⟩
  | accepted hs hr _ _ hack =>
    have hno : ¬ Opening s.tcp.state := by
      rintro (h | h | h | h)
      exacts [hc h, hl h, hs h, hr h]
    exact inputAccepted hclk hno fun r he hc =>
      ⟨hw.acknowledge hb hs hr hack he hc, ht.acknowledge hclk hb hw hack he hc⟩
  | opened hs _ hack _ s₀ h₀ =>
    subst h₀
    refine inputAccepted hclk (by decide : ¬ Opening .established) fun r he _ => ?_
    rw [hack, hb.acknowledge_opened hs] at he
    subst he
    have hho := hw.holder
    rw [hs] at hho
    refine ⟨hw.opened hs _ _ _, .idle rfl rfl (fun ho => ?_) (fun _ => ?_)⟩
    · exact absurd ho (by simp [show s.isOpen = false from hho])
    · exact .inr (.inr (hclk.expires_ne_zero (show 1 ≤ 60 by decide) (by decide)))

include hclk in
theorem backoff_bounds (hr : 1 ≤ s.tcp.rto ∧ s.tcp.rto ≤ 60 * hz) :
    1 ≤ backoff env s.tcp ∧ backoff env s.tcp ≤ 60 * hz := by
  obtain ⟨hz', h1, h2⟩ := hclk
  unfold backoff
  rw [hz', Nat.mod_eq_of_lt (by omega)]
  omega

include hclk ht har in
theorem tick : Live hz (tcpTickEntry env s now).1 := by
  have hrearm (hd : s.tcp.deadline ≠ 0) : add64 now (backoff env s.tcp) ≠ 0 ∧
      (1 ≤ backoff env s.tcp ∧ backoff env s.tcp ≤ 60 * hz) := by
    have hb := backoff_bounds hclk (ht.timeout hd)
    exact ⟨hclk.add64_ne_zero hb.1 (by omega), hb⟩
  generalize hr : tcpTickEntry env s now = r
  cases hr ▸ tcpTickEntry_cases env s now with
  | waiting => exact fun _ _ => ⟨ht, har⟩
  | failed => exact .fail _ _
  | resent hd hf =>
    obtain ⟨hdl, hb⟩ := hrearm hd
    refine fun _ _ => ⟨{ ht with flight := fun _ => hdl, timeout := fun _ => hb }, fun _ hf' => ?_⟩
    exact absurd hf' hf
  | probed hd hf hw =>
    obtain ⟨hdl, hb⟩ := hrearm hd
    exact fun _ _ => ⟨{ ht with flight := fun _ => hdl, timeout := fun _ => hb }, fun _ _ _ => ⟨hw, hdl⟩⟩
  | cleared hf hn =>
    refine fun _ _ => ⟨.idle hf rfl ht.held ht.reclaim, fun hs hf' hne => ?_⟩
    exact absurd ⟨hne, (har hs hf' hne).1⟩ hn

include hclk hw ht har in
theorem send (data : List Byte) : Live hz (tcpSend env s data now).1 := by
  generalize hr : tcpSend env s data now = r
  cases hr ▸ tcpSend_cases env s data now with
  | unchanged => exact fun _ _ => ⟨ht, har⟩
  | queued hs he n hn s₁ h₁ =>
    subst h₁
    exact kick hclk { hw with stateOk := hs.stateOk_txLen hw.stateOk _ _ } { ht with }

include ht har in
theorem recv (length : ℕ) : Live hz (tcpRecv s length).1 := by
  generalize hr : tcpRecv s length = r
  cases hr ▸ tcpRecv_cases s length with
  | refused | nothing => exact fun _ _ => ⟨ht, har⟩
  | data hl hr n hn s' he =>
    subst he
    exact fun _ _ => ⟨{ ht with }, har⟩

include hclk hw ht in
theorem close (ho : s.isOpen = true) (hl : s.tcp.state ≠ .listen) : Live hz (closeEntry env s now).1 := by
  unfold closeEntry
  dsimp only
  split
  · exact .fail _ _
  · rename_i hn
    obtain ⟨hc, hn, hr⟩ := by simpa only [not_or] using hn
    have hst := hw.streaming_of_open ho hl hc hn hr
    have hcl : Timely hz false { s.tcp with closing := true } :=
      ⟨fun ho => absurd ho (by decide), ht.flight, ht.timeout, fun _ => .inr (.inl ⟨hst, rfl⟩)⟩
    exact kick hclk (hw.closing ho hst) hcl

end

theorem listen (h : Live hz s) (ho : s.isOpen = true) (backlog : ℤ) : Live hz (tcpListen s backlog).1 := by
  unfold tcpListen
  split
  · exact h
  split
  · exact h
  · intro ha hk
    obtain ⟨ht, -⟩ := h ha hk
    refine ⟨{ ht with reclaim := fun hn => ?_ }, .of_not_streaming (by decide : ¬ Streaming .listen)⟩
    exact absurd ho (by simp [show s.isOpen = false from hn])

theorem accept (h : Live hz s) {fd : ℕ} (ha : acceptable fd s = true) : Live hz (acceptEntry s) := by
  simp only [acceptable, Bool.and_eq_true, beq_iff_eq] at ha
  obtain ⟨ht, har⟩ := h ha.1.1.1 ha.1.1.2
  exact fun _ _ => ⟨{ ht with held := fun _ => rfl, reclaim := fun ho => absurd ho (by simp [acceptEntry]) }, har⟩

theorem step (hclk : ClockOk hz env now) (hb : Bookkeeping s.tcp) (hw : OwnedEntry s) (h : Live hz s)
    (hs : EntryStep env now s s') : Live hz s' := by
  cases hs with
  | frame ht ho ha hk => unfold Live; rw [ht, ho, ha, hk]; exact h
  | clear => exact fun ha => absurd ha (by decide)
  | allocate => exact fun _ _ => ⟨.empty, .of_not_streaming (by decide : ¬ Streaming .closed)⟩
  | connect ha hk ho he hs =>
    exact fun _ _ => ⟨⟨(h ha hk).1.held, fun _ => hclk.deadline_ne_zero, fun _ => hclk.rto, fun _ => .inl (.inl rfl)⟩,
      .of_not_streaming (by decide : ¬ Streaming .synSent)⟩
  | listen _ _ ho backlog => exact h.listen ho backlog
  | accept fd hf ha => exact h.accept ha
  | send ha hk ho data => exact send hclk (hw ha hk) (h ha hk).1 (h ha hk).2 data
  | recv ha hk ho length => exact recv (h ha hk).1 (h ha hk).2 length
  | close ha hk ho hs => exact close hclk (hw ha hk) (h ha hk).1 ho hs
  | fail => exact .fail _ _
  | input hk ha hc hl la ra seg hm => exact input hclk hb (hw ha hk) (h ha hk).1 (h ha hk).2 hc hl la ra
  | child ha fd parent la ra seg hm seed =>
    exact fun _ _ => ⟨⟨fun ho => absurd ho (by simp [childEntry]), fun _ => hclk.deadline_ne_zero, fun _ => hclk.rto,
      fun _ => .inl (.inr (.inl rfl))⟩, .of_not_streaming (by decide : ¬ Streaming .synReceived)⟩
  | tick ha hk => exact tick hclk (h ha hk).1 (h ha hk).2

end Live

theorem Reachable.live {t : SocketTable} (ht : Reachable (fun env _ event => ClockOk hz env event.time) t) :
    ∀ s ∈ t.entries, (Bookkeeping s.tcp ∧ OwnedEntry s) ∧ Live hz s :=
  ht.forall_entries ⟨⟨.empty, fun ha => absurd ha (by decide)⟩, fun ha => absurd ha (by decide)⟩
    fun _ _ _ _ _ hclk hs h => ⟨⟨h.1.1.step hs, Owned.step h.1.1 h.1.2 hs⟩, h.2.step hclk h.1.1 h.1.2 hs⟩

theorem Live.deadline (h : Live hz s) (ha : s.allocated = true) (hk : s.type = .stream) (hs : Streaming s.tcp.state)
    (hne : 0 < s.tcp.txLen ∨ s.tcp.closing = true) : s.tcp.deadline ≠ 0 := by
  obtain ⟨htimely, harmed⟩ := h ha hk
  by_cases hf : s.tcp.flightFlags = 0
  · exact (harmed hs hf (hne.imp_left Nat.pos_iff_ne_zero.mp)).2
  · exact htimely.flight hf

theorem Live.timer (hb : Bookkeeping s.tcp) (h : Live hz s) (ha : s.allocated = true) (hk : s.type = .stream)
    (ho : s.isOpen = false) : s.tcp.deadline ≠ 0 ∨ s.tcp.expires ≠ 0 := by
  obtain ⟨htimely, -⟩ := h ha hk
  rcases htimely.reclaim ho with hwait | ⟨hs, hc⟩ | he
  · exact .inl (htimely.flight (hb.flightFlags_ne_zero hwait))
  · exact .inl (h.deadline ha hk hs (.inr hc))
  · exact .inr he

theorem reachable_liveness {t : SocketTable}
    (ht : Reachable (fun env _ event => ClockOk hz env event.time) t) {s : SocketEntry}
    (hs : s ∈ t.entries) (ha : s.allocated = true) (hk : s.type = .stream) :
    (s.isOpen = true → s.tcp.expires = 0 ∧ s.tcp.closing = false ∧ s.tcp.parent = 0) ∧
      (s.tcp.flightFlags ≠ 0 → s.tcp.deadline ≠ 0) ∧
      ((s.tcp.state = .established ∨ s.tcp.state = .closeWait) → (0 < s.tcp.txLen ∨ s.tcp.closing = true) →
        s.tcp.deadline ≠ 0) ∧
      (s.isOpen = false → s.tcp.deadline ≠ 0 ∨ s.tcp.expires ≠ 0) ∧
      ((s.tcp.state = .closeWait ∨ s.tcp.state = .lastAck ∨ s.tcp.state = .timeWait) → s.tcp.peerFin = true) ∧
      ((s.tcp.state = .established ∨ s.tcp.state = .finWait2) → s.tcp.peerFin = false) ∧
      ((s.tcp.state = .finWait1 ∨ s.tcp.state = .finWait2 ∨ s.tcp.state = .lastAck ∨ s.tcp.state = .timeWait) →
        s.tcp.closing = true ∧ s.isOpen = false ∧ s.tcp.txLen = 0) := by
  obtain ⟨⟨hb, hown⟩, hlive⟩ := ht.live s hs
  have hw := hown ha hk
  obtain ⟨h, -⟩ := hlive ha hk
  have hok := hw.stateOk
  refine ⟨fun ho => ⟨h.held ho, hw.held ho⟩, h.flight, hlive.deadline ha hk, hlive.timer hb ha hk, ?_, ?_, ?_⟩
  · rintro (hs | hs | hs) <;> rw [hs] at hok
    exacts [hok, hok.1, hok.1]
  · rintro (hs | hs) <;> rw [hs] at hok
    exacts [hok, hok.1]
  · rintro (hs | hs | hs | hs) <;> rw [hs] at hok
    exacts [⟨hok.1, hw.not_open hok.1, hok.2⟩, ⟨hok.2.1, hw.not_open hok.2.1, hok.2.2⟩,
      ⟨hok.2.1, hw.not_open hok.2.1, hok.2.2⟩, ⟨hok.2.1, hw.not_open hok.2.1, hok.2.2⟩]

def closingEntry : SocketEntry :=
  (socketRun steadyEnv (socketSubsystemInit 2) (sendingRun ++ [.close 1 103])).entries.getD 0 {}

theorem closingEntry_liveness :
    closingEntry.tcp.state = .established ∧ closingEntry.tcp.closing = true ∧ closingEntry.isOpen = false ∧
      closingEntry.tcp.deadline ≠ 0 ∧ closingEntry.tcp.peerFin = false := by
  have hrun : AdmissibleRun (fun env _ event => ClockOk 1000 env event.time) steadyEnv (socketSubsystemInit 2)
      (sendingRun ++ [.close 1 103]) := by
    simp [sendingRun, AdmissibleRun, ClockOk, SocketEvent.time, steadyEnv]
  have ht := (Reachable.init 2 (by decide)).run steadyEnv (sendingRun ++ [.close 1 103]) hrun
  obtain ⟨-, -, hdata, -, -, hfin, -⟩ :=
    reachable_liveness ht (s := closingEntry) (by decide) (by decide) (by decide)
  exact ⟨by decide, by decide, by decide, hdata (by decide) (by decide), hfin (by decide)⟩

end PulsarNetstack
