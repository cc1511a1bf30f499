import PulsarNetstack.RouteDevices

namespace PulsarNetstack

variable {env : TcpEnv} {s s' : SocketEntry} {c : TcpConnection} {now bound : ℕ}

def TcpEffect.Fits (env : TcpEnv) : TcpEffect → Prop
  | .emit localAddr remoteAddr _ _ flags _ data => ∀ route, env.routeQuery remoteAddr.ip localAddr.ip = (.none, route) →
      20 + (20 + if flag flags synFlag then 4 else 0) + data.length ≤ route.mtu
  | .cancelQueued .. | .count _ => True

theorem tcpEmit_too_big (submit : Submit) (rt : Runtime) (localAddr remoteAddr : SockAddr) (seq ack : Word) (flags : Byte)
    (window : ℕ) (data : List Byte) {route : RouteResult}
    (hroute : rt.tcpEnv.routeQuery remoteAddr.ip localAddr.ip = (.none, route))
    (h : ¬ (TcpEffect.emit localAddr remoteAddr seq ack flags window data).Fits rt.tcpEnv) :
    tcpEmit submit localAddr remoteAddr seq ack flags window data rt = tcpOutputFailed rt := by
  have hbig : route.mtu < 20 + (20 + if flag flags synFlag then 4 else 0) + data.length := by
    by_contra hfits
    refine h fun other hother => ?_
    obtain rfl := (Prod.mk.inj (hroute.symm.trans hother)).2
    exact not_lt.mp hfits
  have hquery : ipv4RouteQuery rt.routing remoteAddr.ip localAddr.ip netIifNone {} = (.none, route) := hroute
  unfold tcpEmit
  rw [Program.get_bind_run, hquery]
  exact congrFun (if_pos (.inr hbig)) rt

def Within (bound : ℕ) (c : TcpConnection) : Prop := c.flightLen ≠ 0 → c.flightLen + 40 ≤ bound

def MtuAtMost (bound : ℕ) (env : TcpEnv) : Prop :=
  ∀ dst src route, env.routeQuery dst src = (.none, route) → route.mtu ≤ bound

theorem WellRouted.mtuAtMost {rt : Runtime} (h : WellRouted rt.routing) (hports : ∀ p ∈ rt.routing.ports, p.mtu ≤ bound) :
    MtuAtMost bound rt.tcpEnv := by
  intro dst src route hroute
  obtain ⟨p, hp, hmtu⟩ := h.routeQuery dst src netIifNone {} (congrArg Prod.fst hroute)
  have hfound : (ipv4RouteQuery rt.routing dst src netIifNone {}).2 = route := congrArg Prod.snd hroute
  rw [← hfound, ← hmtu]
  exact hports p (netifById_some hp).1

theorem Within.shrink {c' : TcpConnection} (h : Within bound c) (hle : c'.flightLen ≤ c.flightLen) : Within bound c' := by
  intro hne
  have := h (by omega)
  omega

theorem within_zero (h : c.flightLen = 0) : Within bound c := fun hne => absurd h hne

theorem tcpFail_within (s : SocketEntry) (e : Option Errno) : Within bound (tcpFail s e).1.tcp := by
  apply within_zero
  rw [tcpFail_tcp]

theorem tcpKick_within (h : Within bound s.tcp) (henv : MtuAtMost bound env) : Within bound (tcpKick env s now).1.tcp := by
  unfold tcpKick
  dsimp only
  split
  · exact h
  split
  · split
    · exact h
    · exact h
  split
  · split
    · exact tcpFail_within _ _
    · rename_i hroute
      rw [not_or, not_not, not_le] at hroute
      have hle := henv _ _ (env.routeQuery s.remoteAddr.ip s.localAddr.ip).2 (Prod.ext hroute.1 rfl)
      have hmtu : 40 < (env.routeQuery s.remoteAddr.ip s.localAddr.ip).2.mtu := hroute.2
      intro _
      change flightLength s.tcp (env.routeQuery s.remoteAddr.ip s.localAddr.ip).2.mtu + 40 ≤ bound
      unfold flightLength
      omega
  split
  · exact within_zero rfl
  · exact h

theorem acknowledge_flightLen (hb : Bookkeeping s.tcp) {ack : Word} (ha : before s.tcp.sndNxt ack = false) :
    (acknowledge env s ack now).1.tcp.flightLen ≤ s.tcp.flightLen := by
  have hle := hb.flightLen_le
  have htx := hb.txLen_le
  have hsize : tcpBufferSize = 8192 := rfl
  have hadvance (hu : before s.tcp.sndUna ack = true) : (ackAdvance s.tcp ack now).flightLen ≤ s.tcp.flightLen := by
    unfold ackAdvance
    dsimp only
    split
    · rename_i hl
      obtain ⟨-, hbytes⟩ := hb.ack_bytes hl hu ha
      rw [sub16_eq hbytes (by omega)]
      exact Nat.sub_le _ _
    · exact Nat.le_refl _
  generalize hres : acknowledge env s ack now = r
  cases hres ▸ acknowledge_cases env s ack now with
  | duplicate => exact Nat.le_refl _
  | advanced hu | completed hu | timeWait hu | finWait2 hu => exact hadvance hu
  | lastAck =>
    rw [tcpFail_tcp]
    exact Nat.zero_le _

theorem receiveSegment_flightLen (seg : Segment) : (receiveSegment env c seg now).flightLen = c.flightLen := by
  have hpayload : (receivePayload c seg).flightLen = c.flightLen := by
    unfold receivePayload
    split
    · rfl
    · rfl
  unfold receiveSegment
  split
  · exact hpayload
  · unfold receiveFin
    split
    · dsimp only
      split
      · exact hpayload
      split
      · exact hpayload
      · exact hpayload
    · exact hpayload

theorem updateWindow_flightLen (seg : Segment) : (updateWindow c seg).flightLen = c.flightLen := by
  unfold updateWindow
  split
  · rfl
  · rfl

theorem tcpInputAccepted_within {seg : Segment} (henv : MtuAtMost bound env)
    (h : Within bound (acknowledge env s seg.ack now).1.tcp) : Within bound (tcpInputAccepted env s seg now).entry.tcp := by
  rcases tcpInputAccepted_entry env s seg now _ rfl with ⟨-, he⟩ | ⟨-, -, he⟩
  · rw [he]
    exact h
  · rw [he]
    refine tcpKick_within (h.shrink ?_) henv
    exact (receiveSegment_flightLen seg).trans_le (updateWindow_flightLen seg).le

theorem tcpInputConnection_within {seg : Segment} (hb : Bookkeeping s.tcp) (henv : MtuAtMost bound env)
    (h : Within bound s.tcp) (localAddr remoteAddr : SockAddr) :
    Within bound (tcpInputConnection env s localAddr remoteAddr seg now).entry.tcp := by
  generalize hres : tcpInputConnection env s localAddr remoteAddr seg now = r
  cases hres ▸ tcpInputConnection_cases env s localAddr remoteAddr seg now with
  | keep => exact h
  | failed => exact tcpFail_within _ _
  | established hs ha hf s' he =>
    rw [he]
    exact h
  | timeWait => exact h
  | accepted _ _ _ _ hack => exact tcpInputAccepted_within henv (h.shrink (acknowledge_flightLen hb hack))
  | opened hs hseq hack hroom s₀ h₀ =>
    refine tcpInputAccepted_within henv ?_
    rw [h₀, hack, hb.acknowledge_opened hs]
    have hlen := hb.syn_flightLen (.inr hs)
    refine within_zero ?_
    change (if s.tcp.flightLen ≠ 0 then _ else s.tcp.flightLen) = 0
    rw [if_neg (not_not.mpr hlen)]
    exact hlen

theorem EntryStep.within (hb : Bookkeeping s.tcp) (henv : MtuAtMost bound env) (h : Within bound s.tcp)
    (hs : EntryStep env now s s') : Within bound s'.tcp := by
  cases hs with
  | frame ht =>
    rw [ht]
    exact h
  | clear | allocate | connect | child => exact within_zero rfl
  | listen ha hk ho backlog =>
    unfold tcpListen
    split
    · exact h
    split
    · exact h
    · exact h
  | accept => exact h
  | send ha hk ho data =>
    generalize hres : tcpSend env s data now = r
    cases hres ▸ tcpSend_cases env s data now with
    | unchanged => exact h
    | queued hs he n hn s₁ h₁ =>
      refine tcpKick_within ?_ henv
      rw [h₁]
      exact h
  | recv ha hk ho length =>
    generalize hres : tcpRecv s length = r
    cases hres ▸ tcpRecv_cases s length with
    | refused | nothing => exact h
    | data hl hr n hn s' he =>
      rw [he]
      exact h
  | close ha hk ho hl =>
    unfold closeEntry
    dsimp only
    split
    · exact tcpFail_within _ _
    · exact tcpKick_within (s := { s with isOpen := false, tcp := { s.tcp with closing := true } }) h henv
  | fail => exact tcpFail_within _ _
  | input hk ha hc hl localAddr remoteAddr seg hm => exact tcpInputConnection_within hb henv h localAddr remoteAddr
  | tick =>
    generalize hres : tcpTickEntry env s now = r
    cases hres ▸ tcpTickEntry_cases env s now with
    | failed => exact tcpFail_within _ _
    | waiting | resent | probed | cleared => exact h

theorem Reachable.within {t : SocketTable} (ht : Reachable (fun env _ _ => MtuAtMost bound env) t) (hs : s ∈ t.entries) :
    Bookkeeping s.tcp ∧ Within bound s.tcp :=
  ht.forall_entries (P := fun s => Bookkeeping s.tcp ∧ Within bound s.tcp) ⟨.empty, within_zero rfl⟩
    (fun _ _ _ _ _ henv hstep h => ⟨h.1.step hstep, hstep.within h.1 henv h.2⟩) s hs

theorem fits_of_silent {effects : List TcpEffect} (h : effects.countP TcpEffect.emits = 0) :
    ∀ effect ∈ effects, effect.Fits env := by
  intro effect heffect
  have hsilent := List.countP_eq_zero.mp h effect heffect
  cases effect with
  | emit => exact absurd rfl hsilent
  | cancelQueued | count => trivial

/-- On a route with an MTU of at least that of every route of the host so far, what the timer sends of a flight of data
passes the test of `tcp_emit`. -/
theorem retransmission_fits {t : SocketTable} (ht : Reachable (fun env _ _ => MtuAtMost bound env) t) (hs : s ∈ t.entries)
    (hdata : s.tcp.flightLen ≠ 0) {route : RouteResult}
    (hroute : env.routeQuery s.remoteAddr.ip s.localAddr.ip = (.none, route)) (hmtu : bound ≤ route.mtu) (now : ℕ) :
    ∀ effect ∈ (tcpTickEntry env s now).2, effect.Fits env := by
  obtain ⟨hb, hwithin⟩ := ht.within hs
  have hlen := hwithin hdata
  have hflags : s.tcp.flightFlags = ackFlag ||| pshFlag := by
    cases hb.flight with
    | idle _ _ hl => exact absurd hl hdata
    | data _ hf => exact hf
    | syn _ _ hl => exact absurd hl hdata
    | fin _ _ hl => exact absurd hl hdata
  have hflight : (tcpEmitFlight s).Fits env := by
    intro other hother
    obtain rfl := (Prod.mk.inj (hroute.symm.trans hother)).2
    rw [hflags, if_neg (by decide), List.length_take]
    omega
  intro effect heffect
  generalize hres : tcpTickEntry env s now = r at heffect
  cases hres ▸ tcpTickEntry_cases env s now with
  | waiting | cleared => cases heffect
  | failed e _ counted hcounted =>
    rcases List.mem_append.mp heffect with hmem | hmem
    · rw [hcounted _ hmem]
      trivial
    · exact fits_of_silent (tcpFail_silent s e) _ hmem
  | resent =>
    rcases List.mem_pair.mp heffect with rfl | rfl
    · exact hflight
    · trivial
  | probed _ hzero =>
    rw [hflags] at hzero
    exact absurd hzero (by decide)

def flyingRun : List SocketEvent :=
  [.socket 2 1 0, .connect 1 (some ⟨0x0200000a, 80⟩) 7 100,
    .segment 0x0200000a (htonl 0xc0000202) ⟨80, 49152, 50, 8, synFlag ||| ackFlag, 8192, []⟩ [] 0 101,
    .send 1 (List.replicate 100 1) 102]

def flyingTable : SocketTable := socketRun gatewayRuntime.tcpEnv (socketSubsystemInit 2) flyingRun

def flyingEntry : SocketEntry := flyingTable.entries.getD 0 {}

theorem flyingTable_reachable : Reachable (fun env _ _ => MtuAtMost 1500 env) flyingTable := by
  have hrouted : WellRouted gatewayRuntime.routing := (RuntimeReachable.boot gatewayRuntime_booted).wellRouted
  have henv : MtuAtMost 1500 gatewayRuntime.tcpEnv := hrouted.mtuAtMost (by decide)
  exact (Reachable.init 2 (by decide)).run gatewayRuntime.tcpEnv flyingRun ⟨henv, henv, henv, henv, trivial⟩

theorem retransmission_fits_gateway : flyingEntry.tcp.flightLen = 100 ∧
    ∀ effect ∈ (tcpTickEntry gatewayRuntime.tcpEnv flyingEntry 1102).2, effect.Fits gatewayRuntime.tcpEnv := by
  have hroute : gatewayRuntime.tcpEnv.routeQuery flyingEntry.remoteAddr.ip flyingEntry.localAddr.ip = (.none,
      (gatewayRuntime.tcpEnv.routeQuery flyingEntry.remoteAddr.ip flyingEntry.localAddr.ip).2) := by decide
  exact ⟨by decide, retransmission_fits flyingTable_reachable (by decide) (by decide) hroute (by decide) 1102⟩

def loweredLink : LinkState × Except Errno Bool :=
  linkSet { getMtu := .ok 100 } tapPort.link { ports := 2, ip := 100 }

def loweredRuntime : Runtime := gatewayRuntime.relink 0 loweredLink.1

def tickRun (env : TcpEnv) (s : SocketEntry) (times : List ℕ) : SocketEntry :=
  times.foldl (fun s now => (tcpTickEntry env s now).1) s

/-- After the MTU of the port has been lowered, the flight is retransmitted as it was, the segment is too long for the route
that is still there, and the connection times out. -/
theorem lowered_mtu_times_out :
    Reachable (fun env _ _ => MtuAtMost 1500 env) flyingTable ∧ flyingEntry ∈ flyingTable.entries ∧
      flyingEntry.tcp.state = .established ∧ flyingEntry.tcp.flightLen = 100 ∧ loweredLink = (⟨100, true, false⟩, .ok true) ∧
      (∃ route, loweredRuntime.tcpEnv.routeQuery flyingEntry.remoteAddr.ip flyingEntry.localAddr.ip = (.none, route) ∧
        route.mtu = 100) ∧
      (tcpTickEntry loweredRuntime.tcpEnv flyingEntry 1102).2 = [tcpEmitFlight flyingEntry, .count .retransmissions] ∧
      (∀ submit, tcpEffect submit (tcpEmitFlight flyingEntry) loweredRuntime = tcpOutputFailed loweredRuntime) ∧
      (tickRun loweredRuntime.tcpEnv flyingEntry [1102, 3102, 7102, 15102, 31102, 63102]).error = some .etimedout := by
  have hroute : loweredRuntime.tcpEnv.routeQuery flyingEntry.remoteAddr.ip flyingEntry.localAddr.ip = (.none,
      (loweredRuntime.tcpEnv.routeQuery flyingEntry.remoteAddr.ip flyingEntry.localAddr.ip).2) := by decide
  refine ⟨flyingTable_reachable, by decide, by decide, by decide, by decide, ⟨_, hroute, by decide⟩, by decide, ?_, by decide⟩
  exact fun submit => tcpEmit_too_big submit loweredRuntime _ _ _ _ _ _ _ hroute fun hfits =>
    absurd (hfits _ hroute) (by decide)

end PulsarNetstack
