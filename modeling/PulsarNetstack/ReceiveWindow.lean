import Mathlib.Data.List.Chain
import PulsarNetstack.TcpQuiescence

namespace PulsarNetstack

variable {env : TcpEnv} {s s' : SocketEntry} {c : TcpConnection} {seg : Segment} {now : ℕ}
  {localAddr remoteAddr : SockAddr} {effects : List TcpEffect} {edges : List Word}

def rightEdge (c : TcpConnection) : Word := c.rcvNxt + BitVec.ofNat 32 (receiveWindow c)

def Segment.edge (g : Segment) : Word := g.ack + BitVec.ofNat 32 g.window

def advertised (sent : List Segment) : List Word :=
  (sent.filter fun g => flag g.flags ackFlag && !flag g.flags rstFlag).map Segment.edge

theorem advertised_append (l m : List Segment) : advertised (l ++ m) = advertised l ++ advertised m := by
  rw [advertised, List.filter_append, List.map_append]
  rfl

def unwrapFrom (last : Word) (value : ℤ) : List Word → List ℤ
  | [] => []
  | w :: ws => (value + (w - last).toInt) :: unwrapFrom w (value + (w - last).toInt) ws

def unwrapped : List Word → List ℤ
  | [] => []
  | w :: ws => (w.toNat : ℤ) :: unwrapFrom w w.toNat ws

def Onward (a b : Word) : Prop := (b - a).toNat ≤ tcpBufferSize + 1

theorem Onward.refl (a : Word) : Onward a a := by
  rw [Onward, BitVec.sub_self]
  exact Nat.zero_le _

theorem Onward.toInt {a b : Word} (h : Onward a b) : 0 ≤ (b - a).toInt := by
  have hsize : tcpBufferSize = 8192 := rfl
  unfold Onward at h
  rw [BitVec.toInt_eq_toNat_of_lt (by omega)]
  exact Int.natCast_nonneg _

theorem unwrapFrom_sorted {last : Word} (value : ℤ) {ws : List Word} (h : (last :: ws).IsChain Onward) :
    (value :: unwrapFrom last value ws).Pairwise (· ≤ ·) := by
  induction ws generalizing last value with
  | nil => exact List.pairwise_singleton _ _
  | cons w ws ih =>
    obtain ⟨hstep, hrest⟩ := List.isChain_cons_cons.mp h
    have hsorted := ih (value + (w - last).toInt) hrest
    have hle : value ≤ value + (w - last).toInt := by have := hstep.toInt; omega
    refine List.pairwise_cons.mpr ⟨fun v hv => ?_, hsorted⟩
    rcases List.mem_cons.mp hv with rfl | hv
    · exact hle
    · exact hle.trans (List.rel_of_pairwise_cons hsorted hv)

theorem unwrapped_sorted {ws : List Word} (h : ws.IsChain Onward) : (unwrapped ws).Pairwise (· ≤ ·) := by
  cases ws with
  | nil => exact .nil
  | cons w ws => exact unwrapFrom_sorted _ h

section Edges

theorem receiveWindow_eq (h : c.rxLen ≤ tcpBufferSize) : receiveWindow c = tcpBufferSize - c.rxLen :=
  sub16_eq h (by decide)

theorem rightEdge_congr {c' : TcpConnection} (hnxt : c'.rcvNxt = c.rcvNxt) (hlen : c'.rxLen = c.rxLen) :
    rightEdge c' = rightEdge c := by
  rw [rightEdge, rightEdge, receiveWindow, receiveWindow, hnxt, hlen]

theorem receivePayload_edge (h : c.rxLen ≤ tcpBufferSize) (seg : Segment) :
    rightEdge (receivePayload c seg) = rightEdge c := by
  unfold receivePayload
  split
  · have hle : receivedLength c seg ≤ tcpBufferSize - c.rxLen := Nat.min_le_right _ _
    have hsize : tcpBufferSize = 8192 := rfl
    have hadd : add16 c.rxLen (receivedLength c seg) = c.rxLen + receivedLength c seg := Nat.mod_eq_of_lt (by omega)
    rw [rightEdge, rightEdge, receiveWindow_eq h]
    rw [receiveWindow_eq (by dsimp only; omega)]
    dsimp only
    rw [hadd, BitVec.add_assoc, ← BitVec.ofNat_add]
    congr 2
    omega
  · rfl

theorem receiveSegment_edge (h : c.rxLen ≤ tcpBufferSize) (env : TcpEnv) (seg : Segment) (now : ℕ) :
    rightEdge (receiveSegment env c seg now) = rightEdge c ∨
      flag seg.flags finFlag = true ∧ rightEdge (receiveSegment env c seg now) = rightEdge c + 1 := by
  have hpayload := receivePayload_edge h seg
  unfold receiveSegment
  split
  · exact .inl hpayload
  unfold receiveFin
  split
  · rename_i hfin
    rw [Bool.and_eq_true, Bool.and_eq_true] at hfin
    have hedge : (receivePayload c seg).rcvNxt + 1 + BitVec.ofNat 32 (receiveWindow (receivePayload c seg)) =
        rightEdge c + 1 := by
      rw [← hpayload, rightEdge]
      bv_omega
    refine .inr ⟨hfin.1.2, ?_⟩
    dsimp only
    split
    · exact hedge
    split
    · exact hedge
    · exact hedge
  · exact .inl hpayload

theorem updateWindow_rxLen (seg : Segment) : (updateWindow c seg).rxLen = c.rxLen := by
  unfold updateWindow
  split
  · rfl
  · rfl

theorem updateWindow_edge (seg : Segment) : rightEdge (updateWindow c seg) = rightEdge c := by
  unfold updateWindow
  split
  · rfl
  · rfl

end Edges

structure Speaks (s : SocketEntry) (effects : List TcpEffect) (s' : SocketEntry) (edge : Word) : Prop where
  onward : Onward (rightEdge s.tcp) edge
  said : ∀ w ∈ advertised (emitted effects), w = edge
  told : edge ≠ rightEdge s.tcp → advertised (emitted effects) ≠ []
  kept : s'.tcp = {} ∨ s'.tcp.state ≠ .closed ∧ s'.tcp.state ≠ .synSent ∧ rightEdge s'.tcp = edge

theorem Speaks.same (hsaid : ∀ w ∈ advertised (emitted effects), w = rightEdge s.tcp)
    (hkept : s'.tcp = {} ∨ s'.tcp.state ≠ .closed ∧ s'.tcp.state ≠ .synSent ∧ rightEdge s'.tcp = rightEdge s.tcp) :
    Speaks s effects s' (rightEdge s.tcp) :=
  ⟨.refl _, hsaid, fun h => absurd rfl h, hkept⟩

theorem Speaks.resume {s₀ : SocketEntry} {edge : Word} (h : Speaks s₀ effects s' edge)
    (hsame : rightEdge s₀.tcp = rightEdge s.tcp) : Speaks s effects s' edge :=
  ⟨hsame ▸ h.onward, h.said, hsame ▸ h.told, h.kept⟩

theorem advertised_emit (localAddr remoteAddr : SockAddr) (seq ack : Word) (flags : Byte) (window : ℕ) (data : List Byte) :
    advertised (emitted [.emit localAddr remoteAddr seq ack flags window data]) =
      if flag flags ackFlag && !flag flags rstFlag then [ack + BitVec.ofNat 32 window] else [] := by
  change List.map Segment.edge (List.filter _ [_]) = _
  rw [List.filter_cons, List.filter_nil]
  split
  · rfl
  · rfl

theorem advertised_ack (s : SocketEntry) : advertised (emitted [tcpAck s]) = [rightEdge s.tcp] := by
  rw [tcpAck, advertised_emit, if_pos (by decide)]
  rfl

theorem said_ack (s : SocketEntry) : ∀ w ∈ advertised (emitted [tcpAck s]), w = rightEdge s.tcp := by
  intro w hw
  rw [advertised_ack] at hw
  exact List.mem_singleton.mp hw

theorem advertised_flight (s : SocketEntry) : ∀ w ∈ advertised (emitted [tcpEmitFlight s]), w = rightEdge s.tcp := by
  intro w hw
  obtain ⟨g, hg, rfl⟩ := List.mem_map.mp hw
  rw [List.mem_singleton.mp (List.mem_of_mem_filter hg)]
  rfl

theorem advertised_fail (s : SocketEntry) (e : Option Errno) : advertised (emitted (tcpFail s e).2) = [] := by
  rw [emitted_fail]
  rfl

theorem advertised_silent (h : ∀ e ∈ effects, ∃ counter, e = .count counter) : advertised (emitted effects) = [] := by
  have hnone : emitted effects = [] := by
    refine List.filterMap_eq_nil_iff.mpr fun e he => ?_
    obtain ⟨counter, rfl⟩ := h e he
    rfl
  rw [hnone]
  rfl

section Steps

theorem tcpKick_speaks (hc : s.tcp.state ≠ .closed) (hs : s.tcp.state ≠ .synSent) :
    Speaks s (tcpKick env s now).2 (tcpKick env s now).1 (rightEdge s.tcp) := by
  generalize hres : tcpKick env s now = r
  cases hres ▸ tcpKick_cases env s now with
  | blocked | waiting | empty | probe => exact .same nofun (.inr ⟨hc, hs, rfl⟩)
  | failed _ _ e => exact .same (by rw [advertised_fail]; exact nofun) (.inl (tcpFail_tcp _ _))
  | data _ _ _ _ _ _ s' he =>
    subst he
    exact .same (advertised_flight _) (.inr ⟨hc, hs, rfl⟩)
  | fin _ _ _ _ s' he =>
    subst he
    refine .same (advertised_flight _) (.inr ⟨?_, ?_, rfl⟩)
    · exact (by unfold finState; split <;> decide : finState s.tcp.state ≠ .closed)
    · exact (by unfold finState; split <;> decide : finState s.tcp.state ≠ .synSent)

theorem acknowledge_edge (hc : s.tcp.state ≠ .closed) (hs : s.tcp.state ≠ .synSent) (env : TcpEnv) (ack : Word) (now : ℕ) :
    (acknowledge env s ack now).1.tcp = {} ∨ (acknowledge env s ack now).1.tcp.state ≠ .closed ∧
      (acknowledge env s ack now).1.tcp.state ≠ .synSent ∧ (acknowledge env s ack now).1.tcp.rcvNxt = s.tcp.rcvNxt ∧
      (acknowledge env s ack now).1.tcp.rxLen = s.tcp.rxLen := by
  generalize hres : acknowledge env s ack now = r
  cases hres ▸ acknowledge_cases env s ack now with
  | duplicate | advanced | completed => exact .inr ⟨hc, hs, rfl, rfl⟩
  | lastAck => exact .inl (tcpFail_tcp _ _)
  | timeWait => exact .inr ⟨(by decide : TcpState.timeWait ≠ .closed), (by decide : TcpState.timeWait ≠ .synSent), rfl, rfl⟩
  | finWait2 => exact .inr ⟨(by decide : TcpState.finWait2 ≠ .closed), (by decide : TcpState.finWait2 ≠ .synSent), rfl, rfl⟩

theorem receiveSegment_state (env : TcpEnv) (c : TcpConnection) (seg : Segment) (now : ℕ) :
    (receiveSegment env c seg now).state = c.state ∨ (receiveSegment env c seg now).state = .closeWait ∨
      (receiveSegment env c seg now).state = .timeWait := by
  have hpayload := receivePayload_state c seg
  unfold receiveSegment
  split
  · exact .inl hpayload
  unfold receiveFin
  split
  · dsimp only
    split
    · exact .inr (.inl rfl)
    split
    · exact .inr (.inr rfl)
    · exact .inl hpayload
  · exact .inl hpayload

theorem receiveSegment_opened {state : TcpState} (hc : state ≠ .closeWait) (ht : state ≠ .timeWait) (h : c.state ≠ state)
    (env : TcpEnv) (seg : Segment) (now : ℕ) : (receiveSegment env c seg now).state ≠ state := by
  rcases receiveSegment_state env c seg now with hs | hs | hs
  · rw [hs]
    exact h
  · rw [hs]
    exact hc.symm
  · rw [hs]
    exact ht.symm

theorem tcpInputAccepted_speaks (hc : s.tcp.state ≠ .closed) (hs : s.tcp.state ≠ .synSent) (hlen : s.tcp.rxLen ≤ tcpBufferSize)
    (env : TcpEnv) (seg : Segment) (now : ℕ) :
    ∃ edge, Speaks s (tcpInputAccepted env s seg now).effects (tcpInputAccepted env s seg now).entry edge := by
  have hacknowledged := acknowledge_edge hc hs env seg.ack now
  have hsilent : advertised (emitted (acknowledge env s seg.ack now).2) = [] := by
    rw [Sender.emitted_acknowledge]
    rfl
  generalize hack : acknowledge env s seg.ack now = a at hacknowledged hsilent
  by_cases hdead : a.1.allocated = false ∨ a.1.tcp.state = .closed
  · rw [tcpInputAccepted_dead env s seg now a hack hdead]
    refine ⟨_, .same (by rw [hsilent]; exact nofun) ?_⟩
    exact hacknowledged.imp id fun ⟨hc', hs', hnxt, hrx⟩ => ⟨hc', hs', rightEdge_congr hnxt hrx⟩
  · obtain ⟨halloc, hopen⟩ := not_or.mp hdead
    obtain hempty | ⟨-, hs', hnxt, hrx⟩ := hacknowledged
    · rw [hempty] at hopen
      exact absurd rfl hopen
    generalize hr : { a.1 with tcp := receiveSegment env (updateWindow a.1.tcp seg) seg now } = r
    rw [tcpInputAccepted_eq env s seg now a hack (eq_true_of_ne_false halloc) hopen r hr.symm]
    have hlen' : (updateWindow a.1.tcp seg).rxLen ≤ tcpBufferSize := by
      rw [updateWindow_rxLen, hrx]
      exact hlen
    have hbefore : rightEdge (updateWindow a.1.tcp seg) = rightEdge s.tcp :=
      (updateWindow_edge seg).trans (rightEdge_congr hnxt hrx)
    have hedge := receiveSegment_edge hlen' env seg now
    rw [hbefore] at hedge
    have hkick : Speaks r (tcpKick env r now).2 (tcpKick env r now).1 (rightEdge r.tcp) := by
      apply tcpKick_speaks
      · rw [← hr]
        exact receiveSegment_opened (by decide) (by decide) (by rw [updateWindow_state]; exact hopen) env seg now
      · rw [← hr]
        exact receiveSegment_opened (by decide) (by decide) (by rw [updateWindow_state]; exact hs') env seg now
    have hafter : rightEdge r.tcp = rightEdge s.tcp ∨ flag seg.flags finFlag = true ∧ rightEdge r.tcp = rightEdge s.tcp + 1 := by
      rw [← hr]
      exact hedge
    refine ⟨rightEdge r.tcp, ?_, ?_, ?_, hkick.kept⟩
    · rcases hafter with hsame | ⟨-, hnext⟩
      · rw [hsame]
        exact .refl _
      · rw [hnext, Onward, BitVec.add_comm, BitVec.add_sub_cancel]
        decide
    · intro w hw
      rw [emitted_append, emitted_append, advertised_append, advertised_append, hsilent, List.nil_append] at hw
      rcases List.mem_append.mp hw with hw | hw
      · split at hw
        · exact said_ack r w hw
        · exact absurd hw List.not_mem_nil
      · exact hkick.said w hw
    · intro hmoved
      obtain ⟨hfin, -⟩ := hafter.resolve_left hmoved
      rw [if_pos (.inr hfin), emitted_append, emitted_append, advertised_append, advertised_append, hsilent, advertised_ack]
      exact nofun

theorem mem_advertised {w : Word} (h : w ∈ advertised (emitted effects)) : ∃ e ∈ effects, w ∈ advertised (emitted [e]) := by
  induction effects with
  | nil => exact absurd h List.not_mem_nil
  | cons e effects ih =>
    rw [emitted_cons, advertised_append] at h
    rcases List.mem_append.mp h with h | h
    · exact ⟨e, List.mem_cons_self, h⟩
    · obtain ⟨e', he', hw⟩ := ih h
      exact ⟨e', List.mem_cons_of_mem _ he', hw⟩

theorem advertised_reset (localAddr remoteAddr : SockAddr) (seq ack : Word) {flags : Byte}
    (h : flags = rstFlag ∨ flags = rstFlag ||| ackFlag) (window : ℕ) (data : List Byte) :
    advertised (emitted [.emit localAddr remoteAddr seq ack flags window data]) = [] := by
  rw [advertised_emit]
  rcases h with rfl | rfl
  · exact if_neg (by decide)
  · exact if_neg (by decide)

theorem advertised_resetReply (localAddr remoteAddr : SockAddr) (seq ack : Word) (flags : Byte) (length : ℕ) :
    advertised (emitted (resetReply localAddr remoteAddr seq ack flags length)) = [] := by
  unfold resetReply
  split
  · rfl
  split
  · exact advertised_reset localAddr remoteAddr ack 0 (.inl rfl) 0 []
  · exact advertised_reset localAddr remoteAddr 0 _ (.inr rfl) 0 []

theorem tcpInputConnection_speaks (hc : s.tcp.state ≠ .closed) (hs : s.tcp.state ≠ .synSent)
    (hlen : s.tcp.rxLen ≤ tcpBufferSize) (env : TcpEnv) (localAddr remoteAddr : SockAddr) (seg : Segment) (now : ℕ) :
    ∃ edge, Speaks s (tcpInputConnection env s localAddr remoteAddr seg now).effects
      (tcpInputConnection env s localAddr remoteAddr seg now).entry edge := by
  generalize hres : tcpInputConnection env s localAddr remoteAddr seg now = r
  cases hres ▸ tcpInputConnection_cases env s localAddr remoteAddr seg now with
  | keep effects reason hreply =>
    refine ⟨_, .same (fun w hw => ?_) (.inr ⟨hc, hs, rfl⟩)⟩
    obtain ⟨e, he, hw⟩ := mem_advertised hw
    cases hreply e he with
    | count => exact absurd hw List.not_mem_nil
    | ack => exact said_ack s w hw
    | flight => exact advertised_flight s w hw
    | reset _ _ _ hflags =>
      rw [advertised_reset _ _ _ _ hflags] at hw
      exact absurd hw List.not_mem_nil
  | failed e counted hcounted =>
    refine ⟨_, .same (fun w hw => ?_) (.inl (tcpFail_tcp _ _))⟩
    rw [emitted_append, advertised_append, advertised_fail, List.append_nil,
      advertised_silent fun e he => ⟨_, hcounted e he⟩] at hw
    exact absurd hw List.not_mem_nil
  | established hsyn => exact absurd hsyn hs
  | timeWait ht =>
    refine ⟨_, .same (said_ack s) (.inr ⟨?_, ?_, rfl⟩)⟩
    · exact (by decide : TcpState.timeWait ≠ .closed)
    · exact (by decide : TcpState.timeWait ≠ .synSent)
  | accepted => exact tcpInputAccepted_speaks hc hs hlen env seg now
  | opened _ _ _ _ s₀ h₀ =>
    have hestablished : s₀.tcp.state = .established := by rw [h₀]
    have hsame : rightEdge s₀.tcp = rightEdge s.tcp := by
      rw [h₀]
      rfl
    have hlen₀ : s₀.tcp.rxLen ≤ tcpBufferSize := by
      rw [h₀]
      exact hlen
    obtain ⟨edge, h⟩ := tcpInputAccepted_speaks (by rw [hestablished]; decide) (by rw [hestablished]; decide) hlen₀ env seg now
    obtain ⟨honward, hsaid, htold, hkept⟩ := h.resume hsame
    exact ⟨edge, honward, hsaid, htold, hkept⟩

theorem tcpTickEntry_speaks (hc : s.tcp.state ≠ .closed) (hs : s.tcp.state ≠ .synSent) (env : TcpEnv) (now : ℕ) :
    Speaks s (tcpTickEntry env s now).2 (tcpTickEntry env s now).1 (rightEdge s.tcp) := by
  generalize hres : tcpTickEntry env s now = r
  cases hres ▸ tcpTickEntry_cases env s now with
  | waiting | cleared => exact .same nofun (.inr ⟨hc, hs, rfl⟩)
  | failed e _ counted hcounted =>
    refine .same (fun w hw => ?_) (.inl (tcpFail_tcp _ _))
    rw [emitted_append, advertised_append, advertised_fail, List.append_nil,
      advertised_silent fun e he => ⟨_, hcounted e he⟩] at hw
    exact absurd hw List.not_mem_nil
  | resent => exact .same (advertised_flight s) (.inr ⟨hc, hs, rfl⟩)
  | probed =>
    refine .same (fun w hw => ?_) (.inr ⟨hc, hs, rfl⟩)
    rw [advertised_emit, if_pos (by decide)] at hw
    exact List.mem_singleton.mp hw

theorem tcpSend_speaks (hc : s.tcp.state ≠ .closed) (hs : s.tcp.state ≠ .synSent) (env : TcpEnv) (data : List Byte) (now : ℕ) :
    Speaks s (tcpSend env s data now).2.1 (tcpSend env s data now).1 (rightEdge s.tcp) := by
  generalize hres : tcpSend env s data now = r
  cases hres ▸ tcpSend_cases env s data now with
  | unchanged => exact .same nofun (.inr ⟨hc, hs, rfl⟩)
  | queued _ _ _ _ s₁ h₁ =>
    have hsame : rightEdge s₁.tcp = rightEdge s.tcp := by
      rw [h₁]
      rfl
    rw [← hsame]
    exact (tcpKick_speaks (by rw [h₁]; exact hc) (by rw [h₁]; exact hs)).resume hsame

theorem tcpRecv_speaks (hc : s.tcp.state ≠ .closed) (hs : s.tcp.state ≠ .synSent) (hlen : s.tcp.rxLen ≤ tcpBufferSize)
    (length : ℕ) : ∃ edge, Speaks s (tcpRecv s length).2.1 (tcpRecv s length).1 edge := by
  generalize hres : tcpRecv s length = r
  cases hres ▸ tcpRecv_cases s length with
  | refused | nothing => exact ⟨_, .same nofun (.inr ⟨hc, hs, rfl⟩)⟩
  | data _ _ n hn s' he =>
    have hsize : tcpBufferSize = 8192 := rfl
    have hsub : sub16 s.tcp.rxLen n = s.tcp.rxLen - n := sub16_eq (by omega) (by omega)
    have hedge : rightEdge s'.tcp = rightEdge s.tcp + BitVec.ofNat 32 n := by
      subst he
      rw [rightEdge, rightEdge, receiveWindow_eq hlen, receiveWindow_eq (by dsimp only; omega)]
      dsimp only
      rw [hsub, BitVec.add_assoc, ← BitVec.ofNat_add]
      congr 2
      omega
    refine ⟨rightEdge s'.tcp, ?_, said_ack s', fun _ => by rw [advertised_ack]; exact nofun, ?_⟩
    · rw [hedge, Onward, BitVec.add_comm, BitVec.add_sub_cancel, BitVec.toNat_ofNat]
      exact (Nat.mod_le _ _).trans (by omega)
    · subst he
      exact .inr ⟨hc, hs, rfl⟩

theorem closeEntry_speaks (hc : s.tcp.state ≠ .closed) (hs : s.tcp.state ≠ .synSent) (env : TcpEnv) (now : ℕ) :
    Speaks s (closeEntry env s now).2 (closeEntry env s now).1 (rightEdge s.tcp) := by
  unfold closeEntry
  dsimp only
  split
  · exact .same (by rw [advertised_fail]; exact nofun) (.inl (tcpFail_tcp _ _))
  · exact (tcpKick_speaks (s := { s with isOpen := false, tcp := { s.tcp with closing := true } }) hc hs).resume rfl

end Steps

section Opening

structure Unheard (c : TcpConnection) : Prop where
  rxLen : c.state = .closed ∨ c.state = .synSent → c.rxLen = 0
  flags : c.state = .synSent → c.flightFlags = synFlag

theorem Unheard.of_ne (hc : c.state ≠ .closed) (hs : c.state ≠ .synSent) : Unheard c :=
  ⟨fun h => absurd h (not_or.mpr ⟨hc, hs⟩), fun h => absurd h hs⟩

theorem Unheard.empty : Unheard {} := ⟨fun _ => rfl, nofun⟩

theorem Speaks.unheard {edge : Word} (h : Speaks s effects s' edge) : Unheard s'.tcp := by
  rcases h.kept with hempty | ⟨hc, hs, -⟩
  · rw [hempty]
    exact .empty
  · exact .of_ne hc hs

theorem tcpKick_unheard (h : Unheard s.tcp) : Unheard (tcpKick env s now).1.tcp := by
  by_cases hstreaming : Streaming s.tcp.state
  · have hc : s.tcp.state ≠ .closed := fun hs => absurd (hs ▸ hstreaming) (by decide)
    have hs : s.tcp.state ≠ .synSent := fun hs => absurd (hs ▸ hstreaming) (by decide)
    exact (tcpKick_speaks hc hs).unheard
  · generalize hres : tcpKick env s now = r
    cases hres ▸ tcpKick_cases env s now with
    | blocked | waiting | empty => exact h
    | probe _ hs | failed _ hs | data _ hs | fin _ hs => exact absurd hs hstreaming

theorem EntryStep.unheard (hb : Bookkeeping s.tcp) (h : Unheard s.tcp) (hs : EntryStep env now s s') : Unheard s'.tcp := by
  cases hs with
  | frame ht =>
    rw [ht]
    exact h
  | clear | allocate => exact .empty
  | connect _ _ _ _ hclosed => exact ⟨fun _ => h.rxLen (.inl hclosed), fun _ => rfl⟩
  | listen _ _ _ backlog =>
    unfold tcpListen
    split
    · exact h
    split
    · exact h
    · exact .of_ne (by decide : TcpState.listen ≠ .closed) (by decide : TcpState.listen ≠ .synSent)
  | accept => exact ⟨h.rxLen, h.flags⟩
  | send _ _ _ data =>
    generalize hres : tcpSend env s data now = r
    cases hres ▸ tcpSend_cases env s data now with
    | unchanged => exact h
    | queued _ _ _ _ s₁ h₁ =>
      refine tcpKick_unheard ?_
      rw [h₁]
      exact ⟨h.rxLen, h.flags⟩
  | recv _ _ _ length =>
    generalize hres : tcpRecv s length = r
    cases hres ▸ tcpRecv_cases s length with
    | refused | nothing => exact h
    | data _ hr _ _ s' he =>
      subst he
      exact ⟨fun hs => absurd (h.rxLen hs) hr, h.flags⟩
  | close =>
    unfold closeEntry
    dsimp only
    split
    · rw [tcpFail_tcp]
      exact .empty
    · exact tcpKick_unheard (s := { s with isOpen := false, tcp := { s.tcp with closing := true } }) ⟨h.rxLen, h.flags⟩
  | fail =>
    rw [tcpFail_tcp]
    exact .empty
  | input _ _ hc _ localAddr remoteAddr seg =>
    by_cases hsyn : s.tcp.state = .synSent
    · generalize hres : tcpInputConnection env s localAddr remoteAddr seg now = r
      cases hres ▸ tcpInputConnection_cases env s localAddr remoteAddr seg now with
      | keep => exact h
      | failed =>
        rw [tcpFail_tcp]
        exact .empty
      | established _ _ _ s' he =>
        subst he
        exact .of_ne (by decide : TcpState.established ≠ .closed) (by decide : TcpState.established ≠ .synSent)
      | timeWait ht => exact absurd (hsyn.symm.trans ht) (by decide)
      | accepted hne => exact absurd hsyn hne
      | opened hs => exact absurd (hsyn.symm.trans hs) (by decide)
    · obtain ⟨edge, hspeaks⟩ := tcpInputConnection_speaks hc hsyn hb.rxLen_le env localAddr remoteAddr seg now
      exact hspeaks.unheard
  | child => exact .of_ne (by decide : TcpState.synReceived ≠ .closed) (by decide : TcpState.synReceived ≠ .synSent)
  | tick =>
    generalize hres : tcpTickEntry env s now = r
    cases hres ▸ tcpTickEntry_cases env s now with
    | failed =>
      rw [tcpFail_tcp]
      exact .empty
    | waiting => exact h
    | resent | probed | cleared => exact ⟨h.rxLen, h.flags⟩

end Opening

inductive Standing (c : TcpConnection) (edges : List Word) : Prop
  | dead (h : c = {})
  | opening (hs : c.state = .synSent) (he : edges = [])
  | heard (hc : c.state ≠ .closed) (hs : c.state ≠ .synSent) (he : edges.getLast? = some (rightEdge c))

structure Advertises (s : SocketEntry) (edges : List Word) : Prop where
  chain : edges.IsChain Onward
  standing : Standing s.tcp edges

namespace Advertises

theorem silent (h : Advertises s edges) (hs : Standing s'.tcp edges) (heffects : advertised (emitted effects) = []) :
    Advertises s' (edges ++ advertised (emitted effects)) := by
  rw [heffects, List.append_nil]
  exact ⟨h.chain, hs⟩

theorem speaks {edge : Word} (h : Advertises s edges) (hlast : edges.getLast? = some (rightEdge s.tcp))
    (hs : Speaks s effects s' edge) : Advertises s' (edges ++ advertised (emitted effects)) := by
  refine ⟨List.isChain_append.mpr ⟨h.chain, ?_, fun a ha b hb => ?_⟩, ?_⟩
  · refine List.Pairwise.isChain (List.pairwise_of_forall_mem_list fun a ha b hb => ?_)
    rw [hs.said a ha, hs.said b hb]
    exact .refl _
  · obtain rfl := Option.some.inj (hlast.symm.trans ha)
    rw [hs.said b (List.mem_of_mem_head? hb)]
    exact hs.onward
  · rcases hs.kept with hempty | ⟨hc, hsyn, hedge⟩
    · exact .dead hempty
    · refine .heard hc hsyn ?_
      rw [hedge, List.getLast?_append]
      generalize hl : advertised (emitted effects) = l
      cases hlist : l.getLast? with
      | none =>
        rw [List.getLast?_eq_none_iff.mp hlist] at hl
        rw [Option.none_or, hlast, not_imp_not.mp hs.told hl]
      | some w =>
        rw [Option.some_or, hs.said w (hl ▸ List.mem_of_getLast? hlist)]

theorem send (h : Advertises s edges) (env : TcpEnv) (data : List Byte) (now : ℕ) :
    Advertises (tcpSend env s data now).1 (edges ++ advertised (emitted (tcpSend env s data now).2.1)) := by
  cases h.standing with
  | heard hc hs he => exact h.speaks he (tcpSend_speaks hc hs env data now)
  | dead hempty =>
    generalize hres : tcpSend env s data now = r
    cases hres ▸ tcpSend_cases env s data now with
    | unchanged => exact h.silent h.standing rfl
    | queued hs =>
      rw [hempty] at hs
      exact absurd hs (by decide)
  | opening hsyn =>
    generalize hres : tcpSend env s data now = r
    cases hres ▸ tcpSend_cases env s data now with
    | unchanged => exact h.silent h.standing rfl
    | queued hs =>
      rw [hsyn] at hs
      exact absurd hs (by decide)

theorem recv (h : Advertises s edges) (hb : Bookkeeping s.tcp) (hu : Unheard s.tcp) (length : ℕ) :
    Advertises (tcpRecv s length).1 (edges ++ advertised (emitted (tcpRecv s length).2.1)) := by
  have hempty (hr : s.tcp.rxLen = 0) :
      Advertises (tcpRecv s length).1 (edges ++ advertised (emitted (tcpRecv s length).2.1)) := by
    generalize hres : tcpRecv s length = r
    cases hres ▸ tcpRecv_cases s length with
    | refused | nothing => exact h.silent h.standing rfl
    | data _ hne => exact absurd hr hne
  cases h.standing with
  | heard hc hs he =>
    obtain ⟨edge, hspeaks⟩ := tcpRecv_speaks hc hs hb.rxLen_le length
    exact h.speaks he hspeaks
  | dead hdead => exact hempty (by rw [hdead])
  | opening hsyn => exact hempty (hu.rxLen (.inr hsyn))

theorem close (h : Advertises s edges) (env : TcpEnv) (now : ℕ) :
    Advertises (closeEntry env s now).1 (edges ++ advertised (emitted (closeEntry env s now).2)) := by
  have hfail (hs : s.tcp.state = .closed ∨ s.tcp.state = .synSent) :
      Advertises (closeEntry env s now).1 (edges ++ advertised (emitted (closeEntry env s now).2)) := by
    have heq : closeEntry env s now = tcpFail { s with isOpen := false } (some .econnaborted) :=
      if_pos (hs.imp id .inl)
    rw [heq]
    exact h.silent (.dead (tcpFail_tcp _ _)) (advertised_fail _ _)
  cases h.standing with
  | heard hc hs he => exact h.speaks he (closeEntry_speaks hc hs env now)
  | dead hdead => exact hfail (.inl (by rw [hdead]))
  | opening hsyn => exact hfail (.inr hsyn)

theorem tick (h : Advertises s edges) (hu : Unheard s.tcp) (env : TcpEnv) (now : ℕ) :
    Advertises (tcpTickEntry env s now).1 (edges ++ advertised (emitted (tcpTickEntry env s now).2)) := by
  cases h.standing with
  | heard hc hs he => exact h.speaks he (tcpTickEntry_speaks hc hs env now)
  | dead hdead =>
    have heq : tcpTickEntry env s now = (s, []) := by
      unfold tcpTickEntry
      dsimp only
      rw [hdead]
      rfl
    rw [heq]
    exact h.silent h.standing rfl
  | opening hsyn he =>
    generalize hres : tcpTickEntry env s now = r
    cases hres ▸ tcpTickEntry_cases env s now with
    | waiting | cleared => exact h.silent (.opening hsyn he) rfl
    | failed e _ counted hcounted =>
      refine h.silent (.dead (tcpFail_tcp _ _)) ?_
      rw [emitted_append, advertised_append, advertised_fail, List.append_nil]
      exact advertised_silent fun e he => ⟨_, hcounted e he⟩
    | resent =>
      refine h.silent (.opening hsyn he) ?_
      change advertised (emitted [tcpEmitFlight s]) = []
      rw [tcpEmitFlight, advertised_emit, hu.flags hsyn]
      exact if_neg (by decide)
    | probed _ hf =>
      rw [hu.flags hsyn] at hf
      exact absurd hf (by decide)

theorem input (h : Advertises s edges) (hb : Bookkeeping s.tcp) (hopen : s.tcp.state ≠ .closed) (env : TcpEnv)
    (localAddr remoteAddr : SockAddr) (seg : Segment) (now : ℕ) :
    Advertises (tcpInputConnection env s localAddr remoteAddr seg now).entry
      (edges ++ advertised (emitted (tcpInputConnection env s localAddr remoteAddr seg now).effects)) := by
  cases h.standing with
  | heard hc hs he =>
    obtain ⟨edge, hspeaks⟩ := tcpInputConnection_speaks hc hs hb.rxLen_le env localAddr remoteAddr seg now
    exact h.speaks he hspeaks
  | dead hdead =>
    rw [hdead] at hopen
    exact absurd rfl hopen
  | opening hsyn he =>
    have heq : tcpInputConnection env s localAddr remoteAddr seg now = tcpInputSynSent s localAddr remoteAddr seg :=
      if_pos hsyn
    rw [heq]
    unfold tcpInputSynSent
    split
    · exact h.silent h.standing (advertised_resetReply _ _ _ _ _ _)
    split
    · split
      · exact h.silent (.dead (tcpFail_tcp _ _)) (advertised_fail _ _)
      · exact h.silent h.standing rfl
    split
    · exact h.silent h.standing rfl
    · subst he
      rw [List.nil_append]
      dsimp only
      rw [emitted_count, advertised_ack]
      refine ⟨.singleton _, .heard ?_ ?_ rfl⟩
      · exact (by decide : TcpState.established ≠ .closed)
      · exact (by decide : TcpState.established ≠ .synSent)

theorem accept (h : Advertises s edges) {fd : ℕ} (ha : acceptable fd s = true) : Advertises (acceptEntry s) edges := by
  refine ⟨h.chain, ?_⟩
  have hstate : s.tcp.state = .established ∨ s.tcp.state = .closeWait := by
    simpa only [Bool.or_eq_true, beq_iff_eq] using (Bool.and_eq_true_iff.mp ha).2
  cases h.standing with
  | heard hc hs he => exact .heard hc hs he
  | dead hdead =>
    rw [hdead] at hstate
    exact absurd hstate (by decide)
  | opening hsyn =>
    rw [hsyn] at hstate
    exact absurd hstate (by decide)

theorem step {x : Side} (h : Advertises x.entry (edges ++ advertised x.sent)) (hb : Bookkeeping x.entry.tcp)
    (hu : Unheard x.entry.tcp) (e : SideEvent) : Advertises (x.step e).entry (edges ++ advertised (x.step e).sent) := by
  cases e with
  | send env data now =>
    dsimp only [Side.step, Side.send]
    split
    · rw [advertised_append, ← List.append_assoc]
      exact h.send env data now
    · exact h
  | recv length =>
    dsimp only [Side.step, Side.recv]
    split
    · rw [advertised_append, ← List.append_assoc]
      exact h.recv hb hu length
    · exact h
  | close env now =>
    dsimp only [Side.step, Side.close]
    split
    · rw [advertised_append, ← List.append_assoc]
      exact h.close env now
    · exact h
  | accept fd =>
    dsimp only [Side.step, Side.accept]
    split
    · rename_i hfd
      exact h.accept hfd.2
    · exact h
  | tick env now =>
    dsimp only [Side.step, Side.tick]
    rw [advertised_append, ← List.append_assoc]
    unfold tickSlot
    split
    · exact h.tick hu env now
    · exact h.silent h.standing rfl
  | input env seg now =>
    dsimp only [Side.step, Side.input]
    split
    · rename_i hconnected
      rw [advertised_append, ← List.append_assoc]
      exact h.input hb (SideOk.connected_iff.mp hconnected).2.2.1 env _ _ seg now
    · rw [advertised_append, ← List.append_assoc]
      exact h.silent h.standing (advertised_resetReply _ _ _ _ _ _)

end Advertises

section Acceptance

structure InOrder (c : TcpConnection) (seg : Segment) : Prop where
  seq : seg.seq = c.rcvNxt
  ack : flag seg.flags ackFlag = true
  acceptable : before c.sndNxt seg.ack = false
  opening : c.state = .synReceived → seg.ack = c.sndNxt
  syn : flag seg.flags synFlag = false
  rst : flag seg.flags rstFlag = false
  peerFin : c.peerFin = false

structure TookAll (c : TcpConnection) (seg : Segment) (c' : TcpConnection) : Prop where
  rx : c'.rx = c.rx ++ seg.payload
  rxLen : c'.rxLen = c.rxLen + seg.payload.length
  rcvNxt : c'.rcvNxt = c.rcvNxt + BitVec.ofNat 32 seg.payload.length +
    if flag seg.flags finFlag = true ∧ c.rxLen + seg.payload.length < tcpBufferSize then 1 else 0

def TakesAll (env : TcpEnv) (s : SocketEntry) (seg : Segment) (now : ℕ) : Prop :=
  ∃ r : SocketEntry, TookAll s.tcp seg r.tcp ∧
    ((tcpInputConnection env s s.localAddr s.remoteAddr seg now).entry = (tcpKick env r now).1 ∨
      (tcpInputConnection env s s.localAddr s.remoteAddr seg now).entry = r ∧ s.tcp.rxLen = tcpBufferSize)

structure SameReceived (c c' : TcpConnection) : Prop where
  rx : c'.rx = c.rx
  rxLen : c'.rxLen = c.rxLen
  rcvNxt : c'.rcvNxt = c.rcvNxt
  peerFin : c'.peerFin = c.peerFin

theorem updateWindow_received (c : TcpConnection) (seg : Segment) : SameReceived c (updateWindow c seg) := by
  unfold updateWindow
  split
  · exact ⟨rfl, rfl, rfl, rfl⟩
  · exact ⟨rfl, rfl, rfl, rfl⟩

theorem acknowledge_received (hc : s.tcp.state ≠ .closed) (hl : s.tcp.state ≠ .lastAck) (env : TcpEnv) (ack : Word) (now : ℕ) :
    SameReceived s.tcp (acknowledge env s ack now).1.tcp ∧ (acknowledge env s ack now).1.allocated = s.allocated ∧
      (acknowledge env s ack now).1.tcp.state ≠ .closed := by
  generalize hres : acknowledge env s ack now = r
  cases hres ▸ acknowledge_cases env s ack now with
  | duplicate | advanced | completed => exact ⟨⟨rfl, rfl, rfl, rfl⟩, rfl, hc⟩
  | lastAck _ _ _ hs => exact absurd hs hl
  | timeWait => exact ⟨⟨rfl, rfl, rfl, rfl⟩, rfl, (by decide : TcpState.timeWait ≠ .closed)⟩
  | finWait2 => exact ⟨⟨rfl, rfl, rfl, rfl⟩, rfl, (by decide : TcpState.finWait2 ≠ .closed)⟩

theorem receiveSegment_tookAll (hfin : c.peerFin = false) (hroom : c.rxLen + seg.payload.length ≤ tcpBufferSize)
    (env : TcpEnv) (now : ℕ) : TookAll c seg (receiveSegment env c seg now) := by
  have hsize : tcpBufferSize = 8192 := rfl
  have hreceived : receivedLength c seg = seg.payload.length := by
    unfold receivedLength
    omega
  -- Without data the equations hold because nothing is added.
  have hpayload : (receivePayload c seg).rx = c.rx ++ seg.payload ∧
      (receivePayload c seg).rxLen = c.rxLen + seg.payload.length ∧
      (receivePayload c seg).rcvNxt = c.rcvNxt + BitVec.ofNat 32 seg.payload.length ∧
      (receivePayload c seg).peerFin = false := by
    unfold receivePayload
    rw [hreceived, hfin]
    split
    · exact ⟨by rw [List.take_length], Nat.mod_eq_of_lt (by omega), rfl, rfl⟩
    · rename_i hnone
      have hzero : seg.payload = [] := by simpa using hnone
      rw [hzero]
      exact ⟨(List.append_nil _).symm, rfl, (BitVec.add_zero _).symm, hfin⟩
  obtain ⟨hrx, hlen, hnxt, hopen⟩ := hpayload
  unfold receiveSegment
  rw [hreceived, bne_self_eq_false, Bool.and_false, if_neg Bool.false_ne_true]
  generalize receivePayload c seg = c' at hrx hlen hnxt hopen
  unfold receiveFin
  split
  · rename_i htaken
    rw [hopen, hlen, Bool.not_false, Bool.true_and, Bool.and_eq_true, decide_eq_true_eq] at htaken
    have hnext : c'.rcvNxt + 1 = c.rcvNxt + BitVec.ofNat 32 seg.payload.length +
        if flag seg.flags finFlag = true ∧ c.rxLen + seg.payload.length < tcpBufferSize then 1 else 0 := by
      rw [hnxt, if_pos htaken]
    dsimp only
    split
    · exact ⟨hrx, hlen, hnext⟩
    split
    · exact ⟨hrx, hlen, hnext⟩
    · exact ⟨hrx, hlen, hnext⟩
  · rename_i hleft
    rw [hopen, hlen, Bool.not_false, Bool.true_and, Bool.and_eq_true, decide_eq_true_eq] at hleft
    refine ⟨hrx, hlen, ?_⟩
    rw [hnxt, if_neg hleft]
    exact (BitVec.add_zero _).symm

theorem TookAll.of_same {c₀ c' : TcpConnection} (h : TookAll c₀ seg c') (hsame : SameReceived c c₀) : TookAll c seg c' := by
  obtain ⟨hrx, hlen, hnxt⟩ := h
  rw [hsame.rx] at hrx
  rw [hsame.rxLen] at hlen hnxt
  rw [hsame.rcvNxt] at hnxt
  exact ⟨hrx, hlen, hnxt⟩

theorem SameReceived.trans {c₀ c₁ : TcpConnection} (h : SameReceived c c₀) (h' : SameReceived c₀ c₁) : SameReceived c c₁ :=
  ⟨h'.rx.trans h.rx, h'.rxLen.trans h.rxLen, h'.rcvNxt.trans h.rcvNxt, h'.peerFin.trans h.peerFin⟩

theorem tcpInputAccepted_takesAll (ha : s.allocated = true) (hc : s.tcp.state ≠ .closed) (hl : s.tcp.state ≠ .lastAck)
    (hfin : s.tcp.peerFin = false) (hroom : s.tcp.rxLen + seg.payload.length ≤ tcpBufferSize) (env : TcpEnv) (now : ℕ) :
    ∃ r : SocketEntry, TookAll s.tcp seg r.tcp ∧ (tcpInputAccepted env s seg now).entry = (tcpKick env r now).1 := by
  obtain ⟨hsame, halloc, hopen⟩ := acknowledge_received hc hl env seg.ack now
  have hreceived := hsame.trans (updateWindow_received _ seg)
  refine ⟨_, ?_, by rw [tcpInputAccepted_eq env s seg now _ rfl (halloc.trans ha) hopen _ rfl]⟩
  refine (receiveSegment_tookAll ?_ ?_ env now).of_same hreceived
  · rw [hreceived.peerFin, hfin]
  · rw [hreceived.rxLen]
    exact hroom

theorem InOrder.takesAll (h : InOrder s.tcp seg) (hw : Owned s.isOpen s.tcp) (ha : s.allocated = true)
    (hc : s.tcp.state ≠ .closed) (hs : s.tcp.state ≠ .synSent)
    (hroom : s.tcp.rxLen + seg.payload.length ≤ tcpBufferSize) (env : TcpEnv) (now : ℕ) : TakesAll env s seg now := by
  have hok := hw.stateOk
  have hlast : s.tcp.state ≠ .lastAck := fun hstate => by
    rw [hstate, h.peerFin] at hok
    exact absurd hok.1 Bool.false_ne_true
  have hwait : s.tcp.state ≠ .timeWait := fun hstate => by
    rw [hstate, h.peerFin] at hok
    exact absurd hok.1 Bool.false_ne_true
  have horder : tcpInputConnection env s s.localAddr s.remoteAddr seg now =
      tcpInputInOrder env s s.localAddr s.remoteAddr seg now := by
    unfold tcpInputConnection
    rw [if_neg hs, if_neg (by rw [h.syn]; exact fun hsyn => absurd hsyn.2.1 Bool.false_ne_true), if_neg hwait,
      if_neg (not_not.mpr h.seq)]
  unfold TakesAll
  rw [horder]
  unfold tcpInputInOrder
  dsimp only
  rw [if_neg (ne_true_of_eq_false h.rst), if_neg (ne_true_of_eq_false h.syn)]
  split
  · rename_i hfull
    have hzero : seg.payload.length = 0 := by omega
    refine ⟨s, ⟨?_, ?_, ?_⟩, .inr ⟨rfl, hfull.2⟩⟩
    · rw [List.length_eq_zero_iff.mp hzero, List.append_nil]
    · rw [hzero, Nat.add_zero]
    · rw [if_neg (by omega), hzero, BitVec.add_zero]
      exact (BitVec.add_zero _).symm
  · rw [h.ack, h.acceptable, if_neg (by decide), if_neg Bool.false_ne_true]
    split
    · rename_i hreceived
      rw [if_neg (not_not.mpr (h.opening hreceived))]
      let s₀ : SocketEntry := { s with tcp := { s.tcp with state := .established, expires := add64 now (60 * env.hz) } }
      have hc₀ : s₀.tcp.state ≠ .closed := (by decide : TcpState.established ≠ .closed)
      have hl₀ : s₀.tcp.state ≠ .lastAck := (by decide : TcpState.established ≠ .lastAck)
      obtain ⟨r, htook, hentry⟩ := tcpInputAccepted_takesAll (s := s₀) ha hc₀ hl₀ h.peerFin hroom env now
      exact ⟨r, ⟨htook.rx, htook.rxLen, htook.rcvNxt⟩, .inl hentry⟩
    · obtain ⟨r, htook, hentry⟩ := tcpInputAccepted_takesAll ha hc hlast h.peerFin hroom env now
      exact ⟨r, htook, .inl hentry⟩

end Acceptance

section Runs

def SideEvent.HasMss : SideEvent → Prop
  | .input _ seg _ => 0 < seg.mss
  | .send .. | .recv .. | .close .. | .accept .. | .tick .. => True

instance : DecidablePred SideEvent.HasMss
  | .input _ seg _ => inferInstanceAs (Decidable (0 < seg.mss))
  | .send .. | .recv .. | .close .. | .accept .. | .tick .. => isTrue trivial

theorem SideEvent.HasMss.deliverable {e : SideEvent} (h : e.HasMss) : ∃ sent, e.Deliverable sent := by
  cases e with
  | input env seg now => exact ⟨[seg], h, seg, List.mem_singleton_self seg, rfl⟩
  | send | recv | close | accept | tick => exact ⟨[], trivial⟩

def heardBefore (s : SocketEntry) : List Word := if s.tcp.state = .synSent then [] else [rightEdge s.tcp]

def windowRun (s : SocketEntry) (events : List SideEvent) : Side := events.foldl Side.step { entry := s, iss := 0 }

structure WindowOk (told : List Word) (x : Side) : Prop where
  advertises : Advertises x.entry (told ++ advertised x.sent)
  bookkeeping : Bookkeeping x.entry.tcp
  unheard : Unheard x.entry.tcp
  owned : OwnedEntry x.entry

theorem WindowOk.step {told : List Word} {x : Side} (h : WindowOk told x) {e : SideEvent} (he : e.HasMss) :
    WindowOk told (x.step e) := by
  obtain ⟨sent, hdeliverable⟩ := he.deliverable
  obtain ⟨env, now, hstep⟩ := x.step_entryStep hdeliverable
  exact ⟨h.advertises.step h.bookkeeping h.unheard e, h.bookkeeping.step hstep, hstep.unheard h.bookkeeping h.unheard,
    Owned.step h.bookkeeping h.owned hstep⟩

theorem WindowOk.run {told : List Word} {x : Side} (h : WindowOk told x) {events : List SideEvent}
    (hevents : ∀ e ∈ events, e.HasMss) : WindowOk told (events.foldl Side.step x) := by
  induction events generalizing x with
  | nil => exact h
  | cons e events ih =>
    exact ih (h.step (hevents e List.mem_cons_self)) fun e' he' => hevents e' (List.mem_cons_of_mem _ he')

theorem Reachable.windowOk {admissible : TcpEnv → SocketTable → SocketEvent → Prop} {t : SocketTable}
    (ht : Reachable admissible t) (hs : s ∈ t.entries) (hopen : s.tcp.state ≠ .closed) :
    WindowOk (heardBefore s) { entry := s, iss := 0 } := by
  have hall : ∀ s ∈ t.entries, (Bookkeeping s.tcp ∧ Unheard s.tcp) ∧ OwnedEntry s :=
    ht.forall_entries ⟨⟨.empty, .empty⟩, fun ha => absurd ha (by decide)⟩ fun _ _ _ _ _ _ hstep h =>
      ⟨⟨h.1.1.step hstep, hstep.unheard h.1.1 h.1.2⟩, Owned.step h.1.1 h.2 hstep⟩
  obtain ⟨⟨hb, hu⟩, hw⟩ := hall s hs
  refine ⟨?_, hb, hu, hw⟩
  change Advertises s (heardBefore s ++ [])
  rw [List.append_nil]
  unfold heardBefore
  split
  · exact ⟨.nil, .opening ‹_› rfl⟩
  · exact ⟨.singleton _, .heard hopen ‹_› rfl⟩

end Runs

/-- Whatever happens to a connection, the right edges that it tells the peer never move back, and a segment in order whose
data end before the last of them is taken in full. -/
theorem receive_window_never_retracted {admissible : TcpEnv → SocketTable → SocketEvent → Prop} {t : SocketTable}
    (ht : Reachable admissible t) (hs : s ∈ t.entries) (hopen : s.tcp.state ≠ .closed) (events : List SideEvent)
    (hevents : ∀ e ∈ events, e.HasMss) :
    (unwrapped (heardBefore s ++ advertised (windowRun s events).sent)).Pairwise (· ≤ ·) ∧
      ∀ edge, (heardBefore s ++ advertised (windowRun s events).sent).getLast? = some edge →
        (windowRun s events).connected = true → ∀ env now seg, InOrder (windowRun s events).entry.tcp seg →
          seg.payload.length ≤ (edge - (windowRun s events).entry.tcp.rcvNxt).toNat →
          TakesAll env (windowRun s events).entry seg now := by
  have hok : WindowOk (heardBefore s) (windowRun s events) := (ht.windowOk hs hopen).run hevents
  refine ⟨unwrapped_sorted hok.advertises.chain, fun edge hlast hconnected env now seg horder hends => ?_⟩
  obtain ⟨ha, hk, hc, -⟩ := SideOk.connected_iff.mp hconnected
  cases hok.advertises.standing with
  | dead hdead =>
    rw [hdead] at hc
    exact absurd rfl hc
  | opening _ hnone =>
    rw [hnone] at hlast
    cases hlast
  | heard _ hsyn hedge =>
    have hlen := hok.bookkeeping.rxLen_le
    have hsize : tcpBufferSize = 8192 := rfl
    obtain rfl := Option.some.inj (hedge.symm.trans hlast)
    rw [rightEdge, receiveWindow_eq hlen, BitVec.add_comm, BitVec.add_sub_cancel, BitVec.toNat_ofNat,
      Nat.mod_eq_of_lt (by omega)] at hends
    exact horder.takesAll (hok.owned ha hk) ha hc hsyn (by omega) env now

def readingEvents : List SideEvent :=
  [.input steadyEnv ⟨sendingEntry.tcp.rcvNxt, sendingEntry.tcp.sndNxt, ackFlag, 8192, 536, [1, 2]⟩ 104, .recv 1, .recv 1]

def readEntry : SocketEntry := (windowRun sendingEntry readingEvents).entry

theorem receive_window_never_retracted_reading :
    unwrapped (heardBefore sendingEntry ++ advertised (windowRun sendingEntry readingEvents).sent) = [8243, 8243, 8244, 8245] ∧
      (unwrapped (heardBefore sendingEntry ++ advertised (windowRun sendingEntry readingEvents).sent)).Pairwise (· ≤ ·) ∧
      TakesAll steadyEnv readEntry ⟨readEntry.tcp.rcvNxt, readEntry.tcp.sndNxt, ackFlag, 8192, 536, [3, 4, 5]⟩ 105 := by
  have ht : Reachable (fun _ _ _ => True) (socketRun steadyEnv (socketSubsystemInit 2) sendingRun) :=
    (Reachable.init 2 (by decide)).run steadyEnv sendingRun ⟨trivial, trivial, trivial, trivial, trivial⟩
  obtain ⟨hsorted, htaken⟩ := receive_window_never_retracted ht (s := sendingEntry) (by decide) (by decide) readingEvents
    (by decide)
  refine ⟨by decide +kernel, hsorted, htaken 8245 (by decide +kernel) (by decide +kernel) _ _ _ ?_ (by decide +kernel)⟩
  exact ⟨rfl, by decide, by decide +kernel, by decide +kernel, by decide, by decide, by decide +kernel⟩

end PulsarNetstack
