import PulsarNetstack.EmittedPackets
import PulsarNetstack.SocketSteps

namespace PulsarNetstack

section Flags

variable {env : TcpEnv} {t : SocketTable} {s : SocketEntry} {seg : Segment} {now : ℕ} {localAddr remoteAddr : SockAddr}

def TcpEffect.Parsable : TcpEffect → Prop
  | .emit _ _ _ _ flags window _ => tcpFlagsInvalid flags = false ∧ window < 65536
  | .cancelQueued .. | .count _ => True

def AllParsable (effects : List TcpEffect) : Prop := ∀ e ∈ effects, e.Parsable

theorem AllParsable.nil : AllParsable [] := nofun

theorem AllParsable.cons {e : TcpEffect} {l : List TcpEffect} (he : e.Parsable) (hl : AllParsable l) :
    AllParsable (e :: l) := List.forall_mem_cons.mpr ⟨he, hl⟩

theorem AllParsable.append {l l' : List TcpEffect} (hl : AllParsable l) (hl' : AllParsable l') : AllParsable (l ++ l') :=
  List.forall_mem_append.mpr ⟨hl, hl'⟩

def FlightParsable (s : SocketEntry) : Prop := tcpFlagsInvalid s.tcp.flightFlags = false

theorem FlightParsable.of_flags (flags : Byte) (hf : s.tcp.flightFlags = flags) (h : tcpFlagsInvalid flags = false) :
    FlightParsable s := by
  rw [FlightParsable, hf]
  exact h

theorem receiveWindow_lt (c : TcpConnection) : receiveWindow c < 65536 := Nat.mod_lt _ (by decide)

theorem tcpAck_parsable (s : SocketEntry) : (tcpAck s).Parsable := ⟨by decide, receiveWindow_lt s.tcp⟩

theorem FlightParsable.tcpEmitFlight (h : FlightParsable s) : (tcpEmitFlight s).Parsable := ⟨h, receiveWindow_lt s.tcp⟩

theorem tcpFail_flightParsable (s : SocketEntry) (e : Option Errno) : FlightParsable (tcpFail s e).1 := by
  rw [FlightParsable, tcpFail_tcp]
  decide

theorem tcpFail_allParsable (s : SocketEntry) (e : Option Errno) : AllParsable (tcpFail s e).2 := by
  have heffects : (tcpFail s e).2 =
      if s.tcp.state ≠ .closed then [.cancelQueued s.localAddr s.remoteAddr, .count .closed] else [] := by
    unfold tcpFail
    dsimp only
    split <;> rfl
  rw [heffects]
  split
  · exact .cons trivial (.cons trivial .nil)
  · exact .nil

namespace FlightParsable

theorem acknowledge (h : FlightParsable s) (env : TcpEnv) (ack : Word) (now : ℕ) :
    FlightParsable (acknowledge env s ack now).1 ∧ AllParsable (acknowledge env s ack now).2 := by
  generalize hres : PulsarNetstack.acknowledge env s ack now = r
  cases hres ▸ acknowledge_cases env s ack now with
  | duplicate => exact ⟨h, .cons trivial .nil⟩
  | advanced => exact ⟨h, .nil⟩
  | lastAck => exact ⟨tcpFail_flightParsable _ _, tcpFail_allParsable _ _⟩
  | completed | timeWait | finWait2 => exact ⟨of_flags 0 rfl rfl, .nil⟩

theorem tcpKick (h : FlightParsable s) (env : TcpEnv) (now : ℕ) :
    FlightParsable (tcpKick env s now).1 ∧ AllParsable (tcpKick env s now).2 := by
  generalize hres : PulsarNetstack.tcpKick env s now = r
  cases hres ▸ tcpKick_cases env s now with
  | blocked | waiting | empty | probe => exact ⟨h, .nil⟩
  | failed hf hs e => exact ⟨tcpFail_flightParsable _ _, tcpFail_allParsable _ _⟩
  | data hf hs hw ht mtu hm s' he =>
    have hs' : FlightParsable s' := by
      rw [he]
      exact of_flags (ackFlag ||| pshFlag) rfl (by decide)
    exact ⟨hs', .cons hs'.tcpEmitFlight .nil⟩
  | fin hf hs ht hc s' he =>
    have hs' : FlightParsable s' := by
      rw [he]
      exact of_flags (finFlag ||| ackFlag) rfl (by decide)
    exact ⟨hs', .cons hs'.tcpEmitFlight .nil⟩

theorem receiveSegment (h : FlightParsable s) (env : TcpEnv) (seg : Segment) (now : ℕ) :
    FlightParsable { s with tcp := receiveSegment env (updateWindow s.tcp seg) seg now } := by
  have hwindow : (updateWindow s.tcp seg).flightFlags = s.tcp.flightFlags := by
    unfold updateWindow
    split <;> rfl
  have hpayload (c : TcpConnection) : (receivePayload c seg).flightFlags = c.flightFlags := by
    unfold receivePayload
    split <;> rfl
  -- The connection only stops sending when the FIN moves it to TIME_WAIT.
  have hfin (c : TcpConnection) : (receiveFin env c seg now).flightFlags = c.flightFlags ∨
      (receiveFin env c seg now).flightFlags = 0 := by
    unfold receiveFin
    split
    · dsimp only
      split
      · exact .inl rfl
      · split
        · exact .inr rfl
        · exact .inl rfl
    · exact .inl rfl
  change tcpFlagsInvalid (PulsarNetstack.receiveSegment env (updateWindow s.tcp seg) seg now).flightFlags = false
  unfold PulsarNetstack.receiveSegment
  split
  · rw [hpayload, hwindow]
    exact h
  · rcases hfin (receivePayload (updateWindow s.tcp seg) seg) with hkept | hzero
    · rw [hkept, hpayload, hwindow]
      exact h
    · rw [hzero]
      rfl

theorem tcpInputAccepted (h : FlightParsable s) : FlightParsable (tcpInputAccepted env s seg now).entry ∧
    AllParsable (tcpInputAccepted env s seg now).effects := by
  obtain ⟨hentry, heffects⟩ := h.acknowledge env seg.ack now
  by_cases hdead : (PulsarNetstack.acknowledge env s seg.ack now).1.allocated = false ∨
      (PulsarNetstack.acknowledge env s seg.ack now).1.tcp.state = .closed
  · rw [tcpInputAccepted_dead env s seg now _ rfl hdead]
    exact ⟨hentry, heffects⟩
  · obtain ⟨hl, hs⟩ := not_or.mp hdead
    rw [tcpInputAccepted_eq env s seg now _ rfl (eq_true_of_ne_false hl) hs _ rfl]
    obtain ⟨hkicked, hsent⟩ := (hentry.receiveSegment env seg now).tcpKick env now
    refine ⟨hkicked, .append (.append heffects ?_) hsent⟩
    split
    · exact .cons (tcpAck_parsable _) .nil
    · exact .nil

theorem reply (h : FlightParsable s) {e : TcpEffect} (he : Reply s localAddr remoteAddr seg e) : e.Parsable := by
  cases he with
  | count => trivial
  | ack => exact tcpAck_parsable s
  | flight => exact h.tcpEmitFlight
  | reset seq ack flags hflags => rcases hflags with rfl | rfl <;> exact ⟨by decide, by decide⟩

theorem tcpInputConnection (h : FlightParsable s) (localAddr remoteAddr : SockAddr) (seg : Segment) :
    FlightParsable (tcpInputConnection env s localAddr remoteAddr seg now).entry ∧
      AllParsable (tcpInputConnection env s localAddr remoteAddr seg now).effects := by
  generalize hres : PulsarNetstack.tcpInputConnection env s localAddr remoteAddr seg now = r
  cases hres ▸ tcpInputConnection_cases env s localAddr remoteAddr seg now with
  | keep effects reason hreply => exact ⟨h, fun e he => h.reply (hreply e he)⟩
  | failed e counted hc =>
    have hcounted : AllParsable counted := fun e he => by rw [hc e he]; trivial
    exact ⟨tcpFail_flightParsable _ _, hcounted.append (tcpFail_allParsable _ _)⟩
  | established hs ha hf s' he =>
    have hs' : FlightParsable s' := by
      rw [he]
      exact of_flags 0 rfl rfl
    exact ⟨hs', .cons trivial (.cons (tcpAck_parsable s') .nil)⟩
  | timeWait => exact ⟨of_flags 0 rfl rfl, .cons (tcpAck_parsable s) .nil⟩
  | accepted => exact h.tcpInputAccepted
  | opened hs hseq hack hroom s₀ h₀ =>
    have hs₀ : FlightParsable s₀ := by
      rw [h₀]
      exact h
    exact ⟨hs₀.tcpInputAccepted.1, .cons trivial hs₀.tcpInputAccepted.2⟩

theorem tcpTickEntry (h : FlightParsable s) :
    FlightParsable (tcpTickEntry env s now).1 ∧ AllParsable (tcpTickEntry env s now).2 := by
  generalize hres : PulsarNetstack.tcpTickEntry env s now = r
  cases hres ▸ tcpTickEntry_cases env s now with
  | waiting | cleared => exact ⟨h, .nil⟩
  | failed e he counted hc =>
    have hcounted : AllParsable counted := fun e he => by rw [hc e he]; trivial
    exact ⟨tcpFail_flightParsable _ _, hcounted.append (tcpFail_allParsable _ _)⟩
  | resent => exact ⟨h, .cons h.tcpEmitFlight (.cons trivial .nil)⟩
  | probed => exact ⟨h, .cons ⟨by decide, receiveWindow_lt s.tcp⟩ .nil⟩

theorem tcpSend (h : FlightParsable s) (data : List Byte) :
    FlightParsable (tcpSend env s data now).1 ∧ AllParsable (tcpSend env s data now).2.1 := by
  generalize hres : PulsarNetstack.tcpSend env s data now = r
  cases hres ▸ tcpSend_cases env s data now with
  | unchanged => exact ⟨h, .nil⟩
  | queued hs he n hn s₁ h₁ r hr =>
    have hs₁ : FlightParsable s₁ := by
      rw [h₁]
      exact h
    exact hs₁.tcpKick env now

theorem tcpRecv (h : FlightParsable s) (length : ℕ) :
    FlightParsable (tcpRecv s length).1 ∧ AllParsable (tcpRecv s length).2.1 := by
  generalize hres : PulsarNetstack.tcpRecv s length = r
  cases hres ▸ tcpRecv_cases s length with
  | refused | nothing => exact ⟨h, .nil⟩
  | data hl hr n hn s' he =>
    have hs' : FlightParsable s' := by
      rw [he]
      exact h
    exact ⟨hs', .cons (tcpAck_parsable s') .nil⟩

theorem closeEntry (h : FlightParsable s) :
    FlightParsable (closeEntry env s now).1 ∧ AllParsable (closeEntry env s now).2 := by
  unfold PulsarNetstack.closeEntry
  dsimp only
  split
  · exact ⟨tcpFail_flightParsable _ _, tcpFail_allParsable _ _⟩
  · have hclosing : FlightParsable { s with isOpen := false, tcp := { s.tcp with closing := true } } := h
    exact hclosing.tcpKick env now

end FlightParsable

theorem closeChild_parsable (fd : ℕ) (s : SocketEntry) : AllParsable (closeChild fd s).2 := by
  unfold closeChild
  split
  · exact .append (tcpFail_allParsable _ _) (.cons ⟨by decide, by decide⟩ .nil)
  · exact .nil

theorem EntryStep.flightParsable {s' : SocketEntry} (h : EntryStep env now s s') (hs : FlightParsable s) :
    FlightParsable s' := by
  cases h with
  | frame ht => rw [FlightParsable, ht]; exact hs
  | clear | allocate => exact .of_flags 0 rfl rfl
  | connect => exact .of_flags synFlag rfl (by decide)
  | child => exact .of_flags (synFlag ||| ackFlag) rfl (by decide)
  | listen ha hk ho backlog =>
    unfold tcpListen
    split
    · exact hs
    · split <;> exact hs
  | accept => exact hs
  | send ha hk ho data => exact (hs.tcpSend data).1
  | recv ha hk ho length => exact (hs.tcpRecv length).1
  | close ha hk ho hl => exact hs.closeEntry.1
  | fail e => exact tcpFail_flightParsable _ _
  | input hk ha hc hl localAddr remoteAddr seg => exact (hs.tcpInputConnection localAddr remoteAddr seg).1
  | tick => exact hs.tcpTickEntry.1

theorem Reachable.flightParsable {admissible : TcpEnv → SocketTable → SocketEvent → Prop} (ht : Reachable admissible t) :
    ∀ s ∈ t.entries, FlightParsable s :=
  ht.forall_entries (.of_flags 0 rfl rfl) fun _ _ _ _ _ _ hstep => hstep.flightParsable

theorem resetReply_parsable (localAddr remoteAddr : SockAddr) (seq ack : Word) (flags : Byte) (length : ℕ) :
    AllParsable (resetReply localAddr remoteAddr seq ack flags length) := by
  unfold resetReply
  split
  · exact .nil
  · split
    · exact .cons ⟨by decide, by decide⟩ (.cons trivial .nil)
    · exact .cons ⟨by decide, by decide⟩ (.cons trivial .nil)

theorem coreConnect_parsable (fd : ℤ) (addr : Option SockAddr) (seed : Word) :
    AllParsable (coreConnect env t fd addr seed now).2.1 := by
  unfold coreConnect
  split
  · exact .nil
  split
  · exact .nil
  split
  · exact .nil
  split
  · unfold tcpConnect
    split
    · exact .nil
    split
    · exact .nil
    · exact .nil
    · exact .nil
    · dsimp only
      split
      · exact .nil
      split
      · exact .nil
      · exact .cons (FlightParsable.of_flags synFlag rfl (by decide)).tcpEmitFlight .nil
    · exact .nil
  · split <;> exact .nil

variable (ht : ∀ s ∈ t.entries, FlightParsable s)
include ht

theorem tcpInput_parsable (localAddr remoteAddr : SockAddr) (seg : Segment) (seed : Word) :
    AllParsable (tcpInput env t localAddr remoteAddr seg seed now).2.1 := by
  unfold tcpInput
  split
  · exact .nil
  split
  · rename_i slot hc
    obtain ⟨s, hs, -⟩ := List.getElem?_of_findIdx? hc
    have hd : t.entries.getD slot {} = s := by rw [List.getD_eq_getElem?_getD, hs]; rfl
    dsimp only
    rw [hd]
    exact ((ht s (List.mem_of_getElem? hs)).tcpInputConnection localAddr remoteAddr seg).2
  · split
    · split
      · unfold passiveOpen
        dsimp only
        split
        · exact .nil
        split
        · exact .nil
        · exact .cons (FlightParsable.of_flags (synFlag ||| ackFlag) rfl (by decide)).tcpEmitFlight (.cons trivial .nil)
      · exact resetReply_parsable _ _ _ _ _ _
    · exact resetReply_parsable _ _ _ _ _ _

theorem coreClose_parsable (fd : ℤ) : AllParsable (coreClose env t fd now).2.1 := by
  unfold coreClose
  split
  · exact .nil
  rename_i slot s hg
  obtain ⟨hs, -⟩ := getSocket_some hg
  split
  · unfold tcpClose
    dsimp only
    split
    · intro e he
      obtain ⟨r, hr, he⟩ := List.mem_flatMap.mp he
      obtain ⟨child, -, rfl⟩ := List.mem_map.mp hr
      exact closeChild_parsable _ child e he
    · exact (ht s (List.mem_of_getElem? hs)).closeEntry.2
  · exact .nil

theorem socketStep_parsable (env : TcpEnv) (event : SocketEvent) : AllParsable (socketStep env t event).2 := by
  cases event with
  | connect fd addr seed now => exact coreConnect_parsable fd addr seed
  | send fd data now =>
    change AllParsable (coreSend env t fd data now).2.1
    unfold coreSend
    split
    · exact .nil
    · rename_i slot s hg
      obtain ⟨hs, -⟩ := getSocket_some hg
      split
      · exact ((ht s (List.mem_of_getElem? hs)).tcpSend data).2
      · split <;> exact .nil
  | recv fd length =>
    change AllParsable (coreRecv t fd length).2.1
    unfold coreRecv
    split
    · exact .nil
    · rename_i slot s hg
      obtain ⟨hs, -⟩ := getSocket_some hg
      split
      · exact ((ht s (List.mem_of_getElem? hs)).tcpRecv length).2
      · exact .nil
  | close fd now => exact coreClose_parsable ht fd
  | segment srcIp dstIp hdr payload seed now =>
    change AllParsable (tcpInputSegment env t srcIp dstIp hdr payload seed now).2.1
    unfold tcpInputSegment
    split
    · exact .nil
    · split
      · exact .nil
      · exact tcpInput_parsable ht _ _ _ seed
  | tick now =>
    intro e he
    obtain ⟨r, hr, he⟩ := List.mem_flatMap.mp he
    obtain ⟨s, hs, rfl⟩ := List.mem_map.mp hr
    unfold tickSlot at he
    split at he
    · exact (ht s hs).tcpTickEntry.2 e he
    · exact absurd he List.not_mem_nil
  | _ => exact .nil

end Flags

section Segments

variable {ctx : PacketCtx} {id window mtu : ℕ} {pre data : List Byte} {p : Packet} {localAddr remoteAddr : SockAddr}
  {seq ack : Word} {flags : Byte}

def tcpStart (localAddr remoteAddr : SockAddr) (seq ack : Word) (flags : Byte) (window headerLen : ℕ) : List Byte :=
  be16Bytes localAddr.port.toNat ++ be16Bytes remoteAddr.port.toNat ++ be32Bytes seq ++ be32Bytes ack ++
    [BitVec.ofNat 8 (headerLen / 4 * 16), flags] ++ be16Bytes window

def mssOption (flags : Byte) (mtu : ℕ) : List Byte :=
  if flag flags synFlag then [2, 4] ++ be16Bytes (sub16 mtu 40) else []

def segmentHeaderLen (flags : Byte) : ℕ := 20 + if flag flags synFlag then 4 else 0

theorem mssOption_length (flags : Byte) (mtu : ℕ) : 20 + (mssOption flags mtu).length = segmentHeaderLen flags := by
  unfold mssOption segmentHeaderLen
  split <;> rfl

theorem tcpSegmentBytes_eq (localAddr remoteAddr : SockAddr) (seq ack : Word) (flags : Byte) (window mtu : ℕ)
    (data : List Byte) :
    let start := tcpStart localAddr remoteAddr seq ack flags window (segmentHeaderLen flags)
    let rest := [0, 0] ++ mssOption flags mtu ++ data
    tcpSegmentBytes localAddr remoteAddr seq ack flags window mtu data = start ++
      cksumBytes (udptcpCksum localAddr.ip remoteAddr.ip protoTcp (start ++ [0, 0] ++ rest)) ++ rest := by
  rw [← mssOption_length flags mtu]
  unfold tcpSegmentBytes tcpStart mssOption
  simp only [List.append_assoc]

theorem be32_be32Bytes (w : Word) (rest : List Byte) : BitVec.ofNat 32 (be32 (be32Bytes w ++ rest) 0) = w := by
  apply BitVec.eq_of_toNat_eq
  change (((w.extractLsb' 24 8).toNat * 256 + (w.extractLsb' 16 8).toNat) * 65536 +
    ((w.extractLsb' 8 8).toNat * 256 + (w.extractLsb' 0 8).toNat)) % 4294967296 = w.toNat
  simp only [BitVec.extractLsb'_toNat, Nat.shiftRight_eq_div_pow]
  have := w.isLt
  omega

theorem tcpOptions_mssOption (hmtu : mtu < 65536) (hroom : 20 + segmentHeaderLen flags ≤ mtu) :
    tcpOptions (flag flags synFlag) 0 536 (mssOption flags mtu) = some (if flag flags synFlag then mtu - 40 else 536) := by
  unfold mssOption
  unfold segmentHeaderLen at hroom
  cases hsyn : flag flags synFlag with
  | false => rfl
  | true =>
    rw [hsyn] at hroom
    simp only [if_true] at hroom ⊢
    have hmss : sub16 mtu 40 = mtu - 40 := by
      unfold sub16
      omega
    have hvalue : be16 (be16Bytes (mtu - 40)) 0 = mtu - 40 := bytes_toNat (by omega)
    rw [hmss]
    change some (if (2 : Byte) = 2 ∧ true = true ∧ be16 (be16Bytes (mtu - 40)) 0 ≠ 0 then be16 (be16Bytes (mtu - 40)) 0
      else 536) = _
    rw [hvalue, if_pos ⟨rfl, rfl, by omega⟩]

variable (hflags : tcpFlagsInvalid flags = false) (hwindow : window < 65536) (hmtu : mtu < 65536)
  (hroom : 20 + segmentHeaderLen flags + data.length ≤ mtu)

def deliverSegment (submit : Submit) (p : Packet) (localAddr remoteAddr : SockAddr) (seg : Segment) : GraphM PUnit := do
  let rt ← get
  let now ← timerCycles
  let (sockets, effects, reason) := tcpInput rt.tcpEnv rt.sockets localAddr remoteAddr seg (rt.world.random rt.calls) now
  modify fun rt => { rt with sockets := sockets }
  effects.forM (tcpEffect submit)
  if reason ≠ .none then graphDrop .tcpInput p reason (reason == .invalidTcp || reason == .tcpInvalidState)
  else freeMbuf p.1 .consumed

theorem tcpSegmentBytes_length (localAddr remoteAddr : SockAddr) (seq ack : Word) (flags : Byte) (window mtu : ℕ)
    (data : List Byte) : (tcpSegmentBytes localAddr remoteAddr seq ack flags window mtu data).length =
    segmentHeaderLen flags + data.length := by
  rw [tcpSegmentBytes_eq, ← mssOption_length flags mtu]
  simp only [List.length_append]
  change 16 + 2 + (2 + _ + _) = _
  omega

theorem tcpSegmentBytes_split (localAddr remoteAddr : SockAddr) (seq ack : Word) (flags : Byte) (window mtu : ℕ)
    (data : List Byte) : ∃ fixed : List Byte, fixed.length = 20 ∧
    tcpSegmentBytes localAddr remoteAddr seq ack flags window mtu data = fixed ++ mssOption flags mtu ++ data := by
  rw [tcpSegmentBytes_eq, ← List.append_assoc, ← List.append_assoc]
  exact ⟨_, rfl, rfl⟩

theorem tcpSegmentBytes_options : ((tcpSegmentBytes localAddr remoteAddr seq ack flags window mtu data).take
    (segmentHeaderLen flags)).drop 20 = mssOption flags mtu := by
  obtain ⟨fixed, hfixed, heq⟩ := tcpSegmentBytes_split localAddr remoteAddr seq ack flags window mtu data
  have hheader : (fixed ++ mssOption flags mtu).length = segmentHeaderLen flags := by
    rw [List.length_append, hfixed, mssOption_length]
  rw [heq, List.take_left' hheader, List.drop_left' hfixed]

theorem tcpSegmentBytes_payload : (tcpSegmentBytes localAddr remoteAddr seq ack flags window mtu data).drop
    (segmentHeaderLen flags) = data := by
  obtain ⟨fixed, hfixed, heq⟩ := tcpSegmentBytes_split localAddr remoteAddr seq ack flags window mtu data
  rw [heq, List.drop_left' (by rw [List.length_append, hfixed, mssOption_length])]

theorem tcpSegmentBytes_flags : byteAt (tcpSegmentBytes localAddr remoteAddr seq ack flags window mtu data) 13 = flags := by
  rw [tcpSegmentBytes_eq]
  rfl

theorem tcpSegmentBytes_headerLen :
    (byteAt (tcpSegmentBytes localAddr remoteAddr seq ack flags window mtu data) 12).toNat / 16 * 4 =
      segmentHeaderLen flags := by
  have hoffset : byteAt (tcpSegmentBytes localAddr remoteAddr seq ack flags window mtu data) 12 =
      BitVec.ofNat 8 (segmentHeaderLen flags / 4 * 16) := by
    rw [tcpSegmentBytes_eq]
    rfl
  rw [hoffset]
  unfold segmentHeaderLen
  split <;> rfl

include hwindow in
theorem tcpHeaderAt_segment :
    tcpHeaderAt (tcpSegmentBytes localAddr remoteAddr seq ack flags window mtu data) (segmentHeaderLen flags) =
      ⟨localAddr.port, remoteAddr.port, seq, ack, flags, window, mssOption flags mtu⟩ := by
  rw [tcpHeaderAt, tcpSegmentBytes_options, tcpSegmentBytes_flags, tcpSegmentBytes_eq]
  generalize cksumBytes _ = cksum
  generalize [0, 0] ++ mssOption flags mtu ++ data = rest
  have hsrc : be16 (tcpStart localAddr remoteAddr seq ack flags window (segmentHeaderLen flags) ++ cksum ++ rest) 0 =
      localAddr.port.toNat := bytes_toNat localAddr.port.isLt
  have hdst : be16 (tcpStart localAddr remoteAddr seq ack flags window (segmentHeaderLen flags) ++ cksum ++ rest) 2 =
      remoteAddr.port.toNat := bytes_toNat remoteAddr.port.isLt
  have hseq : be32 (tcpStart localAddr remoteAddr seq ack flags window (segmentHeaderLen flags) ++ cksum ++ rest) 4 =
      be32 (be32Bytes seq ++ []) 0 := rfl
  have hack : be32 (tcpStart localAddr remoteAddr seq ack flags window (segmentHeaderLen flags) ++ cksum ++ rest) 8 =
      be32 (be32Bytes ack ++ []) 0 := rfl
  have hfield : be16 (tcpStart localAddr remoteAddr seq ack flags window (segmentHeaderLen flags) ++ cksum ++ rest) 14 =
      window := bytes_toNat hwindow
  rw [hsrc, hdst, hseq, hack, hfield, be32_be32Bytes, be32_be32Bytes, BitVec.ofNat_toNat, BitVec.ofNat_toNat,
    BitVec.setWidth_eq, BitVec.setWidth_eq]

include hmtu hroom in
theorem tcpSegmentBytes_cksum : udptcpCksum localAddr.ip remoteAddr.ip protoTcp
    (tcpSegmentBytes localAddr remoteAddr seq ack flags window mtu data) = 0 := by
  have hlength : (tcpSegmentBytes localAddr remoteAddr seq ack flags window mtu data).length < 65536 := by
    rw [tcpSegmentBytes_length]
    omega
  have hsum : Folded (udptcpSum localAddr.ip remoteAddr.ip protoTcp
      (tcpSegmentBytes localAddr remoteAddr seq ack flags window mtu data)) _ := udptcpSum_folded hlength
  have hstart : (tcpStart localAddr remoteAddr seq ack flags window (segmentHeaderLen flags)).length = 16 := rfl
  have hones : udptcpSum localAddr.ip remoteAddr.ip protoTcp
      (tcpSegmentBytes localAddr remoteAddr seq ack flags window mtu data) = 65535 := by
    rw [tcpSegmentBytes_eq] at hsum hlength ⊢
    have hcleared : (tcpStart localAddr remoteAddr seq ack flags window (segmentHeaderLen flags) ++ [0, 0] ++
        ([0, 0] ++ mssOption flags mtu ++ data)).length < 65536 := by
      rw [List.length_append, List.length_append, cksumBytes_length] at hlength
      rw [List.length_append, List.length_append]
      exact hlength
    have hstored := segmentSum_stored localAddr.ip remoteAddr.ip (by rw [hstart]) hcleared (by decide : protoTcp ≠ 0)
    exact hsum.eq_ones hstored.1 hstored.2
  rw [udptcpCksum, hones]
  rfl

include hflags hwindow hmtu hroom in
theorem tcpInputNodeRun_delivered (submit : Submit) (hsrc : ctx.srcIp = localAddr.ip) (hdst : ctx.dstIp = remoteAddr.ip)
    (h : Ipv4Delivered p ctx id pre (tcpSegmentBytes localAddr remoteAddr seq ack flags window mtu data)) :
    tcpInputNodeRun submit [p] = deliverSegment submit p remoteAddr localAddr
      ⟨seq, ack, flags, window, if flag flags synFlag then mtu - 40 else 536, data⟩ := by
  obtain ⟨-, -, -, -, hips, hipd⟩ := ipv4Header_fields ctx h.total id
    (tcpSegmentBytes localAddr remoteAddr seq ack flags window mtu data)
  have hfits : 20 + segmentHeaderLen flags ≤ mtu := by omega
  have hoptions := tcpOptions_mssOption hmtu hfits
  have hheader : 20 ≤ segmentHeaderLen flags := Nat.le_add_right 20 _
  have hlength := tcpSegmentBytes_length localAddr remoteAddr seq ack flags window mtu data
  rw [tcpInputNodeRun, forM_singleton]
  rw [h.available, h.payload, h.ip, h.srcIp, h.dstIp]
  dsimp only
  rw [List.take_length, tcpSegmentBytes_headerLen, tcpSegmentBytes_flags, hflags, hips, hipd, hsrc, hdst,
    tcpSegmentBytes_cksum hmtu hroom, tcpHeaderAt_segment hwindow, tcpSegmentBytes_payload, hlength]
  have hshort : ¬ (segmentHeaderLen flags + data.length < 20 ∨ segmentHeaderLen flags < 20 ∨
      segmentHeaderLen flags + data.length < segmentHeaderLen flags ∨ false = true) := by
    rintro (hfixed | hfixed | hwhole | hinvalid)
    · omega
    · omega
    · omega
    · cases hinvalid
  have hsegment (env : TcpEnv) (t : SocketTable) (seed : Word) (now : ℕ) :
      tcpInputSegment env t localAddr.ip remoteAddr.ip
        ⟨localAddr.port, remoteAddr.port, seq, ack, flags, window, mssOption flags mtu⟩ data seed now =
      tcpInput env t remoteAddr localAddr
        ⟨seq, ack, flags, window, if flag flags synFlag then mtu - 40 else 536, data⟩ seed now := by
    rw [tcpInputSegment, if_neg (by rw [hflags]; exact Bool.false_ne_true), hoptions]
  simp only [if_neg hshort, ne_eq, not_true_eq_false, if_false, hoptions, Option.isSome_some, if_true, hsegment]
  rfl

end Segments

section Accepted

variable {b received : Buffer} {ctx rctx : PacketCtx} {id : ℕ} {l4 wire : List Byte} {rt : Routing} {port : PortState}

structure Arrival (received : Buffer) (rctx : PacketCtx) (wire : List Byte) : Prop where
  chain : received.chainLen = 0
  offset : rctx.l3Offset ≤ received.data.length
  data : ∃ pad, received.data.drop rctx.l3Offset = wire ++ pad

theorem Arrival.framed (h : Arrival received rctx (ipv4Header ctx (l4.length + ipv4HdrLen) id ++ l4))
    (htotal : l4.length + ipv4HdrLen < 65536) :
    ∃ pre pad, Ipv4Framed received rctx ctx id pre l4 pad := by
  obtain ⟨pad, hpad⟩ := h.data
  refine ⟨received.data.take rctx.l3Offset, pad, ?_, h.chain, ?_, htotal⟩
  · rw [List.append_assoc, ← hpad, List.take_append_drop]
  · rw [List.length_take, Nat.min_eq_left h.offset]

def AcceptedBy (receiver : Routing) (received : Buffer) (rctx : PacketCtx) (src : Word) (total : ℕ)
    (delivers : Buffer → PacketCtx → Prop) : Prop :=
  ∃ b ctx, ipv4Input receiver received rctx = headerAccepted receiver rctx src total (.enqueue .ipv4Acl b ctx) ∧
    delivers b ctx

theorem Arrival.acceptedBy (h : Arrival received rctx (ipv4Header ctx (l4.length + ipv4HdrLen) id ++ l4))
    (htotal : l4.length + ipv4HdrLen < 65536) {receiver : Routing} {delivers : Buffer → PacketCtx → Prop}
    (hdelivers : ∀ b' ctx' pre, (∀ m, Ipv4Delivered (⟨m, b'⟩, ctx') ctx id pre l4) → delivers b' ctx') :
    AcceptedBy receiver received rctx ctx.srcIp (l4.length + ipv4HdrLen) delivers := by
  obtain ⟨pre, pad, hframed⟩ := h.framed htotal
  exact ⟨_, _, hframed.ipv4Input receiver,
    hdelivers _ _ pre fun m => ⟨rfl, h.chain, hframed.offset, rfl, rfl, rfl, htotal⟩⟩

theorem ipv4Output_enqueues (ctx : PacketCtx) (hport : egressPort rt ctx.egressPortId = some port) (hchain : b.chainLen = 0)
    (hroom : ipv4HdrLen ≤ b.headroom) (hmtu : b.data.length + ipv4HdrLen ≤ port.mtu)
    (htotal : b.data.length + ipv4HdrLen < 65536) (id : ℕ) :
    ∃ b' ctx', ipv4Output rt id b ctx = .enqueue .ethOutput b' ctx' ∧
      b'.data = ipv4Header ctx (b.data.length + ipv4HdrLen) id ++ b.data := by
  have hlength : b.pktLen = b.data.length := by rw [Buffer.pktLen, hchain, Nat.add_zero]
  rw [ipv4Output, hport]
  dsimp only
  rw [hlength, if_neg (by omega), Buffer.prepend, ipv4Header_length, if_neg (by omega)]
  exact ⟨_, _, rfl, rfl⟩

theorem udpOutput_enqueues (ctx : PacketCtx) (hchain : b.chainLen = 0) (hroom : udpHdrLen ≤ b.headroom)
    (hlength : b.data.length + udpHdrLen ≤ 65535 - ipv4HdrLen) :
    udpOutput b ctx = .enqueue .ipv4Output { b with headroom := b.headroom - udpHdrLen, data := udpDatagram ctx b.data }
      { ctx with ipProtocol := protoUdp } := by
  have hpktLen : b.pktLen = b.data.length := by rw [Buffer.pktLen, hchain, Nat.add_zero]
  have hprepend (header : List Byte) (hheader : header.length = udpHdrLen) :
      b.prepend header = some { b with headroom := b.headroom - udpHdrLen, data := header ++ b.data } := by
    rw [Buffer.prepend, hheader, if_neg (by omega)]
  rw [udpOutput]
  dsimp only
  rw [hpktLen, if_neg (by omega), hprepend _ rfl]
  rfl

/-- What the output nodes make of a payload or of a segment of the sockets is taken by the input nodes with the same content,
and a SYN announces 40 bytes less than the MTU of the route. -/
theorem emitted_packets_accepted (rt receiver : Routing) (submit : Submit) (id m : ℕ) (b : Buffer) (ctx : PacketCtx)
    (port : PortState) (hchain : b.chainLen = 0) (hport : egressPort rt ctx.egressPortId = some port) :
    (b.data.length ≤ psDgramMaxPayload → udpHdrLen + ipv4HdrLen ≤ b.headroom →
      b.data.length + udpHdrLen + ipv4HdrLen ≤ port.mtu →
      ∃ b₁ ctx₁ b₂ ctx₂, udpOutput b ctx = .enqueue .ipv4Output b₁ ctx₁ ∧
        ipv4Output rt id b₁ ctx₁ = .enqueue .ethOutput b₂ ctx₂ ∧
        ∀ received rctx, Arrival received rctx b₂.data →
          AcceptedBy receiver received rctx ctx.srcIp b₂.data.length fun b' ctx' =>
            udpInputNodeRun submit [(⟨m, b'⟩, ctx')] =
              deliverDatagram submit (⟨m, b'⟩, ctx') ctx.dstIp ctx.dstPort ⟨ctx.srcIp, ctx.srcPort⟩ b.data) ∧
    (∀ (admissible : TcpEnv → SocketTable → SocketEvent → Prop) (env : TcpEnv) (t : SocketTable) (event : SocketEvent)
      (localAddr remoteAddr : SockAddr) (seq ack : Word) (flags : Byte) (window mtu : ℕ) (data : List Byte),
      Reachable admissible t → .emit localAddr remoteAddr seq ack flags window data ∈ (socketStep env t event).2 →
      mtu < 65536 → ipv4HdrLen + segmentHeaderLen flags + data.length ≤ mtu →
      b.data = tcpSegmentBytes localAddr remoteAddr seq ack flags window mtu data →
      ctx.srcIp = localAddr.ip → ctx.dstIp = remoteAddr.ip → ipv4HdrLen ≤ b.headroom →
      b.data.length + ipv4HdrLen ≤ port.mtu →
      ∃ b₂ ctx₂, ipv4Output rt id b ctx = .enqueue .ethOutput b₂ ctx₂ ∧
        ∀ received rctx, Arrival received rctx b₂.data →
          AcceptedBy receiver received rctx localAddr.ip b₂.data.length fun b' ctx' =>
            tcpInputNodeRun submit [(⟨m, b'⟩, ctx')] = deliverSegment submit (⟨m, b'⟩, ctx') remoteAddr localAddr
              ⟨seq, ack, flags, window, if flag flags synFlag then mtu - 40 else 536, data⟩) := by
  constructor
  · intro hpayload hroom hmtu
    have hlength := udpDatagram_length ctx b.data
    unfold psDgramMaxPayload at hpayload
    have hsizes : udpHdrLen = 8 ∧ ipv4HdrLen = 20 := ⟨rfl, rfl⟩
    have hudp := udpOutput_enqueues ctx hchain (by omega) (by omega)
    obtain ⟨b₂, ctx₂, hout, hdata⟩ := ipv4Output_enqueues { ctx with ipProtocol := protoUdp }
      (b := { b with headroom := b.headroom - udpHdrLen, data := udpDatagram ctx b.data }) hport hchain
      (by change _ ≤ b.headroom - udpHdrLen; omega) (by change (udpDatagram ctx b.data).length + _ ≤ _; omega)
      (by change (udpDatagram ctx b.data).length + _ < _; omega) id
    refine ⟨_, _, b₂, ctx₂, hudp, hout, fun received rctx harrival => ?_⟩
    rw [hdata] at harrival ⊢
    rw [List.length_append, ipv4Header_length, Nat.add_comm]
    refine harrival.acceptedBy (by change (udpDatagram ctx b.data).length + _ < _; omega) fun b' ctx' pre hdelivered => ?_
    have hdatagram : Ipv4Delivered (⟨m, b'⟩, ctx') { ctx with ipProtocol := protoUdp } id pre
        (udpDatagram { ctx with ipProtocol := protoUdp } b.data) := hdelivered m
    have hrun := udpInputNodeRun_delivered submit rfl hdatagram
    exact hrun
  · intro admissible env t event localAddr remoteAddr seq ack flags window mtu data ht hemit hmtu hroom hb hsrc hdst hhead hport'
    obtain ⟨hflags, hwindow⟩ := socketStep_parsable ht.flightParsable env event _ hemit
    have hlength : b.data.length = segmentHeaderLen flags + data.length := by rw [hb, tcpSegmentBytes_length]
    have htotal : b.data.length + ipv4HdrLen < 65536 := by omega
    obtain ⟨b₂, ctx₂, hout, hdata⟩ := ipv4Output_enqueues ctx hport hchain hhead hport' htotal id
    refine ⟨b₂, ctx₂, hout, fun received rctx harrival => ?_⟩
    rw [hdata] at harrival ⊢
    rw [List.length_append, ipv4Header_length, Nat.add_comm, ← hsrc]
    refine harrival.acceptedBy htotal fun b' ctx' pre hdelivered => ?_
    rw [hb] at hdelivered
    exact tcpInputNodeRun_delivered hflags hwindow hmtu hroom submit hsrc hdst (hdelivered m)

def wireRouting : Routing where
  ports := [{ id := 0, portId := 0, mtu := 1500, configured := true, started := true }]

def connectingTable : SocketTable := (socketStep steadyEnv (socketSubsystemInit 1) (.socket 2 1 0)).1

def clientAddr : SockAddr := ⟨0x0100000a, 49152⟩
def serverAddr : SockAddr := ⟨0x0200000a, 80⟩

def synBytes : List Byte := tcpSegmentBytes clientAddr serverAddr 7 0 synFlag 8192 1500 []

def queryCtx : PacketCtx := { srcIp := clientAddr.ip, dstIp := serverAddr.ip, srcPort := 49152, dstPort := 53 }

theorem emitted_packets_accepted_syn :
    (∃ b₁ ctx₁ b₂ ctx₂, udpOutput ⟨128, [1, 2], 100, 1, 0, true, 1⟩ queryCtx = .enqueue .ipv4Output b₁ ctx₁ ∧
      ipv4Output wireRouting 1 b₁ ctx₁ = .enqueue .ethOutput b₂ ctx₂ ∧
      ∀ received rctx, Arrival received rctx b₂.data →
        AcceptedBy wireRouting received rctx clientAddr.ip b₂.data.length fun b' ctx' =>
          udpInputNodeRun (fun _ _ => pure ⟨⟩) [(⟨0, b'⟩, ctx')] =
            deliverDatagram (fun _ _ => pure ⟨⟩) (⟨0, b'⟩, ctx') serverAddr.ip 53 clientAddr [1, 2]) ∧
    ∃ b₂ ctx₂, ipv4Output wireRouting 1 ⟨128, synBytes, 100, 1, 0, true, 1⟩
        { srcIp := clientAddr.ip, dstIp := serverAddr.ip, ipProtocol := protoTcp } = .enqueue .ethOutput b₂ ctx₂ ∧
      ∀ received rctx, Arrival received rctx b₂.data →
        AcceptedBy wireRouting received rctx clientAddr.ip b₂.data.length fun b' ctx' =>
          tcpInputNodeRun (fun _ _ => pure ⟨⟩) [(⟨0, b'⟩, ctx')] =
            deliverSegment (fun _ _ => pure ⟨⟩) (⟨0, b'⟩, ctx') serverAddr clientAddr ⟨7, 0, synFlag, 8192, 1460, []⟩ :=
  ⟨(emitted_packets_accepted wireRouting wireRouting (fun _ _ => pure ⟨⟩) 1 0 ⟨128, [1, 2], 100, 1, 0, true, 1⟩ queryCtx _ rfl
      rfl).1 (by decide) (by decide) (by decide),
    (emitted_packets_accepted wireRouting wireRouting (fun _ _ => pure ⟨⟩) 1 0 ⟨128, synBytes, 100, 1, 0, true, 1⟩
      { srcIp := clientAddr.ip, dstIp := serverAddr.ip, ipProtocol := protoTcp } _ rfl rfl).2 (fun _ _ _ => True) steadyEnv
      connectingTable (.connect 1 (some serverAddr) 7 0) clientAddr serverAddr 7 0 synFlag 8192 1500 []
      ((Reachable.init 1 (by decide)).step steadyEnv (.socket 2 1 0) trivial) (by decide +kernel) (by decide) (by decide) rfl
      rfl rfl (by decide) (by decide)⟩

end Accepted

end PulsarNetstack
