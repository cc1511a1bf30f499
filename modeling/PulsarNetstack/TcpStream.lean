import PulsarNetstack.TcpOwnership
import PulsarNetstack.TcpPair

namespace PulsarNetstack

variable {env : TcpEnv} {s : SocketEntry} {c c' : TcpConnection} {seg : Segment} {now : ℕ}
  {iss : Word} {accepted returned : List Byte} {closed : Bool}

structure SegOk (iss : Word) (accepted : List Byte) (closed : Bool) (seg : Segment) : Prop where
  syn : flag seg.flags synFlag = true → seg.seq = iss
  data : seg.payload ≠ [] → ∃ p, seg.seq = iss + 1 + BitVec.ofNat 32 p ∧ seg.payload <+: accepted.drop p
  fin : flag seg.flags finFlag = true →
    closed = true ∧ seg.seq = iss + 1 + BitVec.ofNat 32 accepted.length ∧ seg.payload = []

namespace SegOk

theorem control (hp : seg.payload = []) (hs : flag seg.flags synFlag = false) (hf : flag seg.flags finFlag = false) :
    SegOk iss accepted closed seg where
  syn h := absurd h (by simp [hs])
  data h := absurd hp h
  fin h := absurd h (by simp [hf])

theorem append (h : SegOk iss accepted false seg) (more : List Byte) : SegOk iss (accepted ++ more) false seg where
  syn := h.syn
  data hp := by
    obtain ⟨p, hs, hd⟩ := h.data hp
    refine ⟨p, hs, hd.trans ?_⟩
    have hle : p ≤ accepted.length := by
      by_contra hlt
      rw [List.drop_eq_nil_of_le (by omega), List.prefix_nil] at hd
      exact hp hd
    rw [List.drop_append_of_le_length hle]
    exact List.prefix_append _ _
  fin hf := absurd (h.fin hf).1 (by decide)

theorem close (h : SegOk iss accepted false seg) : SegOk iss accepted true seg where
  syn := h.syn
  data := h.data
  fin hf := absurd (h.fin hf).1 (by decide)

end SegOk

inductive Progress (iss : Word) (accepted : List Byte) (state : TcpState) (una : Word) (tx : List Byte) : Prop
  | dead (hs : state = .closed)
  | opening (hs : state = .synSent ∨ state = .synReceived) (ha : accepted = []) (hu : una = iss) (ht : tx = [])
  | streaming (hs : Streaming state) (p : ℕ) (hp : p ≤ accepted.length) (hu : una = iss + 1 + BitVec.ofNat 32 p)
      (ht : tx = accepted.drop p)
  | fin (hs : state = .finWait1 ∨ state = .lastAck) (hu : una = iss + 1 + BitVec.ofNat 32 accepted.length)
  | done (hs : state = .finWait2 ∨ state = .timeWait)

namespace Progress

variable {state : TcpState} {una : Word} {tx : List Byte}

theorem of_streaming (h : Progress iss accepted state una tx) (hs : Streaming state) :
    ∃ p ≤ accepted.length, una = iss + 1 + BitVec.ofNat 32 p ∧ tx = accepted.drop p := by
  cases h with
  | streaming _ p hp hu ht => exact ⟨p, hp, hu, ht⟩
  | dead h => rw [h] at hs; exact absurd hs (by decide)
  | opening h => rcases h with h | h <;> rw [h] at hs <;> exact absurd hs (by decide)
  | fin h => rcases h with h | h <;> rw [h] at hs <;> exact absurd hs (by decide)
  | done h => rcases h with h | h <;> rw [h] at hs <;> exact absurd hs (by decide)

theorem of_opening (h : Progress iss accepted state una tx) (hs : state = .synSent ∨ state = .synReceived) :
    accepted = [] ∧ una = iss ∧ tx = [] := by
  cases h with
  | opening _ ha hu ht => exact ⟨ha, hu, ht⟩
  | dead h => rcases hs with hs | hs <;> rw [hs] at h <;> simp at h
  | streaming h => rcases hs with hs | hs <;> rw [hs] at h <;> exact absurd h (by decide)
  | fin h => rcases hs with hs | hs <;> rw [hs] at h <;> simp at h
  | done h => rcases hs with hs | hs <;> rw [hs] at h <;> simp at h

theorem of_fin (h : Progress iss accepted state una tx) (hs : state = .finWait1 ∨ state = .lastAck) :
    una = iss + 1 + BitVec.ofNat 32 accepted.length := by
  cases h with
  | fin _ hu => exact hu
  | dead h => rcases hs with hs | hs <;> rw [hs] at h <;> simp at h
  | streaming h => rcases hs with hs | hs <;> rw [hs] at h <;> exact absurd h (by decide)
  | opening h => rcases hs with hs | hs <;> rw [hs] at h <;> simp at h
  | done h => rcases hs with hs | hs <;> rw [hs] at h <;> simp at h

end Progress

structure Sender (iss : Word) (accepted : List Byte) (closed : Bool) (s : SocketEntry) : Prop where
  bookkeeping : Bookkeeping s.tcp
  owned : OwnedEntry s
  progress : Progress iss accepted s.tcp.state s.tcp.sndUna s.tcp.tx
  closing : s.tcp.closing = true → closed = true
  sealed : closed = true → s.tcp.state ≠ .closed → s.tcp.closing = true

@[simp] theorem emitted_nil : emitted [] = [] := rfl

@[simp] theorem emitted_append (l m : List TcpEffect) : emitted (l ++ m) = emitted l ++ emitted m :=
  List.filterMap_append

@[simp] theorem emitted_count (counter : TcpCounter) (l : List TcpEffect) : emitted (.count counter :: l) = emitted l :=
  rfl

theorem emitted_cons (e : TcpEffect) (l : List TcpEffect) : emitted (e :: l) = emitted [e] ++ emitted l :=
  emitted_append [e] l

@[simp] theorem emitted_fail (s : SocketEntry) (e : Option Errno) : emitted (tcpFail s e).2 = [] := by
  unfold tcpFail
  by_cases hc : s.tcp.state = .closed <;> by_cases ho : s.isOpen = true <;> simp [hc, ho, emitted]

def EmitsOk (iss : Word) (accepted : List Byte) (closed : Bool) (effects : List TcpEffect) : Prop :=
  ∀ seg ∈ emitted effects, SegOk iss accepted closed seg

namespace EmitsOk

theorem nil : EmitsOk iss accepted closed [] := fun _ h => absurd h (by simp)

theorem append {l m : List TcpEffect} (hl : EmitsOk iss accepted closed l) (hm : EmitsOk iss accepted closed m) :
    EmitsOk iss accepted closed (l ++ m) := by
  intro seg h
  rw [emitted_append, List.mem_append] at h
  exact h.elim (hl seg) (hm seg)

theorem of_emitted_nil {l : List TcpEffect} (h : emitted l = []) : EmitsOk iss accepted closed l := by
  intro seg hs
  rw [h] at hs
  exact absurd hs (by simp)

theorem counted {counter : TcpCounter} {l : List TcpEffect} (h : ∀ e ∈ l, e = .count counter) :
    EmitsOk iss accepted closed l := by
  intro seg hs
  obtain ⟨e, he, hs⟩ := List.mem_filterMap.mp hs
  rw [h e he] at hs
  exact absurd hs (by simp)

theorem plain {localAddr remoteAddr : SockAddr} {seq ack : Word} {flags : Byte} {window : ℕ}
    (hs : flag flags synFlag = false) (hf : flag flags finFlag = false) :
    EmitsOk iss accepted closed [.emit localAddr remoteAddr seq ack flags window []] := by
  intro seg h
  obtain rfl := List.mem_singleton.mp h
  exact .control rfl hs hf

theorem ack (s : SocketEntry) : EmitsOk iss accepted closed [tcpAck s] := plain (by decide) (by decide)

theorem reset (localAddr remoteAddr : SockAddr) (seq ack : Word) (flags : Byte) (length : ℕ) :
    EmitsOk iss accepted closed (resetReply localAddr remoteAddr seq ack flags length) := by
  unfold resetReply
  split
  · exact .nil
  split
  · exact (plain (by decide) (by decide)).append (of_emitted_nil rfl)
  · exact (plain (by decide) (by decide)).append (of_emitted_nil rfl)

theorem flight (hs : Sender iss accepted closed s) (ha : s.allocated = true) (hk : s.type = .stream)
    (hf : s.tcp.flightFlags ≠ 0) : EmitsOk iss accepted closed [tcpEmitFlight s] := by
  intro seg h
  obtain rfl := List.mem_singleton.mp h
  cases hs.bookkeeping.flight with
  | idle _ hf' => exact absurd hf' hf
  | data hst hflags hl hle hn =>
    have hno : flag s.tcp.flightFlags synFlag = false ∧ flag s.tcp.flightFlags finFlag = false := by
      rw [hflags]
      decide
    obtain ⟨p, hp, hu, ht⟩ := hs.progress.of_streaming hst
    refine ⟨fun h => absurd h (by simp [hno.1]), fun _ => ⟨p, hu, ?_⟩, fun h => absurd h (by simp [hno.2])⟩
    rw [← ht]
    exact List.take_prefix _ _
  | syn hst hflags hl hn =>
    have hno : flag s.tcp.flightFlags finFlag = false := by rcases hflags with h | h <;> rw [h] <;> decide
    obtain ⟨-, hu, -⟩ := hs.progress.of_opening hst
    exact ⟨fun _ => hu, fun h => absurd (by simp [hl]) h, fun h => absurd h (by simp [hno])⟩
  | fin hst hflags hl hn =>
    have hno : flag s.tcp.flightFlags synFlag = false := by
      rw [hflags]
      decide
    have hcl : s.tcp.closing = true := by
      have hok := (hs.owned ha hk).stateOk
      rcases hst with hst | hst <;> rw [hst] at hok
      exacts [hok.1, hok.2.1]
    exact ⟨fun h => absurd h (by simp [hno]), fun h => absurd (by simp [hl]) h,
      fun _ => ⟨hs.closing hcl, hs.progress.of_fin hst, by simp [hl]⟩⟩

end EmitsOk

namespace Sender

variable {e : Option Errno}

theorem fail (s : SocketEntry) (e : Option Errno) : Sender iss accepted closed (tcpFail s e).1 where
  bookkeeping := .fail s e
  owned := Owned.fail s e
  progress := .dead (by simp)
  closing h := absurd h (by simp)
  sealed _ h := absurd (by simp) h

theorem kick (h : Sender iss accepted closed s) (env : TcpEnv) (now : ℕ) (ha : s.allocated = true) (hk : s.type = .stream) :
    Sender iss accepted closed (tcpKick env s now).1 ∧ EmitsOk iss accepted closed (tcpKick env s now).2 := by
  have hb : Bookkeeping (tcpKick env s now).1.tcp := h.bookkeeping.kick
  have hw : OwnedEntry (tcpKick env s now).1 := (h.owned ha hk).kick
  generalize hr : tcpKick env s now = r at hb hw ⊢
  cases hr ▸ tcpKick_cases env s now with
  | blocked | waiting | empty => exact ⟨h, .nil⟩
  | probe => exact ⟨⟨hb, hw, h.progress, h.closing, h.sealed⟩, .nil⟩
  | failed hf hs e => exact ⟨fail s _, .of_emitted_nil (emitted_fail s _)⟩
  | data hf hs hw' ht mtu hm s' he =>
    have hs' : Sender iss accepted closed s' := by
      subst he
      exact ⟨hb, hw, h.progress, h.closing, h.sealed⟩
    subst he
    exact ⟨hs', .flight hs' ha hk (by decide : ackFlag ||| pshFlag ≠ 0)⟩
  | fin hf hs ht hc s' he =>
    have hs' : Sender iss accepted closed s' := by
      subst he
      refine ⟨hb, hw, .fin ?_ ?_, h.closing, fun _ _ => hc⟩
      · rcases hs with hs | hs <;> simp [startFlight, finState, hs]
      · obtain ⟨p, hp, hu, htx⟩ := h.progress.of_streaming hs
        have hlen : (accepted.drop p).length = 0 := by rw [← htx, h.bookkeeping.tx_length, ht]
        rw [List.length_drop] at hlen
        obtain rfl : p = accepted.length := by omega
        exact hu
    subst he
    exact ⟨hs', .flight hs' ha hk (by decide : finFlag ||| ackFlag ≠ 0)⟩

theorem ofNat_add_toNat (n : ℕ) (x : Word) : BitVec.ofNat 32 (n + x.toNat) = BitVec.ofNat 32 n + x := by
  apply BitVec.eq_of_toNat_eq
  have h := x.isLt
  simp only [BitVec.toNat_add, BitVec.toNat_ofNat]
  omega

theorem advance (hb : Bookkeeping c) (hp : Progress iss accepted c.state c.sndUna c.tx) (hs : Streaming c.state)
    (hl : c.flightLen ≠ 0) {ack : Word} (hle : (ack - c.sndUna).toNat ≤ c.flightLen) (now : ℕ) :
    Progress iss accepted c.state (ackAdvance c ack now).sndUna (ackAdvance c ack now).tx := by
  obtain ⟨p, hp, hu, ht⟩ := hp.of_streaming hs
  have hlen : c.txLen = accepted.length - p := by rw [← hb.tx_length, ht, List.length_drop]
  have hfl := hb.flightLen_le
  refine .streaming hs (p + (ack - c.sndUna).toNat) (by omega) ?_ ?_
  · change ack = _
    rw [ofNat_add_toNat, hu]
    grind
  · simp only [ackAdvance, if_pos hl]
    rw [ht, List.drop_drop]

theorem acknowledge (h : Sender iss accepted closed s) (ha : s.allocated = true) (hk : s.type = .stream)
    (hno : ¬ Opening s.tcp.state) {ack : Word} (hack : before s.tcp.sndNxt ack = false) {r : SocketEntry}
    (he : (acknowledge env s ack now).1 = r) : Sender iss accepted closed r := by
  have hs : s.tcp.state ≠ .synSent := fun h => hno (.inr (.inr (.inl h)))
  have hr : s.tcp.state ≠ .synReceived := fun h => hno (.inr (.inr (.inr h)))
  have hc : s.tcp.state ≠ .closed := fun h => hno (.inl h)
  have hmss := h.bookkeeping.mss_pos hc fun h => hno (.inr (.inl h))
  have hb : Bookkeeping r.tcp := he ▸ h.bookkeeping.acknowledge hmss hs hr hack
  have hw : r.tcp.state ≠ .closed → Owned r.isOpen r.tcp := (h.owned ha hk).acknowledge h.bookkeeping hs hr hack he
  subst he
  generalize hres : PulsarNetstack.acknowledge env s ack now = r at hb hw ⊢
  cases hres ▸ acknowledge_cases env s ack now with
  | duplicate => exact h
  | advanced hu hn =>
    have hl : s.tcp.flightLen ≠ 0 := fun hl => hn (h.bookkeeping.ack_control hl hu hack)
    have hst := (h.bookkeeping.data_flight hl).1
    exact ⟨hb, fun _ _ => hw hc, advance h.bookkeeping h.progress hst hl (h.bookkeeping.ack_bytes hl hu hack).2 now,
      h.closing, h.sealed⟩
  | completed hu hn hf =>
    have hst := h.bookkeeping.completed_streaming hs hr (hn ▸ hu) hf
    have hl : s.tcp.flightLen ≠ 0 := h.bookkeeping.flightLen_ne_zero hst (hn ▸ hu)
    have hle : (ack - s.tcp.sndUna).toNat ≤ s.tcp.flightLen := by rw [hn, h.bookkeeping.ack_bytes_eq hl]
    exact ⟨hb, fun _ _ => hw hc, advance h.bookkeeping h.progress hst hl hle now, h.closing, h.sealed⟩
  | lastAck => exact fail _ _
  | timeWait => exact ⟨hb, fun _ _ => hw (by simp [tcpTimeWait]), .done (.inr rfl), h.closing, fun hcl _ => h.sealed hcl hc⟩
  | finWait2 => exact ⟨hb, fun _ _ => hw (by simp), .done (.inl rfl), h.closing, fun hcl _ => h.sealed hcl hc⟩

theorem emitted_acknowledge (env : TcpEnv) (s : SocketEntry) (ack : Word) (now : ℕ) :
    emitted (PulsarNetstack.acknowledge env s ack now).2 = [] := by
  generalize hres : PulsarNetstack.acknowledge env s ack now = r
  cases hres ▸ acknowledge_cases env s ack now with
  | duplicate | advanced | completed | timeWait | finWait2 => rfl
  | lastAck => exact emitted_fail _ _

theorem receiveFin_progress (h : Progress iss accepted c.state c.sndUna c.tx) :
    Progress iss accepted (receiveFin env c seg now).state (receiveFin env c seg now).sndUna
      (receiveFin env c seg now).tx := by
  unfold receiveFin
  split
  · dsimp only
    split
    · rename_i hs
      obtain ⟨p, hp, hu, ht⟩ := h.of_streaming (.inl hs)
      exact .streaming (.inr rfl) p hp hu ht
    split
    · exact .done (.inr rfl)
    · exact h
  · exact h

theorem receiveSegment_progress (h : Progress iss accepted c.state c.sndUna c.tx) :
    Progress iss accepted (receiveSegment env c seg now).state (receiveSegment env c seg now).sndUna
      (receiveSegment env c seg now).tx := by
  have hp : Progress iss accepted (receivePayload c seg).state (receivePayload c seg).sndUna
      (receivePayload c seg).tx := by
    unfold receivePayload
    split <;> exact h
  unfold receiveSegment
  split
  · exact hp
  · exact receiveFin_progress hp

theorem receiveSegment_closing (c : TcpConnection) : (receiveSegment env c seg now).closing = c.closing := by
  have hp : (receivePayload c seg).closing = c.closing := by
    unfold receivePayload
    split <;> rfl
  unfold receiveSegment
  split
  · exact hp
  · rw [← hp]
    unfold receiveFin
    split
    · dsimp only
      split
      · rfl
      split <;> rfl
    · rfl

theorem updateWindow_closing (c : TcpConnection) (seg : Segment) : (updateWindow c seg).closing = c.closing := by
  unfold updateWindow
  split <;> rfl

theorem receive (h : Sender iss accepted closed s) (ha : s.allocated = true) (hk : s.type = .stream)
    (hno : ¬ Opening s.tcp.state) :
    Sender iss accepted closed { s with tcp := receiveSegment env (updateWindow s.tcp seg) seg now } where
  bookkeeping := h.bookkeeping.updateWindow.receiveSegment
  owned _ _ := (h.owned ha hk).updateWindow.receiveSegment (by rwa [updateWindow_state])
  progress := by
    refine receiveSegment_progress ?_
    unfold updateWindow
    split <;> exact h.progress
  closing hc := by
    rw [receiveSegment_closing, updateWindow_closing] at hc
    exact h.closing hc
  sealed hcl _ := by
    rw [receiveSegment_closing, updateWindow_closing]
    exact h.sealed hcl fun hs => hno (.inl hs)

theorem acknowledge_type (hk : s.type = .stream) {ack : Word} {r : SocketEntry}
    (he : (PulsarNetstack.acknowledge env s ack now).1 = r) (ha : r.allocated = true) : r.type = .stream := by
  subst he
  generalize hres : PulsarNetstack.acknowledge env s ack now = r at ha ⊢
  cases hres ▸ acknowledge_cases env s ack now with
  | duplicate | advanced | completed | timeWait | finWait2 => exact hk
  | lastAck =>
    rw [tcpFail_entry] at ha ⊢
    split
    · exact hk
    · rename_i ho
      rw [if_neg ho] at ha
      exact absurd ha (by decide)

theorem inputAccepted (hk : s.type = .stream) (hno : ¬ Opening s.tcp.state)
    (h : ∀ r, (PulsarNetstack.acknowledge env s seg.ack now).1 = r → Sender iss accepted closed r) :
    Sender iss accepted closed (tcpInputAccepted env s seg now).entry ∧
      EmitsOk iss accepted closed (tcpInputAccepted env s seg now).effects := by
  generalize hr : PulsarNetstack.acknowledge env s seg.ack now = r at h
  have hem : EmitsOk iss accepted closed r.2 := .of_emitted_nil (by rw [← hr]; exact emitted_acknowledge _ _ _ _)
  by_cases hd : r.1.allocated = false ∨ r.1.tcp.state = .closed
  · rw [tcpInputAccepted_dead env s seg now r hr hd]
    exact ⟨h _ rfl, hem⟩
  · obtain ⟨hl, hs⟩ := not_or.mp hd
    have hl : r.1.allocated = true := by simpa using hl
    have hty : r.1.type = .stream := acknowledge_type hk (by rw [hr]) hl
    have hno' : ¬ Opening r.1.tcp.state := acknowledge_not_opening hno (by rw [hr]) hs
    rw [tcpInputAccepted_eq env s seg now r hr hl hs _ rfl]
    have hrecv : Sender iss accepted closed
        { r.1 with tcp := receiveSegment env (updateWindow r.1.tcp seg) seg now } := (h _ rfl).receive hl hty hno'
    have hkick := hrecv.kick env now hl hty
    refine ⟨hkick.1, (hem.append ?_).append hkick.2⟩
    split
    · exact .ack _
    · exact .nil

theorem reply (h : Sender iss accepted closed s) (ha : s.allocated = true) (hk : s.type = .stream)
    {localAddr remoteAddr : SockAddr} {effects : List TcpEffect}
    (he : ∀ e ∈ effects, Reply s localAddr remoteAddr seg e) : EmitsOk iss accepted closed effects := by
  induction effects with
  | nil => exact .nil
  | cons e effects ih =>
    have hone : EmitsOk iss accepted closed [e] := by
      cases he e List.mem_cons_self with
      | count => exact .of_emitted_nil rfl
      | ack => exact .ack s
      | flight hs => exact .flight h ha hk (h.bookkeeping.flightFlags_ne_zero (.inr (.inl hs)))
      | reset seq ack flags hf => rcases hf with rfl | rfl <;> exact .plain (by decide) (by decide)
    exact hone.append (ih fun e' he' => he e' (List.mem_cons_of_mem e he'))

theorem input (h : Sender iss accepted closed s) (env : TcpEnv) (now : ℕ) (ha : s.allocated = true) (hk : s.type = .stream)
    (hc : s.tcp.state ≠ .closed) (hl : s.tcp.state ≠ .listen) (hm : 0 < seg.mss) (localAddr remoteAddr : SockAddr) :
    Sender iss accepted closed (tcpInputConnection env s localAddr remoteAddr seg now).entry ∧
      EmitsOk iss accepted closed (tcpInputConnection env s localAddr remoteAddr seg now).effects := by
  have hb : Bookkeeping (tcpInputConnection env s localAddr remoteAddr seg now).entry.tcp :=
    h.bookkeeping.input hc hl localAddr remoteAddr hm
  have hw : OwnedEntry (tcpInputConnection env s localAddr remoteAddr seg now).entry :=
    (h.owned ha hk).input h.bookkeeping hc hl localAddr remoteAddr
  generalize hres : tcpInputConnection env s localAddr remoteAddr seg now = r at hb hw ⊢
  cases hres ▸ tcpInputConnection_cases env s localAddr remoteAddr seg now with
  | keep effects reason he => exact ⟨h, h.reply ha hk he⟩
  | failed e counted hcount =>
    exact ⟨fail s _, .append (.counted hcount) (.of_emitted_nil (emitted_fail s _))⟩
  | established hs hack hf s' he =>
    obtain ⟨hacc, hu, htx⟩ := h.progress.of_opening (.inl hs)
    have hn : s.tcp.sndNxt = iss + 1 := by
      rw [h.bookkeeping.syn_sndNxt (.inl hs), hu]
    subst he
    refine ⟨⟨hb, hw, .streaming (.inl rfl) 0 (Nat.zero_le _) ?_ ?_, h.closing, fun hcl _ => h.sealed hcl hc⟩, ?_⟩
    · change seg.ack = _
      rw [hack, hn]
      simp
    · change s.tcp.tx = _
      rw [htx, hacc]
      rfl
    · exact .append (l := [.count .established]) (.of_emitted_nil rfl) (.ack _)
  | timeWait hs => exact ⟨⟨hb, hw, .done (.inr rfl), h.closing, fun hcl _ => h.sealed hcl hc⟩, .ack s⟩
  | accepted hs hr ht hseq hack =>
    have hno : ¬ Opening s.tcp.state := by
      rintro (h | h | h | h)
      exacts [hc h, hl h, hs h, hr h]
    exact inputAccepted hk hno fun r he => h.acknowledge ha hk hno hack he
  | opened hs hseq hack hroom s₀ h₀ =>
    subst h₀
    obtain ⟨hacc, hu, htx⟩ := h.progress.of_opening (.inr hs)
    have hn := h.bookkeeping.syn_sndNxt (.inr hs)
    have hopen : ∀ r, (PulsarNetstack.acknowledge env { s with tcp := { s.tcp with
        state := .established, expires := add64 now (60 * env.hz) } } seg.ack now).1 = r →
        Sender iss accepted closed r := by
      intro r he
      rw [hack, h.bookkeeping.acknowledge_opened hs] at he
      subst he
      have hmss := h.bookkeeping.mss_pos hc hl
      refine ⟨h.bookkeeping.complete rfl hmss now _ (by decide) _, fun _ _ => (h.owned ha hk).opened hs _ _ _,
        .streaming (.inl rfl) 0 (Nat.zero_le _) ?_ ?_, h.closing, fun hcl _ => h.sealed hcl hc⟩
      · change s.tcp.sndNxt = _
        rw [hn, hu]
        simp
      · have hlen : s.tcp.flightLen = 0 := h.bookkeeping.syn_flightLen (.inr hs)
        simp [ackComplete, ackAdvance, hlen, htx, hacc]
    obtain ⟨hs', he'⟩ := inputAccepted (s := { s with tcp := { s.tcp with
      state := .established, expires := add64 now (60 * env.hz) } }) hk (by decide : ¬ Opening .established) hopen
    exact ⟨hs', .append (l := [.count .established]) (.of_emitted_nil rfl) he'⟩

theorem tick (h : Sender iss accepted closed s) (env : TcpEnv) (now : ℕ) (ha : s.allocated = true) (hk : s.type = .stream) :
    Sender iss accepted closed (tcpTickEntry env s now).1 ∧
      EmitsOk iss accepted closed (tcpTickEntry env s now).2 := by
  have hb : Bookkeeping (tcpTickEntry env s now).1.tcp := h.bookkeeping.tick
  have hw : OwnedEntry (tcpTickEntry env s now).1 := (h.owned ha hk).tick
  generalize hr : tcpTickEntry env s now = r at hb hw ⊢
  cases hr ▸ tcpTickEntry_cases env s now with
  | waiting => exact ⟨h, .nil⟩
  | failed e he counted hcount =>
    refine ⟨fail s _, .append (.counted hcount) (.of_emitted_nil (emitted_fail s _))⟩
  | resent hd hf =>
    exact ⟨⟨hb, hw, h.progress, h.closing, h.sealed⟩, .append (l := [tcpEmitFlight s]) (.flight h ha hk hf) (.of_emitted_nil rfl)⟩
  | probed => exact ⟨⟨hb, hw, h.progress, h.closing, h.sealed⟩, .plain (by decide) (by decide)⟩
  | cleared => exact ⟨⟨hb, hw, h.progress, h.closing, h.sealed⟩, .nil⟩

theorem close (h : Sender iss accepted closed s) (env : TcpEnv) (now : ℕ) (ha : s.allocated = true) (hk : s.type = .stream)
    (ho : s.isOpen = true) (hl : s.tcp.state ≠ .listen) :
    Sender iss accepted true (closeEntry env s now).1 ∧ EmitsOk iss accepted true (closeEntry env s now).2 := by
  unfold closeEntry
  dsimp only
  split
  · exact ⟨fail _ _, .of_emitted_nil (emitted_fail _ _)⟩
  · rename_i hn
    obtain ⟨hc, hn, hr⟩ := by simpa only [not_or] using hn
    have hw := h.owned ha hk
    have hcl : Sender iss accepted true { s with isOpen := false, tcp := { s.tcp with closing := true } } :=
      ⟨{ h.bookkeeping with }, fun _ _ => hw.closing ho (hw.streaming_of_open ho hl hc hn hr), h.progress, fun _ => rfl,
        fun _ _ => rfl⟩
    exact hcl.kick env now ha hk

theorem recv (h : Sender iss accepted closed s) (ha : s.allocated = true) (hk : s.type = .stream) (length : ℕ) :
    Sender iss accepted closed (tcpRecv s length).1 ∧ EmitsOk iss accepted closed (tcpRecv s length).2.1 := by
  have hb : Bookkeeping (tcpRecv s length).1.tcp := h.bookkeeping.recv length
  have hw : OwnedEntry (tcpRecv s length).1 := (h.owned ha hk).recv length
  generalize hr : tcpRecv s length = r at hb hw ⊢
  cases hr ▸ tcpRecv_cases s length with
  | refused | nothing => exact ⟨h, .nil⟩
  | data hl hr n hn s' he =>
    refine ⟨⟨hb, hw, ?_, ?_, ?_⟩, .ack s'⟩
    · subst he
      exact h.progress
    · subst he
      exact h.closing
    · subst he
      exact h.sealed

theorem accept (h : Sender iss accepted closed s) {fd : ℕ} (hf : 0 < fd) (ha : acceptable fd s = true) :
    Sender iss accepted closed (acceptEntry s) :=
  ⟨{ h.bookkeeping with }, Owned.accept h.owned hf ha, h.progress, h.closing, h.sealed⟩

theorem send (h : Sender iss accepted false s) (env : TcpEnv) (now : ℕ) (ha : s.allocated = true) (hk : s.type = .stream) (data : List Byte) :
    Sender iss (accepted ++ acceptedBytes data (tcpSend env s data now).2.2) false (tcpSend env s data now).1 ∧
      EmitsOk iss (accepted ++ acceptedBytes data (tcpSend env s data now).2.2) false (tcpSend env s data now).2.1 := by
  generalize hres : tcpSend env s data now = res
  cases hres ▸ tcpSend_cases env s data now with
  | unchanged r hr =>
    have hnone : acceptedBytes data r = [] := by rcases hr with rfl | ⟨e, rfl⟩ <;> rfl
    dsimp only
    rw [hnone, List.append_nil]
    exact ⟨h, .nil⟩
  | queued hs he n hn s₁ h₁ r hr =>
    obtain ⟨p, hp, hu, htx⟩ := h.progress.of_streaming hs
    have hbuf : Sender iss (accepted ++ data.take n) false s₁ := by
      subst h₁
      refine ⟨(h.bookkeeping.buffered data hn).1, fun _ _ => { h.owned ha hk with
        stateOk := hs.stateOk_txLen (h.owned ha hk).stateOk _ _ }, .streaming hs p (by simp; omega) hu ?_, h.closing,
        fun hcl => absurd hcl (by decide)⟩
      rw [htx, List.drop_append_of_le_length hp]
    have ha₁ : s₁.allocated = true ∧ s₁.type = .stream ∧ s₁.error = none := by
      subst h₁
      exact ⟨ha, hk, he⟩
    have hkick := hbuf.kick env now ha₁.1 ha₁.2.1
    rcases hr with ⟨rfl, -⟩ | ⟨e, rfl, herr⟩
    · exact hkick
    · -- the bytes were buffered, but the flight failed and the call reports the error
      dsimp only [acceptedBytes]
      rw [List.append_nil]
      generalize hk' : tcpKick env s₁ now = k at herr hkick ⊢
      cases hk' ▸ tcpKick_cases env s₁ now with
      | failed hf hs e => exact ⟨fail _ _, .of_emitted_nil (emitted_fail _ _)⟩
      | blocked | waiting | empty | probe => exact absurd herr (by simp [ha₁.2.2])
      | data _ _ _ _ _ _ s' he' => rw [he'] at herr; exact absurd herr (by simp [ha₁.2.2])
      | fin _ _ _ _ s' he' => rw [he'] at herr; exact absurd herr (by simp [ha₁.2.2])

end Sender

structure Receiver (iss : Word) (accepted : List Byte) (closed : Bool) (returned : List Byte) (c : TcpConnection) :
    Prop where
  stream : returned ++ c.rx <+: accepted
  fin : c.peerFin = true → returned ++ c.rx = accepted ∧ closed = true
  next : c.state ≠ .closed → c.state ≠ .synSent →
    c.rcvNxt = iss + 1 + BitVec.ofNat 32 (returned ++ c.rx).length + (if c.peerFin then 1 else 0)
  start : c.state = .synSent → returned = [] ∧ c.rx = []

namespace Receiver

theorem dead (h : Receiver iss accepted closed returned c) : Receiver iss accepted closed returned {} where
  stream := by
    rw [List.append_nil]
    exact (List.prefix_append _ _).trans h.stream
  fin hf := absurd hf (by decide)
  next hs := absurd rfl hs
  start hs := absurd hs (by decide)

theorem fail {s₀ : SocketEntry} (h : Receiver iss accepted closed returned c) (e : Option Errno) :
    Receiver iss accepted closed returned (tcpFail s₀ e).1.tcp := by
  rw [tcpFail_tcp]
  exact h.dead

theorem frame (h : Receiver iss accepted closed returned c) (hrx : c'.rx = c.rx) (hfin : c'.peerFin = c.peerFin)
    (hnxt : c'.rcvNxt = c.rcvNxt)
    (hs : c'.state = c.state ∨ c.state ≠ .closed ∧ c.state ≠ .synSent ∧ c'.state ≠ .synSent) :
    Receiver iss accepted closed returned c' where
  stream := by rw [hrx]; exact h.stream
  fin := by rw [hfin, hrx]; exact h.fin
  next hc hn := by
    rw [hnxt, hrx, hfin]
    rcases hs with hs | ⟨hc', hn', -⟩
    · rw [hs] at hc hn
      exact h.next hc hn
    · exact h.next hc' hn'
  start hn := by
    rcases hs with hs | ⟨-, -, hn'⟩
    · rw [hrx]
      exact h.start (hs ▸ hn)
    · exact absurd hn hn'

theorem kick (h : Receiver iss accepted closed returned s.tcp) :
    Receiver iss accepted closed returned (tcpKick env s now).1.tcp := by
  generalize hr : tcpKick env s now = r
  cases hr ▸ tcpKick_cases env s now with
  | blocked | waiting | empty => exact h
  | probe => exact h.frame rfl rfl rfl (.inl rfl)
  | failed => exact h.fail _
  | data _ _ _ _ _ _ s' he =>
    subst he
    exact h.frame rfl rfl rfl (.inl rfl)
  | fin hf hs ht hc s' he =>
    subst he
    refine h.frame rfl rfl rfl (.inr ?_)
    rcases hs with hs | hs <;> simp [startFlight, finState, hs]

theorem acknowledge (h : Receiver iss accepted closed returned s.tcp) (hc : s.tcp.state ≠ .closed)
    (hn : s.tcp.state ≠ .synSent) {ack : Word} :
    Receiver iss accepted closed returned (acknowledge env s ack now).1.tcp := by
  generalize hr : PulsarNetstack.acknowledge env s ack now = r
  cases hr ▸ acknowledge_cases env s ack now with
  | duplicate => exact h
  | advanced | completed => exact h.frame rfl rfl rfl (.inl rfl)
  | lastAck => exact h.fail _
  | timeWait | finWait2 => exact h.frame rfl rfl rfl (.inr ⟨hc, hn, by simp [tcpTimeWait]⟩)

theorem updateWindow (h : Receiver iss accepted closed returned c) :
    Receiver iss accepted closed returned (updateWindow c seg) := by
  unfold PulsarNetstack.updateWindow
  split
  · exact h.frame rfl rfl rfl (.inl rfl)
  · exact h

theorem position_eq (iss : Word) {p q : ℕ} (hp : p < 2147483648) (hq : q < 2147483648)
    (h : iss + 1 + BitVec.ofNat 32 p = iss + 1 + BitVec.ofNat 32 q) : p = q := by
  have h : BitVec.ofNat 32 p = BitVec.ofNat 32 q := by grind
  have := congrArg BitVec.toNat h
  simp only [BitVec.toNat_ofNat] at this
  omega

section

variable (h : Receiver iss accepted closed returned c) (hseg : SegOk iss accepted closed seg)
  (hlen : accepted.length < 2147483648) (hseq : seg.seq = c.rcvNxt) (hc : c.state ≠ .closed) (hn : c.state ≠ .synSent)

include h hseg hlen hseq hc hn in
theorem payload_continues (hfin : c.peerFin = false) (hp : seg.payload ≠ []) :
    (returned ++ c.rx) ++ seg.payload <+: accepted := by
  obtain ⟨p, hs, hd⟩ := hseg.data hp
  have hle := h.stream.length_le
  have hpl : p < accepted.length := by
    by_contra hlt
    rw [List.drop_eq_nil_of_le (by omega), List.prefix_nil] at hd
    exact hp hd
  have hnext := h.next hc hn
  rw [hfin, ← hseq, hs] at hnext
  obtain rfl : p = (returned ++ c.rx).length := by
    refine position_eq iss (by omega) (by omega) ?_
    simpa using hnext
  obtain ⟨rest, hrest⟩ := h.stream
  rw [← hrest] at hd ⊢
  rw [List.drop_left] at hd
  exact List.prefix_append_right_inj _ |>.mpr hd

include h hseg hlen hseq hc hn in
theorem receivePayload : Receiver iss accepted closed returned (receivePayload c seg) := by
  unfold PulsarNetstack.receivePayload
  split
  · rename_i hcond
    simp only [Bool.and_eq_true, Bool.not_eq_true', bne_iff_ne, ne_eq, List.length_eq_zero_iff] at hcond
    obtain ⟨hfin, hp⟩ := hcond
    have hcont := payload_continues h hseg hlen hseq hc hn hfin hp
    have htake : (seg.payload.take (receivedLength c seg)).length = receivedLength c seg := by
      rw [List.length_take]
      unfold receivedLength
      omega
    refine ⟨?_, fun hf => absurd hf (by simp [hfin]), fun _ _ => ?_, fun hs => absurd hs hn⟩
    · rw [← List.append_assoc]
      exact ((List.prefix_append_right_inj _).mpr (List.take_prefix _ _)).trans hcont
    · have hnext := h.next hc hn
      simp only [hfin, Bool.false_eq_true, ↓reduceIte] at hnext ⊢
      rw [← List.append_assoc, List.length_append, htake, hnext, BitVec.ofNat_add]
      grind
  · exact h

include h hseg hlen hseq hc hn in
theorem receiveFin : Receiver iss accepted closed returned (receiveFin env c seg now) := by
  unfold PulsarNetstack.receiveFin
  split
  · rename_i hcond
    simp only [Bool.and_eq_true, Bool.not_eq_true'] at hcond
    obtain ⟨⟨hfin, hflag⟩, -⟩ := hcond
    obtain ⟨hclosed, hend, -⟩ := hseg.fin hflag
    have hnext := h.next hc hn
    simp only [hfin, Bool.false_eq_true, ↓reduceIte] at hnext
    have hall : returned ++ c.rx = accepted := by
      have hle := h.stream.length_le
      refine h.stream.eq_of_length (position_eq iss (by omega) hlen ?_)
      rw [← hend, hseq, hnext]
      simp
    have hrecv : Receiver iss accepted closed returned { c with peerFin := true, rcvNxt := c.rcvNxt + 1 } :=
      ⟨h.stream, fun _ => ⟨hall, hclosed⟩, fun _ _ => by simp [hnext], fun hs => absurd hs hn⟩
    dsimp only
    split
    · exact hrecv.frame rfl rfl rfl (.inr ⟨hc, hn, by simp⟩)
    split
    · exact hrecv.frame rfl rfl rfl (.inr ⟨hc, hn, by simp [tcpTimeWait]⟩)
    · exact hrecv
  · exact h

include h hseg hlen hseq hc hn in
theorem receiveSegment : Receiver iss accepted closed returned (receiveSegment env c seg now) := by
  unfold PulsarNetstack.receiveSegment
  split
  · exact receivePayload h hseg hlen hseq hc hn
  · by_cases hp : seg.payload = []
    · have hsame : PulsarNetstack.receivePayload c seg = c := by simp [PulsarNetstack.receivePayload, hp]
      rw [hsame]
      exact receiveFin h hseg hlen hseq hc hn
    · have hno : flag seg.flags finFlag = false := by
        by_contra hf
        exact hp (hseg.fin (by simpa using hf)).2.2
      have hsame : PulsarNetstack.receiveFin env (PulsarNetstack.receivePayload c seg) seg now =
          PulsarNetstack.receivePayload c seg := by simp [PulsarNetstack.receiveFin, hno]
      rw [hsame]
      exact receivePayload h hseg hlen hseq hc hn

end

theorem updateWindow_rcvNxt (c : TcpConnection) (seg : Segment) :
    (PulsarNetstack.updateWindow c seg).rcvNxt = c.rcvNxt := by
  unfold PulsarNetstack.updateWindow
  split <;> rfl

theorem acknowledge_rcvNxt {ack : Word} {r : SocketEntry} (he : (PulsarNetstack.acknowledge env s ack now).1 = r)
    (hcl : r.tcp.state ≠ .closed) : r.tcp.rcvNxt = s.tcp.rcvNxt := by
  subst he
  generalize hres : PulsarNetstack.acknowledge env s ack now = r at hcl ⊢
  cases hres ▸ acknowledge_cases env s ack now with
  | duplicate | advanced | completed | timeWait | finWait2 => rfl
  | lastAck => exact absurd (by rw [tcpFail_tcp]) hcl

theorem inputAccepted (h : Receiver iss accepted closed returned s.tcp) (hseg : SegOk iss accepted closed seg)
    (hlen : accepted.length < 2147483648) (hseq : seg.seq = s.tcp.rcvNxt) (hno : ¬ Opening s.tcp.state) :
    Receiver iss accepted closed returned (tcpInputAccepted env s seg now).entry.tcp := by
  have ha : Receiver iss accepted closed returned (PulsarNetstack.acknowledge env s seg.ack now).1.tcp :=
    h.acknowledge (fun hs => hno (.inl hs)) (fun hs => hno (.inr (.inr (.inl hs))))
  rcases tcpInputAccepted_entry env s seg now _ rfl with ⟨-, he⟩ | ⟨-, hd, he⟩
  · rw [he]
    exact ha
  · rw [he]
    have hno' := acknowledge_not_opening hno rfl hd
    refine kick (receiveSegment ha.updateWindow hseg hlen ?_ ?_ ?_)
    · rw [updateWindow_rcvNxt, acknowledge_rcvNxt rfl hd, hseq]
    · rwa [updateWindow_state]
    · rw [updateWindow_state]
      exact fun hs => hno' (.inr (.inr (.inl hs)))

theorem input (h : Receiver iss accepted closed returned s.tcp) (hw : Owned s.isOpen s.tcp)
    (hseg : SegOk iss accepted closed seg) (hlen : accepted.length < 2147483648) (hc : s.tcp.state ≠ .closed)
    (hl : s.tcp.state ≠ .listen) (localAddr remoteAddr : SockAddr) :
    Receiver iss accepted closed returned (tcpInputConnection env s localAddr remoteAddr seg now).entry.tcp := by
  generalize hres : tcpInputConnection env s localAddr remoteAddr seg now = r
  cases hres ▸ tcpInputConnection_cases env s localAddr remoteAddr seg now with
  | keep => exact h
  | failed => exact h.fail _
  | established hs ha hf s' he =>
    subst he
    have hok := hw.stateOk
    rw [hs] at hok
    obtain ⟨hret, hrx⟩ := h.start hs
    refine ⟨h.stream, h.fin, fun _ _ => ?_, fun hs => absurd hs (by simp)⟩
    simp [hret, hrx, hok.1, hseg.syn hf]
  | timeWait hs => exact h.frame rfl rfl rfl (.inl hs.symm)
  | accepted hs hr ht hseq =>
    refine h.inputAccepted hseg hlen hseq ?_
    rintro (h | h | h | h)
    exacts [hc h, hl h, hs h, hr h]
  | opened hs hseq _ _ s₀ h₀ =>
    have h₀' : Receiver iss accepted closed returned s₀.tcp := by
      subst h₀
      exact h.frame rfl rfl rfl (.inr (by simp [hs]))
    refine h₀'.inputAccepted hseg hlen ?_ ?_
    · subst h₀
      exact hseq
    · subst h₀
      exact (by decide : ¬ Opening .established)

theorem tick (h : Receiver iss accepted closed returned s.tcp) :
    Receiver iss accepted closed returned (tcpTickEntry env s now).1.tcp := by
  generalize hr : tcpTickEntry env s now = r
  cases hr ▸ tcpTickEntry_cases env s now with
  | waiting => exact h
  | failed => exact h.fail _
  | resent | probed | cleared => exact h.frame rfl rfl rfl (.inl rfl)

theorem send (h : Receiver iss accepted closed returned s.tcp) (data : List Byte) :
    Receiver iss accepted closed returned (tcpSend env s data now).1.tcp := by
  generalize hr : tcpSend env s data now = r
  cases hr ▸ tcpSend_cases env s data now with
  | unchanged => exact h
  | queued hs he n hn s₁ h₁ =>
    subst h₁
    exact kick (h.frame rfl rfl rfl (.inl rfl))

theorem close (h : Receiver iss accepted closed returned s.tcp) :
    Receiver iss accepted closed returned (closeEntry env s now).1.tcp := by
  unfold closeEntry
  dsimp only
  split
  · exact h.fail _
  · have hcl : Receiver iss accepted closed returned { s.tcp with closing := true } := h.frame rfl rfl rfl (.inl rfl)
    exact kick (s := { s with isOpen := false, tcp := { s.tcp with closing := true } }) hcl

theorem recv (h : Receiver iss accepted closed returned s.tcp) (length : ℕ) :
    Receiver iss accepted closed (returned ++ returnedBytes (tcpRecv s length).2.2) (tcpRecv s length).1.tcp := by
  generalize hr : tcpRecv s length = r
  cases hr ▸ tcpRecv_cases s length with
  | refused | nothing =>
    dsimp only [returnedBytes]
    rwa [List.append_nil]
  | data hl hr n hn s' he =>
    subst he
    have hsame : (returned ++ s.tcp.rx.take n) ++ s.tcp.rx.drop n = returned ++ s.tcp.rx := by
      rw [List.append_assoc, List.take_append_drop]
    refine ⟨?_, ?_, ?_, fun hs => ?_⟩
    · change (returned ++ s.tcp.rx.take n) ++ s.tcp.rx.drop n <+: accepted
      rw [hsame]
      exact h.stream
    · change s.tcp.peerFin = true → (returned ++ s.tcp.rx.take n) ++ s.tcp.rx.drop n = accepted ∧ closed = true
      rw [hsame]
      exact h.fin
    · change s.tcp.state ≠ .closed → s.tcp.state ≠ .synSent → s.tcp.rcvNxt = iss + 1 + BitVec.ofNat 32
        ((returned ++ s.tcp.rx.take n) ++ s.tcp.rx.drop n).length + (if s.tcp.peerFin then 1 else 0)
      rw [hsame]
      exact h.next
    · obtain ⟨hret, hrx⟩ := h.start hs
      simp [returnedBytes, hret, hrx]

theorem peer (h : Receiver iss accepted closed returned c) {accepted' : List Byte} {closed' : Bool}
    (hacc : accepted <+: accepted') (hcl : closed = true → closed' = true ∧ accepted' = accepted) :
    Receiver iss accepted' closed' returned c where
  stream := h.stream.trans hacc
  fin hf := by
    obtain ⟨hall, hc⟩ := h.fin hf
    obtain ⟨hc', hsame⟩ := hcl hc
    exact ⟨hall.trans hsame.symm, hc'⟩
  next := h.next
  start := h.start

end Receiver

structure SideOk (x y : Side) : Prop where
  sender : Sender x.iss x.accepted x.closed x.entry
  segments : ∀ seg ∈ x.sent, SegOk x.iss x.accepted x.closed seg
  receiver : Receiver y.iss y.accepted y.closed x.returned x.entry.tcp

structure Grows (x x' : Side) : Prop where
  iss : x'.iss = x.iss
  accepted : x.accepted <+: x'.accepted
  closed : x.closed = true → x'.closed = true ∧ x'.accepted = x.accepted

namespace SideOk

variable {x x' y y' : Side}

theorem peer (h : SideOk x y) (hg : Grows y y') : SideOk x y' where
  sender := h.sender
  segments := h.segments
  receiver := hg.iss ▸ h.receiver.peer hg.accepted hg.closed

theorem callable_iff : x.callable = true ↔ x.entry.allocated = true ∧ x.entry.isOpen = true ∧ x.entry.type = .stream := by
  simp [Side.callable, and_assoc]

theorem connected_iff : x.connected = true ↔ x.entry.allocated = true ∧ x.entry.type = .stream ∧
    x.entry.tcp.state ≠ .closed ∧ x.entry.tcp.state ≠ .listen := by
  simp [Side.connected, connectionMatch, and_assoc]

theorem mem_sent {l : List Segment} {effects : List TcpEffect} {P : Segment → Prop} (hl : ∀ seg ∈ l, P seg)
    (he : ∀ seg ∈ emitted effects, P seg) : ∀ seg ∈ l ++ emitted effects, P seg := by
  intro seg h
  exact (List.mem_append.mp h).elim (hl seg) (he seg)

theorem send_sealed (h : SideOk x y) (hc : x.callable = true) (hcl : x.closed = true) (env : TcpEnv)
    (data : List Byte) (now : ℕ) : ∃ r, tcpSend env x.entry data now = (x.entry, [], r) ∧ acceptedBytes data r = [] := by
  obtain ⟨ha, ho, hk⟩ := callable_iff.mp hc
  have hw := h.sender.owned ha hk
  have hst : x.entry.tcp.state = .closed := by
    by_contra hne
    exact absurd (h.sender.sealed hcl hne) (by simp [(hw.held ho).1])
  generalize hres : tcpSend env x.entry data now = res
  cases hres ▸ tcpSend_cases env x.entry data now with
  | unchanged r hr => exact ⟨r, rfl, by rcases hr with rfl | ⟨e, rfl⟩ <;> rfl⟩
  | queued hs => rw [hst] at hs; exact absurd hs (by decide)

theorem step_accepted (x : Side) (e : SideEvent) : x.accepted <+: (x.step e).accepted := by
  cases e with
  | send env data now =>
    simp only [Side.step, Side.send]
    split
    · exact List.prefix_append _ _
    · exact List.prefix_rfl
  | recv length =>
    simp only [Side.step, Side.recv]
    split <;> exact List.prefix_rfl
  | close env now =>
    simp only [Side.step, Side.close]
    split <;> exact List.prefix_rfl
  | accept fd =>
    simp only [Side.step, Side.accept]
    split <;> exact List.prefix_rfl
  | tick env now => exact List.prefix_rfl
  | input env seg now =>
    simp only [Side.step, Side.input]
    split <;> exact List.prefix_rfl

theorem grows (h : SideOk x y) (e : SideEvent) : Grows x (x.step e) := by
  have hsame {x' : Side} (hi : x'.iss = x.iss) (ha : x'.accepted = x.accepted)
      (hc : x.closed = true → x'.closed = true) : Grows x x' :=
    ⟨hi, ha ▸ List.prefix_rfl, fun hcl => ⟨hc hcl, ha⟩⟩
  cases e with
  | send env data now =>
    simp only [Side.step, Side.send]
    split
    · rename_i hc
      refine ⟨rfl, List.prefix_append _ _, fun hcl => ⟨hcl, ?_⟩⟩
      obtain ⟨r, hr, hnone⟩ := h.send_sealed hc hcl env data now
      simp [hr, hnone]
    · exact hsame rfl rfl id
  | close env now =>
    simp only [Side.step, Side.close]
    split
    · exact hsame rfl rfl fun _ => rfl
    · exact hsame rfl rfl id
  | recv length =>
    simp only [Side.step, Side.recv]
    split <;> exact hsame rfl rfl id
  | accept fd =>
    simp only [Side.step, Side.accept]
    split <;> exact hsame rfl rfl id
  | tick env now => exact hsame rfl rfl id
  | input env seg now =>
    simp only [Side.step, Side.input]
    split <;> exact hsame rfl rfl id

theorem send (h : SideOk x y) (env : TcpEnv) (data : List Byte) (now : ℕ) : SideOk (x.send env data now) y := by
  unfold Side.send
  split
  · rename_i hc
    obtain ⟨ha, ho, hk⟩ := callable_iff.mp hc
    by_cases hcl : x.closed = true
    · obtain ⟨r, hr, hnone⟩ := h.send_sealed hc hcl env data now
      simpa [hr, hnone] using h
    · have hcl : x.closed = false := by simpa using hcl
      obtain ⟨hs, hseg, hr⟩ := h
      rw [hcl] at hs hseg
      obtain ⟨hs', he'⟩ := hs.send env now ha hk data
      refine ⟨by simpa only [hcl] using hs', ?_, hr.send data⟩
      dsimp only
      rw [hcl]
      exact mem_sent (fun seg hm => (hseg seg hm).append _) he'
  · exact h

theorem recv (h : SideOk x y) (length : ℕ) : SideOk (x.recv length) y := by
  unfold Side.recv
  split
  · rename_i hc
    obtain ⟨ha, ho, hk⟩ := callable_iff.mp hc
    obtain ⟨hs', he'⟩ := h.sender.recv ha hk length
    exact ⟨hs', mem_sent h.segments he', h.receiver.recv length⟩
  · exact h

theorem close (h : SideOk x y) (env : TcpEnv) (now : ℕ) : SideOk (x.close env now) y := by
  unfold Side.close
  split
  · rename_i hc
    obtain ⟨ha, ho, hk⟩ := callable_iff.mp hc.1
    obtain ⟨hs', he'⟩ := h.sender.close env now ha hk ho hc.2
    refine ⟨hs', mem_sent (fun seg hm => ?_) he', h.receiver.close⟩
    have hseg := h.segments seg hm
    by_cases hcl : x.closed = true
    · exact hcl ▸ hseg
    · rw [show x.closed = false by simpa using hcl] at hseg
      exact hseg.close
  · exact h

theorem accept (h : SideOk x y) (fd : ℕ) : SideOk (x.accept fd) y := by
  unfold Side.accept
  split
  · rename_i hc
    exact ⟨h.sender.accept hc.1 hc.2, h.segments, h.receiver.frame rfl rfl rfl (.inl rfl)⟩
  · exact h

theorem tick (h : SideOk x y) (env : TcpEnv) (now : ℕ) : SideOk (x.tick env now) y := by
  unfold Side.tick tickSlot
  split
  · rename_i hc
    obtain ⟨hs', he'⟩ := h.sender.tick env now hc.1 hc.2
    exact ⟨hs', mem_sent h.segments he', h.receiver.tick⟩
  · exact ⟨h.sender, mem_sent h.segments (by simp), h.receiver⟩

theorem input (h : SideOk x y) (env : TcpEnv) {seg : Segment} (hm : 0 < seg.mss)
    (hseg : SegOk y.iss y.accepted y.closed seg) (hlen : y.accepted.length < 2147483648) (now : ℕ) :
    SideOk (x.input env seg now) y := by
  unfold Side.input
  split
  · rename_i hc
    obtain ⟨ha, hk, hcl, hli⟩ := connected_iff.mp hc
    obtain ⟨hs', he'⟩ := h.sender.input env now ha hk hcl hli hm x.entry.localAddr x.entry.remoteAddr
    exact ⟨hs', mem_sent h.segments he', h.receiver.input (h.sender.owned ha hk) hseg hlen hcl hli _ _⟩
  · exact ⟨h.sender, mem_sent h.segments (EmitsOk.reset _ _ _ _ _ _), h.receiver⟩

theorem step (h : SideOk x y) (hy : ∀ seg ∈ y.sent, SegOk y.iss y.accepted y.closed seg)
    (hlen : y.accepted.length < 2147483648) {e : SideEvent} (he : e.Deliverable y.sent) : SideOk (x.step e) y := by
  cases e with
  | send env data now => exact h.send env data now
  | recv length => exact h.recv length
  | close env now => exact h.close env now
  | accept fd => exact h.accept fd
  | tick env now => exact h.tick env now
  | input env seg now =>
    obtain ⟨hm, g, hg, he⟩ := he
    have hs := hy g hg
    have hseg : SegOk y.iss y.accepted y.closed seg := by
      rw [he]
      exact ⟨hs.syn, hs.data, hs.fin⟩
    exact h.input env hm hseg hlen now

end SideOk

theorem connectSide_ok {s : SocketEntry} (hs : FreshSocket s) (env : TcpEnv) (addr : SockAddr)
    (source seed serverSeed : Word) (now : ℕ) :
    SideOk (connectSide env s addr source seed now) { iss := serverSeed } := by
  have hstep : EntryStep env now s (connectEntry env s addr source seed now) :=
    .connect hs.allocated hs.stream hs.isOpen hs.error (by rw [hs.tcp]) s.localAddr addr source seed
  have hb : Bookkeeping s.tcp := hs.tcp ▸ .empty
  have hw : OwnedEntry s := fun _ _ => by
    rw [hs.isOpen, hs.tcp]
    exact .empty
  have hsend : Sender seed [] false (connectEntry env s addr source seed now) := by
    refine ⟨hb.step hstep, Owned.step hb hw hstep, .opening (.inl rfl) rfl rfl ?_, ?_, fun h => absurd h (by decide)⟩
    · simp [connectEntry, startFlight, initializeConnection, hs.tcp]
    · simp [connectEntry, startFlight, initializeConnection, hs.tcp]
  refine ⟨hsend, EmitsOk.flight hsend hs.allocated hs.stream (by decide : synFlag ≠ 0), ?_⟩
  refine ⟨by simp [connectSide, connectEntry, startFlight, initializeConnection, hs.tcp], fun h => ?_, fun _ h => ?_,
    fun _ => ⟨rfl, ?_⟩⟩
  · simp [connectSide, connectEntry, startFlight, initializeConnection, hs.tcp] at h
  · exact absurd rfl h
  · simp [connectSide, connectEntry, startFlight, initializeConnection, hs.tcp]

structure Unopened (x : Side) : Prop where
  entry : x.entry = {}
  accepted : x.accepted = []
  returned : x.returned = []
  closed : x.closed = false

namespace Unopened

variable {x : Side}

theorem step (h : Unopened x) (e : SideEvent) : Unopened (x.step e) := by
  have hc : x.callable = false := by simp [Side.callable, h.entry]
  have hn : x.connected = false := by simp [Side.connected, connectionMatch, h.entry]
  have ha (fd : ℕ) : acceptable fd x.entry = false := by simp [acceptable, h.entry]
  cases e with
  | send env data now => simpa [Side.step, Side.send, hc] using h
  | recv length => simpa [Side.step, Side.recv, hc] using h
  | close env now => simpa [Side.step, Side.close, hc] using h
  | accept fd => simpa [Side.step, Side.accept, ha] using h
  | tick env now =>
    refine ⟨?_, h.accepted, h.returned, h.closed⟩
    simp [Side.step, Side.tick, tickSlot, h.entry]
  | input env seg now =>
    simp only [Side.step, Side.input, hn, Bool.false_eq_true, ↓reduceIte]
    exact ⟨h.entry, h.accepted, h.returned, h.closed⟩

theorem sideOk (iss : Word) (y : Side) : SideOk { iss := iss } y where
  sender := ⟨.empty, fun h => absurd h (by simp), .dead rfl, fun h => absurd h (by simp), fun h => absurd h (by simp)⟩
  segments _ h := absurd h (by simp)
  receiver := ⟨List.nil_prefix, fun h => absurd h (by simp), fun h => absurd rfl h, fun h => absurd h (by simp)⟩

theorem passiveOpen (h : Unopened x) {y : Side} (hx : SideOk x y) (env : TcpEnv) (fd : ℕ) (parent : SocketEntry)
    (localAddr remoteAddr : SockAddr) {seg : Segment} (hseq : seg.seq = y.iss) (hm : 0 < seg.mss) (now : ℕ) :
    SideOk (passiveSide env x fd parent localAddr remoteAddr seg now) y := by
  have hstep : EntryStep env now {} (childEntry env { fd := fd, allocated := true, isOpen := true, type := .stream }
      parent localAddr remoteAddr seg x.iss now) := .child rfl fd parent localAddr remoteAddr seg hm x.iss
  have hsend : Sender x.iss x.accepted x.closed (childEntry env
      { fd := fd, allocated := true, isOpen := true, type := .stream } parent localAddr remoteAddr seg x.iss now) := by
    refine ⟨Bookkeeping.empty.step hstep, Owned.step .empty (fun h => absurd h (by decide)) hstep,
      .opening (.inr rfl) h.accepted rfl rfl, fun h => absurd h (by simp [childEntry, startFlight, initializeConnection]),
      fun hc => absurd hc (by simp [h.closed])⟩
  refine ⟨hsend, SideOk.mem_sent hx.segments (EmitsOk.flight hsend rfl rfl (by decide : synFlag ||| ackFlag ≠ 0)), ?_⟩
  refine ⟨?_, fun h => absurd h (by simp [passiveSide, childEntry, startFlight, initializeConnection]), fun _ _ => ?_,
    fun h => absurd h (by simp [passiveSide, childEntry, startFlight])⟩
  · simp [passiveSide, childEntry, startFlight, initializeConnection, h.returned]
  · simp [passiveSide, childEntry, startFlight, initializeConnection, h.returned, hseq]

end Unopened

structure PairOk (p : Pair) : Prop where
  client : SideOk p.client p.server
  server : SideOk p.server p.client
  unopened : p.opened = false → Unopened p.server

theorem PairReachable.pairOk {p : Pair} (h : PairReachable p) (hc : p.client.accepted.length < 2147483648)
    (hs : p.server.accepted.length < 2147483648) : PairOk p := by
  induction h with
  | connect env hf addr source seed serverSeed now =>
    exact ⟨connectSide_ok hf env addr source seed serverSeed now, Unopened.sideOk serverSeed _,
      fun _ => ⟨rfl, rfl, rfl, rfl⟩⟩
  | step h e he ih =>
    cases e with
    | client e =>
      have hok := ih ((SideOk.step_accepted _ e).length_le.trans_lt hc) hs
      exact ⟨hok.client.step hok.server.segments hs he, hok.server.peer (hok.client.grows e), hok.unopened⟩
    | server e =>
      have hok := ih hc ((SideOk.step_accepted _ e).length_le.trans_lt hs)
      exact ⟨hok.client.peer (hok.server.grows e), hok.server.step hok.client.segments hc he,
        fun hn => (hok.unopened hn).step e⟩
    | passiveOpen env fd parent localAddr remoteAddr seg now =>
      obtain ⟨hn, ⟨hm, g, hg, hseg⟩, hf⟩ := he
      have hok := ih hc hs
      rw [hseg] at hf
      have hseq := (hok.client.segments g hg).syn hf.2.2
      rw [← show seg.seq = g.seq by rw [hseg]] at hseq
      exact ⟨hok.client.peer ⟨rfl, List.prefix_rfl, fun h => ⟨h, rfl⟩⟩,
        (hok.unopened hn).passiveOpen hok.server env fd parent localAddr remoteAddr hseq hm now,
        fun h => absurd h (by simp [Pair.step])⟩

theorem SideOk.safe {x y : Side} (h : SideOk x y) :
    x.returned <+: y.accepted ∧ ∀ length, length ≠ 0 → (tcpRecv x.entry length).2.2 = .ok [] →
      y.closed = true ∧ x.returned = y.accepted := by
  refine ⟨(List.prefix_append _ _).trans h.receiver.stream, fun length hl heof => ?_⟩
  have hrx := h.sender.bookkeeping.rx_length
  generalize hr : tcpRecv x.entry length = r at heof
  cases hr ▸ tcpRecv_cases x.entry length with
  | refused e => simp at heof
  | nothing hn =>
    obtain ⟨hzero, hfin⟩ := hn.resolve_left hl
    obtain ⟨hall, hcl⟩ := h.receiver.fin hfin
    rw [List.eq_nil_of_length_eq_zero (hrx.trans hzero), List.append_nil] at hall
    exact ⟨hcl, hall⟩
  | data _ hne n hn s' he =>
    have hlen := congrArg List.length (Except.ok.inj heof)
    rw [List.length_take, hrx] at hlen
    simp only [List.length_nil] at hlen
    omega

theorem stream_safety {p : Pair} (h : PairReachable p) (hc : p.client.accepted.length < 2 ^ 31)
    (hs : p.server.accepted.length < 2 ^ 31) :
    (p.server.returned <+: p.client.accepted ∧ ∀ length, length ≠ 0 →
        (tcpRecv p.server.entry length).2.2 = .ok [] → p.client.closed = true ∧ p.server.returned = p.client.accepted) ∧
      p.client.returned <+: p.server.accepted ∧ ∀ length, length ≠ 0 →
        (tcpRecv p.client.entry length).2.2 = .ok [] → p.server.closed = true ∧ p.client.returned = p.server.accepted := by
  have hok := h.pairOk hc hs
  exact ⟨hok.server.safe, hok.client.safe⟩

def clientSocket : SocketEntry :=
  { fd := 1, allocated := true, isOpen := true, type := .stream, localAddr := ⟨0x0100000a, 49152⟩ }

def startPair : Pair :=
  { client := connectSide steadyEnv clientSocket ⟨0x0200000a, 80⟩ 0x0100000a 100 1, server := { iss := 200 } }

theorem startPair_reachable : PairReachable startPair :=
  .connect steadyEnv ⟨rfl, rfl, rfl, rfl, rfl⟩ ⟨0x0200000a, 80⟩ 0x0100000a 100 200 1

def handshake : List PairEvent :=
  [.passiveOpen steadyEnv 2 { fd := 1 } ⟨0x0200000a, 80⟩ ⟨0x0100000a, 49152⟩ ⟨100, 0, synFlag, 8192, 1460, []⟩ 2,
    .client (.input steadyEnv ⟨200, 101, synFlag ||| ackFlag, 8192, 1460, []⟩ 3),
    .server (.input steadyEnv ⟨101, 201, ackFlag, 8192, 536, []⟩ 4),
    .server (.accept 1)]

def transfer : List PairEvent :=
  [.client (.send steadyEnv [1, 2, 3] 5),
    .client (.close steadyEnv 6),
    .server (.input steadyEnv ⟨101, 201, ackFlag ||| pshFlag, 8192, 536, [1, 2, 3]⟩ 7),
    .server (.recv 2),
    .client (.input steadyEnv ⟨201, 104, ackFlag, 8189, 536, []⟩ 8),
    .server (.input steadyEnv ⟨104, 201, finFlag ||| ackFlag, 8192, 536, []⟩ 9),
    .server (.recv 2)]

theorem transfer_safety :
    (startPair.run (handshake ++ transfer)).server.returned = [1, 2, 3] ∧
      (tcpRecv (startPair.run (handshake ++ transfer)).server.entry 5).2.2 = .ok [] ∧
      (startPair.run (handshake ++ transfer)).server.returned =
        (startPair.run (handshake ++ transfer)).client.accepted := by
  have h := startPair_reachable.run (show PairRun startPair (handshake ++ transfer) by decide)
  exact ⟨by decide, rfl, ((stream_safety h (by decide) (by decide)).1.2 5 (by decide) rfl).2⟩

end PulsarNetstack
