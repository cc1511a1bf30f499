import PulsarNetstack.ArpPacing
import PulsarNetstack.DaemonControl
import PulsarNetstack.TcpLiveness
import PulsarNetstack.TcpStream

namespace PulsarNetstack

open Program

variable {env : TcpEnv} {s s' s'' : SocketEntry} {t t' : SocketTable} {seg : Segment} {now i : ℕ} {fuel : ℕ} {rt rt' : Runtime}

def Lingers (s s' : SocketEntry) : Prop :=
  s'.allocated = true → s'.isOpen = false → s.allocated = true ∧ s.isOpen = false ∧ s'.type = s.type ∧
    s'.tcp.closing = s.tcp.closing ∧ s'.tcp.parent = s.tcp.parent

namespace Lingers

theorem of_connection {c : TcpConnection} (hclosing : c.closing = s.tcp.closing) (hparent : c.parent = s.tcp.parent) :
    Lingers s { s with tcp := c } :=
  fun ha ho => ⟨ha, ho, rfl, hclosing, hparent⟩

theorem refl (s : SocketEntry) : Lingers s s := of_connection rfl rfl

theorem trans (h : Lingers s s') (h' : Lingers s' s'') : Lingers s s'' := by
  intro ha ho
  obtain ⟨ha', ho', htype', hclosing', hparent'⟩ := h' ha ho
  obtain ⟨ha, ho, htype, hclosing, hparent⟩ := h ha' ho'
  exact ⟨ha, ho, htype'.trans htype, hclosing'.trans hclosing, hparent'.trans hparent⟩

theorem failed (s : SocketEntry) (e : Option Errno) : Lingers s (tcpFail s e).1 := by
  rw [tcpFail_entry]
  split
  · rename_i hopen
    intro _ ho
    rw [show s.isOpen = false from ho] at hopen
    cases hopen
  · exact nofun

theorem kick (env : TcpEnv) (s : SocketEntry) (now : ℕ) : Lingers s (tcpKick env s now).1 := by
  generalize hr : tcpKick env s now = r
  cases hr ▸ tcpKick_cases env s now with
  | blocked | waiting | empty => exact refl s
  | probe => exact of_connection rfl rfl
  | failed => exact failed s _
  | data hf hs hw ht mtu hm s' he =>
    subst he
    exact of_connection rfl rfl
  | fin hf hs ht hc s' he =>
    subst he
    exact of_connection rfl rfl

theorem acknowledge (env : TcpEnv) (s : SocketEntry) (ack : Word) (now : ℕ) : Lingers s (acknowledge env s ack now).1 := by
  generalize hr : PulsarNetstack.acknowledge env s ack now = r
  cases hr ▸ acknowledge_cases env s ack now with
  | duplicate => exact refl s
  | advanced | completed | timeWait | finWait2 => exact of_connection rfl rfl
  | lastAck => exact (of_connection (c := ackComplete s.tcp ack now) rfl rfl).trans (failed _ _)

theorem inputAccepted (env : TcpEnv) (s : SocketEntry) (seg : Segment) (now : ℕ) :
    Lingers s (tcpInputAccepted env s seg now).entry := by
  have hack := acknowledge env s seg.ack now
  rcases tcpInputAccepted_entry env s seg now _ rfl with ⟨-, he⟩ | ⟨-, -, he⟩
  · rw [he]
    exact hack
  · rw [he]
    refine hack.trans (.trans (of_connection ?_ ?_) (kick _ _ _))
    · rw [Sender.receiveSegment_closing, Sender.updateWindow_closing]
    · exact Processed.receiveSegment_parent _ _ _ _

theorem input (env : TcpEnv) (s : SocketEntry) (localAddr remoteAddr : SockAddr) (seg : Segment) (now : ℕ) :
    Lingers s (tcpInputConnection env s localAddr remoteAddr seg now).entry := by
  generalize hr : tcpInputConnection env s localAddr remoteAddr seg now = r
  cases hr ▸ tcpInputConnection_cases env s localAddr remoteAddr seg now with
  | keep => exact refl s
  | failed e => exact failed s _
  | established hs ha hf s' he =>
    subst he
    exact of_connection rfl rfl
  | timeWait => exact of_connection rfl rfl
  | accepted => exact inputAccepted env s seg now
  | opened hs hseq hack hroom s₀ h₀ =>
    have hopened : Lingers s s₀ := by
      rw [h₀]
      exact of_connection rfl rfl
    exact hopened.trans (inputAccepted env s₀ seg now)

theorem tick (env : TcpEnv) (s : SocketEntry) (now : ℕ) : Lingers s (tcpTickEntry env s now).1 := by
  generalize hr : tcpTickEntry env s now = r
  cases hr ▸ tcpTickEntry_cases env s now with
  | waiting => exact refl s
  | failed => exact failed s _
  | resent | probed | cleared => exact of_connection rfl rfl

end Lingers

structure Attached (s : SocketEntry) : Prop where
  free : s.allocated = false → s = {}
  linger : s.allocated = true → s.isOpen = false → s.type = .stream ∧ (s.tcp.closing = true ∨ s.tcp.parent ≠ 0)

theorem Lingers.linger (h : Lingers s s') (hs : Attached s) (ha : s'.allocated = true) (ho : s'.isOpen = false) :
    s'.type = .stream ∧ (s'.tcp.closing = true ∨ s'.tcp.parent ≠ 0) := by
  obtain ⟨ha, ho, htype, hclosing, hparent⟩ := h ha ho
  rw [htype, hclosing, hparent]
  exact hs.linger ha ho

theorem closeEntry_lingers (env : TcpEnv) (s : SocketEntry) (now : ℕ) (ha : (closeEntry env s now).1.allocated = true) :
    (closeEntry env s now).1.isOpen = false ∧ (closeEntry env s now).1.type = s.type ∧
      (closeEntry env s now).1.tcp.closing = true := by
  unfold closeEntry at ha ⊢
  dsimp only at ha ⊢
  split at ha
  · cases ha
  · rename_i hstate
    rw [if_neg hstate]
    have hkick := Lingers.kick env { s with isOpen := false, tcp := { s.tcp with closing := true } } now
    have hopen : (tcpKick env { s with isOpen := false, tcp := { s.tcp with closing := true } } now).1.isOpen = false := by
      have hprocessed := Processed.kick env { s with isOpen := false, tcp := { s.tcp with closing := true } } now
      cases hprocessed with
      | freed entry => rw [entry]
      | kept _ _ isOpen => exact isOpen
    obtain ⟨-, -, htype, hclosing, -⟩ := hkick ha hopen
    exact ⟨hopen, htype, hclosing⟩

theorem EntryStep.linger (hstep : EntryStep env now s s') (h : Attached s) (hnew : s.allocated = false → s'.allocated = true →
      s'.isOpen = false → s'.type = .stream ∧ s'.tcp.parent ≠ 0) (ha : s'.allocated = true) (ho : s'.isOpen = false) :
    s'.type = .stream ∧ (s'.tcp.closing = true ∨ s'.tcp.parent ≠ 0) := by
  -- A step of an open entry that keeps it open says nothing here.
  have hheld (hs : s.isOpen = true) (hs' : Processed s s') :
      s'.type = .stream ∧ (s'.tcp.closing = true ∨ s'.tcp.parent ≠ 0) := by
    cases hs' with
    | freed entry => rw [entry] at ha; cases ha
    | kept _ _ isOpen => rw [isOpen, hs] at ho; cases ho
  cases hstep with
  | frame ht ho' ha' hk =>
    rw [ht, hk]
    exact h.linger (ha'.symm.trans ha) (ho'.symm.trans ho)
  | clear => cases ha
  | allocate => cases ho
  | connect _ _ hopen =>
    change s.isOpen = false at ho
    rw [hopen] at ho
    cases ho
  | listen _ _ hopen backlog =>
    have hsame : (tcpListen s backlog).1.isOpen = s.isOpen := by
      unfold tcpListen
      split
      · rfl
      split <;> rfl
    rw [hsame, hopen] at ho
    cases ho
  | accept => cases ho
  | send _ _ hopen data => exact hheld hopen (.send env s data now)
  | recv _ _ hopen length => exact hheld hopen (.recv s length)
  | close _ hk hopen =>
    obtain ⟨-, htype, hclosing⟩ := closeEntry_lingers env s now ha
    exact ⟨htype.trans hk, .inl hclosing⟩
  | fail e => exact (Lingers.failed s (some e)).linger h ha ho
  | input hk ha' hc hl localAddr remoteAddr seg => exact (Lingers.input env s localAddr remoteAddr seg now).linger h ha ho
  | child hfree =>
    obtain ⟨htype, hparent⟩ := hnew hfree ha ho
    exact ⟨htype, .inr hparent⟩
  | tick => exact (Lingers.tick env s now).linger h ha ho

theorem Evolves.fresh {event : SocketEvent} (h : Evolves env t i s event s') (hlineage : Lineage t) (hfree : s.allocated = false)
    (ha : s'.allocated = true) (ho : s'.isOpen = false) : s'.type = .stream ∧ s'.tcp.parent ≠ 0 := by
  rcases h.allocated_fd ha with ⟨ha', -⟩ | ⟨hopens, -⟩
  · rw [hfree] at ha'
    cases ha'
  cases h with
  | same =>
    rw [hfree] at ha
    cases ha
  | created => cases ho
  | called fd names =>
    cases event <;> cases hopens <;> cases names
  | received srcIp dstIp hdr payload seed now connection step =>
    obtain ⟨ha', -⟩ := step.allocated_fd ha
    rw [hfree] at ha'
    cases ha'
  | opened srcIp dstIp hdr payload seed now seg free generation parent mem listens =>
    obtain ⟨j, hj⟩ := List.mem_iff_getElem?.mp mem
    have hpos := (hlineage.slots hj (listenerMatch_iff.mp listens).1).1
    exact ⟨rfl, Nat.pos_iff_ne_zero.mp hpos⟩
  | assigned | accepted | orphaned | delivered | ticked => cases hopens

theorem Processed.free (h : Processed s s') (ha : s.allocated = true) (hfree : s'.allocated = false) : s' = {} := by
  cases h with
  | freed entry => exact entry
  | kept _ allocated =>
    rw [allocated, ha] at hfree
    cases hfree

theorem Called.free {event : SocketEvent} (h : Called env s event s') (ha : s.allocated = true) (hfree : s'.allocated = false) :
    s' = {} := by
  cases h with
  | bound | connected | udp =>
    change s.allocated = false at hfree
    rw [ha] at hfree
    cases hfree
  | listening fd backlog bound =>
    have hsame : (tcpListen s bound).1.allocated = s.allocated := by
      unfold tcpListen
      split
      · rfl
      split <;> rfl
    rw [hsame, ha] at hfree
    cases hfree
  | processed step => exact step.free ha hfree
  | closing fd now state step => exact step.free ha hfree
  | cleared => rfl

theorem Evolves.free {event : SocketEvent} (h : Evolves env t i s event s') (hevent : ∀ now, event ≠ .tick now)
    (hs : s.allocated = false → s = {}) (hfree : s'.allocated = false) : s' = {} := by
  have hused (ha : s.allocated = true) (hsame : s'.allocated = s.allocated) : s' = {} := by
    rw [hsame, ha] at hfree
    cases hfree
  cases h with
  | same => exact hs hfree
  | created | opened => cases hfree
  | assigned fd owner lookup => exact hused (socketLookup_some lookup).2.1 rfl
  | called fd names get step => exact step.free (getSocket_some get).2.1 hfree
  | accepted fd slot parent get listen ready =>
    simp only [acceptable, Bool.and_eq_true] at ready
    exact hused ready.1.1.1 rfl
  | orphaned fd now slot parent get listen other child =>
    simp only [childOf, Bool.and_eq_true] at child
    rw [tcpFail_entry] at hfree ⊢
    split
    · rename_i hopen
      rw [if_pos hopen] at hfree
      change s.allocated = false at hfree
      rw [child.1.1] at hfree
      cases hfree
    · rfl
  | delivered localIp port source payload ep bound => exact hused (boundMatch_iff.mp bound).1 rfl
  | received srcIp dstIp hdr payload seed now connection step => exact step.free (connectionMatch_iff.mp connection).1 hfree
  | ticked now => exact absurd rfl (hevent now)

theorem tickSlot_free (hd : Dormant s) (hs : s.allocated = false → s = {}) (hfree : (tickSlot env now s).1.allocated = false) :
    (tickSlot env now s).1 = {} := by
  unfold tickSlot at hfree ⊢
  split
  · rename_i hstream
    rw [if_pos hstream] at hfree
    exact (Processed.tick hd).free hstream.1 hfree
  · rename_i hother
    rw [if_neg hother] at hfree
    exact hs hfree

theorem Reachable.attached (ht : Reachable (fun _ t event => OwnerFresh t event) t) : ∀ s ∈ t.entries, Attached s := by
  induction ht with
  | init capacity =>
    intro s hs
    rw [List.eq_of_mem_replicate hs]
    exact ⟨fun _ => rfl, nofun⟩
  | @step t env event ht hfresh ih =>
    intro s' hs'
    obtain ⟨i, hi⟩ := List.mem_iff_getElem?.mp hs'
    obtain ⟨s, hs, hevolves⟩ := (ht.evolves env event).entry hi
    have hattached := ih s (List.mem_of_getElem? hs)
    have hstep : EntryStep env event.time s s' := by
      obtain ⟨hlt, hget⟩ := List.getElem?_eq_some_iff.mp hs
      obtain ⟨hlt', hget'⟩ := List.getElem?_eq_some_iff.mp hi
      rw [← hget, ← hget']
      exact (socketStep_tableStep env t event).get hlt hlt'
    constructor
    · intro hfree
      by_cases htick : ∃ now, event = .tick now
      · obtain ⟨now, rfl⟩ := htick
        change ((t.entries.map (tickSlot env now)).map Prod.fst)[i]? = some s' at hi
        rw [List.getElem?_map, List.getElem?_map, hs] at hi
        obtain rfl := Option.some.inj hi
        exact tickSlot_free (ht.dormant s (List.mem_of_getElem? hs)) hattached.free hfree
      · exact hevolves.free (fun now he => htick ⟨now, he⟩) hattached.free hfree
    · exact hstep.linger hattached fun hfree => hevolves.fresh ht.lineage hfree

structure Spared (owner : ℕ) (t t' : SocketTable) : Prop where
  length : t'.entries.length = t.entries.length
  entry {j : ℕ} {e : SocketEntry} : t.entries[j]? = some e →
    ∃ e', t'.entries[j]? = some e' ∧ (e' = e ∨ e.owner = owner ∧ e'.isOpen = false)

namespace Spared

variable {owner : ℕ}

theorem refl (owner : ℕ) (t : SocketTable) : Spared owner t t := ⟨rfl, fun hs => ⟨_, hs, .inl rfl⟩⟩

theorem trans {t'' : SocketTable} (h : Spared owner t t') (h' : Spared owner t' t'') : Spared owner t t'' := by
  refine ⟨h'.length.trans h.length, fun hs => ?_⟩
  obtain ⟨e', he', hsame⟩ := h.entry hs
  obtain ⟨e'', he'', hsame'⟩ := h'.entry he'
  refine ⟨e'', he'', ?_⟩
  rcases hsame with rfl | ⟨howner, hopen⟩
  · exact hsame'
  · rcases hsame' with rfl | ⟨-, hopen'⟩
    · exact .inr ⟨howner, hopen⟩
    · exact .inr ⟨howner, hopen'⟩

theorem of_set (hs : t.entries[i]? = some s) (hopen : s'.isOpen = false) (he : t'.entries = t.entries.set i s') :
    Spared s.owner t t' := by
  refine ⟨by rw [he, List.length_set], fun {j e} hj => ?_⟩
  rw [he]
  by_cases hji : j = i
  · subst hji
    obtain rfl := Option.some.inj (hs.symm.trans hj)
    exact ⟨s', List.getElem?_set_self (List.getElem?_eq_some_iff.mp hs).1, .inr ⟨rfl, hopen⟩⟩
  · exact ⟨e, by rw [List.getElem?_set_ne (Ne.symm hji), hj], .inl rfl⟩

end Spared

theorem Lineage.getSocket (h : Lineage t) (hs : t.entries[i]? = some s) (ha : s.allocated = true) (ho : s.isOpen = true) :
    getSocket t s.fd = some (i, s) := by
  obtain ⟨hpos, hslot⟩ := h.slots hs ha
  have hlookup : socketLookup t s.fd = some (i, s) := by
    unfold socketLookup
    rw [if_neg (by omega), Int.toNat_natCast]
    dsimp only
    rw [hslot, hs]
    exact if_pos ⟨ha, rfl⟩
  rw [PulsarNetstack.getSocket, hlookup]
  exact Option.filter_some_pos ho

theorem Lineage.child_owner (h : Lineage t) (hs : t.entries[i]? = some s) (ha : s.allocated = true) {e : SocketEntry}
    (he : e ∈ t.entries) (hchild : childOf s.fd e = true) : e.owner = s.owner := by
  simp only [childOf, Bool.and_eq_true, beq_iff_eq] at hchild
  obtain ⟨⟨hallocated, -⟩, hparent⟩ := hchild
  obtain ⟨hpos, hslot⟩ := h.slots hs ha
  obtain ⟨-, parent, hmem, hlistens, hfd, howner⟩ := h.child he hallocated (by omega)
  obtain ⟨j, hj⟩ := List.mem_iff_getElem?.mp hmem
  have hji : j = i := by rw [← (h.slots hj hlistens.allocated).2, ← hslot, hfd, hparent]
  subst hji
  obtain rfl := Option.some.inj (hj.symm.trans hs)
  exact howner.symm

theorem coreClose_spares (h : Lineage t) (hown : ∀ s ∈ t.entries, OwnedEntry s) (hs : t.entries[i]? = some s)
    (ha : s.allocated = true) (ho : s.isOpen = true) (env : TcpEnv) (now : ℕ) :
    Spared s.owner t (coreClose env t s.fd now).1 ∧
      ∀ e, (coreClose env t s.fd now).1.entries[i]? = some e → e.isOpen = false := by
  have hlt := (List.getElem?_eq_some_iff.mp hs).1
  have hget := h.getSocket hs ha ho
  by_cases hstream : s.type = .stream
  · by_cases hlisten : s.tcp.state = .listen
    · have hentries : (coreClose env t s.fd now).1.entries =
          (t.entries.map fun child => (closeChild s.fd child).1).set i {} :=
        coreClose_listener hget ⟨ha, ho, hstream, hlisten⟩
      constructor
      · refine ⟨by rw [hentries, List.length_set, List.length_map], fun {j e} hj => ?_⟩
        rw [hentries]
        by_cases hji : j = i
        · subst hji
          obtain rfl := Option.some.inj (hs.symm.trans hj)
          exact ⟨{}, List.getElem?_set_self (by rwa [List.length_map]), .inr ⟨rfl, rfl⟩⟩
        · refine ⟨(closeChild s.fd e).1, ?_, ?_⟩
          · rw [List.getElem?_set_ne (Ne.symm hji), List.getElem?_map, hj]
            rfl
          · unfold closeChild
            split
            · rename_i hchild
              have hmem := List.mem_of_getElem? hj
              have howner := h.child_owner hs ha hmem hchild
              simp only [childOf, Bool.and_eq_true, beq_iff_eq] at hchild
              have hpos := (h.slots hs ha).1
              have hclosed := ((hown e hmem hchild.1.1 hchild.1.2).child_state (by omega)).1
              dsimp only
              rw [tcpFail_entry, hclosed]
              exact .inr ⟨howner, rfl⟩
            · exact .inl rfl
      · intro e he
        rw [hentries, List.getElem?_set_self (by rwa [List.length_map])] at he
        rw [← Option.some.inj he]
    · have hentries : (coreClose env t s.fd now).1.entries = t.entries.set i (closeEntry env s now).1 := by
        unfold coreClose
        rw [hget]
        dsimp only
        rw [if_pos hstream]
        unfold tcpClose
        rw [if_neg hlisten]
        rfl
      have hopen : (closeEntry env s now).1.isOpen = false := by
        have hprocessed : Processed { s with isOpen := false } (closeEntry env s now).1 := .close hlisten
        cases hprocessed with
        | freed entry => rw [entry]
        | kept _ _ isOpen => exact isOpen
      refine ⟨.of_set hs hopen hentries, fun e he => ?_⟩
      rw [hentries, List.getElem?_set_self hlt] at he
      rw [← Option.some.inj he]
      exact hopen
  · have hentries : (coreClose env t s.fd now).1.entries = t.entries.set i {} := by
      unfold coreClose
      rw [hget]
      dsimp only
      rw [if_neg hstream]
      rfl
    refine ⟨.of_set hs rfl hentries, fun e he => ?_⟩
    rw [hentries, List.getElem?_set_self hlt] at he
    rw [← Option.some.inj he]

section Runs

variable {owner : ℕ} {C : ℕ → ℕ → Prop}

abbrev ReachableAt (C : ℕ → ℕ → Prop) (t : SocketTable) : Prop :=
  Reachable (fun env t event => OwnerFresh t event ∧ C env.hz event.time) t

theorem Reachable.weaken {p q : TcpEnv → SocketTable → SocketEvent → Prop} (hpq : ∀ env t event, p env t event → q env t event)
    (h : Reachable p t) : Reachable q t := by
  induction h with
  | init capacity h => exact .init capacity h
  | step env event _ he ih => exact ih.step env event (hpq env _ event he)

theorem Reachable.fresh (h : ReachableAt C t) : Reachable (fun _ t event => OwnerFresh t event) t :=
  h.weaken fun _ _ _ he => he.1

structure CleanupScan (C : ℕ → ℕ → Prop) (owner : ℕ) (t₀ : SocketTable) (done : List ℕ) (t : SocketTable) : Prop where
  reachable : ReachableAt C t
  spared : Spared owner t₀ t
  closed : ∀ j ∈ done, ∀ e, t.entries[j]? = some e → e.owner = owner → e.isOpen = false

theorem CleanupScan.pass {t₀ : SocketTable} {done : List ℕ} (h : CleanupScan C owner t₀ done t)
    (hclosed : ∀ e, t.entries[i]? = some e → e.owner = owner → e.isOpen = false) :
    CleanupScan C owner t₀ (done ++ [i]) t := by
  refine ⟨h.reachable, h.spared, fun j hj => ?_⟩
  rcases List.mem_append.mp hj with hj | hj
  · exact h.closed j hj
  · rw [List.mem_singleton.mp hj]
    exact hclosed

theorem CleanupScan.close {t₀ : SocketTable} {done : List ℕ} (h : CleanupScan C s.owner t₀ done t) (hs : t.entries[i]? = some s)
    (ha : s.allocated = true) (ho : s.isOpen = true) (hclock : C env.hz now) :
    CleanupScan C s.owner t₀ (done ++ [i]) (coreClose env t s.fd now).1 := by
  have ht := h.reachable.fresh
  obtain ⟨hspared, hopen⟩ := coreClose_spares ht.lineage (fun s hs => (ht.owned s hs).2) hs ha ho env now
  refine CleanupScan.pass ⟨?_, h.spared.trans hspared, fun j hj e he howner => ?_⟩ fun e he _ => hopen e he
  · exact h.reachable.step env (.close s.fd now) ⟨trivial, hclock⟩
  · obtain ⟨hlt, -⟩ := List.getElem?_eq_some_iff.mp he
    rw [hspared.length] at hlt
    obtain ⟨e', he', hsame⟩ := hspared.entry (List.getElem?_eq_getElem hlt)
    obtain rfl := Option.some.inj (he.symm.trans he')
    rcases hsame with rfl | ⟨-, hclosed⟩
    · exact h.closed j hj _ (List.getElem?_eq_getElem hlt) howner
    · exact hclosed

theorem safe_forM_done {σ ι : Type} {f : ι → Program σ PUnit} {A : List ι → σ → Prop} (l : List ι)
    (h : ∀ done i, Safe (A done) (f i) fun _ => A (done ++ [i])) : Safe (A []) (l.forM f) fun _ => A l := by
  suffices hall : ∀ done, Safe (A done) (l.forM f) fun _ => A (done ++ l) from hall []
  induction l with
  | nil =>
    intro done
    refine Safe.pure fun s hs => ?_
    rwa [List.append_nil]
  | cons i l ih =>
    intro done
    refine Safe.bind (h done i) fun _ => (ih (done ++ [i])).conseq (fun _ hs => hs) fun _ s hs => ?_
    rwa [List.append_assoc] at hs

theorem runClose_exact (hidle : IdleGraph rt) {fd : ℤ} {reply : CallReply}
    (hrun : runCall (graphSubmit fuel) (.close fd) rt = some (reply, rt')) :
    IdleGraph rt' ∧ rt'.world = rt.world ∧
      rt'.sockets = (coreClose (rt.view.tcpEnv false) rt.sockets fd (rt.world.time rt.calls)).1 := by
  have hsteady : SteadyQueues (fun _ _ _ => False) fun s => s.world = rt.world := world_steady _ _
  obtain ⟨hidle', hworld⟩ := (hsteady.resting.runCall hsteady.anyGraph _).post rt reply rt' ⟨hidle, rfl⟩ hrun
  refine ⟨hidle', hworld, ?_⟩
  let closed := coreClose (rt.view.tcpEnv false) rt.sockets fd (rt.world.time rt.calls)
  have henv : ({ rt with calls := rt.calls + 1 } : Runtime).tcpEnv = rt.view.tcpEnv false := by
    unfold Runtime.tcpEnv View.tcpEnv
    dsimp only
    rw [hidle.active]
    rfl
  have hclose : Safe (fun s => s = rt) (runCall (graphSubmit fuel) (.close fd)) fun _ =>
      Still fun v => v.sockets = closed.1 := by
    unfold runCall tableCall
    apply Safe.bind (Q := fun now s => now = rt.world.time rt.calls ∧ s = { rt with calls := rt.calls + 1 })
    · refine ⟨fun s now s' hs hread => ?_⟩
      subst hs
      obtain ⟨rfl, rfl⟩ := Prod.mk.inj (Option.some.inj hread)
      exact ⟨rfl, rfl⟩
    intro now
    apply Safe.get_bind
    rintro _ ⟨rfl, rfl⟩
    rw [henv]
    apply Safe.bind (Q := fun _ => Still fun v => v.sockets = closed.1)
    · exact Safe.set fun _ _ => ⟨⟨hidle.queue, hidle.slots, hidle.active⟩, rfl⟩
    · exact fun _ => Safe.bind (Safe.forM fun e _ => Still.hosts.tcpEffect e) fun _ => Safe.pure fun _ h => h
  exact (hclose.post rt reply rt' rfl hrun).2

theorem cleanupSlot_scans {w : World} (howner : owner ≠ 0) (hclock : ∀ n, C w.hz (w.time n)) (t₀ : SocketTable) (done : List ℕ)
    (i : ℕ) :
    Safe (fun rt => IdleGraph rt ∧ rt.world = w ∧ CleanupScan C owner t₀ done rt.sockets) (cleanupSlot (graphSubmit fuel) owner i)
      fun _ rt => IdleGraph rt ∧ rt.world = w ∧ CleanupScan C owner t₀ (done ++ [i]) rt.sockets := by
  apply Safe.get_bind
  rintro rt ⟨hidle, hworld, hscan⟩
  dsimp only
  split
  · rename_i hheld
    obtain ⟨ha, ho, rfl⟩ := hheld
    refine ⟨fun s a rt' hs hrun => ?_⟩
    subst hs
    obtain ⟨⟨reply, rt₁⟩, hcall, hend⟩ := Option.bind_eq_some_iff.mp hrun
    obtain ⟨-, rfl⟩ := Prod.mk.inj (Option.some.inj hend)
    obtain ⟨hidle', hworld', hsockets⟩ := runClose_exact hidle hcall
    have hs : s.sockets.entries[i]? = some (s.sockets.entries.getD i {}) := by
      cases he : s.sockets.entries[i]? with
      | none =>
        rw [List.getD_eq_getElem?_getD, he] at ha
        cases ha
      | some e => rw [List.getD_eq_getElem?_getD, he]; rfl
    refine ⟨hidle', hworld'.trans hworld, ?_⟩
    have hz : (s.view.tcpEnv false).hz = w.hz := congrArg World.hz hworld
    rw [hsockets, hworld]
    exact hscan.close hs ha ho (hz ▸ hclock _)
  · rename_i hother
    refine Safe.pure fun s hs => ?_
    subst hs
    refine ⟨hidle, hworld, hscan.pass fun e he heowner => ?_⟩
    have hfree := (hscan.reachable.fresh.attached e (List.mem_of_getElem? he)).free
    rw [List.getD_eq_getElem?_getD, he] at hother
    by_contra hopen
    refine hother ⟨?_, by simpa using hopen, heowner⟩
    by_contra ha
    rw [hfree (by simpa using ha)] at heowner
    exact howner heowner.symm

theorem cleanup_scans {w : World} (howner : owner ≠ 0) (hclock : ∀ n, C w.hz (w.time n)) (t₀ : SocketTable)
    (hreachable : ReachableAt C t₀) :
    Safe (fun rt => IdleGraph rt ∧ rt.world = w ∧ rt.sockets = t₀) (cleanup (graphSubmit fuel) owner)
      fun _ rt => CleanupScan C owner t₀ (List.range t₀.entries.length) rt.sockets := by
  apply Safe.get_bind
  rintro rt ⟨hidle, hworld, rfl⟩
  refine (safe_forM_done _ (cleanupSlot_scans howner hclock rt.sockets)).conseq ?_ fun _ _ h => h.2.2
  rintro _ rfl
  exact ⟨hidle, hworld, hreachable, .refl owner _, nofun⟩

structure CleanedUp (owner : ℕ) (t t' : SocketTable) : Prop where
  owned : ∀ e ∈ t'.entries, e.owner = owner → e.allocated = true ∧ e.isOpen = false ∧ e.type = .stream ∧
    e.tcp.closing = true ∧ e.tcp.parent = 0 ∧ e.tcp.state ≠ .listen ∧ e.tcp.state ≠ .synSent
  free : ∀ e ∈ t'.entries, e.allocated = false → e = {}
  length : t'.entries.length = t.entries.length
  others : ∀ (j : ℕ) (e : SocketEntry), t.entries[j]? = some e → e.owner ≠ owner → t'.entries[j]? = some e

theorem CleanupScan.cleanedUp {t₀ : SocketTable} (howner : owner ≠ 0)
    (h : CleanupScan C owner t₀ (List.range t₀.entries.length) t) : CleanedUp owner t₀ t := by
  have ht := h.reachable.fresh
  have hclosed : ∀ e ∈ t.entries, e.owner = owner → e.isOpen = false := by
    intro e he
    obtain ⟨j, hj⟩ := List.mem_iff_getElem?.mp he
    refine h.closed j ?_ e hj
    rw [List.mem_range, ← h.spared.length]
    exact (List.getElem?_eq_some_iff.mp hj).1
  refine ⟨fun e he heowner => ?_, fun e he => (ht.attached e he).free, h.spared.length, fun j e hj hne => ?_⟩
  · have ha : e.allocated = true := by
      by_contra ha
      rw [(ht.attached e he).free (by simpa using ha)] at heowner
      exact howner heowner.symm
    have hopen := hclosed e he heowner
    obtain ⟨htype, hlinger⟩ := (ht.attached e he).linger ha hopen
    have howned := (ht.owned e he).2 ha htype
    -- A child of the owner would have a listener of the owner, which would be open.
    have hparent : e.tcp.parent = 0 := by
      by_contra hparent
      obtain ⟨-, parent, hmem, hlistens, -, hsame⟩ := ht.lineage.child he ha hparent
      have hshut := hclosed parent hmem (hsame.trans heowner)
      rw [hlistens.isOpen] at hshut
      cases hshut
    have hholder := howned.holder
    rw [hopen] at hholder
    refine ⟨ha, hopen, htype, hlinger.resolve_right (not_not.mpr hparent), hparent, fun hstate => ?_, fun hstate => ?_⟩
    all_goals
      rw [hstate] at hholder
      cases hholder
  · obtain ⟨e', he', hsame | ⟨heowner, -⟩⟩ := h.spared.entry hj
    · rw [he', hsame]
    · exact absurd heowner hne

end Runs

def NoWrap (hz frequency now : ℕ) : Prop := frequency = hz ∧ 1 ≤ hz ∧ now + 120 * hz < 18446744073709551616

def World.NoWrap (w : World) : Prop := ∀ n, PulsarNetstack.NoWrap w.hz w.hz (w.time n)

theorem World.NoWrap.clocked {v : View} (hw : v.world.NoWrap) {now : ℕ} (h : v.Clocked now) :
    PulsarNetstack.NoWrap v.world.hz v.world.hz now := by
  obtain rfl | ⟨n, rfl⟩ := h
  · obtain ⟨-, hticks, hclock⟩ := hw 0
    exact ⟨rfl, hticks, Nat.lt_of_le_of_lt (Nat.add_le_add_right (Nat.zero_le _) _) hclock⟩
  · exact hw n

-- The world of a run is fixed, so the clock of each event is the one that the condition is about.
theorem steady_timed {w : World} (hw : w.NoWrap) : Steady fun v =>
    Reachable (fun _ t event => OwnerFresh t event) v.sockets ∧ (v.world = w → ReachableAt (NoWrap w.hz) v.sockets) where
  size hv := steady_sockets.size hv.1
  event {v event} busy hv hadmitted hclocked := by
    refine ⟨steady_sockets.event busy hv.1 hadmitted hclocked, ?_⟩
    rintro rfl
    exact (hv.2 rfl).step (v.tcpEnv busy) event ⟨hadmitted.ownerFresh, hw.clocked hclocked⟩
  account _ hv := hv
  activate _ hv _ _ _ _ := hv
  relink _ _ hv := hv

theorem RuntimeReachable.timed (h : RuntimeReachable rt) (hw : rt.world.NoWrap) :
    ReachableAt (NoWrap rt.world.hz) rt.sockets := by
  refine (h.still (steady_timed hw) fun rt hboot => ⟨(RuntimeReachable.boot hboot).sockets, fun _ => ?_⟩).2.2 rfl
  obtain ⟨capacity, hcapacity, hsockets⟩ := hboot.sockets
  change Reachable _ rt.sockets
  rw [hsockets]
  exact .init capacity hcapacity

theorem daemonDispatch_cleanup {owner : ℕ} {m : IpcMessage} {response : DaemonItem} (howner : owner ≠ 0)
    (hop : ipcOperation m.op = some .cleanup)
    (hrun : daemonDispatch (graphSubmit fuel) ⟨owner, m⟩ rt = some (response, rt')) :
    cleanup (graphSubmit fuel) owner rt = some (⟨⟩, rt') := by
  unfold daemonDispatch dispatchMessage at hrun
  rw [if_neg howner, if_pos hop] at hrun
  obtain ⟨⟨out, rt₁⟩, hmessage, hend⟩ := Option.bind_eq_some_iff.mp hrun
  obtain ⟨⟨_, rt₂⟩, hcleanup, hreply⟩ := Option.bind_eq_some_iff.mp hmessage
  obtain ⟨-, rfl⟩ := Prod.mk.inj (Option.some.inj hreply)
  obtain ⟨-, rfl⟩ := Prod.mk.inj (Option.some.inj hend)
  exact hcleanup

def gatewaySynAck : Buffer :=
  { freshBuffer with data := [2, 0, 0, 0, 0, 1, 2, 0, 0, 0, 0, 9, 8, 0, 69, 0, 0, 40, 0, 0, 0, 0, 64, 6, 246, 204,
      192, 0, 2, 1, 192, 0, 2, 2, 0, 80, 192, 0, 0, 0, 0, 100, 0, 0, 0, 8, 80, 18, 3, 232, 103, 42, 0, 0] }

def sessionRun (time : ℕ → ℕ) : Option Runtime :=
  (daemonDispatch (graphSubmit 40) ⟨5, { op := 2, id := 1, a := 2, b := 1 }⟩ (forwardingRuntime time)).bind fun r =>
    (daemonDispatch (graphSubmit 40) ⟨5, { op := 4, id := 2, fd := 1, addr := ⟨htonl 0xc0000201, 80⟩ }⟩ r.2).bind fun r =>
      (appStep (graphSubmit 40) (fun _ => [gatewaySynAck]) 0 r.2).map Prod.snd

theorem sessionRun_reachable {time : ℕ → ℕ} (h : sessionRun time = some rt) :
    RuntimeReachable rt ∧ rt.world = (forwardingRuntime time).world := by
  unfold sessionRun at h
  obtain ⟨⟨_, rt₁⟩, hsocket, h⟩ := Option.bind_eq_some_iff.mp h
  obtain ⟨⟨_, rt₂⟩, hconnect, h⟩ := Option.bind_eq_some_iff.mp h
  obtain ⟨⟨_, rt₃⟩, hstep, rfl⟩ := Option.map_eq_some_iff.mp h
  have hsteady : SteadyQueues (fun _ _ _ => True) fun s => s.world = (forwardingRuntime time).world := world_steady _ _
  have hworld₁ := hsteady.otherStep (.dispatch hsocket) ⟨(forwardingRuntime_booted time).idle, rfl⟩
  have hworld₂ := hsteady.otherStep (.dispatch hconnect) hworld₁
  constructor
  · refine .step (.step (.step (.boot (forwardingRuntime_booted time)) (.dispatch hsocket)) (.dispatch hconnect)) ?_
    refine .progress (fun portId b hb _ => ?_) hstep
    rw [List.mem_singleton.mp hb]
    rfl
  · exact ((hsteady.progress _ _).post _ _ _ hworld₂ hstep).2

def zeroClock (_ : ℕ) : ℕ := 0

/-- `IPC_CLEANUP` closes all that belongs to the session and nothing else. What is left of it is on its way out, with a
timer that ends it as long as the clock does not wrap. -/
theorem disconnect_cleanup_complete (h : RuntimeReachable rt) {owner : ℕ} (howner : owner ≠ 0) {m : IpcMessage}
    (hop : ipcOperation m.op = some .cleanup) {response : DaemonItem}
    (hrun : daemonDispatch (graphSubmit fuel) ⟨owner, m⟩ rt = some (response, rt')) :
    CleanedUp owner rt.sockets rt'.sockets ∧
      (rt.world.NoWrap → ∀ e ∈ rt'.sockets.entries, e.owner = owner → e.tcp.deadline ≠ 0 ∨ e.tcp.expires ≠ 0) := by
  have hcleanup := daemonDispatch_cleanup howner hop hrun
  have hfresh : ReachableAt (fun _ _ => True) rt.sockets := h.sockets.weaken fun _ _ _ he => ⟨he, trivial⟩
  have hcleaned := ((cleanup_scans howner (fun _ => trivial) rt.sockets hfresh).post rt ⟨⟩ rt' ⟨h.idle, rfl, rfl⟩
    hcleanup).cleanedUp howner
  refine ⟨hcleaned, fun hclock e he heowner => ?_⟩
  obtain ⟨ha, hopen, htype, -⟩ := hcleaned.owned e he heowner
  have hscan := (cleanup_scans howner hclock rt.sockets (h.timed hclock)).post rt ⟨⟩ rt' ⟨h.idle, rfl, rfl⟩ hcleanup
  have hclocked : Reachable (fun env _ event => ClockOk rt.world.hz env event.time) rt'.sockets :=
    hscan.reachable.weaken fun _ _ _ he => he.2
  obtain ⟨⟨hb, -⟩, hlive⟩ := hclocked.live e he
  exact hlive.timer hb ha htype hopen

theorem disconnect_cleanup_session : ∃ rt rt' : Runtime, RuntimeReachable rt ∧ CleanedUp 5 rt.sockets rt'.sockets ∧
    ∃ e ∈ rt'.sockets.entries, e.owner = 5 ∧ (e.tcp.deadline ≠ 0 ∨ e.tcp.expires ≠ 0) := by
  have hfacts : ((sessionRun zeroClock).any fun rt => (daemonDispatch (graphSubmit 40) ⟨5, cleanupMessage⟩ rt).any fun r =>
      r.2.sockets.entries.any fun e => e.owner == 5) = true := by decide +kernel
  obtain ⟨rt, hsession, hfacts⟩ := (Option.any_eq_true _ _).mp hfacts
  obtain ⟨⟨response, rt'⟩, hrun, hfacts⟩ := (Option.any_eq_true _ _).mp hfacts
  obtain ⟨e, he, howner⟩ := List.any_eq_true.mp hfacts
  obtain ⟨hreachable, hworld⟩ := sessionRun_reachable hsession
  obtain ⟨hcleaned, harmed⟩ := disconnect_cleanup_complete hreachable (by decide) (by decide) hrun
  refine ⟨rt, rt', hreachable, hcleaned, e, he, eq_of_beq howner, harmed ?_ e he (eq_of_beq howner)⟩
  have hzero : 1 ≤ 1000 ∧ 0 + 120 * 1000 < 18446744073709551616 := by decide
  rw [hworld]
  exact fun _ => ⟨rfl, hzero⟩

end PulsarNetstack
