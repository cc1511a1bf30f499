import PulsarNetstack.DaemonDispatch
import PulsarNetstack.Listeners
import PulsarNetstack.PacketParsing
import PulsarNetstack.RouteMigration

namespace PulsarNetstack

open Program

variable {I : View → Prop} {fuel : ℕ} {rt rt' : Runtime} {submit : Submit}

theorem outboundFlow (I : View → Prop) : Flow (fun n _ => n.outbound = true) I where
  lax _ _ hn := hn
  ethInput _ hp := absurd hp Bool.false_ne_true
  ipv4Input _ hp := absurd hp Bool.false_ne_true
  ipv4Acl _ hp := absurd hp Bool.false_ne_true
  account _ hp := absurd hp Bool.false_ne_true
  deliver _ hp := absurd hp Bool.false_ne_true
  segment _ hp := absurd hp Bool.false_ne_true

theorem submit_still {n : NodeId} (frame : Frame) (hn : n.outbound = true) :
    Safe (Still I) (graphSubmit fuel n frame) fun _ => Still I :=
  graphSubmit_still (outboundFlow I) fun _ _ => hn

theorem Still.plumbing (h : Still I rt) (q : Plumbing rt rt') : Still I rt' := by
  refine ⟨⟨?_, ?_, q.activeOutput.trans h.1.active⟩, q.view ▸ h.2⟩
  · rw [q.queue]
    exact h.1.queue
  · rw [q.slots]
    exact h.1.slots

theorem Still.reveal {Q : View → Prop} (h : Still I rt) (hgraph : rt'.graph = rt.graph)
    (hactive : rt'.activeOutput = rt.activeOutput) (hview : Q rt'.view) : Still Q rt' := by
  refine ⟨⟨?_, ?_, hactive.trans h.1.active⟩, hview⟩
  · rw [hgraph]
    exact h.1.queue
  · rw [hgraph]
    exact h.1.slots

theorem Still.hosts : Hosts (graphSubmit fuel) (Still I) where
  plumbing h q := h.plumbing q
  inject p hn := by
    apply Safe.get_bind
    intro rt h
    rw [h.1.active]
    apply Safe.bind (Q := fun _ => Still I)
    · apply (submit_still _ hn).conseq
      · rintro _ rfl
        exact h
      · exact fun _ _ h => h
    · exact fun _ => Safe.peek fun _ _ => Safe.pure fun _ h => h
  release i := by
    apply Safe.get_bind
    intro rt h
    apply Safe.bind (Q := fun _ => Still I)
    · exact Safe.set fun _ _ => h.plumbing ⟨rfl, rfl, rfl, rfl⟩
    · intro _
      rw [h.1.active]
      exact submit_still _ rfl

theorem timerCycles_clocked : Safe (Still I) timerCycles fun now => Still fun v => I v ∧ v.Clocked now := by
  refine ⟨fun rt a rt' hrt hrun => ?_⟩
  obtain ⟨rfl, rfl⟩ := Prod.mk.inj (Option.some.inj hrun)
  exact hrt.reveal rfl rfl ⟨hrt.2, .inr ⟨_, rfl⟩⟩

theorem tableCall_still {Q : CallReply → View → Prop}
    {call : TcpEnv → SocketTable → Word → ℕ → SocketTable × List TcpEffect × CallReply}
    (h : ∀ v seed now, I v → v.Clocked now → Q (call (v.tcpEnv false) v.sockets seed now).2.2
      { v with sockets := (call (v.tcpEnv false) v.sockets seed now).1 }) :
    Safe (Still I) (tableCall (graphSubmit fuel) call) fun reply => Still (Q reply) := by
  have hosts {I : View → Prop} : Hosts (graphSubmit fuel) (Still I) := Still.hosts
  apply Safe.bind timerCycles_clocked
  intro now
  apply Safe.get_bind
  rintro rt ⟨hidle, hv, hnow⟩
  have hrt : Still I rt := ⟨hidle, hv⟩
  have henv : rt.tcpEnv = rt.view.tcpEnv false := by
    unfold Runtime.tcpEnv View.tcpEnv
    rw [hrt.1.active]
    rfl
  rw [henv]
  have hcall := h rt.view (rt.world.random rt.calls) now hv hnow
  generalize hres : call (rt.view.tcpEnv false) rt.view.sockets (rt.world.random rt.calls) now = res at hcall
  change call (rt.view.tcpEnv false) rt.sockets (rt.world.random rt.calls) now = res at hres
  rw [hres]
  obtain ⟨sockets, effects, reply⟩ := res
  apply Safe.bind (Q := fun _ => Still (Q reply))
  · exact Safe.set fun _ _ => hrt.reveal rfl rfl hcall
  · intro _
    exact Safe.bind (Safe.forM fun e _ => hosts.tcpEffect e) fun _ => Safe.pure fun _ h => h

theorem udpSend_still (s : SocketEntry) (payload : List Byte) (dst : SockAddr) :
    Safe (Still I) (udpSend (graphSubmit fuel) s payload dst) fun _ => Still I := by
  have hosts : Hosts (graphSubmit fuel) (Still I) := Still.hosts
  have hfailed (reason : DropReason) (error : Errno) : Safe (Still I) (sendFailure reason error) fun _ => Still I :=
    Safe.bind (hosts.modify fun _ => ⟨rfl, rfl, rfl, rfl⟩) fun _ => Safe.pure fun _ h => h
  apply Safe.peek
  intro rt _
  apply Safe.ite
  · exact fun _ => hfailed _ _
  intro _
  dsimp only
  apply Safe.ite
  · exact fun _ => hfailed _ _
  intro _
  apply Safe.ite
  · exact fun _ => hfailed _ _
  intro _
  apply Safe.bind hosts.allocMbuf
  rintro (_ | m)
  · exact hfailed _ _
  dsimp only
  generalize m.buffer.append payload = built
  cases built with
  | none => exact Safe.bind (hosts.freeMbuf m _) fun _ => hfailed _ _
  | some buffer =>
    apply Safe.bind (submit_still _ rfl)
    exact fun _ => Safe.peek fun _ _ => Safe.pure fun _ h => h

inductive CallEvent : SocketCall → SocketEvent → Prop
  | socket (domain type protocol : ℤ) : CallEvent (.socket domain type protocol) (.socket domain type protocol)
  | bind (fd : ℤ) (addr : Option SockAddr) : CallEvent (.bind fd addr) (.bind fd addr)
  | connect (fd : ℤ) (addr : Option SockAddr) (seed : Word) (now : ℕ) : CallEvent (.connect fd addr) (.connect fd addr seed now)
  | listen (fd backlog : ℤ) : CallEvent (.listen fd backlog) (.listen fd backlog)
  | accept (fd : ℤ) : CallEvent (.accept fd) (.accept fd)
  | send (fd : ℤ) (data : List Byte) (now : ℕ) : CallEvent (.send fd data) (.send fd data now)
  | sendPeer (fd : ℤ) (data : List Byte) (dst : Option SockAddr) : CallEvent (.send fd data) (.sendto fd true data.length dst)
  | sendto (fd : ℤ) (data : List Byte) (dst : Option SockAddr) :
      CallEvent (.sendto fd data dst) (.sendto fd true data.length dst)
  | recv (fd : ℤ) (length : ℕ) : CallEvent (.recv fd length) (.recv fd length)
  | recvfrom (fd : ℤ) (length : ℕ) : CallEvent (.recvfrom fd length) (.recvfrom fd true length)
  | close (fd : ℤ) (now : ℕ) : CallEvent (.close fd) (.close fd now)

section Calls

def View.after (v : View) (busy : Bool) (event : SocketEvent) : View :=
  { v with sockets := (socketStep (v.tcpEnv busy) v.sockets event).1 }

theorem tableCall_keeps {call : TcpEnv → SocketTable → Word → ℕ → SocketTable × List TcpEffect × CallReply}
    (event : Word → ℕ → SocketEvent)
    (hcall : ∀ env t seed now, (call env t seed now).1 = (socketStep env t (event seed now)).1)
    (h : ∀ v seed now, I v → v.Clocked now → I (v.after false (event seed now))) :
    Safe (Still I) (tableCall (graphSubmit fuel) call) fun _ => Still I := by
  apply tableCall_still
  intro v seed now hv hnow
  rw [hcall]
  exact h v seed now hv hnow

theorem coreSendto_still (fd : ℤ) (data : List Byte) (dst : Option SockAddr)
    (h : ∀ v, I v → I (v.after false (.sendto fd true data.length dst))) :
    Safe (Still I) (coreSendto (graphSubmit fuel) fd data dst) fun _ => Still I := by
  apply Safe.bind (Q := fun _ => Still I)
  · exact tableCall_keeps (fun _ _ => .sendto fd true data.length dst) (fun _ _ _ _ => rfl) fun v _ _ hv _ => h v hv
  · intro reply
    split
    · exact Safe.pure fun _ h => h
    · exact Safe.peek fun _ _ => udpSend_still _ _ _

theorem runCall_still (call : SocketCall)
    (h : ∀ v event, I v → CallEvent call event → v.Clocked event.time → I (v.after false event)) :
    Safe (Still I) (runCall (graphSubmit fuel) call) fun _ => Still I := by
  cases call with
  | socket domain type protocol =>
    unfold runCall
    exact tableCall_keeps (fun _ _ => .socket domain type protocol) (fun _ _ _ _ => rfl)
      fun v _ _ hv _ => h v _ hv (.socket domain type protocol) (.inl rfl)
  | bind fd addr =>
    unfold runCall
    exact tableCall_keeps (fun _ _ => .bind fd addr) (fun _ _ _ _ => rfl) fun v _ _ hv _ => h v _ hv (.bind fd addr) (.inl rfl)
  | connect fd addr =>
    unfold runCall
    exact tableCall_keeps (fun seed now => .connect fd addr seed now) (fun _ _ _ _ => rfl)
      fun v seed now hv hnow => h v _ hv (.connect fd addr seed now) hnow
  | listen fd backlog =>
    unfold runCall
    exact tableCall_keeps (fun _ _ => .listen fd backlog) (fun _ _ _ _ => rfl)
      fun v _ _ hv _ => h v _ hv (.listen fd backlog) (.inl rfl)
  | accept fd =>
    unfold runCall
    exact tableCall_keeps (fun _ _ => .accept fd) (fun _ _ _ _ => rfl) fun v _ _ hv _ => h v _ hv (.accept fd) (.inl rfl)
  | send fd data =>
    apply Safe.get_bind
    intro rt hrt
    have hsame : ∀ s, s = rt → Still I s := by
      rintro _ rfl
      exact hrt
    have hrefused : ∀ reply, Safe (fun s => s = rt) (pure reply : GraphM CallReply) fun _ => Still I :=
      fun reply => Safe.pure hsame
    split
    · exact hrefused _
    apply Safe.ite
    · intro _
      refine Safe.conseq ?_ hsame fun _ _ h => h
      exact tableCall_keeps (fun _ now => .send fd data now) (fun _ _ _ _ => rfl)
        fun v _ now hv hnow => h v _ hv (.send fd data now) hnow
    intro _
    apply Safe.ite
    · exact fun _ => hrefused _
    · intro _
      refine Safe.conseq ?_ hsame fun _ _ h => h
      exact coreSendto_still fd data _ fun v hv => h v _ hv (.sendPeer fd data _) (.inl rfl)
  | sendto fd data dst => exact coreSendto_still fd data dst fun v hv => h v _ hv (.sendto fd data dst) (.inl rfl)
  | recv fd length =>
    unfold runCall
    exact tableCall_keeps (fun _ _ => .recv fd length) (fun _ _ _ _ => rfl) fun v _ _ hv _ => h v _ hv (.recv fd length) (.inl rfl)
  | recvfrom fd length =>
    unfold runCall
    exact tableCall_keeps (fun _ _ => .recvfrom fd true length) (fun _ _ _ _ => rfl)
      fun v _ _ hv _ => h v _ hv (.recvfrom fd length) (.inl rfl)
  | close fd =>
    unfold runCall
    exact tableCall_keeps (fun _ now => .close fd now) (fun _ _ _ _ => rfl)
      fun v _ now hv hnow => h v _ hv (.close fd now) hnow

end Calls

section Dispatch

variable {A : Runtime → Prop} (hcall : ∀ call, Safe A (runCall submit call) fun _ => A)
include hcall

theorem sendDatagrams_safe (fd : ℤ) (sent : ℕ) (datagrams : List (SockAddr × List Byte)) :
    Safe A (sendDatagrams submit fd sent datagrams) fun _ => A := by
  induction datagrams generalizing sent with
  | nil => exact Safe.pure fun _ h => h
  | cons d datagrams ih =>
    apply Safe.bind (hcall _)
    intro reply
    split
    · exact Safe.pure fun _ h => h
    · exact ih _

theorem receiveDatagrams_safe (fd : ℤ) (received : ℕ) (capacities : List ℕ) (out : IpcMessage) :
    Safe A (receiveDatagrams submit fd received capacities out) fun _ => A := by
  induction capacities generalizing received out with
  | nil => exact Safe.pure fun _ h => h
  | cons capacity capacities ih =>
    apply Safe.ite
    · exact fun _ => Safe.pure fun _ h => h
    intro _
    apply Safe.bind (hcall _)
    intro reply
    split
    · exact Safe.pure fun _ h => h
    · exact ih _ _

theorem dispatchOperation_safe (m out : IpcMessage) (op : IpcOperation) :
    Safe A (dispatchOperation submit m out op) fun _ => A := by
  unfold dispatchOperation
  split
  · unfold sendBatch
    split
    · exact Safe.pure fun _ h => h
    · exact Safe.bind (sendDatagrams_safe hcall _ _ _) fun _ => Safe.pure fun _ h => h
  · exact Safe.ite (fun _ => Safe.pure fun _ h => h) fun _ => receiveDatagrams_safe hcall _ _ _ _
  · split
    · exact Safe.pure fun _ h => h
    · exact Safe.bind (hcall _) fun _ => Safe.pure fun _ h => h

theorem cleanup_safe (owner : ℕ) : Safe A (cleanup submit owner) fun _ => A := by
  apply Safe.peek
  intro rt _
  apply Safe.forM
  intro i _
  apply Safe.peek
  intro rt _
  apply Safe.ite
  · exact fun _ => Safe.bind (hcall _) fun _ => Safe.pure fun _ h => h
  · exact fun _ => Safe.pure fun _ h => h

theorem daemonDispatch_safe (hsocket : ∀ owner m, Safe A (createSocket submit owner m) fun _ => A) (request : DaemonItem) :
    Safe A (daemonDispatch submit request) fun _ => A := by
  refine Safe.bind (Q := fun _ => A) ?_ fun _ => Safe.pure fun _ h => h
  apply Safe.ite
  · exact fun _ => Safe.pure fun _ h => h
  intro _
  apply Safe.ite
  · exact fun _ => Safe.bind (cleanup_safe hcall _) fun _ => Safe.pure fun _ h => h
  intro _
  apply Safe.ite
  · exact fun _ => Safe.pure fun _ h => h
  intro _
  split
  · exact Safe.pure fun _ h => h
  · exact Safe.bind (hsocket _ _) fun _ => Safe.pure fun _ h => h
  · apply Safe.peek
    intro rt _
    split
    · exact Safe.pure fun _ h => h
    apply Safe.ite
    · exact fun _ => Safe.pure fun _ h => h
    intro _
    apply Safe.ite
    · exact fun _ => Safe.pure fun _ h => h
    · exact fun _ => dispatchOperation_safe hcall _ _ _

end Dispatch

theorem socketLookup_slot {t : SocketTable} {fd : ℤ} {slot : ℕ} {s : SocketEntry}
    (h : socketLookup t fd = some (slot, s)) : slot = (fd.toNat - 1) % psSocketMax := by
  unfold socketLookup at h
  split at h
  · cases h
  dsimp only at h
  split at h
  · cases h
  split at h
  · cases h
    rfl
  · cases h

theorem coreSocket_ok {env : TcpEnv} {t t' : SocketTable} {domain type protocol : ℤ} {fd : ℕ}
    (h : coreSocket env t domain type protocol = (t', .ok fd)) (hsize : t.entries.length ≤ psSocketMax) :
    ∃ slot old kind, t.entries[slot]? = some old ∧ old.allocated = false ∧ (fd - 1) % psSocketMax = slot ∧
      t'.entries = t.entries.set slot { fd := fd, allocated := true, isOpen := true, type := kind } := by
  unfold coreSocket at h
  generalize (if type = 2 then (17 : ℤ) else 6) = expected at h
  generalize (if type = 2 then SockType.dgram else SockType.stream) = kind at h
  split at h
  · cases h
  split at h
  · cases h
  split at h
  · cases h
  split at h
  · cases h
  split at h
  · cases h
  split at h
  · cases h
  rename_i t₁ slot s halloc
  obtain ⟨old, generation, hold, hfree, he, hs⟩ := socketAllocate_fd halloc
  obtain ⟨rfl, hfd⟩ := Prod.mk.inj h
  have hfd : s.fd = fd := Except.ok.inj hfd
  have hlt : slot < psSocketMax := (List.getElem?_eq_some_iff.mp hold).1.trans_le hsize
  refine ⟨slot, old, kind, hold, hfree, ?_, ?_⟩
  · rw [← hfd, hs, Nat.add_sub_cancel, Nat.mul_comm, Nat.mul_add_mod, Nat.mod_eq_of_lt hlt]
  · rw [he, ← hfd, hs]

def Admitted (v : View) : SocketEvent → Prop
  | .assignOwner fd _ => ∀ i s, socketLookup v.sockets fd = some (i, s) → s.tcp = {}
  | .segment _ dstIp _ _ _ _ => netifIsLocalIp v.routing dstIp = true
  | _ => True

theorem Admitted.ownerFresh {v : View} {event : SocketEvent} (h : Admitted v event) : OwnerFresh v.sockets event := by
  cases event with
  | assignOwner fd owner => exact h
  | _ => trivial

theorem CallEvent.admitted {call : SocketCall} {event : SocketEvent} (h : CallEvent call event) (v : View) :
    Admitted v event := by
  cases h <;> trivial

structure Closed (I : View → Prop) : Prop where
  size {v : View} : I v → v.sockets.entries.length ≤ psSocketMax
  event {v : View} {event : SocketEvent} (busy : Bool) : I v → Admitted v event → v.Clocked event.time → I (v.after busy event)
  account {v : View} (stats : AclCounters) : I v → I { v with aclStats := stats }

namespace Closed

variable (h : Closed I)
include h

theorem runCall (call : SocketCall) : Safe (Still I) (runCall (graphSubmit fuel) call) fun _ => Still I :=
  runCall_still call fun v _ hv hevent => h.event false hv (hevent.admitted v)

theorem socket (domain type protocol : ℤ) :
    Safe (Still I) (PulsarNetstack.runCall (graphSubmit fuel) (.socket domain type protocol))
      fun reply => Still fun v => I v ∧ ∀ fd : ℕ, reply.result = .ok fd → ∀ owner, Admitted v (.assignOwner fd owner) := by
  unfold PulsarNetstack.runCall
  apply tableCall_still
  intro v _ _ hv _
  have hadmitted : Admitted v (.socket domain type protocol) := trivial
  refine ⟨h.event false hv hadmitted (.inl rfl), ?_⟩
  intro fd hfd _ i s hlookup
  generalize hres : coreSocket (v.tcpEnv false) v.sockets domain type protocol = res at hfd hlookup
  obtain ⟨t', result⟩ := res
  cases result with
  | error e => cases hfd
  | ok fd' =>
    obtain rfl : fd' = fd := Except.ok.inj hfd
    obtain ⟨slot, old, kind, hold, -, hslot, he⟩ := coreSocket_ok hres (h.size hv)
    obtain ⟨hs, -, -, -⟩ := socketLookup_some hlookup
    change t'.entries[i]? = some s at hs
    have hi : i = slot := (socketLookup_slot hlookup).trans hslot
    rw [he, hi, List.getElem?_set_self (List.getElem?_eq_some_iff.mp hold).1] at hs
    rw [← Option.some.inj hs]

theorem createSocket (owner : ℕ) (m : IpcMessage) :
    Safe (Still I) (createSocket (graphSubmit fuel) owner m) fun _ => Still I := by
  apply Safe.bind (h.socket _ _ _)
  intro reply
  split
  · exact Safe.pure fun _ hv => ⟨hv.1, hv.2.1⟩
  · rename_i fd hfd
    apply Safe.bind (Q := fun _ => Still I)
    · apply Safe.modify
      intro rt hrt
      exact hrt.reveal rfl rfl (h.event false hrt.2.1 (hrt.2.2 fd hfd owner) (.inl rfl))
    · exact fun _ => Safe.pure fun _ h => h

theorem daemonDispatch (request : DaemonItem) :
    Safe (Still I) (daemonDispatch (graphSubmit fuel) request) fun _ => Still I :=
  daemonDispatch_safe h.runCall h.createSocket request

end Closed

structure Tends (submit : Submit) (A : Runtime → Prop) : Prop where
  tidy {rt rt' : Runtime} : A rt → Plumbing rt rt' → rt'.acceptedSends = rt.acceptedSends →
    (∀ i, ∀ p ∈ (rt'.pendingNeighbours i).packets, p ∈ (rt.pendingNeighbours i).packets) → A rt'
  icmpSendError (b : Buffer) (ctx : PacketCtx) (type code : Byte) (mtu now : ℕ) :
    Safe A (icmpSendError submit b ctx type code mtu now) fun _ => A
  release (i : Fin neighbourPendingMax) : Safe A (releasePending submit i) fun _ => A
  arpRequest (port : PortState) (target : Word) : Safe A (arpRequest submit port target) fun _ => A
  neighbourUpdate (netifId : ℕ) (ip : Word) (mac : Mac) : Safe A (neighbourUpdate submit netifId ip mac) fun _ => A

theorem Hosts.tends {A : Runtime → Prop} (h : Hosts submit A) : Tends submit A where
  tidy ha q _ _ := h.plumbing ha q
  icmpSendError := h.icmpSendError
  release := h.release
  arpRequest := h.arpRequest
  neighbourUpdate := h.neighbourUpdate

namespace Tends

variable {A : Runtime → Prop} (h : Tends submit A)
include h

theorem restock (ha : A rt) (q : Plumbing rt rt') (hsends : rt'.acceptedSends = rt.acceptedSends)
    {i : Fin neighbourPendingMax} {e : PendingNeighbour}
    (hpending : rt'.pendingNeighbours = Function.update rt.pendingNeighbours i e)
    (hsub : ∀ p ∈ e.packets, p ∈ (rt.pendingNeighbours i).packets) : A rt' := by
  refine h.tidy ha q hsends ?_
  rw [hpending]
  exact packets_update hsub

theorem discardPending (i : Fin neighbourPendingMax) (reason : DropReason) (now : ℕ) :
    Safe A (discardPending submit i reason now) fun _ => A := by
  apply Safe.get_bind
  intro rt ha
  apply Safe.bind (Q := fun _ => A)
  · exact Safe.set fun _ _ => h.restock ha ⟨rfl, rfl, rfl, rfl⟩ rfl rfl fun _ hp => absurd hp List.not_mem_nil
  intro _
  apply Safe.forM
  intro p _
  have hmodify {f : Runtime → Runtime} (hf : ∀ rt, Plumbing rt (f rt)) (hsends : ∀ rt, (f rt).acceptedSends = rt.acceptedSends)
      (hpending : ∀ rt, (f rt).pendingNeighbours = rt.pendingNeighbours) : Safe A (modify f : GraphM PUnit) fun _ => A :=
    Safe.modify fun rt ha => h.tidy ha (hf rt) (hsends rt) fun j p hp => hpending rt ▸ hp
  have hfreed : Safe A (do
      modifyGraph fun g => g.updateStats .drop fun s => { s with bytes := s.bytes + p.1.buffer.pktLen }
      freeMbuf p.1 (.discarded reason)) fun _ => A :=
    Safe.bind (hmodify (fun _ => ⟨rfl, rfl, rfl, rfl⟩) (fun _ => rfl) fun _ => rfl) fun _ =>
      hmodify (fun _ => ⟨rfl, rfl, rfl, rfl⟩) (fun _ => rfl) fun _ => rfl
  apply Safe.ite
  · exact fun _ => Safe.bind (h.icmpSendError _ _ _ _ _ _) fun _ => hfreed
  · exact fun _ => hfreed

theorem neighbourTick (now : ℕ) : Safe A (neighbourTick submit now) fun _ => A := by
  apply Safe.forM
  intro i _
  apply Safe.get_bind
  intro rt hrt
  have hsame : ∀ s, s = rt → A s := by
    rintro _ rfl
    exact hrt
  apply Safe.ite
  · intro _
    split
    · exact (h.discardPending i _ now).conseq hsame fun _ _ h => h
    split
    · exact (h.release i).conseq hsame fun _ _ h => h
    dsimp only
    apply Safe.ite
    · intro _
      apply Safe.ite
      · exact fun _ => (h.discardPending i _ now).conseq hsame fun _ _ h => h
      · intro _
        apply Safe.bind (Q := fun _ => A)
        · exact Safe.set fun _ _ => h.restock hrt ⟨rfl, rfl, rfl, rfl⟩ rfl rfl fun _ hp => hp
        · exact fun _ => h.arpRequest _ _
    · exact fun _ => Safe.pure hsame
  · exact fun _ => Safe.pure hsame

theorem neighbourFini : Safe A (neighbourFini submit) fun _ => A :=
  Safe.forM fun i _ => h.discardPending i _ _

theorem neighbourCancel (dev : Word16) (ip : Word) :
    Safe A (neighbourCancel submit dev ip) fun _ => A := by
  apply Safe.forM
  intro i _
  apply Safe.peek
  intro rt _
  apply Safe.ite
  · exact fun _ => h.discardPending i _ _
  · exact fun _ => Safe.pure fun _ h => h

theorem neighbourSetEntry (dev : Word16) (ip : Word) (mac : Mac) (replace : Bool) :
    Safe A (neighbourSetEntry submit dev ip mac replace) fun _ => A := by
  apply Safe.get_bind
  intro rt hrt
  have hrefused (e : Errno) : Safe (fun s => s = rt) (pure (.error e) : GraphM (Except Errno Unit)) fun _ => A := by
    apply Safe.pure
    rintro _ rfl
    exact hrt
  apply Safe.ite
  · exact fun _ => hrefused _
  intro _
  split
  · exact hrefused _
  apply Safe.ite
  · exact fun _ => hrefused _
  intro _
  apply Safe.bind (Q := fun _ => A)
  · exact Safe.set fun _ _ => h.tidy hrt ⟨rfl, rfl, rfl, rfl⟩ rfl fun _ _ hp => hp
  · exact fun _ => h.neighbourUpdate _ _ _

theorem neighbourDeleteEntry (dev : Word16) (ip : Word) :
    Safe A (neighbourDeleteEntry submit dev ip) fun _ => A := by
  apply Safe.get_bind
  intro rt hrt
  dsimp only
  apply Safe.bind (Q := fun _ => A)
  · exact Safe.set fun _ _ => h.tidy hrt ⟨rfl, rfl, rfl, rfl⟩ rfl fun _ _ hp => hp
  intro _
  apply Safe.ite
  · exact fun _ => Safe.bind (h.neighbourCancel _ _) fun _ => Safe.pure fun _ h => h
  · exact fun _ => Safe.pure fun _ h => h

theorem neighbourFlushFrom (dev : Word16) (fuel i : ℕ) :
    Safe A (neighbourFlushFrom submit dev fuel i) fun _ => A := by
  induction fuel generalizing i with
  | zero => exact ⟨fun _ _ _ _ hrun => nomatch hrun⟩
  | succ fuel ih =>
    apply Safe.peek
    intro rt _
    split
    · apply Safe.ite
      · intro _
        apply Safe.bind (h.neighbourDeleteEntry _ _)
        intro result
        apply Safe.ite
        · exact fun _ => ih _
        · exact fun _ => Safe.pure fun _ h => h
      · exact fun _ => ih _
    · exact Safe.bind (h.neighbourCancel _ _) fun _ => Safe.pure fun _ h => h

theorem adminWorkerOperation (hrelink : ∀ {rt : Runtime} (dev : ℕ) (l : LinkState), A rt → A (rt.relink dev l))
    (d : PortDriver) (names : List String) (steps : ℕ) (r : AdminRequest) :
    Safe A (adminWorkerOperation submit d names steps r) fun _ => A := by
  apply Safe.get_bind
  intro rt hrt
  have hsame : ∀ s, s = rt → A s := by
    rintro _ rfl
    exact hrt
  have hrefused (e : Errno) : Safe (fun s => s = rt) (pure (.error e) : GraphM (Except Errno Unit)) fun _ => A :=
    Safe.pure hsame
  split
  · exact hrefused _
  dsimp only
  apply Safe.ite
  · intro _
    apply Safe.bind (Q := fun _ => A)
    · exact Safe.set fun _ _ => hrelink _ _ hrt
    intro _
    split
    · exact Safe.pure fun _ h => h
    · exact Safe.pure fun _ h => h
    · exact Safe.bind (h.neighbourCancel _ _) fun _ => Safe.pure fun _ h => h
  intro _
  apply Safe.ite
  · exact fun _ => hrefused _
  intro _
  have hset (netif : Word16) (replace : Bool) : Safe (fun s => s = rt) (if 65535 < r.v.sportMin then pure (.error .einval)
      else PulsarNetstack.neighbourSetEntry submit netif r.v.ip (r.v.sportMin.setWidth 16 ++ r.v.sportMax) replace)
      fun _ => A :=
    Safe.ite (fun _ => hrefused _) fun _ => (h.neighbourSetEntry _ _ _ _).conseq hsame fun _ _ h => h
  split
  · exact (h.neighbourFlushFrom _ _ _).conseq hsame fun _ _ h => h
  · exact (h.neighbourDeleteEntry _ _).conseq hsame fun _ _ h => h
  · exact hset _ _
  · exact hset _ _
  · exact hrefused _

end Tends

def BurstOk (buffers : List Buffer) : Prop := ∀ b ∈ buffers, b.isContiguous = true → b.chainLen = 0

namespace Closed

variable (h : Closed I)
include h

theorem receptive (r : Routing) : Receptive (fun v => I v ∧ v.routing = r) r where
  routing hv := hv.2
  account hv _ _ := ⟨h.account _ hv.1, hv.2⟩
  deliver {v} {p} hv _ localIp port source payload := by
    have hadmitted : Admitted v (.datagram localIp port source payload) := trivial
    exact ⟨h.event true hv.1 hadmitted (.inl rfl), hv.2⟩
  segment {v} {p} hv hp hdr payload seed now hnow := by
    have hlocal : netifIsLocalIp v.routing p.2.dstIp = true := hv.2 ▸ hp.isLocal
    have hadmitted : Admitted v (.segment p.2.srcIp p.2.dstIp hdr payload seed now) := hlocal
    exact ⟨h.event true hv.1 hadmitted hnow, hv.2⟩

theorem receiveBurst (portId : ℕ) {buffers : List Buffer} (hbuffers : BurstOk buffers) :
    Safe (Still I) (receiveBurst (graphSubmit fuel) portId buffers) fun _ => Still I := by
  apply Safe.get_bind
  intro rt hrt
  dsimp only
  let J : View → Prop := fun v => I v ∧ v.routing = rt.routing
  have hstill : Still J { rt with nextMbuf := rt.nextMbuf + buffers.length } := hrt.reveal rfl rfl ⟨hrt.2, rfl⟩
  apply Safe.bind (Q := fun _ => Still J)
  · exact Safe.set fun _ _ => hstill
  intro _
  have hend : ∀ s, Still J s → Still I s := fun s hs => ⟨hs.1, hs.2.1⟩
  apply Safe.ite
  · intro _
    refine (graphSubmit_still (h.receptive rt.routing).flow ?_).conseq (fun _ hs => hs) fun _ => hend
    intro p hp
    obtain ⟨b, hb, rfl⟩ := List.mem_map.mp hp
    exact hbuffers b.1 (List.fst_mem_of_mem_zipIdx hb)
  · exact fun _ => Safe.pure hend

theorem runTcpTick (now : ℕ) :
    Safe (Still fun v => I v ∧ v.Clocked now) (runTcpTick (graphSubmit fuel) now) fun _ => Still I := by
  apply Safe.get_bind
  rintro rt ⟨hidle, hv, hnow⟩
  have hrt : Still I rt := ⟨hidle, hv⟩
  have henv : rt.tcpEnv = rt.view.tcpEnv false := by
    unfold Runtime.tcpEnv View.tcpEnv
    rw [hrt.1.active]
    rfl
  have hadmitted : Admitted rt.view (.tick now) := trivial
  have htick : I { rt.view with sockets := (tcpTick rt.tcpEnv rt.sockets now).1 } := by
    rw [henv]
    exact h.event false hv hadmitted hnow
  generalize tcpTick rt.tcpEnv rt.sockets now = res at htick
  obtain ⟨sockets, effects⟩ := res
  apply Safe.bind (Q := fun _ => Still I)
  · exact Safe.set fun _ _ => hrt.reveal rfl rfl htick
  · exact fun _ => Safe.forM fun e _ => Still.hosts.tcpEffect e

theorem tcpTimerProgress (timerNext now : ℕ) :
    Safe (Still fun v => I v ∧ v.Clocked now) (tcpTimerProgress (graphSubmit fuel) timerNext now) fun _ => Still I := by
  apply Safe.ite
  · exact fun _ => Safe.pure fun _ h => ⟨h.1, h.2.1⟩
  · exact fun _ => Safe.peek fun _ _ => Safe.bind (h.runTcpTick now) fun _ => Safe.pure fun _ h => h

theorem appStep {bursts : ℕ → List Buffer} (hbursts : ∀ portId, BurstOk (bursts portId)) (timerNext : ℕ) :
    Safe (Still I) (appStep (graphSubmit fuel) bursts timerNext) fun _ => Still I := by
  apply Safe.peek
  intro rt _
  apply Safe.bind (Q := fun _ => Still I)
  · apply Safe.forM
    intro port _
    apply Safe.ite
    · exact fun _ => h.receiveBurst _ fun b hb => hbursts _ b (List.mem_of_mem_take hb)
    · exact fun _ => Safe.pure fun _ h => h
  intro _
  apply Safe.bind timerCycles_clocked
  intro now
  exact Safe.bind (Still.hosts.tends.neighbourTick now) fun _ => h.tcpTimerProgress _ _

end Closed

structure Steady (I : View → Prop) : Prop extends Closed I where
  activate {v : View} {old next : NetConfig} {view : AdminView} {request : AdminRequest} (stats : AclCounters) :
    I v → v.routing.network = some old → view.links.length = v.routing.ports.length → adminMutate view request = .ok next →
      removedBinding v.sockets next = false →
      I { v with routing := { v.routing with network := some next }, aclStats := stats }
  relink {v : View} (dev : ℕ) (l : LinkState) :
    I v → I { v with routing := { v.routing with ports := v.routing.ports.modify dev fun p => p.relink l } }

namespace Steady

variable (h : Steady I)
include h

theorem adminActivate {view : AdminView} {request : AdminRequest} {next : NetConfig} (group : AdminGroup)
    (hview : view.links.length = rt.routing.ports.length) (hnext : adminMutate view request = .ok next) :
    Safe (fun s => s = rt ∧ Still I s) (adminActivate (graphSubmit fuel) group (some next)) fun _ => Still I := by
  apply Safe.get_bind
  rintro rt' ⟨heq, hrt⟩
  subst heq
  have hsame : ∀ e, Safe (fun s => s = rt') (pure (.error e) : GraphM (Except Errno Unit)) fun _ => Still I := by
    intro e
    apply Safe.pure
    rintro _ rfl
    exact hrt
  split
  · rename_i old next' hold heq
    obtain rfl := Option.some.inj heq
    apply Safe.ite
    · exact fun _ => hsame _
    intro _
    apply Safe.ite
    · exact fun _ => hsame _
    intro hbound
    apply Safe.bind (Q := fun _ => Still I)
    · exact Safe.set fun _ _ => hrt.reveal rfl rfl (h.activate _ hrt.2 hold hview hnext (eq_false_of_ne_true hbound))
    intro _
    apply Safe.ite
    · exact fun _ => Safe.bind Still.hosts.tends.neighbourFini fun _ => Safe.pure fun _ h => h
    · exact fun _ => Safe.pure fun _ h => h
  · exact hsame _

theorem adminWorkerOperation (d : PortDriver) (names : List String) (steps : ℕ) (r : AdminRequest) :
    Safe (Still I) (adminWorkerOperation (graphSubmit fuel) d names steps r) fun _ => Still I :=
  Still.hosts.tends.adminWorkerOperation (fun _ _ hrt => hrt.reveal rfl rfl (h.relink _ _ hrt.2)) d names steps r

end Steady

inductive RuntimeStep (rt rt' : Runtime) : Prop
  | progress {fuel timerNext next : ℕ} {bursts : ℕ → List Buffer} (received : ∀ portId, BurstOk (bursts portId))
      (run : appStep (graphSubmit fuel) bursts timerNext rt = some (next, rt'))
  | call {fuel : ℕ} {call : SocketCall} {reply : CallReply} (run : runCall (graphSubmit fuel) call rt = some (reply, rt'))
  | dispatch {fuel : ℕ} {request response : DaemonItem}
      (run : daemonDispatch (graphSubmit fuel) request rt = some (response, rt'))
  | activate {fuel : ℕ} {view : AdminView} {request : AdminRequest} {next : NetConfig} {result : Except Errno Unit}
      (links : view.links.length = rt.routing.ports.length) (mutated : adminMutate view request = .ok next)
      (run : adminActivate (graphSubmit fuel) request.group (some next) rt = some (result, rt'))
  | operate {fuel steps : ℕ} {driver : PortDriver} {names : List String} {request : AdminRequest} {result : Except Errno Unit}
      (run : adminWorkerOperation (graphSubmit fuel) driver names steps request rt = some (result, rt'))

structure Booted (rt : Runtime) : Prop where
  routing : ∃ conf devices r, portInit conf devices = some r ∧
    (rt.routing = r ∨ ∃ c, netConfigInit r = .ok c ∧ rt.routing = { r with network := some c })
  sockets : ∃ capacity ≤ psSocketMax, rt.sockets = socketSubsystemInit capacity
  graph : rt.graph = {}
  activeOutput : rt.activeOutput = none
  neighbours : rt.neighbours = emptyNeighbours
  pending : rt.pendingNeighbours = fun _ => {}
  log : rt.pendingLog = fun _ => []
  aclStats : rt.aclStats = {}

inductive RuntimeReachable : Runtime → Prop
  | boot {rt : Runtime} (h : Booted rt) : RuntimeReachable rt
  | step {rt rt' : Runtime} (h : RuntimeReachable rt) (hstep : RuntimeStep rt rt') : RuntimeReachable rt'

theorem Booted.idle (h : Booted rt) : IdleGraph rt := by
  refine ⟨?_, ?_, h.activeOutput⟩
  · rw [h.graph]
    rfl
  · rw [h.graph]
    exact fun _ => rfl

theorem RuntimeStep.still (hI : Steady I) (h : RuntimeStep rt rt') (hrt : Still I rt) : Still I rt' := by
  cases h with
  | progress received run => exact (hI.appStep received _).post rt _ rt' hrt run
  | call run => exact (hI.runCall _).post rt _ rt' hrt run
  | dispatch run => exact (hI.daemonDispatch _).post rt _ rt' hrt run
  | activate links mutated run => exact (hI.adminActivate _ links mutated).post rt _ rt' ⟨rfl, hrt⟩ run
  | operate run => exact (hI.adminWorkerOperation _ _ _ _).post rt _ rt' hrt run

theorem RuntimeReachable.still (hI : Steady I) (hboot : ∀ rt, Booted rt → I rt.view) (h : RuntimeReachable rt) :
    Still I rt := by
  induction h with
  | boot h => exact ⟨h.idle, hboot _ h⟩
  | step _ hstep ih => exact hstep.still hI ih

theorem steady_sockets : Steady fun v => Reachable (fun _ t event => OwnerFresh t event) v.sockets where
  size hv := hv.lineage.size
  event {v event} busy hv hadmitted _ := hv.step (v.tcpEnv busy) event hadmitted.ownerFresh
  account _ hv := hv
  activate _ hv _ _ _ _ := hv
  relink _ _ hv := hv

theorem RuntimeReachable.still_sockets (h : RuntimeReachable rt) :
    Still (fun v => Reachable (fun _ t event => OwnerFresh t event) v.sockets) rt := by
  refine h.still steady_sockets fun rt hboot => ?_
  obtain ⟨capacity, hcapacity, hsockets⟩ := hboot.sockets
  change Reachable _ rt.sockets
  rw [hsockets]
  exact .init capacity hcapacity

theorem RuntimeReachable.idle (h : RuntimeReachable rt) : IdleGraph rt := h.still_sockets.1

theorem RuntimeReachable.sockets (h : RuntimeReachable rt) : Reachable (fun _ t event => OwnerFresh t event) rt.sockets :=
  h.still_sockets.2

def gatewayRuntime : Runtime where
  routing := { gatewayStart with network := some gatewaySnapshot }
  distinct := gatewayStart_distinct
  world := { hz := 1000, time := fun n => n, random := fun _ => 7, alloc := fun _ => true, burst := fun _ => 32 }
  sockets := socketSubsystemInit 4

theorem gatewayRuntime_booted : Booted gatewayRuntime where
  routing := by
    have hinit : netConfigInit gatewayStart = .ok gatewaySnapshot := by decide
    exact ⟨gatewayAppConfig, tapDevice, gatewayStart, rfl, .inr ⟨gatewaySnapshot, hinit, rfl⟩⟩
  sockets := ⟨4, by decide, rfl⟩
  graph := rfl
  activeOutput := rfl
  neighbours := rfl
  pending := rfl
  log := rfl
  aclStats := rfl

end PulsarNetstack
