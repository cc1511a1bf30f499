import PulsarNetstack.DatagramBatches
import PulsarNetstack.SocketSteps

namespace PulsarNetstack

section Queue

variable {ep ep' : UdpEndpoint} {d : UdpDatagram} {length : ℕ}

def UdpEndpoint.pending (ep : UdpEndpoint) : List UdpDatagram :=
  (List.range ep.count).map fun i => ep.queue.getD ((ep.head + i) % psDgramQueueSize) {}

structure UdpEndpoint.Ok (ep : UdpEndpoint) : Prop where
  queue : ep.queue.length = psDgramQueueSize
  head : ep.head < psDgramQueueSize
  count : ep.count ≤ psDgramQueueSize

def UdpEndpoint.ring (ep : UdpEndpoint) (h : ep.Ok) : RingBuffer UdpDatagram 16 where
  slots i := ep.queue.getD i.val {}
  head := ⟨ep.head, h.head⟩
  tail := ⟨(ep.head + ep.count) % 16, Nat.mod_lt _ (by decide)⟩
  count := ep.count
  count_le := h.count
  tail_eq := rfl

def UdpEndpoint.deliver (ep : UdpEndpoint) (d : UdpDatagram) : UdpEndpoint :=
  { ep with queue := ep.queue.set ((ep.head + ep.count) % psDgramQueueSize) d, count := ep.count + 1 }

theorem UdpEndpoint.Ok.deliver (h : ep.Ok) (hroom : ep.count ≠ psDgramQueueSize) (d : UdpDatagram) :
    (ep.deliver d).Ok ∧ (ep.deliver d).pending = ep.pending ++ [d] := by
  have hcount := h.count
  have hok : (ep.deliver d).Ok := ⟨by rw [UdpEndpoint.deliver, List.length_set, h.queue], h.head,
    Nat.lt_of_le_of_ne hcount hroom⟩
  refine ⟨hok, ?_⟩
  have hpush : (ep.ring h).push d = some ((ep.deliver d).ring hok) := by
    have hfull : (ep.ring h).count ≠ 16 := hroom
    rw [RingBuffer.push, dif_neg hfull]
    refine congrArg some (RingBuffer.ext (funext fun i => ?_) rfl ?_ rfl)
    · change Function.update (ep.ring h).slots (ep.ring h).tail d i = _
      by_cases hi : i = (ep.ring h).tail
      · rw [hi, Function.update_self]
        have hlt : (ep.head + ep.count) % psDgramQueueSize < ep.queue.length := by
          rw [h.queue]
          exact Nat.mod_lt _ (by decide)
        change d = (ep.queue.set ((ep.head + ep.count) % psDgramQueueSize) d).getD
          ((ep.head + ep.count) % psDgramQueueSize) {}
        rw [List.getD_eq_getElem?_getD, List.getElem?_set_self hlt]
        rfl
      · rw [Function.update_of_ne hi]
        have hne : (ep.head + ep.count) % psDgramQueueSize ≠ i.val := fun he => hi (Fin.ext he.symm)
        change ep.queue.getD i.val {} = (ep.queue.set ((ep.head + ep.count) % psDgramQueueSize) d).getD i.val {}
        rw [List.getD_eq_getElem?_getD, List.getD_eq_getElem?_getD, List.getElem?_set_ne hne]
    · apply Fin.ext
      change ((ep.head + ep.count) % 16 + 1) % 16 = (ep.head + (ep.count + 1)) % 16
      omega
  exact RingBuffer.toList_push hpush

theorem udpRecv_ok (h : ep.Ok) (hrecv : udpRecv ep length = (ep', .ok d)) :
    ep'.Ok ∧ ep.pending = d :: ep'.pending ∧ d.payload.length ≤ length := by
  unfold udpRecv at hrecv
  split at hrecv
  · cases (Prod.mk.inj hrecv).2
  dsimp only at hrecv
  split at hrecv
  · cases (Prod.mk.inj hrecv).2
  rename_i hcount hfits
  obtain ⟨rfl, hd⟩ := Prod.mk.inj hrecv
  obtain rfl := Except.ok.inj hd
  have hok : ({ ep with head := (ep.head + 1) % psDgramQueueSize, count := ep.count - 1 } : UdpEndpoint).Ok :=
    ⟨h.queue, Nat.mod_lt _ (by decide), Nat.le_trans (Nat.sub_le _ _) h.count⟩
  have hpop : (ep.ring h).pop = some (ep.queue.getD ep.head {}, UdpEndpoint.ring _ hok) := by
    have hsome : (ep.ring h).count ≠ 0 := hcount
    rw [RingBuffer.pop, dif_neg hsome]
    refine congrArg (fun r => some (ep.queue.getD ep.head {}, r)) (RingBuffer.ext rfl rfl (Fin.ext ?_) rfl)
    change (ep.head + ep.count) % 16 = ((ep.head + 1) % 16 + (ep.count - 1)) % 16
    omega
  exact ⟨hok, RingBuffer.toList_pop hpop, Nat.not_lt.mp hfits⟩

theorem udpRecv_error {e : Errno} (hrecv : udpRecv ep length = (ep', .error e)) : ep' = ep := by
  unfold udpRecv at hrecv
  split at hrecv
  · exact (Prod.mk.inj hrecv).1.symm
  dsimp only at hrecv
  split at hrecv
  · exact (Prod.mk.inj hrecv).1.symm
  · cases (Prod.mk.inj hrecv).2

end Queue

section Receive

variable {submit : Submit} {owner slot : ℕ} {core fd : ℤ} {s s' : SocketEntry} {rt rt' : Runtime} {m out : IpcMessage}
  {t : SocketTable} {next : Word}

theorem socketLookup_set (h : socketLookup t core = some (slot, s)) (ha : s'.allocated = s.allocated) (hfd : s'.fd = s.fd) :
    socketLookup (t.set slot s') core = some (slot, s') := by
  obtain ⟨hs, halloc, hpos, hcore⟩ := socketLookup_some h
  unfold socketLookup at h ⊢
  split at h
  · cases h
  rename_i hneg
  rw [if_neg hneg]
  dsimp only at h ⊢
  split at h
  · cases h
  split at h
  · have hslot := (Prod.mk.inj (Option.some.inj h)).1
    rw [hslot]
    have hi : slot < t.entries.length := (List.getElem?_eq_some_iff.mp hs).1
    rw [SocketTable.set, List.getElem?_set_self hi]
    dsimp only
    rw [if_pos ⟨ha.trans halloc, by rw [hfd]; exact hcore⟩]
  · cases h

theorem socketLookup_frame {t' : SocketTable} (h : socketLookup t core = some (slot, s))
    (hframe : t'.entries[slot]? = t.entries[slot]?) : socketLookup t' core = some (slot, s) := by
  unfold socketLookup at h ⊢
  split at h
  · cases h
  rename_i hneg
  rw [if_neg hneg]
  dsimp only at h ⊢
  split at h
  · cases h
  rename_i a hs
  split at h
  · rename_i hfd
    obtain ⟨hslot, rfl⟩ := Prod.mk.inj (Option.some.inj h)
    rw [hslot] at hs ⊢
    rw [hframe, hs]
    exact if_pos hfd
  · cases h

theorem DatagramSession.getSocket (h : DatagramSession rt owner core slot s) :
    getSocket rt.sockets core = some (slot, s) := by
  rw [PulsarNetstack.getSocket, h.lookup, Option.filter_some, if_pos h.isOpen]

theorem DatagramSession.update (h : DatagramSession rt owner core slot s) (ep : UdpEndpoint)
    (hrt : rt'.sockets = rt.sockets.set slot { s with udp := ep }) :
    DatagramSession rt' owner core slot { s with udp := ep } :=
  ⟨h.session, by rw [hrt]; exact socketLookup_set h.lookup rfl rfl, h.isOpen, h.owner, h.type⟩

def recvfromReply (r : Except Errno UdpDatagram) : CallReply :=
  .of r fun d => { result := .ok d.payload.length, addr := d.source, data := d.payload }

def Runtime.setEndpoint (rt : Runtime) (slot : ℕ) (s : SocketEntry) (ep : UdpEndpoint) : Runtime :=
  { rt with calls := rt.calls + 1, sockets := rt.sockets.set slot { s with udp := ep } }

theorem runCall_recvfrom (h : DatagramSession rt owner core slot s) (length : ℕ) :
    runCall submit (.recvfrom core length) rt =
      some (recvfromReply (udpRecv s.udp length).2, rt.setEndpoint slot s (udpRecv s.udp length).1) := by
  have hcall : coreRecvfrom rt.sockets core true length =
      (rt.sockets.set slot { s with udp := (udpRecv s.udp length).1 }, (udpRecv s.udp length).2) := by
    rw [coreRecvfrom, h.getSocket]
    dsimp only
    rw [if_neg (not_not.mpr h.type)]
    rfl
  unfold runCall tableCall
  change some (CallReply.of (coreRecvfrom rt.sockets core true length).2 _,
    { rt with calls := rt.calls + 1, sockets := (coreRecvfrom rt.sockets core true length).1 }) = _
  rw [hcall]
  rfl

structure Holding (rt : Runtime) (owner : ℕ) (core : ℤ) (slot : ℕ) (pending : List UdpDatagram) : Prop where
  session : ∃ s, DatagramSession rt owner core slot s ∧ s.udp.Ok ∧ s.udp.pending = pending

variable {pending : List UdpDatagram}

theorem Holding.receive (h : Holding rt owner core slot pending) (submit : Submit) (length : ℕ) :
    ∃ reply rt', runCall submit (.recvfrom core length) rt = some (reply, rt') ∧
      ((∃ d rest, pending = d :: rest ∧ d.payload.length ≤ length ∧ reply = recvfromReply (.ok d) ∧
          Holding rt' owner core slot rest) ∨
        (∃ e, reply = recvfromReply (.error e) ∧ Holding rt' owner core slot pending)) := by
  obtain ⟨s, hsession, hok, rfl⟩ := h.session
  refine ⟨_, _, runCall_recvfrom hsession length, ?_⟩
  generalize hrecv : udpRecv s.udp length = r
  obtain ⟨ep, r⟩ := r
  cases r with
  | ok d =>
    obtain ⟨hep, hpending, hlength⟩ := udpRecv_ok hok hrecv
    exact .inl ⟨d, ep.pending, hpending, hlength, rfl, ⟨_, hsession.update ep rfl, hep, rfl⟩⟩
  | error e =>
    obtain rfl := udpRecv_error hrecv
    exact .inr ⟨e, rfl, ⟨_, hsession.update s.udp rfl, hok, rfl⟩⟩

inductive FitsIn : List UdpDatagram → List ℕ → Prop
  | nil (capacities : List ℕ) : FitsIn [] capacities
  | cons {d : UdpDatagram} {ds : List UdpDatagram} {capacity : ℕ} {capacities : List ℕ} :
      d.payload.length ≤ capacity → FitsIn ds capacities → FitsIn (d :: ds) (capacity :: capacities)

def UdpDatagram.record (d : UdpDatagram) : SockAddr × List Byte := (d.source, d.payload)

structure BatchOutcome (received : ℕ) (capacities : List ℕ) (out out' : IpcMessage) (ds : List UdpDatagram) : Prop where
  id : out'.id = out.id
  op : out'.op = out.op
  fits : FitsIn ds capacities
  data : out'.data = out.data ++ (ds.map UdpDatagram.record).flatMap encodeDatagram
  length : out'.data.length ≤ ipcPayloadMax
  result : received + ds.length = 0 ∧ capacities ≠ [] ∧ (∃ e : Errno, out'.result = -e.code) ∨
    received + ds.length = 0 ∧ capacities = [] ∨
    0 < received + ds.length ∧ out'.result = ((received + ds.length : ℕ) : ℤ)

theorem receiveDatagrams_called {submit : Submit} {capacity received : ℕ} {capacities : List ℕ} {out : IpcMessage}
    {reply : CallReply} {rt₁ : Runtime} (hroom : ¬ ipcPayloadMax - out.data.length < ipcDgramHeader)
    (hcall : runCall submit (.recvfrom core (min capacity (ipcPayloadMax - out.data.length - ipcDgramHeader))) rt =
      some (reply, rt₁)) :
    receiveDatagrams submit core received (capacity :: capacities) out rt = match reply.result with
      | .error e => some (if received = 0 then { out with result := -e.code } else out, rt₁)
      | .ok n => receiveDatagrams submit core (received + 1) capacities
          { out with data := out.data ++ ipcDatagramEncode reply.addr n ++ reply.data, result := received + 1 } rt₁ := by
  rw [receiveDatagrams, if_neg hroom]
  rw [Program.bind_run, hcall]
  cases reply with
  | mk r addr data => cases r <;> rfl

theorem receiveDatagrams_outcome (submit : Submit) (capacities : List ℕ) (received : ℕ) (out : IpcMessage)
    {pending : List UdpDatagram}
    (h : Holding rt owner core slot pending) (hlen : out.data.length ≤ ipcPayloadMax)
    (hfirst : received = 0 → out.data = []) (hresult : received ≠ 0 → out.result = received) :
    ∃ out' rt' ds rest, receiveDatagrams submit core received capacities out rt = some (out', rt') ∧
      pending = ds ++ rest ∧ Holding rt' owner core slot rest ∧ BatchOutcome received capacities out out' ds := by
  induction capacities generalizing received out rt pending with
  | nil =>
    refine ⟨out, rt, [], pending, rfl, rfl, h, rfl, rfl, .nil _, by simp, hlen, ?_⟩
    rcases Nat.eq_zero_or_pos received with rfl | hpos
    · exact .inr (.inl ⟨rfl, rfl⟩)
    · exact .inr (.inr ⟨hpos, hresult (Nat.ne_of_gt hpos)⟩)
  | cons capacity capacities ih =>
    by_cases hroom : ipcPayloadMax - out.data.length < ipcDgramHeader
    · -- The response is full: the loop stops here.
      have hpos : 0 < received := by
        rcases Nat.eq_zero_or_pos received with hzero | hpos
        · rw [hfirst hzero] at hroom
          exact absurd hroom (by decide)
        · exact hpos
      refine ⟨out, rt, [], pending, ?_, rfl, h, rfl, rfl, .nil _, by simp, hlen,
        .inr (.inr ⟨hpos, hresult (Nat.ne_of_gt hpos)⟩)⟩
      rw [receiveDatagrams, if_pos hroom]
      rfl
    obtain ⟨reply, rt₁, hcall, hcases⟩ := h.receive submit
      (min capacity (ipcPayloadMax - out.data.length - ipcDgramHeader))
    rw [receiveDatagrams_called hroom hcall]
    rcases hcases with ⟨d, rest, rfl, hd, rfl, hrest⟩ | ⟨e, rfl, hsame⟩
    · have hdata : (out.data ++ ipcDatagramEncode d.source d.payload.length ++ d.payload).length =
          out.data.length + ipcDgramHeader + d.payload.length := by
        rw [List.length_append, List.length_append, ipcDatagramEncode_length]
      have hsmall : (out.data ++ ipcDatagramEncode d.source d.payload.length ++ d.payload).length ≤ ipcPayloadMax := by
        rw [hdata]
        omega
      obtain ⟨out', rt', ds, rest', hrun, rfl, hhold, hout⟩ := ih (received + 1)
        { out with data := out.data ++ ipcDatagramEncode d.source d.payload.length ++ d.payload, result := received + 1 }
        hrest hsmall (fun hzero => absurd hzero (Nat.succ_ne_zero _)) fun _ => rfl
      refine ⟨out', rt', d :: ds, rest', hrun, rfl, hhold, hout.id, hout.op, .cons (by omega) hout.fits, ?_, hout.length, ?_⟩
      · rw [hout.data, List.map_cons, List.flatMap_cons]
        simp only [encodeDatagram, UdpDatagram.record, List.append_assoc]
      · right
        right
        refine ⟨by rw [List.length_cons]; omega, ?_⟩
        rcases hout.result with ⟨hzero, -⟩ | ⟨hzero, -⟩ | ⟨-, hvalue⟩
        · omega
        · omega
        · rw [hvalue, List.length_cons]
          omega
    · refine ⟨if received = 0 then { out with result := -e.code } else out, rt₁, [], pending, rfl, rfl, hsame, ?_⟩
      by_cases hzero : received = 0
      · rw [if_pos hzero]
        exact ⟨rfl, rfl, .nil _, by simp, hlen, .inl ⟨by rw [hzero]; rfl, List.cons_ne_nil _ _, e, rfl⟩⟩
      · rw [if_neg hzero]
        exact ⟨rfl, rfl, .nil _, by simp, hlen, .inr (.inr ⟨Nat.pos_of_ne_zero hzero, hresult hzero⟩)⟩

theorem Holding.recvfrom_exchange (h : Holding rt owner core slot pending) (submit : Submit)
    (hop : ipcOperation m.op = some .recvfrom) (hvalid : ipcRequestValid { m with fd := core } = true) :
    ∃ out rt', sessionExchange submit owner core m rt = some (out, rt') ∧ out.id = m.id ∧ out.op = m.op ∧
      ((∃ d rest, pending = d :: rest ∧ d.payload.length ≤ m.a.toNat ∧ out.result = d.payload.length ∧
          out.addr = d.source ∧ out.data = d.payload ∧ Holding rt' owner core slot rest) ∨
        (∃ e : Errno, out.result = -e.code ∧ out.data = [] ∧ Holding rt' owner core slot pending)) := by
  obtain ⟨s, hsession, -, -⟩ := h.session
  obtain ⟨reply, rt', hcall, hcases⟩ := h.receive submit m.a.toNat
  refine ⟨{ emptyResponse { m with fd := core } with
    result := resultCode reply.result, addr := reply.addr, data := reply.data }, rt', ?_, rfl, rfl, ?_⟩
  · rw [hsession.dispatch submit hop nofun nofun hvalid]
    change (runCall submit (.recvfrom core m.a.toNat) >>= _) rt = _
    rw [Program.bind_run, hcall]
    rfl
  · rcases hcases with ⟨d, rest, rfl, hd, rfl, hrest⟩ | ⟨e, rfl, hsame⟩
    · exact .inl ⟨d, rest, rfl, hd, rfl, rfl, rfl, hrest⟩
    · exact .inr ⟨e, rfl, rfl, hsame⟩

def batchCapacities (m : IpcMessage) : List ℕ := (List.range m.a.toNat).map fun i => be32 m.data (i * 4)

theorem Holding.recvmmsg_exchange (h : Holding rt owner core slot pending) (submit : Submit)
    (hop : ipcOperation m.op = some .recvmmsg) (hvalid : ipcRequestValid { m with fd := core } = true) :
    ∃ out rt' ds rest, sessionExchange submit owner core m rt = some (out, rt') ∧ pending = ds ++ rest ∧
      Holding rt' owner core slot rest ∧ ((∀ c ∈ batchCapacities m, c ≤ psDgramMaxPayload) ∧
          BatchOutcome 0 (batchCapacities m) (emptyResponse { m with fd := core }) out ds ∨
        (∃ c ∈ batchCapacities m, psDgramMaxPayload < c) ∧ ds = [] ∧ out.data = [] ∧
          out.result = -Errno.einval.code) := by
  obtain ⟨s, hsession, -, -⟩ := h.session
  have hdispatch := hsession.dispatch submit hop nofun nofun hvalid
  by_cases hlarge : ((batchCapacities m).any fun c => decide (psDgramMaxPayload < c)) = true
  · refine ⟨{ emptyResponse { m with fd := core } with result := -Errno.einval.code }, rt, [], pending, ?_, rfl, h, .inr ?_⟩
    · rw [hdispatch]
      change receiveBatch submit { m with fd := core } _ rt = _
      unfold receiveBatch
      dsimp only
      rw [show ((List.range m.a.toNat).map fun i => be32 m.data (i * 4)) = batchCapacities m from rfl, if_pos hlarge]
      rfl
    · obtain ⟨c, hc, hcapacity⟩ := List.any_eq_true.mp hlarge
      exact ⟨⟨c, hc, of_decide_eq_true hcapacity⟩, rfl, rfl, rfl⟩
  · obtain ⟨out, rt', ds, rest, hrun, hpending, hhold, hout⟩ := receiveDatagrams_outcome submit (batchCapacities m) 0
      (emptyResponse { m with fd := core }) h (Nat.zero_le _) (fun _ => rfl) nofun
    refine ⟨out, rt', ds, rest, ?_, hpending, hhold, .inl ⟨fun c hc => Nat.not_lt.mp fun hlt => hlarge ?_, hout⟩⟩
    · rw [hdispatch]
      change receiveBatch submit { m with fd := core } _ rt = _
      unfold receiveBatch
      dsimp only
      rw [show ((List.range m.a.toNat).map fun i => be32 m.data (i * 4)) = batchCapacities m from rfl, if_neg hlarge]
      exact hrun
    · exact List.any_eq_true.mpr ⟨c, hc, decide_eq_true hlt⟩

def Takes {α : Type} (received : α → List UdpDatagram) (pending : List UdpDatagram) (reply : ClientReply α)
    (rest : List UdpDatagram) : Prop :=
  (∃ a, reply = .ok a ∧ pending = received a ++ rest) ∨ (∃ code, reply = .failed code) ∧ pending = rest

theorem responseReply_failed {e : Errno} (hid : out.id = m.id) (hop : out.op = m.op) (hdata : out.data = [])
    (hresult : out.result = -e.code) : responseReply m out = .failed (-e.code) := by
  have hneg : (-e.code : ℤ) < 0 := by cases e <;> decide
  rw [responseReply, hid, hop, hdata, hresult, if_neg (by simp), if_pos hneg]

theorem responseReply_ok {n : ℕ} (hid : out.id = m.id) (hop : out.op = m.op) (hresult : out.result = n) :
    responseReply m out = .ok out := by
  have hpos : ¬ out.result < 0 := by omega
  rw [responseReply, hid, hop, if_neg (by simp [hpos]), if_neg hpos]

theorem ipcRequestValid_recvfrom {requested : ℕ} (id : Word) (fd : ℤ) (hlen : requested ≤ ipcPayloadMax) :
    ipcRequestValid { op := ipcRecvfrom, id := id, fd := fd, a := requested } = true := by
  have hrecvfrom : ipcOperation ipcRecvfrom = some .recvfrom := by decide
  simp only [ipcRequestValid, hrecvfrom, Option.any_some, ipcShapeValid, List.length_nil, Bool.and_eq_true,
    decide_eq_true_eq, beq_self_eq_true, true_and]
  exact ⟨Nat.zero_le _, Int.natCast_nonneg _, by exact_mod_cast hlen⟩

theorem Holding.psRecvfrom (h : Holding rt owner core slot pending) (submit : Submit) (next : Word) (fd : ℤ)
    (hasData : Bool) (len : ℕ) : ∃ reply rt' rest,
      psRecvfrom (sessionExchange submit owner core) next fd hasData len rt = some (reply, rt') ∧
        Holding rt' owner core slot rest ∧ Takes (fun d => [d]) pending reply rest := by
  by_cases hnull : !hasData ∧ len ≠ 0
  · refine ⟨.failed (-Errno.einval.code), rt, pending, ?_, h, .inr ⟨⟨_, rfl⟩, rfl⟩⟩
    rw [PulsarNetstack.psRecvfrom, if_pos hnull]
    rfl
  have hlen : min len ipcPayloadMax ≤ ipcPayloadMax := Nat.min_le_right _ _
  generalize hrequested : min len ipcPayloadMax = requested at hlen
  obtain ⟨out, rt', hexchange, hid, hop, hcases⟩ := h.recvfrom_exchange submit
    (m := { op := ipcRecvfrom, id := nextId next, fd := fd, a := requested })
    (show ipcOperation ipcRecvfrom = some .recvfrom by decide) (ipcRequestValid_recvfrom _ _ hlen)
  have hrun : PulsarNetstack.psRecvfrom (sessionExchange submit owner core) next fd hasData len rt = some
      ((responseReply { op := ipcRecvfrom, id := nextId next, fd := fd, a := requested } out).bind (recvReply requested),
        rt') := by
    rw [PulsarNetstack.psRecvfrom, if_neg hnull, clientRequest_bind, hrequested]
    exact congrArg (Option.map _) hexchange
  rcases hcases with ⟨d, rest, rfl, hd, hresult, haddr, hdata, hrest⟩ | ⟨e, hresult, hdata, hsame⟩
  · refine ⟨_, rt', rest, hrun, hrest, .inl ⟨d, ?_, rfl⟩⟩
    rw [responseReply_ok hid hop hresult]
    change recvReply requested out = _
    have hd : d.payload.length ≤ requested := hd
    rw [recvReply, hresult, haddr, hdata, if_neg]
    simpa using hd
  · refine ⟨_, rt', pending, hrun, hsame, .inr ⟨⟨-e.code, ?_⟩, rfl⟩⟩
    rw [responseReply_failed hid hop hdata hresult]
    rfl

theorem FitsIn.length_le {ds : List UdpDatagram} {capacities : List ℕ} (h : FitsIn ds capacities) :
    ds.length ≤ capacities.length := by
  induction h with
  | nil => exact Nat.zero_le _
  | cons _ _ ih => exact Nat.succ_le_succ ih

def PsBuffer.capacity (b : PsBuffer) : ℕ := min b.len psDgramMaxPayload

theorem unpackMessages_encode {ds : List UdpDatagram} {buffers : List PsBuffer}
    (h : FitsIn ds (buffers.map PsBuffer.capacity)) :
    unpackMessages ds.length buffers ((ds.map UdpDatagram.record).flatMap encodeDatagram) = some ds := by
  induction ds generalizing buffers with
  | nil => cases buffers <;> rfl
  | cons d ds ih =>
    cases buffers with
    | nil => cases h
    | cons buffer buffers =>
      cases h with
      | cons hd hds =>
        have hbuffer : d.payload.length ≤ buffer.len := hd.trans (Nat.min_le_left _ _)
        have hmax : d.payload.length ≤ psDgramMaxPayload := hd.trans (Nat.min_le_right _ _)
        have hdecode := ipcDatagramDecode_encode d.source hmax ((ds.map UdpDatagram.record).flatMap encodeDatagram)
        have hdrop : (encodeDatagram d.record ++ (ds.map UdpDatagram.record).flatMap encodeDatagram).drop
            (ipcDgramHeader + d.payload.length) = (ds.map UdpDatagram.record).flatMap encodeDatagram :=
          List.drop_left' (encodeDatagram_length d.record)
        have hpayload : ((encodeDatagram d.record ++ (ds.map UdpDatagram.record).flatMap encodeDatagram).drop
            ipcDgramHeader).take d.payload.length = d.payload := by
          rw [encodeDatagram, List.append_assoc, List.drop_left' (ipcDatagramEncode_length _ _)]
          exact List.take_left
        rw [List.map_cons, List.flatMap_cons, List.length_cons, unpackMessages]
        change (ipcDatagramDecode (encodeDatagram d.record ++ (ds.map UdpDatagram.record).flatMap encodeDatagram) >>= _) = _
        rw [show ipcDatagramDecode (encodeDatagram d.record ++ (ds.map UdpDatagram.record).flatMap encodeDatagram) =
          some (d.source, d.payload.length) from hdecode]
        change (if buffer.len < d.payload.length then none else
          unpackMessages ds.length buffers ((encodeDatagram d.record ++
            (ds.map UdpDatagram.record).flatMap encodeDatagram).drop (ipcDgramHeader + d.payload.length)) >>= fun rest =>
              some (⟨d.source, ((encodeDatagram d.record ++ (ds.map UdpDatagram.record).flatMap encodeDatagram).drop
                ipcDgramHeader).take d.payload.length⟩ :: rest)) = _
        rw [if_neg (Nat.not_lt.mpr hbuffer), hpayload, hdrop, ih hds]
        rfl

theorem range_be32 (i n : ℕ) (b : List Byte) :
    (List.range n).map (fun j => be32 b (j * 4)) = (getFields (fun _ => false) i n b).map BitVec.toNat := by
  induction n generalizing i b with
  | zero => rfl
  | succ n ih =>
    rw [List.range_succ_eq_map, List.map_cons, List.map_map, getFields, List.map_cons, ← ih (i + 1) (b.drop 4)]
    refine congrArg₂ List.cons (be32_eq_getWord b 0) (List.map_congr_left fun j _ => ?_)
    change be32 b (j.succ * 4) = be32 (b.drop 4) (j * 4)
    rw [be32_eq_getWord, be32_eq_getWord, getWord_drop, Nat.succ_mul, Nat.add_comm]

theorem putFields_be32Bytes (i : ℕ) (ws : List Word) : putFields (fun _ => false) i ws = ws.flatMap be32Bytes := by
  induction ws generalizing i with
  | nil => rfl
  | cons w ws ih =>
    rw [putFields, ih, List.flatMap_cons]
    rfl

def recvmmsgRequest (id : Word) (fd : ℤ) (buffers : List PsBuffer) : IpcMessage :=
  { op := ipcRecvmmsg, id := id, fd := fd, a := buffers.length
    data := buffers.flatMap fun b => be32Bytes (BitVec.ofNat 32 (min b.len psDgramMaxPayload)) }

theorem recvmmsgRequest_data (id : Word) (fd : ℤ) (buffers : List PsBuffer) : (recvmmsgRequest id fd buffers).data =
    putFields (fun _ => false) 0 (buffers.map fun b => BitVec.ofNat 32 b.capacity) := by
  rw [putFields_be32Bytes, List.flatMap_map]
  rfl

theorem recvmmsgRequest_capacities (id : Word) (fd : ℤ) (buffers : List PsBuffer) :
    batchCapacities (recvmmsgRequest id fd buffers) = buffers.map PsBuffer.capacity := by
  rw [batchCapacities, range_be32 0, recvmmsgRequest_data]
  have hwords := getFields_putFields (fun _ => false) 0 (buffers.map fun b => BitVec.ofNat 32 b.capacity) []
  rw [List.append_nil, List.length_map] at hwords
  change (getFields _ 0 buffers.length _).map _ = _
  rw [hwords, List.map_map]
  apply List.map_congr_left
  intro b _
  have hsmall : b.capacity ≤ psDgramMaxPayload := Nat.min_le_right _ _
  change (BitVec.ofNat 32 b.capacity).toNat = b.capacity
  rw [BitVec.toNat_ofNat]
  exact Nat.mod_eq_of_lt (Nat.lt_of_le_of_lt hsmall (by decide))

theorem ipcRequestValid_recvmmsg (id : Word) (fd : ℤ) {buffers : List PsBuffer} (hne : buffers ≠ [])
    (hmax : buffers.length ≤ psDgramBatchMax) : ipcRequestValid (recvmmsgRequest id fd buffers) = true := by
  have hrecvmmsg : ipcOperation ipcRecvmmsg = some .recvmmsg := by decide
  have hlength : (recvmmsgRequest id fd buffers).data.length = 4 * buffers.length := by
    rw [recvmmsgRequest_data, putFields_length, List.length_map]
  have hpos : 0 < buffers.length := List.length_pos_iff.mpr hne
  have hop : (recvmmsgRequest id fd buffers).op = ipcRecvmmsg := rfl
  have ha : (recvmmsgRequest id fd buffers).a = buffers.length := rfl
  have hresult : (recvmmsgRequest id fd buffers).result = 0 := rfl
  simp only [ipcRequestValid, hop, hrecvmmsg, Option.any_some, ipcShapeValid, hresult, ha, hlength, Bool.and_eq_true,
    decide_eq_true_eq, beq_self_eq_true, true_and]
  unfold psDgramBatchMax at hmax ⊢
  unfold ipcPayloadMax
  omega

theorem Holding.psRecvmmsg (h : Holding rt owner core slot pending) (submit : Submit) (next : Word) (fd : ℤ)
    (buffers : List PsBuffer) : ∃ reply rt' rest,
      psRecvmmsg (sessionExchange submit owner core) next fd buffers rt = some (reply, rt') ∧
        Holding rt' owner core slot rest ∧ Takes id pending reply rest := by
  by_cases hcount : buffers = [] ∨ psDgramBatchMax < buffers.length
  · refine ⟨.failed (-Errno.einval.code), rt, pending, ?_, h, .inr ⟨⟨_, rfl⟩, rfl⟩⟩
    rw [PulsarNetstack.psRecvmmsg, if_pos hcount]
    rfl
  by_cases hnull : (buffers.any fun b => !b.hasData && b.len != 0) = true
  · refine ⟨.failed (-Errno.einval.code), rt, pending, ?_, h, .inr ⟨⟨_, rfl⟩, rfl⟩⟩
    rw [PulsarNetstack.psRecvmmsg, if_neg hcount, if_pos hnull]
    rfl
  obtain ⟨hne, hmax⟩ := not_or.mp hcount
  obtain ⟨out, rt', ds, rest, hexchange, rfl, hhold, hout⟩ := h.recvmmsg_exchange submit
    (m := recvmmsgRequest (nextId next) fd buffers) (show ipcOperation ipcRecvmmsg = some .recvmmsg by decide)
    (ipcRequestValid_recvmmsg _ core hne (Nat.not_lt.mp hmax))
  have hrun : PulsarNetstack.psRecvmmsg (sessionExchange submit owner core) next fd buffers rt = some
      ((responseReply (recvmmsgRequest (nextId next) fd buffers) out).bind (recvmmsgReply buffers), rt') := by
    rw [PulsarNetstack.psRecvmmsg, if_neg hcount, if_neg hnull, clientRequest_bind]
    exact congrArg (Option.map _) hexchange
  refine ⟨_, rt', rest, hrun, hhold, ?_⟩
  rw [recvmmsgRequest_capacities] at hout
  rcases hout with ⟨-, hout⟩ | ⟨⟨c, hc, hlarge⟩, -⟩
  · have hid : out.id = (recvmmsgRequest (nextId next) fd buffers).id := hout.id
    have hop : out.op = (recvmmsgRequest (nextId next) fd buffers).op := hout.op
    rcases hout.result with ⟨hzero, -, e, hresult⟩ | ⟨-, hempty⟩ | ⟨hpos, hresult⟩
    · obtain rfl : ds = [] := List.length_eq_zero_iff.mp (by omega)
      rw [responseReply_failed hid hop hout.data hresult]
      exact .inr ⟨⟨_, rfl⟩, rfl⟩
    · exact absurd (List.map_eq_nil_iff.mp hempty) hne
    · rw [Nat.zero_add] at hpos hresult
      have hle : ds.length ≤ buffers.length := by
        have := hout.fits.length_le
        rwa [List.length_map] at this
      have hdata : out.data = (ds.map UdpDatagram.record).flatMap encodeDatagram := hout.data
      rw [responseReply_ok hid hop hresult]
      refine .inl ⟨ds, ?_, rfl⟩
      change recvmmsgReply buffers out = _
      rw [recvmmsgReply, hresult, hdata, if_neg (by omega), Int.toNat_natCast, unpackMessages_encode hout.fits]
  · obtain ⟨b, -, rfl⟩ := List.mem_map.mp hc
    exact absurd hlarge (Nat.not_lt.mpr (Nat.min_le_right _ _))

theorem udpDeliver_cases (t : SocketTable) (localIp : Word) (port : Word16) (source : SockAddr) (payload : List Byte) :
    (∃ e, udpDeliver t localIp port source payload = (t, .error e)) ∨
      ∃ i s, socketBound t .dgram localIp port = some i ∧ t.entries[i]? = some s ∧ s.udp.count ≠ psDgramQueueSize ∧
        udpDeliver t localIp port source payload =
          (t.set i { s with udp := s.udp.deliver ⟨source, payload⟩ }, .ok ()) := by
  unfold udpDeliver
  cases hbound : socketBound t .dgram localIp port with
  | none => exact .inl ⟨_, rfl⟩
  | some i =>
    obtain ⟨s, hs, hd⟩ := socketBound_some hbound
    dsimp only
    rw [hd]
    split
    · exact .inl ⟨_, rfl⟩
    split
    · exact .inl ⟨_, rfl⟩
    split
    · exact .inl ⟨_, rfl⟩
    · rename_i hfull
      exact .inr ⟨i, s, rfl, hs, hfull, rfl⟩

def acceptedFor (slot : ℕ) (t : SocketTable) (localIp : Word) (port : Word16) (source : SockAddr) (payload : List Byte) :
    List UdpDatagram :=
  match (udpDeliver t localIp port source payload).2 with
  | .ok _ => if socketBound t .dgram localIp port = some slot then [⟨source, payload⟩] else []
  | .error _ => []

theorem Holding.frame (h : Holding rt owner core slot pending)
    (hframe : rt'.sockets.entries[slot]? = rt.sockets.entries[slot]?) : Holding rt' owner core slot pending := by
  obtain ⟨s, hsession, hok, hpending⟩ := h.session
  exact ⟨s, ⟨hsession.session, socketLookup_frame hsession.lookup hframe, hsession.isOpen, hsession.owner, hsession.type⟩,
    hok, hpending⟩

theorem Holding.deliver (h : Holding rt owner core slot pending) (localIp : Word) (port : Word16) (source : SockAddr)
    (payload : List Byte) (hrt : rt'.sockets = (udpDeliver rt.sockets localIp port source payload).1) :
    Holding rt' owner core slot (pending ++ acceptedFor slot rt.sockets localIp port source payload) := by
  rcases udpDeliver_cases rt.sockets localIp port source payload with ⟨e, hresult⟩ | ⟨i, a, hbound, ha, hroom, hresult⟩
  · rw [hresult] at hrt
    rw [acceptedFor, hresult, List.append_nil]
    exact h.frame (congrArg (fun t => t.entries[slot]?) hrt)
  rw [hresult] at hrt
  rw [acceptedFor, hresult, hbound]
  dsimp only
  by_cases hi : i = slot
  · subst hi
    obtain ⟨s, hsession, hok, rfl⟩ := h.session
    obtain rfl := Option.some.inj (ha.symm.trans (socketLookup_some hsession.lookup).1)
    obtain ⟨hok', hpending⟩ := hok.deliver hroom ⟨source, payload⟩
    rw [if_pos rfl]
    exact ⟨_, hsession.update (a.udp.deliver ⟨source, payload⟩) hrt, hok', hpending⟩
  · rw [if_neg fun he => hi (Option.some.inj he), List.append_nil]
    apply h.frame
    rw [hrt]
    exact List.getElem?_set_ne hi

def CallReply.datagrams (reply : CallReply) : List UdpDatagram :=
  match reply.result with
  | .ok _ => [⟨reply.addr, reply.data⟩]
  | .error _ => []

def ClientReply.datagrams {α : Type} (received : α → List UdpDatagram) : ClientReply α → List UdpDatagram
  | .ok a => received a
  | _ => []

def IpcMessage.Receives (m : IpcMessage) (core : ℤ) : Prop :=
  (ipcOperation m.op = some .recvfrom ∨ ipcOperation m.op = some .recvmmsg) ∧ ipcRequestValid { m with fd := core } = true

def IpcMessage.received (m out : IpcMessage) : List UdpDatagram :=
  if out.result < 0 then []
  else if ipcOperation m.op = some .recvmmsg then
    (unpackMessages out.result.toNat ((batchCapacities m).map fun c => ⟨c, true⟩) out.data).getD []
  else [⟨out.addr, out.data⟩]

/-- A run of deliveries and receives on a socket, with the datagrams accepted for it and those handed to its client. -/
inductive ReceiveRun (submit : Submit) (owner : ℕ) (core : ℤ) (slot : ℕ) :
    Runtime → List UdpDatagram → List UdpDatagram → Prop
  | start {rt : Runtime} {s : SocketEntry} : DatagramSession rt owner core slot s → s.udp = {} →
      ReceiveRun submit owner core slot rt [] []
  | deliver {rt rt' : Runtime} {accepted handed : List UdpDatagram} (localIp : Word) (port : Word16) (source : SockAddr)
      (payload : List Byte) : ReceiveRun submit owner core slot rt accepted handed →
      rt'.sockets = (udpDeliver rt.sockets localIp port source payload).1 →
      ReceiveRun submit owner core slot rt' (accepted ++ acceptedFor slot rt.sockets localIp port source payload) handed
  | call {rt rt' : Runtime} {accepted handed : List UdpDatagram} {reply : CallReply} (length : ℕ) :
      ReceiveRun submit owner core slot rt accepted handed →
      runCall submit (.recvfrom core length) rt = some (reply, rt') →
      ReceiveRun submit owner core slot rt' accepted (handed ++ reply.datagrams)
  | recvfrom {rt rt' : Runtime} {accepted handed : List UdpDatagram} {reply : ClientReply UdpDatagram} (next : Word) (fd : ℤ)
      (hasData : Bool) (len : ℕ) : ReceiveRun submit owner core slot rt accepted handed →
      psRecvfrom (sessionExchange submit owner core) next fd hasData len rt = some (reply, rt') →
      ReceiveRun submit owner core slot rt' accepted (handed ++ reply.datagrams fun d => [d])
  | recvmmsg {rt rt' : Runtime} {accepted handed : List UdpDatagram} {reply : ClientReply (List UdpDatagram)} (next : Word)
      (fd : ℤ) (buffers : List PsBuffer) : ReceiveRun submit owner core slot rt accepted handed →
      psRecvmmsg (sessionExchange submit owner core) next fd buffers rt = some (reply, rt') →
      ReceiveRun submit owner core slot rt' accepted (handed ++ reply.datagrams id)
  -- A request that another client library than libpulsar may send.
  | exchange {rt rt' : Runtime} {accepted handed : List UdpDatagram} {m out : IpcMessage} :
      ReceiveRun submit owner core slot rt accepted handed → m.Receives core →
      sessionExchange submit owner core m rt = some (out, rt') →
      ReceiveRun submit owner core slot rt' accepted (handed ++ m.received out)
  -- Anything else that leaves the socket alone.
  | other {rt rt' : Runtime} {accepted handed : List UdpDatagram} : ReceiveRun submit owner core slot rt accepted handed →
      rt'.sockets.entries[slot]? = rt.sockets.entries[slot]? → ReceiveRun submit owner core slot rt' accepted handed

theorem Takes.datagrams {α : Type} {received : α → List UdpDatagram} {reply : ClientReply α} {rest : List UdpDatagram}
    (h : Takes received pending reply rest) : pending = reply.datagrams received ++ rest := by
  rcases h with ⟨a, rfl, h⟩ | ⟨⟨code, rfl⟩, h⟩
  · exact h
  · exact h

theorem BatchOutcome.received {ds : List UdpDatagram} {out₀ : IpcMessage} (h : BatchOutcome 0 (batchCapacities m) out₀ out ds)
    (hop : ipcOperation m.op = some .recvmmsg) (hne : batchCapacities m ≠ [])
    (hsmall : ∀ c ∈ batchCapacities m, c ≤ psDgramMaxPayload) (hdata : out₀.data = []) : m.received out = ds := by
  rw [IpcMessage.received, if_pos hop]
  rcases h.result with ⟨hzero, -, e, hresult⟩ | ⟨-, hempty⟩ | ⟨-, hresult⟩
  · rw [hresult, if_pos (by cases e <;> decide)]
    exact (List.length_eq_zero_iff.mp (by omega)).symm
  · exact absurd hempty hne
  · have hcapacities : ((batchCapacities m).map fun c => (⟨c, true⟩ : PsBuffer)).map PsBuffer.capacity = batchCapacities m := by
      rw [List.map_map]
      exact (List.map_congr_left fun c hc => Nat.min_eq_left (hsmall c hc)).trans (List.map_id _)
    rw [Nat.zero_add] at hresult
    rw [if_neg (by omega), hresult, h.data, hdata, List.nil_append, Int.toNat_natCast,
      unpackMessages_encode (by rw [hcapacities]; exact h.fits)]
    rfl

theorem Holding.exchange (h : Holding rt owner core slot pending) (submit : Submit) (hm : m.Receives core) :
    ∃ out rt' rest, sessionExchange submit owner core m rt = some (out, rt') ∧ Holding rt' owner core slot rest ∧
      pending = m.received out ++ rest ∧ out.data.length ≤ ipcPayloadMax ∧
      (ipcOperation m.op = some .recvmmsg → (∃ c ∈ batchCapacities m, psDgramMaxPayload < c) →
        out.result = -Errno.einval.code ∧ out.data = []) := by
  obtain ⟨hop | hop, hvalid⟩ := hm
  · obtain ⟨out, rt', hexchange, -, -, hcases⟩ := h.recvfrom_exchange submit hop hvalid
    have hother : ipcOperation m.op ≠ some .recvmmsg := by rw [hop]; decide
    rcases hcases with ⟨d, rest, rfl, hd, hresult, haddr, hdata, hrest⟩ | ⟨e, hresult, hdata, hsame⟩
    · refine ⟨out, rt', rest, hexchange, hrest, ?_, ?_, fun hbatch => absurd hbatch hother⟩
      · rw [IpcMessage.received, if_neg (by omega), if_neg hother, haddr, hdata]
        rfl
      · rw [ipcRequestValid, show ipcOperation ({ m with fd := core } : IpcMessage).op = _ from hop] at hvalid
        simp only [Option.any_some, ipcShapeValid, Bool.and_eq_true, decide_eq_true_eq] at hvalid
        rw [hdata]
        omega
    · refine ⟨out, rt', pending, hexchange, hsame, ?_, by rw [hdata]; exact Nat.zero_le _,
        fun hbatch => absurd hbatch hother⟩
      rw [IpcMessage.received, hresult, if_pos (by cases e <;> decide)]
      rfl
  · obtain ⟨out, rt', ds, rest, hexchange, rfl, hrest, ⟨hsmall, hout⟩ | ⟨-, rfl, hdata, hresult⟩⟩ :=
      h.recvmmsg_exchange submit hop hvalid
    · have hne : batchCapacities m ≠ [] := by
        rw [ipcRequestValid, show ipcOperation ({ m with fd := core } : IpcMessage).op = _ from hop] at hvalid
        simp only [Option.any_some, ipcShapeValid, Bool.and_eq_true, decide_eq_true_eq] at hvalid
        intro hnil
        have hlength : (batchCapacities m).length = m.a.toNat := by rw [batchCapacities, List.length_map, List.length_range]
        rw [hnil, List.length_nil] at hlength
        omega
      refine ⟨out, rt', rest, hexchange, hrest, by rw [hout.received hop hne hsmall rfl], hout.length, ?_⟩
      rintro - ⟨c, hc, hlarge⟩
      exact absurd hlarge (Nat.not_lt.mpr (hsmall c hc))
    · refine ⟨out, rt', rest, hexchange, hrest, ?_, by rw [hdata]; exact Nat.zero_le _, fun _ _ => ⟨hresult, hdata⟩⟩
      rw [IpcMessage.received, hresult, if_pos (by decide)]

theorem ReceiveRun.holding {accepted handed : List UdpDatagram} (h : ReceiveRun submit owner core slot rt accepted handed) :
    ∃ pending, Holding rt owner core slot pending ∧ accepted = handed ++ pending := by
  induction h with
  | start hsession hnew => exact ⟨[], ⟨_, hsession, by rw [hnew]; exact ⟨rfl, by decide, by decide⟩, by rw [hnew]; rfl⟩, rfl⟩
  | deliver localIp port source payload _ hrt ih =>
    obtain ⟨pending, hhold, rfl⟩ := ih
    exact ⟨_, hhold.deliver localIp port source payload hrt, List.append_assoc _ _ _⟩
  | call length _ hcall ih =>
    obtain ⟨pending, hhold, rfl⟩ := ih
    obtain ⟨reply, rt', hcall', hcases⟩ := hhold.receive submit length
    obtain ⟨rfl, rfl⟩ := Prod.mk.inj (Option.some.inj (hcall'.symm.trans hcall))
    rcases hcases with ⟨d, rest, rfl, -, rfl, hrest⟩ | ⟨e, rfl, hsame⟩
    · exact ⟨rest, hrest, by rw [List.append_assoc]; rfl⟩
    · exact ⟨pending, hsame, by rw [List.append_assoc]; rfl⟩
  | recvfrom next fd hasData len _ hcall ih =>
    obtain ⟨pending, hhold, rfl⟩ := ih
    obtain ⟨reply, rt', rest, hcall', hrest, htakes⟩ := hhold.psRecvfrom submit next fd hasData len
    obtain ⟨rfl, rfl⟩ := Prod.mk.inj (Option.some.inj (hcall'.symm.trans hcall))
    exact ⟨rest, hrest, by rw [List.append_assoc, ← htakes.datagrams]⟩
  | recvmmsg next fd buffers _ hcall ih =>
    obtain ⟨pending, hhold, rfl⟩ := ih
    obtain ⟨reply, rt', rest, hcall', hrest, htakes⟩ := hhold.psRecvmmsg submit next fd buffers
    obtain ⟨rfl, rfl⟩ := Prod.mk.inj (Option.some.inj (hcall'.symm.trans hcall))
    exact ⟨rest, hrest, by rw [List.append_assoc, ← htakes.datagrams]⟩
  | exchange _ hm hexchange ih =>
    obtain ⟨pending, hhold, rfl⟩ := ih
    obtain ⟨out, rt', rest, hexchange', hrest, rfl, -⟩ := hhold.exchange submit hm
    obtain ⟨rfl, rfl⟩ := Prod.mk.inj (Option.some.inj (hexchange'.symm.trans hexchange))
    exact ⟨rest, hrest, (List.append_assoc _ _ _).symm⟩
  | other _ hframe ih =>
    obtain ⟨pending, hhold, hlog⟩ := ih
    exact ⟨pending, hhold.frame hframe, hlog⟩

/-- The queue of a socket holds what was accepted and not yet handed over, whatever the receives were; every receive
returns, a response fits, the client accepts it, and a request with an invalid capacity is refused. -/
theorem datagrams_received_in_order {accepted handed : List UdpDatagram}
    (h : ReceiveRun submit owner core slot rt accepted handed) :
    ∃ s, rt.sockets.entries[slot]? = some s ∧ accepted = handed ++ s.udp.pending ∧
    (∀ next fd hasData len, ∃ reply rt', psRecvfrom (sessionExchange submit owner core) next fd hasData len rt =
      some (reply, rt') ∧ ∀ e, reply ≠ .broken e) ∧
    (∀ next fd buffers, ∃ reply rt', psRecvmmsg (sessionExchange submit owner core) next fd buffers rt =
      some (reply, rt') ∧ ∀ e, reply ≠ .broken e) ∧
    ∀ m, m.Receives core → ∃ out rt' s', sessionExchange submit owner core m rt = some (out, rt') ∧
      rt'.sockets.entries[slot]? = some s' ∧ s.udp.pending = m.received out ++ s'.udp.pending ∧
      out.data.length ≤ ipcPayloadMax ∧
      (ipcOperation m.op = some .recvmmsg → (∃ c ∈ batchCapacities m, psDgramMaxPayload < c) →
        out.result = -Errno.einval.code ∧ out.data = []) := by
  obtain ⟨pending, hhold, hlog⟩ := h.holding
  obtain ⟨s, hsession, -, rfl⟩ := hhold.session
  refine ⟨s, (socketLookup_some hsession.lookup).1, hlog, fun next fd hasData len => ?_, fun next fd buffers => ?_,
    fun m hm => ?_⟩
  · obtain ⟨reply, rt', rest, hcall, -, htakes⟩ := hhold.psRecvfrom submit next fd hasData len
    refine ⟨reply, rt', hcall, fun e he => ?_⟩
    rcases htakes with ⟨a, rfl, -⟩ | ⟨⟨code, rfl⟩, -⟩ <;> cases he
  · obtain ⟨reply, rt', rest, hcall, -, htakes⟩ := hhold.psRecvmmsg submit next fd buffers
    refine ⟨reply, rt', hcall, fun e he => ?_⟩
    rcases htakes with ⟨a, rfl, -⟩ | ⟨⟨code, rfl⟩, -⟩ <;> cases he
  · obtain ⟨out, rt', rest, hexchange, hrest, hpending, hlength, hrefused⟩ := hhold.exchange submit hm
    obtain ⟨s', hsession', -, rfl⟩ := hrest.session
    exact ⟨out, rt', s', hexchange, (socketLookup_some hsession'.lookup).1, hpending, hlength, hrefused⟩

def resolverAfter (payloads : List (List Byte)) : Runtime :=
  payloads.foldl (fun rt payload =>
    { rt with sockets := (udpDeliver rt.sockets 0x0100000a 53 ⟨0x0200000a, 9⟩ payload).1 }) resolverRuntime

def oversizedReceive : IpcMessage := { op := ipcRecvmmsg, id := 2, fd := 1, a := 1, data := be32Bytes 1473 }

-- The second datagram is longer than the second buffer, so the batch is cut after the first.
theorem datagrams_received_by_resolver : ∃ rt₁ rt₂ out s,
    psRecvmmsg (sessionExchange (fun _ _ => pure ⟨⟩) 7 1) 0 1 [⟨8, true⟩, ⟨2, true⟩] (resolverAfter [[1, 2], [3, 4, 5]]) =
      some (.ok [⟨⟨0x0200000a, 9⟩, [1, 2]⟩], rt₁) ∧
    sessionExchange (fun _ _ => pure ⟨⟩) 7 1 oversizedReceive rt₁ = some (out, rt₂) ∧ out.result = -Errno.einval.code ∧
    rt₂.sockets.entries[0]? = some s ∧ s.udp.pending = [⟨⟨0x0200000a, 9⟩, [3, 4, 5]⟩] := by
  have hfirst : ReceiveRun (fun _ _ => pure ⟨⟩) 7 1 0 (resolverAfter [[1, 2]]) _ [] :=
    .deliver 0x0100000a 53 ⟨0x0200000a, 9⟩ [1, 2] (.start resolverRuntime_session rfl) rfl
  have hdelivered : ReceiveRun (fun _ _ => pure ⟨⟩) 7 1 0 (resolverAfter [[1, 2], [3, 4, 5]]) _ [] :=
    .deliver 0x0100000a 53 ⟨0x0200000a, 9⟩ [3, 4, 5] hfirst rfl
  obtain ⟨-, -, -, -, hbatch, -⟩ := datagrams_received_in_order hdelivered
  obtain ⟨reply, rt₁, hrun, -⟩ := hbatch 0 1 [⟨8, true⟩, ⟨2, true⟩]
  have hreply : (psRecvmmsg (sessionExchange (fun _ _ => pure ⟨⟩) 7 1) 0 1 [⟨8, true⟩, ⟨2, true⟩]
      (resolverAfter [[1, 2], [3, 4, 5]])).map Prod.fst = some (.ok [⟨⟨0x0200000a, 9⟩, [1, 2]⟩]) := by decide +kernel
  rw [hrun] at hreply
  obtain rfl := Option.some.inj hreply
  have hreceives : oversizedReceive.Receives 1 := ⟨.inr (by decide), by decide⟩
  obtain ⟨s₁, -, hlog, -, -, hexchange⟩ := datagrams_received_in_order (hdelivered.recvmmsg 0 1 _ hrun)
  obtain ⟨out, rt₂, s, hexchange, hs, hpending, -, hrefused⟩ := hexchange oversizedReceive hreceives
  obtain ⟨hresult, -⟩ := hrefused (by decide) ⟨1473, by decide, by decide⟩
  refine ⟨rt₁, rt₂, out, s, hrun, hexchange, hresult, hs, ?_⟩
  rw [IpcMessage.received, hresult, if_pos (by decide), List.nil_append] at hpending
  have haccepted : [] ++ acceptedFor 0 resolverRuntime.sockets 0x0100000a 53 ⟨0x0200000a, 9⟩ [1, 2] ++
      acceptedFor 0 (resolverAfter [[1, 2]]).sockets 0x0100000a 53 ⟨0x0200000a, 9⟩ [3, 4, 5] =
        [⟨⟨0x0200000a, 9⟩, [1, 2]⟩, ⟨⟨0x0200000a, 9⟩, [3, 4, 5]⟩] := by decide +kernel
  rw [haccepted] at hlog
  rw [← hpending]
  exact (List.cons.inj hlog).2.symm

end Receive

end PulsarNetstack
