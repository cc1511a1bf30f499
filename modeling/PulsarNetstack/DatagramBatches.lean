import PulsarNetstack.ClientCalls

namespace PulsarNetstack

section Send

variable {submit : Submit} {owner slot : ℕ} {core fd : ℤ} {s : SocketEntry} {rt rt' : Runtime} {m out : IpcMessage}
  {messages : List PsMmsg} {next : Word}

theorem sendBatch_eq {ds : List (SockAddr × List Byte)} (h : decodeBatch m.a.toNat m.data = some ds) :
    sendBatch submit m out rt = (sendDatagrams submit m.fd 0 ds rt).map fun p => ({ out with result := p.1 }, p.2) := by
  unfold sendBatch
  rw [h]
  dsimp only
  change ((sendDatagrams submit m.fd 0 ds rt).bind fun p => some ({ out with result := p.1 }, p.2)) = _
  exact Option.map_eq_bind.symm

theorem sendBatch_malformed (h : decodeBatch m.a.toNat m.data = none) :
    sendBatch submit m out rt = some ({ out with result := -Errno.einval.code }, rt) := by
  unfold sendBatch
  rw [h]
  rfl

theorem ipcRequestValid_sendmmsg {k : ℕ} (hop : m.op = ipcSendmmsg) (hresult : m.result = 0) (ha : m.a = k) (hk : 0 < k)
    (hmax : k ≤ psDgramBatchMax) (hrecords : k * ipcDgramHeader ≤ m.data.length) (hlen : m.data.length ≤ ipcPayloadMax) :
    ipcRequestValid m = true := by
  have hsendmmsg : ipcOperation ipcSendmmsg = some .sendmmsg := by decide
  rw [ipcRequestValid, hop, hsendmmsg]
  simp only [Option.any_some, ipcShapeValid, hresult, ha, Bool.and_eq_true, decide_eq_true_eq, beq_self_eq_true, true_and]
  refine ⟨hlen, ⟨by omega, by exact_mod_cast hmax⟩, by exact_mod_cast hrecords⟩

def batchRequest (fd : ℤ) (id : Word) (messages : List PsMmsg) (k : ℕ) : IpcMessage :=
  { op := ipcSendmmsg, id := id, fd := fd, a := k
    data := ((messages.take k).map PsMmsg.datagram).flatMap encodeDatagram }

theorem packMessages_batchRequest (fd : ℤ) (hvalid : ∀ p ∈ messages, p.Valid) : ∃ k, LongestFit 0 messages k ∧
    packMessages messages { op := ipcSendmmsg, id := 0, fd := fd } = .ok (batchRequest fd 0 messages k) := by
  obtain ⟨k, hk, hpack⟩ := packMessages_spec (m := { op := ipcSendmmsg, id := 0, fd := fd }) hvalid (Nat.zero_le _)
  refine ⟨k, hk, hpack.trans ?_⟩
  simp [batchRequest]

theorem batchRequest_valid {k : ℕ} (hfit : LongestFit 0 messages k) (hne : messages ≠ [])
    (hmax : messages.length ≤ psDgramBatchMax) (hvalid : ∀ p ∈ messages, p.Valid) (fd : ℤ) (id : Word) :
    ipcRequestValid (batchRequest fd id messages k) = true := by
  have hlength : (batchRequest fd id messages k).data.length = batchSize (messages.take k) := batchSize_eq_length _
  have hfits := hfit.fits
  have hsize := batchSize_ge (messages.take k)
  rw [List.length_take, Nat.min_eq_left hfit.le] at hsize
  exact ipcRequestValid_sendmmsg rfl rfl rfl (hfit.pos hne hvalid) (hfit.le.trans hmax) (hlength ▸ hsize)
    (by rw [hlength]; omega)

theorem batchRequest_decode {k : ℕ} (hfit : LongestFit 0 messages k) (hvalid : ∀ p ∈ messages, p.Valid) (fd : ℤ)
    (id : Word) : decodeBatch (batchRequest fd id messages k).a.toNat (batchRequest fd id messages k).data =
      some ((messages.take k).map PsMmsg.datagram) := by
  have hlength : ((messages.take k).map PsMmsg.datagram).length = k := by
    rw [List.length_map, List.length_take, Nat.min_eq_left hfit.le]
  have hdecode : decodeBatch ((messages.take k).map PsMmsg.datagram).length _ = _ := decodeBatch_encode fun d hd => by
    obtain ⟨p, hp, rfl⟩ := List.mem_map.mp hd
    exact (hvalid p (List.mem_of_mem_take hp)).2
  rwa [hlength] at hdecode

def batchReply (accepted : ℕ) (failure : Option Errno) : ClientReply ℕ :=
  match accepted, failure with
  | 0, some e => .failed (-e.code)
  | n, _ => .ok n

theorem sendReply_eq {accepted k : ℕ} {failure : Option Errno} (hle : accepted ≤ k)
    (hne : batchResult accepted failure ≠ 0) (hid : out.id = m.id) (hop : out.op = m.op) (hdata : out.data = [])
    (hresult : out.result = batchResult accepted failure) :
    (responseReply m out).bind (sendmmsgReply k) = batchReply accepted failure := by
  have hdata' : ¬ (out.id ≠ m.id ∨ out.op ≠ m.op ∨ (out.result < 0 ∧ out.data ≠ [])) := by
    rw [hid, hop, hdata]
    simp
  rw [responseReply, if_neg hdata', hresult]
  cases accepted with
  | zero =>
    cases failure with
    | none => exact absurd rfl hne
    | some e =>
      have hneg : batchResult 0 (some e) < 0 := by cases e <;> decide
      rw [if_pos hneg]
      rfl
  | succ n =>
    have hvalue : batchResult (n + 1) failure = ((n + 1 : ℕ) : ℤ) := rfl
    rw [hvalue] at hresult ⊢
    rw [if_neg (by omega)]
    change sendmmsgReply k out = _
    rw [sendmmsgReply, hdata, hresult, if_neg]
    · rfl
    · simp only [ne_eq, not_true_eq_false, or_false, not_or, not_lt]
      omega

theorem psSendmmsg_iff {k : ℕ} {reply : ClientReply ℕ} (h : DatagramSession rt owner core slot s)
    (hfit : LongestFit 0 messages k) (hne : messages ≠ []) (hmax : messages.length ≤ psDgramBatchMax)
    (hvalid : ∀ p ∈ messages, p.Valid)
    (hpack : packMessages messages { op := ipcSendmmsg, id := 0, fd := fd } = .ok (batchRequest fd 0 messages k)) :
    psSendmmsg (sessionExchange submit owner core) next fd messages rt = some (reply, rt') ↔
      ∃ accepted failure, SendTrace submit core ((messages.take k).map PsMmsg.datagram) rt accepted failure rt' ∧
        reply = batchReply accepted failure := by
  have hlen : ((messages.take k).map PsMmsg.datagram).length = k := by
    rw [List.length_map, List.length_take, Nat.min_eq_left hfit.le]
  have hds : (messages.take k).map PsMmsg.datagram ≠ [] := by
    rw [← List.length_pos_iff, hlen]
    exact hfit.pos hne hvalid
  have hexchange : sessionExchange submit owner core (batchRequest fd (nextId next) messages k) rt =
      (sendDatagrams submit core 0 ((messages.take k).map PsMmsg.datagram) rt).map fun p =>
        ({ emptyResponse (batchRequest core (nextId next) messages k) with result := p.1 }, p.2) := by
    have hdispatch := h.dispatch submit (m := batchRequest fd (nextId next) messages k)
      (show ipcOperation ipcSendmmsg = some .sendmmsg by decide) nofun nofun (batchRequest_valid hfit hne hmax hvalid core _)
    rw [hdispatch]
    exact sendBatch_eq (batchRequest_decode hfit hvalid core _)
  unfold psSendmmsg
  rw [if_neg (by rw [not_or]; exact ⟨hne, Nat.not_lt.mpr hmax⟩), hpack]
  dsimp only
  rw [clientRequest_bind]
  change Option.map _ (sessionExchange submit owner core (batchRequest fd (nextId next) messages k) rt) = _ ↔ _
  rw [hexchange, Option.map_map, Option.map_eq_some_iff]
  constructor
  · rintro ⟨⟨result, rt₁⟩, hsend, heq⟩
    obtain ⟨accepted, failure, htrace, rfl⟩ := (sendDatagrams_iff 0).mp hsend
    rw [Nat.zero_add] at heq
    obtain ⟨rfl, rfl⟩ := Prod.mk.inj heq
    exact ⟨accepted, failure, htrace, sendReply_eq (hlen ▸ htrace.le) (htrace.batchResult_ne_zero hds) rfl rfl rfl rfl⟩
  · rintro ⟨accepted, failure, htrace, rfl⟩
    refine ⟨(batchResult accepted failure, rt'), (sendDatagrams_iff 0).mpr ⟨accepted, failure, htrace, ?_⟩, ?_⟩
    · rw [Nat.zero_add]
    · exact congrArg (fun r => (r, rt'))
        (sendReply_eq (hlen ▸ htrace.le) (htrace.batchResult_ne_zero hds) rfl rfl rfl rfl)

/-- A batch of datagrams is sent as the caller gave it, and a malformed one is not sent at all. -/
theorem batch_send_faithful (submit : Submit) :
    (∀ (rt : Runtime) (owner slot : ℕ) (core : ℤ) (s : SocketEntry), DatagramSession rt owner core slot s →
      ∀ (next : Word) (fd : ℤ) (messages : List PsMmsg), messages ≠ [] → messages.length ≤ psDgramBatchMax →
      (∀ p ∈ messages, p.Valid) → ∃ k request, LongestFit 0 messages k ∧
        packMessages messages { op := ipcSendmmsg, id := 0, fd := fd } = .ok request ∧
        ipcRequestValid { request with id := nextId next, fd := core } = true ∧
        decodeBatch request.a.toNat request.data = some ((messages.take k).map PsMmsg.datagram) ∧
        ∀ reply rt', psSendmmsg (sessionExchange submit owner core) next fd messages rt = some (reply, rt') ↔
          ∃ accepted failure, SendTrace submit core ((messages.take k).map PsMmsg.datagram) rt accepted failure rt' ∧
            reply = batchReply accepted failure) ∧
    ∀ (m out : IpcMessage) (rt : Runtime), ipcOperation m.op = some .sendmmsg → ipcRequestValid m = true →
      (∃ ds, decodeBatch m.a.toNat m.data = some ds ∧ (ds.length : ℤ) = m.a ∧ ds.flatMap encodeDatagram = m.data) ∨
        sendBatch submit m out rt = some ({ out with result := -Errno.einval.code }, rt) := by
  constructor
  · intro rt owner slot core s h next fd messages hne hmax hvalid
    obtain ⟨k, hfit, hpack⟩ := packMessages_batchRequest fd hvalid
    exact ⟨k, batchRequest fd 0 messages k, hfit, hpack, batchRequest_valid hfit hne hmax hvalid core _,
      batchRequest_decode hfit hvalid fd 0, fun reply rt' => psSendmmsg_iff h hfit hne hmax hvalid hpack⟩
  · intro m out rt hop hvalid
    cases hdecode : decodeBatch m.a.toNat m.data with
    | none => exact .inr (sendBatch_malformed hdecode)
    | some ds =>
      obtain ⟨hlength, hbytes, -⟩ := decodeBatch_eq_some hdecode
      rw [ipcRequestValid, hop] at hvalid
      simp only [Option.any_some, ipcShapeValid, Bool.and_eq_true, decide_eq_true_eq] at hvalid
      exact .inl ⟨ds, rfl, by omega, hbytes⟩

def resolverRuntime : Runtime where
  routing := {}
  distinct := distinctPorts_nil
  world := { hz := 1000, time := fun n => n, random := fun _ => 7, alloc := fun _ => true, burst := fun _ => 32 }
  sockets := socketRun steadyEnv (socketSubsystemInit 2) [.socket 2 2 0, .assignOwner 1 7, .bind 1 (some ⟨0, 53⟩)]

def resolverSocket : SocketEntry :=
  { fd := 1, owner := 7, allocated := true, isOpen := true, type := .dgram, localAddr := ⟨0, 53⟩ }

theorem resolverRuntime_session : DatagramSession resolverRuntime 7 1 0 resolverSocket :=
  ⟨by decide, by decide, rfl, rfl, rfl⟩

def answers : List PsMmsg := [⟨⟨0x0200000a, 9⟩, [1, 2], true⟩, ⟨⟨0x0300000a, 9⟩, [], false⟩]

theorem batch_send_faithful_answers : ∃ k request, LongestFit 0 answers k ∧
    packMessages answers { op := ipcSendmmsg, id := 0, fd := 1 } = .ok request ∧
    decodeBatch request.a.toNat request.data = some ((answers.take k).map PsMmsg.datagram) := by
  have hvalid : ∀ p ∈ answers, p.Valid := by
    intro p hp
    rcases List.mem_pair.mp hp with rfl | rfl <;> exact ⟨by decide, by decide⟩
  obtain ⟨k, request, hfit, hpack, -, hdecode, -⟩ := (batch_send_faithful fun _ _ => pure ⟨⟩).1 resolverRuntime 7 0 1
    resolverSocket resolverRuntime_session 0 1 answers (List.cons_ne_nil _ _) (by decide) hvalid
  exact ⟨k, request, hfit, hpack, hdecode⟩

end Send

end PulsarNetstack
