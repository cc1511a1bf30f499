import PulsarNetstack.DaemonDispatch
import PulsarNetstack.WordLists

namespace PulsarNetstack

inductive ClientReply (α : Type)
  | ok (value : α)
  | failed (code : ℤ)
  | broken (error : Errno)
  deriving DecidableEq, Repr

abbrev IpcExchange := IpcMessage → GraphM IpcMessage

def nextId (next : Word) : Word := if next + 1 = 0 then next + 2 else next + 1

def responseReply (m out : IpcMessage) : ClientReply IpcMessage :=
  if out.id ≠ m.id ∨ out.op ≠ m.op ∨ (out.result < 0 ∧ out.data ≠ []) then .broken .eproto
  else if out.result < 0 then .failed out.result
  else .ok out

def clientRequest (exchange : IpcExchange) (next : Word) (m : IpcMessage) : GraphM (ClientReply IpcMessage) := do
  let m := { m with id := nextId next }
  let out ← exchange m
  return responseReply m out

theorem clientRequest_bind {β : Type} (exchange : IpcExchange) (next : Word) (m : IpcMessage) (rt : Runtime)
    (f : ClientReply IpcMessage → β) : (clientRequest exchange next m >>= fun reply => pure (f reply)) rt =
      (exchange { m with id := nextId next } rt).map fun p => (f (responseReply { m with id := nextId next } p.1), p.2) := by
  change ((exchange { m with id := nextId next } rt).bind fun p =>
    some (responseReply { m with id := nextId next } p.1, p.2)).bind (fun p => some (f p.1, p.2)) = _
  cases exchange { m with id := nextId next } rt <;> rfl

def ClientReply.bind {α β : Type} (r : ClientReply α) (f : α → ClientReply β) : ClientReply β :=
  match r with
  | .ok a => f a
  | .failed code => .failed code
  | .broken e => .broken e

def ipcRecvfrom : Word := 10
def ipcSendmmsg : Word := 12
def ipcRecvmmsg : Word := 13

structure PsMmsg where
  addr : SockAddr
  data : List Byte
  hasData : Bool := true
  deriving DecidableEq, Repr

def packMessages : List PsMmsg → IpcMessage → Except Errno IpcMessage
  | [], m => .ok m
  | message :: rest, m =>
    if !message.hasData ∧ message.data ≠ [] then .error .einval
    else if psDgramMaxPayload < message.data.length then .error .emsgsize
    else if ipcPayloadMax - m.data.length < ipcDgramHeader + message.data.length then .ok m
    else packMessages rest { m with
      data := m.data ++ (ipcDatagramEncode message.addr message.data.length ++ message.data), a := m.a + 1 }

def sendmmsgReply (encoded : ℤ) (out : IpcMessage) : ClientReply ℕ :=
  if out.result = 0 ∨ encoded < out.result ∨ out.data ≠ [] then .broken .eproto else .ok out.result.toNat

def psSendmmsg (exchange : IpcExchange) (next : Word) (fd : ℤ) (messages : List PsMmsg) : GraphM (ClientReply ℕ) := do
  if messages = [] ∨ psDgramBatchMax < messages.length then return .failed (-Errno.einval.code)
  else
    match packMessages messages { op := ipcSendmmsg, id := 0, fd := fd } with
    | .error e => return .failed (-e.code)
    | .ok m =>
      let reply ← clientRequest exchange next m
      return reply.bind (sendmmsgReply m.a)

def recvReply (requested : ℕ) (out : IpcMessage) : ClientReply UdpDatagram :=
  if out.result ≠ out.data.length ∨ requested < out.data.length then .broken .eproto else .ok ⟨out.addr, out.data⟩

def psRecvfrom (exchange : IpcExchange) (next : Word) (fd : ℤ) (hasData : Bool) (len : ℕ) :
    GraphM (ClientReply UdpDatagram) := do
  if !hasData ∧ len ≠ 0 then return .failed (-Errno.einval.code)
  else
    let requested := min len ipcPayloadMax
    let reply ← clientRequest exchange next { op := ipcRecvfrom, id := 0, fd := fd, a := requested }
    return reply.bind (recvReply requested)

structure PsBuffer where
  len : ℕ
  hasData : Bool := true
  deriving DecidableEq, Repr

def unpackMessages : ℕ → List PsBuffer → List Byte → Option (List UdpDatagram)
  | 0, _, data => if data = [] then some [] else none
  | _ + 1, [], _ => none
  | n + 1, buffer :: buffers, data => do
    let (addr, size) ← ipcDatagramDecode data
    if buffer.len < size then none
    else
      let rest ← unpackMessages n buffers (data.drop (ipcDgramHeader + size))
      return ⟨addr, (data.drop ipcDgramHeader).take size⟩ :: rest

def recvmmsgReply (buffers : List PsBuffer) (out : IpcMessage) : ClientReply (List UdpDatagram) :=
  if out.result = 0 ∨ (buffers.length : ℤ) < out.result then .broken .eproto
  else
    match unpackMessages out.result.toNat buffers out.data with
    | none => .broken .eproto
    | some datagrams => .ok datagrams

def psRecvmmsg (exchange : IpcExchange) (next : Word) (fd : ℤ) (buffers : List PsBuffer) :
    GraphM (ClientReply (List UdpDatagram)) := do
  if buffers = [] ∨ psDgramBatchMax < buffers.length then return .failed (-Errno.einval.code)
  else if buffers.any fun b => !b.hasData && b.len != 0 then return .failed (-Errno.einval.code)
  else
    let data := buffers.flatMap fun b => be32Bytes (BitVec.ofNat 32 (min b.len psDgramMaxPayload))
    let reply ← clientRequest exchange next { op := ipcRecvmmsg, id := 0, fd := fd, a := buffers.length, data := data }
    return reply.bind (recvmmsgReply buffers)

def sessionExchange (submit : Submit) (owner : ℕ) (core : ℤ) : IpcExchange := fun m =>
  dispatchMessage submit owner { m with fd := core }

section Records

variable {addr : SockAddr} {data rest payload : List Byte} {n size : ℕ}

theorem ipcDatagramEncode_length (addr : SockAddr) (n : ℕ) : (ipcDatagramEncode addr n).length = ipcDgramHeader := rfl

theorem be32_eq_getWord (b : List Byte) (i : ℕ) : be32 b i = (getWord b i).toNat := (getWord_toNat b i).symm

theorem getWord_four (a w : Word) (rest : List Byte) : getWord (wordBytes a ++ (be32Bytes w ++ rest)) 4 = w := by
  have := getWord_drop (wordBytes a ++ (be32Bytes w ++ rest)) 4 0
  rw [← this]
  exact getWord_be32Bytes w rest

theorem getWord_eight (a v w : Word) (rest : List Byte) :
    getWord (wordBytes a ++ (be32Bytes v ++ (be32Bytes w ++ rest))) 8 = w := by
  have := getWord_drop (wordBytes a ++ (be32Bytes v ++ (be32Bytes w ++ rest))) 8 0
  rw [← this]
  exact getWord_be32Bytes w rest

theorem ipcDatagramDecode_encode (addr : SockAddr) (hlen : payload.length ≤ psDgramMaxPayload) (rest : List Byte) :
    ipcDatagramDecode (ipcDatagramEncode addr payload.length ++ payload ++ rest) = some (addr, payload.length) := by
  have hsmall : payload.length < 4294967296 := Nat.lt_of_le_of_lt hlen (by decide)
  have hshape : ipcDatagramEncode addr payload.length ++ payload ++ rest = wordBytes addr.ip ++
      (be32Bytes (addr.port.setWidth 32) ++ (be32Bytes (BitVec.ofNat 32 payload.length) ++ (payload ++ rest))) := by
    simp only [ipcDatagramEncode, List.append_assoc]
  have hlength : (ipcDatagramEncode addr payload.length ++ payload ++ rest).length =
      ipcDgramHeader + payload.length + rest.length := by
    rw [List.length_append, List.length_append, ipcDatagramEncode_length]
  have hport : be32 (ipcDatagramEncode addr payload.length ++ payload ++ rest) 4 = addr.port.toNat := by
    rw [be32_eq_getWord, hshape, getWord_four, BitVec.toNat_setWidth]
    exact Nat.mod_eq_of_lt (Nat.lt_trans addr.port.isLt (by decide))
  have hsize : be32 (ipcDatagramEncode addr payload.length ++ payload ++ rest) 8 = payload.length := by
    rw [be32_eq_getWord, hshape, getWord_eight, BitVec.toNat_ofNat]
    exact Nat.mod_eq_of_lt hsmall
  have hip : wordAt (ipcDatagramEncode addr payload.length ++ payload ++ rest) 0 = addr.ip := by
    rw [hshape, wordAt_wordBytes]
  rw [ipcDatagramDecode, hport, hsize, hip, hlength, if_neg (by omega), if_neg, BitVec.ofNat_toNat, BitVec.setWidth_eq]
  have := addr.port.isLt
  omega

theorem ipcDatagramDecode_eq_some (h : ipcDatagramDecode data = some (addr, size)) :
    size ≤ psDgramMaxPayload ∧ ipcDgramHeader + size ≤ data.length ∧ ipcDatagramEncode addr size = data.take ipcDgramHeader := by
  unfold ipcDatagramDecode at h
  dsimp only at h
  split at h
  · cases h
  split at h
  · cases h
  rename_i hlen hchecks
  obtain ⟨rfl, rfl⟩ := Prod.mk.inj (Option.some.inj h)
  simp only [not_or, not_lt] at hchecks
  obtain ⟨hport, hsize, hfits⟩ := hchecks
  unfold ipcDgramHeader at hlen hfits
  refine ⟨hsize, by unfold ipcDgramHeader; omega, ?_⟩
  have hword (i : ℕ) (hi : i + 4 ≤ data.length) : be32Bytes (getWord data i) = (data.drop i).take 4 := by
    rw [← be32Bytes_getWord (by rw [List.length_drop]; omega), getWord_drop, Nat.add_zero]
  have hports : (BitVec.ofNat 16 (be32 data 4)).setWidth 32 = getWord data 4 := by
    apply BitVec.eq_of_toNat_eq
    rw [be32_eq_getWord] at hport ⊢
    rw [BitVec.toNat_setWidth, BitVec.toNat_ofNat]
    omega
  have hsizes : BitVec.ofNat 32 (be32 data 8) = getWord data 8 := by
    rw [be32_eq_getWord, BitVec.ofNat_toNat, BitVec.setWidth_eq]
  change wordBytes (wordAt data 0) ++ be32Bytes ((BitVec.ofNat 16 (be32 data 4)).setWidth 32) ++
    be32Bytes (BitVec.ofNat 32 (be32 data 8)) = _
  rw [hports, hsizes, wordBytes_wordAt (by omega), hword 4 (by omega), hword 8 (by omega), ← List.take_add,
    ← List.take_add]
  rfl

end Records

section Batches

def encodeDatagram (d : SockAddr × List Byte) : List Byte := ipcDatagramEncode d.1 d.2.length ++ d.2

variable {ds : List (SockAddr × List Byte)} {data : List Byte} {n : ℕ}

theorem encodeDatagram_length (d : SockAddr × List Byte) : (encodeDatagram d).length = ipcDgramHeader + d.2.length := by
  rw [encodeDatagram, List.length_append, ipcDatagramEncode_length]

theorem decodeBatch_encode (h : ∀ d ∈ ds, d.2.length ≤ psDgramMaxPayload) :
    decodeBatch ds.length (ds.flatMap encodeDatagram) = some ds := by
  induction ds with
  | nil => rfl
  | cons d ds ih =>
    have hd := h d List.mem_cons_self
    have hrest := ih fun a ha => h a (List.mem_cons_of_mem d ha)
    have hdecode := ipcDatagramDecode_encode d.1 hd (ds.flatMap encodeDatagram)
    have hdrop : (encodeDatagram d ++ ds.flatMap encodeDatagram).drop (ipcDgramHeader + d.2.length) =
        ds.flatMap encodeDatagram := List.drop_left' (encodeDatagram_length d)
    have hpayload : ((encodeDatagram d ++ ds.flatMap encodeDatagram).drop ipcDgramHeader).take d.2.length = d.2 := by
      rw [encodeDatagram, List.append_assoc, List.drop_left' (ipcDatagramEncode_length _ _), List.take_left]
    rw [List.length_cons, List.flatMap_cons, decodeBatch]
    change (ipcDatagramDecode (encodeDatagram d ++ ds.flatMap encodeDatagram) >>= _) = _
    rw [show ipcDatagramDecode (encodeDatagram d ++ ds.flatMap encodeDatagram) = some (d.1, d.2.length) from hdecode]
    change (decodeBatch ds.length ((encodeDatagram d ++ ds.flatMap encodeDatagram).drop (ipcDgramHeader + d.2.length)) >>=
      fun rest => some ((d.1, ((encodeDatagram d ++ ds.flatMap encodeDatagram).drop ipcDgramHeader).take d.2.length) :: rest)) = _
    rw [hdrop, hrest, hpayload]
    rfl

theorem decodeBatch_eq_some (h : decodeBatch n data = some ds) :
    ds.length = n ∧ ds.flatMap encodeDatagram = data ∧ ∀ d ∈ ds, d.2.length ≤ psDgramMaxPayload := by
  induction n generalizing data ds with
  | zero =>
    unfold decodeBatch at h
    split at h
    · rename_i he
      obtain rfl := Option.some.inj h
      exact ⟨rfl, he.symm, nofun⟩
    · cases h
  | succ n ih =>
    rw [decodeBatch] at h
    obtain ⟨⟨addr, size⟩, hdecode, h⟩ := Option.bind_eq_some_iff.mp h
    obtain ⟨rest, hrest, h⟩ := Option.bind_eq_some_iff.mp h
    obtain rfl := Option.some.inj h
    obtain ⟨hlength, hbytes, hsizes⟩ := ih hrest
    obtain ⟨hsize, hfits, hheader⟩ := ipcDatagramDecode_eq_some hdecode
    have hpayload : ((data.drop ipcDgramHeader).take size).length = size := by
      rw [List.length_take, List.length_drop]
      omega
    refine ⟨by rw [List.length_cons, hlength], ?_, ?_⟩
    · rw [List.flatMap_cons, hbytes, encodeDatagram, hpayload, hheader, ← List.take_add, List.take_append_drop]
    · intro d hd
      rcases List.mem_cons.mp hd with rfl | hd
      · rw [hpayload]
        exact hsize
      · exact hsizes d hd

end Batches

def PsMmsg.datagram (message : PsMmsg) : SockAddr × List Byte := (message.addr, message.data)

def PsMmsg.Valid (message : PsMmsg) : Prop :=
  (message.hasData = true ∨ message.data = []) ∧ message.data.length ≤ psDgramMaxPayload

def batchSize (messages : List PsMmsg) : ℕ := (messages.map fun m => ipcDgramHeader + m.data.length).sum

structure LongestFit (used : ℕ) (messages : List PsMmsg) (k : ℕ) : Prop where
  le : k ≤ messages.length
  fits : used + batchSize (messages.take k) ≤ ipcPayloadMax
  longest (j : ℕ) : j ≤ messages.length → used + batchSize (messages.take j) ≤ ipcPayloadMax → j ≤ k

section Packing

variable {messages : List PsMmsg} {m : IpcMessage} {k used : ℕ}

theorem batchSize_cons (message : PsMmsg) (messages : List PsMmsg) :
    batchSize (message :: messages) = ipcDgramHeader + message.data.length + batchSize messages := by
  rw [batchSize, List.map_cons, List.sum_cons]
  rfl

theorem batchSize_ge (messages : List PsMmsg) : messages.length * ipcDgramHeader ≤ batchSize messages := by
  induction messages with
  | nil => rw [List.length_nil, Nat.zero_mul]; exact Nat.zero_le _
  | cons message messages ih =>
    rw [List.length_cons, Nat.succ_mul, batchSize_cons]
    omega

theorem LongestFit.nil (h : used ≤ ipcPayloadMax) : LongestFit used [] 0 := ⟨Nat.le_refl 0, h, fun _ hj _ => hj⟩

theorem LongestFit.stop {message : PsMmsg} (hused : used ≤ ipcPayloadMax)
    (h : ipcPayloadMax - used < ipcDgramHeader + message.data.length) : LongestFit used (message :: messages) 0 := by
  refine ⟨Nat.zero_le _, hused, fun j _ hj => ?_⟩
  cases j with
  | zero => exact Nat.le_refl 0
  | succ j =>
    rw [List.take_succ_cons, batchSize_cons] at hj
    omega

theorem LongestFit.cons {message : PsMmsg}
    (h : LongestFit (used + (ipcDgramHeader + message.data.length)) messages k) :
    LongestFit used (message :: messages) (k + 1) := by
  refine ⟨Nat.succ_le_succ h.le, ?_, fun j hj hfits => ?_⟩
  · rw [List.take_succ_cons, batchSize_cons, ← Nat.add_assoc]
    exact h.fits
  · cases j with
    | zero => exact Nat.zero_le _
    | succ j =>
      rw [List.take_succ_cons, batchSize_cons, ← Nat.add_assoc] at hfits
      exact Nat.succ_le_succ (h.longest j (Nat.le_of_succ_le_succ hj) hfits)

theorem packMessages_spec (hvalid : ∀ p ∈ messages, p.Valid) (hused : m.data.length ≤ ipcPayloadMax) :
    ∃ k, LongestFit m.data.length messages k ∧ packMessages messages m =
      .ok { m with a := m.a + k, data := m.data ++ ((messages.take k).map PsMmsg.datagram).flatMap encodeDatagram } := by
  induction messages generalizing m with
  | nil => exact ⟨0, .nil hused, by simp [packMessages]⟩
  | cons message messages ih =>
    obtain ⟨hdata, hsize⟩ := hvalid message List.mem_cons_self
    have hnull : ¬ (!message.hasData ∧ message.data ≠ []) := by
      rintro ⟨hfalse, hne⟩
      rcases hdata with h | h
      · rw [h] at hfalse
        cases hfalse
      · exact hne h
    rw [packMessages, if_neg hnull, if_neg (Nat.not_lt.mpr hsize)]
    by_cases hstop : ipcPayloadMax - m.data.length < ipcDgramHeader + message.data.length
    · rw [if_pos hstop]
      exact ⟨0, .stop hused hstop, by simp⟩
    · rw [if_neg hstop]
      have hlength : (m.data ++ (ipcDatagramEncode message.addr message.data.length ++ message.data)).length =
          m.data.length + (ipcDgramHeader + message.data.length) := by
        rw [List.length_append, List.length_append, ipcDatagramEncode_length]
      obtain ⟨k, hk, hpack⟩ := ih (m := { m with
        data := m.data ++ (ipcDatagramEncode message.addr message.data.length ++ message.data), a := m.a + 1 })
        (fun p hp => hvalid p (List.mem_cons_of_mem _ hp)) (by rw [hlength]; omega)
      dsimp only at hk hpack
      rw [hlength] at hk
      refine ⟨k + 1, hk.cons, ?_⟩
      rw [hpack, List.take_succ_cons, List.map_cons, List.flatMap_cons]
      simp only [Except.ok.injEq, IpcMessage.mk.injEq, true_and]
      refine ⟨by omega, by rw [List.append_assoc]; rfl⟩

theorem LongestFit.pos (h : LongestFit 0 messages k) (hne : messages ≠ []) (hvalid : ∀ p ∈ messages, p.Valid) : 0 < k := by
  obtain ⟨message, rest, rfl⟩ := List.exists_cons_of_ne_nil hne
  have hsize := (hvalid message List.mem_cons_self).2
  refine h.longest 1 (Nat.succ_le_succ (Nat.zero_le _)) ?_
  rw [List.take_succ_cons, List.take_zero, batchSize_cons]
  unfold psDgramMaxPayload at hsize
  change 0 + (12 + message.data.length + 0) ≤ 8192
  omega

theorem batchSize_eq_length (messages : List PsMmsg) :
    ((messages.map PsMmsg.datagram).flatMap encodeDatagram).length = batchSize messages := by
  induction messages with
  | nil => rfl
  | cons message messages ih =>
    rw [List.map_cons, List.flatMap_cons, List.length_append, encodeDatagram_length, ih, batchSize_cons]
    rfl

end Packing

/-- The calls of `core_sendto` for a list of datagrams: how many were accepted, the error of the next one, and the
runtime in the end. -/
inductive SendTrace (submit : Submit) (fd : ℤ) : List (SockAddr × List Byte) → Runtime → ℕ → Option Errno → Runtime → Prop
  | done (rt : Runtime) : SendTrace submit fd [] rt 0 none rt
  | refused {d : SockAddr × List Byte} {rest : List (SockAddr × List Byte)} {rt rt' : Runtime} {reply : CallReply}
      {e : Errno} : runCall submit (.sendto fd d.2 (some d.1)) rt = some (reply, rt') → reply.result = .error e →
      SendTrace submit fd (d :: rest) rt 0 (some e) rt'
  | accepted {d : SockAddr × List Byte} {rest : List (SockAddr × List Byte)} {rt rt' rt'' : Runtime} {reply : CallReply}
      {n k : ℕ} {failure : Option Errno} : runCall submit (.sendto fd d.2 (some d.1)) rt = some (reply, rt') →
      reply.result = .ok n → SendTrace submit fd rest rt' k failure rt'' →
      SendTrace submit fd (d :: rest) rt (k + 1) failure rt''

def batchResult (accepted : ℕ) (failure : Option Errno) : ℤ :=
  match accepted, failure with
  | 0, some e => -e.code
  | n, _ => n

section Sending

variable {submit : Submit} {fd : ℤ} {ds : List (SockAddr × List Byte)} {rt rt' : Runtime} {result : ℤ}

theorem sendDatagrams_cons (sent : ℕ) (d : SockAddr × List Byte) (rest : List (SockAddr × List Byte)) :
    sendDatagrams submit fd sent (d :: rest) rt =
      (runCall submit (.sendto fd d.2 (some d.1)) rt).bind fun p => match p.1.result with
        | .error e => some (if sent ≠ 0 then (sent : ℤ) else -e.code, p.2)
        | .ok _ => sendDatagrams submit fd (sent + 1) rest p.2 := by
  obtain ⟨addr, payload⟩ := d
  rw [sendDatagrams]
  change ((runCall submit (.sendto fd payload (some addr)) rt).bind fun p => _) = _
  congr 1
  funext p
  obtain ⟨⟨r, replyAddr, replyData⟩, rt₁⟩ := p
  cases r <;> rfl

theorem sendDatagrams_iff (sent : ℕ) : sendDatagrams submit fd sent ds rt = some (result, rt') ↔
    ∃ k failure, SendTrace submit fd ds rt k failure rt' ∧ result = batchResult (sent + k) failure := by
  induction ds generalizing sent rt with
  | nil =>
    constructor
    · intro h
      obtain ⟨rfl, rfl⟩ := Prod.mk.inj (Option.some.inj h)
      exact ⟨0, none, .done rt, by cases sent <;> rfl⟩
    · rintro ⟨k, failure, ⟨⟩, rfl⟩
      cases sent <;> rfl
  | cons d rest ih =>
    rw [sendDatagrams_cons]
    cases hcall : runCall submit (.sendto fd d.2 (some d.1)) rt with
    | none =>
      constructor
      · intro h
        cases h
      · rintro ⟨k, failure, htrace, -⟩
        cases htrace with
        | refused h _ => rw [hcall] at h; cases h
        | accepted h _ _ => rw [hcall] at h; cases h
    | some p =>
      obtain ⟨reply, rt₁⟩ := p
      cases hresult : reply.result with
      | error e =>
        rw [Option.bind_some]
        dsimp only
        rw [hresult]
        dsimp only
        constructor
        · intro h
          obtain ⟨rfl, rfl⟩ := Prod.mk.inj (Option.some.inj h)
          exact ⟨0, some e, .refused hcall hresult, by cases sent <;> rfl⟩
        · rintro ⟨k, failure, htrace, rfl⟩
          cases htrace with
          | refused h he =>
            obtain ⟨rfl, rfl⟩ := Prod.mk.inj (Option.some.inj (hcall.symm.trans h))
            cases hresult.symm.trans he
            cases sent <;> rfl
          | accepted h hok _ =>
            obtain ⟨rfl, rfl⟩ := Prod.mk.inj (Option.some.inj (hcall.symm.trans h))
            rw [hresult] at hok
            cases hok
      | ok n =>
        rw [Option.bind_some]
        dsimp only
        rw [hresult]
        dsimp only
        rw [ih (sent + 1)]
        constructor
        · rintro ⟨k, failure, htrace, rfl⟩
          exact ⟨k + 1, failure, .accepted hcall hresult htrace, by rw [Nat.add_right_comm, Nat.add_assoc]⟩
        · rintro ⟨k, failure, htrace, rfl⟩
          cases htrace with
          | refused h he =>
            obtain ⟨rfl, rfl⟩ := Prod.mk.inj (Option.some.inj (hcall.symm.trans h))
            rw [hresult] at he
            cases he
          | @accepted _ _ _ _ _ _ _ k _ h hok htrace =>
            obtain ⟨rfl, rfl⟩ := Prod.mk.inj (Option.some.inj (hcall.symm.trans h))
            exact ⟨k, failure, htrace, by rw [Nat.add_right_comm, Nat.add_assoc]⟩

theorem SendTrace.le {k : ℕ} {failure : Option Errno} (h : SendTrace submit fd ds rt k failure rt') : k ≤ ds.length := by
  induction h with
  | done => exact Nat.le_refl 0
  | refused => exact Nat.zero_le _
  | accepted _ _ _ ih => exact Nat.succ_le_succ ih

theorem SendTrace.batchResult_ne_zero {k : ℕ} {failure : Option Errno} (h : SendTrace submit fd ds rt k failure rt')
    (hne : ds ≠ []) : batchResult k failure ≠ 0 := by
  cases h with
  | done => exact absurd rfl hne
  | @refused _ _ _ _ _ e _ _ => cases e <;> decide
  | accepted => exact Int.natCast_ne_zero.mpr (Nat.succ_ne_zero _)

end Sending

structure DatagramSession (rt : Runtime) (owner : ℕ) (core : ℤ) (slot : ℕ) (s : SocketEntry) : Prop where
  session : owner ≠ 0
  lookup : socketLookup rt.sockets core = some (slot, s)
  isOpen : s.isOpen = true
  owner : s.owner = owner
  type : s.type = .dgram

section Dispatch

variable {owner slot : ℕ} {core : ℤ} {s : SocketEntry} {rt rt' : Runtime} {m : IpcMessage}

def emptyResponse (m : IpcMessage) : IpcMessage :=
  { op := m.op, id := m.id, fd := m.fd, result := -Errno.eopnotsupp.code }

theorem DatagramSession.dispatch {op : IpcOperation} (h : DatagramSession rt owner core slot s) (submit : Submit)
    (hop : ipcOperation m.op = some op) (hcleanup : op ≠ .cleanup) (hsocket : op ≠ .socket)
    (hvalid : ipcRequestValid { m with fd := core } = true) :
    sessionExchange submit owner core m rt =
      dispatchOperation submit { m with fd := core } (emptyResponse { m with fd := core }) op rt := by
  have hop' : ipcOperation { m with fd := core }.op = some op := hop
  unfold sessionExchange dispatchMessage
  rw [if_neg h.session, if_neg (by rw [hop']; exact fun he => hcleanup (Option.some.inj he)),
    if_neg (by rw [hvalid]; exact Bool.false_ne_true), hop']
  dsimp only
  have hsock : dispatchSocket submit owner { m with fd := core } (emptyResponse { m with fd := core }) op rt =
      dispatchOperation submit { m with fd := core } (emptyResponse { m with fd := core }) op rt := by
    unfold dispatchSocket
    rw [Program.get_bind_run, h.lookup]
    dsimp only
    rw [if_neg (by rw [h.isOpen, h.owner]; simp), if_neg (fun hne => hne.2 h.type)]
  cases op with
  | socket => exact absurd rfl hsocket
  | _ => exact hsock

end Dispatch

end PulsarNetstack
