import PulsarNetstack.DaemonControl
import PulsarNetstack.RuntimeSteps

namespace PulsarNetstack

inductive NextFrame
  | incomplete
  | refused
  | frame (m : IpcMessage) (rest : List Byte)

def nextFrame (lastId : Word) (stream : List Byte) : NextFrame :=
  if stream.length < ipcHeaderSize then .incomplete
  else
    match ipcDecode (stream.take ipcHeaderSize) with
    | .error _ => .refused
    | .ok m =>
      if !ipcRequestValid m ∨ m.id = lastId then .refused
      else if stream.length < ipcHeaderSize + m.data.length then .incomplete
      else .frame { m with data := (stream.drop ipcHeaderSize).take m.data.length }
        (stream.drop (ipcHeaderSize + m.data.length))

theorem nextFrame_shorter {lastId : Word} {stream rest : List Byte} {m : IpcMessage}
    (h : nextFrame lastId stream = .frame m rest) : rest.length < stream.length := by
  unfold nextFrame at h
  split at h
  · cases h
  split at h
  · cases h
  split at h
  · cases h
  split at h
  · cases h
  · rename_i hshort _ _ _ hlong
    obtain ⟨-, rfl⟩ := NextFrame.frame.inj h
    unfold ipcHeaderSize at *
    rw [List.length_drop]
    omega

/-- The requests of a whole stream, and whether the daemon refuses what follows them. The first request of a client has to
be `IPC_HELLO`. -/
def streamRequests (lastId : Word) (hello : Bool) (stream : List Byte) : List IpcMessage × Bool :=
  match _hframe : nextFrame lastId stream with
  | .incomplete => ([], false)
  | .refused => ([], true)
  | .frame m rest =>
    if hello = true ∨ ipcOperation m.op = some .hello then
      (m :: (streamRequests m.id true rest).1, (streamRequests m.id true rest).2)
    else ([], true)
termination_by stream.length
decreasing_by all_goals exact nextFrame_shorter ‹_›

section Stream

variable {lastId : Word} {hello : Bool} {stream rest : List Byte} {m : IpcMessage}

theorem streamRequests_incomplete (h : nextFrame lastId stream = .incomplete) :
    streamRequests lastId hello stream = ([], false) := by
  rw [streamRequests]
  split <;> simp_all

theorem streamRequests_refused (h : nextFrame lastId stream = .refused) :
    streamRequests lastId hello stream = ([], true) := by
  rw [streamRequests]
  split <;> simp_all

theorem streamRequests_frame (h : nextFrame lastId stream = .frame m rest)
    (hhello : hello = true ∨ ipcOperation m.op = some .hello) : streamRequests lastId hello stream =
      (m :: (streamRequests m.id true rest).1, (streamRequests m.id true rest).2) := by
  rw [streamRequests]
  split
  · simp_all
  · simp_all
  · rename_i m' rest' heq
    obtain ⟨rfl, rfl⟩ := NextFrame.frame.inj (heq.symm.trans h)
    rw [if_pos hhello]

theorem streamRequests_unannounced (h : nextFrame lastId stream = .frame m rest)
    (hop : ipcOperation m.op ≠ some .hello) : streamRequests lastId false stream = ([], true) := by
  rw [streamRequests]
  split
  · simp_all
  · simp_all
  · rename_i m' rest' heq
    obtain ⟨rfl, rfl⟩ := NextFrame.frame.inj (heq.symm.trans h)
    rw [if_neg (by simpa using hop)]

end Stream

section Frames

variable {lastId : Word} {header data t : List Byte} {m : IpcMessage}

theorem nextFrame_short {stream : List Byte} (h : stream.length < ipcHeaderSize) : nextFrame lastId stream = .incomplete := by
  rw [nextFrame, if_pos h]

theorem take_header (hlength : header.length = ipcHeaderSize) (rest : List Byte) :
    (header ++ rest).take ipcHeaderSize = header := List.take_left' hlength

theorem not_header_short (hlength : header.length = ipcHeaderSize) (rest : List Byte) :
    ¬ (header ++ rest).length < ipcHeaderSize := by
  rw [List.length_append, hlength]
  exact Nat.not_lt.mpr (Nat.le_add_right _ _)

theorem nextFrame_error {e : Errno} (hlength : header.length = ipcHeaderSize) (h : ipcDecode header = .error e) :
    nextFrame lastId (header ++ t) = .refused := by
  rw [nextFrame, if_neg (not_header_short hlength t), take_header hlength, h]

theorem nextFrame_invalid (hlength : header.length = ipcHeaderSize) (h : ipcDecode header = .ok m)
    (hbad : (!ipcRequestValid m) = true ∨ m.id = lastId) : nextFrame lastId (header ++ t) = .refused := by
  rw [nextFrame, if_neg (not_header_short hlength t), take_header hlength, h]
  dsimp only
  rw [if_pos hbad]

theorem nextFrame_partial (hlength : header.length = ipcHeaderSize) (h : ipcDecode header = .ok m)
    (hgood : ¬ ((!ipcRequestValid m) = true ∨ m.id = lastId)) (hdata : data.length < m.data.length) :
    nextFrame lastId (header ++ data) = .incomplete := by
  rw [nextFrame, if_neg (not_header_short hlength data), take_header hlength, h]
  dsimp only
  rw [if_neg hgood, if_pos (by rw [List.length_append, hlength]; omega)]

theorem nextFrame_complete (hlength : header.length = ipcHeaderSize) (h : ipcDecode header = .ok m)
    (hgood : ¬ ((!ipcRequestValid m) = true ∨ m.id = lastId)) (hdata : data.length = m.data.length) :
    nextFrame lastId (header ++ data ++ t) = .frame { m with data := data } t := by
  rw [List.append_assoc, nextFrame, if_neg (not_header_short hlength _), take_header hlength, h]
  dsimp only
  rw [if_neg hgood, if_neg (by rw [List.length_append, List.length_append, hlength, hdata]; omega), ← hlength,
    List.drop_left, ← hdata, List.take_left, ← List.append_assoc, List.drop_left' (by rw [List.length_append])]

end Frames

theorem ipcDecode_length {header : List Byte} {m : IpcMessage} (h : ipcDecode header = .ok m) :
    m.data.length ≤ ipcPayloadMax := by
  unfold ipcDecode ipcMessage at h
  rw [if_error_eq_ok] at h
  obtain ⟨hchecks, hm⟩ := h
  rw [← Except.ok.inj hm]
  simp only [not_or] at hchecks
  rw [List.length_replicate]
  exact Nat.not_lt.mp hchecks.2.2.1

section Buffers

variable {l bytes : List Byte} {i : ℕ}

theorem putBytes_length (h : i + bytes.length ≤ l.length) : (putBytes l i bytes).length = l.length := by
  rw [putBytes, List.length_append, List.length_append, List.length_take, List.length_drop]
  omega

theorem take_putBytes (h : i ≤ l.length) : (putBytes l i bytes).take (i + bytes.length) = l.take i ++ bytes := by
  rw [putBytes]
  apply List.take_left'
  rw [List.length_append, List.length_take, Nat.min_eq_left h]

end Buffers

namespace DaemonClient

variable {c c' : DaemonClient} {chunk : List Byte}

def current (c : DaemonClient) : List Byte := (c.header ++ c.input.data).take c.have_

structure Stored (c : DaemonClient) : Prop where
  header : c.header.length = ipcHeaderSize
  have_le : c.have_ ≤ c.target
  target_le : c.target ≤ ipcHeaderSize + ipcPayloadMax
  first : c.have_ < ipcHeaderSize → c.target ≤ ipcHeaderSize
  payload : ipcHeaderSize < c.target → c.target = ipcHeaderSize + c.input.data.length
  received : ∃ before, c.received = before ++ c.current

theorem Stored.current_header (h : Stored c) (hlong : ipcHeaderSize ≤ c.have_) :
    c.current = c.header ++ c.input.data.take (c.have_ - ipcHeaderSize) := by
  rw [current, List.take_append, h.header, List.take_of_length_le (by rw [h.header]; exact hlong)]

theorem Stored.current_short (h : Stored c) (hshort : c.have_ ≤ ipcHeaderSize) : c.current = c.header.take c.have_ := by
  rw [current, List.take_append_of_le_length (by rw [h.header]; exact hshort)]

theorem Stored.store (h : Stored c) (hpos : chunk ≠ []) (hfits : c.have_ + chunk.length ≤ c.target) :
    (c.store chunk).header.length = ipcHeaderSize ∧ (c.store chunk).input = { c.input with data := (c.store chunk).input.data } ∧
      (c.store chunk).input.data.length = c.input.data.length ∧ (c.store chunk).current = c.current ++ chunk := by
  have hchunk : 0 < chunk.length := List.length_pos_of_ne_nil hpos
  by_cases hshort : c.have_ < ipcHeaderSize
  · have htarget := h.first hshort
    have hstore : c.store chunk = { c with header := putBytes c.header c.have_ chunk, have_ := c.have_ + chunk.length,
                                           received := c.received ++ chunk } := by
      unfold DaemonClient.store
      rw [if_pos hshort]
    have hlength : (putBytes c.header c.have_ chunk).length = ipcHeaderSize := by
      rw [putBytes_length (by rw [h.header]; omega), h.header]
    rw [hstore]
    refine ⟨hlength, rfl, rfl, ?_⟩
    have hwithin : c.have_ + chunk.length ≤ (putBytes c.header c.have_ chunk).length := by
      rw [hlength]
      omega
    rw [h.current_short hshort.le, ← take_putBytes (by rw [h.header]; omega)]
    exact List.take_append_of_le_length hwithin
  · have htarget := h.payload (by omega)
    have hstore : c.store chunk = { c with
        input := { c.input with data := putBytes c.input.data (c.have_ - ipcHeaderSize) chunk }
        have_ := c.have_ + chunk.length, received := c.received ++ chunk } := by
      unfold DaemonClient.store
      rw [if_neg hshort]
    have hlength : (putBytes c.input.data (c.have_ - ipcHeaderSize) chunk).length = c.input.data.length :=
      putBytes_length (by omega)
    have hnew : (c.store chunk).current = c.header ++
        (putBytes c.input.data (c.have_ - ipcHeaderSize) chunk).take (c.have_ - ipcHeaderSize + chunk.length) := by
      rw [hstore, current, List.take_append, h.header, List.take_of_length_le (by change _ ≤ c.have_ + _; rw [h.header]; omega)]
      change _ ++ List.take (c.have_ + chunk.length - ipcHeaderSize) _ = _
      rw [show c.have_ + chunk.length - ipcHeaderSize = c.have_ - ipcHeaderSize + chunk.length by omega]
    refine ⟨by rw [hstore]; exact h.header, by rw [hstore], by rw [hstore]; exact hlength, ?_⟩
    rw [hnew, take_putBytes (by omega), h.current_header (Nat.not_lt.mp hshort), List.append_assoc]

theorem store_fields (c : DaemonClient) (chunk : List Byte) : (c.store chunk).have_ = c.have_ + chunk.length ∧
    (c.store chunk).target = c.target ∧ (c.store chunk).received = c.received ++ chunk ∧
    (c.store chunk).lastId = c.lastId ∧ (c.store chunk).hello = c.hello ∧ (c.store chunk).pending = c.pending ∧
    (c.store chunk).taken = c.taken ∧ (c.store chunk).fd = c.fd ∧ (c.store chunk).dead = c.dead ∧
    (c.store chunk).refused = c.refused ∧ (c.store chunk).owner = c.owner := by
  unfold DaemonClient.store
  split <;> exact ⟨rfl, rfl, rfl, rfl, rfl, rfl, rfl, rfl, rfl, rfl, rfl⟩

inductive ReadCase (c c₁ : DaemonClient) : DaemonClient → Prop
  | more (h : ¬ (c₁.have_ = ipcHeaderSize ∧ c₁.target = ipcHeaderSize)) : ReadCase c c₁ c₁
  | garbled (hfull : c₁.have_ = ipcHeaderSize) (htarget : c₁.target = ipcHeaderSize) (e : Errno)
      (hdecode : ipcDecode c₁.header = .error e) : ReadCase c c₁ c₁.refuse
  | invalid (hfull : c₁.have_ = ipcHeaderSize) (htarget : c₁.target = ipcHeaderSize) (m : IpcMessage)
      (hdecode : ipcDecode c₁.header = .ok m) (hbad : (!ipcRequestValid m) = true ∨ m.id = c₁.lastId) :
      ReadCase c c₁ { c₁ with input := m }.refuse
  | header (hfull : c₁.have_ = ipcHeaderSize) (htarget : c₁.target = ipcHeaderSize) (m : IpcMessage)
      (hdecode : ipcDecode c₁.header = .ok m) (hgood : ¬ ((!ipcRequestValid m) = true ∨ m.id = c₁.lastId)) :
      ReadCase c c₁ { c₁ with input := m, lastId := m.id, target := c₁.target + m.data.length }

theorem readClient_cases (c : DaemonClient) (chunk : List Byte) : ReadCase c (c.store chunk) (c.readClient chunk) := by
  unfold readClient
  dsimp only
  split
  · rename_i hfull
    split
    · rename_i e hdecode
      exact .garbled hfull.1 hfull.2 e hdecode
    · rename_i m hdecode
      split
      · exact .invalid hfull.1 hfull.2 m hdecode ‹_›
      · exact .header hfull.1 hfull.2 m hdecode ‹_›
  · exact .more ‹_›

theorem Stored.of_eq (h : Stored c) (hheader : c'.header = c.header) (hhave : c'.have_ = c.have_)
    (htarget : c'.target = c.target) (hinput : c'.input = c.input) (hreceived : c'.received = c.received) : Stored c' := by
  have hcurrent : c'.current = c.current := by rw [current, hheader, hinput, hhave]; rfl
  constructor
  · rw [hheader]
    exact h.header
  · rw [hhave, htarget]
    exact h.have_le
  · rw [htarget]
    exact h.target_le
  · rw [hhave, htarget]
    exact h.first
  · rw [htarget, hinput]
    exact h.payload
  · rw [hreceived, hcurrent]
    exact h.received

theorem Stored.read (h : Stored c) (hpos : chunk ≠ []) (hfits : c.have_ + chunk.length ≤ c.target) :
    Stored (c.readClient chunk) := by
  obtain ⟨hheader, -, hdata, hcurrent⟩ := h.store hpos hfits
  obtain ⟨hhave, htarget, hreceived, -⟩ := store_fields c chunk
  have hbefore : ∃ before, (c.store chunk).received = before ++ (c.store chunk).current := by
    obtain ⟨before, hbefore⟩ := h.received
    exact ⟨before, by rw [hreceived, hcurrent, hbefore, List.append_assoc]⟩
  have hstored : Stored (c.store chunk) := by
    refine ⟨hheader, ?_, ?_, ?_, ?_, hbefore⟩
    · rw [hhave, htarget]
      exact hfits
    · rw [htarget]
      exact h.target_le
    · rw [hhave, htarget]
      exact fun hlt => h.first (by omega)
    · rw [htarget, hdata]
      exact h.payload
  generalize hres : c.readClient chunk = c'
  cases hres ▸ readClient_cases c chunk with
  | more => exact hstored
  | garbled => exact hstored.of_eq rfl rfl rfl rfl rfl
  | invalid hfull htarget m hdecode hbad =>
    have hsame : { c.store chunk with input := m }.refuse.current = (c.store chunk).current := by
      rw [hstored.current_short hfull.le]
      exact List.take_append_of_le_length (hfull.le.trans hheader.ge)
    refine ⟨hheader, hstored.have_le, hstored.target_le, hstored.first, fun hlt => ?_, ?_⟩
    · exact absurd htarget hlt.ne'
    · rw [hsame]
      exact hbefore
  | header hfull htarget m hdecode hgood =>
    have hlength := ipcDecode_length hdecode
    have hsame : { c.store chunk with input := m, lastId := m.id
                                      target := (c.store chunk).target + m.data.length }.current = (c.store chunk).current := by
      rw [hstored.current_short hfull.le]
      exact List.take_append_of_le_length (hfull.le.trans hheader.ge)
    refine ⟨hheader, ?_, ?_, fun hlt => absurd hfull hlt.ne, fun _ => ?_, ?_⟩
    · exact hstored.have_le.trans (Nat.le_add_right _ _)
    · change (c.store chunk).target + m.data.length ≤ _
      rw [htarget]
      exact Nat.add_le_add_left hlength _
    · change (c.store chunk).target + m.data.length = _
      rw [htarget]
    · rw [hsame]
      exact hbefore

theorem Stored.reply (h : Stored c) (m : IpcMessage) : Stored (c.reply m) :=
  ⟨h.header, Nat.zero_le _, Nat.le_add_right _ _, fun _ => Nat.le_refl _, fun hlt => absurd hlt (Nat.lt_irrefl _),
    c.received, (List.append_nil _).symm⟩

theorem Stored.fresh : Stored {} :=
  ⟨List.length_replicate, Nat.le_refl 0, Nat.zero_le _, fun _ => Nat.zero_le _, fun h => absurd h (Nat.not_lt_zero _),
    [], rfl⟩

theorem Stored.step (h : Stored c) (hstep : ClientStep c c') : Stored c' := by
  cases hstep with
  | same => exact h
  | accepted owner =>
    exact ⟨List.length_replicate, Nat.zero_le _, Nat.le_add_right _ _, fun _ => Nat.le_refl _,
      fun hlt => absurd hlt (Nat.lt_irrefl _), [], rfl⟩
  | read chunk hfd hpending hfits hpos => exact h.read hpos hfits
  | wrote count =>
    unfold writeClient
    split <;> exact h.of_eq rfl rfl rfl rfl rfl
  | closed => exact h.of_eq rfl rfl rfl rfl rfl
  | responded howner hpending hresponse =>
    cases hresponse with
    | recycled => exact .fresh
    | dead | closed => exact h.of_eq rfl rfl rfl rfl rfl
    | answered hdead next handles m =>
      have hsame : Stored { c with pending := false, nextHandle := next, handles := handles } :=
        h.of_eq rfl rfl rfl rfl rfl
      exact hsame.reply m
  | submitted hsubmit =>
    cases hsubmit with
    | idle => exact h
    | cleanup | refused | pushed => exact h.of_eq rfl rfl rfl rfl rfl
    | answered howner hpending hdead hready hhello m =>
      have hsame : Stored { c with taken := c.taken ++ [c.input], hello := true } := h.of_eq rfl rfl rfl rfl rfl
      exact hsame.reply m

def Truthful (c : DaemonClient) : Prop := ∀ t, c.taken <+: (streamRequests 0 false (c.received ++ t)).1 ∧
  (c.refused = true → streamRequests 0 false (c.received ++ t) = (c.taken, true))

structure Framed (c : DaemonClient) : Prop where
  target : c.have_ < ipcHeaderSize → c.target = ipcHeaderSize
  waiting : c.pending = true → c.have_ = c.target ∧ c.hello = true
  decoded : ipcHeaderSize ≤ c.have_ → ∃ m, ipcDecode c.header = .ok m ∧ ipcRequestValid m = true ∧ c.lastId = m.id ∧
    c.input = { m with data := c.input.data } ∧ c.input.data.length = m.data.length ∧
    c.target = ipcHeaderSize + m.data.length
  session : ∃ prev done, (c.have_ < ipcHeaderSize → prev = c.lastId) ∧ (ipcHeaderSize ≤ c.have_ → c.lastId ≠ prev) ∧
    c.taken = done ++ (if c.pending then [c.input] else []) ∧
    ∀ t, streamRequests 0 false (c.received ++ t) =
      (done ++ (streamRequests prev c.hello (c.current ++ t)).1, (streamRequests prev c.hello (c.current ++ t)).2)

theorem Framed.accepted (owner : ℕ) : Framed (accepted owner) :=
  ⟨fun _ => rfl, nofun, nofun, 0, [], fun _ => rfl, nofun, rfl, fun _ => rfl⟩

theorem Framed.complete (h : Framed c) (hs : Stored c) (hready : c.have_ = c.target) :
    c.input.id = c.lastId ∧ ∃ prev done, c.taken = done ++ (if c.pending then [c.input] else []) ∧
      (∀ t, nextFrame prev (c.current ++ t) = .frame c.input t) ∧
      ∀ t, streamRequests 0 false (c.received ++ t) =
        (done ++ (streamRequests prev c.hello (c.current ++ t)).1, (streamRequests prev c.hello (c.current ++ t)).2) := by
  have hlong : ipcHeaderSize ≤ c.have_ := by
    by_contra hshort
    have := h.target (Nat.not_le.mp hshort)
    omega
  obtain ⟨m, hdecode, hvalid, hlast, hinput, hlength, htarget⟩ := h.decoded hlong
  obtain ⟨prev, done, -, hprev, htaken, hsession⟩ := h.session
  have hcurrent : c.current = c.header ++ c.input.data := by
    rw [hs.current_header hlong, List.take_of_length_le (by omega)]
  have hgood : ¬ ((!ipcRequestValid m) = true ∨ m.id = prev) := by
    rintro (hbad | hrepeated)
    · rw [hvalid] at hbad
      cases hbad
    · exact hprev hlong (hlast.trans hrepeated)
  refine ⟨by rw [hinput, hlast], prev, done, htaken, fun t => ?_, hsession⟩
  rw [hcurrent, nextFrame_complete hs.header hdecode hgood hlength, ← hinput]

theorem Framed.truthful (h : Framed c) (hs : Stored c) (hrefused : c.refused = false) : Truthful c := by
  intro t
  refine ⟨?_, fun hr => by rw [hrefused] at hr; cases hr⟩
  cases hpending : c.pending with
  | false =>
    obtain ⟨prev, done, -, -, htaken, hsession⟩ := h.session
    rw [hsession t, htaken, hpending]
    rw [if_neg Bool.false_ne_true, List.append_nil]
    exact List.prefix_append _ _
  | true =>
    obtain ⟨hready, hhello⟩ := h.waiting hpending
    obtain ⟨-, prev, done, htaken, hframe, hsession⟩ := h.complete hs hready
    rw [hsession t, streamRequests_frame (hframe t) (.inl hhello), htaken, hpending]
    exact ⟨_, by rw [if_pos rfl, List.append_assoc]; rfl⟩

theorem Framed.reply (h : Framed c) (c' : DaemonClient) (hs : Stored c) (hready : c.have_ = c.target)
    (hhello : c.hello = true ∨ ipcOperation c.input.op = some .hello) (hlast : c'.lastId = c.lastId)
    (hhello' : c'.hello = true) (hpending : c'.pending = false) (hreceived : c'.received = c.received)
    (htaken : c'.taken = c.taken ++ (if c.pending then [] else [c.input])) (m : IpcMessage) : Framed (c'.reply m) := by
  obtain ⟨hid, prev, done, hdone, hframe, hsession⟩ := h.complete hs hready
  have hall : c'.taken = done ++ [c.input] := by
    rw [htaken, hdone]
    cases c.pending
    · rw [if_neg Bool.false_ne_true, if_neg Bool.false_ne_true, List.append_nil]
    · rw [if_pos rfl, if_pos rfl, List.append_nil]
  refine ⟨fun _ => rfl, fun hp => ?_, nofun, c.lastId, done ++ [c.input], fun _ => hlast.symm, nofun, ?_, fun t => ?_⟩
  · change c'.pending = true at hp
    rw [hpending] at hp
    cases hp
  · change c'.taken = _ ++ (if c'.pending then _ else _)
    rw [hall, hpending, if_neg Bool.false_ne_true, List.append_nil]
  · change streamRequests 0 false (c'.received ++ t) = (_ ++ (streamRequests c.lastId c'.hello t).1,
      (streamRequests c.lastId c'.hello t).2)
    rw [hreceived, hsession t, streamRequests_frame (hframe t) hhello, hhello', hid, List.append_assoc]
    rfl

theorem Framed.of_eq (h : Framed c) (hheader : c'.header = c.header) (hhave : c'.have_ = c.have_)
    (htarget : c'.target = c.target) (hinput : c'.input = c.input) (hreceived : c'.received = c.received)
    (hlast : c'.lastId = c.lastId) (hhello : c'.hello = c.hello) (hpending : c'.pending = c.pending)
    (htaken : c'.taken = c.taken) : Framed c' := by
  have hcurrent : c'.current = c.current := by rw [current, hheader, hinput, hhave]; rfl
  constructor
  · rw [hhave, htarget]
    exact h.target
  · rw [hpending, hhave, htarget, hhello]
    exact h.waiting
  · rw [hhave, hheader, hlast, hinput, htarget]
    exact h.decoded
  · rw [hhave, hlast, htaken, hpending, hinput, hreceived, hhello, hcurrent]
    exact h.session

theorem truthful_refuse {prev : Word} (htaken : c'.taken = c.taken)
    (hsession : ∀ t, streamRequests 0 false (c'.received ++ t) =
      (c.taken ++ (streamRequests prev c.hello (c'.current ++ t)).1, (streamRequests prev c.hello (c'.current ++ t)).2))
    (hend : ∀ t, streamRequests prev c.hello (c'.current ++ t) = ([], true)) : Truthful c'.refuse := by
  intro t
  have hall : streamRequests 0 false (c'.received ++ t) = (c'.taken, true) := by
    rw [hsession t, hend t, htaken, List.append_nil]
  exact ⟨by change c'.taken <+: (streamRequests 0 false (c'.received ++ t)).1; rw [hall], fun _ => hall⟩

theorem Framed.read (h : Framed c) (hs : Stored c) (hpending : c.pending = false) (hpos : chunk ≠ [])
    (hfits : c.have_ + chunk.length ≤ c.target) :
    (c.readClient chunk).dead = c.dead ∧ (c.readClient chunk).refused = c.refused ∧ Framed (c.readClient chunk) ∨
      (c.readClient chunk).fd = false ∧ (c.readClient chunk).dead = true ∧ Truthful (c.readClient chunk) := by
  have hchunk : 0 < chunk.length := List.length_pos_of_ne_nil hpos
  obtain ⟨hheader, hinput, hdata, hcurrent⟩ := hs.store hpos hfits
  obtain ⟨hhave, htarget, hreceived, hlast, hhello, hpending', htaken, -, hdead, hrefused, -⟩ := store_fields c chunk
  obtain ⟨prev, done, hprev, hfresh, hdone, hsession⟩ := h.session
  rw [hpending, if_neg Bool.false_ne_true, List.append_nil] at hdone
  have hstream (t : List Byte) : streamRequests 0 false ((c.store chunk).received ++ t) =
      (c.taken ++ (streamRequests prev c.hello ((c.store chunk).current ++ t)).1,
        (streamRequests prev c.hello ((c.store chunk).current ++ t)).2) := by
    rw [hreceived, hcurrent, List.append_assoc, List.append_assoc, hsession, hdone]
  -- The header is complete for the first time, so the frame before it is the last one that was read.
  have hlastId (hfull : (c.store chunk).have_ = ipcHeaderSize) : prev = c.lastId := hprev (by omega)
  have hwhole (hfull : (c.store chunk).have_ = ipcHeaderSize) : (c.store chunk).current = (c.store chunk).header := by
    rw [current, hfull]
    exact List.take_left' hheader
  generalize hres : c.readClient chunk = c'
  cases hres ▸ readClient_cases c chunk with
  | more hmore =>
    refine .inl ⟨hdead, hrefused, ?_⟩
    have hnone : (c.store chunk).pending = false := hpending'.trans hpending
    have hlong (hlarge : ipcHeaderSize ≤ (c.store chunk).have_) : ipcHeaderSize ≤ c.have_ := by
      by_contra hshort
      have := h.target (Nat.not_le.mp hshort)
      exact hmore ⟨by omega, by omega⟩
    refine ⟨fun hlt => ?_, fun hp => ?_, fun hlarge => ?_, prev, c.taken, fun hlt => ?_, fun hlarge => ?_, ?_, fun t => ?_⟩
    · rw [htarget]
      exact h.target (by omega)
    · rw [hnone] at hp
      cases hp
    · obtain ⟨m, hdecode, hvalid, hid, hm, hlength, htarget'⟩ := h.decoded (hlong hlarge)
      have hsame : (c.store chunk).header = c.header := by
        unfold DaemonClient.store
        rw [if_neg (Nat.not_lt.mpr (hlong hlarge))]
      refine ⟨m, by rw [hsame]; exact hdecode, hvalid, by rw [hlast]; exact hid, ?_, by rw [hdata]; exact hlength,
        by rw [htarget]; exact htarget'⟩
      rw [hinput, hm]
    · rw [hlast]
      exact hprev (by omega)
    · rw [hlast]
      exact hfresh (hlong hlarge)
    · rw [htaken, hnone, if_neg Bool.false_ne_true, List.append_nil]
    · rw [hhello]
      exact hstream t
  | garbled hfull htarget' e hdecode =>
    refine .inr ⟨rfl, rfl, truthful_refuse htaken hstream fun t => ?_⟩
    rw [hwhole hfull]
    exact streamRequests_refused (nextFrame_error hheader hdecode)
  | invalid hfull htarget' m hdecode hbad =>
    have hcurrent' : { c.store chunk with input := m }.current = (c.store chunk).current := by
      rw [hwhole hfull, current]
      change ((c.store chunk).header ++ m.data).take (c.store chunk).have_ = _
      rw [hfull]
      exact List.take_left' hheader
    have hstream' (t : List Byte) : streamRequests 0 false ({ c.store chunk with input := m }.received ++ t) =
        (c.taken ++ (streamRequests prev c.hello ({ c.store chunk with input := m }.current ++ t)).1,
          (streamRequests prev c.hello ({ c.store chunk with input := m }.current ++ t)).2) := by
      rw [hcurrent']
      exact hstream t
    refine .inr ⟨rfl, rfl, truthful_refuse htaken hstream' fun t => ?_⟩
    rw [hcurrent', hwhole hfull]
    refine streamRequests_refused (nextFrame_invalid hheader hdecode ?_)
    rw [hlastId hfull, ← hlast]
    exact hbad
  | header hfull htarget' m hdecode hgood =>
    obtain ⟨hvalid, hnew⟩ := not_or.mp hgood
    refine .inl ⟨hdead, hrefused, fun hlt => ?_, fun hp => ?_, fun _ => ?_, prev, c.taken, fun hlt => ?_, fun _ => ?_, ?_,
      fun t => ?_⟩
    · exact absurd hfull hlt.ne
    · change (c.store chunk).pending = true at hp
      rw [hpending', hpending] at hp
      cases hp
    · exact ⟨m, hdecode, by simpa using hvalid, rfl, rfl, rfl, by change (c.store chunk).target + _ = _; rw [htarget']⟩
    · exact absurd hfull hlt.ne
    · change m.id ≠ prev
      rw [hlastId hfull, ← hlast]
      exact hnew
    · change (c.store chunk).taken = _ ++ (if (c.store chunk).pending then _ else _)
      rw [htaken, hpending', hpending, if_neg Bool.false_ne_true, List.append_nil]
    · have hcurrent' : { c.store chunk with input := m, lastId := m.id
                                            target := (c.store chunk).target + m.data.length }.current =
          (c.store chunk).current := by
        rw [hwhole hfull, current]
        change ((c.store chunk).header ++ m.data).take (c.store chunk).have_ = _
        rw [hfull]
        exact List.take_left' hheader
      rw [hcurrent']
      change streamRequests 0 false ((c.store chunk).received ++ t) = (_ ++ (streamRequests prev (c.store chunk).hello _).1,
        (streamRequests prev (c.store chunk).hello _).2)
      rw [hhello]
      exact hstream t

structure Sound (c : DaemonClient) : Prop where
  stored : Stored c
  truthful : Truthful c
  alive : c.fd = true → c.dead = false ∧ c.owner ≠ 0
  unrefused : c.dead = false → c.refused = false
  framed : c.dead = false → c.owner ≠ 0 → Framed c

theorem truthful_nil (htaken : c.taken = []) (hrefused : c.refused = false) : Truthful c := by
  intro t
  rw [htaken, hrefused]
  have hnil : [] <+: (streamRequests 0 false (c.received ++ t)).1 := List.nil_prefix
  exact ⟨hnil, nofun⟩

theorem Truthful.of_eq (h : Truthful c) (hreceived : c'.received = c.received) (htaken : c'.taken = c.taken)
    (hrefused : c'.refused = c.refused) : Truthful c' := by
  unfold Truthful
  rw [hreceived, htaken, hrefused]
  exact h

theorem Sound.fresh : Sound {} := ⟨.fresh, truthful_nil rfl rfl, nofun, fun _ => rfl, fun _ h => absurd rfl h⟩

theorem Sound.of_framed (hstored : Stored c) (hframed : Framed c) (hdead : c.dead = false) (howner : c.owner ≠ 0)
    (hrefused : c.refused = false) : Sound c :=
  ⟨hstored, hframed.truthful hstored hrefused, fun _ => ⟨hdead, howner⟩, fun _ => hrefused, fun _ _ => hframed⟩

theorem Sound.of_dead (hstored : Stored c) (htruthful : Truthful c) (hfd : c.fd = false) (hdead : c.dead = true) :
    Sound c := by
  refine ⟨hstored, htruthful, fun h => ?_, fun h => ?_, fun h => ?_⟩
  · rw [hfd] at h
    cases h
  · rw [hdead] at h
    cases h
  · rw [hdead] at h
    cases h

theorem Sound.closed (h : Sound c) (hdead : c.dead = true) : c.fd = false := by
  by_contra hfd
  rw [(h.alive (eq_true_of_ne_false hfd)).1] at hdead
  cases hdead

theorem Sound.step (h : Sound c) (hstep : ClientStep c c') : Sound c' := by
  have hstored := h.stored.step hstep
  cases hstep with
  | same => exact h
  | accepted owner => exact .of_framed hstored (.accepted _) rfl (Nat.succ_ne_zero owner) rfl
  | read chunk hfd hpending hfits hpos =>
    obtain ⟨hdead, howner⟩ := h.alive hfd
    rcases (h.framed hdead howner).read h.stored hpending hpos hfits with ⟨hd, hr, hframed⟩ | ⟨hclosed, hd, htruthful⟩
    · exact .of_framed hstored hframed (hd.trans hdead) (by rw [(readClient_owner c chunk).1]; exact howner)
        (hr.trans (h.unrefused hdead))
    · exact .of_dead hstored htruthful hclosed hd
  | wrote count =>
    have hkeeps : (c.writeClient count).fd = c.fd ∧ (c.writeClient count).dead = c.dead ∧
        (c.writeClient count).owner = c.owner ∧ (c.writeClient count).refused = c.refused ∧
        Truthful (c.writeClient count) ∧ (Framed c → Framed (c.writeClient count)) := by
      unfold writeClient
      split <;> exact ⟨rfl, rfl, rfl, rfl, h.truthful.of_eq rfl rfl rfl,
        fun hf => hf.of_eq rfl rfl rfl rfl rfl rfl rfl rfl rfl⟩
    obtain ⟨hfd, hdead, howner, hrefused, htruthful, hframed⟩ := hkeeps
    refine ⟨hstored, htruthful, ?_, ?_, fun hd ho => hframed (h.framed (hdead.symm.trans hd) (howner ▸ ho))⟩
    · rw [hfd, hdead, howner]
      exact h.alive
    · rw [hdead, hrefused]
      exact h.unrefused
  | closed => exact .of_dead hstored (h.truthful.of_eq rfl rfl rfl) rfl rfl
  | responded howner hpending hresponse =>
    cases hresponse with
    | recycled => exact .fresh
    | dead hdead => exact .of_dead hstored (h.truthful.of_eq rfl rfl rfl) (h.closed hdead) hdead
    | closed => exact .of_dead hstored (h.truthful.of_eq rfl rfl rfl) rfl rfl
    | answered hdead next handles m =>
      have hframed := h.framed hdead howner
      obtain ⟨hready, hhello⟩ := hframed.waiting hpending
      refine .of_framed hstored ?_ hdead howner (h.unrefused hdead)
      exact hframed.reply { c with pending := false, nextHandle := next, handles := handles } h.stored hready
        (.inl hhello) rfl hhello rfl rfl (by rw [hpending, if_pos rfl, List.append_nil]) m
  | submitted hsubmit =>
    cases hsubmit with
    | idle => exact h
    | cleanup howner hpending hdead => exact .of_dead hstored (h.truthful.of_eq rfl rfl rfl) (h.closed hdead) hdead
    | refused howner hpending hdead hready hhello hop =>
      obtain ⟨-, prev, done, htaken, hframe, hsession⟩ := (h.framed hdead howner).complete h.stored hready
      rw [hpending, if_neg Bool.false_ne_true, List.append_nil] at htaken
      rw [← htaken] at hsession
      refine .of_dead hstored (truthful_refuse rfl hsession fun t => ?_) rfl rfl
      rw [hhello]
      exact streamRequests_unannounced (hframe t) hop
    | answered howner hpending hdead hready hhello m =>
      have hframed := h.framed hdead howner
      refine .of_framed hstored ?_ hdead howner (h.unrefused hdead)
      exact hframed.reply { c with taken := c.taken ++ [c.input], hello := true } h.stored hready hhello rfl rfl
        hpending rfl (by rw [hpending, if_neg Bool.false_ne_true]) m
    | pushed howner hpending hdead hready hhello hop fd =>
      have hframed := h.framed hdead howner
      refine .of_framed hstored ?_ hdead howner (h.unrefused hdead)
      obtain ⟨prev, done, hprev, hfresh, htaken, hsession⟩ := hframed.session
      rw [hpending, if_neg Bool.false_ne_true, List.append_nil] at htaken
      refine ⟨hframed.target, fun _ => ⟨hready, hhello⟩, hframed.decoded, prev, done, hprev, hfresh, ?_, hsession⟩
      change c.taken ++ [c.input] = done ++ (if true = true then [c.input] else [])
      rw [htaken, if_pos rfl]

def Settled (c : DaemonClient) (stream : List Byte) : Prop :=
  c.refused = true ∨
    c.dead = false ∧ c.owner ≠ 0 ∧ c.received = stream ∧ (c.pending = true ∨ c.have_ < c.target)

theorem Stored.current_length (h : Stored c) (hdata : c.have_ ≤ ipcHeaderSize + c.input.data.length) :
    c.current.length = c.have_ := by
  rw [current, List.length_take, List.length_append, h.header, Nat.min_eq_left hdata]

theorem Framed.unfinished (h : Framed c) (hs : Stored c) (hpending : c.pending = false) (hshort : c.have_ < c.target) :
    streamRequests 0 false c.received = (c.taken, false) := by
  obtain ⟨prev, done, hprev, hfresh, htaken, hsession⟩ := h.session
  rw [hpending, if_neg Bool.false_ne_true, List.append_nil] at htaken
  have hnone : nextFrame prev c.current = .incomplete := by
    by_cases hlong : ipcHeaderSize ≤ c.have_
    · obtain ⟨m, hdecode, hvalid, hlast, -, hlength, htarget⟩ := h.decoded hlong
      rw [hs.current_header hlong]
      refine nextFrame_partial hs.header hdecode ?_ (by rw [List.length_take]; omega)
      rintro (hbad | hrepeated)
      · rw [hvalid] at hbad
        cases hbad
      · exact hfresh hlong (hlast.trans hrepeated)
    · apply nextFrame_short
      rw [hs.current_length (by omega)]
      omega
  have hstream := hsession []
  rw [List.append_nil, List.append_nil, streamRequests_incomplete hnone, List.append_nil] at hstream
  rw [hstream, htaken]

theorem Framed.answering (h : Framed c) (hs : Stored c) (hpending : c.pending = true) :
    streamRequests 0 false c.received = (c.taken, false) := by
  obtain ⟨hready, hhello⟩ := h.waiting hpending
  obtain ⟨-, prev, done, htaken, hframe, hsession⟩ := h.complete hs hready
  have hstream := hsession []
  have hempty : streamRequests c.input.id true [] = ([], false) := streamRequests_incomplete (nextFrame_short (by decide))
  rw [List.append_nil, streamRequests_frame (hframe []) (.inl hhello), hempty] at hstream
  rw [hstream, htaken, hpending, if_pos rfl]

theorem Sound.settled {stream : List Byte} (h : Sound c) (hstream : c.received <+: stream) (hsettled : c.Settled stream) :
    streamRequests 0 false stream = (c.taken, c.refused) := by
  rcases hsettled with hrefused | ⟨hdead, howner, rfl, hdone⟩
  · obtain ⟨t, rfl⟩ := hstream
    rw [(h.truthful t).2 hrefused, hrefused]
  · rw [h.unrefused hdead]
    cases hpending : c.pending with
    | true => exact (h.framed hdead howner).answering h.stored hpending
    | false =>
      rw [hpending] at hdone
      exact (h.framed hdead howner).unfinished h.stored hpending (hdone.resolve_left Bool.false_ne_true)

end DaemonClient

section Independent

variable {W W' : Type} {worker : Worker W} {worker' : Worker W'} {start : W → Prop} {start' : W' → Prop}
  {s : DaemonSystem W} {s' : DaemonSystem W'}

theorem DaemonReachable.sound (h : DaemonReachable worker start s) (i : Fin daemonClientMax) :
    (s.service.clients i).Sound :=
  h.forall_clients .fresh (fun _ _ hstep hc => hc.step hstep) i

/-- Two clients send the same stream, in whatever pieces: one has had the same requests taken up as the other, perhaps fewer
so far, and once both daemons are done with the stream they agree on all of it. -/
theorem framing_independent (h : DaemonReachable worker start s) (h' : DaemonReachable worker' start' s')
    (i j : Fin daemonClientMax) (stream : List Byte) (hstream : (s.service.clients i).received <+: stream)
    (hstream' : (s'.service.clients j).received <+: stream) :
    ((s.service.clients i).taken <+: (s'.service.clients j).taken ∨
      (s'.service.clients j).taken <+: (s.service.clients i).taken) ∧
    ((s.service.clients i).refused = true → (s'.service.clients j).taken <+: (s.service.clients i).taken) ∧
    ((s.service.clients i).Settled stream → (s'.service.clients j).Settled stream →
      (s.service.clients i).taken = (s'.service.clients j).taken ∧
        (s.service.clients i).refused = (s'.service.clients j).refused) ∧
    (s.service.clients i).have_ ≤ (s.service.clients i).target ∧
    (s.service.clients i).target ≤ ipcHeaderSize + ipcPayloadMax ∧
    ∃ before, (s.service.clients i).received = before ++
      ((s.service.clients i).header ++ (s.service.clients i).input.data).take (s.service.clients i).have_ := by
  have hsound := h.sound i
  have hsound' := h'.sound j
  have htaken : (s.service.clients i).taken <+: (streamRequests 0 false stream).1 := by
    obtain ⟨t, rfl⟩ := hstream
    exact (hsound.truthful t).1
  have htaken' : (s'.service.clients j).taken <+: (streamRequests 0 false stream).1 := by
    obtain ⟨t, rfl⟩ := hstream'
    exact (hsound'.truthful t).1
  have hcomparable := List.prefix_or_prefix_of_prefix htaken htaken'
  refine ⟨hcomparable, fun hrefused => ?_, fun hsettled hsettled' => ?_,
    hsound.stored.have_le, hsound.stored.target_le, hsound.stored.received⟩
  · rw [hsound.settled hstream (.inl hrefused)] at htaken'
    exact htaken'
  · have hall := (hsound.settled hstream hsettled).symm.trans (hsound'.settled hstream' hsettled')
    exact Prod.mk.inj hall

end Independent

section Example

def runtimeWorker : Worker Runtime where
  dispatch rt request m rt' := ∃ fuel, daemonDispatch (graphSubmit fuel) request rt = some (⟨request.owner, m⟩, rt')
  progress := RuntimeStep

def helloBytes : List Byte := ipcEncode { op := 1, id := 1 }

def firstClient : Fin daemonClientMax := ⟨0, by decide⟩

def helloService (chunks : List (List Byte)) : DaemonService :=
  let s : DaemonService := { maxClients := 1, maxSockets := 1 }
  let s := { s.setClient firstClient (.accepted 1) with nextOwner := 1 }
  chunks.foldl (fun s chunk => s.setClient firstClient ((s.clients firstClient).readClient chunk)) s

def answeredService (s : DaemonService) : DaemonService :=
  { s.setClient firstClient (s.submitClient (s.clients firstClient)).1 with
    requests := (s.submitClient (s.clients firstClient)).2 }

theorem helloService_reachable : DaemonReachable runtimeWorker RuntimeReachable ⟨helloService [], gatewayRuntime⟩ := by
  have hslot : ({ maxClients := 1, maxSockets := 1 } : DaemonService).freeSlot = some firstClient := by decide +kernel
  exact (DaemonReachable.start 1 1 (by decide) (by decide) (.boot gatewayRuntime_booted)).step (.accept hslot (by decide))

theorem helloService_whole : DaemonReachable runtimeWorker RuntimeReachable
    ⟨answeredService (helloService [helloBytes]), gatewayRuntime⟩ :=
  (helloService_reachable.step (.read firstClient helloBytes rfl rfl rfl (by decide +kernel) (by decide +kernel))).step
    (.submit firstClient)

theorem helloService_pieces : DaemonReachable runtimeWorker RuntimeReachable
    ⟨answeredService (helloService [helloBytes.take 1, helloBytes.drop 1]), gatewayRuntime⟩ :=
  ((helloService_reachable.step (.read firstClient (helloBytes.take 1) rfl rfl rfl (by decide +kernel)
    (by decide +kernel))).step (.read firstClient (helloBytes.drop 1) (by decide +kernel) (by decide +kernel)
      (by decide +kernel) (by decide +kernel) (by decide +kernel))).step (.submit firstClient)

theorem framing_independent_hello :
    ((answeredService (helloService [helloBytes])).clients firstClient).taken =
      ((answeredService (helloService [helloBytes.take 1, helloBytes.drop 1])).clients firstClient).taken :=
  ((framing_independent helloService_whole helloService_pieces firstClient firstClient helloBytes
    (by decide +kernel) (by decide +kernel)).2.2.1
      (.inr ⟨by decide +kernel, by decide +kernel, by decide +kernel, .inr (by decide +kernel)⟩)
      (.inr ⟨by decide +kernel, by decide +kernel, by decide +kernel, .inr (by decide +kernel)⟩)).1

end Example

section Queues

variable {W : Type} {worker : Worker W} {start : W → Prop} {s : DaemonSystem W}

/-- A client has at most one item in the two queues together. So `submit_client` can queue the request of every client that
waits for nothing, and `daemon_progress` the answer to every request. -/
theorem daemon_queues_never_full (h : DaemonReachable worker start s) :
    ((s.service.requests ++ s.service.responses).map DaemonItem.owner).Nodup ∧
    (∀ i item, (s.service.clients i).pending = false → (daemonQueuePush s.service.requests item).isSome) ∧
    ∀ item, s.service.requests ≠ [] → (daemonQueuePush s.service.responses item).isSome := by
  have hlength := h.inFlight.length_le
  have hclients : (List.finRange daemonClientMax).length = daemonQueueSize := List.length_finRange
  have hroom {q : List DaemonItem} (hq : q.length < daemonQueueSize) (item : DaemonItem) :
      (daemonQueuePush q item).isSome := by
    rw [daemonQueuePush, if_neg hq.ne]
    rfl
  rw [List.length_append] at hlength
  refine ⟨h.inFlight.once, fun i item hidle => hroom ?_ item, fun item hne => hroom ?_ item⟩
  · have hfewer := List.length_filter_lt_length_iff_exists (p := fun i => (s.service.clients i).pending).mpr
      ⟨i, List.mem_finRange i, by rw [hidle]; decide⟩
    omega
  · have hfewer := List.length_filter_le (fun i => (s.service.clients i).pending) (List.finRange daemonClientMax)
    have hpos := List.length_pos_of_ne_nil hne
    omega

theorem daemon_queues_never_full_hello :
    (daemonQueuePush (answeredService (helloService [helloBytes])).requests ⟨1, cleanupMessage⟩).isSome :=
  (daemon_queues_never_full helloService_whole).2.1 firstClient _ (by decide +kernel)

end Queues

end PulsarNetstack
