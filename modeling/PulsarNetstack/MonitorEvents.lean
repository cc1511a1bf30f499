import PulsarNetstack.AdminService
import PulsarNetstack.RuntimeSteps

namespace PulsarNetstack

section Ring

variable {e e' : AdminEvents} {log history : List AdminEvent} {v : AdminEvent} {k n : ℕ}

theorem eventSlot_inj {j k : ℕ} (hjk : j ≤ k) (hk : k < j + adminEventMax) (h : eventSlot j = eventSlot k) : j = k := by
  have hmod : j % adminEventMax = k % adminEventMax := congrArg Fin.val h
  unfold adminEventMax at hk hmod
  omega

structure Recorded (e : AdminEvents) (log : List AdminEvent) : Prop where
  sequence : e.sequence = log.length
  entry : ∀ k v, log[k]? = some v → log.length ≤ k + adminEventMax → e.entries (eventSlot k) = v

structure Emitted (e e' : AdminEvents) : Prop where
  sequence : e'.sequence = e.sequence + 1
  others : ∀ i, i ≠ eventSlot e.sequence → e'.entries i = e.entries i
  number : e'.latest.sequence = e'.sequence

theorem Emitted.emit (e : AdminEvents) (generation : ℕ) (group id action : Word) :
    Emitted e (adminEventEmit e generation group id action) := by
  refine ⟨rfl, fun i hi => Function.update_of_ne hi _ _, ?_⟩
  rw [AdminEvents.latest, adminEventEmit]
  dsimp only
  rw [Function.update_self]

theorem Emitted.amend (h : Emitted e e') {f : AdminEvent → AdminEvent} (hf : ∀ v, (f v).sequence = v.sequence) :
    Emitted e (e'.amend f) := by
  have hslot : eventSlot (e'.sequence - 1) = eventSlot e.sequence := by rw [h.sequence, Nat.add_sub_cancel]
  refine ⟨h.sequence, ?_, ?_⟩
  · intro i hi
    rw [← h.others i hi]
    exact Function.update_of_ne (hslot ▸ hi) _ _
  · have hlatest : (e'.amend f).latest = f e'.latest := Function.update_self _ _ _
    rw [hlatest, hf, h.number]
    rfl

theorem Emitted.neighbour (e : AdminEvents) (generation : ℕ) (dev : Word16) (ip action : Word) :
    Emitted e (adminNeighbourEvent e generation dev ip action) := (Emitted.emit ..).amend fun _ => rfl

theorem Emitted.activation (e : AdminEvents) (generation : ℕ) (names : List String) (r : AdminRequest) :
    Emitted e (activationEvent e generation names r) := (Emitted.emit ..).amend fun _ => rfl

theorem Emitted.generation (e : AdminEvents) (generation : ℕ) : Emitted e (generationEvent e generation) := .emit ..

theorem getElem?_concat_eq_some {α : Type} {l : List α} {a b : α} (h : (l ++ [b])[k]? = some a) :
    l[k]? = some a ∧ k < l.length ∨ k = l.length ∧ b = a := by
  rcases Nat.lt_or_ge k l.length with hlt | hge
  · rw [List.getElem?_append_left hlt] at h
    exact .inl ⟨h, hlt⟩
  · rw [List.getElem?_append_right hge] at h
    obtain ⟨hzero, hv⟩ := List.getElem?_eq_some_iff.mp h
    rw [List.length_singleton] at hzero
    rw [List.getElem_singleton] at hv
    exact .inr ⟨by omega, hv⟩

theorem Recorded.emitted (h : Recorded e log) (he : Emitted e e') : Recorded e' (log ++ [e'.latest]) := by
  have hlength : (log ++ [e'.latest]).length = log.length + 1 := by rw [List.length_append, List.length_singleton]
  refine ⟨by rw [he.sequence, h.sequence, hlength], ?_⟩
  intro k v hk hlive
  rw [hlength] at hlive
  rcases getElem?_concat_eq_some hk with ⟨hk, hlt⟩ | ⟨rfl, rfl⟩
  · -- An event that is still there: its slot is not the one that is overwritten.
    rw [he.others _ ?_]
    · exact h.entry k v hk (by omega)
    · intro hslot
      have := eventSlot_inj (by rw [h.sequence]; omega) (by rw [h.sequence]; omega) hslot
      rw [h.sequence] at this
      omega
  · rw [AdminEvents.latest, he.sequence, h.sequence, Nat.add_sub_cancel]

def Numbered (history : List AdminEvent) : Prop := ∀ k v, history[k]? = some v → v.sequence = k + 1

theorem Numbered.emitted (h : Numbered history) (hrec : Recorded e history) (he : Emitted e e') :
    Numbered (history ++ [e'.latest]) := by
  intro k v hk
  rcases getElem?_concat_eq_some hk with ⟨hk, -⟩ | ⟨rfl, rfl⟩
  · exact h k v hk
  · rw [he.number, he.sequence, hrec.sequence]

structure CapturedFrom (e : AdminEvents) (history : List AdminEvent) : Prop where
  le : e.sequence ≤ history.length
  recorded : Recorded e (history.take e.sequence)

theorem Recorded.capturedFrom (h : Recorded e history) : CapturedFrom e history := by
  refine ⟨h.sequence.le, ?_⟩
  rw [h.sequence, List.take_length]
  exact h

theorem CapturedFrom.append (h : CapturedFrom e history) (later : List AdminEvent) : CapturedFrom e (history ++ later) := by
  refine ⟨?_, ?_⟩
  · rw [List.length_append]
    exact Nat.le_add_right_of_le h.le
  · rw [List.take_append_of_le_length h.le]
    exact h.recorded

theorem CapturedFrom.entry (h : CapturedFrom e history) (hk : k < e.sequence) (hlive : e.sequence ≤ k + adminEventMax) :
    history[k]? = some (e.entries (eventSlot k)) := by
  have hlt : k < history.length := Nat.lt_of_lt_of_le hk h.le
  have hget : (history.take e.sequence)[k]? = some history[k] := by
    rw [List.getElem?_take_of_lt hk, List.getElem?_eq_getElem hlt]
  have hlength : (history.take e.sequence).length = e.sequence := by
    rw [List.length_take, Nat.min_eq_left h.le]
  rw [h.recorded.entry k _ hget (by rw [hlength]; exact hlive), List.getElem?_eq_getElem hlt]

end Ring

section Text

theorem decimal_length {n digits : ℕ} (hpos : 0 < digits) (h : n < 10 ^ digits) : (decimal n).length ≤ digits :=
  (Nat.length_toDigits_le_iff (by decide) hpos).mpr h

theorem decimal64_length (n : ℕ) : (decimal64 n).length ≤ 20 := by
  apply decimal_length (by decide)
  exact lt_trans (Nat.mod_lt _ (by decide)) (by decide)

theorem decimalWord_length (w : Word) : (decimalWord w).length ≤ 10 :=
  decimal_length (by decide) (lt_trans w.isLt (by decide))

theorem dottedQuad_length (ip : Word) : (dottedQuad ip).length ≤ 15 := by
  have hbyte (n : ℕ) : (decimal (n % 256)).length ≤ 3 := by
    apply decimal_length (by decide)
    exact lt_trans (Nat.mod_lt _ (by decide)) (by decide)
  have h₀ := hbyte ip.toNat
  have h₁ := hbyte (ip.toNat / 256)
  have h₂ := hbyte (ip.toNat / 65536)
  have h₃ := hbyte (ip.toNat / 16777216)
  simp only [dottedQuad, List.length_append, List.length_cons]
  omega

theorem eventKinds_length (i : ℕ) : (eventKinds.getD i "").toList.length ≤ 10 := by
  have hkinds : ∀ kind ∈ eventKinds, kind.toList.length ≤ 10 := by decide
  rw [List.getD_eq_getElem?_getD]
  cases h : eventKinds[i]? with
  | none => decide
  | some kind => exact hkinds kind (List.mem_of_getElem? h)

def eventTextMax : ℕ := 400

theorem eventText_length (v : AdminEvent) (lost : ℕ) :
    0 < (eventText v lost).length ∧ (eventText v lost).length ≤ eventTextMax := by
  have h₁ := decimal64_length v.sequence
  have h₂ := decimal64_length v.generation
  have h₃ := decimalWord_length v.group
  have h₄ := decimalWord_length v.id
  have h₅ := decimalWord_length v.action
  have h₆ := eventKinds_length v.group.toNat
  have h₇ := dottedQuad_length v.ip
  have h₈ := decimalWord_length v.prefixLen
  have h₉ := decimalWord_length v.dev
  have h₁₀ := decimalWord_length v.table
  have h₁₁ := decimal64_length lost
  unfold eventText
  -- Only the lengths of the numbers are of interest.
  generalize decimal64 v.sequence = t₁, decimal64 v.generation = t₂, decimalWord v.group = t₃, decimalWord v.id = t₄,
    decimalWord v.action = t₅, eventKinds.getD v.group.toNat "" = t₆, dottedQuad v.ip = t₇,
    decimalWord v.prefixLen = t₈, decimalWord v.dev = t₉, decimalWord v.table = t₁₀, decimal64 lost = t₁₁ at *
  simp only [String.reduceToList]
  simp only [List.length_append, List.length_cons, List.length_nil, zero_add, Nat.reduceAdd, eventTextMax]
  omega

end Text

section Subscriber

variable {history : List AdminEvent} {start lost cursor : ℕ} {placed : List EventRecord} {e : AdminEvents} {v : AdminEvent}

def delivered (placed : List EventRecord) : List AdminEvent := placed.filterMap EventRecord.event?

structure Accounted (history : List AdminEvent) (start lost cursor : ℕ) (placed : List EventRecord) : Prop where
  balance : (delivered placed).length + (placed.map EventRecord.lost).sum + start + lost = cursor
  increasing : ((delivered placed).map AdminEvent.sequence).Pairwise (· < ·)
  faithful : ∀ v ∈ delivered placed, v.sequence ≤ cursor ∧ 0 < v.sequence ∧ history[v.sequence - 1]? = some v

theorem Accounted.init (history : List AdminEvent) (start : ℕ) : Accounted history start 0 start [] := by
  refine ⟨?_, List.Pairwise.nil, fun v hv => absurd hv List.not_mem_nil⟩
  simp [delivered]

theorem Accounted.append (h : Accounted history start lost cursor placed) (later : List AdminEvent) :
    Accounted (history ++ later) start lost cursor placed := by
  refine ⟨h.balance, h.increasing, fun v hv => ?_⟩
  obtain ⟨hle, hpos, hget⟩ := h.faithful v hv
  have hlt := (List.getElem?_eq_some_iff.mp hget).1
  exact ⟨hle, hpos, by rw [List.getElem?_append_left hlt, hget]⟩

theorem Accounted.skip (h : Accounted history start 0 cursor placed) (lost : ℕ) :
    Accounted history start lost (cursor + lost) placed := by
  refine ⟨?_, h.increasing, fun v hv => ?_⟩
  · have := h.balance
    omega
  · obtain ⟨hle, hrest⟩ := h.faithful v hv
    exact ⟨Nat.le_add_right_of_le hle, hrest⟩

theorem Accounted.place (h : Accounted history start lost cursor placed) (hnumbered : Numbered history)
    (hv : history[cursor]? = some v) : Accounted history start 0 (cursor + 1) (placed ++ [.event v lost]) := by
  have hseq : v.sequence = cursor + 1 := hnumbered cursor v hv
  have hdelivered : delivered (placed ++ [.event v lost]) = delivered placed ++ [v] := by
    rw [delivered, List.filterMap_append]
    rfl
  refine ⟨?_, ?_, ?_⟩
  · have := h.balance
    rw [hdelivered, List.length_append, List.map_append, List.sum_append, List.length_singleton]
    change _ + 1 + (_ + (lost + 0)) + start + 0 = cursor + 1
    omega
  · rw [hdelivered, List.map_append, List.pairwise_append]
    refine ⟨h.increasing, List.pairwise_singleton _ _, ?_⟩
    intro a ha b hb
    obtain ⟨w, hw, rfl⟩ := List.mem_map.mp ha
    rw [List.mem_singleton.mp hb]
    have := (h.faithful w hw).1
    omega
  · intro w hw
    rw [hdelivered, List.mem_append, List.mem_singleton] at hw
    rcases hw with hw | rfl
    · obtain ⟨hle, hrest⟩ := h.faithful w hw
      exact ⟨Nat.le_succ_of_le hle, hrest⟩
    · rw [hseq, Nat.add_sub_cancel]
      exact ⟨le_rfl, Nat.succ_pos _, hv⟩

theorem scanEvents_accounted {count : ℕ} {s : EventScan} {before : List EventRecord} (hcaptured : CapturedFrom e history)
    (hnumbered : Numbered history) (hcount : s.cursor + count = e.sequence) (hlive : e.sequence ≤ s.cursor + adminEventMax)
    (hroom : s.text.length + count * eventTextMax < adminResponseMax)
    (h : Accounted history start s.lost s.cursor (before ++ s.placed)) :
    Accounted history start (scanEvents e 0 count s).lost e.sequence (before ++ (scanEvents e 0 count s).placed) ∧
      (scanEvents e 0 count s).cursor = e.sequence ∧
      (0 < count → (scanEvents e 0 count s).lost = 0) := by
  induction count generalizing s with
  | zero =>
    have hcursor : s.cursor = e.sequence := hcount
    rw [hcursor] at h
    exact ⟨h, hcursor, fun hpos => absurd hpos (Nat.lt_irrefl 0)⟩
  | succ count ih =>
    have hv : history[s.cursor]? = some (e.entries (eventSlot s.cursor)) := hcaptured.entry (by omega) hlive
    have hplaced := h.place hnumbered hv
    rw [scanEvents]
    dsimp only
    generalize e.entries (eventSlot s.cursor) = v at *
    have hlength := (eventText_length v s.lost).2
    rw [Nat.succ_mul] at hroom
    rw [if_neg (fun hf => hf.1 rfl), EventRecord.text, if_neg (by omega)]
    rw [List.append_assoc] at hplaced
    have hroom' : (s.text ++ eventText v s.lost).length + count * eventTextMax < adminResponseMax := by
      rw [List.length_append]
      omega
    obtain ⟨haccounted, hcursor, hlost⟩ := ih (s := ⟨s.cursor + 1, 0, s.text ++ eventText v s.lost,
      s.placed ++ [.event v s.lost]⟩) (by dsimp only; omega) (by dsimp only; omega) hroom' hplaced
    refine ⟨haccounted, hcursor, fun _ => ?_⟩
    rcases Nat.eq_zero_or_pos count with rfl | hpos
    · rfl
    · exact hlost hpos

theorem scanEvents_text {filter : Word} {count : ℕ} {s : EventScan} (h : s.text = s.placed.flatMap EventRecord.text) :
    (scanEvents e filter count s).text = (scanEvents e filter count s).placed.flatMap EventRecord.text := by
  induction count generalizing s with
  | zero => exact h
  | succ count ih =>
    rw [scanEvents]
    dsimp only
    split
    · exact ih h
    · split
      · exact h
      · apply ih
        rw [List.flatMap_append, h, List.flatMap_singleton]

def Follows (history : List AdminEvent) (bound : ℕ) (c : AdminConnection) : Prop :=
  c.subscribed = true → c.request.v.proto = 0 → Accounted history c.start 0 c.sequence c.placed ∧ c.sequence ≤ bound

variable {view : AdminCapture} {c : AdminConnection} {bound : ℕ}

theorem Follows.of_not_subscribed (h : c.subscribed = false) : Follows history bound c := by
  intro hsub
  rw [h] at hsub
  cases hsub

theorem Follows.append (h : Follows history bound c) (later : List AdminEvent) : Follows (history ++ later) bound c := by
  intro hsub hfilter
  obtain ⟨haccounted, hle⟩ := h hsub hfilter
  exact ⟨haccounted.append later, hle⟩

theorem Follows.mono {bound' : ℕ} (h : Follows history bound c) (hle : bound ≤ bound') : Follows history bound' c := by
  intro hsub hfilter
  exact ⟨(h hsub hfilter).1, (h hsub hfilter).2.trans hle⟩

theorem scanView_accounted {sequence : ℕ} (hcaptured : CapturedFrom view.events history) (hnumbered : Numbered history)
    (hnew : sequence < view.events.sequence) (h : Accounted history start 0 sequence placed) :
    Accounted history start 0 view.events.sequence (placed ++ (scanView view sequence 0).placed) ∧
      (scanView view sequence 0).cursor = view.events.sequence := by
  rw [scanView]
  -- The number of events that the ring has lost.
  generalize hlost : (if adminEventMax < view.events.sequence - sequence
    then view.events.sequence - sequence - adminEventMax else 0) = lost
  have hcursor : sequence + lost < view.events.sequence ∧ view.events.sequence ≤ sequence + lost + adminEventMax := by
    unfold adminEventMax at hlost ⊢
    split at hlost <;> omega
  have hroom : ([] : List Char).length + (view.events.sequence - (sequence + lost)) * eventTextMax < adminResponseMax := by
    unfold eventTextMax adminResponseMax
    unfold adminEventMax at hcursor
    rw [List.length_nil]
    omega
  have hstart : Accounted history start lost (sequence + lost) (placed ++ []) := by
    rw [List.append_nil]
    exact h.skip lost
  obtain ⟨hscan, hend, hzero⟩ := scanEvents_accounted (s := ⟨sequence + lost, lost, [], []⟩) hcaptured hnumbered
    (by dsimp only; omega) hcursor.2 hroom hstart
  generalize scanEvents view.events 0 _ _ = scan at *
  have hzero : scan.lost = 0 := hzero (by omega)
  rw [reportOverflow, if_neg fun hl => hl.1 hzero]
  rw [hzero] at hscan
  exact ⟨hscan, hend⟩

theorem Follows.subscriberEvents (h : Follows history view.events.sequence c) (hcaptured : CapturedFrom view.events history)
    (hnumbered : Numbered history) : Follows history view.events.sequence (subscriberEvents view c) := by
  rw [PulsarNetstack.subscriberEvents]
  split
  · exact h
  rename_i hnew
  rw [not_or] at hnew
  have hplaced (scan : EventScan) (hscan : c.subscribed = true → c.request.v.proto = 0 →
      Accounted history c.start 0 scan.cursor (c.placed ++ scan.placed) ∧ scan.cursor ≤ view.events.sequence) :
      Follows history view.events.sequence (placeRecords c view.config.generation scan) := by
    rw [placeRecords]
    split <;> exact hscan
  apply hplaced
  intro hsub hfilter
  obtain ⟨haccounted, hle⟩ := h hsub hfilter
  obtain ⟨hscan, hend⟩ := scanView_accounted hcaptured hnumbered (Nat.lt_of_le_of_ne hle hnew.1) haccounted
  rw [hfilter, hend]
  exact ⟨hscan, le_rfl⟩

theorem EventRecord.text_ne_nil (record : EventRecord) : record.text ≠ [] := by
  cases record with
  | event v lost => exact List.append_ne_nil_of_right_ne_nil _ (by decide)
  | overflow sequence generation lost => exact List.append_ne_nil_of_right_ne_nil _ (by decide)

theorem reportOverflow_text {scan : EventScan} (h : scan.text = scan.placed.flatMap EventRecord.text) (generation : ℕ) :
    (reportOverflow generation scan).text = (reportOverflow generation scan).placed.flatMap EventRecord.text := by
  rw [reportOverflow]
  split
  · dsimp only
    rw [List.flatMap_cons, List.flatMap_nil, List.append_nil]
  · exact h

theorem scanView_text (view : AdminCapture) (sequence : ℕ) (filter : Word) :
    (scanView view sequence filter).text = (scanView view sequence filter).placed.flatMap EventRecord.text := by
  apply reportOverflow_text
  exact scanEvents_text (s := ⟨_, _, [], []⟩) rfl

theorem subscriberEvents_output (view : AdminCapture) (c : AdminConnection) :
    ∃ placed, (subscriberEvents view c).placed = c.placed ++ placed ∧
      (placed ≠ [] → ∃ h, (subscriberEvents view c).output =
        adminHeaderEncode h ++ (placed.flatMap EventRecord.text).map fun x => BitVec.ofNat 8 x.toNat) := by
  rw [subscriberEvents]
  split
  · exact ⟨[], (List.append_nil _).symm, fun h => absurd rfl h⟩
  · have htext := scanView_text view c.sequence c.request.v.proto
    generalize scanView view c.sequence c.request.v.proto = scan at *
    rw [placeRecords]
    refine ⟨scan.placed, ?_, ?_⟩
    · split <;> rfl
    · intro hplaced
      obtain ⟨record, rest, hrecord⟩ := List.exists_cons_of_ne_nil hplaced
      have hne : scan.text ≠ [] := by
        rw [htext, hrecord, List.flatMap_cons]
        exact List.append_ne_nil_of_left_ne_nil record.text_ne_nil _
      rw [if_neg hne, ← htext]
      exact ⟨_, rfl⟩

end Subscriber

section Runs

variable {names : List String} {s t : AdminSystem}

structure Monitored (s : AdminSystem) : Prop where
  recorded : Recorded s.events s.history
  numbered : Numbered s.history
  captured : CapturedFrom s.service.job.view.events s.history
  clients : ∀ i, Follows s.history s.service.job.view.events.sequence (s.service.clients i)

theorem Monitored.record (h : Monitored s) {e : AdminEvents} (he : Emitted s.events e) : Monitored (s.record e) where
  recorded := h.recorded.emitted he
  numbered := h.numbered.emitted h.recorded he
  captured := h.captured.append _
  clients i := (h.clients i).append _

theorem Monitored.setClient (h : Monitored s) {i : Fin adminClientMax} {c : AdminConnection}
    (hc : Follows s.history s.service.job.view.events.sequence c) : Monitored (s.setClient i c) where
  recorded := h.recorded
  numbered := h.numbered
  captured := h.captured
  clients j := by
    by_cases hj : j = i
    · subst hj
      change Follows _ _ (Function.update s.service.clients j c j)
      rw [Function.update_self]
      exact hc
    · change Follows _ _ (Function.update s.service.clients i c j)
      rw [Function.update_of_ne hj]
      exact h.clients j

theorem Monitored.activated (h : Monitored s) (rt : Runtime) (next : ConfigBlock) :
    Monitored (s.activated names rt next) := by
  apply Monitored.record
  · apply Monitored.record
    · exact ⟨h.recorded, h.numbered, h.captured, h.clients⟩
    · exact .activation ..
  · exact .generation ..

theorem Monitored.viewed (h : Monitored s) (result : Except Errno Unit) : Monitored (s.captured names result) where
  recorded := h.recorded
  numbered := h.numbered
  captured := h.recorded.capturedFrom
  clients i := (h.clients i).mono (h.captured.le.trans_eq h.recorded.sequence.symm)

theorem JobRun.monitored {result : Except Errno Unit} (h : Monitored s) (hrun : JobRun names s t result) : Monitored t := by
  cases hrun with
  | read => exact h
  | activate => exact h.activated _ _
  | refuse => exact ⟨h.recorded, h.numbered, h.captured, h.clients⟩
  | hardware => exact ⟨h.recorded, h.numbered, h.captured, h.clients⟩

theorem Follows.answerClient {history : List AdminEvent} {job : AdminJob} {c : AdminConnection}
    {shown : Except Errno (List Char)} (h : Follows history job.view.events.sequence c) :
    Follows history job.view.events.sequence (answerClient job shown c) := by
  rw [PulsarNetstack.answerClient]
  dsimp only
  split
  · split
    · exact h
    · split
      · exact fun _ _ => ⟨Accounted.init history _, le_rfl⟩
      · exact h
  · exact h

theorem Monitored.finish (h : Monitored s) (shown : Except Errno (List Char)) : Monitored (s.finish shown) := by
  have hview : (s.service.finish shown).job.view = s.service.job.view := by
    rw [AdminService.finish]
    dsimp only
    split <;> rfl
  have hanswer (i : Fin adminClientMax) :
      Follows s.history s.service.job.view.events.sequence (s.service.answer shown i) := by
    rw [AdminService.answer]
    split
    · exact (h.clients i).answerClient
    · exact h.clients i
  refine ⟨h.recorded, h.numbered, ?_, ?_⟩
  · change CapturedFrom (s.service.finish shown).job.view.events s.history
    rw [hview]
    exact h.captured
  · intro i
    change Follows s.history (s.service.finish shown).job.view.events.sequence _
    rw [hview]
    change Follows _ _ (if _ then _ else _)
    split
    · exact (hanswer i).subscriberEvents h.captured h.numbered
    · exact hanswer i

theorem disconnect_subscribed (c : AdminConnection) : (disconnect c).subscribed = false := by
  rw [disconnect]
  dsimp only
  split <;> rfl

theorem requestRead_subscribed (c : AdminConnection) : (requestRead c).subscribed = c.subscribed := by
  rw [requestRead]
  split
  · dsimp only
    split <;> rfl
  · rfl

theorem readClient_subscribed {c : AdminConnection} (h : c.subscribed = false) (chunk : List Byte) :
    (readClient c chunk).subscribed = false := by
  rw [readClient]
  dsimp only
  split
  · split
    · exact disconnect_subscribed _
    · split
      · exact disconnect_subscribed _
      · exact (requestRead_subscribed _).trans h
  · exact (requestRead_subscribed _).trans h

theorem AdminStep.monitored (h : Monitored s) (hstep : AdminStep names s t) : Monitored t := by
  cases hstep with
  | emit group id action free => exact h.record (.emit ..)
  | neighbour dev ip action free => exact h.record (.neighbour ..)
  | workerJob job run => exact (run.monitored h).viewed _
  | finish complete mutation => exact h.finish _
  | reject complete mutation =>
    apply Monitored.finish
    exact ⟨h.recorded, h.numbered, h.captured, h.clients⟩
  | exhausted complete mutation =>
    apply Monitored.finish
    exact ⟨h.recorded, h.numbered, h.captured, h.clients⟩
  | @start i connection now schedule next fd run =>
    have hpending := h.setClient (i := i) (c := { s.service.clients i with pending := true }) (h.clients i)
    exact ⟨h.recorded, h.numbered, h.captured, hpending.clients⟩
  | @accept i outside free =>
    have haccepted := h.setClient (i := i) (c := acceptClient s.accepted) (.of_not_subscribed rfl)
    exact ⟨h.recorded, h.numbered, h.captured, haccepted.clients⟩
  | hangup i outside => exact h.setClient (.of_not_subscribed (disconnect_subscribed _))
  | read outside fd output pending subscribed nonempty fits =>
    exact h.setClient (.of_not_subscribed (readClient_subscribed subscribed _))
  | @write i count outside fd output positive fits =>
    apply h.setClient
    rw [writeClient]
    split <;> exact h.clients i
  | _ => exact ⟨h.recorded, h.numbered, h.captured, h.clients⟩

theorem AdminReachable.monitored (h : AdminReachable names s) : Monitored s := by
  induction h with
  | start network =>
    have hempty : Recorded {} [] := ⟨rfl, fun k v hk => absurd hk (by simp)⟩
    refine ⟨hempty, fun k v hk => absurd hk (by simp), hempty.capturedFrom, fun i => .of_not_subscribed rfl⟩
  | step _ hstep ih => exact hstep.monitored ih

/-- The records that a subscriber without a filter is sent account for every event since its subscription. -/
theorem subscribers_account (h : AdminReachable names s) (i : Fin adminClientMax)
    (hsubscribed : (s.service.clients i).subscribed = true) (hfilter : (s.service.clients i).request.v.proto = 0) :
    let c := s.service.clients i
    ((delivered c.placed).map AdminEvent.sequence).Pairwise (· < ·) ∧
      (delivered c.placed).length + (c.placed.map EventRecord.lost).sum + c.start = c.sequence ∧
      (∀ v ∈ delivered c.placed, 0 < v.sequence ∧ s.history[v.sequence - 1]? = some v) ∧
      ∀ (view : AdminCapture) (d : AdminConnection), ∃ placed, (subscriberEvents view d).placed = d.placed ++ placed ∧
        (placed ≠ [] → ∃ header, (subscriberEvents view d).output =
          adminHeaderEncode header ++ (placed.flatMap EventRecord.text).map fun x => BitVec.ofNat 8 x.toNat) := by
  obtain ⟨haccounted, -⟩ := h.monitored.clients i hsubscribed hfilter
  refine ⟨haccounted.increasing, haccounted.balance, ?_, subscriberEvents_output⟩
  intro v hv
  exact (haccounted.faithful v hv).2

def AdminSystem.roundTrip (names : List String) (s : AdminSystem) (shown : Except Errno (List Char)) : AdminSystem :=
  { (s.captured names (.ok ())).finish shown with state := .control, control := .outside, worker := .outside }

theorem AdminReachable.roundTrip (h : AdminReachable names s) (hcontrol : s.control = .store .worker)
    (hworker : s.worker = .outside) (htype : s.service.job.type = .read)
    (hmutation : (s.captured names (.ok ())).service.mutation true = none) (shown : Except Errno (List Char)) :
    AdminReachable names (s.roundTrip names shown) := by
  have hposted := h.step (.store hcontrol)
  have hloaded := hposted.step (.workerLoad hworker rfl)
  have hdone := hloaded.step (.workerJob rfl (.read htype))
  have hreplied := hdone.step (.workerStore rfl)
  have hseen := hreplied.step (.loadReply rfl rfl)
  have hfinished := hseen.step (@AdminStep.finish _ _ shown rfl hmutation)
  exact hfinished.step (.store rfl)

end Runs

section Example

def monitorRequest : AdminWireRequest where
  group := 11
  verb := 1
  flags := 0
  v := {}
  dev := Vector.replicate 64 0
  acls := []

def monitorHeader : AdminHeader := { id := 1, length := 144, result := 0, generation := 0 }

def monitorClient : AdminConnection where
  fd := some 0
  lastId := 1
  input := adminHeaderEncode monitorHeader ++ adminRequestEncode monitorRequest
  target := 176
  header := monitorHeader
  request := { group := .monitor, verb := .show }

theorem monitorRequest_decodes : adminRequestDecode (adminRequestEncode monitorRequest) = .ok monitorRequest := by
  have haccepted : (adminRequestDecode (adminRequestEncode monitorRequest)).toBool = true := by decide +kernel
  cases hdecode : adminRequestDecode (adminRequestEncode monitorRequest) with
  | error e => rw [hdecode] at haccepted; cases haccepted
  | ok w => rw [adminRequestDecode_adminRequestEncode (Nat.zero_le _) hdecode]

def monitorCaller : AdminConnection :=
  { acceptClient 0 with input := adminHeaderEncode monitorHeader, target := 176, header := monitorHeader }

theorem monitorCaller_read : readClient (acceptClient 0) (adminHeaderEncode monitorHeader) = monitorCaller := by
  have hlength : (adminHeaderEncode monitorHeader).length = 32 := putFields_length _ _ _
  have hdecode : adminHeaderDecode (adminHeaderEncode monitorHeader) = .ok monitorHeader := by
    have := adminHeaderDecode_adminHeaderEncode (h := monitorHeader) (by decide) (by decide) []
    rwa [List.append_nil] at this
  have hinput : (acceptClient 0).input ++ adminHeaderEncode monitorHeader = adminHeaderEncode monitorHeader :=
    List.nil_append _
  rw [readClient, hinput]
  dsimp only
  rw [if_pos ⟨hlength, rfl⟩, hdecode]
  dsimp only
  rw [if_neg (by decide), requestRead, if_neg (by rw [hlength]; decide)]
  rfl

theorem requestRead_of_decode {c : AdminConnection} {w : AdminWireRequest} (hlength : c.input.length = c.target)
    (hdecode : adminRequestDecode (c.input.drop adminHeaderSize) = .ok w) : requestRead c =
      { c with lastId := c.header.id, request := w.request.getD c.request, flags := w.flags } := by
  rw [requestRead, if_pos hlength]
  dsimp only
  rw [hdecode]

theorem monitorClient_read : readClient monitorCaller (adminRequestEncode monitorRequest) = monitorClient := by
  have hheader : monitorCaller.input.length = adminHeaderSize := putFields_length _ _ _
  have hlength : (monitorCaller.input ++ adminRequestEncode monitorRequest).length = 176 := by
    rw [List.length_append, hheader, (adminRequestEncode_adminRequestDecode monitorRequest_decodes).2]
    rfl
  have hdecode : adminRequestDecode ((monitorCaller.input ++ adminRequestEncode monitorRequest).drop adminHeaderSize) =
      .ok monitorRequest := by
    rw [List.drop_left' hheader]
    exact monitorRequest_decodes
  have hrequest : monitorRequest.request = some { group := .monitor, verb := .show } := rfl
  have hbody : readClient monitorCaller (adminRequestEncode monitorRequest) =
      requestRead { monitorCaller with input := monitorCaller.input ++ adminRequestEncode monitorRequest } := by
    rw [readClient]
    dsimp only
    rw [hlength, if_neg (by decide)]
  rw [hbody, requestRead_of_decode (c := { monitorCaller with input := _ }) hlength hdecode, hrequest]
  rfl

def monitorSystem (c : AdminConnection) : AdminSystem :=
  { rt := gatewayRuntime, accepted := 1, service := { clients := Function.update (fun _ => {}) (clientSlot 0) c } }

theorem monitorSystem_client (c : AdminConnection) : (monitorSystem c).service.clients (clientSlot 0) = c := by
  rw [monitorSystem]
  dsimp only
  rw [Function.update_self]

theorem monitorSystem_setClient (c c' : AdminConnection) : (monitorSystem c).setClient (clientSlot 0) c' = monitorSystem c' := by
  rw [AdminSystem.setClient, monitorSystem, Function.update_idem]
  rfl

theorem monitorSystem_reachable : AdminReachable ["tap0"] (monitorSystem monitorClient) := by
  have hstarted : AdminReachable ["tap0"] { rt := gatewayRuntime } := .start (c := gatewaySnapshot) rfl
  have haccepted : AdminReachable ["tap0"] (monitorSystem (acceptClient 0)) :=
    hstarted.step (.accept (i := clientSlot 0) rfl (by decide))
  have hread {c : AdminConnection} (h : AdminReachable ["tap0"] (monitorSystem c)) (chunk : List Byte)
      (hfd : c.fd.isSome = true) (houtput : c.output = []) (hpending : c.pending = false) (hsub : c.subscribed = false)
      (hchunk : chunk ≠ []) (hfits : c.input.length + chunk.length ≤ c.target) :
      AdminReachable ["tap0"] (monitorSystem (readClient c chunk)) := by
    have hstep : AdminStep ["tap0"] (monitorSystem c) ((monitorSystem c).setClient (clientSlot 0)
        (readClient ((monitorSystem c).service.clients (clientSlot 0)) chunk)) := by
      apply AdminStep.read rfl _ _ _ _ hchunk
      all_goals
        rw [monitorSystem_client]
        assumption
    rw [monitorSystem_client, monitorSystem_setClient] at hstep
    exact h.step hstep
  have hheader := hread haccepted (adminHeaderEncode monitorHeader) rfl rfl rfl rfl (by decide +kernel) (by decide +kernel)
  rw [monitorCaller_read] at hheader
  have hbody := hread hheader (adminRequestEncode monitorRequest) rfl rfl rfl rfl (by decide +kernel) (by decide +kernel)
  rw [monitorClient_read] at hbody
  exact hbody

def subscribedSystem : AdminSystem :=
  AdminSystem.roundTrip ["tap0"] { monitorSystem monitorClient with
    control := .store .worker, service := (monitorSystem monitorClient).service.start (clientSlot 0), scheduled := [0] } (.ok [])

theorem monitorSystem_schedules : (monitorSystem monitorClient).service.nextClient = some (clientSlot 0) ∧
    (monitorSystem monitorClient).service.schedule 0 = some ((monitorSystem monitorClient).service.start (clientSlot 0)) := by
  have hnext : (monitorSystem monitorClient).service.nextClient = some (clientSlot 0) := by decide +kernel
  exact ⟨hnext, by rw [AdminService.schedule, hnext]⟩

theorem subscribedSystem_reachable : AdminReachable ["tap0"] subscribedSystem := by
  have hfd : ((monitorSystem monitorClient).service.clients (clientSlot 0)).fd = some 0 := rfl
  have hempty := monitorSystem_reachable.step (.loadEmpty rfl rfl)
  have hstarted := hempty.step (.start rfl monitorSystem_schedules.1 hfd monitorSystem_schedules.2)
  exact hstarted.roundTrip rfl rfl rfl rfl _

def scanningSystem : AdminSystem :=
  let s := subscribedSystem.setClient (clientSlot 0) (writeClient (subscribedSystem.service.clients (clientSlot 0)) 32)
  let s := s.record (adminEventEmit s.events s.generation (adminGroupNumber .link) 0 (adminVerbNumber .show))
  { s with control := .store .worker, service := s.service.scan 100 }

theorem scanningSystem_reachable : AdminReachable ["tap0"] scanningSystem := by
  have hwritten := subscribedSystem_reachable.step (@AdminStep.write _ _ (clientSlot 0) 32 rfl rfl
    (by decide +kernel) (by decide) (by decide +kernel))
  have hemitted := hwritten.step (.emit (adminGroupNumber .link) 0 (adminVerbNumber .show) (by decide +kernel))
  have hempty := hemitted.step (.loadEmpty rfl rfl)
  exact hempty.step (.scan rfl (by decide +kernel) rfl)

theorem subscribers_account_monitorClient : ∃ s, AdminReachable ["tap0"] s ∧
    (s.service.clients (clientSlot 0)).subscribed = true ∧
    (delivered (s.service.clients (clientSlot 0)).placed).length +
      ((s.service.clients (clientSlot 0)).placed.map EventRecord.lost).sum = 1 := by
  have hscanned := scanningSystem_reachable.roundTrip rfl rfl rfl rfl (.ok [])
  have hsubscribed : ((scanningSystem.roundTrip ["tap0"] (.ok [])).service.clients (clientSlot 0)).subscribed = true := by
    decide +kernel
  have hstart : ((scanningSystem.roundTrip ["tap0"] (.ok [])).service.clients (clientSlot 0)).start = 0 := by
    decide +kernel
  have hcursor : ((scanningSystem.roundTrip ["tap0"] (.ok [])).service.clients (clientSlot 0)).sequence = 1 := by
    decide +kernel
  have hbalance := (subscribers_account hscanned (clientSlot 0) hsubscribed (by decide +kernel)).2.1
  rw [hstart, hcursor, Nat.add_zero] at hbalance
  exact ⟨_, hscanned, hsubscribed, hbalance⟩

end Example

end PulsarNetstack
