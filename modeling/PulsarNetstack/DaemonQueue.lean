import PulsarNetstack.DaemonControl

namespace PulsarNetstack

variable {k : ℕ} {β : Type}

abbrev QueueItem (k : ℕ) (β : Type) : Type := Fin k → β

structure DaemonQueue (k : ℕ) (β : Type) where
  read : Word
  write : Word
  entries : Fin daemonQueueSize → QueueItem k β

def daemonQueueInit (entries : Fin daemonQueueSize → QueueItem k β) : DaemonQueue k β := ⟨0, 0, entries⟩

def queueEntry (counter : Word) : Fin daemonQueueSize := ⟨counter.toNat % daemonQueueSize, Nat.mod_lt _ (by decide)⟩

def DaemonQueue.setCell (q : DaemonQueue k β) (entry : Fin daemonQueueSize) (i : Fin k) (x : β) : DaemonQueue k β :=
  { q with entries := Function.update q.entries entry (Function.update (q.entries entry) i x) }

inductive Producer (k : ℕ) (β : Type)
  | idle
  | room (write : Word)
  | push (item : QueueItem k β) (write : Word)
  | copy (item : QueueItem k β) (write : Word) (copied : ℕ)

inductive Consumer (k : ℕ) (β : Type)
  | idle
  | pop (read : Word)
  | copy (read : Word) (item : QueueItem k β) (copied : ℕ)

structure QueueRun (k : ℕ) (β : Type) where
  queue : DaemonQueue k β
  producer : Producer k β := .idle
  consumer : Consumer k β := .idle
  pushed : List (QueueItem k β) := []
  popped : List (QueueItem k β) := []
  roomSeen : Bool := false

/-- One load, copy of a cell or store of one of the two sides. A comparison goes with the load before it. -/
inductive QueueStep (s : QueueRun k β) : QueueRun k β → Prop
  | roomWrite (here : s.producer = .idle) : QueueStep s { s with producer := .room s.queue.write }
  | roomRead {write : Word} (here : s.producer = .room write) : QueueStep s
      { s with
        producer := .idle
        roomSeen := decide (write - s.queue.read < BitVec.ofNat 32 daemonQueueSize) }
  | pushWrite (item : QueueItem k β) (here : s.producer = .idle) :
      QueueStep s { s with producer := .push item s.queue.write }
  | pushFull {item : QueueItem k β} {write : Word} (here : s.producer = .push item write)
      (full : write - s.queue.read = BitVec.ofNat 32 daemonQueueSize) : QueueStep s { s with producer := .idle }
  | pushRead {item : QueueItem k β} {write : Word} (here : s.producer = .push item write)
      (free : write - s.queue.read ≠ BitVec.ofNat 32 daemonQueueSize) :
      QueueStep s { s with producer := .copy item write 0 }
  | pushCell {item : QueueItem k β} {write : Word} (i : Fin k) (here : s.producer = .copy item write i) : QueueStep s
      { s with
        queue := s.queue.setCell (queueEntry write) i (item i)
        producer := .copy item write (i + 1) }
  | pushStore {item : QueueItem k β} {write : Word} (here : s.producer = .copy item write k) : QueueStep s
      { s with
        queue := { s.queue with write := write + 1 }
        producer := .idle
        pushed := s.pushed ++ [item]
        roomSeen := false }
  | popRead (here : s.consumer = .idle) : QueueStep s { s with consumer := .pop s.queue.read }
  | popEmpty {read : Word} (here : s.consumer = .pop read) (empty : read = s.queue.write) :
      QueueStep s { s with consumer := .idle }
  | popWrite {read : Word} (item : QueueItem k β) (here : s.consumer = .pop read) (more : read ≠ s.queue.write) :
      QueueStep s { s with consumer := .copy read item 0 }
  | popCell {read : Word} {item : QueueItem k β} (i : Fin k) (here : s.consumer = .copy read item i) : QueueStep s
      { s with consumer := .copy read (Function.update item i (s.queue.entries (queueEntry read) i)) (i + 1) }
  | popStore {read : Word} {item : QueueItem k β} (here : s.consumer = .copy read item k) : QueueStep s
      { s with
        queue := { s.queue with read := read + 1 }
        consumer := .idle
        popped := s.popped ++ [item] }

inductive QueueReachable : QueueRun k β → Prop
  | init (entries : Fin daemonQueueSize → QueueItem k β) : QueueReachable { queue := daemonQueueInit entries }
  | step {s s' : QueueRun k β} (h : QueueReachable s) (hstep : QueueStep s s') : QueueReachable s'

section Counters

variable {m n : ℕ}

theorem counter_succ (n : ℕ) : BitVec.ofNat 32 n + 1 = BitVec.ofNat 32 (n + 1) := by
  rw [BitVec.ofNat_add]
  rfl

theorem counter_sub (hle : n ≤ m) (hclose : m ≤ n + daemonQueueSize) :
    (BitVec.ofNat 32 m - BitVec.ofNat 32 n).toNat = m - n := by
  have hsize : daemonQueueSize = 64 := rfl
  rw [BitVec.toNat_sub, BitVec.toNat_ofNat, BitVec.toNat_ofNat]
  omega

theorem counter_full (hle : n ≤ m) (hclose : m ≤ n + daemonQueueSize) :
    BitVec.ofNat 32 m - BitVec.ofNat 32 n = BitVec.ofNat 32 daemonQueueSize ↔ m = n + daemonQueueSize := by
  have hsize : (BitVec.ofNat 32 daemonQueueSize).toNat = daemonQueueSize := rfl
  rw [← BitVec.toNat_inj, counter_sub hle hclose, hsize]
  omega

theorem counter_room (hle : n ≤ m) (hclose : m ≤ n + daemonQueueSize) :
    BitVec.ofNat 32 m - BitVec.ofNat 32 n < BitVec.ofNat 32 daemonQueueSize ↔ m < n + daemonQueueSize := by
  have hsize : (BitVec.ofNat 32 daemonQueueSize).toNat = daemonQueueSize := rfl
  rw [BitVec.lt_def, counter_sub hle hclose, hsize]
  omega

theorem counter_empty (hle : n ≤ m) (hclose : m ≤ n + daemonQueueSize) :
    BitVec.ofNat 32 n = BitVec.ofNat 32 m ↔ n = m := by
  have hsize : daemonQueueSize = 64 := rfl
  rw [← BitVec.toNat_inj, BitVec.toNat_ofNat, BitVec.toNat_ofNat]
  omega

theorem queueEntry_ofNat (n : ℕ) : (queueEntry (BitVec.ofNat 32 n)).val = n % daemonQueueSize := by
  change (BitVec.ofNat 32 n).toNat % 64 = n % 64
  rw [BitVec.toNat_ofNat]
  omega

theorem queueEntry_ne (hlt : n < m) (hclose : m < n + daemonQueueSize) :
    queueEntry (BitVec.ofNat 32 n) ≠ queueEntry (BitVec.ofNat 32 m) := by
  have hsize : daemonQueueSize = 64 := rfl
  intro h
  have hval := congrArg Fin.val h
  rw [queueEntry_ofNat, queueEntry_ofNat, hsize] at hval
  omega

end Counters

def ProducerOk (write : Word) (free : Prop) (entry : QueueItem k β) : Producer k β → Prop
  | .idle => True
  | .room w | .push _ w => w = write
  | .copy item w copied => w = write ∧ free ∧ ∀ j : Fin k, j.val < copied → entry j = item j

def ConsumerOk (read : Word) (next : Option (QueueItem k β)) : Consumer k β → Prop
  | .idle => True
  | .pop r => r = read
  | .copy r item copied => r = read ∧ ∃ x, next = some x ∧ ∀ j : Fin k, j.val < copied → item j = x j

theorem ProducerOk.mono {write : Word} {free free' : Prop} {entry : QueueItem k β} {p : Producer k β}
    (h : ProducerOk write free entry p) (hfree : free → free') : ProducerOk write free' entry p := by
  cases p with
  | idle => trivial
  | room => exact h
  | push => exact h
  | copy => exact ⟨h.1, hfree h.2.1, h.2.2⟩

theorem ConsumerOk.mono {read : Word} {next next' : Option (QueueItem k β)} {c : Consumer k β}
    (h : ConsumerOk read next c) (hnext : ∀ x, next = some x → next' = some x) : ConsumerOk read next' c := by
  cases c with
  | idle => trivial
  | pop => exact h
  | copy =>
    obtain ⟨hread, x, hx, hcells⟩ := h
    exact ⟨hread, x, hnext x hx, hcells⟩

structure QueueOk (s : QueueRun k β) : Prop where
  taken : s.popped = s.pushed.take s.popped.length
  le : s.popped.length ≤ s.pushed.length
  close : s.pushed.length ≤ s.popped.length + daemonQueueSize
  write : s.queue.write = BitVec.ofNat 32 s.pushed.length
  read : s.queue.read = BitVec.ofNat 32 s.popped.length
  stored {i : ℕ} {item : QueueItem k β} : s.popped.length ≤ i → s.pushed[i]? = some item →
    s.queue.entries (queueEntry (BitVec.ofNat 32 i)) = item
  producer : ProducerOk s.queue.write (s.pushed.length < s.popped.length + daemonQueueSize)
    (s.queue.entries (queueEntry s.queue.write)) s.producer
  consumer : ConsumerOk s.queue.read s.pushed[s.popped.length]? s.consumer
  roomSeen : s.roomSeen = true → s.pushed.length < s.popped.length + daemonQueueSize

namespace QueueOk

variable {s s' : QueueRun k β}

theorem init (entries : Fin daemonQueueSize → QueueItem k β) : QueueOk { queue := daemonQueueInit entries } where
  taken := rfl
  le := Nat.le_refl _
  close := Nat.zero_le _
  write := rfl
  read := rfl
  stored _ h := nomatch h
  producer := trivial
  consumer := trivial
  roomSeen h := nomatch h

theorem entry_ne (h : QueueOk s) (hfree : s.pushed.length < s.popped.length + daemonQueueSize) {i : ℕ}
    (hlow : s.popped.length ≤ i) (hhigh : i < s.pushed.length) :
    queueEntry (BitVec.ofNat 32 i) ≠ queueEntry s.queue.write := by
  rw [h.write]
  exact queueEntry_ne hhigh (by omega)

theorem pushCell (h : QueueOk s) {item : QueueItem k β} {write : Word} (i : Fin k)
    (here : s.producer = .copy item write i) : QueueOk
      { s with
        queue := s.queue.setCell (queueEntry write) i (item i)
        producer := .copy item write (i + 1) } := by
  have hproducer := h.producer
  rw [here] at hproducer
  obtain ⟨rfl, hfree, hcells⟩ := hproducer
  refine { h with stored := fun {j x} hlow hx => ?_, producer := ⟨rfl, hfree, fun j hj => ?_⟩ }
  · have hne := h.entry_ne hfree hlow (List.getElem?_eq_some_iff.mp hx).1
    exact (Function.update_of_ne hne _ _).trans (h.stored hlow hx)
  · have hentry : (s.queue.setCell (queueEntry s.queue.write) i (item i)).entries (queueEntry s.queue.write) =
        Function.update (s.queue.entries (queueEntry s.queue.write)) i (item i) := Function.update_self ..
    change (s.queue.setCell (queueEntry s.queue.write) i (item i)).entries (queueEntry s.queue.write) j = item j
    rw [hentry]
    by_cases hji : j = i
    · rw [hji, Function.update_self]
    · rw [Function.update_of_ne hji]
      exact hcells j (by omega)

theorem pushStore (h : QueueOk s) {item : QueueItem k β} {write : Word} (here : s.producer = .copy item write k) : QueueOk
      { s with
        queue := { s.queue with write := write + 1 }
        producer := .idle
        pushed := s.pushed ++ [item]
        roomSeen := false } := by
  have hproducer := h.producer
  rw [here] at hproducer
  obtain ⟨rfl, hfree, hcells⟩ := hproducer
  have hitem : s.queue.entries (queueEntry s.queue.write) = item := funext fun j => hcells j j.isLt
  have hlength : (s.pushed ++ [item]).length = s.pushed.length + 1 := List.length_append
  refine ⟨?_, ?_, ?_, ?_, h.read, fun {i x} hlow hx => ?_, trivial, ?_, nofun⟩
  · rw [List.take_append_of_le_length h.le]
    exact h.taken
  · rw [hlength]
    exact Nat.le_succ_of_le h.le
  · rw [hlength]
    exact hfree
  · rw [hlength, h.write]
    exact counter_succ _
  · by_cases hi : i < s.pushed.length
    · rw [List.getElem?_append_left hi] at hx
      exact h.stored hlow hx
    · have hi : i = s.pushed.length := by
        have hlt : i < (s.pushed ++ [item]).length := (List.getElem?_eq_some_iff.mp hx).1
        omega
      rw [hi, List.getElem?_concat_length] at hx
      rw [hi, ← h.write, ← Option.some.inj hx]
      exact hitem
  · exact h.consumer.mono fun x hx => by
      rw [List.getElem?_append_left (List.getElem?_eq_some_iff.mp hx).1]
      exact hx

theorem popStore (h : QueueOk s) {item : QueueItem k β} {read : Word} (here : s.consumer = .copy read item k) : QueueOk
      { s with
        queue := { s.queue with read := read + 1 }
        consumer := .idle
        popped := s.popped ++ [item] } := by
  have hconsumer := h.consumer
  rw [here] at hconsumer
  obtain ⟨rfl, x, hx, hcells⟩ := hconsumer
  have hitem : item = x := funext fun j => hcells j j.isLt
  have hlength : (s.popped ++ [item]).length = s.popped.length + 1 := List.length_append
  have hlt : s.popped.length < s.pushed.length := (List.getElem?_eq_some_iff.mp hx).1
  refine ⟨?_, ?_, ?_, h.write, ?_, fun {i y} hlow hy => ?_, ?_, trivial, fun hroom => ?_⟩
  · rw [hlength, List.take_add_one, hx, ← h.taken, hitem]
    rfl
  · rw [hlength]
    exact hlt
  · rw [hlength]
    exact h.close.trans (by omega)
  · rw [hlength, h.read]
    exact counter_succ _
  · rw [hlength] at hlow
    exact h.stored (by omega) hy
  · refine h.producer.mono fun hfree : s.pushed.length < s.popped.length + daemonQueueSize => ?_
    change s.pushed.length < (s.popped ++ [item]).length + daemonQueueSize
    omega
  · have hfree := h.roomSeen hroom
    change s.pushed.length < (s.popped ++ [item]).length + daemonQueueSize
    omega

theorem step (h : QueueOk s) (hstep : QueueStep s s') : QueueOk s' := by
  cases hstep with
  | roomWrite => exact { h with producer := rfl }
  | roomRead here =>
    have hproducer := h.producer
    rw [here] at hproducer
    refine { h with producer := trivial, roomSeen := fun hroom => ?_ }
    have hroom := of_decide_eq_true hroom
    rw [show _ = s.queue.write from hproducer, h.write, h.read, counter_room h.le h.close] at hroom
    exact hroom
  | pushWrite => exact { h with producer := rfl }
  | pushFull => exact { h with producer := trivial }
  | pushRead here free =>
    have hproducer := h.producer
    rw [here] at hproducer
    have hwrite : _ = s.queue.write := hproducer
    rw [hwrite, h.write, h.read, Ne, counter_full h.le h.close] at free
    have hfree : s.pushed.length < s.popped.length + daemonQueueSize := lt_of_le_of_ne h.close free
    exact { h with producer := ⟨hwrite, hfree, fun _ hj => absurd hj (Nat.not_lt_zero _)⟩ }
  | pushCell i here => exact h.pushCell i here
  | pushStore here => exact h.pushStore here
  | popRead => exact { h with consumer := rfl }
  | popEmpty => exact { h with consumer := trivial }
  | popWrite item here more =>
    have hconsumer := h.consumer
    rw [here] at hconsumer
    have hread : _ = s.queue.read := hconsumer
    rw [hread, h.write, h.read, Ne, counter_empty h.le h.close] at more
    have hlt : s.popped.length < s.pushed.length := lt_of_le_of_ne h.le more
    exact { h with consumer := ⟨hread, _, List.getElem?_eq_getElem hlt, fun _ hj => absurd hj (Nat.not_lt_zero _)⟩ }
  | popCell i here =>
    have hconsumer := h.consumer
    rw [here] at hconsumer
    obtain ⟨rfl, x, hx, hcells⟩ := hconsumer
    refine { h with consumer := ⟨rfl, x, hx, fun j hj => ?_⟩ }
    by_cases hji : j = i
    · rw [hji, Function.update_self, h.read, h.stored (Nat.le_refl _) hx]
    · rw [Function.update_of_ne hji]
      exact hcells j (by omega)
  | popStore here => exact h.popStore here

end QueueOk

theorem QueueReachable.ok {s : QueueRun k β} (h : QueueReachable s) : QueueOk s := by
  induction h with
  | init entries => exact .init entries
  | step _ hstep ih => exact ih.step hstep

def QueueRun.outstanding (s : QueueRun k β) : List (QueueItem k β) := s.pushed.drop s.popped.length

inductive FifoStep {α : Type} : List α → List α → Prop
  | stay (q : List α) : FifoStep q q
  | push {q : List α} (item : α) (room : q.length ≠ daemonQueueSize) : FifoStep q (q ++ [item])
  | pop (item : α) (q : List α) : FifoStep (item :: q) q

theorem QueueOk.refines {s s' : QueueRun k β} (h : QueueOk s) (hstep : QueueStep s s') :
    FifoStep s.outstanding s'.outstanding := by
  cases hstep with
  | @pushStore item write here =>
    have hproducer := h.producer
    rw [here] at hproducer
    obtain ⟨-, hfree, -⟩ := hproducer
    have hout : (s.pushed ++ [item]).drop s.popped.length = s.outstanding ++ [item] :=
      List.drop_append_of_le_length h.le
    change FifoStep s.outstanding ((s.pushed ++ [item]).drop s.popped.length)
    rw [hout]
    refine .push item ?_
    have hle := h.le
    rw [QueueRun.outstanding, List.length_drop]
    omega
  | @popStore read item here =>
    have hconsumer := h.consumer
    rw [here] at hconsumer
    obtain ⟨-, x, hx, -⟩ := hconsumer
    obtain ⟨hlt, hitem⟩ := List.getElem?_eq_some_iff.mp hx
    change FifoStep (s.pushed.drop s.popped.length) (s.pushed.drop (s.popped ++ [item]).length)
    rw [List.drop_eq_getElem_cons hlt, List.length_append]
    exact .pop _ _
  | roomWrite | roomRead | pushWrite | pushFull | pushRead | pushCell | popRead | popEmpty | popWrite | popCell =>
    exact .stay _

/-- The queue is a bounded FIFO under every interleaving; a push fails only while 64 items are outstanding, and not after
`daemon_queue_room` has seen room. -/
theorem daemon_queue_fifo {s : QueueRun k β} (h : QueueReachable s) :
    s.popped <+: s.pushed ∧
    (∀ item write (copied : ℕ), s.producer = .copy item write copied →
      (∀ i, s.popped.length ≤ i → i < s.pushed.length → queueEntry (BitVec.ofNat 32 i) ≠ queueEntry write) ∧
      ∀ read taken done, s.consumer = .copy read taken done → queueEntry read ≠ queueEntry write) ∧
    (∀ item write, s.producer = .push item write → write - s.queue.read = BitVec.ofNat 32 daemonQueueSize →
      s.pushed.length = s.popped.length + daemonQueueSize ∧ s.roomSeen = false) ∧
    ∀ s', QueueStep s s' → FifoStep s.outstanding s'.outstanding := by
  have hok := h.ok
  refine ⟨?_, fun item write copied here => ?_, fun item write here full => ?_, fun s' hstep => hok.refines hstep⟩
  · rw [hok.taken]
    exact List.take_prefix _ _
  · have hproducer := hok.producer
    rw [here] at hproducer
    obtain ⟨rfl, hfree, -⟩ := hproducer
    refine ⟨fun i hlow hhigh => hok.entry_ne hfree hlow hhigh, fun read taken done copying => ?_⟩
    have hconsumer := hok.consumer
    rw [copying] at hconsumer
    obtain ⟨rfl, x, hx, -⟩ := hconsumer
    rw [hok.read]
    exact hok.entry_ne hfree (Nat.le_refl _) (List.getElem?_eq_some_iff.mp hx).1
  · have hproducer := hok.producer
    rw [here] at hproducer
    have hwrite : write = s.queue.write := hproducer
    rw [hwrite, hok.write, hok.read, counter_full hok.le hok.close] at full
    refine ⟨full, Bool.eq_false_iff.mpr fun hroom => ?_⟩
    have hfree := hok.roomSeen hroom
    omega

-- The first item is popped while the second is pushed.
theorem daemon_queue_fifo_two : ∃ s : QueueRun 1 ℕ, s.pushed = [fun _ => 7, fun _ => 8] ∧ s.popped = [fun _ => 7] ∧
    s.popped <+: s.pushed := by
  have h₀ : QueueReachable ({ queue := daemonQueueInit fun _ _ => 0 } : QueueRun 1 ℕ) := .init _
  have h₁ := (h₀.step (.pushWrite (fun _ => 7) rfl)).step (.pushRead rfl (by decide))
  have h₂ := (h₁.step (.pushCell 0 rfl)).step (.pushStore rfl)
  have h₃ := (h₂.step (.pushWrite (fun _ => 8) rfl)).step (.popRead rfl)
  have h₄ := (h₃.step (.pushRead rfl (by decide))).step (.popWrite (fun _ => 0) rfl (by decide))
  have h₅ := (h₄.step (.pushCell 0 rfl)).step (.popCell 0 rfl)
  have h₆ := (h₅.step (.popStore rfl)).step (.pushStore rfl)
  refine ⟨_, rfl, ?_, (daemon_queue_fifo h₆).1⟩
  refine congrArg (fun x => [x]) (funext fun i => ?_)
  rw [Subsingleton.elim i 0]
  rfl

end PulsarNetstack
