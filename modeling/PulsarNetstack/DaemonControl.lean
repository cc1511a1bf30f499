import PulsarNetstack.IpcCodec

namespace PulsarNetstack

def daemonClientMax : ℕ := 64
def daemonQueueSize : ℕ := 64
def daemonSocketMax : ℕ := 256
def ipcFeatureDgramBatch : ℤ := 1
def uint64Max : ℕ := 18446744073709551615

structure DaemonHandle where
  localFd : ℕ := 0
  core : ℤ := 0
  deriving DecidableEq, Repr

/-- The last three fields are not in the source: the bytes that `recv` has returned, the requests that `submit_client` has
taken up, and whether the connection was closed because of what it sent. -/
structure DaemonClient where
  fd : Bool := false
  dead : Bool := false
  pending : Bool := false
  cleanup : Bool := false
  hello : Bool := false
  nextHandle : ℕ := 0
  owner : ℕ := 0
  lastId : Word := 0
  have_ : ℕ := 0
  target : ℕ := 0
  sent : ℕ := 0
  input : IpcMessage := { op := 0, id := 0 }
  header : List Byte := List.replicate ipcHeaderSize 0
  output : List Byte := []
  handles : List DaemonHandle := List.replicate daemonSocketMax {}
  received : List Byte := []
  taken : List IpcMessage := []
  refused : Bool := false

namespace DaemonClient

def disconnectClient (c : DaemonClient) : DaemonClient := { c with fd := false, dead := true, output := [] }

def refuse (c : DaemonClient) : DaemonClient := { c.disconnectClient with refused := true }

def handle (c : DaemonClient) (fd : ℤ) : Option DaemonHandle :=
  c.handles.find? fun h => decide ((h.localFd : ℤ) = fd ∧ 0 < fd)

def followingHandle (fd : ℕ) : ℕ := if fd = intMax then 1 else fd + 1

def freshHandle (c : DaemonClient) : ℕ → ℕ → ℕ × ℕ
  | 0, next => (next, followingHandle next)
  | fuel + 1, next =>
    if (c.handle next).isSome then freshHandle c fuel (followingHandle next) else (next, followingHandle next)

def addHandle (c : DaemonClient) (core : ℤ) : Option (DaemonClient × ℕ) :=
  match c.handles.findIdx? fun h => h.localFd == 0 with
  | none => none
  | some i =>
    let (fd, next) := freshHandle c daemonSocketMax c.nextHandle
    some ({ c with nextHandle := next, handles := c.handles.set i ⟨fd, core⟩ }, fd)

def dropHandle (c : DaemonClient) (fd : ℤ) : DaemonClient :=
  match c.handles.findIdx? fun h => decide ((h.localFd : ℤ) = fd ∧ 0 < fd) with
  | none => c
  | some i => { c with handles := c.handles.set i {} }

def reply (c : DaemonClient) (m : IpcMessage) : DaemonClient :=
  { c with output := ipcEncode m ++ m.data, sent := 0, have_ := 0, target := ipcHeaderSize }

def answer (c : DaemonClient) (m : IpcMessage) : DaemonClient :=
  let c := if m.result = 0 ∧ ipcOperation m.op = some .close then c.dropHandle c.input.fd else c
  c.reply { m with fd := c.input.fd }

def opensSocket (m : IpcMessage) : Prop :=
  0 ≤ m.result ∧ (ipcOperation m.op = some .socket ∨ ipcOperation m.op = some .accept)

instance (m : IpcMessage) : Decidable (opensSocket m) := inferInstanceAs (Decidable (_ ∧ _))

def collect (c : DaemonClient) (m : IpcMessage) : DaemonClient :=
  let c := { c with pending := false }
  if ipcOperation m.op = some .cleanup ∧ c.cleanup then {}
  else if c.dead then c
  else if m.id ≠ c.input.id ∨ m.op ≠ c.input.op then c.disconnectClient
  else if opensSocket m then
    match c.addHandle m.result with
    | none => c.disconnectClient
    | some (c, fd) => c.answer { m with result := fd }
  else c.answer m

def store (c : DaemonClient) (chunk : List Byte) : DaemonClient :=
  let c := if c.have_ < ipcHeaderSize then { c with header := putBytes c.header c.have_ chunk }
    else { c with input := { c.input with data := putBytes c.input.data (c.have_ - ipcHeaderSize) chunk } }
  { c with have_ := c.have_ + chunk.length, received := c.received ++ chunk }

def readClient (c : DaemonClient) (chunk : List Byte) : DaemonClient :=
  let c := c.store chunk
  if c.have_ = ipcHeaderSize ∧ c.target = ipcHeaderSize then
    match ipcDecode c.header with
    | .error _ => c.refuse
    | .ok m =>
      let c := { c with input := m }
      if !ipcRequestValid m ∨ m.id = c.lastId then c.refuse
      else { c with lastId := m.id, target := c.target + m.data.length }
  else c

def writeClient (c : DaemonClient) (count : ℕ) : DaemonClient :=
  if c.sent + count = c.output.length then { c with output := [], sent := 0 } else { c with sent := c.sent + count }

def accepted (owner : ℕ) : DaemonClient := { fd := true, owner := owner, nextHandle := 1, target := ipcHeaderSize }

end DaemonClient

structure DaemonService where
  requests : List DaemonItem := []
  responses : List DaemonItem := []
  maxClients : ℕ
  maxSockets : ℕ
  nextOwner : ℕ := 0
  clients : Fin daemonClientMax → DaemonClient := fun _ => {}

def daemonQueuePush (q : List DaemonItem) (item : DaemonItem) : Option (List DaemonItem) :=
  if q.length = daemonQueueSize then none else some (q ++ [item])

def cleanupMessage : IpcMessage := { op := 65535, id := 0 }

namespace DaemonService

variable (s : DaemonService)

def clientOf (owner : ℕ) : Option (Fin daemonClientMax) :=
  (List.finRange daemonClientMax).find? fun i => decide (i.val < s.maxClients ∧ (s.clients i).owner = owner)

def setClient (i : Fin daemonClientMax) (c : DaemonClient) : DaemonService :=
  { s with clients := Function.update s.clients i c }

def collectResponse (item : DaemonItem) : DaemonService :=
  match s.clientOf item.owner with
  | none => s
  | some i => s.setClient i ((s.clients i).collect item.message)

def coreFd (c : DaemonClient) : Option ℤ :=
  if ipcOperation c.input.op = some .socket then some c.input.fd else (c.handle c.input.fd).map DaemonHandle.core

def submitClient (c : DaemonClient) : DaemonClient × List DaemonItem :=
  let m := c.input
  let c' := { c with taken := c.taken ++ [m] }
  if c.owner = 0 ∨ c.pending then (c, s.requests)
  else if c.dead then
    match daemonQueuePush s.requests ⟨c.owner, cleanupMessage⟩ with
    | none => (c, s.requests)
    | some requests => ({ c with pending := true, cleanup := true }, requests)
  else if c.output ≠ [] ∨ c.have_ ≠ c.target then (c, s.requests)
  else if !c.hello then
    if ipcOperation m.op ≠ some .hello then (c.refuse, s.requests)
    else ({ c' with hello := true }.reply { op := m.op, id := m.id, a := s.maxSockets, b := ipcFeatureDgramBatch }, s.requests)
  else if ipcOperation m.op = some .hello then
    (c'.reply { op := m.op, id := m.id, result := -Errno.ealready.code }, s.requests)
  else
    match coreFd c with
    | none => (c'.reply { op := m.op, id := m.id, fd := m.fd, result := -Errno.ebadf.code }, s.requests)
    | some fd =>
      match daemonQueuePush s.requests ⟨c.owner, { m with fd := fd }⟩ with
      | none => (c, s.requests)
      | some requests => ({ c' with pending := true }, requests)

def freeSlot : Option (Fin daemonClientMax) := s.clientOf 0

end DaemonService

structure Worker (W : Type) where
  dispatch : W → DaemonItem → IpcMessage → W → Prop
  progress : W → W → Prop

structure DaemonSystem (W : Type) where
  service : DaemonService
  worker : W

/-- The steps of the two threads. Those of the control thread may come in any order, but a client is read only while
`control_run` polls it for input, and written only while it has output. -/
inductive DaemonStep {W : Type} (worker : Worker W) : DaemonSystem W → DaemonSystem W → Prop
  | accept {s : DaemonService} {w : W} {i : Fin daemonClientMax} (hslot : s.freeSlot = some i)
      (howner : s.nextOwner ≠ uint64Max) :
      DaemonStep worker ⟨s, w⟩
        ⟨{ s.setClient i (.accepted (s.nextOwner + 1)) with nextOwner := s.nextOwner + 1 }, w⟩
  | read {s : DaemonService} {w : W} (i : Fin daemonClientMax) (chunk : List Byte) (hfd : (s.clients i).fd = true)
      (houtput : (s.clients i).output = []) (hpending : (s.clients i).pending = false) (hpos : chunk ≠ [])
      (hfits : (s.clients i).have_ + chunk.length ≤ (s.clients i).target) :
      DaemonStep worker ⟨s, w⟩ ⟨s.setClient i ((s.clients i).readClient chunk), w⟩
  | write {s : DaemonService} {w : W} (i : Fin daemonClientMax) (count : ℕ) (hfd : (s.clients i).fd = true)
      (houtput : (s.clients i).output ≠ []) (hfits : (s.clients i).sent + count ≤ (s.clients i).output.length) :
      DaemonStep worker ⟨s, w⟩ ⟨s.setClient i ((s.clients i).writeClient count), w⟩
  | hangup {s : DaemonService} {w : W} (i : Fin daemonClientMax) (hfd : (s.clients i).fd = true) :
      DaemonStep worker ⟨s, w⟩ ⟨s.setClient i (s.clients i).disconnectClient, w⟩
  | collect {s : DaemonService} {w : W} {item : DaemonItem} {rest : List DaemonItem}
      (hitem : s.responses = item :: rest) :
      DaemonStep worker ⟨s, w⟩ ⟨{ s.collectResponse item with responses := rest }, w⟩
  | submit {s : DaemonService} {w : W} (i : Fin daemonClientMax) :
      DaemonStep worker ⟨s, w⟩ ⟨{ s.setClient i (s.submitClient (s.clients i)).1 with
        requests := (s.submitClient (s.clients i)).2 }, w⟩
  | dispatch {s : DaemonService} {w w' : W} {item : DaemonItem} {rest : List DaemonItem} {m : IpcMessage}
      (hroom : s.responses.length < daemonQueueSize) (hitem : s.requests = item :: rest)
      (hrun : worker.dispatch w item m w') :
      DaemonStep worker ⟨s, w⟩ ⟨{ s with requests := rest, responses := s.responses ++ [⟨item.owner, m⟩] }, w'⟩
  | progress {s : DaemonService} {w w' : W} (hrun : worker.progress w w') : DaemonStep worker ⟨s, w⟩ ⟨s, w'⟩

inductive DaemonReachable {W : Type} (worker : Worker W) (start : W → Prop) : DaemonSystem W → Prop
  | start {w : W} (maxClients maxSockets : ℕ) (hclients : maxClients ≤ daemonClientMax)
      (hsockets : maxSockets ≤ daemonSocketMax) (hstart : start w) :
      DaemonReachable worker start ⟨{ maxClients := maxClients, maxSockets := maxSockets }, w⟩
  | step {s t : DaemonSystem W} (h : DaemonReachable worker start s) (hstep : DaemonStep worker s t) :
      DaemonReachable worker start t

inductive Submitted (s : DaemonService) (c : DaemonClient) : DaemonClient × List DaemonItem → Prop
  | idle : Submitted s c (c, s.requests)
  | cleanup (howner : c.owner ≠ 0) (hpending : c.pending = false) (hdead : c.dead = true)
      (hroom : s.requests.length ≠ daemonQueueSize) :
      Submitted s c ({ c with pending := true, cleanup := true }, s.requests ++ [⟨c.owner, cleanupMessage⟩])
  | refused (howner : c.owner ≠ 0) (hpending : c.pending = false) (hdead : c.dead = false) (hready : c.have_ = c.target)
      (hhello : c.hello = false) (hop : ipcOperation c.input.op ≠ some .hello) : Submitted s c (c.refuse, s.requests)
  | answered (howner : c.owner ≠ 0) (hpending : c.pending = false) (hdead : c.dead = false) (hready : c.have_ = c.target)
      (hhello : c.hello = true ∨ ipcOperation c.input.op = some .hello) (m : IpcMessage) :
      Submitted s c ({ c with taken := c.taken ++ [c.input], hello := true }.reply m, s.requests)
  | pushed (howner : c.owner ≠ 0) (hpending : c.pending = false) (hdead : c.dead = false) (hready : c.have_ = c.target)
      (hhello : c.hello = true) (hop : ipcOperation c.input.op ≠ some .hello) (fd : ℤ)
      (hfd : DaemonService.coreFd c = some fd) (hroom : s.requests.length ≠ daemonQueueSize) :
      Submitted s c ({ c with taken := c.taken ++ [c.input], pending := true },
        s.requests ++ [⟨c.owner, { c.input with fd := fd }⟩])

theorem daemonQueuePush_eq_some {q q' : List DaemonItem} {item : DaemonItem} (h : daemonQueuePush q item = some q') :
    q.length ≠ daemonQueueSize ∧ q' = q ++ [item] := by
  unfold daemonQueuePush at h
  split at h
  · cases h
  · exact ⟨‹_›, (Option.some.inj h).symm⟩

theorem submitClient_cases (s : DaemonService) (c : DaemonClient) : Submitted s c (s.submitClient c) := by
  unfold DaemonService.submitClient
  dsimp only
  split
  · exact .idle
  rename_i hidle
  obtain ⟨howner, hpending⟩ := not_or.mp hidle
  have hpending : c.pending = false := eq_false_of_ne_true hpending
  split
  · rename_i hdead
    split
    · exact .idle
    · rename_i requests hpush
      obtain ⟨hroom, rfl⟩ := daemonQueuePush_eq_some hpush
      exact .cleanup howner hpending hdead hroom
  rename_i hdead
  have hdead : c.dead = false := eq_false_of_ne_true hdead
  split
  · exact .idle
  rename_i hready
  have hready : c.have_ = c.target := not_not.mp (not_or.mp hready).2
  split
  · rename_i hhello
    have hhello : c.hello = false := by simpa using hhello
    split
    · rename_i hop
      exact .refused howner hpending hdead hready hhello hop
    · rename_i hop
      exact .answered howner hpending hdead hready (.inr (not_not.mp hop)) _
  rename_i hhello
  have hhello : c.hello = true := by simpa using hhello
  have hsame : { c with taken := c.taken ++ [c.input] } = { c with taken := c.taken ++ [c.input], hello := true } := by
    rw [← hhello]
  split
  · rw [hsame]
    exact .answered howner hpending hdead hready (.inl hhello) _
  rename_i hop
  split
  · rw [hsame]
    exact .answered howner hpending hdead hready (.inl hhello) _
  · rename_i fd hfd
    split
    · exact .idle
    · rename_i requests hpush
      obtain ⟨hroom, rfl⟩ := daemonQueuePush_eq_some hpush
      exact .pushed howner hpending hdead hready hhello hop fd hfd hroom

inductive Collected (c : DaemonClient) (m : IpcMessage) : DaemonClient → Prop
  | recycled (hop : ipcOperation m.op = some .cleanup) (hcleanup : c.cleanup = true) : Collected c m {}
  | dead (hdead : c.dead = true) : Collected c m { c with pending := false }
  | mismatched (hdead : c.dead = false) (h : m.id ≠ c.input.id ∨ m.op ≠ c.input.op) :
      Collected c m { c with pending := false }.disconnectClient
  | full (hdead : c.dead = false) (hopens : DaemonClient.opensSocket m)
      (hadd : { c with pending := false }.addHandle m.result = none) :
      Collected c m { c with pending := false }.disconnectClient
  | opened (hdead : c.dead = false) (hopens : DaemonClient.opensSocket m) (c' : DaemonClient) (fd : ℕ)
      (hadd : { c with pending := false }.addHandle m.result = some (c', fd)) :
      Collected c m (c'.answer { m with result := fd })
  | answered (hdead : c.dead = false) (hopens : ¬ DaemonClient.opensSocket m) :
      Collected c m ({ c with pending := false }.answer m)

theorem collect_cases (c : DaemonClient) (m : IpcMessage) : Collected c m (c.collect m) := by
  unfold DaemonClient.collect
  dsimp only
  split
  · rename_i h
    exact .recycled h.1 h.2
  split
  · exact .dead ‹_›
  rename_i hdead
  have hdead : c.dead = false := eq_false_of_ne_true hdead
  split
  · exact .mismatched hdead ‹_›
  split
  · rename_i hopens
    split
    · exact .full hdead hopens ‹_›
    · exact .opened hdead hopens _ _ ‹_›
  · exact .answered hdead ‹_›

namespace DaemonClient

theorem addHandle_some {c c' : DaemonClient} {core : ℤ} {fd : ℕ} (h : c.addHandle core = some (c', fd)) :
    ∃ i next, c' = { c with nextHandle := next, handles := c.handles.set i ⟨fd, core⟩ } := by
  unfold addHandle at h
  split at h
  · cases h
  · rename_i i _
    obtain ⟨rfl, rfl⟩ := Prod.mk.inj (Option.some.inj h)
    exact ⟨i, _, rfl⟩

theorem answer_eq (c : DaemonClient) (m : IpcMessage) :
    ∃ handles m', c.answer m = { c with handles := handles }.reply m' := by
  have hdrop (fd : ℤ) : ∃ handles, c.dropHandle fd = { c with handles := handles } := by
    unfold dropHandle
    split
    · exact ⟨c.handles, rfl⟩
    · exact ⟨_, rfl⟩
  unfold answer
  dsimp only
  split
  · obtain ⟨handles, hdrop⟩ := hdrop c.input.fd
    rw [hdrop]
    exact ⟨handles, _, rfl⟩
  · exact ⟨c.handles, _, rfl⟩

end DaemonClient

inductive Responded (c : DaemonClient) : DaemonClient → Prop
  | recycled : Responded c {}
  | dead (hdead : c.dead = true) : Responded c { c with pending := false }
  | closed (hdead : c.dead = false) : Responded c { c with pending := false }.disconnectClient
  | answered (hdead : c.dead = false) (next : ℕ) (handles : List DaemonHandle) (m : IpcMessage) :
      Responded c ({ c with pending := false, nextHandle := next, handles := handles }.reply m)

theorem collect_responded (c : DaemonClient) (m : IpcMessage) : Responded c (c.collect m) := by
  generalize hres : c.collect m = c'
  cases hres ▸ collect_cases c m with
  | recycled => exact .recycled
  | dead hdead => exact .dead hdead
  | mismatched hdead | full hdead => exact .closed hdead
  | opened hdead hopens c' fd hadd =>
    obtain ⟨i, next, rfl⟩ := DaemonClient.addHandle_some hadd
    obtain ⟨handles, m', heq⟩ := DaemonClient.answer_eq
      { c with pending := false, nextHandle := next, handles := c.handles.set i ⟨fd, m.result⟩ } { m with result := fd }
    rw [heq]
    exact .answered hdead next handles m'
  | answered hdead =>
    obtain ⟨handles, m', heq⟩ := DaemonClient.answer_eq { c with pending := false } m
    rw [heq]
    exact .answered hdead c.nextHandle handles m'

theorem Responded.owner {c c' : DaemonClient} (h : Responded c c') :
    (c'.owner = c.owner ∨ c'.owner = 0) ∧ c'.pending = false := by
  cases h with
  | recycled => exact ⟨.inr rfl, rfl⟩
  | dead | closed | answered => exact ⟨.inl rfl, rfl⟩

theorem readClient_owner (c : DaemonClient) (chunk : List Byte) :
    (c.readClient chunk).owner = c.owner ∧ (c.readClient chunk).pending = c.pending := by
  have hstore : (c.store chunk).owner = c.owner ∧ (c.store chunk).pending = c.pending := by
    unfold DaemonClient.store
    dsimp only
    split <;> exact ⟨rfl, rfl⟩
  unfold DaemonClient.readClient
  dsimp only
  split
  · split
    · exact hstore
    · split <;> exact hstore
  · exact hstore

theorem writeClient_owner (c : DaemonClient) (count : ℕ) :
    (c.writeClient count).owner = c.owner ∧ (c.writeClient count).pending = c.pending := by
  unfold DaemonClient.writeClient
  split <;> exact ⟨rfl, rfl⟩

section InFlight

variable {s : DaemonService} {i : Fin daemonClientMax} {c : DaemonClient}

structure InFlight (s : DaemonService) : Prop where
  distinct : ∀ i j, (s.clients i).owner = (s.clients j).owner → (s.clients i).owner ≠ 0 → i = j
  known : ∀ i, (s.clients i).owner ≤ s.nextOwner
  free : ∀ i, (s.clients i).owner = 0 → (s.clients i).pending = false
  once : ((s.requests ++ s.responses).map DaemonItem.owner).Nodup
  waiting : ∀ item ∈ s.requests ++ s.responses, item.owner ≠ 0 ∧
    ∃ i, (s.clients i).owner = item.owner ∧ (s.clients i).pending = true

theorem DaemonService.clientOf_some {owner : ℕ} (h : s.clientOf owner = some i) : (s.clients i).owner = owner := by
  have := List.find?_some h
  exact (of_decide_eq_true this).2

@[simp] theorem DaemonService.setClient_clients (s : DaemonService) (i : Fin daemonClientMax) (c : DaemonClient) :
    (s.setClient i c).clients = Function.update s.clients i c := rfl

theorem DaemonService.setClient_same (s : DaemonService) (i : Fin daemonClientMax) (c : DaemonClient) :
    (s.setClient i c).clients i = c := Function.update_self ..

theorem InFlight.setClient (h : InFlight s) (howner : c.owner = (s.clients i).owner)
    (hpending : c.pending = (s.clients i).pending) : InFlight (s.setClient i c) := by
  have hkeep (j : Fin daemonClientMax) : ((s.setClient i c).clients j).owner = (s.clients j).owner ∧
      ((s.setClient i c).clients j).pending = (s.clients j).pending := by
    by_cases hj : j = i
    · rw [hj, DaemonService.setClient_same]
      exact ⟨howner, hpending⟩
    · rw [DaemonService.setClient_clients, Function.update_of_ne hj]
      exact ⟨rfl, rfl⟩
  refine ⟨fun j k => ?_, fun j => ?_, fun j => ?_, h.once, fun item hitem => ?_⟩
  · rw [(hkeep j).1, (hkeep k).1]
    exact h.distinct j k
  · rw [(hkeep j).1]
    exact h.known j
  · rw [(hkeep j).1, (hkeep j).2]
    exact h.free j
  · obtain ⟨hne, j, hj, hwait⟩ := h.waiting item hitem
    exact ⟨hne, j, (hkeep j).1.trans hj, (hkeep j).2.trans hwait⟩

theorem InFlight.start (maxClients maxSockets : ℕ) :
    InFlight { maxClients := maxClients, maxSockets := maxSockets } :=
  ⟨fun _ _ _ hne => absurd rfl hne, fun _ => Nat.le_refl 0, fun _ _ => rfl, List.nodup_nil, nofun⟩

theorem InFlight.accept (h : InFlight s) (hslot : s.freeSlot = some i) :
    InFlight { s.setClient i (.accepted (s.nextOwner + 1)) with nextOwner := s.nextOwner + 1 } := by
  have hfree := DaemonService.clientOf_some hslot
  have hsame : (Function.update s.clients i (.accepted (s.nextOwner + 1)) i) = .accepted (s.nextOwner + 1) :=
    Function.update_self ..
  have hother {j : Fin daemonClientMax} (hj : j ≠ i) :
      Function.update s.clients i (.accepted (s.nextOwner + 1)) j = s.clients j := Function.update_of_ne hj ..
  refine ⟨fun j k => ?_, fun j => ?_, fun j => ?_, h.once, fun item hitem => ?_⟩
  · change (Function.update s.clients i _ j).owner = (Function.update s.clients i _ k).owner →
      (Function.update s.clients i _ j).owner ≠ 0 → j = k
    have hfresh (j : Fin daemonClientMax) : (s.clients j).owner ≠ s.nextOwner + 1 :=
      Nat.ne_of_lt (Nat.lt_succ_of_le (h.known j))
    by_cases hj : j = i <;> by_cases hk : k = i
    · exact fun _ _ => hj.trans hk.symm
    · rw [hj, hsame, hother hk]
      exact fun he _ => absurd he.symm (hfresh k)
    · rw [hk, hsame, hother hj]
      exact fun he _ => absurd he (hfresh j)
    · rw [hother hj, hother hk]
      exact h.distinct j k
  · change (Function.update s.clients i _ j).owner ≤ s.nextOwner + 1
    by_cases hj : j = i
    · rw [hj, hsame]
      exact Nat.le_refl _
    · rw [hother hj]
      exact Nat.le_succ_of_le (h.known j)
  · change (Function.update s.clients i _ j).owner = 0 → (Function.update s.clients i _ j).pending = false
    by_cases hj : j = i
    · rw [hj, hsame]
      exact fun _ => rfl
    · rw [hother hj]
      exact h.free j
  · obtain ⟨hne, j, hj, hwait⟩ := h.waiting item hitem
    have hji : j ≠ i := by
      rintro rfl
      exact hne (hj.symm.trans hfree)
    refine ⟨hne, j, ?_⟩
    change (Function.update s.clients i _ j).owner = _ ∧ (Function.update s.clients i _ j).pending = true
    rw [hother hji]
    exact ⟨hj, hwait⟩

theorem InFlight.response {item : DaemonItem} {rest : List DaemonItem} (h : InFlight s) (hitem : s.responses = item :: rest)
    (hclient : s.clientOf item.owner = some i) : (s.clients i).owner ≠ 0 ∧ (s.clients i).pending = true ∧
      ∀ other ∈ s.requests ++ rest, other.owner ≠ (s.clients i).owner := by
  have howner := DaemonService.clientOf_some hclient
  obtain ⟨hne, j, hj, hwait⟩ := h.waiting item (by rw [hitem]; exact List.mem_append_right _ List.mem_cons_self)
  have hji : j = i := h.distinct j i (hj.trans howner.symm) (by rw [hj]; exact hne)
  refine ⟨by rw [howner]; exact hne, hji ▸ hwait, fun other hother => ?_⟩
  have honce := h.once
  rw [hitem, List.map_append, List.map_cons, List.nodup_middle, ← List.map_append] at honce
  rw [howner]
  exact fun he => (List.nodup_cons.mp honce).1 (he ▸ List.mem_map_of_mem hother)

theorem InFlight.collect {item : DaemonItem} {rest : List DaemonItem} (h : InFlight s)
    (hitem : s.responses = item :: rest) : InFlight { s.collectResponse item with responses := rest } := by
  have honce : ((s.requests ++ rest).map DaemonItem.owner).Nodup := by
    have := h.once
    rw [hitem, List.map_append, List.map_cons, List.nodup_middle, ← List.map_append] at this
    exact (List.nodup_cons.mp this).2
  have hmem {other : DaemonItem} (hother : other ∈ s.requests ++ rest) : other ∈ s.requests ++ s.responses := by
    rw [hitem]
    rcases List.mem_append.mp hother with hrequest | hrest
    · exact List.mem_append_left _ hrequest
    · exact List.mem_append_right _ (List.mem_cons_of_mem _ hrest)
  unfold DaemonService.collectResponse
  split
  · exact ⟨h.distinct, h.known, h.free, honce, fun other hother => h.waiting other (hmem hother)⟩
  · rename_i i hclient
    obtain ⟨-, -, hothers⟩ := h.response hitem hclient
    obtain ⟨howner, hpending⟩ := (collect_responded (s.clients i) item.message).owner
    have hsame : Function.update s.clients i ((s.clients i).collect item.message) i =
        (s.clients i).collect item.message := Function.update_self ..
    have hother {j : Fin daemonClientMax} (hj : j ≠ i) :
        Function.update s.clients i ((s.clients i).collect item.message) j = s.clients j := Function.update_of_ne hj ..
    have hwas {j : Fin daemonClientMax} (hne : (Function.update s.clients i ((s.clients i).collect item.message) j).owner ≠ 0) :
        (Function.update s.clients i ((s.clients i).collect item.message) j).owner = (s.clients j).owner := by
      by_cases hj : j = i
      · rw [hj, hsame] at hne ⊢
        exact howner.resolve_right hne
      · rw [hother hj]
    refine ⟨fun j k he hne => ?_, fun j => ?_, fun j => ?_, honce, fun other hmember => ?_⟩
    · have hne' := he ▸ hne
      exact h.distinct j k ((hwas hne).symm.trans (he.trans (hwas hne'))) (by rw [← hwas hne]; exact hne)
    · change (Function.update s.clients i _ j).owner ≤ s.nextOwner
      by_cases hj : j = i
      · rw [hj, hsame]
        rcases howner with howner | hzero
        · exact howner.trans_le (h.known i)
        · exact hzero.trans_le (Nat.zero_le _)
      · rw [hother hj]
        exact h.known j
    · change (Function.update s.clients i _ j).owner = 0 → (Function.update s.clients i _ j).pending = false
      by_cases hj : j = i
      · rw [hj, hsame]
        exact fun _ => hpending
      · rw [hother hj]
        exact h.free j
    · obtain ⟨hne, j, hj, hwait⟩ := h.waiting other (hmem hmember)
      have hji : j ≠ i := by
        rintro rfl
        exact hothers other hmember hj.symm
      refine ⟨hne, j, ?_⟩
      change (Function.update s.clients i _ j).owner = _ ∧ (Function.update s.clients i _ j).pending = true
      rw [hother hji]
      exact ⟨hj, hwait⟩

theorem InFlight.push (h : InFlight s) (hne : (s.clients i).owner ≠ 0) (hidle : (s.clients i).pending = false)
    (howner : c.owner = (s.clients i).owner) (hpending : c.pending = true) (m : IpcMessage) :
    InFlight { s.setClient i c with requests := s.requests ++ [⟨(s.clients i).owner, m⟩] } := by
  have hkeep (j : Fin daemonClientMax) : ((s.setClient i c).clients j).owner = (s.clients j).owner := by
    by_cases hj : j = i
    · rw [hj, DaemonService.setClient_same]
      exact howner
    · rw [DaemonService.setClient_clients, Function.update_of_ne hj]
  have hstill {j : Fin daemonClientMax} (hwait : (s.clients j).pending = true) :
      ((s.setClient i c).clients j).pending = true := by
    by_cases hj : j = i
    · rw [hj, DaemonService.setClient_same]
      exact hpending
    · rw [DaemonService.setClient_clients, Function.update_of_ne hj]
      exact hwait
  have hfresh : ∀ item ∈ s.requests ++ s.responses, item.owner ≠ (s.clients i).owner := by
    intro item hitem he
    obtain ⟨hitemne, j, hj, hwait⟩ := h.waiting item hitem
    rw [h.distinct j i (hj.trans he) (by rw [hj]; exact hitemne), hidle] at hwait
    cases hwait
  have hperm : (s.requests ++ [(⟨(s.clients i).owner, m⟩ : DaemonItem)] ++ s.responses).Perm
      (⟨(s.clients i).owner, m⟩ :: (s.requests ++ s.responses)) := by
    rw [List.append_assoc]
    exact List.perm_middle
  refine ⟨fun j k => ?_, fun j => ?_, fun j hzero => ?_, ?_, fun item hitem => ?_⟩
  · change ((s.setClient i c).clients j).owner = ((s.setClient i c).clients k).owner →
      ((s.setClient i c).clients j).owner ≠ 0 → j = k
    rw [hkeep j, hkeep k]
    exact h.distinct j k
  · exact (hkeep j).trans_le (h.known j)
  · have hj : j ≠ i := by
      rintro rfl
      exact hne ((hkeep j).symm.trans hzero)
    change ((s.setClient i c).clients j).pending = false
    rw [DaemonService.setClient_clients, Function.update_of_ne hj]
    exact h.free j ((hkeep j).symm.trans hzero)
  · apply (hperm.map DaemonItem.owner).nodup_iff.mpr
    rw [List.map_cons, List.nodup_cons]
    refine ⟨fun hmem => ?_, h.once⟩
    obtain ⟨item, hitem, he⟩ := List.mem_map.mp hmem
    exact hfresh item hitem he
  · rcases List.mem_cons.mp (hperm.mem_iff.mp hitem) with rfl | hitem
    · exact ⟨hne, i, hkeep i, by change ((s.setClient i c).clients i).pending = true; rwa [DaemonService.setClient_same]⟩
    · obtain ⟨hitemne, j, hj, hwait⟩ := h.waiting item hitem
      exact ⟨hitemne, j, (hkeep j).trans hj, hstill hwait⟩

theorem InFlight.submit (h : InFlight s) (i : Fin daemonClientMax) :
    InFlight { s.setClient i (s.submitClient (s.clients i)).1 with requests := (s.submitClient (s.clients i)).2 } := by
  generalize hres : s.submitClient (s.clients i) = r
  cases hres ▸ submitClient_cases s (s.clients i) with
  | idle => exact h.setClient rfl rfl
  | refused | answered => exact h.setClient rfl rfl
  | cleanup howner hpending =>
    exact h.push (c := { s.clients i with pending := true, cleanup := true }) howner hpending rfl rfl _
  | pushed howner hpending =>
    exact h.push (c := { s.clients i with taken := (s.clients i).taken ++ [(s.clients i).input], pending := true }) howner
      hpending rfl rfl _

theorem InFlight.dispatch {item : DaemonItem} {rest : List DaemonItem} (h : InFlight s) (hitem : s.requests = item :: rest)
    (m : IpcMessage) : InFlight { s with requests := rest, responses := s.responses ++ [⟨item.owner, m⟩] } := by
  have howners : (rest ++ (s.responses ++ [(⟨item.owner, m⟩ : DaemonItem)])).map DaemonItem.owner =
      (rest ++ s.responses).map DaemonItem.owner ++ [item.owner] := by
    rw [← List.append_assoc, List.map_append]
    rfl
  have hperm : ((rest ++ s.responses).map DaemonItem.owner ++ [item.owner]).Perm
      ((s.requests ++ s.responses).map DaemonItem.owner) := by
    rw [hitem]
    exact List.perm_append_comm
  refine ⟨h.distinct, h.known, h.free, ?_, fun other hother => ?_⟩
  · change ((rest ++ (s.responses ++ [(⟨item.owner, m⟩ : DaemonItem)])).map DaemonItem.owner).Nodup
    rw [howners]
    exact hperm.nodup_iff.mpr h.once
  · have hmem : other.owner ∈ (s.requests ++ s.responses).map DaemonItem.owner := by
      apply hperm.mem_iff.mp
      rw [← howners]
      exact List.mem_map_of_mem hother
    obtain ⟨same, hsame, he⟩ := List.mem_map.mp hmem
    rw [← he]
    exact h.waiting same hsame

theorem InFlight.length_le (h : InFlight s) :
    (s.requests ++ s.responses).length ≤ ((List.finRange daemonClientMax).filter fun i => (s.clients i).pending).length := by
  have howners : (s.requests ++ s.responses).map DaemonItem.owner ⊆
      ((List.finRange daemonClientMax).filter fun i => (s.clients i).pending).map fun i => (s.clients i).owner := by
    intro owner howner
    obtain ⟨item, hitem, rfl⟩ := List.mem_map.mp howner
    obtain ⟨-, i, hi, hwait⟩ := h.waiting item hitem
    exact List.mem_map.mpr ⟨i, List.mem_filter.mpr ⟨List.mem_finRange i, hwait⟩, hi⟩
  simpa only [List.length_map] using (h.once.subperm howners).length_le

end InFlight

section Reachable

variable {W : Type} {worker : Worker W} {start : W → Prop} {s t : DaemonSystem W}

theorem DaemonStep.inFlight (h : DaemonStep worker s t) (hs : InFlight s.service) : InFlight t.service := by
  cases h with
  | accept hslot => exact hs.accept hslot
  | read i chunk => exact hs.setClient (readClient_owner _ chunk).1 (readClient_owner _ chunk).2
  | write i count => exact hs.setClient (writeClient_owner _ count).1 (writeClient_owner _ count).2
  | hangup i => exact hs.setClient rfl rfl
  | collect hitem => exact hs.collect hitem
  | submit i => exact hs.submit i
  | dispatch hroom hitem => exact hs.dispatch hitem _
  | progress => exact hs

theorem DaemonReachable.inFlight (h : DaemonReachable worker start s) : InFlight s.service := by
  induction h with
  | start maxClients maxSockets => exact .start maxClients maxSockets
  | step _ hstep ih => exact hstep.inFlight ih

inductive ClientStep : DaemonClient → DaemonClient → Prop
  | same (c : DaemonClient) : ClientStep c c
  | accepted {c : DaemonClient} (owner : ℕ) : ClientStep c (.accepted (owner + 1))
  | read {c : DaemonClient} (chunk : List Byte) (hfd : c.fd = true) (hpending : c.pending = false)
      (hfits : c.have_ + chunk.length ≤ c.target) (hpos : chunk ≠ []) : ClientStep c (c.readClient chunk)
  | wrote {c : DaemonClient} (count : ℕ) : ClientStep c (c.writeClient count)
  | closed (c : DaemonClient) : ClientStep c c.disconnectClient
  | responded {c c' : DaemonClient} (howner : c.owner ≠ 0) (hpending : c.pending = true) (h : Responded c c') :
      ClientStep c c'
  | submitted {c c' : DaemonClient} {s : DaemonService} {requests : List DaemonItem}
      (h : Submitted s c (c', requests)) : ClientStep c c'

theorem ClientStep.of_update {s : DaemonService} {i : Fin daemonClientMax} {c : DaemonClient}
    (h : ClientStep (s.clients i) c) (j : Fin daemonClientMax) :
    ClientStep (s.clients j) (Function.update s.clients i c j) := by
  by_cases hj : j = i
  · rw [hj, Function.update_self]
    exact h
  · rw [Function.update_of_ne hj]
    exact .same _

theorem DaemonStep.clientStep (h : DaemonStep worker s t) (hs : InFlight s.service) (j : Fin daemonClientMax) :
    ClientStep (s.service.clients j) (t.service.clients j) := by
  cases h with
  | accept => exact .of_update (.accepted _) j
  | read i chunk hfd houtput hpending hpos hfits => exact .of_update (.read chunk hfd hpending hfits hpos) j
  | write i count => exact .of_update (.wrote count) j
  | hangup i => exact .of_update (.closed _) j
  | @collect s w item rest hitem =>
    change ClientStep (s.clients j) ((s.collectResponse item).clients j)
    unfold DaemonService.collectResponse
    split
    · exact .same _
    · rename_i i hclient
      obtain ⟨howner, hpending, -⟩ := hs.response hitem hclient
      exact .of_update (.responded howner hpending (collect_responded _ _)) j
  | @submit s w i => exact .of_update (.submitted (submitClient_cases s (s.clients i))) j
  | dispatch | progress => exact .same _

theorem DaemonReachable.forall_clients {P : DaemonClient → Prop} (hfree : P {})
    (hstep : ∀ c c', ClientStep c c' → P c → P c') (h : DaemonReachable worker start s) (i : Fin daemonClientMax) :
    P (s.service.clients i) := by
  induction h with
  | start => exact hfree
  | step hreach hs ih => exact hstep _ _ (hs.clientStep hreach.inFlight i) ih

end Reachable

end PulsarNetstack
