import PulsarNetstack.AdminWire

namespace PulsarNetstack

def adminClientMax : ℕ := 16
def adminEventMax : ℕ := 128
def adminRequestMax : ℕ := adminRequestBase + netAclMax * adminAclRecord
def adminJson : Word := 1

def adminGroupNumber (g : AdminGroup) : Word := BitVec.ofNat 32 (adminGroups.idxOf g + 1)
def adminVerbNumber (v : AdminVerb) : Word := BitVec.ofNat 32 (adminVerbs.idxOf v + 1)

section Events

structure AdminEvent where
  sequence : ℕ := 0
  generation : ℕ := 0
  group : Word := 0
  id : Word := 0
  action : Word := 0
  ip : Word := 0
  prefixLen : Word := 0
  dev : Word := 0
  table : Word := 0
  deriving DecidableEq

structure AdminEvents where
  sequence : ℕ := 0
  entries : Fin adminEventMax → AdminEvent := fun _ => {}

def eventSlot (k : ℕ) : Fin adminEventMax := ⟨k % adminEventMax, Nat.mod_lt _ (by decide)⟩

def adminEventEmit (e : AdminEvents) (generation : ℕ) (group id action : Word) : AdminEvents :=
  let seq := e.sequence + 1
  let event : AdminEvent := { sequence := seq, generation := generation, group := group, id := id, action := action
                              dev := netIifNone }
  { sequence := seq, entries := Function.update e.entries (eventSlot (seq - 1)) event }

def AdminEvents.latest (e : AdminEvents) : AdminEvent := e.entries (eventSlot (e.sequence - 1))

def AdminEvents.amend (e : AdminEvents) (f : AdminEvent → AdminEvent) : AdminEvents :=
  { e with entries := Function.update e.entries (eventSlot (e.sequence - 1)) (f e.latest) }

def adminNeighbourEvent (e : AdminEvents) (generation : ℕ) (dev : Word16) (ip action : Word) : AdminEvents :=
  (adminEventEmit e generation (adminGroupNumber .neigh) ip action).amend fun v =>
    { v with ip := ip, dev := dev.setWidth 32 }

def activationEvent (e : AdminEvents) (generation : ℕ) (names : List String) (r : AdminRequest) : AdminEvents :=
  (adminEventEmit e generation (adminGroupNumber r.group) r.v.pref (adminVerbNumber r.verb)).amend fun v =>
    let dev := (names.zipIdx.reverse.find? fun p => p.1 == r.dev).map fun p => BitVec.ofNat 32 p.2
    { v with ip := r.v.ip, prefixLen := r.v.prefixLen, table := r.v.table, dev := dev.getD v.dev }

def generationEvent (e : AdminEvents) (generation : ℕ) : AdminEvents :=
  adminEventEmit e generation (adminGroupNumber .status) 0 (adminVerbNumber .apply)

def decimal (n : ℕ) : List Char := Nat.toDigits 10 n

def decimal64 (n : ℕ) : List Char := decimal (n % 18446744073709551616)

def decimalWord (w : Word) : List Char := decimal w.toNat

def dottedQuad (ip : Word) : List Char :=
  decimal (ip.toNat % 256) ++ '.' :: decimal (ip.toNat / 256 % 256) ++ '.' :: decimal (ip.toNat / 65536 % 256) ++
    '.' :: decimal (ip.toNat / 16777216 % 256)

def eventKinds : List String :=
  ["", "generation", "stats", "link", "addr", "route", "rule", "neigh", "acl", "app", "socket", "monitor"]

inductive EventRecord
  | event (v : AdminEvent) (lost : ℕ)
  | overflow (sequence generation lost : ℕ)

def EventRecord.lost : EventRecord → ℕ
  | .event _ lost => lost
  | .overflow _ _ lost => lost

def EventRecord.event? : EventRecord → Option AdminEvent
  | .event v _ => some v
  | .overflow .. => none

def eventText (v : AdminEvent) (lost : ℕ) : List Char :=
  "\x7b\"schema\":1,\"sequence\":".toList ++ decimal64 v.sequence ++ ",\"generation\":".toList ++
    decimal64 v.generation ++ ",\"group\":".toList ++ decimalWord v.group ++ ",\"id\":".toList ++ decimalWord v.id ++
    ",\"action\":".toList ++ decimalWord v.action ++ ",\"kind\":\"".toList ++
    (eventKinds.getD v.group.toNat "").toList ++ "\",\"address\":\"".toList ++ dottedQuad v.ip ++
    "\",\"prefix\":".toList ++ decimalWord v.prefixLen ++ ",\"dev\":".toList ++ decimalWord v.dev ++
    ",\"table\":".toList ++ decimalWord v.table ++ ",\"lost\":".toList ++ decimal64 lost ++ "\x7d\n".toList

def overflowText (sequence generation lost : ℕ) : List Char :=
  "\x7b\"schema\":1,\"kind\":\"overflow\",\"sequence\":".toList ++ decimal64 sequence ++ ",\"generation\":".toList ++
    decimal64 generation ++ ",\"lost\":".toList ++ decimal64 lost ++ "\x7d\n".toList

def EventRecord.text : EventRecord → List Char
  | .event v lost => eventText v lost
  | .overflow sequence generation lost => overflowText sequence generation lost

structure EventScan where
  cursor : ℕ
  lost : ℕ
  text : List Char := []
  placed : List EventRecord := []

def scanEvents (e : AdminEvents) (filter : Word) : ℕ → EventScan → EventScan
  | 0, s => s
  | count + 1, s =>
    let v := e.entries (eventSlot s.cursor)
    let s := { s with cursor := s.cursor + 1 }
    if filter ≠ 0 ∧ filter ≠ v.group ∧ v.group ≠ adminGroupNumber .status then scanEvents e filter count s
    else
      let record := EventRecord.event v s.lost
      -- A record that does not fit is dropped, although the cursor is behind it.
      if adminResponseMax - s.text.length ≤ record.text.length then s
      else scanEvents e filter count
        { s with lost := 0, text := s.text ++ record.text, placed := s.placed ++ [record] }

end Events

section Connections

structure AdminConnection where
  fd : Option ℕ := none
  pending : Bool := false
  subscribed : Bool := false
  lastId : Word := 0
  sequence : ℕ := 0
  input : List Byte := []
  target : ℕ := 0
  sent : ℕ := 0
  output : List Byte := []
  header : AdminHeader := ⟨0, 0, 0, 0⟩
  request : AdminRequest := { group := .status, verb := .show }
  flags : Word := 0
  addressee : Option ℕ := none
  start : ℕ := 0
  placed : List EventRecord := []

def disconnect (c : AdminConnection) : AdminConnection :=
  let c := { c with fd := none, subscribed := false }
  if c.pending then c else { c with input := [], output := [] }

def resultWord : Except Errno Unit → Word
  | .ok _ => 0
  | .error e => BitVec.ofInt 32 (-(e.code : ℤ))

def response (c : AdminConnection) (result : Except Errno Unit) (generation : ℕ) (text : List Char) : AdminConnection :=
  let h : AdminHeader := { id := c.header.id, length := BitVec.ofNat 32 text.length, result := resultWord result
                           generation := BitVec.ofNat 64 generation }
  { c with output := adminHeaderEncode h ++ text.map fun x => BitVec.ofNat 8 x.toNat, sent := 0, input := []
           target := adminHeaderSize, addressee := c.fd }

structure AdminCapture extends AdminView where
  events : AdminEvents

def reportOverflow (generation : ℕ) (scan : EventScan) : EventScan :=
  if scan.lost ≠ 0 ∧ scan.text = [] then
    let record := EventRecord.overflow scan.cursor generation scan.lost
    { scan with text := record.text, placed := [record] }
  else scan

def scanView (view : AdminCapture) (sequence : ℕ) (filter : Word) : EventScan :=
  let e := view.events
  let lost := if adminEventMax < e.sequence - sequence then e.sequence - sequence - adminEventMax else 0
  let cursor := sequence + lost
  reportOverflow view.config.generation (scanEvents e filter (e.sequence - cursor) { cursor := cursor, lost := lost })

def placeRecords (c : AdminConnection) (generation : ℕ) (scan : EventScan) : AdminConnection :=
  let c := { c with sequence := scan.cursor, placed := c.placed ++ scan.placed }
  if scan.text = [] then c else response c (.ok ()) generation scan.text

def subscriberEvents (view : AdminCapture) (c : AdminConnection) : AdminConnection :=
  if c.sequence = view.events.sequence ∨ c.output ≠ [] then c
  else placeRecords c view.config.generation (scanView view c.sequence c.request.v.proto)

def acceptClient (connection : ℕ) : AdminConnection := { fd := some connection, target := adminHeaderSize }

def requestRead (c : AdminConnection) : AdminConnection :=
  if c.input.length = c.target then
    let c := { c with lastId := c.header.id }
    match adminRequestDecode (c.input.drop adminHeaderSize) with
    | .error e => response c (.error e) 0 []
    | .ok w => { c with request := w.request.getD c.request, flags := w.flags }
  else c

def readClient (c : AdminConnection) (chunk : List Byte) : AdminConnection :=
  let c := { c with input := c.input ++ chunk }
  if c.input.length = adminHeaderSize ∧ c.target = adminHeaderSize then
    match adminHeaderDecode c.input with
    | .error _ => disconnect c
    | .ok h =>
      let c := { c with header := h }
      if adminRequestMax < h.length.toNat ∨ h.length.toNat < adminRequestBase ∨ h.result ≠ 0 ∨ h.generation ≠ 0 ∨
          h.id = c.lastId then disconnect c
      else requestRead { c with target := c.target + h.length.toNat }
  else requestRead c

def writeClient (c : AdminConnection) (count : ℕ) : AdminConnection :=
  if c.sent + count = c.output.length then { c with sent := 0, output := [] } else { c with sent := c.sent + count }

end Connections

section Service

inductive Mailbox
  | control | worker | reply
  deriving DecidableEq

inductive AdminJobType
  | read | activate | hardware
  deriving DecidableEq

structure ConfigBlock where
  block : ℕ
  config : NetConfig

structure AdminJob where
  type : AdminJobType := .read
  request : AdminRequest := { group := .status, verb := .show }
  next : Option ConfigBlock := none
  retired : Option ConfigBlock := none
  view : AdminCapture := { config := {}, links := [], events := {} }
  result : Except Errno Unit := .ok ()

structure AdminService where
  current : Option (Fin adminClientMax) := none
  phase : ℕ := 0
  cursor : ℕ := 0
  lastScan : ℕ := 0
  job : AdminJob := {}
  clients : Fin adminClientMax → AdminConnection := fun _ => {}

def software (r : AdminRequest) : Bool :=
  (r.group == .addr || r.group == .route || r.group == .rule || r.group == .acl) && r.verb != .show && r.verb != .get

def AdminService.mutation (s : AdminService) (allocated : Bool) : Option (Except Errno NetConfig) :=
  s.current.bind fun i =>
    if s.phase = 0 ∧ software (s.clients i).request then
      some (if allocated then adminMutate s.job.view.toAdminView (s.clients i).request else .error .enomem)
    else none

def AdminService.post (s : AdminService) (next : ConfigBlock) : AdminService :=
  { s with phase := 1
           job := { s.job with next := some next, retired := none, type := .activate, result := .ok () } }

def AdminService.released (s : AdminService) : Option ConfigBlock :=
  if s.phase = 1 then
    match s.job.result with
    | .error _ => s.job.next
    | .ok _ => s.job.retired
  else none

def appliedText (flags : Word) (generation : ℕ) : List Char :=
  if flags &&& adminJson ≠ 0 then
    "\x7b\"schema\":1,\"generation\":".toList ++ decimal64 generation ++ ",\"applied\":true\x7d\n".toList
  else "applied generation ".toList ++ decimal64 generation ++ "\n".toList

def answerOf (job : AdminJob) (c : AdminConnection) (shown : Except Errno (List Char)) : Except Errno (List Char) :=
  match job.result with
  | .error e => .error e
  | .ok _ =>
    if c.request.group = .monitor then
      if c.request.verb ≠ .show ∨ adminGroupNumber .monitor < c.request.v.proto then .error .einval else .ok []
    else if c.request.verb ≠ .show ∧ c.request.verb ≠ .get then .ok (appliedText c.flags job.view.config.generation)
    else shown

def answerClient (job : AdminJob) (shown : Except Errno (List Char)) (c : AdminConnection) : AdminConnection :=
  let c := { c with pending := false }
  if c.fd.isSome then
    let generation := job.view.config.generation
    match answerOf job c shown with
    | .error e => response c (.error e) generation []
    | .ok text =>
      if c.request.group = .monitor then
        response { c with subscribed := true, sequence := job.view.events.sequence, start := job.view.events.sequence
                          placed := [] } (.ok ()) generation text
      else response c (.ok ()) generation text
  else { c with input := [], output := [] }

def AdminService.answer (s : AdminService) (shown : Except Errno (List Char)) (i : Fin adminClientMax) : AdminConnection :=
  if s.current = some i then answerClient s.job shown (s.clients i) else s.clients i

def AdminService.finish (s : AdminService) (shown : Except Errno (List Char)) : AdminService :=
  let job := if s.phase = 1 then { s.job with next := none, retired := none } else s.job
  { s with
    job := job
    current := none
    clients := fun i =>
      let c := s.answer shown i
      if c.fd.isSome ∧ c.subscribed then subscriberEvents s.job.view c else c }

def clientSlot (k : ℕ) : Fin adminClientMax := ⟨k % adminClientMax, Nat.mod_lt _ (by decide)⟩

def ready (c : AdminConnection) : Bool :=
  c.fd.isSome && !c.subscribed && !c.pending && c.output.isEmpty && c.input.length == c.target

def AdminService.nextClient (s : AdminService) : Option (Fin adminClientMax) :=
  ((List.range adminClientMax).map fun n => clientSlot (s.cursor + (n + 1))).find? fun i => ready (s.clients i)

def AdminService.start (s : AdminService) (i : Fin adminClientMax) : AdminService :=
  let r := (s.clients i).request
  let type : AdminJobType := if (r.group = .link ∨ r.group = .neigh) ∧ r.verb ≠ .show then .hardware else .read
  { s with cursor := i, current := some i, phase := 0
           job := { s.job with request := r, type := type }
           clients := Function.update s.clients i { s.clients i with pending := true } }

def AdminService.scan (s : AdminService) (now : ℕ) : AdminService :=
  { s with lastScan := now, current := none, phase := 0
           job := { s.job with request := { group := .monitor, verb := .show }, type := .read } }

def AdminService.schedule (s : AdminService) (now : ℕ) : Option AdminService :=
  match s.nextClient with
  | some i => some (s.start i)
  | none =>
    if now - s.lastScan < 100 then none
    else if (List.finRange adminClientMax).any fun i => (s.clients i).subscribed then some (s.scan now)
    else none

end Service

section System

inductive ControlPoint
  | outside | complete | schedule | store (state : Mailbox)
  deriving DecidableEq

inductive WorkerPoint
  | outside | job | store
  deriving DecidableEq

structure AdminAnswer where
  serial : ℕ
  connection : ℕ
  request : AdminRequest
  result : Except Errno (List Char)
  generation : ℕ

structure AdminSystem where
  service : AdminService := {}
  state : Mailbox := .control
  rt : Runtime
  block : ℕ := 0
  events : AdminEvents := {}
  control : ControlPoint := .outside
  worker : WorkerPoint := .outside
  history : List AdminEvent := []
  blocks : ℕ := 1
  freed : List ℕ := []
  accepted : ℕ := 0
  scheduled : List ℕ := []
  activations : List (ℕ × ℕ) := []
  answers : List AdminAnswer := []

def AdminSystem.serial (s : AdminSystem) : ℕ := s.scheduled.length - 1

def AdminSystem.generation (s : AdminSystem) : ℕ := (s.rt.routing.network.getD {}).generation

def AdminSystem.setClient (s : AdminSystem) (i : Fin adminClientMax) (c : AdminConnection) : AdminSystem :=
  { s with service := { s.service with clients := Function.update s.service.clients i c } }

def AdminSystem.record (s : AdminSystem) (e : AdminEvents) : AdminSystem :=
  { s with events := e, history := s.history ++ [e.latest] }

def capture (names : List String) (rt : Runtime) (e : AdminEvents) : AdminCapture where
  config := rt.routing.network.getD {}
  links := List.zipWith (fun name p => { name := name, started := p.started, adminDown := p.adminDown }) names rt.routing.ports
  events := e

def AdminSystem.activated (names : List String) (s : AdminSystem) (rt : Runtime) (next : ConfigBlock) : AdminSystem :=
  let retired : ConfigBlock := { block := s.block, config := s.rt.routing.network.getD {} }
  let generation := next.config.generation
  let s := { s with
    rt := rt, block := next.block, activations := s.activations ++ [(s.serial, generation)]
    service := { s.service with job := { s.service.job with retired := some retired } } }
  let s := s.record (activationEvent s.events generation names s.service.job.request)
  s.record (generationEvent s.events generation)

def AdminSystem.captured (names : List String) (s : AdminSystem) (result : Except Errno Unit) : AdminSystem :=
  { s with
    worker := .store
    service := { s.service with job := { s.service.job with view := capture names s.rt s.events, result := result } } }

inductive JobRun (names : List String) (s : AdminSystem) : AdminSystem → Except Errno Unit → Prop
  | read (type : s.service.job.type = .read) : JobRun names s s (.ok ())
  | activate {fuel : ℕ} {rt : Runtime} {next : ConfigBlock} (type : s.service.job.type = .activate)
      (held : s.service.job.next = some next)
      (run : adminActivate (graphSubmit fuel) s.service.job.request.group (some next.config) s.rt = some (.ok (), rt)) :
      JobRun names s (s.activated names rt next) (.ok ())
  | refuse {fuel : ℕ} {rt : Runtime} {e : Errno} (type : s.service.job.type = .activate)
      (run : adminActivate (graphSubmit fuel) s.service.job.request.group (s.service.job.next.map ConfigBlock.config) s.rt =
        some (.error e, rt)) :
      JobRun names s { s with rt := rt } (.error e)
  | hardware {fuel steps : ℕ} {driver : PortDriver} {rt : Runtime} {result : Except Errno Unit}
      (type : s.service.job.type = .hardware)
      (run : adminWorkerOperation (graphSubmit fuel) driver names steps s.service.job.request s.rt = some (result, rt)) :
      JobRun names s { s with rt := rt } result

def AdminSystem.answered (s : AdminSystem) (shown : Except Errno (List Char)) : List AdminAnswer :=
  match s.service.current with
  | none => []
  | some i =>
    let c := s.service.clients i
    match c.fd with
    | none => []
    | some connection =>
      [{ serial := s.serial, connection := connection, request := c.request
         result := answerOf s.service.job c shown, generation := s.service.job.view.config.generation }]

def AdminSystem.finish (s : AdminSystem) (shown : Except Errno (List Char)) : AdminSystem :=
  { s with
    control := .store .control
    freed := s.freed ++ (s.service.released.map ConfigBlock.block).toList
    answers := s.answers ++ s.answered shown
    service := s.service.finish shown }

def AdminSystem.setResult (s : AdminSystem) (result : Except Errno Unit) : AdminSystem :=
  { s with service := { s.service with job := { s.service.job with result := result } } }

/-- One step of one of the threads. A thread looks at `state`, then touches the mailbox, then stores `state`. -/
inductive AdminStep (names : List String) (s : AdminSystem) : AdminSystem → Prop
  /-- The worker does anything else; the snapshot is changed by activations only. -/
  | work {rt : Runtime} (outside : s.worker = .outside) (kept : rt.routing.network = s.rt.routing.network) :
      AdminStep names s { s with rt := rt }
  | emit (group id action : Word) (free : s.worker ≠ .store) :
      AdminStep names s (s.record (adminEventEmit s.events s.generation group id action))
  | neighbour (dev : Word16) (ip action : Word) (free : s.worker ≠ .store) :
      AdminStep names s (s.record (adminNeighbourEvent s.events s.generation dev ip action))
  | workerLoad (outside : s.worker = .outside) (state : s.state = .worker) : AdminStep names s { s with worker := .job }
  | workerJob {t : AdminSystem} {result : Except Errno Unit} (job : s.worker = .job) (run : JobRun names s t result) :
      AdminStep names s (t.captured names result)
  | workerStore (store : s.worker = .store) : AdminStep names s { s with state := .reply, worker := .outside }
  | loadReply (outside : s.control = .outside) (state : s.state = .reply) : AdminStep names s { s with control := .complete }
  | post {c : NetConfig} (complete : s.control = .complete) (mutation : s.service.mutation true = some (.ok c)) :
      AdminStep names s { s with
        control := .store .worker, blocks := s.blocks + 1, service := s.service.post { block := s.blocks, config := c } }
  | reject {e : Errno} {shown : Except Errno (List Char)} (complete : s.control = .complete)
      (mutation : s.service.mutation true = some (.error e)) :
      AdminStep names s
        (({ s with blocks := s.blocks + 1, freed := s.freed ++ [s.blocks] }.setResult (.error e)).finish shown)
  | exhausted {e : Errno} {shown : Except Errno (List Char)} (complete : s.control = .complete)
      (mutation : s.service.mutation false = some (.error e)) : AdminStep names s ((s.setResult (.error e)).finish shown)
  | finish {shown : Except Errno (List Char)} (complete : s.control = .complete)
      (mutation : s.service.mutation true = none) : AdminStep names s (s.finish shown)
  | loadEmpty (outside : s.control = .outside) (state : s.state = .control) :
      AdminStep names s { s with control := .schedule }
  | start {i : Fin adminClientMax} {connection now : ℕ} (schedule : s.control = .schedule)
      (next : s.service.nextClient = some i) (fd : (s.service.clients i).fd = some connection)
      (run : s.service.schedule now = some (s.service.start i)) :
      AdminStep names s { s with
        control := .store .worker, service := s.service.start i, scheduled := s.scheduled ++ [connection] }
  | scan {now : ℕ} (schedule : s.control = .schedule) (next : s.service.nextClient = none)
      (run : s.service.schedule now = some (s.service.scan now)) :
      AdminStep names s { s with control := .store .worker, service := s.service.scan now }
  | leave {now : ℕ} (schedule : s.control = .schedule) (run : s.service.schedule now = none) :
      AdminStep names s { s with control := .outside }
  | store {state : Mailbox} (store : s.control = .store state) :
      AdminStep names s { s with state := state, control := .outside }
  | accept {i : Fin adminClientMax} (outside : s.control = .outside)
      (free : (List.finRange adminClientMax).find?
        (fun i => (s.service.clients i).fd.isNone && !(s.service.clients i).pending) = some i) :
      AdminStep names s { s.setClient i (acceptClient s.accepted) with accepted := s.accepted + 1 }
  | hangup (i : Fin adminClientMax) (outside : s.control = .outside) :
      AdminStep names s (s.setClient i (disconnect (s.service.clients i)))
  /-- `poll` waits for input of clients that are not pending, not subscribed and have no output. -/
  | read {i : Fin adminClientMax} {chunk : List Byte} (outside : s.control = .outside)
      (fd : (s.service.clients i).fd.isSome = true) (output : (s.service.clients i).output = [])
      (pending : (s.service.clients i).pending = false) (subscribed : (s.service.clients i).subscribed = false)
      (nonempty : chunk ≠ [])
      (fits : (s.service.clients i).input.length + chunk.length ≤ (s.service.clients i).target) :
      AdminStep names s (s.setClient i (readClient (s.service.clients i) chunk))
  | write {i : Fin adminClientMax} {count : ℕ} (outside : s.control = .outside)
      (fd : (s.service.clients i).fd.isSome = true) (output : (s.service.clients i).output ≠ [])
      (positive : 0 < count) (fits : (s.service.clients i).sent + count ≤ (s.service.clients i).output.length) :
      AdminStep names s (s.setClient i (writeClient (s.service.clients i) count))

inductive AdminReachable (names : List String) : AdminSystem → Prop
  | start {rt : Runtime} {c : NetConfig} (network : rt.routing.network = some c) : AdminReachable names { rt := rt }
  | step {s t : AdminSystem} (h : AdminReachable names s) (hstep : AdminStep names s t) : AdminReachable names t

end System

end PulsarNetstack
