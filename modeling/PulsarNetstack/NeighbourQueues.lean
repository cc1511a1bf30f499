import PulsarNetstack.OnLink
import PulsarNetstack.PendingChanges

namespace PulsarNetstack

open Program

variable {rt rt' : Runtime} {r : Routing} {x : PendingQueues} {e : PendingNeighbour} {i j : Fin neighbourPendingMax}
variable {dev : Word16} {ip : Word} {submit : Submit} {ticking : Ticking} {p : Packet} {netifId now : ℕ}

section Entries

def devicePort (r : Routing) (dev : Word16) : Option ℕ := (netifById r dev.toNat).map PortState.portId

theorem devicePort_ofNat (r : Routing) (id : ℕ) : devicePort r (BitVec.ofNat 16 id) = (netifById r id).map PortState.portId := by
  rw [devicePort, BitVec.toNat_ofNat, netifById_mod]

/-- An entry holds at most eight packets, all for its own device and next hop, and is all zero when it holds none. -/
structure PendingEntryOk (r : Routing) (e : PendingNeighbour) : Prop where
  bounded : e.packets.length ≤ neighbourPendingQueueMax
  clear : e.packets = [] → e = {}
  key {p : Packet} : p ∈ e.packets → p.2.nextHop = e.ip ∧ devicePort r e.netifId = some p.2.egressPortId

structure PendingOk (r : Routing) (x : PendingQueues) : Prop where
  entries (i : Fin neighbourPendingMax) : PendingEntryOk r (x i)
  apart {i j : Fin neighbourPendingMax} {dev : Word16} {ip : Word} : Awaits dev ip (x i) → Awaits dev ip (x j) → i = j

theorem pendingEntryOk_empty (r : Routing) : PendingEntryOk r {} where
  bounded := Nat.zero_le _
  clear _ := rfl
  key := nofun

theorem not_awaits_empty : ¬ Awaits dev ip {} := fun h => h.1 rfl

theorem PendingOk.update (h : PendingOk r x) (he : PendingEntryOk r e)
    (hkey : ∀ {j dev ip}, Awaits dev ip e → Awaits dev ip (x j) → j = i) : PendingOk r (Function.update x i e) := by
  constructor
  · intro j
    by_cases hj : j = i
    · subst hj
      rw [Function.update_self]
      exact he
    · rw [Function.update_of_ne hj]
      exact h.entries j
  · intro j k dev ip hj hk
    by_cases hji : j = i <;> by_cases hki : k = i
    · exact hji.trans hki.symm
    · rw [hji, Function.update_self] at hj
      rw [Function.update_of_ne hki] at hk
      exact hji.trans (hkey hj hk).symm
    · rw [hki, Function.update_self] at hk
      rw [Function.update_of_ne hji] at hj
      exact (hkey hk hj).trans hki.symm
    · rw [Function.update_of_ne hji] at hj
      rw [Function.update_of_ne hki] at hk
      exact h.apart hj hk

theorem PendingOk.clear (h : PendingOk r x) (i : Fin neighbourPendingMax) : PendingOk r (Function.update x i {}) :=
  h.update (pendingEntryOk_empty r) fun hawaits => absurd hawaits not_awaits_empty

theorem pendingEntry_some (h : pendingEntry x dev ip = some i) :
    Awaits dev ip (x i) ∨ ((x i).packets = [] ∧ ∀ j, ¬ Awaits dev ip (x j)) := by
  rw [pendingEntry, Option.or_eq_some_iff] at h
  obtain hfound | ⟨hnone, hfree⟩ := h
  · have hmatch := List.find?_some hfound
    exact .inl (of_decide_eq_true hmatch)
  · have hempty := List.find?_some hfree
    refine .inr ⟨of_decide_eq_true hempty, fun j hj => ?_⟩
    exact List.find?_eq_none.mp hnone j (List.mem_finRange j) (decide_eq_true hj)

theorem storeIn_of_awaits (h : Awaits dev ip e) :
    storeIn e dev p now = { e with packets := e.packets ++ [(p.1, { p.2 with reportAcceptance := false })] } := by
  rw [storeIn, if_neg h.1]

theorem storeIn_empty : storeIn {} dev p now =
    { ip := p.2.nextHop, netifId := dev, requests := 1, lastRequest := now
      packets := [(p.1, { p.2 with reportAcceptance := false })] } := rfl

theorem PendingOk.store (h : PendingOk r x) {port : PortState}
    (place : pendingEntry x (BitVec.ofNat 16 netifId) p.2.nextHop = some i)
    (room : (x i).packets.length ≠ neighbourPendingQueueMax)
    (found : ((netifById r netifId).filter fun port => port.up && port.portId == p.2.egressPortId) = some port) :
    PendingOk r (Function.update x i (storeIn (x i) (BitVec.ofNat 16 netifId) p now)) := by
  have hport : devicePort r (BitVec.ofNat 16 netifId) = some p.2.egressPortId := by
    obtain ⟨hfound, hmatch⟩ := Option.filter_eq_some_iff.mp found
    rw [Bool.and_eq_true, beq_iff_eq] at hmatch
    rw [devicePort_ofNat, hfound, Option.map_some, hmatch.2]
  obtain hawaits | ⟨hempty, hnone⟩ := pendingEntry_some place
  · rw [storeIn_of_awaits hawaits]
    refine h.update ⟨?_, fun hnil => absurd hnil (by simp), fun {q} hq => ?_⟩ fun hj hk => ?_
    · rw [List.length_append]
      exact Nat.lt_of_le_of_ne (h.entries i).bounded room
    · obtain hq | hq := List.mem_append.mp hq
      · exact (h.entries i).key hq
      · obtain rfl := List.mem_singleton.mp hq
        exact ⟨hawaits.2.2.symm, (congrArg (devicePort r) hawaits.2.1).trans hport⟩
    · exact (h.apart ⟨hawaits.1, hj.2⟩ hk).symm
  · rw [(h.entries i).clear hempty, storeIn_empty]
    refine h.update ⟨Nat.le_add_left 1 7, nofun, fun {q} hq => ?_⟩ fun hj hk => ?_
    · obtain rfl := List.mem_singleton.mp hq
      exact ⟨rfl, hport⟩
    · obtain ⟨-, rfl, rfl⟩ := hj
      exact absurd hk (hnone _)

theorem keepOthers_cases (localAddr remoteAddr : SockAddr) (e : PendingNeighbour) :
    keepOthers localAddr remoteAddr e = {} ∨ keepOthers localAddr remoteAddr e =
      { e with packets := e.packets.filter fun p => !queuedBy localAddr remoteAddr p } ∧
        (e.packets.filter fun p => !queuedBy localAddr remoteAddr p) ≠ [] := by
  unfold keepOthers
  dsimp only
  split
  · exact .inl rfl
  · rename_i hkeep
    exact .inr ⟨rfl, hkeep⟩

theorem PendingOk.cancel (h : PendingOk r x) (localAddr remoteAddr : SockAddr) (i : Fin neighbourPendingMax) :
    PendingOk r (Function.update x i (keepOthers localAddr remoteAddr (x i))) := by
  obtain hnil | ⟨hkeep, hne⟩ := keepOthers_cases localAddr remoteAddr (x i)
  · rw [hnil]
    exact h.clear i
  · rw [hkeep]
    refine h.update ⟨?_, fun hnil => absurd hnil hne, fun hq => ?_⟩ fun hj hk => ?_
    · exact (List.length_filter_le _ _).trans (h.entries i).bounded
    · exact (h.entries i).key (List.mem_filter.mp hq).1
    · have hwaiting : (x i).packets ≠ [] := fun hnil => hne (by rw [hnil]; rfl)
      exact (h.apart ⟨hwaiting, hj.2⟩ hk).symm

theorem PendingChange.pendingOk {queues : PendingQueues} {logs : PendingLogs} (h : PendingChange ticking rt queues logs)
    (hok : PendingOk rt.routing rt.pendingNeighbours) : PendingOk rt.routing queues := by
  cases h with
  | store _ place room found => exact hok.store place room found
  | @ask now i _ _ waiting _ _ =>
    have hentry := hok.entries i
    refine hok.update ⟨hentry.bounded, fun hnil => absurd hnil waiting, hentry.key⟩ fun hj hk => ?_
    exact (hok.apart (i := i) hj hk).symm
  | release i => exact hok.clear i
  | timeout => exact hok.clear _
  | discard i => exact hok.clear i
  | cancel i localAddr remoteAddr => exact hok.cancel localAddr remoteAddr i

theorem find?_modify_map {α β : Type} {q : α → Bool} {f : α → α} {g : α → β} (hq : ∀ a, q (f a) = q a)
    (hg : ∀ a, g (f a) = g a) (l : List α) (n : ℕ) : ((l.modify n f).find? q).map g = (l.find? q).map g := by
  induction l generalizing n with
  | nil => cases n <;> rfl
  | cons a l ih =>
    cases n with
    | zero =>
      rw [List.modify_zero_cons, List.find?_cons, List.find?_cons, hq]
      split
      · exact congrArg some (hg a)
      · rfl
    | succ n =>
      rw [List.modify_succ_cons, List.find?_cons, List.find?_cons]
      split
      · rfl
      · exact ih n

theorem devicePort_relink (r : Routing) (n : ℕ) (l : LinkState) (dev : Word16) :
    devicePort { r with ports := r.ports.modify n fun p => p.relink l } dev = devicePort r dev := by
  have hfind (id : ℕ) : ((r.ports.modify n fun p => p.relink l).find? fun p => p.configured && p.id == id).map
      PortState.portId = (r.ports.find? fun p => p.configured && p.id == id).map PortState.portId :=
    find?_modify_map (f := fun p => p.relink l) (fun _ => rfl) (fun _ => rfl) r.ports n
  unfold devicePort netifById
  dsimp only
  rw [List.getElem?_modify]
  cases r.ports[dev.toNat % 65536]? with
  | none => exact hfind _
  | some q =>
    have hsame : (if n = dev.toNat % 65536 then q.relink l else q).configured = q.configured ∧
        (if n = dev.toNat % 65536 then q.relink l else q).id = q.id ∧
        (if n = dev.toNat % 65536 then q.relink l else q).portId = q.portId := by
      split
      · exact ⟨rfl, rfl, rfl⟩
      · exact ⟨rfl, rfl, rfl⟩
    change Option.map _ (if _ then _ else _) = Option.map _ (if _ then _ else _)
    rw [hsame.1, hsame.2.1]
    split
    · exact congrArg some hsame.2.2
    · exact hfind _

end Entries

theorem PendingOk.routing {r' : Routing} (h : PendingOk r x) (hr : ∀ dev, devicePort r' dev = devicePort r dev) :
    PendingOk r' x where
  entries i :=
    { bounded := (h.entries i).bounded
      clear := (h.entries i).clear
      key := fun hp => by rw [hr]; exact (h.entries i).key hp }
  apart := h.apart

theorem pendingOk_steady : SteadyQueues ticking fun rt => PendingOk rt.routing rt.pendingNeighbours where
  still h hstill := by
    rw [hstill.routing, hstill.queues]
    exact h
  change h hchange _ hmoved := by
    rw [hmoved.routing, hmoved.queues]
    exact hchange.pendingOk h
  learn _ _ _ h := h
  carriage := .any _
  activate _ _ h := h.routing fun _ => rfl
  relink dev l h := h.routing fun _ => devicePort_relink _ dev l _
  edit _ h := h

theorem RuntimeReachable.pendingOk (h : RuntimeReachable rt) : PendingOk rt.routing rt.pendingNeighbours := by
  apply pendingOk_steady.reachable (fun rt hboot => ?_) h
  rw [hboot.pending]
  exact ⟨fun _ => pendingEntryOk_empty _, fun hawaits => absurd hawaits not_awaits_empty⟩

section Order

def PendingEvent.packet? : PendingEvent → Option Packet
  | .stored p => some (p.1, { p.2 with reportAcceptance := false })
  | _ => none

def arrivals (log : List PendingEvent) : List Packet := log.filterMap PendingEvent.packet?

theorem arrivals_append (log events : List PendingEvent) : arrivals (log ++ events) = arrivals log ++ arrivals events :=
  List.filterMap_append

theorem arrivals_storeEvents (e : PendingNeighbour) (p : Packet) (now : ℕ) :
    arrivals (storeEvents e p now) = [(p.1, { p.2 with reportAcceptance := false })] := by
  unfold storeEvents
  split
  · rfl
  · rfl

theorem Runtime.noting_nil (rt : Runtime) (i : Fin neighbourPendingMax) : rt.noting i [] = rt.pendingLog := by
  rw [Runtime.noting, List.append_nil, Function.update_eq_self]

def InArrivalOrder (x : PendingQueues) (logs : PendingLogs) : Prop := ∀ i, (x i).packets.Sublist (arrivals (logs i))

theorem InArrivalOrder.update (h : InArrivalOrder rt.pendingNeighbours rt.pendingLog) {events : List PendingEvent}
    (he : e.packets.Sublist (arrivals (rt.pendingLog i) ++ arrivals events)) :
    InArrivalOrder (Function.update rt.pendingNeighbours i e) (rt.noting i events) := by
  intro j
  unfold Runtime.noting
  by_cases hj : j = i
  · subst hj
    rw [Function.update_self, Function.update_self, arrivals_append]
    exact he
  · rw [Function.update_of_ne hj, Function.update_of_ne hj]
    exact h j

theorem InArrivalOrder.keep (h : InArrivalOrder rt.pendingNeighbours rt.pendingLog)
    (he : e.packets.Sublist (rt.pendingNeighbours i).packets) (events : List PendingEvent) :
    InArrivalOrder (Function.update rt.pendingNeighbours i e) (rt.noting i events) :=
  h.update (he.trans ((h i).trans (List.sublist_append_left _ _)))

theorem keepOthers_sublist (localAddr remoteAddr : SockAddr) (e : PendingNeighbour) :
    (keepOthers localAddr remoteAddr e).packets.Sublist e.packets := by
  obtain hnil | ⟨hkeep, -⟩ := keepOthers_cases localAddr remoteAddr e
  · rw [hnil]
    exact List.nil_sublist _
  · rw [hkeep]
    exact List.filter_sublist

theorem PendingChange.inArrivalOrder {queues : PendingQueues} {logs : PendingLogs} (h : PendingChange ticking rt queues logs)
    (horder : InArrivalOrder rt.pendingNeighbours rt.pendingLog) : InArrivalOrder queues logs := by
  cases h with
  | @store netifId now p i port _ _ _ _ =>
    apply horder.update
    rw [storeIn_packets, arrivals_storeEvents]
    exact (horder i).append_right _
  | ask =>
    refine horder.keep ?_ _
    exact List.Sublist.refl _
  | release i =>
    rw [← rt.noting_nil i]
    exact horder.keep (List.nil_sublist _) _
  | timeout => exact horder.keep (List.nil_sublist _) _
  | discard i => exact horder.keep (List.nil_sublist _) _
  | cancel i localAddr remoteAddr =>
    rw [← rt.noting_nil i]
    exact horder.keep (keepOthers_sublist localAddr remoteAddr _) _

theorem inArrivalOrder_steady : SteadyQueues ticking fun rt => InArrivalOrder rt.pendingNeighbours rt.pendingLog where
  still h hstill := by
    rw [hstill.queues, hstill.logs]
    exact h
  change h hchange _ hmoved := by
    rw [hmoved.queues, hmoved.logs]
    exact hchange.inArrivalOrder h
  learn _ _ _ h := h
  carriage := .any _
  activate _ _ h := h
  relink _ _ h := h
  edit _ h := h

theorem RuntimeReachable.inArrivalOrder (h : RuntimeReachable rt) : InArrivalOrder rt.pendingNeighbours rt.pendingLog := by
  apply inArrivalOrder_steady.reachable (fun rt hboot => ?_) h
  rw [hboot.pending]
  exact fun _ => List.nil_sublist _

end Order

section Calls

theorem neighbourQueue_refused {reason : DropReason} (h : neighbourQueue submit netifId p now rt = some (reason, rt'))
    (hreason : reason ≠ .none) : rt' = rt := by
  have hsafe : Safe (fun s => s = rt) (neighbourQueue submit netifId p now) fun reason s => reason ≠ .none → s = rt := by
    have hsame (d : DropReason) : Safe (fun s => s = rt) (pure d : GraphM DropReason) fun reason s => reason ≠ .none → s = rt :=
      Safe.pure fun _ hs _ => hs
    have hdone : Safe (fun _ => True) (pure .none : GraphM DropReason) fun reason s => reason ≠ .none → s = rt :=
      Safe.pure fun _ _ h => absurd rfl h
    apply Safe.get_bind
    rintro _ rfl
    dsimp only
    split
    · exact hsame _
    split
    · exact hsame _
    split
    · exact hsame _
    apply Safe.bind (Q := fun _ _ => True) ⟨fun _ _ _ _ _ => trivial⟩
    intro _
    split
    · exact Safe.bind ⟨fun _ _ _ _ _ => trivial⟩ fun _ => hdone
    · exact hdone
  exact hsafe.post rt reason rt' rfl h hreason

-- `eth_output`, which calls `neighbour_queue`, runs with an active output: the request goes there and no node runs yet.
theorem arpRequest_active (port : PortState) (target : Word) (x : PendingQueues) (logs : PendingLogs) :
    Safe (fun s => s.activeOutput.isSome = true ∧ s.pendingNeighbours = x ∧ s.pendingLog = logs) (arpRequest submit port target)
      fun _ s => s.pendingNeighbours = x ∧ s.pendingLog = logs := by
  apply Safe.bind (Q := fun _ s => s.activeOutput.isSome = true ∧ s.pendingNeighbours = x ∧ s.pendingLog = logs)
  · refine ⟨fun s a s' hs hrun => ?_⟩
    change some (if s.world.alloc s.calls then _ else _) = _ at hrun
    split at hrun
    all_goals
      obtain ⟨rfl, rfl⟩ := Prod.mk.inj (Option.some.inj hrun)
      exact hs
  rintro (_ | m)
  · exact Safe.modify fun _ hs => hs.2
  · refine Safe.bind (Q := fun _ s => s.pendingNeighbours = x ∧ s.pendingLog = logs) ?_ fun _ => Safe.pure fun _ hs => hs
    refine ⟨fun s ok s' hs hrun => ?_⟩
    obtain ⟨out, hout⟩ := Option.isSome_iff_exists.mp hs.1
    rw [inject_eq_emit hs.1, emit_eq s hout] at hrun
    obtain ⟨-, rfl⟩ := Prod.mk.inj (Option.some.inj hrun)
    obtain ⟨g, out', freed, hshuffled⟩ := nodeEnqueue_shuffled s out .arpOutput (m, { egressPortId := port.portId, nextHop := target })
    rw [hshuffled]
    exact hs.2

theorem neighbourQueue_stores (hactive : rt.activeOutput.isSome = true)
    (h : neighbourQueue submit netifId p now rt = some (.none, rt')) :
    ∃ i, pendingEntry rt.pendingNeighbours (BitVec.ofNat 16 netifId) p.2.nextHop = some i ∧
      rt'.pendingNeighbours = Function.update rt.pendingNeighbours i
        (storeIn (rt.pendingNeighbours i) (BitVec.ofNat 16 netifId) p now) ∧
      rt'.pendingLog = rt.noting i (storeEvents (rt.pendingNeighbours i) p now) := by
  have hsafe : Safe (fun s => s = rt) (neighbourQueue submit netifId p now) fun reason s => reason = .none →
      ∃ i, pendingEntry rt.pendingNeighbours (BitVec.ofNat 16 netifId) p.2.nextHop = some i ∧
        s.pendingNeighbours = Function.update rt.pendingNeighbours i
          (storeIn (rt.pendingNeighbours i) (BitVec.ofNat 16 netifId) p now) ∧
        s.pendingLog = rt.noting i (storeEvents (rt.pendingNeighbours i) p now) := by
    apply Safe.get_bind
    rintro s rfl
    dsimp only
    split
    · exact Safe.pure fun _ _ h => by cases h
    rename_i i hplace
    split
    · exact Safe.pure fun _ _ h => by cases h
    split
    · exact Safe.pure fun _ _ h => by cases h
    rename_i port _
    apply Safe.bind (Q := fun _ t => t.activeOutput.isSome = true ∧
      t.pendingNeighbours = Function.update s.pendingNeighbours i
        (storeIn (s.pendingNeighbours i) (BitVec.ofNat 16 netifId) p now) ∧
      t.pendingLog = s.noting i (storeEvents (s.pendingNeighbours i) p now))
    · exact Safe.set fun _ _ => ⟨hactive, rfl, rfl⟩
    intro _
    split
    · exact Safe.bind (arpRequest_active _ _ _ _) fun _ => Safe.pure fun _ hs _ => ⟨i, hplace, hs⟩
    · exact Safe.pure fun _ hs _ => ⟨i, hplace, hs.2⟩
  exact hsafe.post rt _ rt' rfl h rfl

structure Appended (dev : Word16) (p : Packet) (rt rt' : Runtime) (i : Fin neighbourPendingMax) : Prop where
  place : Awaits dev p.2.nextHop (rt.pendingNeighbours i) ∨ (rt.pendingNeighbours i).packets = [] ∧
    ∀ j, ¬ Awaits dev p.2.nextHop (rt.pendingNeighbours j)
  awaits : Awaits dev p.2.nextHop (rt'.pendingNeighbours i)
  packets : (rt'.pendingNeighbours i).packets = (rt.pendingNeighbours i).packets ++ [(p.1, { p.2 with reportAcceptance := false })]
  arrival : arrivals (rt'.pendingLog i) = arrivals (rt.pendingLog i) ++ [(p.1, { p.2 with reportAcceptance := false })]
  others : ∀ j ≠ i, rt'.pendingNeighbours j = rt.pendingNeighbours j ∧ rt'.pendingLog j = rt.pendingLog j

theorem neighbourQueue_appends (hactive : rt.activeOutput.isSome = true)
    (h : neighbourQueue submit netifId p now rt = some (.none, rt')) : ∃ i, Appended (BitVec.ofNat 16 netifId) p rt rt' i := by
  obtain ⟨i, hplace, hqueues, hlogs⟩ := neighbourQueue_stores hactive h
  have hplaced := pendingEntry_some hplace
  refine ⟨i, hplaced, ?_, ?_, ?_, fun j hj => ?_⟩
  · rw [hqueues, Function.update_self]
    obtain hawaits | ⟨hempty, -⟩ := hplaced
    · rw [storeIn_of_awaits hawaits]
      exact ⟨fun hnil => absurd hnil (by simp), hawaits.2⟩
    · refine ⟨?_, ?_⟩
      · rw [storeIn_packets]
        exact fun hnil => absurd hnil (by simp)
      · rw [storeIn, if_pos hempty]
        exact ⟨rfl, rfl⟩
  · rw [hqueues, Function.update_self, storeIn_packets]
  · rw [hlogs, Runtime.noting, Function.update_self, arrivals_append, arrivals_storeEvents]
  · rw [hqueues, hlogs, Runtime.noting, Function.update_of_ne hj, Function.update_of_ne hj]
    exact ⟨rfl, rfl⟩

theorem discardPackets_run (reason : DropReason) (packets : List Packet) (rt : Runtime) :
    ∃ rt', packets.forM (discardPacket reason) rt = some (⟨⟩, rt') ∧ rt'.pendingNeighbours = rt.pendingNeighbours := by
  induction packets generalizing rt with
  | nil => exact ⟨rt, rfl, rfl⟩
  | cons p packets ih => exact ih _

theorem cancelQueued_run (localAddr remoteAddr : SockAddr) (rt : Runtime) : ∃ rt',
    cancelQueued localAddr remoteAddr rt = some (⟨⟩, rt') ∧
      rt'.pendingNeighbours = fun i => keepOthers localAddr remoteAddr (rt.pendingNeighbours i) := by
  have hloop (indices : List (Fin neighbourPendingMax)) (hnodup : indices.Nodup) (rt : Runtime) : ∃ rt',
      (indices.forM fun i => do
        let rt ← get
        let entry := rt.pendingNeighbours i
        let keep := entry.packets.filter fun p => !queuedBy localAddr remoteAddr p
        set { rt with pendingNeighbours :=
          Function.update rt.pendingNeighbours i (if keep = [] then {} else { entry with packets := keep }) }
        (entry.packets.filter (queuedBy localAddr remoteAddr)).forM (discardPacket .neighbourCancelled) : GraphM PUnit) rt =
          some (⟨⟩, rt') ∧ ∀ i, rt'.pendingNeighbours i =
            if i ∈ indices then keepOthers localAddr remoteAddr (rt.pendingNeighbours i) else rt.pendingNeighbours i := by
    induction indices generalizing rt with
    | nil => exact ⟨rt, rfl, fun _ => rfl⟩
    | cons i indices ih =>
      obtain ⟨hi, hnodup⟩ := List.nodup_cons.mp hnodup
      obtain ⟨rt₁, hrun₁, hpending₁⟩ := discardPackets_run .neighbourCancelled
        ((rt.pendingNeighbours i).packets.filter (queuedBy localAddr remoteAddr))
        (rt.withPending (Function.update rt.pendingNeighbours i (keepOthers localAddr remoteAddr (rt.pendingNeighbours i))))
      obtain ⟨rt₂, hrun₂, hpending₂⟩ := ih hnodup rt₁
      refine ⟨rt₂, ?_, fun j => ?_⟩
      · change Option.bind (((rt.pendingNeighbours i).packets.filter (queuedBy localAddr remoteAddr)).forM
          (discardPacket .neighbourCancelled) (rt.withPending (Function.update rt.pendingNeighbours i
            (keepOthers localAddr remoteAddr (rt.pendingNeighbours i))))) _ = _
        rw [hrun₁]
        exact hrun₂
      · rw [hpending₂, hpending₁, Runtime.withPending]
        dsimp only
        by_cases hj : j = i
        · subst hj
          rw [if_neg hi, Function.update_self, if_pos List.mem_cons_self]
        · rw [Function.update_of_ne hj]
          simp only [List.mem_cons, hj, false_or]
  obtain ⟨rt', hrun, hpending⟩ := hloop _ (List.nodup_finRange neighbourPendingMax) rt
  exact ⟨rt', hrun, funext fun i => by rw [hpending, if_pos (List.mem_finRange i)]⟩

end Calls

section HandOver

def handBack (submit : Submit) (packets : List Packet) : GraphM PUnit := do
  let rt ← get
  if rt.activeOutput.isSome then handOver packets else submit .ethOutput packets

theorem releasePending_eq (submit : Submit) (i : Fin neighbourPendingMax) (rt : Runtime) : releasePending submit i rt =
    handBack submit (rt.pendingNeighbours i).packets (rt.withPending (Function.update rt.pendingNeighbours i {})) := rfl

/-- One enqueue for each packet, in order; each is accepted, or freed and counted as `DROP_GRAPH_FULL`. Between them
only `active_output` changes. -/
inductive HandedOver (running : List SlotId) : Runtime → NodeOutput → List Packet → Runtime → NodeOutput → Prop
  | nil {rt : Runtime} {out : NodeOutput} : HandedOver running rt out [] rt out
  | cons {rt rt₁ rt' : Runtime} {out out₁ out' : NodeOutput} {p : Packet} {packets : List Packet} {ok : Bool}
      {active : Option NodeOutput} (enqueued : Enqueued rt out running .ethOutput p (rt₁, out₁, ok))
      (rest : HandedOver running { rt₁ with activeOutput := active } out₁ packets rt' out') :
      HandedOver running rt out (p :: packets) rt' out'

theorem Enqueued.ok {running : List SlotId} {out : NodeOutput} {node : NodeId} {res : Runtime × NodeOutput × Bool}
    (h : Enqueued rt out running node p res) (hok : GraphOk rt.graph out running) : GraphOk res.1.graph res.2.1 running := by
  cases h with
  | accepted hok' _ _ => exact hok'
  | refused _ => exact hok.congr rfl rfl

theorem handBack_active (submit : Submit) (packets : List Packet) {running : List SlotId} {out : NodeOutput}
    (hok : GraphOk rt.graph out running) (hactive : rt.activeOutput = some out) : ∃ rt' out',
      handBack submit packets rt = some (⟨⟩, rt') ∧ rt'.activeOutput = some out' ∧ HandedOver running rt out packets rt' out' := by
  have hrun : handBack submit packets rt = handOver packets rt := by
    change (if rt.activeOutput.isSome = true then handOver packets else submit .ethOutput packets) rt = _
    rw [hactive]
    rfl
  rw [hrun]
  clear hrun
  induction packets generalizing rt out with
  | nil => exact ⟨rt, out, rfl, hactive, .nil⟩
  | cons p packets ih =>
    have henqueued := nodeEnqueue_enqueued hok .ethOutput p
    let rt₁ : Runtime := { (nodeEnqueue rt out .ethOutput p).1 with activeOutput := some (nodeEnqueue rt out .ethOutput p).2.1 }
    have hok₁ : GraphOk rt₁.graph (nodeEnqueue rt out .ethOutput p).2.1 running := henqueued.ok hok
    obtain ⟨rt', out', hrun, hactive', hrest⟩ := ih hok₁ rfl
    refine ⟨rt', out', ?_, hactive', .cons henqueued hrest⟩
    rw [handOver_cons, emit_eq rt hactive]
    exact hrun

theorem seeded_handedOver (packets : List Packet) {running : List SlotId} {out : NodeOutput}
    (hok : GraphOk rt.graph out running) : HandedOver running rt out packets
      (packets.foldl (fun s p => let r := nodeEnqueue s.1 s.2 .ethOutput p; (r.1, r.2.1)) (rt, out)).1
      (packets.foldl (fun s p => let r := nodeEnqueue s.1 s.2 .ethOutput p; (r.1, r.2.1)) (rt, out)).2 := by
  induction packets generalizing rt out with
  | nil => exact .nil
  | cons p packets ih =>
    have henqueued := nodeEnqueue_enqueued hok .ethOutput p
    exact .cons henqueued (ih (henqueued.ok hok))

theorem handBack_idle (fuel : ℕ) {packets : List Packet} (hidle : IdleGraph rt) (hlength : packets.length ≤ graphFrameSize) :
    ∃ rt' out', HandedOver [] rt {} packets rt' out' ∧
      handBack (graphSubmit fuel) packets rt = drain fuel (flushPending rt' out' .ethOutput).1 := by
  refine ⟨_, _, seeded_handedOver packets hidle.graphOk, ?_⟩
  change (if rt.activeOutput.isSome = true then handOver packets else graphSubmit fuel .ethOutput packets) rt = _
  rw [hidle.active]
  exact if_neg (Nat.not_lt.mpr hlength)

theorem releaseLoop_first {indices before behind : List (Fin neighbourPendingMax)} (hsplit : indices = before ++ i :: behind)
    (hbefore : ∀ j ∈ before, ¬ Awaits dev ip (rt.pendingNeighbours j)) (hawaits : Awaits dev ip (rt.pendingNeighbours i)) :
    indices.forM (releaseEntry submit dev ip) rt =
      (do releasePending submit i; behind.forM (releaseEntry submit dev ip) : GraphM PUnit) rt := by
  subst hsplit
  induction before with
  | nil =>
    change Option.bind ((if Awaits dev ip (rt.pendingNeighbours i) then releasePending submit i else pure PUnit.unit) rt)
      (fun r => behind.forM (releaseEntry submit dev ip) r.2) = _
    rw [if_pos hawaits]
    rfl
  | cons j before ih =>
    change Option.bind (releaseEntry submit dev ip j rt) (fun r => (before ++ i :: behind).forM (releaseEntry submit dev ip) r.2) = _
    rw [releaseEntry_of_not submit (hbefore j List.mem_cons_self)]
    exact ih fun k hk => hbefore k (List.mem_cons_of_mem j hk)

def releaseLearned (submit : Submit) (dev : Word16) (ip : Word) (mac : Mac) (i : Fin neighbourPendingMax)
    (behind : List (Fin neighbourPendingMax)) (rt : Runtime) : Option (Except Errno Unit × Runtime) :=
  (do
    handBack submit (rt.pendingNeighbours i).packets
    behind.forM (releaseEntry submit dev ip)
    pure (.ok ()) : GraphM (Except Errno Unit))
    { rt with
      neighbours := (neighbourLearn rt.neighbours dev ip mac).1
      pendingNeighbours := Function.update rt.pendingNeighbours i {} }

theorem neighbourUpdate_releases (submit : Submit) {mac : Mac} (hok : PendingOk r rt.pendingNeighbours)
    (hawaits : Awaits (BitVec.ofNat 16 netifId) ip (rt.pendingNeighbours i))
    (hlearned : (neighbourLearn rt.neighbours (BitVec.ofNat 16 netifId) ip mac).2 = .ok ()) :
    ∃ behind, neighbourUpdate submit netifId ip mac rt = releaseLearned submit (BitVec.ofNat 16 netifId) ip mac i behind rt := by
  obtain ⟨before, behind, hsplit⟩ := List.append_of_mem (List.mem_finRange i)
  have hnodup := List.nodup_finRange neighbourPendingMax
  rw [hsplit, List.nodup_append] at hnodup
  have hbefore (j : Fin neighbourPendingMax) (hj : j ∈ before) :
      ¬ Awaits (BitVec.ofNat 16 netifId) ip (rt.pendingNeighbours j) := fun h =>
    hnodup.2.2 j hj i List.mem_cons_self (hok.apart h hawaits)
  refine ⟨behind, ?_⟩
  let rt₁ : Runtime := { rt with neighbours := (neighbourLearn rt.neighbours (BitVec.ofNat 16 netifId) ip mac).1 }
  have hloop : (List.finRange neighbourPendingMax).forM (releaseEntry submit (BitVec.ofNat 16 netifId) ip) rt₁ =
      (do releasePending submit i; behind.forM (releaseEntry submit (BitVec.ofNat 16 netifId) ip) : GraphM PUnit) rt₁ :=
    releaseLoop_first hsplit hbefore hawaits
  rw [neighbourUpdate_learned hlearned, bind_run, hloop, bind_run, releasePending_eq, releaseLearned, bind_run]
  exact Option.bind_assoc ..

theorem neighbourTickEntry_releases (submit : Submit) (now : ℕ) {port : PortState} {mac : Mac}
    (hwaiting : (rt.pendingNeighbours i).packets ≠ [])
    (hport : (netifById rt.routing (rt.pendingNeighbours i).netifId.toNat).filter PortState.up = some port)
    (hfound : neighbourLookup rt.neighbours (rt.pendingNeighbours i).netifId (rt.pendingNeighbours i).ip = .ok mac) :
    neighbourTickEntry submit now i rt =
      handBack submit (rt.pendingNeighbours i).packets (rt.withPending (Function.update rt.pendingNeighbours i {})) := by
  rw [neighbourTickEntry, get_bind_run]
  dsimp only
  rw [if_pos hwaiting, hport, hfound]
  exact releasePending_eq submit i rt

theorem neighbourSetEntry_learns {mac : Mac} {replace : Bool}
    (h : neighbourSetEntry submit dev ip mac replace rt = some (.ok (), rt')) : ∃ t,
      neighbourUpdate submit dev.toNat ip mac { rt with neighbours := t } = some (.ok (), rt') ∧
      (neighbourLearn t (BitVec.ofNat 16 dev.toNat) ip mac).2 = .ok () := by
  have hresult {t : NeighbourTable} {result : Except Errno Unit}
      (h : neighbourUpdate submit dev.toNat ip mac { rt with neighbours := t } = some (result, rt')) :
      (neighbourLearn t (BitVec.ofNat 16 dev.toNat) ip mac).2 = result := by
    rw [neighbourUpdate, get_bind_run] at h
    dsimp only at h
    rw [bind_run, Option.bind_eq_some_iff] at h
    obtain ⟨⟨_, rt₁⟩, -, h⟩ := h
    dsimp only at h
    split at h
    · rw [bind_run, Option.bind_eq_some_iff] at h
      obtain ⟨⟨_, rt₂⟩, -, h⟩ := h
      exact (Prod.mk.inj (Option.some.inj h)).1
    · exact (Prod.mk.inj (Option.some.inj h)).1
  have hsafe : Safe (fun s => s = rt) (neighbourSetEntry submit dev ip mac replace) fun result s => result = .ok () → ∃ t,
      neighbourUpdate submit dev.toNat ip mac { rt with neighbours := t } = some (result, s) := by
    have hfailed (e : Errno) : Safe (fun s => s = rt) (pure (.error e) : GraphM (Except Errno Unit))
        fun result s => result = .ok () → ∃ t,
          neighbourUpdate submit dev.toNat ip mac { rt with neighbours := t } = some (result, s) := Safe.pure nofun
    apply Safe.get_bind
    rintro _ rfl
    apply Safe.ite
    · exact fun _ => hfailed _
    intro _
    split
    · exact hfailed _
    apply Safe.ite
    · exact fun _ => hfailed _
    intro _
    exact ⟨fun _ _ _ hs hrun _ => ⟨_, by subst hs; exact hrun⟩⟩
  obtain ⟨t, hrun⟩ := hsafe.post rt _ rt' rfl h rfl
  exact ⟨t, hrun, hresult hrun⟩

end HandOver

/-- The queues are unique and bounded in every reachable state, with the packets in the order in which they came, and every
function that takes packets in or gives them back keeps that order. -/
theorem pending_queues_unique_bounded_fifo :
    (∀ rt, RuntimeReachable rt → PendingOk rt.routing rt.pendingNeighbours ∧
      ∀ i, (rt.pendingNeighbours i).packets.Sublist (arrivals (rt.pendingLog i))) ∧
    (∀ submit netifId (p : Packet) now rt rt', rt.activeOutput.isSome = true →
      neighbourQueue submit netifId p now rt = some (.none, rt') → ∃ i, Appended (BitVec.ofNat 16 netifId) p rt rt' i) ∧
    (∀ submit netifId p now rt reason rt', neighbourQueue submit netifId p now rt = some (reason, rt') →
      reason ≠ .none → rt' = rt) ∧
    (∀ submit s error rt, s.tcp.state ≠ .closed → ∃ rt', (tcpFail s error).2.forM (tcpEffect submit) rt = some (⟨⟩, rt') ∧
      rt'.pendingNeighbours = fun i => keepOthers s.localAddr s.remoteAddr (rt.pendingNeighbours i)) ∧
    (∀ submit netifId ip mac i rt, PendingOk rt.routing rt.pendingNeighbours →
      Awaits (BitVec.ofNat 16 netifId) ip (rt.pendingNeighbours i) →
      (neighbourLearn rt.neighbours (BitVec.ofNat 16 netifId) ip mac).2 = .ok () →
      ∃ behind, neighbourUpdate submit netifId ip mac rt = releaseLearned submit (BitVec.ofNat 16 netifId) ip mac i behind rt) ∧
    (∀ submit dev ip mac replace rt rt', neighbourSetEntry submit dev ip mac replace rt = some (.ok (), rt') → ∃ t,
      neighbourUpdate submit dev.toNat ip mac { rt with neighbours := t } = some (.ok (), rt') ∧
      (neighbourLearn t (BitVec.ofNat 16 dev.toNat) ip mac).2 = .ok ()) ∧
    (∀ submit now i rt port mac, (rt.pendingNeighbours i).packets ≠ [] →
      (netifById rt.routing (rt.pendingNeighbours i).netifId.toNat).filter PortState.up = some port →
      neighbourLookup rt.neighbours (rt.pendingNeighbours i).netifId (rt.pendingNeighbours i).ip = .ok mac →
      neighbourTickEntry submit now i rt =
        handBack submit (rt.pendingNeighbours i).packets (rt.withPending (Function.update rt.pendingNeighbours i {}))) ∧
    (∀ submit packets rt out running, GraphOk rt.graph out running → rt.activeOutput = some out → ∃ rt' out',
      handBack submit packets rt = some (⟨⟩, rt') ∧ rt'.activeOutput = some out' ∧ HandedOver running rt out packets rt' out') ∧
    (∀ fuel (packets : List Packet) rt, IdleGraph rt → packets.length ≤ neighbourPendingQueueMax → ∃ rt' out',
      HandedOver [] rt {} packets rt' out' ∧
      handBack (graphSubmit fuel) packets rt = drain fuel (flushPending rt' out' .ethOutput).1) := by
  refine ⟨fun _ h => ⟨h.pendingOk, h.inArrivalOrder⟩, fun _ _ _ _ _ _ hactive h => neighbourQueue_appends hactive h, ?_, ?_, ?_,
    ?_, ?_, ?_, ?_⟩
  · exact fun _ _ _ _ _ _ _ h hreason => neighbourQueue_refused h hreason
  · intro submit s error rt hstate
    obtain ⟨rt₁, hrun, hpending⟩ := cancelQueued_run s.localAddr s.remoteAddr rt
    have heffects : (tcpFail s error).2 = [.cancelQueued s.localAddr s.remoteAddr, .count .closed] := by
      unfold tcpFail
      dsimp only
      rw [if_pos hstate]
      split
      · rfl
      · rfl
    rw [heffects]
    change ∃ rt', Option.bind (cancelQueued s.localAddr s.remoteAddr rt) _ = _ ∧ _
    rw [hrun]
    exact ⟨_, rfl, hpending⟩
  · exact fun submit _ _ _ _ _ hok hawaits hlearned => neighbourUpdate_releases submit hok hawaits hlearned
  · exact fun _ _ _ _ _ _ _ h => neighbourSetEntry_learns h
  · exact fun submit now _ _ _ _ hwaiting hport hfound => neighbourTickEntry_releases submit now hwaiting hport hfound
  · exact fun submit packets _ _ _ hok hactive => handBack_active submit packets hok hactive
  · exact fun fuel _ _ hidle hlength => handBack_idle fuel hidle (hlength.trans (by decide))

end PulsarNetstack
