import PulsarNetstack.NeighbourQueues

namespace PulsarNetstack

open Program

variable {rt rt' : Runtime} {interval now : ℕ} {i : Fin neighbourPendingMax} {e : PendingNeighbour} {log : List PendingEvent}
  {submit : Submit} {J : Runtime → Prop}

section Log

def issued (times : List ℕ) : PendingEvent → List ℕ
  | .opened now => [now]
  | .asked now => times ++ [now]
  | .stored _ | .timedOut _ => times

def requestTimes (log : List PendingEvent) : List ℕ := log.foldl issued []

theorem requestTimes_snoc (log : List PendingEvent) (event : PendingEvent) :
    requestTimes (log ++ [event]) = issued (requestTimes log) event := by
  rw [requestTimes, List.foldl_append]
  rfl

/-- Each request but the first of an entry, and its timeout, comes the interval after the last request; the requests since
the entry was opened are at most `ARP_MAX_REQUESTS`, and that many before the timeout. -/
structure LogPaced (interval : ℕ) (log : List PendingEvent) : Prop where
  bounded {past : List PendingEvent} : past <+: log → (requestTimes past).length ≤ arpMaxRequests
  asked {past : List PendingEvent} {now : ℕ} : past ++ [.asked now] <+: log →
    ∃ last, (requestTimes past).getLast? = some last ∧ last + interval ≤ now
  timedOut {past : List PendingEvent} {now : ℕ} : past ++ [.timedOut now] <+: log →
    ∃ last, (requestTimes past).getLast? = some last ∧ last + interval ≤ now ∧ (requestTimes past).length = arpMaxRequests

theorem logPaced_nil (interval : ℕ) : LogPaced interval [] where
  bounded h := by
    rw [List.prefix_nil.mp h]
    exact Nat.zero_le _
  asked h := absurd (List.prefix_nil.mp h) (by simp)
  timedOut h := absurd (List.prefix_nil.mp h) (by simp)

theorem LogPaced.snoc (h : LogPaced interval log) {event : PendingEvent}
    (hbound : (issued (requestTimes log) event).length ≤ arpMaxRequests)
    (hasked : ∀ now, event = .asked now → ∃ last, (requestTimes log).getLast? = some last ∧ last + interval ≤ now)
    (htimedOut : ∀ now, event = .timedOut now → ∃ last, (requestTimes log).getLast? = some last ∧ last + interval ≤ now ∧
      (requestTimes log).length = arpMaxRequests) : LogPaced interval (log ++ [event]) where
  bounded hprefix := by
    obtain rfl | hprefix := List.prefix_concat_iff.mp hprefix
    · rw [requestTimes_snoc]
      exact hbound
    · exact h.bounded hprefix
  asked hprefix := by
    obtain hsame | hprefix := List.prefix_concat_iff.mp hprefix
    · obtain ⟨rfl, hevent⟩ := List.append_inj' hsame rfl
      exact hasked _ (List.singleton_inj.mp hevent).symm
    · exact h.asked hprefix
  timedOut hprefix := by
    obtain hsame | hprefix := List.prefix_concat_iff.mp hprefix
    · obtain ⟨rfl, hevent⟩ := List.append_inj' hsame rfl
      exact htimedOut _ (List.singleton_inj.mp hevent).symm
    · exact h.timedOut hprefix

theorem LogPaced.stored (h : LogPaced interval log) (p : Packet) : LogPaced interval (log ++ [.stored p]) :=
  h.snoc (h.bounded List.prefix_rfl) (fun _ he => by cases he) fun _ he => by cases he

theorem LogPaced.opened (h : LogPaced interval log) (now : ℕ) : LogPaced interval (log ++ [.opened now]) := by
  refine h.snoc ?_ (fun _ he => by cases he) fun _ he => by cases he
  exact Nat.le_add_left 1 2

end Log

section Changes

structure PacedEntry (rt : Runtime) (e : PendingNeighbour) (log : List PendingEvent) : Prop where
  paced : LogPaced (rt.world.hz * arpRetrySeconds) log
  waiting : e.packets ≠ [] → (requestTimes log).getLast? = some e.lastRequest ∧ (requestTimes log).length = e.requests ∧
    rt.HasRead e.lastRequest

theorem PacedEntry.clear (h : PacedEntry rt e log) : PacedEntry rt {} log := ⟨h.paced, fun hne => absurd rfl hne⟩

theorem PacedEntry.store (h : PacedEntry rt e log) (dev : Word16) (p : Packet) (hread : rt.HasRead now) :
    PacedEntry rt (storeIn e dev p now) (log ++ storeEvents e p now) := by
  unfold storeIn storeEvents
  by_cases hempty : e.packets = []
  · have hsplit : log ++ [.opened now, .stored p] = log ++ [.opened now] ++ [.stored p] := by
      rw [List.append_assoc]
      rfl
    rw [if_pos hempty, if_pos hempty, hsplit]
    refine ⟨(h.paced.opened now).stored p, fun _ => ?_⟩
    rw [requestTimes_snoc, requestTimes_snoc]
    exact ⟨rfl, rfl, hread⟩
  · rw [if_neg hempty, if_neg hempty]
    refine ⟨h.paced.stored p, fun _ => ?_⟩
    rw [requestTimes_snoc]
    exact h.waiting hempty

theorem sinceRequest_le (h : e.lastRequest ≤ now) (hdue : interval ≤ sinceRequest e now) : e.lastRequest + interval ≤ now := by
  unfold sinceRequest at hdue
  omega

theorem PacedEntry.ask (h : PacedEntry rt e log) (hwaiting : e.packets ≠ []) (hlast : e.lastRequest ≤ now)
    (hdue : rt.world.hz * arpRetrySeconds ≤ sinceRequest e now) (hmore : e.requests ≠ arpMaxRequests) (hread : rt.HasRead now) :
    PacedEntry rt { e with requests := e.requests + 1, lastRequest := now } (log ++ [.asked now]) := by
  obtain ⟨hrequest, hcount, -⟩ := h.waiting hwaiting
  have hbound := h.paced.bounded List.prefix_rfl
  have hlength : (issued (requestTimes log) (.asked now)).length = e.requests + 1 := by
    rw [issued, List.length_append, hcount]
    rfl
  refine ⟨h.paced.snoc ?_ (fun _ he => ?_) (fun _ he => by cases he), fun _ => ?_⟩
  · rw [hlength]
    exact Nat.lt_of_le_of_ne (hcount ▸ hbound) hmore
  · obtain rfl := PendingEvent.asked.inj he
    exact ⟨_, hrequest, sinceRequest_le hlast hdue⟩
  · rw [requestTimes_snoc]
    exact ⟨List.getLast?_concat .., hlength, hread⟩

theorem PacedEntry.timeout (h : PacedEntry rt e log) (hwaiting : e.packets ≠ []) (hlast : e.lastRequest ≤ now)
    (hdue : rt.world.hz * arpRetrySeconds ≤ sinceRequest e now) (hall : e.requests = arpMaxRequests) :
    PacedEntry rt {} (log ++ [.timedOut now]) := by
  obtain ⟨hrequest, hcount, -⟩ := h.waiting hwaiting
  refine ⟨h.paced.snoc (h.paced.bounded List.prefix_rfl) (fun _ he => by cases he) fun _ he => ?_, fun hne => absurd rfl hne⟩
  obtain rfl := PendingEvent.timedOut.inj he
  exact ⟨_, hrequest, sinceRequest_le hlast hdue, hcount.trans hall⟩

theorem PacedEntry.cancel (h : PacedEntry rt e log) (localAddr remoteAddr : SockAddr) :
    PacedEntry rt (keepOthers localAddr remoteAddr e) log := by
  obtain hnil | ⟨hkeep, hne⟩ := keepOthers_cases localAddr remoteAddr e
  · rw [hnil]
    exact h.clear
  · rw [hkeep]
    exact ⟨h.paced, fun _ => h.waiting fun hnil => hne (by rw [hnil]; rfl)⟩

def AllPaced (rt : Runtime) : Prop := ∀ i, PacedEntry rt (rt.pendingNeighbours i) (rt.pendingLog i)

theorem AllPaced.update (h : AllPaced rt) {events : List PendingEvent} (he : PacedEntry rt e (rt.pendingLog i ++ events))
    (j : Fin neighbourPendingMax) : PacedEntry rt (Function.update rt.pendingNeighbours i e j) (rt.noting i events j) := by
  unfold Runtime.noting
  by_cases hj : j = i
  · subst hj
    rw [Function.update_self, Function.update_self]
    exact he
  · rw [Function.update_of_ne hj, Function.update_of_ne hj]
    exact h j

theorem AllPaced.replace (h : AllPaced rt) (he : PacedEntry rt e (rt.pendingLog i)) (j : Fin neighbourPendingMax) :
    PacedEntry rt (Function.update rt.pendingNeighbours i e j) (rt.pendingLog j) := by
  rw [← rt.noting_nil i]
  refine h.update ?_ j
  rwa [List.append_nil]

def NotAhead (rt : Runtime) (i : Fin neighbourPendingMax) (now : ℕ) : Prop :=
  (rt.pendingNeighbours i).packets = [] ∨ (rt.pendingNeighbours i).lastRequest ≤ now

instance : Decidable (NotAhead rt i now) := by unfold NotAhead; infer_instance

theorem PendingChange.pacedEntry {queues : PendingQueues} {logs : PendingLogs} (h : PendingChange NotAhead rt queues logs)
    (hrt : AllPaced rt) (j : Fin neighbourPendingMax) : PacedEntry rt (queues j) (logs j) := by
  cases h with
  | store read => exact hrt.update ((hrt _).store _ _ read) j
  | ask tick read waiting due more =>
    exact hrt.update ((hrt _).ask waiting (tick.resolve_left waiting) due more read) j
  | release i => exact hrt.replace (hrt i).clear j
  | timeout tick _ waiting due last => exact hrt.update ((hrt _).timeout waiting (tick.resolve_left waiting) due last) j
  | discard i =>
    rw [rt.noting_nil i]
    exact hrt.replace (hrt i).clear j
  | cancel i localAddr remoteAddr => exact hrt.replace ((hrt i).cancel localAddr remoteAddr) j

theorem PacedEntry.moved {queues : PendingQueues} {logs : PendingLogs} (h : PacedEntry rt e log) (hmoved : Requeued rt queues logs rt') :
    PacedEntry rt' e log := by
  refine ⟨hmoved.world ▸ h.paced, fun hne => ?_⟩
  obtain ⟨hlast, hcount, hread⟩ := h.waiting hne
  exact ⟨hlast, hcount, hmoved.hasRead hread⟩

theorem allPaced_steady : SteadyQueues NotAhead AllPaced where
  still h hstill i := by
    rw [hstill.queues, hstill.logs]
    exact (h i).moved hstill
  change h hchange _ hmoved i := by
    rw [hmoved.queues, hmoved.logs]
    exact (hchange.pacedEntry h i).moved hmoved
  learn _ _ _ h i := ⟨(h i).paced, (h i).waiting⟩
  carriage := .any _
  activate _ _ h i := ⟨(h i).paced, (h i).waiting⟩
  relink _ _ h i := ⟨(h i).paced, (h i).waiting⟩
  edit _ h i := ⟨(h i).paced, (h i).waiting⟩

theorem Booted.allPaced (h : Booted rt) : AllPaced rt := by
  intro i
  rw [h.pending, h.log]
  exact ⟨logPaced_nil _, fun hne => absurd rfl hne⟩

end Changes

section Runs

def timelyScan (submit : Submit) (now : ℕ) : List (Fin neighbourPendingMax) → Runtime → Bool
  | [], _ => true
  | i :: rest, rt => decide (NotAhead rt i now) && (neighbourTickEntry submit now i rt).all fun r => timelyScan submit now rest r.2

theorem timelyScan_keeps {A : Runtime → Prop} {P : NodeId → Packet → Prop} (h : Parks NotAhead P submit A)
    (hread : ∀ rt, A rt → rt.HasRead now) {indices : List (Fin neighbourPendingMax)} (hrt : A rt)
    (hscan : timelyScan submit now indices rt = true)
    (hrun : indices.forM (neighbourTickEntry submit now) rt = some (⟨⟩, rt')) : A rt' := by
  induction indices generalizing rt with
  | nil =>
    obtain ⟨-, rfl⟩ := Prod.mk.inj (Option.some.inj hrun)
    exact hrt
  | cons i indices ih =>
    obtain ⟨htimely, hrest⟩ := Bool.and_eq_true_iff.mp hscan
    obtain ⟨⟨_, rt₁⟩, hentry, hrun⟩ := Option.bind_eq_some_iff.mp hrun
    rw [hentry] at hrest
    refine ih ?_ hrest hrun
    exact (h.neighbourTickEntry now i).post rt _ rt₁ ⟨hrt, hread rt hrt, of_decide_eq_true htimely⟩ hentry

def beforeTick (submit : Submit) (bursts : ℕ → List Buffer) : GraphM PUnit := do
  let rt ← get
  rt.routing.ports.forM fun port => do
    if port.configured ∧ port.up then receiveBurst submit port.portId ((bursts port.portId).take graphFrameSize)

theorem appStep_eq (submit : Submit) (bursts : ℕ → List Buffer) (timerNext : ℕ) (rt : Runtime) :
    appStep submit bursts timerNext rt = (beforeTick submit bursts rt).bind fun r =>
      (neighbourTick submit (r.2.world.time r.2.calls) { r.2 with calls := r.2.calls + 1 }).bind fun r' =>
        tcpTimerProgress submit timerNext (r.2.world.time r.2.calls) r'.2 := rfl

def timelyTick (submit : Submit) (bursts : ℕ → List Buffer) (rt : Runtime) : Bool :=
  (beforeTick submit bursts rt).all fun r => timelyScan submit (r.2.world.time r.2.calls) (List.finRange neighbourPendingMax)
    { r.2 with calls := r.2.calls + 1 }

theorem appStep_timely {fuel timerNext next : ℕ} {bursts : ℕ → List Buffer} (hJ : SteadyQueues NotAhead J)
    (htimely : timelyTick (graphSubmit fuel) bursts rt = true) (hrt : IdleGraph rt ∧ J rt)
    (hrun : appStep (graphSubmit fuel) bursts timerNext rt = some (next, rt')) : IdleGraph rt' ∧ J rt' := by
  rw [appStep_eq] at hrun
  obtain ⟨⟨_, rt₁⟩, hbefore, hrun⟩ := Option.bind_eq_some_iff.mp hrun
  obtain ⟨⟨_, rt₂⟩, htick, hafter⟩ := Option.bind_eq_some_iff.mp hrun
  dsimp only at htick hafter
  unfold timelyTick at htimely
  rw [hbefore] at htimely
  have hrt₁ : IdleGraph rt₁ ∧ J rt₁ := by
    have hsafe : Safe (fun rt => IdleGraph rt ∧ J rt) (beforeTick (graphSubmit fuel) bursts) fun _ rt => IdleGraph rt ∧ J rt :=
      Safe.peek fun rt _ => hJ.resting.receiveBursts hJ.anyGraph _ fun _ _ _ _ => trivial
    exact hsafe.post rt _ rt₁ hrt hbefore
  let now := rt₁.world.time rt₁.calls
  let start : Runtime := { rt₁ with calls := rt₁.calls + 1 }
  have hstart : IdleGraph start ∧ J start ∧ start.HasRead now := by
    refine ⟨⟨hrt₁.1.queue, hrt₁.1.slots, hrt₁.1.active⟩, ?_, rt₁.calls, Nat.lt_succ_self _, rfl⟩
    exact hJ.still hrt₁.2 ⟨rfl, rfl, rfl, rfl, rfl, Nat.le_succ _⟩
  have hrt₂ : IdleGraph rt₂ ∧ J rt₂ ∧ rt₂.HasRead now :=
    timelyScan_keeps (hJ.with_read now).resting (fun _ h => h.2.2) hstart htimely htick
  exact (hJ.resting.tcpTimerProgress timerNext now).post _ _ _ ⟨hrt₂.1, hrt₂.2.1⟩ hafter

inductive TimelyReachable : Runtime → Prop
  | boot {rt : Runtime} (h : Booted rt) : TimelyReachable rt
  | progress {rt rt' : Runtime} {fuel timerNext next : ℕ} {bursts : ℕ → List Buffer} (h : TimelyReachable rt)
      (received : ∀ portId, BurstOk (bursts portId)) (timely : timelyTick (graphSubmit fuel) bursts rt = true)
      (run : appStep (graphSubmit fuel) bursts timerNext rt = some (next, rt')) : TimelyReachable rt'
  | other {rt rt' : Runtime} (h : TimelyReachable rt) (step : OtherStep rt rt') : TimelyReachable rt'

theorem TimelyReachable.keeps (hJ : SteadyQueues NotAhead J) (hboot : ∀ rt, Booted rt → J rt) (h : TimelyReachable rt) :
    IdleGraph rt ∧ J rt := by
  induction h with
  | boot h => exact ⟨h.idle, hboot _ h⟩
  | progress _ _ timely run ih => exact appStep_timely hJ timely ih run
  | other _ step ih => exact hJ.otherStep step ih

theorem world_steady (ticking : Ticking) (w : World) :
    SteadyQueues ticking fun rt => rt.world = w where
  still h hstill := hstill.world.trans h
  change h _ _ hmoved := hmoved.world.trans h
  learn _ _ _ h := h
  carriage := .any _
  activate _ _ h := h
  relink _ _ h := h
  edit _ h := h

/-- As long as no tick meets an entry that was asked for after the time of the tick, all requests and timeouts are paced.
Such an entry has been opened during the tick: the others are not later than the next reading of the clock. -/
theorem arp_requests_paced (h : TimelyReachable rt) :
    (∀ i, LogPaced (rt.world.hz * arpRetrySeconds) (rt.pendingLog i)) ∧
      (Monotone rt.world.time → ∀ i n, rt.calls ≤ n → NotAhead rt i (rt.world.time n)) := by
  obtain ⟨-, hentries⟩ := h.keeps allPaced_steady fun _ hboot => hboot.allPaced
  refine ⟨fun i => (hentries i).paced, fun hclock i n hn => ?_⟩
  by_cases hempty : (rt.pendingNeighbours i).packets = []
  · exact .inl hempty
  · obtain ⟨-, -, m, hm, hlast⟩ := (hentries i).waiting hempty
    rw [NotAhead, hlast]
    exact .inr (hclock (hm.le.trans hn))

end Runs

section Forwarding

def strayBurst : ℕ → List Buffer := fun _ => [strayDatagram 5 188, strayDatagram 6 187]

theorem strayBurst_ok (portId : ℕ) : BurstOk (strayBurst portId) := by
  intro b hb _
  obtain rfl | hb := List.mem_cons.mp hb
  · rfl
  · rw [List.mem_singleton.mp hb]
    rfl

def forwardingRuntime (time : ℕ → ℕ) : Runtime :=
  { gatewayRuntime with ipv4Forwarding := true, world := { gatewayRuntime.world with time := time } }

theorem forwardingRuntime_booted (time : ℕ → ℕ) : Booted (forwardingRuntime time) := { gatewayRuntime_booted with }

def secondClock (n : ℕ) : ℕ := 1000 * n

def quietStep (rt : Runtime) : Option Runtime :=
  if timelyTick (graphSubmit 40) (fun _ => []) rt then (appStep (graphSubmit 40) (fun _ => []) 0 rt).map Prod.snd else none

theorem TimelyReachable.quietStep (h : TimelyReachable rt) (hrun : PulsarNetstack.quietStep rt = some rt') :
    TimelyReachable rt' := by
  unfold PulsarNetstack.quietStep at hrun
  split at hrun
  · rename_i htimely
    obtain ⟨⟨_, _⟩, hstep, rfl⟩ := Option.map_eq_some_iff.mp hrun
    exact h.progress (fun _ b hb => absurd hb List.not_mem_nil) htimely hstep
  · cases hrun

def silentRun : Option Runtime :=
  (runCall (graphSubmit 40) (.socket 2 2 0) (forwardingRuntime secondClock)).bind fun r =>
    (runCall (graphSubmit 40) (.sendto 1 [7] (some ⟨htonl 0x08080808, 53⟩)) r.2).bind fun r =>
      ((quietStep r.2).bind quietStep).bind quietStep

instance : NeZero neighbourPendingMax := ⟨by decide⟩

def PendingEvent.timeout? : PendingEvent → Option ℕ
  | .timedOut now => some now
  | _ => none

theorem arp_requests_paced_silent : ∃ rt, TimelyReachable rt ∧ LogPaced 1000 (rt.pendingLog 0) ∧
    requestTimes (rt.pendingLog 0) = [3000, 6000, 9000] ∧ (rt.pendingLog 0).filterMap PendingEvent.timeout? = [12000] := by
  have hfacts : (silentRun.map fun rt => (rt.world.hz * arpRetrySeconds, requestTimes (rt.pendingLog 0),
      (rt.pendingLog 0).filterMap PendingEvent.timeout?)) = some (1000, [3000, 6000, 9000], [12000]) := by decide +kernel
  obtain ⟨rt, hrun, hseen⟩ := Option.map_eq_some_iff.mp hfacts
  simp only [Prod.mk.injEq] at hseen
  obtain ⟨hinterval, htimes, htimeout⟩ := hseen
  obtain ⟨⟨_, rt₁⟩, hsocket, hrun⟩ := Option.bind_eq_some_iff.mp hrun
  obtain ⟨⟨_, rt₂⟩, hsendto, hrun⟩ := Option.bind_eq_some_iff.mp hrun
  obtain ⟨rt₃, hrun, hthird⟩ := Option.bind_eq_some_iff.mp hrun
  obtain ⟨rt₄, hfirst, hsecond⟩ := Option.bind_eq_some_iff.mp hrun
  have hsent : TimelyReachable rt₂ :=
    .other (.other (.boot (forwardingRuntime_booted secondClock)) (.call hsocket)) (.call hsendto)
  have hreachable := ((hsent.quietStep hfirst).quietStep hsecond).quietStep hthird
  have hpaced := (arp_requests_paced hreachable).1 0
  rw [hinterval] at hpaced
  exact ⟨rt, hreachable, hpaced, htimes, htimeout⟩

def runningClock (n : ℕ) : ℕ := n + 1000 * min 3 ((n - 1) / 3)

theorem runningClock_monotone : Monotone runningClock := by
  intro m n hmn
  unfold runningClock
  omega

def unansweredRun : Option (ℕ × Runtime) :=
  (appStep (graphSubmit 40) strayBurst 0 (forwardingRuntime runningClock)).bind fun r =>
    appStep (graphSubmit 40) (fun _ => []) r.1 r.2

/-- The second error creates an entry ahead of the scan and later than the time of the tick, which asks for it again. -/
theorem new_entry_asked_twice : ∃ rt rt', RuntimeReachable rt ∧ RuntimeStep rt rt' ∧ Monotone rt.world.time ∧
    rt.world.hz * arpRetrySeconds = 1000 ∧ (rt.pendingNeighbours 1).packets = [] ∧ (rt'.pendingNeighbours 1).packets ≠ [] ∧
    (rt'.pendingNeighbours 1).requests = 2 ∧
    ∀ n, rt.calls ≤ n → n < rt'.calls → 3010 ≤ rt.world.time n ∧ rt.world.time n < 3021 := by
  have hfacts : (unansweredRun.bind fun r => (appStep (graphSubmit 40) (fun _ => []) r.1 r.2).map fun r' =>
      (r.2.calls, (r.2.pendingNeighbours 1).packets.length, r'.2.calls, (r'.2.pendingNeighbours 1).packets.length,
        (r'.2.pendingNeighbours 1).requests)) = some (10, 0, 21, 1, 2) := by decide +kernel
  obtain ⟨⟨next, rt⟩, hwaiting, hlast⟩ := Option.bind_eq_some_iff.mp hfacts
  obtain ⟨⟨next', rt'⟩, hrun', hseen⟩ := Option.map_eq_some_iff.mp hlast
  obtain ⟨⟨next₁, rt₁⟩, hrun₁, hrun⟩ := Option.bind_eq_some_iff.mp hwaiting
  simp only [Prod.mk.injEq] at hseen
  obtain ⟨hcalls, hbefore, hcalls', hafter, hrequests⟩ := hseen
  have hnone : ∀ portId, BurstOk ((fun _ => [] : ℕ → List Buffer) portId) := fun _ => nofun
  have hbooted := forwardingRuntime_booted runningClock
  have hreachable₁ : RuntimeReachable rt₁ := (RuntimeReachable.boot hbooted).step (.progress strayBurst_ok hrun₁)
  have hworld₁ : rt₁.world = (forwardingRuntime runningClock).world :=
    (((world_steady _ _).progress _ _).post _ _ _ ⟨hbooted.idle, rfl⟩ hrun₁).2
  have hworld : rt.world = (forwardingRuntime runningClock).world :=
    (((world_steady _ _).progress _ _).post _ _ _ ⟨hreachable₁.idle, hworld₁⟩ hrun).2
  refine ⟨rt, rt', hreachable₁.step (.progress hnone hrun), .progress hnone hrun', ?_, ?_, List.length_eq_zero_iff.mp hbefore,
    fun hnil => ?_, hrequests, fun n hn hn' => ?_⟩
  · rw [hworld]
    exact runningClock_monotone
  · rw [hworld]
    rfl
  · rw [hnil] at hafter
    cases hafter
  · rw [hworld]
    change 3010 ≤ runningClock n ∧ runningClock n < 3021
    unfold runningClock
    omega

end Forwarding

end PulsarNetstack
