import PulsarNetstack.MonitorEvents

namespace PulsarNetstack

variable {names : List String} {s t : AdminSystem}

structure Exclusive (s : AdminSystem) : Prop where
  complete : s.control = .complete → s.state = .reply
  schedule : s.control = .schedule → s.state = .control
  store (m : Mailbox) : s.control = .store m → s.state ≠ .worker
  worker : s.worker ≠ .outside → s.state = .worker

theorem JobRun.points {result : Except Errno Unit} (h : JobRun names s t result) :
    t.control = s.control ∧ t.state = s.state := by
  cases h <;> exact ⟨rfl, rfl⟩

theorem AdminStep.exclusive (h : Exclusive s) (hstep : AdminStep names s t) : Exclusive t := by
  obtain ⟨hcomplete, hschedule, hstore, hworker⟩ := h
  cases hstep with
  | workerJob job run =>
    obtain ⟨hcontrol, hstate⟩ := run.points
    have hmine := hworker (by rw [job]; decide)
    constructor <;> simp_all [AdminSystem.captured]
  | _ => constructor <;> simp_all [AdminSystem.record, AdminSystem.finish, AdminSystem.setClient, AdminSystem.setResult]

theorem AdminReachable.exclusive (h : AdminReachable names s) : Exclusive s := by
  induction h with
  | start => constructor <;> simp
  | step _ hstep ih => exact hstep.exclusive ih

/-- The two threads are never both at work on the mailbox, and a step that changes the job is one of the thread that
`state` gives it to. -/
theorem mailbox_exclusive (h : AdminReachable names s) : (s.control = .outside ∨ s.worker = .outside) ∧
    ∀ t, AdminStep names s t → t.service.job ≠ s.service.job →
      if s.state = .worker then s.worker = .job ∧ s.control = .outside else s.control ≠ .outside ∧ s.worker = .outside := by
  obtain ⟨hcomplete, hschedule, hstore, hworker⟩ := h.exclusive
  have hcontrol : s.control ≠ .outside → s.state ≠ .worker := by
    cases hpoint : s.control with
    | outside => exact absurd rfl
    | complete => simp [hcomplete hpoint]
    | schedule => simp [hschedule hpoint]
    | store m => exact fun _ => hstore m hpoint
  have hboth : s.control = .outside ∨ s.worker = .outside := by
    by_contra! hnot
    exact hcontrol hnot.1 (hworker hnot.2)
  refine ⟨hboth, fun t hstep hjob => ?_⟩
  cases hstep with
  | workerJob job => simp_all
  | post point | reject point | exhausted point | finish point | start point | scan point => simp_all
  | _ => exact absurd rfl hjob

theorem mailbox_exclusive_starting : ∃ s t, AdminReachable ["tap0"] s ∧ AdminStep ["tap0"] s t ∧
    t.service.job ≠ s.service.job ∧ s.control ≠ .outside ∧ s.worker = .outside := by
  have hempty := monitorSystem_reachable.step (.loadEmpty rfl rfl)
  obtain ⟨hnext, hschedule⟩ := monitorSystem_schedules
  have hstep : AdminStep ["tap0"] { monitorSystem monitorClient with control := .schedule } _ :=
    .start rfl hnext rfl hschedule
  have hjob : ((monitorSystem monitorClient).service.start (clientSlot 0)).job ≠ (monitorSystem monitorClient).service.job :=
    fun h => absurd (congrArg (fun job => job.request.group) h) (by decide +kernel)
  exact ⟨_, _, hempty, hstep, hjob, (mailbox_exclusive hempty).2 _ hstep hjob⟩

end PulsarNetstack
