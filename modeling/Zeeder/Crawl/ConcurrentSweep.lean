import Zeeder.Crawl.ActivationProbe
import Zeeder.Foundation.TaskSet
import Zeeder.Foundation.Tally

/-! # The concurrent probes of one sweep

`observe_sweep` spawns one probe task for each sampled peer and joins them as they finish. Here the
tasks are a task set: they run side by side, finish in any order and may panic or be cancelled, and
every interleaving is a run. The sequential `observeSweep` is what such a run computes.

* **`acc_eq_observeSweep`, `exists_run_observeSweep`** — the runs that end compute `observeSweep`, and
  every completion order of it is one of them.
* **`sweepCountsEachProbeOnce`** — every run ends, and counts every probe once. -/

namespace Zeeder.Crawl

open Foundation Foundation.StepSystem

/-- One spawned probe: its peer, and how its task will end. -/
structure ProbeTask where
  /-- The peer that is probed. -/
  addr : PeerSocketAddr
  /-- What joining the task returns. -/
  joined : Except JoinError ConnectResult

/-- The outcome counted for a task. -/
def ProbeTask.outcome (target : ActivationTarget) (task : ProbeTask) : ProbeOutcome :=
  joinedOutcome target task.joined

/-- The body of the join loop. -/
def joinTask (target : ActivationTarget) (report : SweepReport) (task : ProbeTask) : SweepReport :=
  countProbe report (task.outcome target)

/-- The tasks of one sweep and its join loop. -/
def sweepTasks (target : ActivationTarget) (tasks : List ProbeTask) :
    StepSystem (TaskSetState ProbeTask SweepReport) (TaskSetLabel ProbeTask) :=
  taskSet (joinTask target) ⟨⟨tasks.length, 0⟩, []⟩ tasks

/-! ## Outcomes and their counters -/

/-- The list of outcomes is complete. -/
theorem ProbeOutcome.mem_all (outcome : ProbeOutcome) : outcome ∈ ProbeOutcome.all := by
  cases outcome <;> decide

/-- Outcomes have distinct labels. -/
theorem ProbeOutcome.label_injective : Function.Injective ProbeOutcome.label := by
  have hnodup : (ProbeOutcome.all.map ProbeOutcome.label).Nodup := by decide
  exact fun a b h => List.inj_on_of_nodup_map hnodup a.mem_all b.mem_all h

/-- No outcome is listed twice. -/
theorem ProbeOutcome.nodup_all : ProbeOutcome.all.Nodup := by decide

/-- The counters incremented by the join loop: one for each outcome, in order. -/
theorem foldl_countProbe_probesCounted (outcomes : List ProbeOutcome) (report : SweepReport) :
    (outcomes.foldl countProbe report).probesCounted
      = report.probesCounted ++ outcomes.map ProbeOutcome.label := by
  induction outcomes generalizing report with
  | nil => rw [List.map_nil, List.append_nil]; rfl
  | cons outcome outcomes ih =>
      rw [List.foldl_cons, ih, List.map_cons, countProbe, List.append_assoc]
      rfl

section Runs

variable {target : ActivationTarget} {tasks : List ProbeTask}
  {s₀ s : TaskSetState ProbeTask SweepReport} {ls : List (TaskSetLabel ProbeTask)}

/-- The join loop over tasks is the loop over their outcomes. -/
theorem foldl_joinTask (order : List ProbeTask) (report : SweepReport) :
    order.foldl (joinTask target) report
      = (order.map (ProbeTask.outcome target)).foldl countProbe report := by
  rw [List.foldl_map]
  rfl

/-- **A finished run has counted the tasks' outcomes in some order.** -/
theorem exists_order_of_over (hreach : (sweepTasks target tasks).Reachable s) (hover : s.Over) :
    ∃ outcomes : List ProbeOutcome, outcomes.Perm (tasks.map (ProbeTask.outcome target)) ∧
      s.acc = outcomes.foldl countProbe ⟨⟨tasks.length, 0⟩, []⟩ := by
  obtain ⟨s₀, ls, hinit, hrun⟩ := hreach
  obtain ⟨hperm, hacc⟩ := foldl_of_over hinit hrun hover
  exact ⟨_, hperm.map _, hacc.trans (foldl_joinTask _ _)⟩

/-- The evidence of a finished run: the tasks, and the ready ones among them. -/
theorem evidence_of_over (hreach : (sweepTasks target tasks).Reachable s) (hover : s.Over) :
    s.acc.evidence
      = ⟨tasks.length, tasks.countP fun task => decide (task.outcome target = .ready)⟩ := by
  obtain ⟨outcomes, hperm, hacc⟩ := exists_order_of_over hreach hover
  rw [hacc, foldl_countProbe_evidence, hperm.count_eq, Nat.zero_add, List.count, List.countP_map]
  rfl

/-- The counters a finished run has incremented: the outcomes' labels, in some order. -/
theorem probesCounted_of_over (hreach : (sweepTasks target tasks).Reachable s) (hover : s.Over) :
    s.acc.probesCounted.Perm ((tasks.map (ProbeTask.outcome target)).map ProbeOutcome.label) := by
  obtain ⟨outcomes, hperm, hacc⟩ := exists_order_of_over hreach hover
  rw [hacc, foldl_countProbe_probesCounted, List.nil_append]
  exact hperm.map _

/-- **A finished run computes `observeSweep`** in some completion order. -/
theorem acc_eq_observeSweep {sampledPeers : List PeerSocketAddr}
    {probe : PeerSocketAddr → Except JoinError ConnectResult}
    (hreach : (sweepTasks target (sampledPeers.map fun addr => ⟨addr, probe addr⟩)).Reachable s)
    (hover : s.Over) :
    ∃ completion, s.acc = observeSweep target sampledPeers probe completion := by
  obtain ⟨s₀, ls, hinit, hrun⟩ := hreach
  obtain ⟨hperm, hacc⟩ := foldl_of_over hinit hrun hover
  have hjoined : ((joinedTasks ls).map ProbeTask.joined).Perm (sampledPeers.map probe) := by
    have := hperm.map ProbeTask.joined
    rwa [List.map_map] at this
  obtain ⟨completion, hcompletion⟩ := Shuffle.exists_apply_eq hjoined
  refine ⟨completion, ?_⟩
  rw [hacc, foldl_joinTask, observeSweep, hcompletion, List.map_map, List.length_map]
  rfl

/-- **Every completion order is a run**: what `observeSweep` returns, some finished run computes. -/
theorem exists_run_observeSweep (target : ActivationTarget) (sampledPeers : List PeerSocketAddr)
    (probe : PeerSocketAddr → Except JoinError ConnectResult)
    (completion : Shuffle (Except JoinError ConnectResult)) :
    ∃ s, (sweepTasks target (sampledPeers.map fun addr => ⟨addr, probe addr⟩)).Reachable s ∧
      s.Over ∧ s.acc = observeSweep target sampledPeers probe completion := by
  let tasks : List ProbeTask := sampledPeers.map fun addr => ⟨addr, probe addr⟩
  have hresults : (completion.apply (sampledPeers.map probe)).Perm (tasks.map ProbeTask.joined) := by
    rw [List.map_map]
    exact completion.perm _
  -- an order of the results is an order of the tasks
  obtain ⟨order, hjoined, hperm⟩ :=
    (congrFun₂ (List.eq_map_comp_perm ProbeTask.joined) _ _).mpr hresults
  obtain ⟨ls, hrun⟩ := exists_run_of_perm (joinTask target) ⟨⟨tasks.length, 0⟩, []⟩ hperm
  refine ⟨_, ⟨_, ls, rfl, hrun⟩, ⟨rfl, rfl, rfl⟩, ?_⟩
  rw [foldl_joinTask, observeSweep, hjoined, List.map_map, List.length_map]
  rfl

/-- The increments of one outcome's counter are the tasks with that outcome. -/
theorem count_label_of_over (hreach : (sweepTasks target tasks).Reachable s) (hover : s.Over)
    (outcome : ProbeOutcome) :
    s.acc.probesCounted.count outcome.label
      = tasks.countP fun task => decide (task.outcome target = outcome) := by
  rw [(probesCounted_of_over hreach hover).count_eq,
    List.count_map_of_injective _ _ ProbeOutcome.label_injective, List.count, List.countP_map]
  rfl

/-- The increments over all outcomes' counters add up to the number of tasks. -/
theorem sum_count_label_of_over (hreach : (sweepTasks target tasks).Reachable s) (hover : s.Over) :
    (ProbeOutcome.all.map fun outcome => s.acc.probesCounted.count outcome.label).sum
      = tasks.length := by
  rw [← List.length_map (f := ProbeTask.outcome target),
    ← sum_map_count_eq_length ProbeOutcome.nodup_all ProbeOutcome.mem_all]
  congr 1
  refine List.map_congr_left fun outcome _ => ?_
  rw [(probesCounted_of_over hreach hover).count_eq,
    List.count_map_of_injective _ _ ProbeOutcome.label_injective]

end Runs

/-- **Each probe is counted once, in any completion order.** For every list of tasks, whatever each
ends in: no run gets stuck before it is over, and none takes more than three steps for each task. When
a run is over, the total is the number of sampled peers and the ready count is the number of ready
outcomes; every outcome's counter was incremented once for each task with that outcome, in sum as
often as there are sampled peers; hence all completion orders give the same evidence and the same
increments. A sample that the sampler can produce has at most 64 peers. -/
theorem sweepCountsEachProbeOnce (target : ActivationTarget) (tasks : List ProbeTask) :
    (∀ s, (sweepTasks target tasks).Reachable s → ¬ s.Over →
      ∃ l t, (sweepTasks target tasks).Step s l t) ∧
    (∀ s₀ ls s, (sweepTasks target tasks).Init s₀ → (sweepTasks target tasks).Run s₀ ls s →
      ls.length ≤ 3 * tasks.length) ∧
    (∀ s, (sweepTasks target tasks).Reachable s → s.Over →
      s.acc.evidence
        = ⟨tasks.length, tasks.countP fun task => decide (task.outcome target = .ready)⟩ ∧
      (∀ outcome : ProbeOutcome, s.acc.probesCounted.count outcome.label
        = tasks.countP fun task => decide (task.outcome target = outcome)) ∧
      s.acc.probesCounted.length = tasks.length ∧
      (ProbeOutcome.all.map fun outcome => s.acc.probesCounted.count outcome.label).sum
        = s.acc.evidence.totalGroups ∧
      s.acc.evidence.readyGroups ≤ s.acc.evidence.totalGroups) ∧
    (∀ s t, (sweepTasks target tasks).Reachable s → (sweepTasks target tasks).Reachable t →
      s.Over → t.Over →
      s.acc.evidence = t.acc.evidence ∧ s.acc.probesCounted.Perm t.acc.probesCounted) ∧
    (∀ order candidates,
      tasks.map ProbeTask.addr = sampleNetworkGroupCandidates order candidates →
      ∀ s, (sweepTasks target tasks).Reachable s → s.Over → s.acc.evidence.totalGroups ≤ 64) := by
  refine ⟨fun s _ hover => step_of_not_over hover, ?_, ?_, ?_, ?_⟩
  · intro s₀ ls s hinit hrun
    exact (Nat.le_add_right _ _).trans (run_taskSet_length hinit hrun).le
  · intro s hreach hover
    have hevidence := evidence_of_over hreach hover
    refine ⟨hevidence, count_label_of_over hreach hover, ?_, ?_, ?_⟩
    · rw [(probesCounted_of_over hreach hover).length_eq, List.length_map, List.length_map]
    · rw [sum_count_label_of_over hreach hover, hevidence]
    · rw [hevidence]
      exact List.countP_le_length
  · intro s t hs ht hsover htover
    refine ⟨(evidence_of_over hs hsover).trans (evidence_of_over ht htover).symm, ?_⟩
    exact (probesCounted_of_over hs hsover).trans (probesCounted_of_over ht htover).symm
  · intro order candidates hsample s hreach hover
    rw [evidence_of_over hreach hover, ← List.length_map (f := ProbeTask.addr), hsample]
    exact (sample_isGroupSample order candidates).length_le

/-! ## Three probes -/

/-- A ready probe, one whose task panics and one that times out. -/
def exampleTasks : List ProbeTask :=
  [⟨⟨.v4 ⟨1, 1, 0, 1⟩, 8233⟩, .ok (.client ⟨⟨1100⟩, ⟨20⟩, ⟨5⟩⟩)⟩,
    ⟨⟨.v4 ⟨1, 2, 0, 1⟩, 8233⟩, .error ⟨"panicked"⟩⟩,
    ⟨⟨.v4 ⟨1, 3, 0, 1⟩, 8233⟩, .ok .elapsed⟩]

/-- Joined in the opposite order, the three probes leave one ready group of three, and one increment
of the counter for failed tasks. -/
theorem sweepCountsEachProbeOnce_exampleTasks :
    ∃ s, (sweepTasks (.latest exampleNetwork) exampleTasks).Reachable s ∧
      s.acc.evidence = ⟨3, 1⟩ ∧ s.acc.probesCounted.count "probe_task_failed" = 1 := by
  obtain ⟨ls, hrun⟩ := exists_run_of_perm (joinTask (.latest exampleNetwork))
    ⟨⟨exampleTasks.length, 0⟩, []⟩ (List.reverse_perm exampleTasks)
  have hreach : (sweepTasks (.latest exampleNetwork) exampleTasks).Reachable _ := ⟨_, ls, rfl, hrun⟩
  have h := (sweepCountsEachProbeOnce (.latest exampleNetwork) exampleTasks).2.2.1 _ hreach
    ⟨rfl, rfl, rfl⟩
  exact ⟨_, hreach, h.1.trans (by decide), (h.2.1 .probeTaskFailed).trans (by decide)⟩

end Zeeder.Crawl
