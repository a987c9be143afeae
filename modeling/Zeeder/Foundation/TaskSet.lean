import Zeeder.Foundation.Shuffle
import Zeeder.Foundation.StepSystem
import Mathlib.Algebra.Order.Group.Multiset
import Mathlib.Tactic.Abel

/-! # A set of concurrent tasks and its join loop

A loop spawns a list of tasks; the tasks run concurrently and finish in any order, also while others
are still being spawned; a second loop then joins finished tasks one by one, folding each into an
accumulator, until none is left. Every interleaving of the three is a run.

* **`run_taskSet_acc`, `run_taskSet_tasks`** — along a run, the accumulator is the fold over the tasks
  joined, and no task is lost or made up.
* **`foldl_of_over`** — when the loop ends, the tasks were folded in some order, each once.
* **`step_of_not_over`, `run_taskSet_length`** — the loop never gets stuck, and it ends. -/

namespace Zeeder.Foundation

open StepSystem

universe u v

variable {τ : Type u} {β : Type v}

/-- Where each task is, and what the join loop has accumulated. -/
structure TaskSetState (τ : Type u) (β : Type v) where
  /-- Tasks the spawning loop has not reached. -/
  unspawned : List τ
  /-- Tasks spawned and not finished. -/
  running : List τ
  /-- Tasks finished and not joined. -/
  finished : List τ
  /-- What the join loop has accumulated. -/
  acc : β

/-- The join loop is over: everything was spawned, and nothing is left to join. -/
def TaskSetState.Over (s : TaskSetState τ β) : Prop :=
  s.unspawned = [] ∧ s.running = [] ∧ s.finished = []

/-- How many steps are left. -/
def TaskSetState.stepsLeft (s : TaskSetState τ β) : ℕ :=
  3 * s.unspawned.length + 2 * s.running.length + s.finished.length

/-- The steps of a task set. -/
inductive TaskSetLabel (τ : Type u) where
  /-- The spawning loop spawns its next task. -/
  | spawn (task : τ)
  /-- A running task finishes. -/
  | finish (task : τ)
  /-- The join loop takes a finished task. -/
  | join (task : τ)

/-- The task that a step joins. -/
def TaskSetLabel.joined? : TaskSetLabel τ → Option τ
  | .join task => some task
  | _ => none

/-- The tasks joined in a run, in order. -/
def joinedTasks (ls : List (TaskSetLabel τ)) : List τ := ls.filterMap TaskSetLabel.joined?

/-- One step of a task set whose join loop folds with `f`. -/
inductive TaskSetStep (f : β → τ → β) :
    TaskSetState τ β → TaskSetLabel τ → TaskSetState τ β → Prop
  /-- Spawn the next task. -/
  | spawn (task : τ) (unspawned running finished : List τ) (acc : β) :
      TaskSetStep f ⟨task :: unspawned, running, finished, acc⟩ (.spawn task)
        ⟨unspawned, running ++ [task], finished, acc⟩
  /-- Any running task finishes. -/
  | finish (task : τ) (unspawned before after finished : List τ) (acc : β) :
      TaskSetStep f ⟨unspawned, before ++ task :: after, finished, acc⟩ (.finish task)
        ⟨unspawned, before ++ after, finished ++ [task], acc⟩
  /-- Once all are spawned, any finished task is joined. -/
  | join (task : τ) (running before after : List τ) (acc : β) :
      TaskSetStep f ⟨[], running, before ++ task :: after, acc⟩ (.join task)
        ⟨[], running, before ++ after, f acc task⟩

/-- The task set of a list of tasks, folding from `init`. -/
def taskSet (f : β → τ → β) (init : β) (tasks : List τ) :
    StepSystem (TaskSetState τ β) (TaskSetLabel τ) where
  Init s := s = ⟨tasks, [], [], init⟩
  Step := TaskSetStep f

section Runs

variable {f : β → τ → β} {init : β} {tasks : List τ} {s₀ s : TaskSetState τ β}
  {ls : List (TaskSetLabel τ)}

theorem joinedTasks_concat (ls : List (TaskSetLabel τ)) (l : TaskSetLabel τ) :
    joinedTasks (ls ++ [l]) = joinedTasks ls ++ l.joined?.toList := by
  unfold joinedTasks
  rw [List.filterMap_append]
  cases h : l.joined? <;> simp [h]

/-- **The accumulator is the fold over the tasks joined.** -/
theorem run_taskSet_acc (hinit : (taskSet f init tasks).Init s₀)
    (hrun : (taskSet f init tasks).Run s₀ ls s) : s.acc = (joinedTasks ls).foldl f init := by
  induction hrun with
  | nil => rw [hinit]; rfl
  | snoc _ hstep ih =>
      rw [joinedTasks_concat]
      cases hstep with
      | spawn => simpa [TaskSetLabel.joined?] using ih
      | finish => simpa [TaskSetLabel.joined?] using ih
      | join task running before after acc =>
          have hacc : acc = (joinedTasks _).foldl f init := ih
          simp [TaskSetLabel.joined?, hacc]

/-- A task counts once wherever it stands in a list. -/
theorem coe_append_cons (task : τ) (before after : List τ) :
    ((before ++ task :: after : List τ) : Multiset τ) = {task} + (before ++ after : List τ) := by
  rw [Multiset.singleton_add, Multiset.cons_coe, Multiset.coe_eq_coe]
  exact List.perm_middle

/-- **No task is lost or made up**: each is unspawned, running, finished or joined. -/
theorem run_taskSet_tasks (hinit : (taskSet f init tasks).Init s₀)
    (hrun : (taskSet f init tasks).Run s₀ ls s) :
    (s.unspawned : Multiset τ) + s.running + s.finished + joinedTasks ls = tasks := by
  induction hrun with
  | nil => rw [hinit]; simp [joinedTasks]
  | snoc _ hstep ih =>
      rw [joinedTasks_concat, ← ih]
      -- the step moves one task from one of the four places to the next
      cases hstep with
      | spawn task unspawned running finished acc =>
          simp only [TaskSetLabel.joined?, Option.toList_none, List.append_nil,
            coe_append_cons task running [], ← Multiset.cons_coe task unspawned,
            ← Multiset.singleton_add]
          abel
      | finish task unspawned before after finished acc =>
          simp only [TaskSetLabel.joined?, Option.toList_none, List.append_nil, coe_append_cons]
          abel
      | join task running before after acc =>
          simp only [TaskSetLabel.joined?, Option.toList_some, List.append_nil, coe_append_cons]
          abel

/-- **The steps taken and the steps left add up**: three for each task. -/
theorem run_taskSet_length (hinit : (taskSet f init tasks).Init s₀)
    (hrun : (taskSet f init tasks).Run s₀ ls s) : ls.length + s.stepsLeft = 3 * tasks.length := by
  induction hrun with
  | nil => rw [hinit]; simp [TaskSetState.stepsLeft]
  | snoc _ hstep ih =>
      rw [← ih, List.length_append, List.length_singleton]
      cases hstep with
      | spawn => simp only [TaskSetState.stepsLeft, List.length_cons, List.length_append,
          List.length_nil]; omega
      | finish => simp only [TaskSetState.stepsLeft, List.length_cons, List.length_append,
          List.length_nil]; omega
      | join => simp only [TaskSetState.stepsLeft, List.length_cons, List.length_append]; omega

/-- **The loop never gets stuck.** -/
theorem step_of_not_over (h : ¬ s.Over) : ∃ l t, (taskSet f init tasks).Step s l t := by
  obtain ⟨unspawned, running, finished, acc⟩ := s
  cases unspawned with
  | cons task unspawned => exact ⟨_, _, .spawn task unspawned running finished acc⟩
  | nil =>
      cases running with
      | cons task running => exact ⟨_, _, .finish task [] [] running finished acc⟩
      | nil =>
          cases finished with
          | cons task finished => exact ⟨_, _, .join task [] [] finished acc⟩
          | nil => exact absurd ⟨rfl, rfl, rfl⟩ h

/-- **When the loop is over it has folded every task once, in some order.** -/
theorem foldl_of_over (hinit : (taskSet f init tasks).Init s₀)
    (hrun : (taskSet f init tasks).Run s₀ ls s) (hover : s.Over) :
    (joinedTasks ls).Perm tasks ∧ s.acc = (joinedTasks ls).foldl f init := by
  refine ⟨?_, run_taskSet_acc hinit hrun⟩
  have htasks := run_taskSet_tasks hinit hrun
  obtain ⟨hunspawned, hrunning, hfinished⟩ := hover
  rw [hunspawned, hrunning, hfinished, Multiset.coe_nil, zero_add, zero_add, zero_add] at htasks
  exact Multiset.coe_eq_coe.mp htasks

/-! ## Every order is a run -/

/-- Spawning all tasks. -/
theorem run_spawn (unspawned running : List τ) (acc : β) :
    (taskSet f init tasks).Run ⟨unspawned, running, [], acc⟩ (unspawned.map .spawn)
      ⟨[], running ++ unspawned, [], acc⟩ := by
  induction unspawned generalizing running with
  | nil => rw [List.append_nil]; exact .nil
  | cons task unspawned ih =>
      have h := (Run.single (M := taskSet f init tasks)
        (TaskSetStep.spawn task unspawned running [] acc)).append (ih (running ++ [task]))
      rwa [List.append_assoc, List.singleton_append] at h

/-- Finishing and joining the running tasks in a given order. -/
theorem run_finish_join (order : List τ) {running : List τ} (hperm : order.Perm running) (acc : β) :
    (taskSet f init tasks).Run ⟨[], running, [], acc⟩
      (order.flatMap fun task => [.finish task, .join task]) ⟨[], [], [], order.foldl f acc⟩ := by
  induction order generalizing running acc with
  | nil => obtain rfl := hperm.nil_eq; exact .nil
  | cons task order ih =>
      obtain ⟨before, after, rfl⟩ := List.append_of_mem (hperm.subset List.mem_cons_self)
      have hrest : order.Perm (before ++ after) :=
        List.perm_cons task |>.mp (hperm.trans List.perm_middle)
      have hfinish := Run.single (M := taskSet f init tasks)
        (TaskSetStep.finish task [] before after [] acc)
      have hjoin := hfinish.snoc (TaskSetStep.join task (before ++ after) [] [] acc)
      exact hjoin.append (ih hrest (f acc task))

/-- **Every order of the tasks is the order in which some run joins them.** -/
theorem exists_run_of_perm (f : β → τ → β) (init : β) {order : List τ} (hperm : order.Perm tasks) :
    ∃ ls, (taskSet f init tasks).Run ⟨tasks, [], [], init⟩ ls ⟨[], [], [], order.foldl f init⟩ :=
  ⟨_, (run_spawn tasks [] init).append (run_finish_join order hperm init)⟩

end Runs

end Zeeder.Foundation
