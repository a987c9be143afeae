import Zeeder.Crawl.ActivationDurability
import Zeeder.Serving.Isolation

/-! # The parts of the process

The whole process is made of parts that other modules study alone: a network's refresh loop takes the
steps of its `cacheSystem`, and its activation, across crashes and restarts, is a run of its
`durabilitySystem`. So what holds in every reachable state of these systems holds of every network of
the process.

* **`exists_run_cache`** — a running network's book, tip, loop and channel move as its cache system
  does.
* **`exists_reachable_durability`** — a network's tasks and record file match a reachable state of its
  durability system.
* **`record_of_raised`** — a raised tip has its record on disk, in the process of all networks. -/

namespace Zeeder.Serving

open Crawl Dns Foundation Foundation.StepSystem

section System

variable (compiled : ZcashNetwork → Network) (cacheDir : CacheDir) (handler : DnsRequestHandler)

/-- The process as a step system: it starts with any files and no process. -/
def processSystem : StepSystem SeederState SeederInput where
  Init s := s.phase = .down ∧ ∀ network, s.networks network = .unstarted
  Step s input t := s.next compiled cacheDir handler input = some t

end System

/-! ## The refresh loops -/

section Cache

variable {network : Network} {path : Option PathBuf} {fs : FileSystem} {tasks tasks' : NetworkTasks}

namespace NetworkTasks

/-- The crawler and the refresh loop take steps of the cache system. -/
theorem exists_step_of_nextCache {cache cache' : CacheState} {input : CacheInput}
    (h : nextCache network cache input = some cache') :
    ∃ l, (cacheSystem network).Step cache l cache' ∧ cache'.tip = cache.tip := by
  unfold nextCache at h
  split at h
  · cases h
    exact ⟨_, .updateBook _ _, rfl⟩
  · split at h
    · next hphase =>
        cases h
        exact ⟨_, .readTip _ hphase, rfl⟩
    · cases h
  · split at h
    · next hphase =>
        cases h
        exact ⟨_, .classify _ _ _ _ hphase, rfl⟩
    · cases h
  · split at h
    · next hphase =>
        cases h
        exact ⟨_, .publish _ _ hphase, rfl⟩
    · cases h

/-- **One network's tasks move its cache system** by one step or not at all. -/
theorem exists_run_cache {input : TaskInput} (h : tasks.next network path fs input = some tasks') :
    ∃ ls, (cacheSystem network).Run tasks.cache ls tasks'.cache := by
  cases input with
  | cache input =>
      obtain ⟨cache, hcache, rfl⟩ := Option.map_eq_some_iff.mp h
      obtain ⟨l, hstep, -⟩ := exists_step_of_nextCache hcache
      exact ⟨[l], .single hstep⟩
  | observer input =>
      change tasks.nextObserver network path fs input = some tasks' at h
      unfold nextObserver at h
      split at h
      -- only the confirmation touches the tip
      case h_5 =>
        split at h
        · cases h
          exact ⟨_, .single (.confirmActivation _)⟩
        · cases h
      all_goals
        split at h <;> cases h <;> exact ⟨[], .nil⟩

end NetworkTasks

end Cache

/-! ## What a step of the process does to one network -/

section Moves

variable (compiled : ZcashNetwork → Network) (cacheDir : CacheDir) (network : ZcashNetwork)

/-- How one network's tasks and record file move. -/
inductive NetworkMoves (s t : SeederState) : Prop
  /-- The network rests. -/
  | rest (htasks : t.networks network = s.networks network)
      (hrecord : NamesDiffer compiled network →
        recordFile (confirmationPath cacheDir (compiled network)) t.fs
          = recordFile (confirmationPath cacheDir (compiled network)) s.fs)
  /-- The process dies. -/
  | crash (htasks : t.networks network = .unstarted) (hfs : t.fs = s.fs)
  /-- Its record is loaded. -/
  | load (fault : Option IoError) (hbefore : s.networks network = .unstarted)
      (htasks : t.networks network = .loaded (loadConfirmation s.fs
        (confirmationPath cacheDir (compiled network)) (.latest (compiled network)) fault))
      (hfs : t.fs = s.fs)
  /-- Its tasks are spawned. -/
  | spawn (confirmed : Bool) (book : AddressBook) (hbefore : s.networks network = .loaded confirmed)
      (htasks : t.networks network
        = .running (NetworkTasks.spawned (compiled network) confirmed book))
      (hfs : t.fs = s.fs)
  /-- Its tasks go on. -/
  | task (input : TaskInput) (tasks tasks' : NetworkTasks)
      (hbefore : s.networks network = .running tasks)
      (hnext : tasks.next (compiled network) (confirmationPath cacheDir (compiled network)) s.fs input
        = some tasks')
      (htasks : t.networks network = .running tasks')
      (hfs : t.fs = NetworkTasks.filesAfter (compiled network)
        (confirmationPath cacheDir (compiled network)) s.fs input)
  /-- It is attested. -/
  | attest (dir : CacheDir) (a c v : UInt32) (outcome : WriteOutcome)
      (htasks : t.networks network = s.networks network)
      (hfs : t.fs = (attestConfirmation s.fs dir (compiled network) a c v outcome).1)

variable {compiled cacheDir} {handler : DnsRequestHandler} {s t : SeederState} {input : SeederInput}

/-- **What a step can do to a network.** -/
theorem networkMoves_of_next (h : s.next compiled cacheDir handler input = some t) :
    NetworkMoves compiled cacheDir network s t := by
  cases input with
  | start =>
      simp only [SeederState.next] at h
      split at h <;> cases h
      exact .rest rfl fun _ => rfl
  | serve =>
      simp only [SeederState.next] at h
      split at h <;> cases h
      exact .rest rfl fun _ => rfl
  | query verdict request sendSucceeds =>
      simp only [SeederState.next] at h
      split at h <;> cases h
      exact .rest rfl fun _ => rfl
  | crash =>
      cases h
      exact .crash rfl rfl
  | load other fault =>
      simp only [SeederState.next] at h
      split at h
      · next hbefore =>
          split at h <;> cases h
          by_cases hother : network = other
          · subst hother
            exact .load fault hbefore (Function.update_self ..) rfl
          · exact .rest (Function.update_of_ne hother _ _) fun _ => rfl
      · cases h
  | spawn other book =>
      simp only [SeederState.next] at h
      split at h
      · next confirmed hbefore =>
          cases h
          by_cases hother : network = other
          · subst hother
            exact .spawn confirmed book hbefore (Function.update_self ..) rfl
          · exact .rest (Function.update_of_ne hother _ _) fun _ => rfl
      · cases h
  | task other input =>
      simp only [SeederState.next] at h
      split at h
      · next tasks hbefore =>
          obtain ⟨tasks', hnext, rfl⟩ := Option.map_eq_some_iff.mp h
          by_cases hother : network = other
          · subst hother
            exact .task input tasks tasks' hbefore hnext (Function.update_self ..) rfl
          · refine .rest (Function.update_of_ne hother _ _) fun hnames => ?_
            exact recordFile_filesAfter_of_ne (hnames other (Ne.symm hother))
      · cases h
  | attest other dir a c v outcome =>
      cases h
      by_cases hother : network = other
      · subst hother
        exact .attest dir a c v outcome rfl rfl
      · exact .rest rfl fun hnames => recordFile_attestConfirmation_of_ne (hnames other (Ne.symm hother))

end Moves

/-! ## The activations -/

/-- Where the durability system has the observer: it does not tell a sweep from the wait for it. -/
def ObserverPoint.phase : ObserverPoint → ObserverPhase
  | .waiting => .observing
  | .probing _ => .observing
  | .writing => .writing
  | .returning result => .returning result
  | .confirming => .confirming
  | .finished => .finished

/-- One network's tasks as a process of its durability system. Nobody is between the check and the
replacement of a confirmation, and whoever is about to confirm has a durable record. -/
structure TasksMatch (tasks : NetworkTasks) (process : Crawl.Process) : Prop where
  /-- The same tip. -/
  tip : process.tip = tasks.cache.tip
  /-- The same gate. -/
  gate : process.gate = tasks.gate
  /-- The same control point. -/
  phase : process.phase = tasks.observer.phase
  /-- A confirmation is about to follow a durable record only. -/
  durable : process.phase = .confirming → process.durable = true
  /-- No confirmation is under way. -/
  pendingRaises : process.pendingRaises = 0

/-- The start of one network, in both systems. -/
inductive PhaseMatches : NetworkPhase → ProcessState → Prop
  /-- Not started. -/
  | unstarted : PhaseMatches .unstarted .down
  /-- Its record is loaded. -/
  | loaded (confirmed : Bool) : PhaseMatches (.loaded confirmed) (.loaded confirmed)
  /-- It runs. -/
  | running {tasks : NetworkTasks} {process : Crawl.Process} (h : TasksMatch tasks process) :
      PhaseMatches (.running tasks) (.up process)

section Durability

variable (compiled : ZcashNetwork → Network) (cacheDir : CacheDir) (network : ZcashNetwork)

/-- One network of the process and a state of its durability system: the same life, and the same
record file. -/
structure NetworkMatches (s : SeederState) (d : DurabilityState) : Prop where
  /-- The same life. -/
  phase : PhaseMatches (s.networks network) d.process
  /-- The same record file. -/
  record : recordFile (confirmationPath cacheDir (compiled network)) s.fs
    = recordFile (confirmationPath cacheDir (compiled network)) d.fs

end Durability

section Steps

variable {network : Network} {cacheDir : CacheDir} {fs fs' : FileSystem} {process : Crawl.Process}
  {tasks tasks' : NetworkTasks}

/-- Spawned tasks match a booted process. -/
theorem tasksMatch_spawned (confirmed : Bool) (book : AddressBook) :
    TasksMatch (.spawned network confirmed book) (bootProcess network confirmed) where
  tip := rfl
  gate := rfl
  phase := by
    simp only [bootProcess, NetworkTasks.spawned]
    split <;> rfl
  durable h := by
    simp only [bootProcess] at h
    split at h <;> cases h
  pendingRaises := rfl

namespace TasksMatch

variable (h : TasksMatch tasks process)

include h

/-- A sweep leads to a write where the gate confirms, else to the next sweep. -/
theorem sweep (evidence : SweepEvidence) :
    TasksMatch
      { tasks with
        gate := (tasks.gate.observe evidence).1
        observer := if (tasks.gate.observe evidence).2 then .writing else .waiting }
      (afterSweep process evidence) where
  tip := h.tip
  gate := by rw [afterSweep, h.gate]
  phase := by
    rw [afterSweep, h.gate]
    cases hconfirmed : (tasks.gate.observe evidence).2 <;> simp [hconfirmed, ObserverPoint.phase]
  durable hconfirming := by
    simp only [afterSweep] at hconfirming
    split at hconfirming <;> cases hconfirming
  pendingRaises := h.pendingRaises

/-- A write that is over is about to be reported. -/
theorem write (result : Except IoError Unit) :
    TasksMatch { tasks with observer := .returning result } (afterWrite process result) where
  tip := h.tip
  gate := h.gate
  phase := rfl
  durable hconfirming := by cases hconfirming
  pendingRaises := h.pendingRaises

/-- A write that succeeded made the record durable. -/
theorem returned_ok :
    TasksMatch { tasks with observer := .confirming } (afterReturn process (.ok ())) where
  tip := h.tip
  gate := h.gate
  phase := rfl
  durable _ := rfl
  pendingRaises := h.pendingRaises

/-- After one that failed the observer waits for the next sweep. -/
theorem returned_error (error : IoError) :
    TasksMatch { tasks with observer := .waiting } (afterReturn process (.error error)) where
  tip := h.tip
  gate := h.gate
  phase := rfl
  durable hconfirming := by cases hconfirming
  pendingRaises := h.pendingRaises

/-- The confirmation raises both tips. -/
theorem confirmed :
    TasksMatch
      { tasks with
        cache := { tasks.cache with tip := tasks.cache.tip.confirmActivation }
        observer := .finished }
      { process with tip := process.tip.confirmActivation, phase := .finished } where
  tip := congrArg SeederChainTip.confirmActivation h.tip
  gate := h.gate
  phase := rfl
  durable hconfirming := by cases hconfirming
  pendingRaises := h.pendingRaises

/-- **A confirmation is three steps**: the check, the replacement where the check asks for it, and the
end of the loop. -/
theorem exists_run_confirm (network : Network) (cacheDir : CacheDir) (fs : FileSystem)
    (hphase : process.phase = .confirming) :
    ∃ ls, (durabilitySystem network cacheDir).Run ⟨fs, .up process⟩ ls
      ⟨fs, .up { process with tip := process.tip.confirmActivation, phase := .finished }⟩ := by
  have hcheck : (durabilitySystem network cacheDir).Step ⟨fs, .up process⟩ .confirmCheck
      ⟨fs, .up (afterCheck process)⟩ := .confirmCheck fs process (h.durable hphase)
  by_cases hraise : process.tip.needsRaise = true
  · have hreplace : (durabilitySystem network cacheDir).Step ⟨fs, .up (afterCheck process)⟩
        .confirmReplace ⟨fs, .up (afterReplace (afterCheck process))⟩ :=
      .confirmReplace fs _ (by simp [afterCheck, hraise])
    have hleave : (durabilitySystem network cacheDir).Step
        ⟨fs, .up (afterReplace (afterCheck process))⟩ .leave
        ⟨fs, .up (afterLeave (afterReplace (afterCheck process)))⟩ := .leave fs _ hphase
    have hend : afterLeave (afterReplace (afterCheck process))
        = { process with tip := process.tip.confirmActivation, phase := .finished } := by
      simp [afterLeave, afterReplace, afterCheck, SeederChainTip.confirmActivation, hraise]
    exact ⟨_, hend ▸ ((Run.single hcheck).snoc hreplace).snoc hleave⟩
  · -- a tip that is raised already stays as it is
    have hleave : (durabilitySystem network cacheDir).Step ⟨fs, .up (afterCheck process)⟩ .leave
        ⟨fs, .up (afterLeave (afterCheck process))⟩ := .leave fs _ hphase
    have hend : afterLeave (afterCheck process)
        = { process with tip := process.tip.confirmActivation, phase := .finished } := by
      simp [afterLeave, afterCheck, SeederChainTip.confirmActivation, hraise]
    exact ⟨_, hend ▸ (Run.single hcheck).snoc hleave⟩

end TasksMatch

/-- What a write reports does not depend on the files. -/
theorem persistConfirmation_result_congr {path : Option PathBuf} {target : ActivationTarget}
    {outcome : WriteOutcome} :
    (persistConfirmation fs path target outcome).2
      = (persistConfirmation fs' path target outcome).2 := by
  cases path <;> rfl

/-- **The observer moves its durability system** by a run, with the same record file. -/
theorem exists_run_observer (hmatch : TasksMatch tasks process)
    (hrecord : recordFile (confirmationPath cacheDir network) fs
      = recordFile (confirmationPath cacheDir network) fs') {input : ObserverInput}
    (hnext : tasks.nextObserver network (confirmationPath cacheDir network) fs input = some tasks') :
    ∃ ls process' fs'', (durabilitySystem network cacheDir).Run ⟨fs', .up process⟩ ls
        ⟨fs'', .up process'⟩ ∧ TasksMatch tasks' process' ∧
      recordFile (confirmationPath cacheDir network)
          (NetworkTasks.filesAfter network (confirmationPath cacheDir network) fs (.observer input))
        = recordFile (confirmationPath cacheDir network) fs'' := by
  have hphase := hmatch.phase
  cases input with
  | sample now order =>
      simp only [NetworkTasks.nextObserver] at hnext
      split at hnext
      · next hpoint =>
          cases hnext
          rw [hpoint] at hphase
          exact ⟨[], process, fs', .nil, { hmatch with phase := hphase }, hrecord⟩
      · cases hnext
  | probe probe completion =>
      simp only [NetworkTasks.nextObserver] at hnext
      split at hnext
      · next sampledPeers hpoint =>
          cases hnext
          rw [hpoint] at hphase
          exact ⟨_, _, fs', .single (.sweep fs' process _ hphase), hmatch.sweep _, hrecord⟩
      · cases hnext
  | write outcome =>
      simp only [NetworkTasks.nextObserver] at hnext
      split at hnext
      · next hpoint =>
          cases hnext
          rw [hpoint] at hphase
          refine ⟨_, _, _, .single (.write fs' process outcome hphase), ?_,
            recordFile_persistConfirmation_congr hrecord⟩
          rw [persistConfirmation_result_congr]
          exact hmatch.write _
      · cases hnext
  | writeReturn =>
      simp only [NetworkTasks.nextObserver] at hnext
      split at hnext
      · next hpoint =>
          cases hnext
          rw [hpoint] at hphase
          exact ⟨_, _, fs', .single (.writeReturn fs' process _ hphase), hmatch.returned_ok, hrecord⟩
      · next error hpoint =>
          cases hnext
          rw [hpoint] at hphase
          exact ⟨_, _, fs', .single (.writeReturn fs' process _ hphase), hmatch.returned_error error,
            hrecord⟩
      · cases hnext
  | confirm =>
      simp only [NetworkTasks.nextObserver] at hnext
      split at hnext
      · next hpoint =>
          cases hnext
          rw [hpoint] at hphase
          obtain ⟨ls, hrun⟩ := hmatch.exists_run_confirm network cacheDir fs' hphase
          exact ⟨ls, _, fs', hrun, hmatch.confirmed, hrecord⟩
      · cases hnext

/-- **One network's tasks move its durability system** by a run, with the same record file. -/
theorem exists_run_tasks (hmatch : TasksMatch tasks process)
    (hrecord : recordFile (confirmationPath cacheDir network) fs
      = recordFile (confirmationPath cacheDir network) fs') {input : TaskInput}
    (hnext : tasks.next network (confirmationPath cacheDir network) fs input = some tasks') :
    ∃ ls process' fs'', (durabilitySystem network cacheDir).Run ⟨fs', .up process⟩ ls
        ⟨fs'', .up process'⟩ ∧ TasksMatch tasks' process' ∧
      recordFile (confirmationPath cacheDir network)
          (NetworkTasks.filesAfter network (confirmationPath cacheDir network) fs input)
        = recordFile (confirmationPath cacheDir network) fs'' := by
  cases input with
  | cache input =>
      obtain ⟨cache, hcache, rfl⟩ := Option.map_eq_some_iff.mp hnext
      obtain ⟨-, -, hsame⟩ := NetworkTasks.exists_step_of_nextCache hcache
      exact ⟨[], process, fs', .nil, { hmatch with tip := hmatch.tip.trans hsame.symm }, hrecord⟩
  | observer input => exact exists_run_observer hmatch hrecord hnext

end Steps

section Simulation

variable {compiled : ZcashNetwork → Network} {cacheDir : CacheDir} {handler : DnsRequestHandler}
  {network : ZcashNetwork} {s t : SeederState} {d : DurabilityState}

/-- **A step of the process is a run of each network's durability system.** -/
theorem exists_run_durability (hnames : NamesDiffer compiled network)
    (hmatch : NetworkMatches compiled cacheDir network s d)
    (hmoves : NetworkMoves compiled cacheDir network s t) :
    ∃ ls d', (durabilitySystem (compiled network) cacheDir).Run d ls d' ∧
      NetworkMatches compiled cacheDir network t d' := by
  obtain ⟨hphase, hrecord⟩ := hmatch
  cases hmoves with
  | rest htasks hrest =>
      exact ⟨[], d, .nil, ⟨htasks ▸ hphase, (hrest hnames).trans hrecord⟩⟩
  | crash htasks hfs =>
      exact ⟨_, _, .single (.crash d), ⟨htasks ▸ .unstarted, hfs ▸ hrecord⟩⟩
  | attest dir a c v outcome htasks hfs =>
      refine ⟨_, _, .single (.attest d dir a c v outcome), ⟨htasks ▸ hphase, ?_⟩⟩
      rw [hfs]
      exact recordFile_attestConfirmation_congr hrecord
  | load fault hbefore htasks hfs =>
      obtain ⟨fs, process⟩ := d
      rw [hbefore] at hphase
      cases hphase
      refine ⟨_, _, .single (.load fs fault), ⟨?_, hfs ▸ hrecord⟩⟩
      -- both read the same record file
      rw [htasks, loadConfirmation_congr hrecord]
      exact .loaded _
  | spawn confirmed book hbefore htasks hfs =>
      obtain ⟨fs, process⟩ := d
      rw [hbefore] at hphase
      cases hphase
      exact ⟨_, _, .single (.boot fs confirmed),
        ⟨htasks ▸ .running (tasksMatch_spawned confirmed book), hfs ▸ hrecord⟩⟩
  | task input before after hbefore hnext htasks hfs =>
      obtain ⟨fs, process⟩ := d
      rw [hbefore] at hphase
      cases hphase with
      | running hmatch =>
          obtain ⟨ls, process', fs', hrun, hafter, hfiles⟩ := exists_run_tasks hmatch hrecord hnext
          exact ⟨ls, _, hrun, ⟨htasks ▸ .running hafter, hfs ▸ hfiles⟩⟩

/-- **Each network of the process is in a state of its durability system.** -/
theorem exists_reachable_durability (hnames : NamesDiffer compiled network)
    (h : (processSystem compiled cacheDir handler).Reachable s) :
    ∃ d, (durabilitySystem (compiled network) cacheDir).Reachable d ∧
      NetworkMatches compiled cacheDir network s d := by
  refine h.simulates (R := NetworkMatches compiled cacheDir network) ?_ ?_
  · intro s hinit
    exact ⟨⟨s.fs, .down⟩, rfl, ⟨hinit.2 network ▸ .unstarted, rfl⟩⟩
  · intro s input t d hmatch hstep
    exact exists_run_durability hnames hmatch (networkMoves_of_next network hstep)

/-- **A raised tip has its record on disk**, whatever the other network and its operator do. -/
theorem record_of_raised (hnames : NamesDiffer compiled network)
    (hpos : 0 < (compiled network).latestActivationHeight.val.toNat)
    (h : (processSystem compiled cacheDir handler).Reachable s) {tasks : NetworkTasks}
    (hrunning : s.networks network = .running tasks)
    (hraised : (compiled network).latestActivationHeight ≤ tasks.cache.tip.height) :
    recordFile (confirmationPath cacheDir (compiled network)) s.fs
      = some (ActivationTarget.latest (compiled network)).recordBytes := by
  obtain ⟨⟨fs, process⟩, hreach, hphase, hrecord⟩ := exists_reachable_durability hnames h
  rw [hrunning] at hphase
  cases hphase with
  | running hmatch =>
      rw [← hmatch.tip] at hraised
      obtain ⟨file, hfile, hholds⟩ := raised_holdsRecord hpos hreach rfl hraised
      rw [hrecord, hfile]
      exact hholds

end Simulation

end Zeeder.Serving
