import Zeeder.Serving.RestartedFloor

/-! # How long an address is served

The crawler takes a peer out of the address book, and the channel still holds a snapshot of the book
as it was. The next refresh classifies the book that there is by then, and when it has sent its
snapshot nothing older is left.

* **`mem_phaseBooks_next`** — a step shows no book that was not in sight, but for one it brings in.
* **`answers_fresh`** — after a classification and a send, whatever is answered stands in a book that
  the network had since. -/

namespace Zeeder.Serving

open Crawl Dns Config Foundation Foundation.StepSystem

/-! ## The books in sight -/

/-- How far the next snapshot has come. -/
inductive RefreshStage where
  /-- The book is not classified yet. -/
  | pending
  /-- The book is classified. -/
  | classified
  /-- The snapshot is sent. -/
  | sent

/-- The book of a refresh that is classified and not yet sent. -/
def RefreshPhase.book? : RefreshPhase → Option AddressBook
  | .classified refresh => some refresh.book
  | _ => none

/-- The books that count at a stage: the live one, from the classification on that of the refresh
under way, and from the send on that of the refresh in the channel. -/
def cacheBooks (cache : CacheState) : RefreshStage → List AddressBook
  | .pending => [cache.book]
  | .classified => cache.book :: (RefreshPhase.book? cache.phase).toList
  | .sent => cache.book :: ((RefreshPhase.book? cache.phase).toList
      ++ (cache.published.map Refresh.book).toList)

/-- The books of a network, which has none before its tasks run. -/
def phaseBooks (stage : RefreshStage) : NetworkPhase → List AddressBook
  | .running tasks => cacheBooks tasks.cache stage
  | _ => []

/-- The book that an input of the refresh loop or the crawler brings in. -/
def CacheInput.book? : CacheInput → Option AddressBook
  | updateBook book => some book
  | _ => none

/-- The book that an input brings in for a network. -/
def SeederInput.book? (network : ZcashNetwork) : SeederInput → Option AddressBook
  | spawn other book => if other = network then some book else none
  | task other (.cache input) => if other = network then input.book? else none
  | _ => none

/-- The book that a network has in some state, and all that a run brings in. -/
def booksSince (network : ZcashNetwork) (s : SeederState) (inputs : List SeederInput) :
    List AddressBook :=
  phaseBooks .pending (s.networks network) ++ inputs.filterMap (SeederInput.book? network)

section Cache

variable {network : Network} {cache cache' : CacheState} {stage : RefreshStage}
  {book : AddressBook}

/-- **One step of the crawler or the refresh loop** shows no book but those in sight and the one it
brings in. -/
theorem mem_cacheBooks_next {input : CacheInput}
    (hnext : NetworkTasks.nextCache network cache input = some cache')
    (hbook : book ∈ cacheBooks cache' stage) :
    book ∈ cacheBooks cache stage ∨ input.book? = some book := by
  cases input with
  | updateBook updated =>
      cases hnext
      cases stage with
      | pending =>
          obtain rfl := List.mem_singleton.mp hbook
          exact .inr rfl
      | classified =>
          rcases List.mem_cons.mp hbook with rfl | hrest
          · exact .inr rfl
          · exact .inl (List.mem_cons_of_mem _ hrest)
      | sent =>
          rcases List.mem_cons.mp hbook with rfl | hrest
          · exact .inr rfl
          · exact .inl (List.mem_cons_of_mem _ hrest)
  | readTip =>
      simp only [NetworkTasks.nextCache] at hnext
      split at hnext
      · next hphase =>
          cases hnext
          refine .inl ?_
          cases stage <;> simpa [cacheBooks, RefreshPhase.book?, hphase] using hbook
      · cases hnext
  | classify now order =>
      simp only [NetworkTasks.nextCache] at hnext
      split at hnext
      · next minimumVersion hphase =>
          cases hnext
          refine .inl ?_
          cases stage <;> simpa [cacheBooks, RefreshPhase.book?, hphase] using hbook
      · cases hnext
  | publish =>
      simp only [NetworkTasks.nextCache] at hnext
      split at hnext
      · next refresh hphase =>
          cases hnext
          refine .inl ?_
          cases stage with
          | pending => exact hbook
          | classified =>
              rcases List.mem_cons.mp hbook with rfl | hnone
              · exact List.mem_cons_self
              · cases hnone
          | sent =>
              have hsent : book = cache.book ∨ book = refresh.book := by
                simpa [cacheBooks, RefreshPhase.book?] using hbook
              simp only [cacheBooks, hphase, RefreshPhase.book?, Option.toList_some,
                List.singleton_append, List.mem_cons]
              exact hsent.imp_right .inl
      · cases hnext

/-- The observer shows no other books. -/
theorem cacheBooks_nextObserver {path : Option PathBuf} {fs : FileSystem} {tasks tasks' : NetworkTasks}
    {input : ObserverInput} (hnext : tasks.nextObserver network path fs input = some tasks')
    (stage : RefreshStage) : cacheBooks tasks'.cache stage = cacheBooks tasks.cache stage := by
  have hcache : tasks'.cache = tasks.cache ∨
      tasks'.cache = { tasks.cache with tip := tasks.cache.tip.confirmActivation } := by
    cases input
    all_goals
      simp only [NetworkTasks.nextObserver] at hnext
      split at hnext
    all_goals
      first
      | exact .inl (Option.some.inj hnext ▸ rfl)
      | exact .inr (Option.some.inj hnext ▸ rfl)
      | cases hnext
  rcases hcache with heq | heq
  · rw [heq]
  · rw [heq]
    cases stage <;> rfl

end Cache

section Process

variable {compiled : ZcashNetwork → Network} {cacheDir : CacheDir} {handler : DnsRequestHandler}
  {network : ZcashNetwork} {s t : SeederState} {input : SeederInput} {inputs : List SeederInput}
  {stage : RefreshStage} {book : AddressBook}

/-- A step of a network's crawler or refresh loop. -/
theorem exists_of_next_cache {input : CacheInput}
    (hnext : s.next compiled cacheDir handler (.task network (.cache input)) = some t) :
    ∃ tasks cache, s.networks network = .running tasks ∧
      NetworkTasks.nextCache (compiled network) tasks.cache input = some cache ∧
      t.networks network = .running { tasks with cache := cache } := by
  simp only [SeederState.next] at hnext
  split at hnext
  · next tasks hbefore =>
      obtain ⟨tasks', htask, rfl⟩ := Option.map_eq_some_iff.mp hnext
      obtain ⟨cache, hcache, rfl⟩ := Option.map_eq_some_iff.mp htask
      exact ⟨tasks, cache, hbefore, hcache, Function.update_self ..⟩
  · cases hnext

/-- **One step of the process** shows no book of a network but those in sight and the one it brings
in. -/
theorem mem_phaseBooks_next (hnext : s.next compiled cacheDir handler input = some t)
    (hbook : book ∈ phaseBooks stage (t.networks network)) :
    book ∈ phaseBooks stage (s.networks network) ∨ input.book? network = some book := by
  have hrest (h : t.networks network = s.networks network) :
      book ∈ phaseBooks stage (s.networks network) ∨ input.book? network = some book :=
    .inl (h ▸ hbook)
  cases input with
  | start | serve | query _ _ _ =>
      simp only [SeederState.next] at hnext
      split at hnext <;> cases hnext
      exact hrest rfl
  | attest other dir a c v outcome =>
      cases hnext
      exact hrest rfl
  | crash =>
      cases hnext
      cases hbook
  | load other fault =>
      simp only [SeederState.next] at hnext
      split at hnext
      · split at hnext <;> cases hnext
        by_cases hother : network = other
        · subst hother
          dsimp only at hbook
          rw [Function.update_self] at hbook
          cases hbook
        · exact hrest (Function.update_of_ne hother _ _)
      · cases hnext
  | spawn other restored =>
      simp only [SeederState.next] at hnext
      split at hnext
      · cases hnext
        by_cases hother : network = other
        · subst hother
          dsimp only at hbook
          rw [Function.update_self] at hbook
          have hspawned : book = restored := by
            cases stage <;> exact List.mem_singleton.mp hbook
          exact .inr ((if_pos rfl).trans (congrArg some hspawned.symm))
        · exact hrest (Function.update_of_ne hother _ _)
      · cases hnext
  | task other taskInput =>
      by_cases hother : network = other
      · subst hother
        cases taskInput with
        | cache cacheInput =>
            obtain ⟨tasks, cache, hbefore, hcache, hafter⟩ := exists_of_next_cache hnext
            rw [hafter] at hbook
            rw [hbefore]
            refine (mem_cacheBooks_next hcache hbook).imp_right fun hbrought => ?_
            exact (if_pos rfl).trans hbrought
        | observer observerInput =>
            simp only [SeederState.next] at hnext
            split at hnext
            · next tasks hbefore =>
                obtain ⟨tasks', htask, rfl⟩ := Option.map_eq_some_iff.mp hnext
                dsimp only at hbook
                rw [Function.update_self] at hbook
                rw [hbefore]
                refine .inl ?_
                show book ∈ cacheBooks tasks.cache stage
                rw [← cacheBooks_nextObserver htask]
                exact hbook
            · cases hnext
      · simp only [SeederState.next] at hnext
        split at hnext
        · obtain ⟨tasks', -, rfl⟩ := Option.map_eq_some_iff.mp hnext
          exact hrest (Function.update_of_ne hother _ _)
        · cases hnext

/-- A classification shows the live book only. -/
theorem mem_phaseBooks_of_classify {now : DateTime} {order : RefreshOrder}
    (hnext : s.next compiled cacheDir handler (.task network (.cache (.classify now order))) = some t)
    (hbook : book ∈ phaseBooks .classified (t.networks network)) :
    book ∈ phaseBooks .pending (s.networks network) := by
  obtain ⟨tasks, cache, hbefore, hcache, hafter⟩ := exists_of_next_cache hnext
  rw [hafter] at hbook
  rw [hbefore]
  simp only [NetworkTasks.nextCache] at hcache
  split at hcache <;> cases hcache
  simpa [phaseBooks, cacheBooks, RefreshPhase.book?] using hbook

/-- A send leaves nothing older in the channel. -/
theorem mem_phaseBooks_of_publish
    (hnext : s.next compiled cacheDir handler (.task network (.cache .publish)) = some t)
    (hbook : book ∈ phaseBooks .sent (t.networks network)) :
    book ∈ phaseBooks .classified (s.networks network) := by
  obtain ⟨tasks, cache, hbefore, hcache, hafter⟩ := exists_of_next_cache hnext
  rw [hafter] at hbook
  rw [hbefore]
  simp only [NetworkTasks.nextCache] at hcache
  split at hcache
  · next refresh hphase =>
      cases hcache
      simpa [phaseBooks, cacheBooks, RefreshPhase.book?, hphase] using hbook
  · cases hcache

/-- **A run** brings in all that it shows. -/
theorem mem_phaseBooks_run (hrun : (processSystem compiled cacheDir handler).Run s inputs t)
    (hbook : book ∈ phaseBooks stage (t.networks network)) :
    book ∈ phaseBooks stage (s.networks network) ∨
      book ∈ inputs.filterMap (SeederInput.book? network) := by
  induction hrun with
  | nil => exact .inl hbook
  | snoc _ hstep ih =>
      rw [List.filterMap_append, List.mem_append]
      rcases mem_phaseBooks_next hstep hbook with hbefore | hbrought
      · exact (ih hbefore).imp_right .inl
      · exact .inr (.inr (List.mem_filterMap.mpr ⟨_, List.mem_singleton_self _, hbrought⟩))

/-- **After a classification and a send** all books in sight are of the run. -/
theorem mem_booksSince {before between after : List SeederInput} {now : DateTime}
    {order : RefreshOrder}
    (hrun : (processSystem compiled cacheDir handler).Run s
      (before ++ .task network (.cache (.classify now order))
        :: (between ++ .task network (.cache .publish) :: after)) t)
    (hbook : book ∈ phaseBooks .sent (t.networks network)) :
    book ∈ booksSince network s (before ++ .task network (.cache (.classify now order))
      :: (between ++ .task network (.cache .publish) :: after)) := by
  obtain ⟨u, hbefore, hrest⟩ := hrun.split
  obtain ⟨v, hclassify, hrest⟩ := hrest.uncons
  obtain ⟨w, hbetween, hrest⟩ := hrest.split
  obtain ⟨x, hpublish, hafter⟩ := hrest.uncons
  have hlabels {brought : List SeederInput} (hsub : brought ⊆ before
      ++ .task network (.cache (.classify now order))
        :: (between ++ .task network (.cache .publish) :: after))
      (hmem : book ∈ brought.filterMap (SeederInput.book? network)) :
      book ∈ booksSince network s (before ++ .task network (.cache (.classify now order))
        :: (between ++ .task network (.cache .publish) :: after)) := by
    obtain ⟨input, hinput, hbrought⟩ := List.mem_filterMap.mp hmem
    exact List.mem_append_right _ (List.mem_filterMap.mpr ⟨input, hsub hinput, hbrought⟩)
  -- from the end back: what is sent was classified, what is classified was the live book
  rcases mem_phaseBooks_run hafter hbook with hsent | hbrought
  · have hclassified := mem_phaseBooks_of_publish hpublish hsent
    rcases mem_phaseBooks_run hbetween hclassified with hlive | hbrought
    · have hpending := mem_phaseBooks_of_classify hclassify hlive
      rcases mem_phaseBooks_run hbefore hpending with hfirst | hbrought
      · exact List.mem_append_left _ hfirst
      · exact hlabels (by simp) hbrought
    · exact hlabels (fun input hinput => by simp [hinput]) hbrought
  · exact hlabels (fun input hinput => by simp [hinput]) hbrought

end Process

/-! ## Answers -/

/-- **An address is served for as long as it takes to refresh once.** In any run of the process with
both networks, from any state, in which a network's refresh loop classifies a book and later a
snapshot is sent, with crashes, restarts and steps of all other tasks anywhere: every address in an
answer of the network's zones at its end is of an entry that `classify_peer` accepted in a book that the
network had since the run began. -/
theorem answers_fresh (hickory : HickoryProto) (compiled : ZcashNetwork → Network)
    (cacheDir : CacheDir) (config : SeederConfig) (handler : DnsRequestHandler)
    (hstart : startZones hickory config = .ok handler.zones) (network : ZcashNetwork)
    {s t : SeederState} {before between after inputs : List SeederInput} {now : DateTime}
    {order : RefreshOrder}
    (hrefresh : inputs = before ++ .task network (.cache (.classify now order))
      :: (between ++ .task network (.cache .publish) :: after))
    (hrun : (processSystem compiled cacheDir handler).Run s inputs t) {verdict : IpAddr → Bool}
    {request : Request} {sendSucceeds : Bool} {response : Response} {query : Query} {zone : SeedZone}
    (hsent : .sendResponse response
      ∈ t.effects hickory compiled handler (.query verdict request sendSucceeds))
    (hquery : request.queries.head? = some query)
    (hmatch : handler.matchingZone hickory query.name = some zone) (hnetwork : zone.network = network)
    {record : Record} (hrecord : record ∈ response.answers) {ip : IpAddr}
    (hip : record.data.ip = some ip) :
    ∃ book ∈ booksSince network s inputs, ∃ peer ∈ book.peers, peer.addr.ip = ip ∧
      ∃ now minimumVersion,
        classifyPeer book peer now (compiled network) minimumVersion = .ok () := by
  subst hnetwork hrefresh
  -- the handler reads the channels of the running networks
  have hfeeds : (fun receiver => publishedPeers compiled receiver.updater
      (t.networks receiver.updater)) = currentFeeds compiled (cacheStates compiled t) :=
    funext publishedPeers_eq_currentFeeds
  obtain rfl := ((DnsRequestHandler.sendResponse_mem_answerRequest hquery).mp hsent).2
  rw [hfeeds] at hrecord
  obtain ⟨refresh, ipv4, hpublished, -, peer, hpeer, hpeerIp, -, -, hok, -⟩ :=
    accepted_of_record hstart hmatch hip hrecord
  obtain ⟨running, htasks, hchannel⟩ := running_of_published hpublished
  have hbook : refresh.book ∈ phaseBooks .sent (t.networks zone.network) := by
    rw [htasks]
    simp [phaseBooks, cacheBooks, hchannel]
  exact ⟨refresh.book, mem_booksSince hrun hbook, peer, hpeer, hpeerIp, _, _, hok⟩

/-! ## A peer that leaves the book -/

section Example

open Reference

/-- Both networks are started, mainnet serves its one peer, and then the crawler drops it. -/
def dropPeer : List SeederInput :=
  startAgain ++ [.task .mainnet (.cache (.updateBook ⟨[], 0, fun _ => 0⟩))]

/-- Mainnet's next refresh. -/
def nextRefresh : List SeederInput :=
  [.task .mainnet (.cache .readTip), .task .mainnet (.cache (.classify 0 .unshuffled)),
    .task .mainnet (.cache .publish)]

/-- Whether mainnet runs with an empty book. -/
def mainnetBookEmpty (s : SeederState) : Bool :=
  match s.networks .mainnet with
  | .running tasks => tasks.cache.book.peers.isEmpty
  | _ => false

/-- The peer is answered until the next refresh, and then no address is. -/
theorem answers_fresh_example : ∃ s t response, exampleProcess.Run s nextRefresh t ∧
    addressesAnswered s = 1 ∧
    .sendResponse response ∈ t.effects reference (buildActivatingAt ⟨100⟩) ⟨crossZones, none⟩
      (.query (fun _ => true) (requestFor addressQuery) true) ∧
    ∀ record ∈ response.answers, record.data.ip = none := by
  have hdropped : (stateAfter coldStart dropPeer).any (fun s => mainnetBookEmpty s
      && addressesAnswered s == 1 && (stateAfter s nextRefresh).isSome) = true := by decide +kernel
  have hmatched : (DnsRequestHandler.matchingZone reference ⟨crossZones, none⟩ addressQuery.name).any
      (fun zone => decide (zone.network = .mainnet)) = true := by decide +kernel
  obtain ⟨s, -, hs⟩ := (Option.any_eq_true _ _).mp hdropped
  obtain ⟨zone, hmatch, hnetwork⟩ := (Option.any_eq_true _ _).mp hmatched
  simp only [Bool.and_eq_true, beq_iff_eq] at hs
  obtain ⟨⟨hempty, hanswered⟩, hsome⟩ := hs
  obtain ⟨t, ht⟩ := Option.isSome_iff_exists.mp hsome
  have hrun : exampleProcess.Run s nextRefresh t := run_of_stateAfter ht
  have hquery : (requestFor addressQuery).queries.head? = some addressQuery := rfl
  obtain ⟨response, hsent⟩ : ∃ response, .sendResponse response
      ∈ t.effects reference (buildActivatingAt ⟨100⟩) ⟨crossZones, none⟩
        (.query (fun _ => true) (requestFor addressQuery) true) := by
    unfold SeederState.effects
    exact ⟨_, (DnsRequestHandler.sendResponse_mem_answerRequest hquery).mpr ⟨.inl rfl, rfl⟩⟩
  have hrefresh : nextRefresh = [.task .mainnet (.cache .readTip)]
      ++ .task .mainnet (.cache (.classify 0 .unshuffled))
        :: ([] ++ .task .mainnet (.cache .publish) :: []) := rfl
  refine ⟨s, t, response, hrun, hanswered, hsent, fun record hrecord => ?_⟩
  cases hip : record.data.ip with
  | none => rfl
  | some ip =>
      obtain ⟨book, hbook, peer, hpeer, -⟩ := answers_fresh reference (buildActivatingAt ⟨100⟩)
        ⟨some ["cache"]⟩ crossConfig ⟨crossZones, none⟩ crossZones_started .mainnet hrefresh hrun
        hsent hquery hmatch (of_decide_eq_true hnetwork) hrecord hip
      -- the only book of the run is empty
      unfold mainnetBookEmpty at hempty
      split at hempty
      · next tasks htasks =>
          have hlive : booksSince .mainnet s nextRefresh = [tasks.cache.book] := by
            unfold booksSince
            rw [htasks]
            rfl
          rw [hlive, List.mem_singleton] at hbook
          rw [hbook, List.isEmpty_iff.mp hempty] at hpeer
          cases hpeer
      · cases hempty

end Example

end Zeeder.Serving
