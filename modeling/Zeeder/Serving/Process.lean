import Zeeder.Crawl.ActivationObserver
import Zeeder.Foundation.Noninterference
import Zeeder.Serving.System

/-! # The whole process

One process serves all configured networks: it starts them one after another, each from its record in
the shared cache directory, then answers queries, and may crash and be started again at any point. Per
network it runs the crawler's updates of the address book, the refresh loop and the activation
observer; an operator may attest either network from another process at any time.

Everything that comes from outside is an input (address books, probe results, the fate of reads and
writes, shuffles, requests with the limiter's verdict); inputs of the networks may come in any order,
each when the task it belongs to is ready for it. -/

namespace Zeeder.Serving

open Crawl Dns Foundation

/-! ## One network's tasks -/

/-- Where the activation observer is. -/
inductive ObserverPoint where
  /-- Waiting for the next sweep. -/
  | waiting
  /-- The sampled peers are being probed. -/
  | probing (sampledPeers : List PeerSocketAddr)
  /-- The gate confirmed; `persist_confirmation` was called. -/
  | writing
  /-- The write is over and about to be reported. -/
  | returning (result : Except IoError Unit)
  /-- `persist_confirmation` returned `Ok`. -/
  | confirming
  /-- The loop is over. -/
  | finished

/-- One network's book, tip, refresh loop, channel and observer. -/
structure NetworkTasks where
  /-- The book, the tip, the refresh loop and the channel. -/
  cache : CacheState
  /-- The observer's gate. -/
  gate : ActivationGate
  /-- The observer's control point. -/
  observer : ObserverPoint

/-- What lets the crawler or the refresh loop go on. -/
inductive CacheInput where
  /-- The crawler changes the address book. -/
  | updateBook (book : AddressBook)
  /-- The refresh loop reads the tip. -/
  | readTip
  /-- The refresh loop classifies the book. -/
  | classify (now : DateTime) (order : RefreshOrder)
  /-- The refresh loop sends the snapshot. -/
  | publish

/-- What lets the observer go on. -/
inductive ObserverInput where
  /-- It samples the book. -/
  | sample (now : DateTime) (order : SamplingOrder)
  /-- The probes of a sweep end. -/
  | probe (probe : PeerSocketAddr → Except JoinError ConnectResult)
      (completion : Shuffle (Except JoinError ConnectResult))
  /-- Its write ends. -/
  | write (outcome : WriteOutcome)
  /-- It gets the result of the write. -/
  | writeReturn
  /-- It confirms and leaves its loop. -/
  | confirm

/-- What lets one network's tasks go on. -/
inductive TaskInput where
  /-- The crawler or the refresh loop. -/
  | cache (input : CacheInput)
  /-- The observer. -/
  | observer (input : ObserverInput)

namespace NetworkTasks

/-- The tasks as `spawn_network_crawler` starts them. -/
def spawned (network : Network) (confirmed : Bool) (book : AddressBook) : NetworkTasks :=
  let tip := SeederChainTip.new (.latest network) confirmed
  { cache := ⟨book, tip, .idle, none⟩
    gate := .default
    observer := if tip.isActivationConfirmed then .finished else .waiting }

variable (network : Network) (path : Option PathBuf) (fs : FileSystem)

/-- The crawler or the refresh loop goes on; `none` where the loop is not there yet. -/
def nextCache (cache : CacheState) : CacheInput → Option CacheState
  | .updateBook book => some { cache with book := book }
  | .readTip =>
      match cache.phase with
      | .idle => some { cache with phase := .versionRead (floorOf network cache.tip) }
      | _ => none
  | .classify now order =>
      match cache.phase with
      | .versionRead minimumVersion =>
          some { cache with phase := .classified ⟨minimumVersion, cache.book, now, order⟩ }
      | _ => none
  | .publish =>
      match cache.phase with
      | .classified refresh => some { cache with phase := .idle, published := some refresh }
      | _ => none

/-- The observer goes on; `none` where it is not there yet. -/
def nextObserver (tasks : NetworkTasks) : ObserverInput → Option NetworkTasks
  | .sample now order =>
      match tasks.observer with
      | .waiting =>
          let floor :=
            network.minRemoteForHeight (some (ActivationTarget.latest network).preActivationHeight)
          some { tasks with
            observer := .probing (sampleNetworkGroups order tasks.cache.book now network floor) }
      | _ => none
  | .probe probe completion =>
      match tasks.observer with
      | .probing sampledPeers =>
          let (gate, confirmed) := tasks.gate.observe
            (observeSweep (.latest network) sampledPeers probe completion).evidence
          some { tasks with gate := gate, observer := if confirmed then .writing else .waiting }
      | _ => none
  | .write outcome =>
      match tasks.observer with
      | .writing =>
          some { tasks with
            observer := .returning (persistConfirmation fs path (.latest network) outcome).2 }
      | _ => none
  | .writeReturn =>
      match tasks.observer with
      | .returning (.ok ()) => some { tasks with observer := .confirming }
      | .returning (.error _) => some { tasks with observer := .waiting }
      | _ => none
  | .confirm =>
      match tasks.observer with
      | .confirming =>
          some { tasks with
            cache := { tasks.cache with tip := tasks.cache.tip.confirmActivation }
            observer := .finished }
      | _ => none

/-- One task goes on. -/
def next (tasks : NetworkTasks) : TaskInput → Option NetworkTasks
  | .cache input =>
      (nextCache network tasks.cache input).map fun cache => { tasks with cache := cache }
  | .observer input => tasks.nextObserver network path fs input

/-- The files after one task went on: only the observer's write touches them. -/
def filesAfter : TaskInput → FileSystem
  | .observer (.write outcome) => (persistConfirmation fs path (.latest network) outcome).1
  | _ => fs

end NetworkTasks

/-! ## The process -/

/-- How far one network has been started. -/
inductive NetworkPhase where
  /-- Not at all. -/
  | unstarted
  /-- `load_confirmation` has answered. -/
  | loaded (confirmed : Bool)
  /-- Its tasks run. -/
  | running (tasks : NetworkTasks)

/-- Whether the network's tasks run. -/
def NetworkPhase.isRunning : NetworkPhase → Bool
  | running _ => true
  | _ => false

/-- The life of the process. -/
inductive SeederPhase where
  /-- No process. -/
  | down
  /-- Starting its networks. -/
  | starting
  /-- The DNS server runs. -/
  | serving
  deriving DecidableEq

/-- The files and the process. -/
structure SeederState where
  /-- The files. -/
  fs : FileSystem
  /-- The life of the process. -/
  phase : SeederPhase
  /-- Its networks. -/
  networks : ZcashNetwork → NetworkPhase

/-- What happens to the process. -/
inductive SeederInput where
  /-- A process starts. -/
  | start
  /-- `load_confirmation` of one network; the read may fail. -/
  | load (network : ZcashNetwork) (fault : Option IoError)
  /-- The tip of a network is created and its tasks are spawned, with the book that was restored. -/
  | spawn (network : ZcashNetwork) (book : AddressBook)
  /-- All networks are started; the DNS server starts. -/
  | serve
  /-- One network's tasks go on. -/
  | task (network : ZcashNetwork) (input : TaskInput)
  /-- A request is answered. -/
  | query (verdict : IpAddr → Bool) (request : Request) (sendSucceeds : Bool)
  /-- An operator attests one network, from another process. -/
  | attest (network : ZcashNetwork) (cacheDir : CacheDir)
      (activationHeight confirmationHeight minimumVersion : UInt32) (outcome : WriteOutcome)
  /-- The process dies. -/
  | crash

section Process

variable (hickory : HickoryProto) (compiled : ZcashNetwork → Network) (cacheDir : CacheDir)
  (handler : DnsRequestHandler)

/-- What a network's channel holds. -/
def publishedPeers (network : ZcashNetwork) : NetworkPhase → ServablePeers
  | .running tasks =>
      match tasks.cache.published with
      | none => .default
      | some refresh => (spawnedUpdater compiled network).snapshot refresh
  | _ => .default

/-- Where an input leads. -/
def SeederState.next (s : SeederState) : SeederInput → Option SeederState
  | .start =>
      if s.phase = .down then some { s with phase := .starting } else none
  | .load network fault =>
      match s.networks network with
      | .unstarted =>
          let toStart := (handler.zones.map (·.network)).find? fun n => !(s.networks n).isRunning
          -- networks are started one after another, in the order of their zones
          if s.phase = .starting ∧ toStart = some network then
            let path := confirmationPath cacheDir (compiled network)
            let confirmed := loadConfirmation s.fs path (.latest (compiled network)) fault
            some { s with networks := Function.update s.networks network (.loaded confirmed) }
          else none
      | _ => none
  | .spawn network book =>
      match s.networks network with
      | .loaded confirmed =>
          let tasks := NetworkTasks.spawned (compiled network) confirmed book
          some { s with networks := Function.update s.networks network (.running tasks) }
      | _ => none
  | .serve =>
      if s.phase = .starting ∧ ∀ zone ∈ handler.zones, (s.networks zone.network).isRunning then
        some { s with phase := .serving }
      else none
  | .task network input =>
      match s.networks network with
      | .running tasks =>
          let path := confirmationPath cacheDir (compiled network)
          (tasks.next (compiled network) path s.fs input).map fun tasks =>
            { s with
              fs := NetworkTasks.filesAfter (compiled network) path s.fs input
              networks := Function.update s.networks network (.running tasks) }
      | _ => none
  | .query _ _ _ => if s.phase = .serving then some s else none
  | .attest network dir activationHeight confirmationHeight minimumVersion outcome =>
      some { s with fs := (attestConfirmation s.fs dir (compiled network) activationHeight
        confirmationHeight minimumVersion outcome).1 }
  | .crash => some { s with phase := .down, networks := fun _ => .unstarted }

/-- What an input does outside: the effects of a request. -/
def SeederState.effects (s : SeederState) : SeederInput → List RequestEffect
  | .query verdict request sendSucceeds =>
      handler.answerRequest hickory
        (fun receiver => publishedPeers compiled receiver.updater (s.networks receiver.updater))
        verdict request sendSucceeds
  | _ => []

/-- The process as a machine. -/
def seederMachine : Machine SeederState SeederInput (List RequestEffect) where
  next s := s.next compiled cacheDir handler
  output s := s.effects hickory compiled handler

end Process

end Zeeder.Serving
