import Zeeder.Dns.RequestHandler
import Zeeder.Dns.Reference
import Zeeder.Foundation.KeyedDecisions

/-! # Rate limiting over request sequences

One limiter serves every zone. It is asked once per request, about the source address and before
anything else, so that who is answered depends on source addresses and arrival times only. The
dependency's limiter is a parameter: its verdict on a key is a function of the quota, of the instants
of that key's earlier checks and of the instant of this one; pruning its stale entries changes nothing
about that.

* **`handledOnce_answerRequest`** — what one request does, admitted or denied.
* **`answered_serve`** — how many responses each request of a sequence gets: one if the limiter's rule
  admits it, else none.
* **`rateLimiting_blind`** — the same clients at the same instants get the same answers, whatever they
  ask, and one client's requests do not change what another's get. -/

namespace Zeeder.Dns

open Crawl Foundation Metrics

/-! ## One request -/

/-- The clients that the limiter is asked about. -/
def checkedClients (effects : List RequestEffect) : List IpAddr :=
  effects.filterMap fun
    | .checkLimiter clientIp _ => some clientIp
    | _ => none

/-- Whether an effect hands a response to the response handler. -/
def RequestEffect.isResponse : RequestEffect → Bool
  | .sendResponse _ => true
  | _ => false

/-- How many responses are handed to the response handler. -/
def responsesSent (effects : List RequestEffect) : ℕ := effects.countP RequestEffect.isResponse

@[simp] theorem checkedClients_append (before after : List RequestEffect) :
    checkedClients (before ++ after) = checkedClients before ++ checkedClients after :=
  List.filterMap_append

@[simp] theorem responsesSent_append (before after : List RequestEffect) :
    responsesSent (before ++ after) = responsesSent before + responsesSent after :=
  List.countP_append

/-- Where no client is checked, none is admitted or denied. -/
theorem checkLimiter_not_mem {effects : List RequestEffect} (h : checkedClients effects = [])
    (clientIp : IpAddr) (admitted : Bool) : .checkLimiter clientIp admitted ∉ effects := by
  intro hmem
  have hclient : clientIp ∈ checkedClients effects := List.mem_filterMap.mpr ⟨_, hmem, rfl⟩
  rw [h] at hclient
  cases hclient

/-- **What a request does, limited or not.** -/
structure HandledOnce (limited : Bool) (request : Request) (effects : List RequestEffect) : Prop where
  /-- A limiter is asked exactly once, about the source address. -/
  checks : checkedClients effects = if limited then [request.src.ip] else []
  /-- It is asked before anything else happens. -/
  first : limited = true → ∃ admitted rest, effects = .checkLimiter request.src.ip admitted :: rest
  /-- A denied request sends nothing, reads no zone and increments no query counter. -/
  denied : .checkLimiter request.src.ip false ∈ effects →
    responsesSent effects = 0 ∧ (∀ receiver, .readFeed receiver ∉ effects) ∧
      ∀ labels, .increment dnsQueriesTotal labels ∉ effects
  /-- Any other request sends exactly one response. -/
  admitted : .checkLimiter request.src.ip false ∉ effects → responsesSent effects = 1

namespace DnsRequestHandler

variable (hickory : HickoryProto) (handler : DnsRequestHandler) (feeds : Receiver → ServablePeers)

/-- Computing an answer asks no limiter and sends nothing. -/
theorem answerQuery_quiet (query : Query) :
    checkedClients (handler.answerQuery hickory feeds query).2.2 = [] ∧
      responsesSent (handler.answerQuery hickory feeds query).2.2 = 0 := by
  unfold answerQuery
  cases handler.matchingZone hickory query.name with
  | none => exact ⟨rfl, rfl⟩
  | some zone =>
      dsimp only
      cases zone.resolveAnswer hickory query.name query.queryType (feeds zone.servablePeers) <;>
        exact ⟨rfl, rfl⟩

/-- Past the limiter a request asks no limiter and sends one response, which may fail. -/
theorem respond_sendsOnce (request : Request) (sendSucceeds : Bool) :
    checkedClients (handler.respond hickory feeds request sendSucceeds) = [] ∧
      responsesSent (handler.respond hickory feeds request sendSucceeds) = 1 := by
  unfold respond
  cases request.queries.head? with
  | none => cases sendSucceeds <;> exact ⟨rfl, rfl⟩
  | some query =>
      obtain ⟨hchecks, hsent⟩ := handler.answerQuery_quiet hickory feeds query
      dsimp only
      -- the query counter, the quiet computation, the response
      rw [← List.singleton_append, List.append_assoc]
      constructor
      · rw [checkedClients_append, checkedClients_append, hchecks]
        cases sendSucceeds <;> rfl
      · rw [responsesSent_append, responsesSent_append, hsent]
        cases sendSucceeds <;> rfl

/-- **One request, admitted or denied.** -/
theorem handledOnce_answerRequest (verdict : IpAddr → Bool) (request : Request)
    (sendSucceeds : Bool) :
    HandledOnce handler.rateLimiter.isSome request
      (handler.answerRequest hickory feeds verdict request sendSucceeds) := by
  obtain ⟨hchecks, hsent⟩ := handler.respond_sendsOnce hickory feeds request sendSucceeds
  unfold answerRequest
  cases hlimiter : handler.rateLimiter with
  | none =>
      dsimp only
      exact
        { checks := hchecks
          first := fun h => absurd h (by simp)
          denied := fun h => absurd h (checkLimiter_not_mem hchecks _ _)
          admitted := fun _ => hsent }
  | some limiter =>
      dsimp only
      cases hverdict : verdict request.src.ip with
      | true =>
          exact
            { checks := by
                rw [if_pos rfl, Option.isSome_some, if_pos rfl]
                exact congrArg (request.src.ip :: ·) hchecks
              first := fun _ => ⟨true, _, rfl⟩
              denied := fun h =>
                -- the one verdict admits, and answering gives no other
                absurd ((List.mem_cons.mp h).resolve_left (by simp))
                  (checkLimiter_not_mem hchecks _ _)
              admitted := fun _ => hsent }
      | false =>
          exact
            { checks := rfl
              first := fun _ => ⟨false, _, rfl⟩
              denied := fun _ => ⟨rfl, by simp, by simp [dnsQueriesTotal, dnsRateLimitedTotal]⟩
              admitted := fun h => absurd (List.mem_cons_self) h }

/-- How many responses one request gets. -/
theorem responsesSent_answerRequest (verdict : IpAddr → Bool) (request : Request)
    (sendSucceeds : Bool) :
    responsesSent (handler.answerRequest hickory feeds verdict request sendSucceeds)
      = if handler.rateLimiter.all fun _ => verdict request.src.ip then 1 else 0 := by
  have hsent := (handler.respond_sendsOnce hickory feeds request sendSucceeds).2
  unfold answerRequest
  cases handler.rateLimiter with
  | none => exact hsent
  | some limiter =>
      cases hverdict : verdict request.src.ip with
      | true =>
          rw [responsesSent] at hsent
          simp [hverdict, responsesSent, RequestEffect.isResponse, hsent]
      | false => simp [hverdict, responsesSent, RequestEffect.isResponse]

end DnsRequestHandler

/-! ## Sequences of requests -/

/-- The dependency's keyed limiter: its verdict under a quota, from the instants of the key's earlier
checks and the instant of this one. -/
abbrev Governor (Instant : Type*) := RateLimiter → List Instant → Instant → Bool

/-- One received request. -/
structure Arrival (Instant : Type*) where
  /-- The request. -/
  request : Request
  /-- When it arrives. -/
  arrivedAt : Instant
  /-- Whether sending its response succeeds. -/
  sendSucceeds : Bool

/-- What happens at the handler, in order. -/
inductive HandlerEvent (Instant : Type*) where
  /-- A cache updater publishes a snapshot. -/
  | refresh (receiver : Receiver) (snapshot : ServablePeers)
  /-- A request arrives. -/
  | arrive (arrival : Arrival Instant)

/-- What the handler shares between requests. -/
structure HandlerState (Instant : Type*) where
  /-- What each receiver reads. -/
  feeds : Receiver → ServablePeers
  /-- The limiter's earlier checks, oldest first. -/
  checks : List (IpAddr × Instant)

/-- Before the first request. -/
def HandlerState.start {Instant : Type*} (feeds : Receiver → ServablePeers) :
    HandlerState Instant := ⟨feeds, []⟩

/-- Who sent the requests of a sequence, and when. -/
def clients {Instant : Type*} (events : List (HandlerEvent Instant)) : List (IpAddr × Instant) :=
  events.filterMap fun
    | .refresh _ _ => none
    | .arrive arrival => some (arrival.request.src.ip, arrival.arrivedAt)

namespace DnsRequestHandler

section Sequences

variable {Instant : Type*} (hickory : HickoryProto) (governor : Governor Instant)
  (handler : DnsRequestHandler)

/-- Whether a client is within its budget now. -/
def check (checks : List (IpAddr × Instant)) (now : Instant) (key : IpAddr) : Bool :=
  handler.rateLimiter.all fun limiter => governor limiter (ownInstants checks key) now

/-- The requests of a sequence with what each does. The limiter remembers every check. -/
def serve (state : HandlerState Instant) :
    List (HandlerEvent Instant) → List (Arrival Instant × List RequestEffect)
  | [] => []
  | .refresh receiver snapshot :: events =>
      serve { state with feeds := Function.update state.feeds receiver snapshot } events
  | .arrive arrival :: events =>
      let effects := handler.answerRequest hickory state.feeds
        (handler.check governor state.checks arrival.arrivedAt) arrival.request arrival.sendSucceeds
      let checks := (checkedClients effects).map fun clientIp => (clientIp, arrival.arrivedAt)
      (arrival, effects) :: serve { state with checks := state.checks ++ checks } events

/-- Who sent each request and when, with the number of responses it got. -/
def answered (state : HandlerState Instant) (events : List (HandlerEvent Instant)) :
    List ((IpAddr × Instant) × ℕ) :=
  (handler.serve hickory governor state events).map fun entry =>
    ((entry.1.request.src.ip, entry.1.arrivedAt), responsesSent entry.2)

/-- Every request of a sequence is handled once. -/
theorem handledOnce_serve (state : HandlerState Instant) (events : List (HandlerEvent Instant)) :
    ∀ entry ∈ handler.serve hickory governor state events,
      HandledOnce handler.rateLimiter.isSome entry.1.request entry.2 := by
  induction events generalizing state with
  | nil => exact fun _ h => absurd h List.not_mem_nil
  | cons event events ih =>
      cases event with
      | refresh receiver snapshot => exact ih _
      | arrive arrival =>
          intro entry h
          rcases List.mem_cons.mp h with rfl | h
          · exact handler.handledOnce_answerRequest hickory _ _ _ _
          · exact ih _ entry h

/-- **Who is answered, with a limiter**: the rule decides, from each client's own checks. Induction
on the events; refreshes do not reach the limiter. -/
theorem answered_of_limiter {limiter : RateLimiter} (hlimiter : handler.rateLimiter = some limiter)
    (state : HandlerState Instant) (events : List (HandlerEvent Instant)) :
    handler.answered hickory governor state events
      = (decided (governor limiter) state.checks (clients events)).map
          fun d => (d.1, if d.2 then 1 else 0) := by
  induction events generalizing state with
  | nil => rfl
  | cons event events ih =>
      cases event with
      | refresh receiver snapshot => exact ih _
      | arrive arrival =>
          have hchecks := (handler.handledOnce_answerRequest hickory state.feeds
            (handler.check governor state.checks arrival.arrivedAt) arrival.request
            arrival.sendSucceeds).checks
          rw [hlimiter, Option.isSome_some, if_pos rfl] at hchecks
          rw [answered, serve, hchecks, List.map_cons, ← answered, ih]
          show _ = List.map _ (decided _ _
            ((arrival.request.src.ip, arrival.arrivedAt) :: clients events))
          rw [decided, List.map_cons]
          dsimp only
          rw [responsesSent_answerRequest, check, hlimiter]
          rfl

/-- Who is answered without a limiter: everyone, once. -/
theorem answered_of_no_limiter (hlimiter : handler.rateLimiter = none)
    (state : HandlerState Instant) (events : List (HandlerEvent Instant)) :
    handler.answered hickory governor state events
      = (clients events).map fun client => (client, 1) := by
  induction events generalizing state with
  | nil => rfl
  | cons event events ih =>
      cases event with
      | refresh receiver snapshot => exact ih _
      | arrive arrival =>
          rw [answered, serve, List.map_cons, ← answered, ih]
          dsimp only
          rw [responsesSent_answerRequest, hlimiter]
          rfl

end Sequences

section Pairs

variable {Instant : Type*} {hickory : HickoryProto} {governor : Governor Instant}
  {handler₁ handler₂ : DnsRequestHandler} {state₁ state₂ : HandlerState Instant}
  {events₁ events₂ : List (HandlerEvent Instant)}

/-- **Two sequences, seen by some clients.** If these clients' checks and requests agree, so do their
answers, whatever the requests ask, the feeds hold and the other clients do. -/
theorem filter_answered_congr (hlimiter : handler₁.rateLimiter = handler₂.rateLimiter)
    (keep : IpAddr → Bool)
    (hchecks : state₁.checks.filter (fun client => keep client.1)
      = state₂.checks.filter fun client => keep client.1)
    (hclients : (clients events₁).filter (fun client => keep client.1)
      = (clients events₂).filter fun client => keep client.1) :
    (handler₁.answered hickory governor state₁ events₁).filter (fun a => keep a.1.1)
      = (handler₂.answered hickory governor state₂ events₂).filter fun a => keep a.1.1 := by
  cases hfirst : handler₁.rateLimiter with
  | none =>
      have hsecond := hlimiter.symm.trans hfirst
      rw [handler₁.answered_of_no_limiter hickory governor hfirst,
        handler₂.answered_of_no_limiter hickory governor hsecond, List.filter_map,
        List.filter_map]
      exact congrArg (List.map fun client => (client, 1)) hclients
  | some limiter =>
      have hsecond := hlimiter.symm.trans hfirst
      have hdecided := filter_decided (governor limiter) keep state₁.checks (clients events₁)
      rw [hchecks, hclients, ← filter_decided] at hdecided
      rw [handler₁.answered_of_limiter hickory governor hfirst,
        handler₂.answered_of_limiter hickory governor hsecond, List.filter_map, List.filter_map]
      exact congrArg (List.map fun d => (d.1, if d.2 = true then 1 else 0)) hdecided

end Pairs

/-- **Rate limiting is blind to content and isolated per client.** For any limiter of the dependency
and any sequences of requests and refreshes: every request is handled once (checked first, denied in
silence or answered by one response); sequences of the same clients at the same instants get the same
answers from handlers with the same limiter, whatever their zones, feeds and requests; one client's
requests do not matter to the others; without a limiter every request is answered once. -/
theorem rateLimiting_blind {Instant : Type*} (hickory : HickoryProto) (governor : Governor Instant) :
    (∀ (handler : DnsRequestHandler) (feeds : Receiver → ServablePeers)
      (events : List (HandlerEvent Instant)),
      ∀ entry ∈ handler.serve hickory governor (.start feeds) events,
        HandledOnce handler.rateLimiter.isSome entry.1.request entry.2) ∧
    (∀ (handler₁ handler₂ : DnsRequestHandler) (feeds₁ feeds₂ : Receiver → ServablePeers)
      (events₁ events₂ : List (HandlerEvent Instant)),
      handler₁.rateLimiter = handler₂.rateLimiter → clients events₁ = clients events₂ →
        handler₁.answered hickory governor (.start feeds₁) events₁
          = handler₂.answered hickory governor (.start feeds₂) events₂) ∧
    (∀ (handler₁ handler₂ : DnsRequestHandler) (feeds₁ feeds₂ : Receiver → ServablePeers)
      (events₁ events₂ : List (HandlerEvent Instant)) (clientIp : IpAddr),
      handler₁.rateLimiter = handler₂.rateLimiter →
      (clients events₁).filter (fun client => client.1 != clientIp)
        = (clients events₂).filter (fun client => client.1 != clientIp) →
      (handler₁.answered hickory governor (.start feeds₁) events₁).filter
          (fun a => a.1.1 != clientIp)
        = (handler₂.answered hickory governor (.start feeds₂) events₂).filter
          fun a => a.1.1 != clientIp) ∧
    (∀ (handler : DnsRequestHandler) (feeds : Receiver → ServablePeers)
      (events : List (HandlerEvent Instant)), handler.rateLimiter = none →
      handler.answered hickory governor (.start feeds) events
        = (clients events).map fun client => (client, 1)) := by
  refine ⟨fun handler feeds events => handler.handledOnce_serve hickory governor _ events, ?_, ?_,
    fun handler feeds events hnone => handler.answered_of_no_limiter hickory governor hnone _ events⟩
  · intro handler₁ handler₂ feeds₁ feeds₂ events₁ events₂ hlimiter hclients
    have hall : (handler₁.answered hickory governor (.start feeds₁) events₁).filter (fun _ => true)
        = (handler₂.answered hickory governor (.start feeds₂) events₂).filter fun _ => true :=
      filter_answered_congr hlimiter (fun _ => true) rfl (congrArg _ hclients)
    rwa [List.filter_true, List.filter_true] at hall
  · intro handler₁ handler₂ feeds₁ feeds₂ events₁ events₂ clientIp hlimiter hclients
    exact filter_answered_congr hlimiter (fun client => client != clientIp) rfl hclients

/-! ## Two clients -/

section Example

/-- A limiter that admits a key's first check and then one check in every ten units of time. -/
def everyTen : Governor ℕ := fun _ checks now => checks.all fun earlier => earlier + 10 ≤ now

/-- A request from `1.0.0.<host>` with the given queries. -/
def arrivalFrom (host : UInt8) (arrivedAt : ℕ) (queries : List Query) : HandlerEvent ℕ :=
  .arrive ⟨⟨⟨.v4 ⟨1, 0, 0, host⟩, 5353⟩, ⟨7, false, .noError⟩, queries⟩, arrivedAt, true⟩

/-- `m`. -/
def shortMainDomain : Name := ⟨[[109]], true, by decide, by decide⟩

/-- `t`. -/
def shortTestDomain : Name := ⟨[[116]], true, by decide, by decide⟩

/-- `x.t`. -/
def belowShortTestDomain : Name := ⟨[[120], [116]], true, by decide, by decide⟩

/-- A zone whose only nameserver is its domain. -/
def selfServedZone (network : ZcashNetwork) (domain : Name) : SeedZone where
  network := network
  domain := .ofName domain
  records := zoneRecordsOf domain domain domain [domain] 600
  ttl := 600
  servablePeers := ⟨network⟩

/-- A handler of the given zones that admits each client once in ten units of time. -/
def limitedHandler (zones : List SeedZone) : DnsRequestHandler :=
  ⟨zones, some ⟨⟨1, by decide⟩, ⟨1, by decide⟩⟩⟩

/-- Both clients ask for the mainnet zone: its peers, its nameservers, its peers again, its SOA. -/
def mainnetQuestions : List (HandlerEvent ℕ) :=
  [arrivalFrom 1 0 [⟨shortMainDomain, .a⟩], arrivalFrom 2 1 [⟨shortMainDomain, .ns⟩],
    arrivalFrom 1 2 [⟨shortMainDomain, .aaaa⟩], arrivalFrom 1 12 [⟨shortMainDomain, .soa⟩]]

/-- The same clients at the same instants ask for names at, below and outside the testnet zone, and
nothing; a refresh comes in between. -/
def testnetQuestions : List (HandlerEvent ℕ) :=
  [arrivalFrom 1 0 [⟨belowShortTestDomain, .soa⟩], .refresh ⟨.testnet⟩ ⟨[⟨.v4 ⟨1, 2, 3, 4⟩, 18233⟩], []⟩,
    arrivalFrom 2 1 [⟨shortMainDomain, .other 255⟩], arrivalFrom 1 2 [],
    arrivalFrom 1 12 [⟨shortTestDomain, .a⟩, ⟨shortTestDomain, .ns⟩]]

/-- Client 1 is denied its second request and admitted later; client 2 is answered whether client 1
asks or not; without the limiter everyone is. What is asked, of which zone, does not matter. -/
theorem rateLimiting_blind_example :
    (limitedHandler [selfServedZone .mainnet shortMainDomain]).answered Reference.reference everyTen
        (.start fun _ => .default) mainnetQuestions
      = (limitedHandler [selfServedZone .testnet shortTestDomain]).answered Reference.reference
        everyTen (.start fun _ => ⟨[], []⟩) testnetQuestions ∧
    (limitedHandler [selfServedZone .testnet shortTestDomain]).answered Reference.reference everyTen
        (.start fun _ => ⟨[], []⟩) testnetQuestions
      = [((.v4 ⟨1, 0, 0, 1⟩, 0), 1), ((.v4 ⟨1, 0, 0, 2⟩, 1), 1), ((.v4 ⟨1, 0, 0, 1⟩, 2), 0),
        ((.v4 ⟨1, 0, 0, 1⟩, 12), 1)] ∧
    ((limitedHandler [selfServedZone .mainnet shortMainDomain]).answered Reference.reference everyTen
        (.start fun _ => .default) mainnetQuestions).filter (fun a => a.1.1 != .v4 ⟨1, 0, 0, 1⟩)
      = ((limitedHandler [selfServedZone .testnet shortTestDomain]).answered Reference.reference
        everyTen (.start fun _ => .default)
        [arrivalFrom 2 1 [⟨belowShortTestDomain, .a⟩]]).filter
          (fun a => a.1.1 != .v4 ⟨1, 0, 0, 1⟩) ∧
    DnsRequestHandler.answered Reference.reference everyTen
        ⟨[selfServedZone .mainnet shortMainDomain], none⟩ (.start fun _ => .default) mainnetQuestions
      = [((.v4 ⟨1, 0, 0, 1⟩, 0), 1), ((.v4 ⟨1, 0, 0, 2⟩, 1), 1), ((.v4 ⟨1, 0, 0, 1⟩, 2), 1),
        ((.v4 ⟨1, 0, 0, 1⟩, 12), 1)] :=
  have h := rateLimiting_blind Reference.reference everyTen
  ⟨h.2.1 _ _ _ _ _ _ rfl rfl, by decide +kernel, h.2.2.1 _ _ _ _ _ _ _ rfl rfl,
    h.2.2.2 ⟨[selfServedZone .mainnet shortMainDomain], none⟩ _ _ rfl⟩

end Example

end DnsRequestHandler

end Zeeder.Dns
